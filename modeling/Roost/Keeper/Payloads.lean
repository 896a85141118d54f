-- SUMMARY: The keeper's binary payloads.
import Roost.Keeper.History

/-!
# Sequenced payloads

Every sequenced request and every answer to one opens with an eight-byte
sequence, so a client can match the answer to the request that provoked it.
-/

namespace Roost.Keeper

/-- A single `PtyInRequest` payload. -/
def keeperMaxInputBytes : Nat := 64 * 1024

/-! ## Input -/

/-- Why a write did not complete. -/
inductive PtyInRejectReason where
  | noSuchChannel
  | noReader
  | queueFull
  | childExited
  | partialWrite
  deriving DecidableEq

def PtyInRejectReason.code : PtyInRejectReason → UInt8
  | noSuchChannel => 1
  | noReader => 2
  | queueFull => 3
  | childExited => 4
  | partialWrite => 5

/-- Sequenced input, so a write that is lost is distinguishable from one that never
happened. -/
structure PtyInRequest where
  inputSeq : Nat
  bytes : List UInt8

/-- Decode `[input_seq:u64][bytes]`, rejecting an oversized payload. -/
def PtyInRequest.decode (payload : List UInt8) (name : String) : Except CodecError PtyInRequest :=
  match readSequence payload 0 with
  | none => .error (.truncatedPayload name 0)
  | some inputSeq =>
    let bytes := payload.drop 8
    if bytes.length > keeperMaxInputBytes then .error (.inputTooLarge name (bytes.length % 2 ^ 32))
    else .ok { inputSeq, bytes }

/-- The outcome of a sequenced write. -/
inductive PtyInResult where
  | ack (inputSeq written : Nat)
  | reject (inputSeq : Nat) (reason : PtyInRejectReason)
  | ambiguous (inputSeq written : Nat) (reason : PtyInRejectReason)

def PtyInResult.inputSeq : PtyInResult → Nat
  | ack inputSeq _ => inputSeq
  | reject inputSeq _ => inputSeq
  | ambiguous inputSeq _ _ => inputSeq

/-- Encode as `[input_seq:u64][written:u32][reason:u8]`; an `ack` carries a reason of
zero, which is no reject reason. -/
def PtyInResult.encode : PtyInResult → List UInt8
  | ack inputSeq written => beBytes 8 inputSeq ++ beBytes 4 written ++ [0]
  | reject inputSeq reason => beBytes 8 inputSeq ++ beBytes 4 0 ++ [reason.code]
  | ambiguous inputSeq written reason =>
    beBytes 8 inputSeq ++ beBytes 4 written ++ [reason.code]

def resultFrame (tag : MuxFrameType) (channelId : UInt16) (result : PtyInResult) :
    Except CodecError MuxFrame :=
  MuxFrame.new tag channelId result.encode

/-! ## Geometry -/

/-- A sequenced geometry change. -/
structure ResizeRequest where
  seq : Nat
  cols : UInt16
  rows : UInt16
  deriving DecidableEq

def ResizeRequest.encode (request : ResizeRequest) : Except CodecError (List UInt8) := do
  let cols ← checkDimension request.cols.toNat
  let rows ← checkDimension request.rows.toNat
  .ok (beBytes 8 request.seq ++ beBytes 4 cols ++ beBytes 4 rows)

def ResizeRequest.decode (payload : List UInt8) (name : String) : Except CodecError ResizeRequest :=
  match readSequence payload 0 with
  | none => .error (.truncatedPayload name 0)
  | some seq =>
    match readU32 payload 8 with
    | none => .error (.truncatedPayload name 8)
    | some cols =>
      match readU32 payload 12 with
      | none => .error (.truncatedPayload name 12)
      | some rows => do
        let cols ← checkDimension cols
        let rows ← checkDimension rows
        .ok { seq, cols := UInt16.ofNat cols, rows := UInt16.ofNat rows }

/-- The geometry the keeper actually applied. -/
structure TerminalState where
  appliedSeq : Nat
  cols : UInt16
  rows : UInt16

/-- The acknowledgement of what a channel has applied. -/
def TerminalState.ack (state : TerminalState) : ResizeRequest where
  seq := state.appliedSeq
  cols := state.cols
  rows := state.rows

/-- The same shape as a `ResizeAck`, so one decoder serves both. -/
def TerminalState.encode (state : TerminalState) : Except CodecError (List UInt8) :=
  state.ack.encode

/-- Why the keeper refused a geometry change. -/
inductive ResizeRejectReason where
  | channelMissing
  | channelExited
  | terminalMissing
  /-- The terminal refused the ioctl. -/
  | resizeError
  | staleSequence
  | unknownSequence
  | invalidRequest
  | unsupported
  | disconnected

def ResizeRejectReason.code : ResizeRejectReason → UInt8
  | channelMissing => 1
  | channelExited => 2
  | terminalMissing => 3
  | resizeError => 4
  | staleSequence => 5
  | unknownSequence => 6
  | invalidRequest => 7
  | unsupported => 8
  | disconnected => 9

def resizeReject (channelId : UInt16) (seq : Nat) (reason : UInt8) : Except CodecError MuxFrame :=
  MuxFrame.new .resizeReject channelId (beBytes 8 seq ++ [reason])

/-! ## What the payloads say -/

def MuxFrame.answerSeq (frame : MuxFrame) : Option Nat := readSequence frame.payload 0

variable {payload : List UInt8}

theorem readSequence_lt {offset seq : Nat}
    (h : readSequence payload offset = some seq) : seq < 256 ^ 8 :=
  (readSequence_eq_some.mp h).1

theorem readSequence_append {seq : Nat} (h : seq < 256 ^ 8) (rest : List UInt8) :
    readSequence (beBytes 8 seq ++ rest) 0 = some seq :=
  readSequence_eq_some.mpr ⟨h, List.prefix_append _ _⟩

@[simp] theorem PtyInResult.encode_length (result : PtyInResult) : result.encode.length = 13 := by
  cases result <;> simp [encode]

theorem PtyInResult.readSequence_encode (result : PtyInResult) (h : result.inputSeq < 256 ^ 8) :
    readSequence result.encode 0 = some result.inputSeq := by
  cases result with
  | ack | reject | ambiguous => simpa [encode, PtyInResult.inputSeq] using readSequence_append h _

theorem resultFrame_eq (tag : MuxFrameType) (chan : UInt16) (result : PtyInResult) :
    resultFrame tag chan result = .ok ⟨tag, chan, result.encode⟩ := by
  simp [resultFrame, MuxFrame.new, keeperMaxMuxFrameBytes]

theorem resizeReject_eq (chan : UInt16) (seq : Nat) (reason : UInt8) :
    resizeReject chan seq reason = .ok ⟨.resizeReject, chan, beBytes 8 seq ++ [reason]⟩ := by
  simp [resizeReject, MuxFrame.new, keeperMaxMuxFrameBytes]

variable {request : ResizeRequest}

theorem ResizeRequest.decode_eq_ok {name : String}
    : decode payload name = .ok request ↔ readSequence payload 0 = some request.seq ∧
        ∃ cols rows, readU32 payload 8 = some cols ∧ readU32 payload 12 = some rows ∧
          checkDimension cols = .ok cols ∧ checkDimension rows = .ok rows ∧
          request = ⟨request.seq, UInt16.ofNat cols, UInt16.ofNat rows⟩ := by
  unfold decode
  cases readSequence payload 0 with
  | none => simp
  | some =>
    cases readU32 payload 8 with
    | none => simp
    | some cols =>
      cases readU32 payload 12 with
      | none => simp
      | some rows =>
        simp only [Except.bind_eq_ok, checkDimension_eq_ok, Option.some.injEq]
        constructor
        · rintro ⟨_, ⟨hcols, hcolsMax, rfl⟩, _, ⟨hrows, hrowsMax, rfl⟩, hreq⟩
          cases hreq
          exact ⟨rfl, cols, rows, rfl, rfl, ⟨hcols, hcolsMax, trivial⟩, ⟨hrows, hrowsMax, trivial⟩, rfl⟩
        · rintro ⟨rfl, _, _, rfl, rfl, ⟨hcols, hcolsMax, _⟩, ⟨hrows, hrowsMax, _⟩, hreq⟩
          refine ⟨cols, ⟨hcols, hcolsMax, rfl⟩, rows, ⟨hrows, hrowsMax, rfl⟩, ?_⟩
          rw [hreq]

theorem ResizeRequest.seq_lt {name : String}
    (h : decode payload name = .ok request) : request.seq < 256 ^ 8 :=
  readSequence_lt (decode_eq_ok.mp h).1

end Roost.Keeper
