-- SUMMARY: The keeper's wire envelope and its framing round trip.
import Roost.Base.Bytes
import Roost.Base.Except
import Roost.Base.StreamDecoder

/-!
# The keeper's wire codec

A mux frame travels as a four-byte length, a tag, a two-byte channel id and the
payload. The length covers everything after itself. `MuxFrame.new` bounds the
payload, the decoder bounds the length the prefix claims, and the two bounds
are stated over different quantities.
-/

namespace Roost.Keeper

open StreamDecoder

/-- A frame's total length, which covers every byte after the length field itself. -/
def keeperMaxMuxFrameBytes : Nat := 16 * 1024 * 1024

/-- The smallest legal frame body: a type tag and a two-byte channel id. -/
def muxFrameHeaderBytes : Nat := 3

/-- A PTY's largest row or column count. -/
def keeperMaxTerminalDimension : Nat := 0xffff

/-- Resize records retained per channel for ordered history replay. -/
def keeperMaxHistoryResizeRecords : Nat := 4096

/-! ## Frame tags -/

inductive MuxFrameType where
  | spawn | spawnAck | spawnErr | killChild | exit
  | ptyIn | ptyOut | ptyInRequest | ptyInAck | ptyInReject | ptyInAmbiguous
  | resize | resizeRequest | resizeAck | resizeReject | resizeStatus
  | listChannels | listChannelsResp | hello | helloResp
  | getHistory | getHistoryResp | getHistoryRecords | getHistoryRecordsResp
  | shutdown | shutdownAck | getTerminalState | getTerminalStateResp
  | shutdownIfEmpty | shutdownIfEmptyAck | shutdownIfEmptyReject
  | ping | pong
  deriving DecidableEq

open MuxFrameType

/-- The wire value. -/
def MuxFrameType.tag : MuxFrameType → UInt8
  | spawn => 0x10
  | spawnAck => 0x11
  | spawnErr => 0x12
  | killChild => 0x31
  | exit => 0x32
  | ptyIn => 0x20
  | ptyOut => 0x21
  | ptyInRequest => 0x22
  | ptyInAck => 0x23
  | ptyInReject => 0x24
  | ptyInAmbiguous => 0x25
  | resize => 0x30
  | resizeRequest => 0x33
  | resizeAck => 0x34
  | resizeReject => 0x35
  | resizeStatus => 0x36
  | listChannels => 0xE0
  | listChannelsResp => 0xE1
  | hello => 0xE2
  | helloResp => 0xE3
  | getHistory => 0xE4
  | getHistoryResp => 0xE5
  | getHistoryRecords => 0xE6
  | getHistoryRecordsResp => 0xE7
  | shutdown => 0xE8
  | shutdownAck => 0xE9
  | getTerminalState => 0xEA
  | getTerminalStateResp => 0xEB
  | shutdownIfEmpty => 0xEC
  | shutdownIfEmptyAck => 0xED
  | shutdownIfEmptyReject => 0xEE
  | ping => 0xF0
  | pong => 0xF1

/-- Recover a tag from the wire; an unknown one is the caller's to skip. -/
def MuxFrameType.fromTag (tag : UInt8) : Option MuxFrameType :=
  match tag with
  | 0x10 => some spawn
  | 0x11 => some spawnAck
  | 0x12 => some spawnErr
  | 0x20 => some ptyIn
  | 0x21 => some ptyOut
  | 0x22 => some ptyInRequest
  | 0x23 => some ptyInAck
  | 0x24 => some ptyInReject
  | 0x25 => some ptyInAmbiguous
  | 0x30 => some resize
  | 0x31 => some killChild
  | 0x32 => some exit
  | 0x33 => some resizeRequest
  | 0x34 => some resizeAck
  | 0x35 => some resizeReject
  | 0x36 => some resizeStatus
  | 0xE0 => some listChannels
  | 0xE1 => some listChannelsResp
  | 0xE2 => some hello
  | 0xE3 => some helloResp
  | 0xE4 => some getHistory
  | 0xE5 => some getHistoryResp
  | 0xE6 => some getHistoryRecords
  | 0xE7 => some getHistoryRecordsResp
  | 0xE8 => some shutdown
  | 0xE9 => some shutdownAck
  | 0xEA => some getTerminalState
  | 0xEB => some getTerminalStateResp
  | 0xEC => some shutdownIfEmpty
  | 0xED => some shutdownIfEmptyAck
  | 0xEE => some shutdownIfEmptyReject
  | 0xF0 => some ping
  | 0xF1 => some pong
  | _ => none

@[simp] theorem MuxFrameType.fromTag_tag (t : MuxFrameType) : fromTag t.tag = some t := by
  cases t <;> rfl

/-! ## Errors and scalars -/

/-- Why a byte stream could not be turned into frames or payloads. -/
inductive CodecError where
  | frameTooLarge (length : Nat)
  | lengthMismatch (claimed actual : Nat)
  | truncatedPayload (name : String) (offset : Nat)
  | badDimension (value : Nat)
  | inputTooLarge (name : String) (len : Nat)
  | badJson (name : String) (reason : String)
  | malformedLengthPrefix (len : Nat)
  deriving DecidableEq

/-- Read a big-endian `u64` at `offset`, or nothing if the buffer is short. -/
def readSequence (payload : List UInt8) (offset : Nat) : Option Nat :=
  readBe? 8 payload offset

/-- Read a big-endian `u32` at `offset`, or nothing if the buffer is short. -/
def readU32 (payload : List UInt8) (offset : Nat) : Option Nat :=
  readBe? 4 payload offset

/-- The rule is to reject a dimension rather than clamp it. -/
def checkDimension (value : Nat) : Except CodecError Nat :=
  if value = 0 ∨ value > keeperMaxTerminalDimension then .error (.badDimension value)
  else .ok value

theorem checkDimension_eq_ok {value dimension : Nat} : checkDimension value = .ok dimension ↔
      value ≠ 0 ∧ value ≤ keeperMaxTerminalDimension ∧ value = dimension := by
  simp [checkDimension, and_assoc]

/-! ## Frames -/

/-- One framed message. Channel 0 is the control lane. -/
structure MuxFrame where
  frameType : MuxFrameType
  channelId : UInt16
  payload : List UInt8
  deriving DecidableEq

open MuxFrame

def MuxFrame.encode (frame : MuxFrame) : List UInt8 :=
  let body := 1 + 2 + frame.payload.length
  beBytes 4 body ++ (frame.frameType.tag :: (beBytes 2 frame.channelId.toNat ++ frame.payload))

def MuxFrame.new (frameType : MuxFrameType) (channelId : UInt16) (payload : List UInt8) :
    Except CodecError MuxFrame :=
  if payload.length > keeperMaxMuxFrameBytes then
    .error (.frameTooLarge (payload.length % 2 ^ 32))
  else .ok { frameType, channelId, payload }

def MuxFrame.Accepted (frame : MuxFrame) : Prop :=
  new frame.frameType frame.channelId frame.payload = .ok frame

variable {frame : MuxFrame}

theorem MuxFrame.accepted_iff : frame.Accepted ↔ frame.payload.length ≤ keeperMaxMuxFrameBytes := by
  simp [Accepted, new]

/-- One complete frame pulled off a stream. An unknown tag keeps its raw value. -/
structure StreamFrame where
  frameType : Option MuxFrameType
  rawTag : UInt8
  channelId : UInt16
  payload : List UInt8

/-- A frame pulled off a stream, or the violation that ended it. -/
abbrev StreamEvent := Decoded CodecError StreamFrame

/-- What a decoder reports for a frame that arrived whole. -/
def MuxFrame.received (frame : MuxFrame) : StreamFrame where
  frameType := some frame.frameType
  rawTag := frame.frameType.tag
  channelId := frame.channelId
  payload := frame.payload

/-! ## The streaming decoder -/

/-- A streaming decoder: whatever does not yet form a whole frame stays buffered. -/
structure FrameDecoder where
  buffered : List UInt8

open FrameDecoder

def FrameDecoder.new : FrameDecoder where
  buffered := []

/-- Bytes held back because they do not yet form a whole frame. -/
def FrameDecoder.bufferedLen (decoder : FrameDecoder) : Nat := decoder.buffered.length

/-- One pass of the decoding loop over the buffer. The frame is indexed only
under a proof that it holds its tag and channel id. -/
def FrameDecoder.scan (buffered : List UInt8) : Scan CodecError StreamFrame :=
  match slice? buffered 0 4 with
  | none => .wait
  | some rawLength =>
    if rawLength.length ≠ 4 then .fail (.malformedLengthPrefix rawLength.length)
    else
      let claimed := fromBe rawLength
      if claimed > keeperMaxMuxFrameBytes then .fail (.frameTooLarge claimed)
      else if hshort : claimed < muxFrameHeaderBytes then
        .fail (.lengthMismatch claimed (buffered.length - 4))
      else
        let total := 4 + claimed
        if hwhole : buffered.length < total then .wait
        else
          let frame := (buffered.take total).drop 4
          have hframe : 3 ≤ frame.length := by
            simp only [frame, total, muxFrameHeaderBytes, List.length_drop, List.length_take]
              at hshort hwhole ⊢
            omega
          .item
            { frameType := fromTag frame[0]
              rawTag := frame[0]
              channelId := UInt16.ofNat (fromBe [frame[1], frame[2]])
              payload := frame.drop 3 }
            total

namespace FrameDecoder

/-! ### What one pass decides

A buffer is short of its length prefix, or it is a prefix followed by a body,
and then the claimed length alone picks the branch. -/

variable {rawLength buffered body : List UInt8}

private theorem slice?_prefix (h4 : rawLength.length = 4) :
    slice? (rawLength ++ body) 0 4 = some rawLength := by
  simp [slice?, ← h4]

theorem scan_short (h : buffered.length < 4) : scan buffered = .wait := by
  have hnone : slice? buffered 0 4 = none := by simp [slice?, h]
  simp only [scan, hnone]

theorem scan_tooLarge (body : List UInt8) (h4 : rawLength.length = 4)
    (h : fromBe rawLength > keeperMaxMuxFrameBytes) :
    scan (rawLength ++ body) = .fail (.frameTooLarge (fromBe rawLength)) := by
  simp [scan, slice?_prefix h4, h4, h]

theorem scan_tooShort (body : List UInt8) (h4 : rawLength.length = 4)
    (h : fromBe rawLength < muxFrameHeaderBytes) :
    scan (rawLength ++ body) = .fail (.lengthMismatch (fromBe rawLength) body.length) := by
  have hmax : ¬fromBe rawLength > keeperMaxMuxFrameBytes := by
    simp only [keeperMaxMuxFrameBytes, muxFrameHeaderBytes] at h ⊢
    omega
  simp [scan, slice?_prefix h4, h4, h, hmax]

theorem scan_incomplete (h4 : rawLength.length = 4)
    (hmax : fromBe rawLength ≤ keeperMaxMuxFrameBytes)
    (hmin : muxFrameHeaderBytes ≤ fromBe rawLength) (h : body.length < fromBe rawLength) :
    scan (rawLength ++ body) = .wait := by
  simp [scan, slice?_prefix h4, h4, h, Nat.not_lt.mpr hmax, Nat.not_lt.mpr hmin]

theorem scan_whole {payload : List UInt8} (tag hi lo : UInt8) (rest : List UInt8)
    (h4 : rawLength.length = 4) (hlen : fromBe rawLength = 3 + payload.length)
    (hmax : fromBe rawLength ≤ keeperMaxMuxFrameBytes) :
    scan (rawLength ++ (tag :: hi :: lo :: (payload ++ rest))) = .item
        { frameType := fromTag tag
          rawTag := tag
          channelId := UInt16.ofNat (fromBe [hi, lo])
          payload }
        (4 + fromBe rawLength) := by
  have hmin : ¬fromBe rawLength < muxFrameHeaderBytes := by
    simp only [muxFrameHeaderBytes]
    omega
  have hframe : (rawLength ++ (tag :: hi :: lo :: (payload ++ rest))).take (4 + fromBe rawLength)
      = rawLength ++ (tag :: hi :: lo :: payload) := by
    rw [← h4, List.take_length_add_append, hlen, show 3 + payload.length = payload.length + 3 by omega]
    simp
  have hdrop : (rawLength ++ (tag :: hi :: lo :: payload)).drop 4 = tag :: hi :: lo :: payload := by
    rw [← h4, List.drop_left]
  simp [scan, slice?_prefix h4, h4, Nat.not_lt.mpr hmax, hmin, hframe, hdrop]
  omega

theorem buffer_cases (buffered : List UInt8) :
    buffered.length < 4 ∨ ∃ rawLength body, rawLength.length = 4 ∧ buffered = rawLength ++ body ∧
      (fromBe rawLength > keeperMaxMuxFrameBytes ∨ fromBe rawLength < muxFrameHeaderBytes ∨
        (fromBe rawLength ≤ keeperMaxMuxFrameBytes ∧ muxFrameHeaderBytes ≤ fromBe rawLength ∧
          body.length < fromBe rawLength) ∨ (fromBe rawLength ≤ keeperMaxMuxFrameBytes ∧
          ∃ tag hi lo payload rest, body = tag :: hi :: lo :: (payload ++ rest) ∧
            fromBe rawLength = 3 + payload.length)) := by
  by_cases hshort : buffered.length < 4
  · exact .inl hshort
  refine .inr ⟨buffered.take 4, buffered.drop 4, by simp; omega, by simp, ?_⟩
  generalize fromBe (buffered.take 4) = claimed
  generalize buffered.drop 4 = body
  by_cases hmax : claimed > keeperMaxMuxFrameBytes
  · exact .inl hmax
  by_cases hmin : claimed < muxFrameHeaderBytes
  · exact .inr (.inl hmin)
  by_cases hpart : body.length < claimed
  · exact .inr (.inr (.inl ⟨by omega, by omega, hpart⟩))
  simp only [muxFrameHeaderBytes] at hmin
  refine .inr (.inr (.inr ⟨by omega, ?_⟩))
  match body, hpart with
  | tag :: hi :: lo :: tail, hpart =>
    refine ⟨tag, hi, lo, tail.take (claimed - 3), tail.drop (claimed - 3), by simp, ?_⟩
    simp only [List.length_cons, List.length_take] at hpart ⊢
    omega
  | [_, _], hpart | [_], hpart | [], hpart => simp at hpart; omega

theorem scan_eq_item {frame : StreamFrame} {used : Nat} (h : scan buffered = .item frame used) :
    ∃ rawLength tag hi lo rest, rawLength.length = 4 ∧
      buffered = rawLength ++ (tag :: hi :: lo :: (frame.payload ++ rest)) ∧
      fromBe rawLength = 3 + frame.payload.length ∧
      fromBe rawLength ≤ keeperMaxMuxFrameBytes ∧
      frame = ⟨fromTag tag, tag, UInt16.ofNat (fromBe [hi, lo]), frame.payload⟩ ∧
      used = 4 + fromBe rawLength := by
  rcases buffer_cases buffered with hs | ⟨raw, body, h4, rfl, hl | hs | ⟨hx, hm, hp⟩ |
    ⟨hx, tag, hi, lo, payload, rest, rfl, hlen⟩⟩
  · simp [scan_short hs] at h
  · simp [scan_tooLarge body h4 hl] at h
  · simp [scan_tooShort body h4 hs] at h
  · simp [scan_incomplete h4 hx hm hp] at h
  · rw [scan_whole tag hi lo rest h4 hlen hx] at h
    obtain ⟨rfl, rfl⟩ := Scan.item.inj h
    exact ⟨raw, tag, hi, lo, rest, h4, rfl, hlen, hx, rfl, rfl⟩

theorem scan_eq_fail {e : CodecError} (h : scan buffered = .fail e) :
    ∃ rawLength body, rawLength.length = 4 ∧ buffered = rawLength ++ body ∧
      (fromBe rawLength > keeperMaxMuxFrameBytes ∨ fromBe rawLength < muxFrameHeaderBytes) := by
  rcases buffer_cases buffered with hs | ⟨raw, body, h4, rfl, hl | hs | ⟨hx, hm, hp⟩ |
    ⟨hx, tag, hi, lo, payload, rest, rfl, hlen⟩⟩
  · simp [scan_short hs] at h
  · exact ⟨raw, body, h4, rfl, .inl hl⟩
  · exact ⟨raw, body, h4, rfl, .inr hs⟩
  · simp [scan_incomplete h4 hx hm hp] at h
  · simp [scan_whole tag hi lo rest h4 hlen hx] at h

/-- The decoding loop as a stream decoder: a pass that saw enough to decide
decides the same with more bytes behind it. -/
def decoder : StreamDecoder UInt8 CodecError StreamFrame where
  scan := scan
  used_pos := by
    intro buffered frame used h
    obtain ⟨raw, tag, hi, lo, rest, -, -, -, -, -, rfl⟩ := scan_eq_item h
    omega
  used_le := by
    intro buffered frame used h
    obtain ⟨raw, tag, hi, lo, rest, h4, rfl, hlen, -, -, rfl⟩ := scan_eq_item h
    simp only [List.length_append, List.length_cons]
    omega
  item_append := by
    intro buffered frame used more h
    obtain ⟨_, tag, hi, lo, rest, h4, rfl, hlen, hmax, hframe, rfl⟩ := scan_eq_item h
    rw [hframe, List.append_assoc]
    simpa using scan_whole tag hi lo (rest ++ more) h4 hlen hmax
  fail_append := by
    intro buffered e more h
    obtain ⟨_, body, h4, rfl, hlarge | hshort⟩ := scan_eq_fail h
    · exact ⟨_, by rw [List.append_assoc]; exact scan_tooLarge (body ++ more) h4 hlarge⟩
    · exact ⟨_, by rw [List.append_assoc]; exact scan_tooShort (body ++ more) h4 hshort⟩

@[simp] theorem decoder_scan (buffered : List UInt8) : decoder.scan buffered = scan buffered := rfl

/-- Feed bytes from one read and take every frame they complete. -/
def push (self : FrameDecoder) (bytes : List UInt8) : List StreamEvent × FrameDecoder :=
  let drained := decoder.drain (self.buffered ++ bytes)
  (drained.1, { buffered := drained.2 })

/-- Feed a sequence of reads and collect the events of all of them. -/
def pushAll : FrameDecoder → List (List UInt8) → List StreamEvent × FrameDecoder
  | self, [] => ([], self)
  | self, bytes :: reads =>
    let now := self.push bytes
    let later := now.2.pushAll reads
    (now.1 ++ later.1, later.2)

theorem pushAll_eq_feed (self : FrameDecoder) (reads : List (List UInt8)) : self.pushAll reads =
      ((decoder.feed self.buffered reads).1, ⟨(decoder.feed self.buffered reads).2⟩) := by
  induction reads generalizing self with
  | nil => rfl
  | cons bytes reads ih => simp only [pushAll, push, feed, ih]

end FrameDecoder

/-! ## The framing round trip -/

/-- The whole frame fits under the bound the decoder enforces. -/
def MuxFrame.Fits (frame : MuxFrame) : Prop :=
  muxFrameHeaderBytes + frame.payload.length ≤ keeperMaxMuxFrameBytes
  deriving Decidable

private theorem MuxFrame.body_lt (h : frame.Accepted) : 3 + frame.payload.length < 256 ^ 4 := by
  rw [accepted_iff, keeperMaxMuxFrameBytes] at h
  omega

theorem MuxFrame.encode_eq (frame : MuxFrame) : ∃ hi lo, fromBe [hi, lo] = frame.channelId.toNat ∧
      frame.encode = beBytes 4 (3 + frame.payload.length) ++
        (frame.frameType.tag :: hi :: lo :: frame.payload) := by
  have hval : fromBe (beBytes 2 frame.channelId.toNat) = frame.channelId.toNat :=
    fromBe_beBytes frame.channelId.toNat_lt
  match hb : beBytes 2 frame.channelId.toNat, beBytes_length 2 frame.channelId.toNat with
  | [hi, lo], _ => exact ⟨hi, lo, by rw [← hval, hb], by simp [encode, hb]⟩

theorem MuxFrame.scan_encode (h : frame.Fits) :
    scan frame.encode = .item frame.received frame.encode.length := by
  have hlt : 3 + frame.payload.length < 256 ^ 4 := by
    simp only [Fits, muxFrameHeaderBytes, keeperMaxMuxFrameBytes] at h
    omega
  obtain ⟨hi, lo, hid, henc⟩ := frame.encode_eq
  have hclaim := fromBe_beBytes hlt
  have hscan := scan_whole frame.frameType.tag hi lo [] (beBytes_length 4 _) hclaim
    (by rw [hclaim]; exact h)
  rw [List.append_nil, hclaim, hid, UInt16.ofNat_toNat, fromTag_tag] at hscan
  rw [henc, hscan, received]
  simp
  omega

theorem MuxFrame.scan_encode_tooLarge (hnew : frame.Accepted) (h : ¬frame.Fits) :
    scan frame.encode = .fail (.frameTooLarge (3 + frame.payload.length)) := by
  obtain ⟨hi, lo, -, henc⟩ := frame.encode_eq
  have hclaim := fromBe_beBytes (body_lt hnew)
  rw [henc, scan_tooLarge _ (beBytes_length 4 _), hclaim]
  rw [hclaim]
  simp only [Fits, muxFrameHeaderBytes] at h
  omega

namespace FrameDecoder

theorem scan_nil : decoder.scan [] = .wait := by
  rw [decoder_scan]
  exact scan_short (by simp)

/-- Encoded frames come back exactly when each fits. -/
theorem drain_encode_iff {frames : List MuxFrame} (hnew : ∀ f ∈ frames, f.Accepted) :
    decoder.drain (frames.map encode).flatten =
        ((frames.map received).map .item, []) ↔ ∀ f ∈ frames, f.Fits := by
  induction frames with
  | nil => simp [drain_wait scan_nil]
  | cons frame frames ih =>
    simp only [List.mem_cons, forall_eq_or_imp] at hnew ⊢
    rw [List.map_cons, List.flatten_cons]
    by_cases hfit : frame.Fits
    · have hscan : decoder.scan frame.encode = .item frame.received frame.encode.length := by
        rw [decoder_scan]
        exact frame.scan_encode hfit
      rw [drain_item_append hscan]
      simp only [hfit, true_and, ← ih hnew.2]
      simp [Prod.ext_iff]
    have hscan : decoder.scan frame.encode = .fail (.frameTooLarge (3 + frame.payload.length)) := by
      rw [decoder_scan]
      exact frame.scan_encode_tooLarge hnew.1 hfit
    simp only [hfit, false_and, iff_false]
    intro hdrain
    apply drain_fail_append hscan
    rw [hdrain]
    exact clean_map_item _

/-- Accepted frames, encoded back to back and read in any split, come out as
they went in exactly when each of them fits under the decoder's bound. -/
theorem pushAll_encode_iff (frames : List MuxFrame) {reads : List (List UInt8)}
    (hnew : ∀ f ∈ frames, f.Accepted) (hreads : reads.flatten = (frames.map encode).flatten) :
    new.pushAll reads = ((frames.map received).map .item, new) ↔
      ∀ f ∈ frames, f.Fits := by
  have hclean := clean_map_item (ε := CodecError) (frames.map received)
  rw [pushAll_eq_feed, ← drain_encode_iff hnew, ← hreads]
  simp only [new, Prod.ext_iff, mk.injEq]
  constructor
  · rintro ⟨hevents, hrest⟩
    have hfeed : StreamDecoder.Clean (decoder.drain ([] ++ reads.flatten)).1 :=
      clean_drain_of_feed scan_nil (by rw [hevents]; exact hclean)
    rw [← List.nil_append reads.flatten, ← feed_eq_drain scan_nil hfeed]
    exact ⟨hevents, hrest⟩
  · rintro ⟨hevents, hrest⟩
    rw [feed_eq_drain scan_nil (by rw [List.nil_append, hevents]; exact hclean)]
    exact ⟨hevents, hrest⟩

theorem pushAll_encode_iff_ping : new.pushAll [[0, 0], [0, 3, 0xF0], [], [0, 7]] =
        ([.item (received ⟨.ping, 7, []⟩)], new) ↔
      ∀ f ∈ [(⟨.ping, 7, []⟩ : MuxFrame)], f.Fits :=
  pushAll_encode_iff [⟨.ping, 7, []⟩] (by simp [accepted_iff]) (by decide)

theorem pushAll_tooLarge {frame : MuxFrame} (hnew : frame.Accepted) (h : ¬frame.Fits) :
    new.pushAll [frame.encode] = ([.failed (.frameTooLarge (3 + frame.payload.length))], new) := by
  have hscan := frame.scan_encode_tooLarge hnew h
  rw [pushAll_eq_feed, new, feed, List.nil_append, drain_fail hscan]
  rfl

/-- A frame whose payload is as long as asked. -/
def filled (length : Nat) : MuxFrame where
  frameType := .ptyOut
  channelId := 1
  payload := List.replicate length 0

/-- The largest payload the constructor accepts comes back as a failure. -/
theorem pushAll_largest_payload : (filled keeperMaxMuxFrameBytes).Accepted ∧
      new.pushAll [(filled keeperMaxMuxFrameBytes).encode] =
        ([.failed (.frameTooLarge (3 + keeperMaxMuxFrameBytes))], new) := by
  -- The length stays a variable, so the payload is never built.
  generalize hlen : keeperMaxMuxFrameBytes = length
  have hpayload : (filled length).payload.length = length := List.length_replicate
  have hnew : (filled length).Accepted := by
    rw [accepted_iff, hpayload, hlen]
  have hbig : ¬(filled length).Fits := by
    rw [MuxFrame.Fits, hpayload, hlen, muxFrameHeaderBytes]
    omega
  refine ⟨hnew, ?_⟩
  rw [pushAll_tooLarge hnew hbig, hpayload]

/-! ## Hostile streams -/

/-- One pass of the loop with every index and range checked when it is used;
`none` is the panic. -/
def scanIndexed (buffered : List UInt8) : Option (Scan CodecError StreamFrame) :=
  match slice? buffered 0 4 with
  | none => some .wait
  | some rawLength =>
    if rawLength.length ≠ 4 then some (.fail (.malformedLengthPrefix rawLength.length))
    else
      let claimed := fromBe rawLength
      if claimed > keeperMaxMuxFrameBytes then some (.fail (.frameTooLarge claimed))
      else if claimed < muxFrameHeaderBytes then
        some (.fail (.lengthMismatch claimed (buffered.length - 4)))
      else
        let total := 4 + claimed
        if buffered.length < total then some .wait
        else do
          let drained ← slice? buffered 0 total
          let frame := drained.drop 4
          let rawTag ← frame[0]?
          let hi ← frame[1]?
          let lo ← frame[2]?
          let payload ← slice? frame 3 frame.length
          some (.item
            { frameType := fromTag rawTag
              rawTag
              channelId := UInt16.ofNat (fromBe [hi, lo])
              payload }
            total)

theorem scanIndexed_eq (buffered : List UInt8) : scanIndexed buffered = some (scan buffered) := by
  unfold scanIndexed scan
  cases slice? buffered 0 4 with
  | none => rfl
  | some rawLength =>
    dsimp only
    split
    · rfl
    split
    · rfl
    split
    · rfl
    split
    · rfl
    rename_i hmin hwhole
    simp only [muxFrameHeaderBytes] at hmin
    have hslice : slice? buffered 0 (4 + fromBe rawLength) =
        some (buffered.take (4 + fromBe rawLength)) := by
      simp [slice?]
      omega
    have hlen : 3 ≤ ((buffered.take (4 + fromBe rawLength)).drop 4).length := by
      simp only [List.length_drop, List.length_take]
      omega
    have htail : slice? ((buffered.take (4 + fromBe rawLength)).drop 4) 3
        ((buffered.take (4 + fromBe rawLength)).drop 4).length =
          some (((buffered.take (4 + fromBe rawLength)).drop 4).drop 3) := by
      rw [slice?, if_pos ⟨hlen, le_rfl⟩, List.take_length]
    simp only [hslice, htail, Option.bind_eq_bind, Option.bind_some,
      List.getElem?_eq_getElem (Nat.lt_of_lt_of_le (by decide : 0 < 3) hlen),
      List.getElem?_eq_getElem (Nat.lt_of_lt_of_le (by decide : 1 < 3) hlen),
      List.getElem?_eq_getElem (Nat.lt_of_lt_of_le (by decide : 2 < 3) hlen)]

theorem length_of_scan_wait {buffered : List UInt8} (h : scan buffered = .wait) :
    buffered.length ≤ 4 + keeperMaxMuxFrameBytes - 1 := by
  rcases buffer_cases buffered with hs | ⟨raw, body, h4, rfl, hl | hs | ⟨hx, hm, hp⟩ |
    ⟨hx, tag, hi, lo, payload, rest, rfl, hlen⟩⟩
  · simp only [keeperMaxMuxFrameBytes]
    omega
  · simp [scan_tooLarge body h4 hl] at h
  · simp [scan_tooShort body h4 hs] at h
  · rw [List.length_append, h4]
    omega
  · simp [scan_whole tag hi lo rest h4 hlen hx] at h

def framesBeforeFailure (events : List StreamEvent) : List StreamFrame :=
  itemsBeforeFailure events

/-- Whether a decoder gave up on its stream. -/
def Failed (events : List StreamEvent) : Prop := ∃ e, .failed e ∈ events

theorem failed_iff (events : List StreamEvent) : Failed events ↔ ¬StreamDecoder.Clean events := by
  simp [Failed, StreamDecoder.Clean]

/-- Two splits of one byte string, well formed or not, decode alike up to the
first failure; no pass indexes out of bounds, and what is held between reads
stays short of one frame. -/
theorem pushAll_segmentation (bytes : List UInt8) {reads reads' : List (List UInt8)}
    (hreads : reads.flatten = bytes) (hreads' : reads'.flatten = bytes) :
    framesBeforeFailure (new.pushAll reads).1 = framesBeforeFailure (new.pushAll reads').1 ∧
      (Failed (new.pushAll reads).1 ↔ Failed (new.pushAll reads').1) ∧
      (∀ buffered, scanIndexed buffered = some (scan buffered)) ∧
      ∀ done, done <+: reads →
        (new.pushAll done).2.bufferedLen ≤ 4 + keeperMaxMuxFrameBytes - 1 := by
  refine ⟨?_, ?_, scanIndexed_eq, ?_⟩
  · simp only [pushAll_eq_feed, framesBeforeFailure, new,
      itemsBeforeFailure_feed scan_nil, hreads, hreads']
  · simp only [pushAll_eq_feed, failed_iff, new, clean_feed_iff scan_nil, hreads, hreads']
  · intro done _
    rw [pushAll_eq_feed]
    exact length_of_scan_wait (scan_feed_waits scan_nil done scan_nil)

/-- A ping followed by a length too short for a frame, in one read and in four. -/
theorem pushAll_segmentation_shortLength :
    framesBeforeFailure (new.pushAll [[0, 0, 0, 3, 0xF0, 0, 7, 0, 0, 0, 0]]).1 = framesBeforeFailure
          (new.pushAll [[0, 0], [0, 3, 0xF0], [0, 7, 0, 0], [0, 0]]).1 ∧
      (Failed (new.pushAll [[0, 0, 0, 3, 0xF0, 0, 7, 0, 0, 0, 0]]).1 ↔
        Failed (new.pushAll [[0, 0], [0, 3, 0xF0], [0, 7, 0, 0], [0, 0]]).1) :=
  have h := @pushAll_segmentation [0, 0, 0, 3, 0xF0, 0, 7, 0, 0, 0, 0]
    [[0, 0, 0, 3, 0xF0, 0, 7, 0, 0, 0, 0]] [[0, 0], [0, 3, 0xF0], [0, 7, 0, 0], [0, 0]] rfl rfl
  ⟨h.1, h.2.1⟩

end FrameDecoder

end Roost.Keeper
