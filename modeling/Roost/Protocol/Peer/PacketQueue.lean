-- SUMMARY: The bounded FIFO send path of one ordered data channel.
import Roost.Base.Bytes
import Roost.Base.Except
import Roost.Base.Fragments
import Roost.Base.Transducer

/-!
# Packet queues

The two data-channel framings queue messages alike: admission is refused before ownership moves, a
packet is handed out until it is committed, and a message is released with its last packet. Each
framing brings its bounds, its errors and its encoding.
-/

namespace Roost.Peer

/-- The largest 32-bit field. -/
def u32Max : Nat := 2 ^ 32 - 1

/-- The identity and position of one fragment inside its logical message; three 32-bit fields. -/
structure PacketHeader where
  messageId : Nat
  totalBytes : Nat
  offsetBytes : Nat

/-- Retained-byte accounting of one side: what was reserved and what was released again. -/
structure PacketQuota where
  reserved : Nat := 0
  released : Nat := 0

namespace PacketQuota

variable (quota : PacketQuota)

def reserve (bytes : Nat) : PacketQuota := { quota with reserved := quota.reserved + bytes }

def release (bytes : Nat) : PacketQuota := { quota with released := quota.released + bytes }

end PacketQuota

/-- What the owner's quota and the allocator answer to one call. -/
structure Room where
  granted : Bool
  allocated : Bool

/-- A framing's bounds, errors and encoding. -/
structure Framing (E : Type) where
  maxBytes : Nat
  maxPayloadBytes : Nat
  closed : E
  messageSize : E
  messageIdWrap : E
  allocation : E
  /-- The packet of a message's fragment, from the message's number, length and offset. -/
  encode : (allocated : Bool) → (messageId totalBytes offsetBytes : Nat) → List UInt8 →
    Except E (List UInt8)

/-- A packet that was handed out and not yet committed. -/
structure PendingFragment where
  messageId : Nat
  payloadBytes : Nat
  finalFragment : Bool
  bytes : List UInt8

/-- Source-buffer ownership of one ordered data-channel lane. -/
structure PacketQueue where
  quota : PacketQuota := {}
  messages : List (Sending UInt8) := []
  pending : Option PendingFragment := none
  /-- Zero once every number is spent. -/
  nextMessageId : Nat := 1
  retainedBytes : Nat := 0
  closed : Bool := false

namespace PacketQueue

variable {E : Type} (framing : Framing E) (queue : PacketQueue)

/-- Take ownership of a message, or refuse it with the queue unchanged. -/
def enqueue (bytes : List UInt8) (room : Room) : Except E Bool × PacketQueue :=
  if queue.closed then (.error framing.closed, queue)
  else if bytes.length < 1 ∨ framing.maxBytes < bytes.length then (.error framing.messageSize, queue)
  else if queue.nextMessageId = 0 then (.error framing.messageIdWrap, queue)
  else if !room.granted then (.ok false, queue)
  else
    let quota := queue.quota.reserve bytes.length
    if !room.allocated then
      (.error framing.allocation, { queue with quota := quota.release bytes.length })
    else
      let messageId := queue.nextMessageId
      (.ok true, { queue with
          quota
          messages := queue.messages ++ [{ messageId, bytes, offsetBytes := 0 }]
          retainedBytes := queue.retainedBytes + bytes.length
          nextMessageId := if messageId = u32Max then 0 else messageId + 1 })

def encodeNextFragment (allocated : Bool) : Except E (Option PendingFragment) :=
  match queue.messages with
  | [] => .ok none
  | message :: _ => do
    let start := message.offsetBytes
    let totalBytes := message.bytes.length
    let payloadBytes := min framing.maxPayloadBytes (totalBytes - start)
    let bytes ← framing.encode allocated message.messageId totalBytes start
      ((message.bytes.drop start).take payloadBytes)
    return some {
      messageId := message.messageId
      payloadBytes
      finalFragment := decide (start + payloadBytes = totalBytes)
      bytes }

/-- Release every owned buffer and close this generation. -/
def clear : PacketQueue :=
  { queue with
    closed := true
    messages := []
    pending := none
    retainedBytes := 0
    quota := queue.messages.foldl (fun quota message => quota.release message.bytes.length)
      queue.quota }

/-- Release this generation and open a fresh number sequence. -/
def reset : PacketQueue := { queue.clear with nextMessageId := 1, closed := false }

/-- At most one packet, the same one until it is committed. -/
def nextFragment (allocated : Bool) : Except E (Option PendingFragment) × PacketQueue :=
  match queue.pending with
  | some pending => (.ok (some pending), queue)
  | none =>
    match queue.encodeNextFragment framing allocated with
    | .ok none => (.ok none, queue)
    | .ok (some pending) => (.ok (some pending), { queue with pending := some pending })
    | .error error => (.error error, queue.clear)

/-- Advance past the packet that was handed out. -/
def commit : PacketQueue :=
  match queue.pending with
  | none => queue
  | some pending =>
    let queue := { queue with pending := none }
    match queue.messages with
    | [] => queue
    | message :: messages =>
      let sent := { message with offsetBytes := message.offsetBytes + pending.payloadBytes }
      if sent.offsetBytes ≠ sent.bytes.length then { queue with messages := sent :: messages }
      else
        { queue with
          messages
          retainedBytes := queue.retainedBytes - sent.bytes.length
          quota := queue.quota.release sent.bytes.length }

end PacketQueue

/-- The header invariants, in the order a malformed header is reported. -/
def assertFields {E : Type} (maxBytes maxPayloadBytes : Nat)
    (messageId messageSize packetHeader : E) (header : PacketHeader) (payloadBytes : Nat) :
    Except E Unit :=
  if header.messageId < 1 then .error messageId
  else if header.totalBytes < 1 ∨ maxBytes < header.totalBytes then .error messageSize
  else if header.totalBytes ≤ header.offsetBytes ∨
      ¬ (1 ≤ payloadBytes ∧ payloadBytes ≤ maxPayloadBytes) ∨
      header.totalBytes < header.offsetBytes + payloadBytes then .error packetHeader
  else .ok ()

/-- A 32-bit field of a packet. -/
def readU32 (packet : List UInt8) (offset : Nat) : Nat := fromLe ((packet.drop offset).take 4)

/-- The 32-bit fields of a packet, one after another. -/
def encodeFields (fields : List Nat) : List UInt8 := fields.flatMap (leBytes 4)

theorem encodeFields_length (fields : List Nat) :
    (encodeFields fields).length = 4 * fields.length := by
  induction fields with
  | nil => rfl
  | cons value fields ih =>
    rw [encodeFields, List.flatMap_cons, List.length_append, leBytes_length]
    change 4 + (encodeFields fields).length = _
    rw [ih, List.length_cons]
    omega

theorem readU32_encodeFields {fields : List Nat} {payload : List UInt8}
    (h : ∀ value ∈ fields, value ≤ u32Max) {i value : Nat} (hi : fields[i]? = some value) :
    readU32 (encodeFields fields ++ payload) (4 * i) = value := by
  induction fields generalizing i with
  | nil => cases hi
  | cons first rest ih =>
    have hsplit : encodeFields (first :: rest) ++ payload =
        leBytes 4 first ++ (encodeFields rest ++ payload) := by
      rw [encodeFields, List.flatMap_cons, List.append_assoc]
      rfl
    have hlen : (leBytes 4 first).length = 4 := leBytes_length 4 first
    rw [hsplit]
    cases i with
    | zero =>
      have hvalue : first = value := Option.some.inj hi
      have hfirst : first < 256 ^ 4 := by
        have := h first List.mem_cons_self
        rw [u32Max] at this
        omega
      rw [readU32, Nat.mul_zero, List.drop_zero, List.take_left' hlen, fromLe_leBytes hfirst,
        hvalue]
    | succ i =>
      have hnext := ih (fun value hmem => h value (List.mem_cons_of_mem _ hmem)) (i := i) hi
      rw [readU32, Nat.mul_succ, Nat.add_comm, ← List.drop_drop, List.drop_left' hlen]
      exact hnext

variable {header : PacketHeader}

theorem assertFields_eq_ok {E : Type} {maxBytes maxPayloadBytes payloadBytes : Nat}
    {messageId messageSize packetHeader : E} :
    assertFields maxBytes maxPayloadBytes messageId messageSize packetHeader header payloadBytes =
        .ok () ↔
      1 ≤ header.messageId ∧ 1 ≤ header.totalBytes ∧ header.totalBytes ≤ maxBytes ∧
        1 ≤ payloadBytes ∧ payloadBytes ≤ maxPayloadBytes ∧
        header.offsetBytes + payloadBytes ≤ header.totalBytes := by
  unfold assertFields
  simp only [Except.ite_error_eq_ok, and_true]
  omega

/-- A packet reads back field by field: what marks it, and then a checked header. -/
theorem encodeFields_header {E : Type} {maxBytes maxPayloadBytes : Nat}
    {messageId messageSize packetHeader : E} {payload : List UInt8}
    (hcap : maxBytes ≤ u32Max) (hid : header.messageId ≤ u32Max)
    (hfields : assertFields maxBytes maxPayloadBytes messageId messageSize packetHeader header
      payload.length = .ok ())
    (marks : List Nat) (hmarks : ∀ mark ∈ marks, mark ≤ u32Max) {fields : List Nat}
    (hlisted : fields = marks ++ [header.messageId, header.totalBytes, header.offsetBytes]) :
    (∀ i value, fields[i]? = some value →
      readU32 (encodeFields fields ++ payload) (4 * i) = value) ∧
      (encodeFields fields ++ payload).drop (4 * fields.length) = payload ∧
      (encodeFields fields ++ payload).length = 4 * fields.length + payload.length ∧
      1 ≤ payload.length ∧ payload.length ≤ maxPayloadBytes := by
  obtain ⟨-, -, htotal, hpos, hpayload, hfits⟩ := assertFields_eq_ok.mp hfields
  refine ⟨fun i value hi => readU32_encodeFields (fun value hmem => ?_) hi,
    List.drop_left' (encodeFields_length fields), ?_, hpos, hpayload⟩
  · rw [hlisted] at hmem
    rcases List.mem_append.mp hmem with hmark | hheld
    · exact hmarks value hmark
    · simp only [List.mem_cons, List.not_mem_nil, or_false] at hheld
      omega
  · rw [List.length_append, encodeFields_length]

end Roost.Peer
