-- SUMMARY: A lane's queue and its assembler joined by an ordered channel.
import Roost.Protocol.Peer.PacketQueue

/-!
# Packet delivery

The link of one lane: messages are queued, packets are handed out, dropped or committed, and every
committed packet reaches the assembler next. Stray packets, expiry, clearing and resets are
operations too; they void the delivery but never the accounting.
-/

namespace Roost.Peer

open PacketQuota Sending

/-- A lane's assembler. -/
structure Receiver (E A : Type) where
  fresh : A
  push : A → List UInt8 → Nat → Room → Except E (Option (List UInt8)) × A
  expire : A → Nat → Bool × A
  reset : A → A
  quota : A → PacketQuota
  /-- The buffer of the message in progress. -/
  retained : A → Nat
  stallMs : Nat

/-- One operation on a link. -/
inductive PacketOp
  | enqueue (bytes : List UInt8) (room : Room)
  /-- A packet is handed out and dropped without a commit. -/
  | attempt (allocated : Bool)
  /-- A packet is handed out, committed and received. -/
  | send (allocated : Bool) (nowMs : Nat) (room : Room)
  | clear
  | resetQueue
  | push (packet : List UInt8) (nowMs : Nat) (room : Room)
  | expire (nowMs : Nat)
  | resetAssembler

/-- The two ends, and what passed between them. -/
structure PacketLink (E A : Type) where
  queue : PacketQueue := {}
  assembler : A
  lastPushAtMs : Option Nat := none
  accepted : List (List UInt8) := []
  committed : List (List UInt8) := []
  received : List (List UInt8) := []
  queueErrors : List E := []
  pushErrors : List E := []

/-- The message whose last packet is the one handed out. -/
def PacketQueue.completes (queue : PacketQueue) : Option (List UInt8) :=
  match queue.pending, queue.messages with
  | some pending, message :: _ =>
    if message.offsetBytes + pending.payloadBytes = message.bytes.length then some message.bytes
    else none
  | _, _ => none

section Link

variable {E A : Type} (framing : Framing E) (receiver : Receiver E A)

namespace PacketLink

variable (link : PacketLink E A)

def enqueue (bytes : List UInt8) (room : Room) : PacketLink E A :=
  match link.queue.enqueue framing bytes room with
  | (.ok true, queue) => { link with queue, accepted := link.accepted ++ [bytes] }
  | (_, queue) => { link with queue }

def handOut (allocated : Bool) : Option PendingFragment × PacketLink E A :=
  match link.queue.nextFragment framing allocated with
  | (.ok pending, queue) => (pending, { link with queue })
  | (.error error, queue) => (none, { link with queue, queueErrors := link.queueErrors ++ [error] })

def commit : PacketLink E A :=
  { link with
    queue := link.queue.commit
    committed := link.committed ++ link.queue.completes.toList }

def deliver (packet : List UInt8) (nowMs : Nat) (room : Room) : PacketLink E A :=
  match receiver.push link.assembler packet nowMs room with
  | (.ok message, assembler) =>
    { link with
      assembler, lastPushAtMs := some nowMs, received := link.received ++ message.toList }
  | (.error error, assembler) =>
    { link with
      assembler, lastPushAtMs := some nowMs, pushErrors := link.pushErrors ++ [error] }

def step : PacketOp → PacketLink E A
  | .enqueue bytes room => link.enqueue framing bytes room
  | .attempt allocated => (link.handOut framing allocated).2
  | .send allocated nowMs room =>
    match link.handOut framing allocated with
    | (none, link) => link
    | (some pending, link) => link.commit.deliver receiver pending.bytes nowMs room
  | .clear => { link with queue := link.queue.clear }
  | .resetQueue => { link with queue := link.queue.reset }
  | .push packet nowMs room => link.deliver receiver packet nowMs room
  | .expire nowMs => { link with assembler := (receiver.expire link.assembler nowMs).2 }
  | .resetAssembler => { link with assembler := receiver.reset link.assembler }

/-- Only committed packets arrive, each in time and with room for its message. -/
def Prompt : PacketOp → Prop
  | .enqueue .. => True
  | .attempt _ => True
  | .send _ nowMs room =>
    room.granted = true ∧ room.allocated = true ∧
      link.lastPushAtMs.all fun last => decide (nowMs - last < receiver.stallMs)
  | _ => False

instance (op : PacketOp) : Decidable (link.Prompt receiver op) := by
  cases op <;> unfold Prompt <;> infer_instance

end PacketLink

def packetLink : Transducer (PacketLink E A) PacketOp Unit where
  step link op := (link.step framing receiver op, ())

def PacketLink.fresh : PacketLink E A := { assembler := receiver.fresh }

end Link

/-! ## What the queue's operations do -/

section Queue

variable {E : Type} {framing : Framing E} {queue : PacketQueue}

def Framing.packet (framing : Framing E) (allocated : Bool) (fragment : Fragment UInt8) :
    Except E (List UInt8) :=
  framing.encode allocated fragment.messageId fragment.totalBytes fragment.offsetBytes
    fragment.payload

def PacketQueue.Hands (framing : Framing E) (queue : PacketQueue) (pending : PendingFragment) :
    Prop :=
  ∃ message messages allocated, queue.messages = message :: messages ∧
    framing.packet allocated (message.fragment framing.maxPayloadBytes) = .ok pending.bytes ∧
    pending.payloadBytes = (message.fragment framing.maxPayloadBytes).payload.length

namespace PacketQueue

theorem enqueue_cases (framing : Framing E) (queue : PacketQueue) (bytes : List UInt8)
    (room : Room) : (queue.closed = false ∧ 1 ≤ bytes.length ∧ bytes.length ≤ framing.maxBytes ∧
      queue.nextMessageId ≠ 0 ∧ queue.enqueue framing bytes room = (.ok true, { queue with
          quota := queue.quota.reserve bytes.length
          messages := queue.messages ++ [{
            messageId := queue.nextMessageId, bytes, offsetBytes := 0 }]
          retainedBytes := queue.retainedBytes + bytes.length
          nextMessageId := if queue.nextMessageId = u32Max then 0 else queue.nextMessageId + 1 })) ∨
    (∃ answer, answer ≠ .ok true ∧ queue.enqueue framing bytes room = (answer, queue)) ∨
    ∃ answer, answer ≠ .ok true ∧ queue.enqueue framing bytes room = (answer,
      { queue with quota := (queue.quota.reserve bytes.length).release bytes.length }) := by
  unfold enqueue
  by_cases hclosed : queue.closed = true
  · exact Or.inr (Or.inl ⟨.error framing.closed, nofun, if_pos hclosed⟩)
  rw [if_neg hclosed]
  by_cases hsize : bytes.length < 1 ∨ framing.maxBytes < bytes.length
  · exact Or.inr (Or.inl ⟨.error framing.messageSize, nofun, if_pos hsize⟩)
  rw [if_neg hsize]
  by_cases hwrap : queue.nextMessageId = 0
  · exact Or.inr (Or.inl ⟨.error framing.messageIdWrap, nofun, if_pos hwrap⟩)
  rw [if_neg hwrap]
  cases hgrant : room.granted with
  | false => exact Or.inr (Or.inl ⟨.ok false, nofun, rfl⟩)
  | true =>
    cases hall : room.allocated with
    | false => exact Or.inr (Or.inr ⟨.error framing.allocation, nofun, rfl⟩)
    | true =>
      exact Or.inl ⟨by simpa using hclosed, by omega, by omega, hwrap, rfl⟩

theorem encodeNextFragment_cons (framing : Framing E) {msg : Sending UInt8}
    {messages : List (Sending UInt8)} (h : queue.messages = msg :: messages) (held : Bool) :
    queue.encodeNextFragment framing held =
      (framing.packet held (msg.fragment framing.maxPayloadBytes)).map fun bytes =>
        some {
          messageId := msg.messageId
          payloadBytes := (msg.fragment framing.maxPayloadBytes).payload.length
          finalFragment := decide (msg.offsetBytes +
            (msg.fragment framing.maxPayloadBytes).payload.length = msg.bytes.length)
          bytes } := by
  have hcut : (msg.bytes.drop msg.offsetBytes).take
      (min framing.maxPayloadBytes (msg.bytes.length - msg.offsetBytes)) =
      (msg.bytes.drop msg.offsetBytes).take framing.maxPayloadBytes := by
    rw [List.take_eq_take_iff, List.length_drop]
    omega
  rw [encodeNextFragment, h]
  dsimp only
  rw [hcut, length_payload]
  change (framing.packet held (msg.fragment framing.maxPayloadBytes) >>= _) = _
  cases framing.packet held (msg.fragment framing.maxPayloadBytes) <;> rfl

theorem nextFragment_cases (hheld : ∀ pend, queue.pending = some pend → queue.Hands framing pend)
    (allocated : Bool) :
    (queue.messages = [] ∧ queue.nextFragment framing allocated = (.ok none, queue)) ∨
    (∃ pend, queue.Hands framing pend ∧ queue.nextFragment framing allocated =
      (.ok (some pend), { queue with pending := some pend })) ∨
    ∃ msg messages error, queue.messages = msg :: messages ∧
      framing.packet allocated (msg.fragment framing.maxPayloadBytes) = .error error ∧
      queue.nextFragment framing allocated = (.error error, queue.clear) := by
  cases hpend : queue.pending with
  | some pend =>
    have hsame : { queue with pending := some pend } = queue := by rw [← hpend]
    refine Or.inr (Or.inl ⟨pend, hheld pend hpend, ?_⟩)
    rw [nextFragment, hpend, hsame]
  | none =>
    cases hmessage : queue.messages with
    | nil =>
      refine Or.inl ⟨rfl, ?_⟩
      have hnone : queue.encodeNextFragment framing allocated = .ok none := by
        rw [encodeNextFragment, hmessage]
      rw [nextFragment, hpend, hnone]
    | cons msg messages =>
      have henc := encodeNextFragment_cons framing hmessage allocated
      cases hpacket : framing.packet allocated (msg.fragment framing.maxPayloadBytes) with
      | error error =>
        rw [hpacket, Except.map] at henc
        exact Or.inr (Or.inr ⟨msg, messages, error, rfl, hpacket,
          by rw [nextFragment, hpend, henc]⟩)
      | ok bytes =>
        rw [hpacket, Except.map] at henc
        obtain ⟨pend, hpayload, hbytes, hnext⟩ : ∃ pend : PendingFragment,
            pend.payloadBytes = (msg.fragment framing.maxPayloadBytes).payload.length ∧
              pend.bytes = bytes ∧
              queue.encodeNextFragment framing allocated = .ok (some pend) := by
          refine ⟨_, ?_, ?_, henc⟩ <;> rfl
        rw [← hbytes] at hpacket
        refine Or.inr (Or.inl ⟨pend, ⟨msg, messages, allocated, hmessage, hpacket, hpayload⟩, ?_⟩)
        rw [nextFragment, hpend, hnext, ← hmessage]

variable {pend : PendingFragment}

theorem messages_commit (h : queue.pending = some pend) :
    queue.commit.messages = advance pend.payloadBytes queue.messages := by
  rw [commit, h]
  cases hmessage : queue.messages with
  | nil => simp [advance]
  | cons msg =>
    by_cases hlast : msg.offsetBytes + pend.payloadBytes = msg.bytes.length <;>
      simp [advance, hlast]

@[simp] theorem pending_commit : queue.commit.pending = none := by
  unfold commit
  cases hpend : queue.pending with
  | none => exact hpend
  | some =>
    cases hmessage : queue.messages with
    | nil => rfl
    | cons => dsimp only; split <;> rfl

@[simp] theorem nextMessageId_commit : queue.commit.nextMessageId = queue.nextMessageId := by
  unfold commit
  cases hpend : queue.pending with
  | none => rfl
  | some =>
    cases hmessage : queue.messages with
    | nil => rfl
    | cons => dsimp only; split <;> rfl

@[simp] theorem closed_commit : queue.commit.closed = queue.closed := by
  unfold commit
  cases hpend : queue.pending with
  | none => rfl
  | some =>
    cases hmessage : queue.messages with
    | nil => rfl
    | cons => dsimp only; split <;> rfl

theorem completes_append_commit (h : queue.pending = some pend) :
    queue.completes.toList ++ queue.commit.messages.map (·.bytes) =
      queue.messages.map (·.bytes) := by
  rw [messages_commit h, completes, h]
  cases queue.messages with
  | nil => rfl
  | cons msg =>
    by_cases hlast : msg.offsetBytes + pend.payloadBytes = msg.bytes.length <;>
      simp [advance, hlast]

end PacketQueue

end Queue

/-! ## Conservation -/

/-- What the queue reserved and did not release is what it retains. -/
structure PacketQueue.Balanced (queue : PacketQueue) : Prop where
  charged : queue.quota.reserved = queue.quota.released + queue.retainedBytes
  retained : queue.retainedBytes = (queue.messages.map (·.bytes.length)).sum

/-- What the assembler reserved and did not release is the buffer in progress. -/
def Receiver.Balanced {E A : Type} (receiver : Receiver E A) (assembler : A) : Prop :=
  (receiver.quota assembler).reserved =
    (receiver.quota assembler).released + receiver.retained assembler

/-- Every operation of the assembler keeps its accounts. -/
structure Receiver.Conserves {E A : Type} (receiver : Receiver E A) : Prop where
  fresh : receiver.Balanced receiver.fresh
  push : ∀ {assembler} packet nowMs room, receiver.Balanced assembler →
    receiver.Balanced (receiver.push assembler packet nowMs room).2
  expire : ∀ {assembler} nowMs, receiver.Balanced assembler →
    receiver.Balanced (receiver.expire assembler nowMs).2
  reset : ∀ {assembler}, receiver.Balanced assembler → receiver.Balanced (receiver.reset assembler)

namespace PacketQueue

variable {E : Type} {framing : Framing E} {queue : PacketQueue}

theorem foldl_release (messages : List (Sending UInt8)) (quota : PacketQuota) :
    messages.foldl (fun quota msg => quota.release msg.bytes.length) quota =
      quota.release (messages.map (·.bytes.length)).sum := by
  induction messages generalizing quota with
  | nil => rfl
  | cons msg messages ih =>
    rw [List.foldl_cons, ih, List.map_cons, List.sum_cons, release, release, release]
    rw [Nat.add_assoc]

theorem Balanced.clear (h : queue.Balanced) : queue.clear.Balanced where
  charged := by
    have hcharge := h.charged
    have hret := h.retained
    simp only [PacketQueue.clear, foldl_release]
    dsimp only [release]
    omega
  retained := rfl

theorem Balanced.enqueue (framing : Framing E) (h : queue.Balanced) (bytes : List UInt8)
    (room : Room) : (queue.enqueue framing bytes room).2.Balanced := by
  have hcharge := h.charged
  have hret := h.retained
  rcases enqueue_cases framing queue bytes room with
    ⟨-, -, -, -, hacc⟩ | ⟨answer, -, href⟩ | ⟨answer, -, hrel⟩
  · rw [hacc]
    constructor
    · dsimp only [reserve]
      omega
    · simp only [List.map_append, List.sum_append, List.map_singleton, List.sum_singleton]
      omega
  · rw [href]
    exact h
  · rw [hrel]
    refine ⟨?_, hret⟩
    dsimp only [reserve, release]
    omega

theorem Balanced.nextFragment (framing : Framing E) (h : queue.Balanced) (held : Bool) :
    (queue.nextFragment framing held).2.Balanced := by
  unfold PacketQueue.nextFragment
  cases queue.pending with
  | some => exact h
  | none =>
    cases queue.encodeNextFragment framing held with
    | error => exact h.clear
    | ok pend =>
      cases pend with
      | none => exact h
      | some => exact ⟨h.charged, h.retained⟩

theorem Balanced.commit (h : queue.Balanced) : queue.commit.Balanced := by
  have hcharge := h.charged
  have hret := h.retained
  unfold PacketQueue.commit
  cases queue.pending with
  | none => exact h
  | some pend =>
    cases hmessage : queue.messages with
    | nil => exact ⟨h.charged, by rw [h.retained, hmessage]⟩
    | cons msg messages =>
      rw [hmessage, List.map_cons, List.sum_cons] at hret
      by_cases hlast : msg.offsetBytes + pend.payloadBytes = msg.bytes.length
      · simp only [hlast, ne_eq, not_true_eq_false, if_false]
        constructor
        · dsimp only [release]
          omega
        · dsimp only
          omega
      · simp only [ne_eq, hlast, not_false_eq_true, if_true]
        exact ⟨hcharge, hret⟩

end PacketQueue

section Link

variable {E A : Type} {framing : Framing E} {receiver : Receiver E A}

/-- Both ends of the link retain exactly what they are charged for. -/
structure PacketLink.Balanced (receiver : Receiver E A) (link : PacketLink E A) : Prop where
  queue : link.queue.Balanced
  assembler : receiver.Balanced link.assembler

variable {link : PacketLink E A}

theorem PacketLink.Balanced.deliver (hrec : receiver.Conserves)
    (h : link.Balanced receiver) (packet : List UInt8) (nowMs : Nat) (room : Room) :
    (link.deliver receiver packet nowMs room).Balanced receiver := by
  have hpushed := hrec.push packet nowMs room h.assembler
  unfold PacketLink.deliver
  cases hpush : receiver.push link.assembler packet nowMs room with
  | mk answer =>
    rw [hpush] at hpushed
    cases answer with
    | error | ok => exact ⟨h.queue, hpushed⟩

theorem PacketLink.Balanced.handOut (framing : Framing E)
    (h : link.Balanced receiver) (held : Bool) : (link.handOut framing held).2.Balanced receiver := by
  have hnext := h.queue.nextFragment framing held
  unfold PacketLink.handOut
  cases hanswer : link.queue.nextFragment framing held with
  | mk answer =>
    rw [hanswer] at hnext
    cases answer with
    | error | ok => exact ⟨hnext, h.assembler⟩

/-- A step keeps the reserved bytes balanced. -/
theorem PacketLink.Balanced.step (hrec : receiver.Conserves)
    (h : link.Balanced receiver) (op : PacketOp) :
    (link.step framing receiver op).Balanced receiver := by
  cases op with
  | enqueue bytes room =>
    have hqueue := h.queue.enqueue framing bytes room
    simp only [PacketLink.step, PacketLink.enqueue]
    cases hanswer : link.queue.enqueue framing bytes room with
    | mk =>
      rw [hanswer] at hqueue
      split
      · next heq => cases heq; exact ⟨hqueue, h.assembler⟩
      · next heq => cases heq; exact ⟨hqueue, h.assembler⟩
  | attempt allocated => exact h.handOut framing allocated
  | send allocated nowMs room =>
    have hhand := h.handOut framing allocated
    simp only [PacketLink.step]
    cases hanswer : link.handOut framing allocated with
    | mk answer handed =>
      rw [hanswer] at hhand
      cases answer with
      | none => exact hhand
      | some pend =>
        have hcommit : handed.commit.Balanced receiver :=
          ⟨hhand.queue.commit, hhand.assembler⟩
        exact hcommit.deliver hrec pend.bytes nowMs room
  | clear => exact ⟨h.queue.clear, h.assembler⟩
  | resetQueue => exact ⟨⟨h.queue.clear.charged, h.queue.clear.retained⟩, h.assembler⟩
  | push packet nowMs room => exact h.deliver hrec packet nowMs room
  | expire nowMs => exact ⟨h.queue, hrec.expire nowMs h.assembler⟩
  | resetAssembler => exact ⟨h.queue, hrec.reset h.assembler⟩

end Link

end Roost.Peer
