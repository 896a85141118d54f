-- SUMMARY: Along every prompt run what was committed is received, in order.
import Roost.Protocol.Peer.PacketDelivery

/-!
# Lock step

What a framing and its assembler owe the link, and the invariant that carries the delivery: the
assembler has of the first queued message what was committed of it, the numbers follow each other
up to the last one, and the packet in hand is the first message's next one.
-/

namespace Roost.Peer

open PacketQueue

variable {E A : Type} {framing : Framing E} {receiver : Receiver E A}
  {Holds : A → Receiving UInt8 → Option Nat → Prop}

structure Framing.Fits (framing : Framing E) (fragment : Fragment UInt8) : Prop where
  messageId_pos : 1 ≤ fragment.messageId
  messageId_le : fragment.messageId ≤ u32Max
  totalBytes_le : fragment.totalBytes ≤ framing.maxBytes
  payload_pos : 1 ≤ fragment.payload.length
  payload_le : fragment.payload.length ≤ framing.maxPayloadBytes
  inside : fragment.offsetBytes + fragment.payload.length ≤ fragment.totalBytes

/-- An assembler that holds what a receiver of fragments does, and accepts the packets of the
fragments that one accepts. -/
structure Delivers (framing : Framing E) (receiver : Receiver E A)
    (Holds : A → Receiving UInt8 → Option Nat → Prop) : Prop where
  payload_pos : 0 < framing.maxPayloadBytes
  refused : ∀ {fragment allocated error}, framing.Fits fragment →
    framing.packet allocated fragment = .error error → error = framing.allocation
  fresh : Holds receiver.fresh { lastCompleted := 0, gathering := none } none
  accepts : ∀ {assembler receiving last fragment allocated packet receiving' message nowMs room},
    Holds assembler receiving last → framing.Fits fragment →
    framing.packet allocated fragment = .ok packet →
    receiving.accept fragment = some (receiving', message) →
    room.granted = true → room.allocated = true →
    last.all (fun last => decide (nowMs - last < receiver.stallMs)) = true →
    ∃ assembler', receiver.push assembler packet nowMs room = (.ok message, assembler') ∧
      Holds assembler' receiving' (some nowMs)

/-- An open queue and the fragments received so far. -/
structure Standing (queue : PacketQueue) (receiving : Receiving UInt8) : Prop where
  inStep : InStep queue.messages receiving
  numbers : receiving.lastCompleted + queue.messages.length ≤ u32Max
  next : queue.nextMessageId =
    if receiving.lastCompleted + queue.messages.length = u32Max then 0
    else receiving.lastCompleted + queue.messages.length + 1

/-- The link's invariant. -/
structure Lockstep (framing : Framing E) (Holds : A → Receiving UInt8 → Option Nat → Prop)
    (link : PacketLink E A) : Prop where
  stands : ∃ receiving, Holds link.assembler receiving link.lastPushAtMs ∧
    (link.queue.closed = false → Standing link.queue receiving)
  emptied : link.queue.closed = true → link.queue.messages = []
  sizes : ∀ bytes ∈ link.queue.messages.map (·.bytes), bytes.length ≤ framing.maxBytes
  held : ∀ pending, link.queue.pending = some pending → link.queue.Hands framing pending
  delivered : link.received = link.committed
  pushed : link.pushErrors = []
  handed : ∀ error ∈ link.queueErrors, error = framing.allocation
  inOrder : link.committed ++ link.queue.messages.map (·.bytes) <+: link.accepted
  whole : link.queue.closed = false →
    link.committed ++ link.queue.messages.map (·.bytes) = link.accepted

namespace Standing

variable {queue : PacketQueue} {receiving : Receiving UInt8}

theorem fits {msg : Sending UInt8} {messages : List (Sending UInt8)} (h : Standing queue receiving)
    (hmessage : queue.messages = msg :: messages) (hsize : msg.bytes.length ≤ framing.maxBytes)
    (hpos : 0 < framing.maxPayloadBytes) : framing.Fits (msg.fragment framing.maxPayloadBytes) := by
  have hin := h.inStep
  have hnumber := h.numbers
  rw [hmessage] at hin
  rw [hmessage, List.length_cons] at hnumber
  have hid := hin.messageId_head
  have hbegun := hin.begun msg List.mem_cons_self
  have hpayload : (msg.fragment framing.maxPayloadBytes).payload.length =
    min framing.maxPayloadBytes (msg.bytes.length - msg.offsetBytes) :=
    Sending.length_payload
  have hmessag : (msg.fragment framing.maxPayloadBytes).messageId = msg.messageId := rfl
  have htotal : (msg.fragment framing.maxPayloadBytes).totalBytes = msg.bytes.length := rfl
  have hoffset : (msg.fragment framing.maxPayloadBytes).offsetBytes = msg.offsetBytes := rfl
  constructor <;> omega

theorem push {bytes : List UInt8} (h : Standing queue receiving) (hbytes : 1 ≤ bytes.length)
    (hwrap : queue.nextMessageId ≠ 0) {quota : PacketQuota} {retainedBytes : Nat} : Standing
      { queue with
        quota
        messages := queue.messages ++ [{
          messageId := queue.nextMessageId, bytes, offsetBytes := 0 }]
        retainedBytes
        nextMessageId := if queue.nextMessageId = u32Max then 0 else queue.nextMessageId + 1 }
      receiving := by
  have hnext := h.next
  have hnumber := h.numbers
  have hroom : ¬ receiving.lastCompleted + queue.messages.length = u32Max := by
    intro hfull
    rw [if_pos hfull] at hnext
    exact hwrap hnext
  rw [if_neg hroom] at hnext
  have hstep := h.inStep.push (List.length_pos_iff.mp hbytes)
  rw [← hnext] at hstep
  refine ⟨hstep, ?_, ?_⟩
  · dsimp only
    rw [List.length_append, List.length_singleton]
    omega
  · dsimp only
    rw [List.length_append, List.length_singleton, hnext, ← Nat.add_assoc]

end Standing

namespace Lockstep

variable {link : PacketLink E A}

theorem fresh (h : Delivers framing receiver Holds) :
    Lockstep framing Holds (PacketLink.fresh receiver : PacketLink E A) where
  stands := ⟨_, h.fresh, fun _ => ⟨InStep.empty 0, Nat.zero_le _, rfl⟩⟩
  emptied := fun _ => rfl
  sizes := fun _ hmem => nomatch hmem
  held := fun _ hpend => nomatch hpend
  delivered := rfl
  pushed := rfl
  handed := fun _ hmem => nomatch hmem
  inOrder := List.prefix_rfl
  whole := fun _ => rfl

theorem enqueue (h : Lockstep framing Holds link) (bytes : List UInt8) (room : Room) :
    Lockstep framing Holds (link.enqueue framing bytes room) := by
  rcases enqueue_cases framing link.queue bytes room with
    ⟨hopen, hpos, hmax, hwrap, hacc⟩ | ⟨answer, hanswer, href⟩ | ⟨answer, hanswer, hrel⟩
  · have hwhole := h.whole hopen
    obtain ⟨receiving, hholds, hstand⟩ := h.stands
    simp only [PacketLink.enqueue, hacc]
    refine ⟨⟨receiving, hholds, fun _ => (hstand hopen).push hpos hwrap⟩, ?_, ?_, ?_,
      h.delivered, h.pushed, h.handed, ?_, ?_⟩
    · intro hclosed
      cases hopen.symm.trans hclosed
    · intro other hmem
      rw [List.map_append, List.map_singleton, List.mem_append, List.mem_singleton] at hmem
      rcases hmem with hold | rfl
      · exact h.sizes other hold
      · exact hmax
    · intro pend hpend
      obtain ⟨msg, _, allocated, hmessage, hpacket⟩ := h.held pend hpend
      exact ⟨msg, _, allocated, by dsimp only; rw [hmessage]; rfl, hpacket⟩
    · rw [List.map_append, List.map_singleton, ← List.append_assoc]
      exact hwhole ▸ List.prefix_rfl
    · intro _
      rw [List.map_append, List.map_singleton, ← List.append_assoc, hwhole]
  · have hsame : link.enqueue framing bytes room = link := by
      unfold PacketLink.enqueue
      rw [href]
      split
      · next heq => cases heq; exact absurd rfl hanswer
      · next heq => cases heq; rfl
    rw [hsame]
    exact h
  · have hsame : link.enqueue framing bytes room = { link with
        queue := { link.queue with
          quota := (link.queue.quota.reserve bytes.length).release bytes.length } } := by
      unfold PacketLink.enqueue
      rw [hrel]
      split
      · next heq => cases heq; exact absurd rfl hanswer
      · next heq => cases heq; rfl
    obtain ⟨receiving, hholds, hstand⟩ := h.stands
    rw [hsame]
    exact ⟨⟨receiving, hholds, fun hopen =>
      ⟨(hstand hopen).inStep, (hstand hopen).numbers, (hstand hopen).next⟩⟩,
      h.emptied, h.sizes, h.held, h.delivered, h.pushed, h.handed, h.inOrder, h.whole⟩

variable (hdel : Delivers framing receiver Holds)
include hdel

theorem handOut (h : Lockstep framing Holds link)
    (allocated : Bool) : Lockstep framing Holds (link.handOut framing allocated).2 ∧
      ∀ pending, (link.handOut framing allocated).1 = some pending →
        (link.handOut framing allocated).2.queue.pending = some pending := by
  rcases nextFragment_cases h.held allocated with
    ⟨-, hnone⟩ | ⟨pending, hhands, hsome⟩ | ⟨message, messages, error, hmessage, hpacket, herror⟩
  · simp only [PacketLink.handOut, hnone]
    exact ⟨h, fun _ hpend => nomatch hpend⟩
  · obtain ⟨receiving, hholds, hstand⟩ := h.stands
    simp only [PacketLink.handOut, hsome]
    refine ⟨⟨⟨receiving, hholds, fun hopen =>
      ⟨(hstand hopen).inStep, (hstand hopen).numbers, (hstand hopen).next⟩⟩,
      h.emptied, h.sizes, ?_, h.delivered, h.pushed, h.handed, h.inOrder, h.whole⟩, fun _ => id⟩
    intro other hother
    cases hother
    exact hhands
  -- The packet could not be encoded: the queue is closed and its messages are dropped.
  obtain ⟨receiving, hholds, hstand⟩ := h.stands
  have hopen : link.queue.closed = false := by
    cases hclosed : link.queue.closed with
    | false => rfl
    | true =>
      have hempty := h.emptied hclosed
      rw [hmessage] at hempty
      cases hempty
  have hsize : message.bytes.length ≤ framing.maxBytes :=
    h.sizes _ (by rw [hmessage]; exact List.mem_cons_self)
  have hfits := (hstand hopen).fits hmessage hsize hdel.payload_pos
  simp only [PacketLink.handOut, herror]
  refine ⟨⟨⟨receiving, hholds, fun hclear => nomatch hclear⟩, fun _ => rfl,
    fun _ hmem => (nomatch hmem), fun _ hpend => (nomatch hpend), h.delivered, h.pushed,
    ?_, ?_, fun hclear => nomatch hclear⟩, fun _ hpend => nomatch hpend⟩
  · intro other hmem
    rcases List.mem_append.mp hmem with hold | hnew
    · exact h.handed other hold
    · rw [List.mem_singleton.mp hnew]
      exact hdel.refused hfits hpacket
  · have hcommit : link.committed <+: link.accepted :=
      (List.prefix_append _ _).trans h.inOrder
    simpa [clear] using hcommit

theorem commit_deliver (h : Lockstep framing Holds link) {pend : PendingFragment}
    (hpend : link.queue.pending = some pend) {nowMs : Nat} {room : Room}
    (hgrant : room.granted = true) (hall : room.allocated = true)
    (hprompt : link.lastPushAtMs.all (fun last => decide (nowMs - last < receiver.stallMs)) = true) :
    Lockstep framing Holds (link.commit.deliver receiver pend.bytes nowMs room) := by
  obtain ⟨msg, _, _, hmessage, hpacket, hpayload⟩ := h.held pend hpend
  obtain ⟨_, hholds, hstand⟩ := h.stands
  have hopen : link.queue.closed = false := by
    cases hclosed : link.queue.closed with
    | false => rfl
    | true =>
      have hempty := h.emptied hclosed
      rw [hmessage] at hempty
      cases hempty
  have hstands := hstand hopen
  have hsize : msg.bytes.length ≤ framing.maxBytes :=
    h.sizes _ (by rw [hmessage]; exact List.mem_cons_self)
  have hfits := hstands.fits hmessage hsize hdel.payload_pos
  have hinStep := hstands.inStep
  rw [hmessage] at hinStep
  obtain ⟨receiving', haccept, hinStep', hcount⟩ := hinStep.accept hdel.payload_pos
  obtain ⟨_, hpush, hholds'⟩ := hdel.accepts hholds hfits hpacket haccept hgrant
    hall hprompt
  have hadv := messages_commit hpend
  rw [hmessage, hpayload] at hadv
  have hcomplete : link.queue.completes =
      if msg.offsetBytes + (msg.fragment framing.maxPayloadBytes).payload.length =
        msg.bytes.length then some msg.bytes else none := by
    rw [completes, hpend, hmessage, ← hpayload]
  have hqueue := completes_append_commit hpend
  simp only [PacketLink.deliver, PacketLink.commit, hpush]
  refine ⟨⟨receiving', hholds', fun _ => ⟨?_, ?_, ?_⟩⟩, ?_, ?_, ?_, ?_, h.pushed, h.handed, ?_, ?_⟩
  · dsimp only
    rw [hadv]
    exact hinStep'
  · dsimp only
    rw [hadv, hcount, ← hmessage]
    exact hstands.numbers
  · dsimp only
    rw [hadv, hcount, ← hmessage, nextMessageId_commit]
    exact hstands.next
  · intro hclosed
    rw [closed_commit, hopen] at hclosed
    cases hclosed
  · intro bytes hmem
    refine h.sizes bytes ?_
    rw [← hqueue]
    exact List.mem_append_right _ hmem
  · intro other hother
    rw [pending_commit] at hother
    cases hother
  · dsimp only
    rw [h.delivered, hcomplete]
  · rw [List.append_assoc, hqueue]
    exact h.inOrder
  · intro _
    rw [List.append_assoc, hqueue]
    exact h.whole hopen

/-- A prompt step keeps both ends in step. -/
theorem step (h : Lockstep framing Holds link) {op : PacketOp} (hprompt : link.Prompt receiver op) :
    Lockstep framing Holds (link.step framing receiver op) := by
  cases op with
  | enqueue bytes room => exact h.enqueue bytes room
  | attempt allocated => exact (h.handOut hdel allocated).1
  | send allocated =>
    obtain ⟨hgrant, hall, hlast⟩ := hprompt
    obtain ⟨hhand, hstands⟩ := h.handOut hdel allocated
    have hclock : (link.handOut framing allocated).2.lastPushAtMs = link.lastPushAtMs := by
      unfold PacketLink.handOut
      split <;> rfl
    simp only [PacketLink.step]
    cases hanswer : link.handOut framing allocated with
    | mk answer =>
      rw [hanswer] at hhand hstands hclock
      cases answer with
      | none => exact hhand
      | some pend =>
        refine hhand.commit_deliver hdel (hstands pend rfl) hgrant hall ?_
        rw [hclock]
        exact hlast
  | clear | resetQueue | push | expire | resetAssembler => exact hprompt.elim

end Lockstep

/-- Both ends stay in step along every prompt run. -/
theorem packetLink_lockstep (h : Delivers framing receiver Holds) {ops : List PacketOp}
    (hprompt : (packetLink framing receiver).Along (fun link op => link.Prompt receiver op)
      (PacketLink.fresh receiver) ops) : Lockstep framing Holds
      ((packetLink framing receiver).run (PacketLink.fresh receiver : PacketLink E A) ops) := by
  refine hprompt.invariant (P := Lockstep framing Holds) (Lockstep.fresh h) ?_
  intro link op hstep hmet
  exact hstep.step h hmet

end Roost.Peer
