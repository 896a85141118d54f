-- SUMMARY: The two framings deliver exactly what was committed.
import Roost.Protocol.Peer.TerminalPackets
import Roost.Protocol.Peer.AttachmentPackets
import Roost.Protocol.Peer.PacketLockstep

/-!
# The two framings

Each framing's assembler is a receiver of fragments: a packet of a fragment that continues the
message in progress is taken as such. What remains of either lane is the shared link.
-/

namespace Roost.Peer

open Option (all_some any_some elim_none elim_some map_none map_some)

open Attachment PacketLink PacketQuota
open TerminalPeerPacketAssembler (copySinglePacket stalled)
open AttachmentTransferPacketAssembler (begin)

/-! ## The terminal peer -/

/-- The header a fragment travels under. -/
abbrev headerOf (fragment : Fragment UInt8) : PacketHeader :=
  { messageId := fragment.messageId
    totalBytes := fragment.totalBytes
    offsetBytes := fragment.offsetBytes }

section Terminal

variable {lane : TerminalPeerPacketLane}

def terminalReceiver (lane : TerminalPeerPacketLane) :
    Receiver TerminalPeerPacketError TerminalPeerPacketAssembler where
  fresh := {}
  push assembler packet nowMs room := assembler.push lane packet nowMs room
  expire assembler nowMs := assembler.expire nowMs
  reset assembler := assembler.reset
  quota assembler := assembler.quota
  retained assembler := assembler.partialMessage.elim 0 (·.totalBytes)
  stallMs := terminalPeerPacketStallMs

/-- The open assembler holds the first bytes of its buffer. -/
structure TerminalHolds (assembler : TerminalPeerPacketAssembler) (receiving : Receiving UInt8)
    (last : Option Nat) : Prop where
  isOpen : assembler.closed = false
  completed : assembler.lastCompletedMessageId = receiving.lastCompleted
  gathering : receiving.gathering = assembler.partialMessage.map fun partialMessage =>
    { messageId := partialMessage.messageId
      totalBytes := partialMessage.totalBytes
      bytes := partialMessage.bytes.take partialMessage.nextOffset }
  buffer : ∀ partialMessage, assembler.partialMessage = some partialMessage →
    partialMessage.bytes.length = partialMessage.totalBytes ∧
      partialMessage.nextOffset ≤ partialMessage.totalBytes ∧
      last = some partialMessage.lastFragmentAtMs

theorem TerminalPeerPacketLane.maxBytes_lt (lane : TerminalPeerPacketLane) :
    lane.maxBytes < 2 ^ 32 := by
  cases lane <;> decide

theorem parse_terminalFraming_packet {fragment : Fragment UInt8} {held : Bool}
    {packet : List UInt8} (hfits : (terminalFraming lane).Fits fragment)
    (h : (terminalFraming lane).packet held fragment = .ok packet) :
    parseTerminalPeerPacket lane packet = .ok (headerOf fragment, fragment.payload) := by
  have htotal : fragment.totalBytes < 2 ^ 32 :=
    Nat.lt_of_le_of_lt hfits.totalBytes_le lane.maxBytes_lt
  have hparsed := parse_encodeTerminalPeerPacket hfits.messageId_le h
  rw [Nat.mod_eq_of_lt htotal] at hparsed
  exact hparsed

namespace TerminalHolds

variable {assembler : TerminalPeerPacketAssembler} {receiving receiving' : Receiving UInt8}
  {last : Option Nat} {fragment : Fragment UInt8} {msg : Option (List UInt8)}
  {room : Room}

theorem begin (h : TerminalHolds assembler receiving last) (nowMs : Nat)
    (hfits : (terminalFraming lane).Fits fragment) (hbuf : assembler.partialMessage = none)
    (haccept : receiving.accept fragment = some (receiving', msg))
    (hgrant : room.granted = true) (hall : room.allocated = true) :
    ∃ assembler', assembler.begin (headerOf fragment) fragment.payload nowMs room =
        (.ok msg, assembler') ∧ TerminalHolds assembler' receiving' (some nowMs) := by
  have hgather := h.gathering
  rw [hbuf, map_none] at hgather
  have hinside := hfits.inside
  have hmax := hfits.messageId_le
  simp only [Receiving.accept, hgather] at haccept
  split at haccept
  · next hfirst =>
    obtain ⟨hid, hoffset⟩ := hfirst
    have hwrap : ¬ assembler.lastCompletedMessageId = u32Max := by
      have := h.completed
      omega
    have hnext : fragment.messageId = assembler.lastCompletedMessageId + 1 := by
      rw [h.completed, hid]
    simp only [TerminalPeerPacketAssembler.begin, hwrap, if_false, ne_eq, hnext, hoffset,
      not_true_eq_false, copySinglePacket, hgrant, hall,
      Bool.not_true, Bool.false_eq_true]
    split at haccept
    · next hwhole =>
      cases haccept
      rw [if_pos hwhole]
      exact ⟨_, rfl, h.isOpen, hnext.symm, by rw [hbuf]; rfl,
        fun _ hsome => by rw [hbuf] at hsome; cases hsome⟩
    rename_i hpart
    cases haccept
    rw [if_neg hpart]
    refine ⟨_, rfl, h.isOpen, h.completed, ?_, ?_⟩
    · rw [map_some, List.take_left' rfl, ← hnext]
    intro partialMessage hsome
    cases hsome
    refine ⟨?_, ?_, rfl⟩
    · dsimp only
      rw [List.length_append, List.length_replicate]
      omega
    · dsimp only
      omega
  · cases haccept

theorem acceptNext (h : TerminalHolds assembler receiving last) (nowMs : Nat)
    (hfits : (terminalFraming lane).Fits fragment) {partialMessage : TerminalPartialMessage}
    (hbuf : assembler.partialMessage = some partialMessage)
    (haccept : receiving.accept fragment = some (receiving', msg)) :
    ∃ assembler', assembler.acceptNext partialMessage (headerOf fragment) fragment.payload nowMs =
        (.ok msg, assembler') ∧ TerminalHolds assembler' receiving' (some nowMs) := by
  have hgather := h.gathering
  rw [hbuf, map_some] at hgather
  obtain ⟨hbuffer, hfilled, -⟩ := h.buffer partialMessage hbuf
  have hinside := hfits.inside
  simp only [Receiving.accept, hgather] at haccept
  have htaken : (partialMessage.bytes.take partialMessage.nextOffset).length =
      partialMessage.nextOffset := by
    rw [List.length_take]
    omega
  have hwritten : (partialMessage.bytes.take partialMessage.nextOffset ++ fragment.payload).length =
      partialMessage.nextOffset + fragment.payload.length := by
    rw [List.length_append, htaken]
  rw [htaken, hwritten] at haccept
  split at haccept
  · next hcont =>
    obtain ⟨hid, htotal, hoffset⟩ := hcont
    simp only [TerminalPeerPacketAssembler.acceptNext, hid, htotal, hoffset, ne_eq,
      not_true_eq_false, or_self, if_false]
    split at haccept
    · next hwhole =>
      cases haccept
      have hrest : partialMessage.bytes.drop
          (partialMessage.nextOffset + fragment.payload.length) = [] :=
        List.drop_eq_nil_of_le (by omega)
      rw [if_neg (not_not_intro hwhole), hrest, List.append_nil]
      exact ⟨_, rfl, h.isOpen, rfl, rfl, fun _ hsome => by cases hsome⟩
    rename_i hpart
    cases haccept
    rw [if_pos hpart]
    refine ⟨_, rfl, h.isOpen, h.completed, ?_, ?_⟩
    · rw [map_some, List.take_left' hwritten]
    intro other hsome
    cases hsome
    refine ⟨?_, ?_, rfl⟩
    · dsimp only
      rw [List.length_append, hwritten, List.length_drop]
      omega
    · dsimp only
      omega
  · cases haccept

end TerminalHolds

theorem terminal_delivers (lane : TerminalPeerPacketLane) :
    Delivers (terminalFraming lane) (terminalReceiver lane) TerminalHolds where
  payload_pos := by
    change 0 < terminalPeerPacketMaxPayloadBytes
    decide
  refused := by
    intro fragment held error hfits herror
    have htotal : fragment.totalBytes < 2 ^ 32 :=
      Nat.lt_of_le_of_lt hfits.totalBytes_le lane.maxBytes_lt
    have hmax := hfits.totalBytes_le
    have hpos := hfits.payload_pos
    have hle := hfits.payload_le
    have hinside := hfits.inside
    have hfields : assertTerminalPacketFields lane
        { messageId := fragment.messageId
          totalBytes := fragment.totalBytes % 2 ^ 32
          offsetBytes := fragment.offsetBytes } fragment.payload.length = .ok () := by
      rw [Nat.mod_eq_of_lt htotal]
      exact assertFields_eq_ok.mpr ⟨hfits.messageId_pos, by dsimp only; omega, hmax, hpos, hle,
        hinside⟩
    simp only [Framing.packet, terminalFraming, encodeTerminalPeerPacket, hfields] at herror
    cases herror
  fresh := ⟨rfl, rfl, rfl, fun _ hsome => nomatch hsome⟩
  accepts := by
    intro asm receiving last fragment held packet receiving' msg nowMs room hholds
      hfits hpacket haccept hgrant hall hprompt
    have hparsed := parse_terminalFraming_packet hfits hpacket
    change ∃ assembler', asm.push lane packet nowMs room = (.ok msg, assembler') ∧ _
    cases hbuf : asm.partialMessage with
    | none =>
      have hstall : asm.stalled nowMs = false := by
        rw [stalled, hbuf]
        rfl
      obtain ⟨assembler', hbegin, hholds'⟩ :=
        hholds.begin nowMs hfits hbuf haccept hgrant hall
      refine ⟨assembler', ?_, hholds'⟩
      simp only [TerminalPeerPacketAssembler.push, hholds.isOpen, Bool.false_eq_true, if_false,
        TerminalPeerPacketAssembler.accept, hstall, hparsed, hbuf, hbegin]
    | some partialMessage =>
      obtain ⟨-, -, hlast⟩ := hholds.buffer partialMessage hbuf
      have hstall : asm.stalled nowMs = false := by
        rw [hlast, all_some, decide_eq_true_eq] at hprompt
        change _ < terminalPeerPacketStallMs at hprompt
        rw [stalled, hbuf, any_some, decide_eq_false_iff_not]
        omega
      obtain ⟨assembler', hnext, hholds'⟩ :=
        hholds.acceptNext nowMs hfits hbuf haccept
      refine ⟨assembler', ?_, hholds'⟩
      simp only [TerminalPeerPacketAssembler.push, hholds.isOpen, Bool.false_eq_true, if_false,
        TerminalPeerPacketAssembler.accept, hstall, hparsed, hbuf, hnext]

namespace TerminalPeerPacketAssembler

variable {assembler : TerminalPeerPacketAssembler}

/-- What a terminal lane's assembler reserved and did not release is its buffer. -/
def Balanced (assembler : TerminalPeerPacketAssembler) : Prop :=
  assembler.quota.reserved =
    assembler.quota.released + assembler.partialMessage.elim 0 (·.totalBytes)

section

variable (h : assembler.Balanced)
include h

theorem Balanced.releasePartial : assembler.releasePartial.Balanced := by
  unfold Balanced TerminalPeerPacketAssembler.releasePartial at *
  cases hbuf : assembler.partialMessage with
  | none => simpa [hbuf] using h
  | some => simpa [hbuf, release] using h

theorem Balanced.close : assembler.close.Balanced := by
  have hclosed : ({ assembler with closed := true } : TerminalPeerPacketAssembler).Balanced := h
  exact hclosed.releasePartial

theorem Balanced.reset : assembler.reset.Balanced := h.releasePartial

theorem Balanced.expire (nowMs : Nat) : (assembler.expire nowMs).2.Balanced := by
  unfold TerminalPeerPacketAssembler.expire
  split
  · exact h.close
  · exact h

theorem Balanced.begin (hbuf : assembler.partialMessage = none)
    (header : PacketHeader) (body : List UInt8) (nowMs : Nat) (room : Room) :
    (assembler.begin header body nowMs room).2.Balanced := by
  unfold Balanced at *
  rw [hbuf, elim_none] at h
  unfold TerminalPeerPacketAssembler.begin
  split
  · simpa [hbuf] using h
  split
  · simpa [hbuf] using h
  split
  · simpa [hbuf] using h
  split
  · -- One packet: its reservation is released within the call, copied or not.
    cases hgrant : room.granted with
    | false => simpa [copySinglePacket, hgrant, hbuf] using h
    | true =>
      cases hall : room.allocated with
      | false | true =>
        simp [copySinglePacket, hgrant, hall, hbuf, reserve, release, h]
  split
  · simpa [hbuf] using h
  split
  · simp [hbuf, reserve, release, h]
  · simp [reserve, h]

theorem Balanced.acceptNext {partialMessage : TerminalPartialMessage}
    (hbuf : assembler.partialMessage = some partialMessage) (header : PacketHeader)
    (body : List UInt8) (nowMs : Nat) :
    (assembler.acceptNext partialMessage header body nowMs).2.Balanced := by
  unfold Balanced at *
  rw [hbuf, elim_some] at h
  unfold TerminalPeerPacketAssembler.acceptNext
  split
  · simpa [hbuf] using h
  dsimp only
  split
  · simpa using h
  · simpa [release] using h

theorem Balanced.accept (lane : TerminalPeerPacketLane) (packet : List UInt8) (nowMs : Nat)
    (room : Room) : (assembler.accept lane packet nowMs room).2.Balanced := by
  unfold TerminalPeerPacketAssembler.accept
  split
  · exact h
  cases parseTerminalPeerPacket lane packet with
  | error => exact h
  | ok parsed =>
    cases hbuf : assembler.partialMessage with
    | none => exact h.begin hbuf parsed.1 parsed.2 nowMs room
    | some => exact h.acceptNext hbuf parsed.1 parsed.2 nowMs

theorem Balanced.push (lane : TerminalPeerPacketLane) (packet : List UInt8) (nowMs : Nat)
    (room : Room) : (assembler.push lane packet nowMs room).2.Balanced := by
  have hacc := h.accept lane packet nowMs room
  unfold TerminalPeerPacketAssembler.push
  split
  · exact h
  cases hanswer : assembler.accept lane packet nowMs room with
  | mk answer =>
    rw [hanswer] at hacc
    cases answer with
    | ok => exact hacc
    | error => exact hacc.close

end

end TerminalPeerPacketAssembler

theorem terminal_conserves (lane : TerminalPeerPacketLane) : (terminalReceiver lane).Conserves where
  fresh := rfl
  push := by
    intro asm packet nowMs room h
    exact TerminalPeerPacketAssembler.Balanced.push h lane packet nowMs room
  expire := by
    intro asm nowMs h
    exact TerminalPeerPacketAssembler.Balanced.expire h nowMs
  reset := by
    intro asm h
    exact TerminalPeerPacketAssembler.Balanced.reset h

end Terminal

/-! ## The attachment transfer -/

section Attachment

/-- The attachment channel's assembler. -/
def attachmentReceiver :
    Receiver AttachmentTransferPacketError AttachmentTransferPacketAssembler where
  fresh := {}
  push assembler packet nowMs room := assembler.push packet nowMs room
  expire assembler nowMs := assembler.expire nowMs
  reset assembler := assembler.reset
  quota assembler := assembler.quota
  retained assembler := assembler.partialMessage.elim 0 (·.totalBytes)
  stallMs := packetStallMs

structure AttachmentHolds (assembler : AttachmentTransferPacketAssembler)
    (receiving : Receiving UInt8) (last : Option Nat) : Prop where
  isOpen : assembler.closed = false
  completed : assembler.lastCompletedMessageId = receiving.lastCompleted
  gathering : receiving.gathering = assembler.partialMessage.map fun partialMessage =>
    { messageId := partialMessage.messageId
      totalBytes := partialMessage.totalBytes
      bytes := partialMessage.bytes }
  pushedLast : ∀ partialMessage, assembler.partialMessage = some partialMessage →
    last = some partialMessage.lastFragmentAtMs

theorem parse_attachmentFraming_packet {fragment : Fragment UInt8} {held : Bool}
    {packet : List UInt8} (hfits : attachmentFraming.Fits fragment)
    (h : attachmentFraming.packet held fragment = .ok packet) :
    parseAttachmentTransferPacket packet = .ok (headerOf fragment, fragment.payload) := by
  simp only [Framing.packet, attachmentFraming] at h
  split at h
  · cases h
  split at h
  · cases h
  exact parse_encodeAttachmentTransferPacket hfits.messageId_le h

namespace AttachmentHolds

variable {assembler : AttachmentTransferPacketAssembler} {receiving receiving' : Receiving UInt8}
  {last : Option Nat} {fragment : Fragment UInt8} {msg : Option (List UInt8)}
  {room : Room}

theorem accept (h : AttachmentHolds assembler receiving last) (nowMs : Nat)
    (hfits : attachmentFraming.Fits fragment)
    (haccept : receiving.accept fragment = some (receiving', msg))
    (hgrant : room.granted = true) (hall : room.allocated = true) :
    ∃ assembler', assembler.accept (headerOf fragment) fragment.payload nowMs room =
        (.ok msg, assembler') ∧ AttachmentHolds assembler' receiving' (some nowMs) := by
  have hgather := h.gathering
  have hmax := hfits.messageId_le
  cases hbuf : assembler.partialMessage with
  | none =>
    rw [hbuf, map_none] at hgather
    simp only [Receiving.accept, hgather] at haccept
    split at haccept
    · next hfirst =>
      obtain ⟨hid, hoffset⟩ := hfirst
      have hwrap : ¬ assembler.lastCompletedMessageId = u32Max := by
        have := h.completed
        omega
      have hnext : fragment.messageId = assembler.lastCompletedMessageId + 1 := by
        rw [h.completed, hid]
      simp only [AttachmentTransferPacketAssembler.accept, hbuf,
        begin, hwrap, if_false, ne_eq, hnext, hoffset,
        not_true_eq_false, or_self, hgrant, hall, Bool.not_true, Bool.false_eq_true]
      split at haccept
      · next hwhole =>
        cases haccept
        rw [if_pos hwhole]
        exact ⟨_, rfl, h.isOpen, hnext.symm, rfl, fun _ hsome => by cases hsome⟩
      rename_i hpart
      cases haccept
      rw [if_neg hpart]
      refine ⟨_, rfl, h.isOpen, h.completed, ?_, ?_⟩
      · rw [map_some, ← hnext]
      · intro partialMessage hsome
        cases hsome
        rfl
    · cases haccept
  | some partialMessage =>
    rw [hbuf, map_some] at hgather
    simp only [Receiving.accept, hgather] at haccept
    split at haccept
    · next hcont =>
      obtain ⟨hid, htotal, hoffset⟩ := hcont
      simp only [AttachmentTransferPacketAssembler.accept, hbuf, hid, htotal, hoffset, ne_eq,
        not_true_eq_false, or_self, if_false]
      split at haccept
      · next hwhole =>
        cases haccept
        rw [if_neg (not_not_intro hwhole)]
        exact ⟨_, rfl, h.isOpen, rfl, rfl, fun _ hsome => by cases hsome⟩
      rename_i hpart
      cases haccept
      rw [if_pos hpart]
      refine ⟨_, rfl, h.isOpen, h.completed, rfl, ?_⟩
      intro other hsome
      cases hsome
      rfl
    · cases haccept

end AttachmentHolds

theorem attachment_delivers : Delivers attachmentFraming attachmentReceiver AttachmentHolds where
  payload_pos := by
    decide
  refused := by
    intro fragment held error hfits herror
    have hcap : packetLogicalFrameMaxBytes ≤ u32Max := by decide
    have hmax : fragment.totalBytes ≤ packetLogicalFrameMaxBytes := hfits.totalBytes_le
    have hpos := hfits.payload_pos
    have hle := hfits.payload_le
    have hinside := hfits.inside
    have hfields : assertPacketFields (headerOf fragment) fragment.payload.length = .ok () :=
      assertFields_eq_ok.mpr ⟨hfits.messageId_pos, by dsimp only; omega, hmax, hpos, hle, hinside⟩
    simp only [Framing.packet, attachmentFraming, encodeAttachmentTransferPacket, hfields] at herror
    rw [if_neg (by omega), if_neg (by omega)] at herror
    cases held with
    | false => cases herror; rfl
    | true => cases herror
  fresh := ⟨rfl, rfl, rfl, fun _ hsome => nomatch hsome⟩
  accepts := by
    intro asm receiving last fragment held packet receiving' msg nowMs room hholds
      hfits hpacket haccept hgrant hall hprompt
    have hparsed := parse_attachmentFraming_packet hfits hpacket
    have hstall : asm.stalled nowMs = false := by
      rw [AttachmentTransferPacketAssembler.stalled]
      cases hbuf : asm.partialMessage with
      | none => rfl
      | some partialMessage =>
        rw [hholds.pushedLast partialMessage hbuf, all_some, decide_eq_true_eq]
          at hprompt
        change _ < packetStallMs at hprompt
        rw [any_some, decide_eq_false_iff_not]
        omega
    obtain ⟨assembler', hacc, hholds'⟩ :=
      hholds.accept nowMs hfits haccept hgrant hall
    refine ⟨assembler', ?_, hholds'⟩
    change asm.push packet nowMs room = (.ok msg, assembler')
    simp only [AttachmentTransferPacketAssembler.push, hholds.isOpen, Bool.false_eq_true, if_false,
      hstall, hparsed, hacc]

namespace AttachmentTransferPacketAssembler

variable {assembler : AttachmentTransferPacketAssembler}

/-- What the attachment channel's assembler reserved and did not release is its buffer. -/
def Balanced (assembler : AttachmentTransferPacketAssembler) : Prop :=
  assembler.quota.reserved =
    assembler.quota.released + assembler.partialMessage.elim 0 (·.totalBytes)

section

variable (h : assembler.Balanced)
include h

theorem Balanced.releasePartial : assembler.releasePartial.Balanced := by
  unfold Balanced AttachmentTransferPacketAssembler.releasePartial at *
  cases hbuf : assembler.partialMessage with
  | none => simpa [hbuf] using h
  | some => simpa [hbuf, release] using h

theorem Balanced.closeInternal : assembler.closeInternal.Balanced := by
  have hclosed : ({ assembler with closed := true } : AttachmentTransferPacketAssembler).Balanced :=
    h
  exact hclosed.releasePartial

theorem Balanced.begin (hbuf : assembler.partialMessage = none)
    (header : PacketHeader) (body : List UInt8) (nowMs : Nat) (room : Room) :
    (assembler.begin header body nowMs room).2.Balanced := by
  unfold Balanced at *
  rw [hbuf, elim_none] at h
  unfold begin
  split
  · simpa [hbuf] using h
  split
  · simpa [hbuf] using h
  split
  · simpa [hbuf] using h
  dsimp only
  split
  · simp [hbuf, reserve, release, h]
  split
  · simp [hbuf, reserve, release, h]
  · simp [reserve, h]

theorem Balanced.accept (header : PacketHeader) (body : List UInt8)
    (nowMs : Nat) (room : Room) : (assembler.accept header body nowMs room).2.Balanced := by
  unfold AttachmentTransferPacketAssembler.accept
  cases hbuf : assembler.partialMessage with
  | none => exact h.begin hbuf header body nowMs room
  | some partialMessage =>
    unfold Balanced at *
    rw [hbuf, elim_some] at h
    dsimp only
    split
    · simpa [hbuf] using h
    split
    · simpa using h
    · simpa [release] using h

theorem Balanced.push (packet : List UInt8) (nowMs : Nat) (room : Room) :
    (assembler.push packet nowMs room).2.Balanced := by
  unfold AttachmentTransferPacketAssembler.push
  split
  · exact h
  split
  · exact h.closeInternal
  cases parseAttachmentTransferPacket packet with
  | error => exact h.closeInternal
  | ok parsed =>
    have hacc := h.accept parsed.1 parsed.2 nowMs room
    dsimp only
    cases hanswer : assembler.accept parsed.1 parsed.2 nowMs room with
    | mk answer =>
      rw [hanswer] at hacc
      cases answer with
      | ok => exact hacc
      | error => exact hacc.closeInternal

theorem Balanced.expire (nowMs : Nat) : (assembler.expire nowMs).2.Balanced := by
  unfold AttachmentTransferPacketAssembler.expire
  split
  · exact h.closeInternal
  · exact h

end

end AttachmentTransferPacketAssembler

theorem attachment_conserves : attachmentReceiver.Conserves where
  fresh := rfl
  push := by
    intro asm packet nowMs room h
    exact AttachmentTransferPacketAssembler.Balanced.push h packet nowMs room
  expire := by
    intro asm nowMs h
    exact AttachmentTransferPacketAssembler.Balanced.expire h nowMs
  reset := by
    intro asm h
    exact AttachmentTransferPacketAssembler.Balanced.releasePartial h

end Attachment

/-! ## Exact delivery and conservation -/

/-- What a lane's framing promises. Along prompt runs the messages received are the ones fully
committed, they and what is still queued are what was accepted, in order and whole while the queue
is open, and no packet is refused; along every run both ends are charged for what they retain. -/
structure Faithful {E A : Type} (framing : Framing E) (receiver : Receiver E A) : Prop where
  delivered : ∀ ops : List PacketOp,
    (packetLink framing receiver).Along (fun link op => link.Prompt receiver op)
      (fresh receiver) ops →
    let link := (packetLink framing receiver).run (fresh receiver) ops
    link.received = link.committed ∧ link.pushErrors = [] ∧
      (∀ error ∈ link.queueErrors, error = framing.allocation) ∧
      link.committed ++ link.queue.messages.map (·.bytes) <+: link.accepted ∧
      (link.queue.closed = false →
        link.committed ++ link.queue.messages.map (·.bytes) = link.accepted)
  conserved : ∀ ops : List PacketOp,
    ((packetLink framing receiver).run (fresh receiver) ops).Balanced receiver

theorem Delivers.faithful {E A : Type} {framing : Framing E} {receiver : Receiver E A}
    {Holds : A → Receiving UInt8 → Option Nat → Prop} (h : Delivers framing receiver Holds)
    (hcons : receiver.Conserves) : Faithful framing receiver where
  delivered := by
    intro ops hprompt
    have hlockstep := packetLink_lockstep h hprompt
    exact ⟨hlockstep.delivered, hlockstep.pushed, hlockstep.handed, hlockstep.inOrder, hlockstep.whole⟩
  conserved := Transducer.invariant (T := packetLink framing receiver) ⟨⟨rfl, rfl⟩, hcons.fresh⟩
    fun _ op h => h.step hcons op

/-- Both framings deliver exactly what was queued and committed, and conserve their quotas. -/
theorem packet_framings_faithful :
    (∀ lane, Faithful (terminalFraming lane) (terminalReceiver lane)) ∧
      Faithful attachmentFraming attachmentReceiver :=
  ⟨fun lane => (terminal_delivers lane).faithful (terminal_conserves lane),
    attachment_delivers.faithful attachment_conserves⟩

/-- A message of two fragments, queued ahead of another. One attempt at it is dropped. -/
def droppedAttempt : List PacketOp :=
  [.enqueue (104 :: 105 :: List.replicate 16400 33) ⟨true, true⟩, .attempt true,
    .enqueue [33] ⟨true, true⟩, .send true 5 ⟨true, true⟩, .send true 6 ⟨true, true⟩]

/-- The dropped attempt is sent again, and the committed message is received once it is whole. -/
theorem dropped_attempt_is_received :
    let after := (packetLink (terminalFraming .control) (terminalReceiver .control)).run
      (fresh (terminalReceiver .control))
    (after (droppedAttempt.take 4)).committed = [] ∧
      (after droppedAttempt).committed.map (·.take 2) = [[104, 105]] ∧
      (after droppedAttempt).received = (after droppedAttempt).committed :=
  ⟨by decide +kernel, by decide +kernel,
    ((packet_framings_faithful.1 .control).delivered _ (by decide +kernel)).1⟩

end Roost.Peer
