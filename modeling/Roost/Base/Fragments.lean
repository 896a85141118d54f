-- SUMMARY: Messages cut into fragments on an ordered channel, sender and receiver in lock step.
import Mathlib.Data.List.Basic

/-!
# Fragments in order

A sender cuts the first message of its queue at a limit and takes a fragment off only once it was
accepted; a receiver gathers one message at a time and takes a fragment only if it is exactly the
next one. In step, the receiver has of the first message what the sender has taken off it, so the
next fragment is accepted and the last one completes the message.
-/

namespace Roost

open List

variable {α : Type}

/-- A part of a message, at an offset. -/
structure Fragment (α : Type) where
  messageId : Nat
  totalBytes : Nat
  offsetBytes : Nat
  payload : List α

/-- A message that is being sent, and how much of it has been. -/
structure Sending (α : Type) where
  messageId : Nat
  bytes : List α
  offsetBytes : Nat

/-- A message that is being received. -/
structure Gathering (α : Type) where
  messageId : Nat
  totalBytes : Nat
  bytes : List α

/-- The number of the last message received whole, and the message in progress. -/
structure Receiving (α : Type) where
  lastCompleted : Nat
  gathering : Option (Gathering α)

namespace Sending

def fragment (limit : Nat) (message : Sending α) : Fragment α where
  messageId := message.messageId
  totalBytes := message.bytes.length
  offsetBytes := message.offsetBytes
  payload := (message.bytes.drop message.offsetBytes).take limit

/-- The queue after a fragment of its first message: the message goes with its last one. -/
def advance (sent : Nat) : List (Sending α) → List (Sending α)
  | [] => []
  | message :: messages =>
    if message.offsetBytes + sent = message.bytes.length then messages
    else { message with offsetBytes := message.offsetBytes + sent } :: messages

end Sending

namespace Receiving

/-- Take a fragment that is exactly the next one, with the message it completes. -/
def accept (receiving : Receiving α) (fragment : Fragment α) :
    Option (Receiving α × Option (List α)) :=
  match receiving.gathering with
  | none =>
    if fragment.messageId = receiving.lastCompleted + 1 ∧ fragment.offsetBytes = 0 then
      if fragment.payload.length = fragment.totalBytes then
        some ({ lastCompleted := fragment.messageId, gathering := none }, some fragment.payload)
      else
        some ({ receiving with
          gathering := some {
            messageId := fragment.messageId
            totalBytes := fragment.totalBytes
            bytes := fragment.payload } }, none)
    else none
  | some gathering =>
    if fragment.messageId = gathering.messageId ∧ fragment.totalBytes = gathering.totalBytes ∧
        fragment.offsetBytes = gathering.bytes.length then
      if (gathering.bytes ++ fragment.payload).length = gathering.totalBytes then
        some ({ lastCompleted := gathering.messageId, gathering := none },
          some (gathering.bytes ++ fragment.payload))
      else
        some ({ receiving with
          gathering := some { gathering with bytes := gathering.bytes ++ fragment.payload } },
          none)
    else none

end Receiving

namespace Sending

variable {msg : Sending α} {limit : Nat}

theorem length_payload : (msg.fragment limit).payload.length =
      min limit (msg.bytes.length - msg.offsetBytes) := by
  simp [fragment]

theorem take_append_payload : msg.bytes.take msg.offsetBytes ++ (msg.fragment limit).payload =
      msg.bytes.take (msg.offsetBytes + (msg.fragment limit).payload.length) := by
  rw [take_add]
  congr 1
  rw [fragment, take_eq_take_iff]
  simp

end Sending

def gatheredOf (message : Sending α) : Option (Gathering α) :=
  if message.offsetBytes = 0 then none
  else some {
    messageId := message.messageId
    totalBytes := message.bytes.length
    bytes := message.bytes.take message.offsetBytes }

/-- The queue's numbers follow the receiver's last one, only its first message has been begun, and
the receiver has gathered just that much of it. -/
structure InStep (messages : List (Sending α)) (receiving : Receiving α) : Prop where
  numbered : messages.map (·.messageId) = range' (receiving.lastCompleted + 1) messages.length
  begun : ∀ message ∈ messages, message.offsetBytes < message.bytes.length
  waiting : ∀ message ∈ messages.tail, message.offsetBytes = 0
  gathered : receiving.gathering = messages.head?.bind gatheredOf

namespace InStep

variable {messages : List (Sending α)} {receiving : Receiving α}

theorem empty (lastCompleted : Nat) :
    InStep ([] : List (Sending α)) { lastCompleted, gathering := none } where
  numbered := rfl
  begun := fun _ h => nomatch h
  waiting := fun _ h => nomatch h
  gathered := rfl

theorem push (h : InStep messages receiving) {bytes : List α} (hbytes : bytes ≠ []) :
    InStep (messages ++ [{
      messageId := receiving.lastCompleted + messages.length + 1, bytes, offsetBytes := 0 }])
      receiving where
  numbered := by
    rw [map_append, h.numbered, length_append, length_singleton, range'_concat,
      map_singleton, Nat.one_mul, Nat.add_right_comm]
  begun := by
    intro msg hmem
    rcases mem_append.mp hmem with hold | hnew
    · exact h.begun msg hold
    · rw [mem_singleton.mp hnew]
      exact length_pos_iff.mpr hbytes
  waiting := by
    intro msg hmem
    cases messages with
    | nil => cases hmem
    | cons =>
      rcases mem_append.mp hmem with hold | hnew
      · exact h.waiting msg hold
      · rw [mem_singleton.mp hnew]
  gathered := by
    rw [h.gathered]
    cases messages <;> rfl

variable {msg : Sending α}

section

variable (h : InStep (msg :: messages) receiving)
include h

theorem tail : InStep messages { lastCompleted := msg.messageId, gathering := none } where
  numbered := by
    have hnumber := h.numbered
    rw [map_cons, length_cons, range'_succ] at hnumber
    obtain ⟨hfirst, hrest⟩ := cons.inj hnumber
    rw [hrest]
    dsimp only
    rw [hfirst]
  begun := fun other hmem => h.begun other (mem_cons_of_mem _ hmem)
  waiting := fun other hmem => h.waiting other (mem_of_mem_tail hmem)
  gathered := by
    cases messages with
    | nil => rfl
    | cons next =>
      have hwait : next.offsetBytes = 0 := h.waiting next mem_cons_self
      simp [gatheredOf, hwait]

theorem messageId_head : msg.messageId = receiving.lastCompleted + 1 := by
  have hnumber := h.numbered
  rw [map_cons, length_cons, range'_succ] at hnumber
  exact (cons.inj hnumber).1

theorem advanced {sent : Nat}
    (hsent : 0 < sent) (hleft : msg.offsetBytes + sent < msg.bytes.length) :
    InStep ({ msg with offsetBytes := msg.offsetBytes + sent } :: messages)
      { receiving with
        gathering := some {
          messageId := msg.messageId
          totalBytes := msg.bytes.length
          bytes := msg.bytes.take (msg.offsetBytes + sent) } } where
  numbered := h.numbered
  begun := by
    intro other hmem
    rcases mem_cons.mp hmem with rfl | hrest
    · exact hleft
    · exact h.begun other (mem_cons_of_mem _ hrest)
  waiting := h.waiting
  gathered := by
    rw [head?_cons, Option.bind_some, gatheredOf, if_neg (by dsimp only; omega)]

end

theorem accept {limit : Nat} (hlimit : 0 < limit)
    (h : InStep (msg :: messages) receiving) :
    ∃ receiving', receiving.accept (msg.fragment limit) = some (receiving',
        if msg.offsetBytes + (msg.fragment limit).payload.length = msg.bytes.length
        then some msg.bytes else none) ∧
      InStep (Sending.advance (msg.fragment limit).payload.length (msg :: messages))
        receiving' ∧
      receiving'.lastCompleted +
          (Sending.advance (msg.fragment limit).payload.length (msg :: messages)).length =
        receiving.lastCompleted + (msg :: messages).length := by
  have hbegun := h.begun msg mem_cons_self
  have hlen : (msg.fragment limit).payload.length = _ := Sending.length_payload
  have hcut : _ ++ (msg.fragment limit).payload = _ := Sending.take_append_payload
  have hid := h.messageId_head
  have hgather := h.gathered
  generalize hsent : (msg.fragment limit).payload.length = sent at hlen hcut ⊢
  have hpos : 0 < sent := by omega
  have hle : msg.offsetBytes + sent ≤ msg.bytes.length := by omega
  have hpre : (msg.fragment limit).offsetBytes =
      (msg.bytes.take msg.offsetBytes).length := by
    rw [length_take, Nat.min_eq_left (Nat.le_of_lt hbegun)]
    rfl
  rw [head?_cons, Option.bind_some] at hgather
  by_cases hlast : msg.offsetBytes + sent = msg.bytes.length
  · -- The last fragment: the message is whole.
    rw [hlast, take_length] at hcut
    refine ⟨{ lastCompleted := msg.messageId, gathering := none }, ?_, ?_, ?_⟩
    · rw [if_pos hlast]
      by_cases hfirst : msg.offsetBytes = 0
      · rw [hfirst, take_zero, nil_append] at hcut
        have hwhole : (msg.fragment limit).payload.length =
            (msg.fragment limit).totalBytes := by
          have htotal : (msg.fragment limit).totalBytes = msg.bytes.length := rfl
          omega
        simp only [Receiving.accept, hgather, gatheredOf, hfirst, if_true]
        rw [if_pos ⟨hid, hfirst⟩, if_pos hwhole, hcut]
        rfl
      · simp only [Receiving.accept, hgather, gatheredOf, hfirst, if_false]
        rw [if_pos ⟨rfl, rfl, hpre⟩, if_pos (by rw [hcut]), hcut]
    · rw [Sending.advance, if_pos hlast]
      exact h.tail
    · rw [Sending.advance, if_pos hlast, hid, length_cons]
      dsimp only
      omega
  · have hleft : msg.offsetBytes + sent < msg.bytes.length := by omega
    have hstep := h.advanced hpos hleft
    rw [Sending.advance, if_neg hlast, if_neg hlast]
    refine ⟨_, ?_, hstep, rfl⟩
    by_cases hfirst : msg.offsetBytes = 0
    · rw [hfirst, take_zero, nil_append] at hcut
      have hpart : ¬ (msg.fragment limit).payload.length =
          (msg.fragment limit).totalBytes := by
        have htotal : (msg.fragment limit).totalBytes = msg.bytes.length := rfl
        omega
      simp only [Receiving.accept, hgather, gatheredOf, hfirst, if_true]
      rw [if_pos ⟨hid, hfirst⟩, if_neg hpart, hcut]
      rfl
    · have hpart : ¬ (msg.bytes.take msg.offsetBytes ++
          (msg.fragment limit).payload).length = msg.bytes.length := by
        rw [hcut, length_take]
        omega
      simp only [Receiving.accept, hgather, gatheredOf, hfirst, if_false]
      rw [if_pos ⟨rfl, rfl, hpre⟩, if_neg hpart, hcut]

end InStep

end Roost
