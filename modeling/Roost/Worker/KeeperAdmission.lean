-- SUMMARY: The write-ordering lane of a keeper channel.
import Mathlib.Data.List.Sort
import Roost.Base.Transducer

/-!
# The admission lane

A keeper write takes a ticket in the order it was received, waits for its turn, and gives the lane
back once it is on the wire. The lane remembers who holds it and who waits; a ticket shares a
cancellation flag with its place in the queue, and a notification that is its turn. A release is
two steps, since the ticket is marked before the lane's lock is taken, and steps of any number of
tickets interleave.

The receiving end of a notification is dropped with the future that awaits it.
-/

namespace Roost.Worker

def keeperUpdateWriteRefusal : String := "keeper update preparation blocks terminal writes"

/-- One keeper write. -/
inductive AdmissionKind where
  | terminalResize
  | terminalInput
  | queryReply

/-- Whether this write is refused while a keeper replacement is prepared. -/
def AdmissionKind.blockedByKeeperUpdate : AdmissionKind → Bool
  | .terminalResize | .terminalInput => true
  | .queryReply => false

/-- A ticket, or the refusal that ended this attempt. -/
inductive Admission where
  | granted (ticket : Nat)
  | refused (reason : String)

/-- What has become of a ticket's notification. -/
inductive Notification where
  | pending
  | sent
  /-- The sending end is gone, and nothing was sent. -/
  | closed
  deriving DecidableEq

/-- Where the receiving end is. -/
inductive Turn where
  | kept
  /-- A call of `granted` awaits it. -/
  | awaited
  | gone
  deriving DecidableEq

structure AdmissionTicket where
  kind : AdmissionKind
  notification : Notification
  turn : Turn
  cancelled : Bool
  released : Bool

namespace AdmissionTicket

variable (ticket : AdmissionTicket)

def new (kind : AdmissionKind) (notification : Notification) : AdmissionTicket :=
  ⟨kind, notification, .kept, false, false⟩

/-- A notification sent to the ticket would reach no one who wants it. -/
def withdrawn : Bool := ticket.cancelled || decide (ticket.turn = .gone)

/-- The ticket is queued, and would take its turn. -/
def waits : Bool := decide (ticket.notification = .pending) && !ticket.withdrawn

/-- It is the ticket's turn, and the lane was not given back. -/
def holds : Bool := decide (ticket.notification = .sent) && !ticket.released

def notified : AdmissionTicket := { ticket with notification := .sent }

def closed : AdmissionTicket := { ticket with notification := .closed }

def cancel : AdmissionTicket := { ticket with cancelled := true }

end AdmissionTicket

/-- Who holds the lane, and who was admitted and has not entered, oldest first. -/
structure AdmissionOrder where
  holder : Option Nat
  waiters : List Nat

/-- One channel's write-ordering lane, and every ticket it issued. -/
structure AdmissionLane where
  keeperUpdatePrepared : Bool
  order : AdmissionOrder
  tickets : List AdmissionTicket
  /-- Writers queued or holding. -/
  waiting : UInt32
  /-- What a report names as running. -/
  running : Option AdmissionKind

/-- What a step answers, and the ticket it was the turn of. -/
structure AdmissionAnswer where
  admission : Option Admission
  turn : Option Nat

def AdmissionAnswer.none : AdmissionAnswer := ⟨.none, .none⟩

namespace AdmissionLane

def new : AdmissionLane := ⟨false, ⟨none, []⟩, [], 0, none⟩

variable (lane : AdmissionLane)

/-- Wake the next writer in queue order. A withdrawn ticket is skipped. -/
def handOff (tickets : List AdmissionTicket) : List Nat → AdmissionOrder × List AdmissionTicket
  | [] => (⟨none, []⟩, tickets)
  | waiter :: waiters =>
    if tickets[waiter]?.any fun ticket => ticket.withdrawn then
      handOff (tickets.modify waiter AdmissionTicket.closed) waiters
    else (⟨some waiter, waiters⟩, tickets.modify waiter AdmissionTicket.notified)

/-- Take the write-ordering lane, or be refused outright; an idle lane grants now. -/
def admitWrite (kind : AdmissionKind) : AdmissionLane × AdmissionAnswer :=
  if kind.blockedByKeeperUpdate ∧ lane.keeperUpdatePrepared then
    (lane, ⟨some (.refused keeperUpdateWriteRefusal), none⟩)
  else
    let ticket := lane.tickets.length
    let lane := { lane with waiting := lane.waiting + 1 }
    match lane.order.holder with
    | none =>
      ({ lane with
          order := { lane.order with holder := some ticket }
          tickets := lane.tickets ++ [.new kind .sent] },
        ⟨some (.granted ticket), some ticket⟩)
    | some _ =>
      ({ lane with
          order := { lane.order with waiters := lane.order.waiters ++ [ticket] }
          tickets := lane.tickets ++ [.new kind .pending] },
        ⟨some (.granted ticket), none⟩)

variable (ticket : Nat)

def modifyTicket (f : AdmissionTicket → AdmissionTicket) : AdmissionLane :=
  { lane with tickets := lane.tickets.modify ticket f }

/-- `granted` is called: a ticket that was released takes nothing, else its turn is awaited. -/
def awaitTurn : AdmissionLane :=
  lane.modifyTicket ticket fun ticket =>
    if ticket.released ∨ ticket.turn ≠ .kept then ticket else { ticket with turn := .awaited }

/-- `granted` is polled, and returns once the notification was sent or closed. -/
def pollTurn : AdmissionLane :=
  match lane.tickets[ticket]? with
  | none => lane
  | some found =>
    if found.turn ≠ .awaited then lane
    else
      match found.notification with
      | .pending => lane
      | .closed => lane.modifyTicket ticket fun ticket => { ticket with turn := .gone }
      | .sent =>
        { lane with running := some found.kind }.modifyTicket ticket fun ticket =>
          { ticket with turn := .gone }

/-- The future of `granted` is dropped. -/
def abandonTurn : AdmissionLane :=
  lane.modifyTicket ticket fun ticket =>
    if ticket.turn = .awaited then { ticket with turn := .gone } else ticket

def markReleased : AdmissionLane :=
  if lane.tickets[ticket]?.any fun ticket => !ticket.released then
    { lane with running := none }.modifyTicket ticket fun ticket => { ticket with released := true }
  else lane

/-- A release that marked its ticket is still to take the lane's lock. -/
def releasing : Bool :=
  lane.tickets[ticket]?.any fun ticket => ticket.released && !ticket.cancelled

/-- A release takes the lane's lock: the ticket is cancelled, and a holder hands the lane on. -/
def giveBack : AdmissionLane × AdmissionAnswer :=
  if !lane.releasing ticket then (lane, .none)
  else
    let lane := lane.modifyTicket ticket AdmissionTicket.cancel
    let lane := { lane with waiting := lane.waiting - 1 }
    if lane.order.holder ≠ some ticket then (lane, .none)
    else
      let (order, tickets) := handOff lane.tickets lane.order.waiters
      ({ lane with order, tickets }, ⟨none, order.holder⟩)

/-- A released ticket is dropped, and what is left of its receiving end with it. -/
def dropTicket : AdmissionLane :=
  lane.modifyTicket ticket fun ticket =>
    if ticket.cancelled then { ticket with turn := .gone } else ticket

end AdmissionLane

/-- One atomic step. -/
inductive AdmissionOp where
  | admitWrite (kind : AdmissionKind)
  | setKeeperUpdatePrepared (prepared : Bool)
  | awaitTurn (ticket : Nat)
  | pollTurn (ticket : Nat)
  | abandonTurn (ticket : Nat)
  | markReleased (ticket : Nat)
  | giveBack (ticket : Nat)
  | dropTicket (ticket : Nat)

/-- The lane as a machine over the steps of all its writers. -/
def admissionLane : Transducer AdmissionLane AdmissionOp AdmissionAnswer where
  step
    | lane, .admitWrite kind => lane.admitWrite kind
    | lane, .setKeeperUpdatePrepared prepared =>
      ({ lane with keeperUpdatePrepared := prepared }, .none)
    | lane, .awaitTurn ticket => (lane.awaitTurn ticket, .none)
    | lane, .pollTurn ticket => (lane.pollTurn ticket, .none)
    | lane, .abandonTurn ticket => (lane.abandonTurn ticket, .none)
    | lane, .markReleased ticket => (lane.markReleased ticket, .none)
    | lane, .giveBack ticket => lane.giveBack ticket
    | lane, .dropTicket ticket => (lane.dropTicket ticket, .none)

end Roost.Worker
