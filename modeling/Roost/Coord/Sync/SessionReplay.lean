-- SUMMARY: Which durable session events one Sync socket still owes.
import Mathlib.Tactic.Ring
import Mathlib.Data.Finset.Basic
import Roost.Base.OrderedMap

/-!
# Session replay

One cutoff says which events a socket was given already. A first-version socket is handed
live events at once and remembers those its backfill overlaps; a second-version one holds
them until the durable interval below them is out, within a bound.

The size of an event's text is the encoder's and a parameter. Event ids are positive; an
event published without one is unstamped.
-/

namespace Roost.Coord.Sync

/-- Live session events a recovery may hold before it gives up. -/
def recoveryHoldMaxEvents : Nat := 512

/-- Estimated bytes of live session events a recovery may hold. -/
def recoveryHoldMaxBytes : Nat := 4 * 1024 * 1024

/-- Durable session fan-out, with the id its event was committed under. -/
structure SessionBusMessage (ε : Type) where
  event : ε
  eventId : Option Nat

namespace SessionBusMessage

variable {ε : Type}

def committed (event : ε) (eventId : Nat) : SessionBusMessage ε := { event, eventId := some eventId }

def stamp (message : SessionBusMessage ε) : Nat := message.eventId.getD 0

end SessionBusMessage

/-- What to do with one live session event. -/
inductive LiveVerdict (ε : Type) where
  | emit
  | duplicate
  | held
  | abort (reason : String) (emit : Bool) (held : List (SessionBusMessage ε))

/-- One socket's durable-replay bookkeeping. -/
structure SessionReplay (ε : Type) where
  cutoff : Nat
  collectingBoundary : Bool
  boundary : Finset Nat
  held : OrderedMap Nat (SessionBusMessage ε × Nat)
  heldBytes : Nat
  recovering : Bool
  aborted : Bool

namespace SessionReplay

variable {ε : Type}

/-- A socket resuming from `since`, zero for a fresh one. -/
def new (since : Nat) (v2 : Bool) : SessionReplay ε where
  cutoff := since
  collectingBoundary := !v2 && decide (since > 0)
  boundary := ∅
  held := .empty
  heldBytes := 0
  recovering := v2 && decide (since > 0)
  aborted := false

variable (estimatedBytes : ε → Nat) (replay : SessionReplay ε)

/-- One live event of a socket that holds nothing back. -/
def liveNow (eventId : Nat) : SessionReplay ε × LiveVerdict ε :=
  if eventId > 0 then
    if eventId ≤ replay.cutoff ∨ eventId ∈ replay.boundary then (replay, .duplicate)
    else if replay.collectingBoundary then
      ({ replay with boundary := insert eventId replay.boundary }, .emit)
    else (replay, .emit)
  else (replay, .emit)

/-- Stop the recovery and return the held live events, in id order. -/
def abort : SessionReplay ε × List (SessionBusMessage ε) :=
  ({ replay with held := .empty, heldBytes := 0, recovering := false, aborted := true },
    replay.held.values.map Prod.fst)

/-- The bytes held once a message is, a repeat replacing its held copy. -/
def nextBytes (eventId : Nat) (message : SessionBusMessage ε) : Nat :=
  replay.heldBytes - ((replay.held.lookup eventId).map Prod.snd).getD 0 +
    estimatedBytes message.event

/-- Whether holding one more message would exceed what a recovery may hold. -/
def overflows (eventId : Nat) (message : SessionBusMessage ε) : Prop :=
  ((replay.held.lookup eventId).isNone ∧ replay.held.length ≥ recoveryHoldMaxEvents) ∨
    replay.nextBytes estimatedBytes eventId message > recoveryHoldMaxBytes
  deriving Decidable

/-- Hold a live event until the durable interval below it is out. -/
def hold (eventId : Nat) (message : SessionBusMessage ε) : SessionReplay ε :=
  { replay with
    held := replay.held.insert eventId (message, estimatedBytes message.event)
    heldBytes := replay.nextBytes estimatedBytes eventId message }

def admitLive (message : SessionBusMessage ε) : SessionReplay ε × LiveVerdict ε :=
  if !replay.recovering then replay.liveNow message.stamp
  else
    match message.eventId.filter fun id => decide (id > 0) with
    | none =>
      let (replay, held) := replay.abort
      (replay, .abort "unstamped_session_event" false held)
    | some eventId =>
      if replay.overflows estimatedBytes eventId message then
        let (replay, held) := replay.abort
        let (replay, verdict) := replay.liveNow eventId
        let emit := match verdict with
          | .emit => true
          | _ => false
        (replay, .abort "recovery_live_overflow" emit held)
      else (replay.hold estimatedBytes eventId message, .held)

/-- Whether a durable row above the cursor is delivered. Either way the cutoff advances. -/
def admitRecovered (eventId : Nat) : SessionReplay ε × Bool :=
  if eventId ≤ replay.cutoff then (replay, false)
  else
    ({ replay with boundary := replay.boundary.erase eventId, cutoff := eventId },
      !decide (eventId ∈ replay.boundary))

/-- A cursor ahead of the log falls back to its end. -/
def rewindToLogEnd (logEnd : Nat) : SessionReplay ε :=
  { replay with cutoff := min replay.cutoff logEnd }

/-- Release one held event above the durable cutoff. With none left the recovery is over. -/
def popRecoveryTail (cutoff : Nat) : SessionReplay ε × Option (SessionBusMessage ε) :=
  let replay := { replay with cutoff }
  match replay.held.popUntil fun id => decide (id > cutoff ∧ id ∉ replay.boundary) with
  | (dropped, some ((eventId, message, bytes), held)) =>
    ({ replay with
        held
        heldBytes := replay.heldBytes - (dropped.map fun entry => entry.2.2).sum - bytes
        boundary := insert eventId replay.boundary }, some message)
  | (dropped, none) =>
    ({ replay with
        held := .empty
        heldBytes := replay.heldBytes - (dropped.map fun entry => entry.2.2).sum
        recovering := false }, none)

/-- The backfill is over: later live events are no longer remembered. -/
def finishBackfill : SessionReplay ε := { replay with collectingBoundary := false }

end SessionReplay

/-- The frame of one durable session event, as the event it is the frame of. Every event is
taken to have one. -/
def emitSessionFrame {ε : Type} (message : SessionBusMessage ε) : Option (SessionBusMessage ε) :=
  some message

/-- One durable session event off the bus: the frame it hands the socket. -/
def routeSession {ε : Type} (estimatedBytes : ε → Nat) (replay : SessionReplay ε)
    (message : SessionBusMessage ε) : SessionReplay ε × Option (SessionBusMessage ε) :=
  match replay.admitLive estimatedBytes message with
  | (replay, .emit) => (replay, emitSessionFrame message)
  | (replay, .duplicate) => (replay, none)
  | (replay, .held) => (replay, none)
  | (replay, .abort _ emit held) =>
    let last := held.foldl (fun last released => (emitSessionFrame released).or last) none
    (replay, if emit then (emitSessionFrame message).or last else last)

end Roost.Coord.Sync
