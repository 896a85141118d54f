-- SUMMARY: The second-version recovery task, one step for every lock it takes.
import Roost.Coord.Sync.Backfill

/-!
# Recovery through a cutoff

A second-version socket fixes a cutoff once its feed is listening, replays the closed interval
above its cursor in pages while live events wait, and then releases the held tail. A live
event that cannot be held abandons the recovery. Whatever the task does between two locks can
be interleaved with the feed.
-/

namespace Roost.Coord.Sync

variable {ε : Type}

/-- Where the recovery task stands between two of its locks. -/
inductive RecoveryPhase (ε : Type) where
  /-- It reads the end of the log. -/
  | start
  /-- The cursor was ahead of the log and has been rewound. -/
  | rewound
  | paging (cursor cutoff : Nat)
  | rows (rest : List (StoredEvent ε)) (cursor cutoff : Nat)
  /-- The frame of a row waits for the socket's queue. -/
  | delivering (row : StoredEvent ε) (rest : List (StoredEvent ε)) (cutoff : Nat)
  /-- The queue took the frame; the replay has not been told. -/
  | recovered (row : StoredEvent ε) (rest : List (StoredEvent ε)) (cutoff : Nat)
  | tail (cutoff : Nat)
  /-- The frame of a held event waits for the socket's queue. -/
  | releasing (message : SessionBusMessage ε) (cutoff : Nat)
  | done
  | stopped

/-- The recovery reached its cutoff and released what it held. -/
def RecoveryPhase.isDone : RecoveryPhase ε → Bool
  | .done => true
  | _ => false

/-- One resuming socket: its replay, its task, and what was routed, recovered and handed to it
so far, by id. -/
structure Recovery (ε : Type) where
  since : Nat
  replay : SessionReplay ε
  phase : RecoveryPhase ε
  closed : Bool
  /-- The stamps of the live events routed, in order. -/
  live : List Nat
  /-- The rows whose frames the socket took, in order. -/
  rows : List Nat
  /-- The stamps of all frames handed to the socket, in order. -/
  handed : List Nat

namespace Recovery

/-- A socket that resumes from `since`. -/
def new (since : Nat) : Recovery ε where
  since := since
  replay := .new since true
  phase := .start
  closed := false
  live := []
  rows := []
  handed := []

/-- What can happen to a resuming socket. The answers of the log are the environment's. -/
inductive Op (ε : Type) where
  | live (message : SessionBusMessage ε)
  | readCutoff (logEnd : Nat)
  | readPage (rows : List (StoredEvent ε))
  | readFails
  /-- The task takes its next lock. -/
  | advance
  /-- The frame that waits for the socket's queue is given up. -/
  | refuse
  | close

variable (estimatedBytes : ε → Nat) (recovery : Recovery ε)

def hand (frame : Option (SessionBusMessage ε)) : Recovery ε :=
  { recovery with handed := recovery.handed ++ (frame.map SessionBusMessage.stamp).toList }

/-- Abandon the recovery; a closed socket is left alone. -/
def abortRecovery : Recovery ε :=
  { recovery with
    phase := .stopped
    replay := if recovery.closed then recovery.replay else recovery.replay.abort.1 }

/-- End a recovery a live event has not already abandoned. -/
def stopRecovery : Recovery ε :=
  { recovery with
    phase := .stopped
    replay :=
      if recovery.closed ∨ recovery.replay.aborted then recovery.replay
      else recovery.replay.abort.1 }

/-- Whether the task may go on handing frames. -/
def gone : Prop := recovery.closed = true ∨ recovery.replay.aborted = true
  deriving Decidable

def onLive (message : SessionBusMessage ε) : Recovery ε × Option (SessionBusMessage ε) :=
  if recovery.closed then (recovery, none)
  else
    let (replay, frame) := routeSession estimatedBytes recovery.replay message
    ({ recovery with replay, live := recovery.live ++ [message.stamp] : Recovery ε }.hand frame,
      frame)

def onCutoff (logEnd : Nat) : Recovery ε :=
  match recovery.phase with
  | .start =>
    if logEnd < recovery.since then
      { recovery with
        phase := .rewound
        replay :=
          if recovery.closed then recovery.replay else recovery.replay.rewindToLogEnd logEnd }
    else { recovery with phase := .paging recovery.since logEnd }
  | _ => recovery

def onPage (page : List (StoredEvent ε)) : Recovery ε :=
  match recovery.phase with
  | .paging cursor cutoff =>
    if cursor < cutoff then
      if page.isEmpty then recovery.stopRecovery
      else { recovery with phase := .rows page cursor cutoff }
    else recovery
  | _ => recovery

def onReadFailure : Recovery ε :=
  match recovery.phase with
  | .start => recovery.abortRecovery
  | .paging cursor cutoff => if cursor < cutoff then recovery.abortRecovery else recovery
  | _ => recovery

/-- The next row of a page: in order, and while the socket is still there. -/
def nextRow (row : StoredEvent ε) (rest : List (StoredEvent ε)) (cursor cutoff : Nat) :
    Recovery ε :=
  if row.id ≤ cursor ∨ row.id > cutoff then recovery.stopRecovery
  else if recovery.gone then { recovery with phase := .stopped }
  else
    match emitSessionFrame (.committed row.event row.id) with
    | none => { recovery with phase := .recovered row rest cutoff }
    | some _ => { recovery with phase := .delivering row rest cutoff }

def nextHeld (cutoff : Nat) : Recovery ε :=
  if recovery.gone then { recovery with phase := .stopped }
  else
    match recovery.replay.popRecoveryTail cutoff with
    | (replay, none) => { recovery with replay, phase := .done }
    | (replay, some message) =>
      match emitSessionFrame message with
      | none => { recovery with replay }
      | some frame => { recovery with replay, phase := .releasing frame cutoff }

/-- The task's next lock, and the frame it hands over under it. -/
def advance : Recovery ε × Option (SessionBusMessage ε) :=
  match recovery.phase with
  | .rewound => (recovery.stopRecovery, none)
  | .paging cursor cutoff =>
    (if cursor < cutoff then recovery else { recovery with phase := .tail cutoff }, none)
  | .rows [] cursor cutoff => ({ recovery with phase := .paging cursor cutoff }, none)
  | .rows (row :: rest) cursor cutoff => (recovery.nextRow row rest cursor cutoff, none)
  | .delivering row rest cutoff =>
    if recovery.gone then (recovery.stopRecovery, none)
    else
      let frame := some (SessionBusMessage.committed row.event row.id)
      ({ recovery with
          phase := .recovered row rest cutoff, rows := recovery.rows ++ [row.id] : Recovery ε
        }.hand frame, frame)
  | .recovered row rest cutoff =>
    ({ recovery with
        replay := (recovery.replay.admitRecovered row.id).1
        phase := .rows rest row.id cutoff }, none)
  | .tail cutoff => (recovery.nextHeld cutoff, none)
  | .releasing message cutoff =>
    if recovery.gone then (recovery.stopRecovery, none)
    else ({ recovery with phase := .tail cutoff : Recovery ε }.hand (some message), some message)
  | .start => (recovery, none)
  | .done => (recovery, none)
  | .stopped => (recovery, none)

def onRefusal : Recovery ε :=
  match recovery.phase with
  | .delivering .. => recovery.stopRecovery
  | .releasing .. => recovery.stopRecovery
  | _ => recovery

/-- The resuming socket as a machine that answers with the frame it is handed. -/
def machine : Transducer (Recovery ε) (Op ε) (Option (SessionBusMessage ε)) where
  step
    | recovery, .live message => recovery.onLive estimatedBytes message
    | recovery, .readCutoff logEnd => (recovery.onCutoff logEnd, none)
    | recovery, .readPage page => (recovery.onPage page, none)
    | recovery, .readFails => (recovery.onReadFailure, none)
    | recovery, .advance => recovery.advance
    | recovery, .refuse => (recovery.onRefusal, none)
    | recovery, .close => ({ recovery with closed := true }, none)

end Recovery

end Roost.Coord.Sync
