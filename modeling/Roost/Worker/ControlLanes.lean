-- SUMMARY: The per-channel control lanes of a worker, step by step.
import Roost.Base.FairGate
import Roost.Base.Index
import Roost.Base.Transducer

/-!
# Control lanes

A transaction looks its channel's lane up, or makes one; counts itself in; waits for the
lane's permit; runs; gives the permit back; counts itself out; and takes the lane out of the
table if nobody is counted in. Each of these is one step, and the steps of any number of
transactions interleave. A transaction may be dropped while it waits and while it runs.

The counter is a 32-bit word. A dropped transaction never counts itself out.
-/

namespace Roost.Worker

/-- A whole transaction that owns the grid. -/
inductive ControlKind where
  | terminalStream
  | terminalKill
  deriving DecidableEq

/-- One channel's lane. -/
structure Lane (τ : Type) where
  gate : Gate τ
  /-- Transactions queued or holding; zero makes the lane removable. -/
  waiting : Nat
  /-- What a report names as running. -/
  running : Option ControlKind

def Lane.new {τ : Type} : Lane τ := ⟨.idle, 0, none⟩

/-- The values of the lane's counter. -/
def waitingModulus : Nat := 2 ^ 32

/-- How far one call of `enqueue` has come. -/
inductive Stage where
  /-- It has its lane and has not counted itself in. -/
  | found
  | counted
  /-- It asked for the permit; it may have been given it since. -/
  | queued
  | running
  /-- The permit is given back, the count is not. -/
  | released
  | discounted
  /-- It read a zero count and is about to take the lane out of the table. -/
  | forgetting
  | done
  /-- Dropped before it started. -/
  | withdrawn
  /-- Dropped, or it panicked, while it ran. -/
  | aborted
  deriving DecidableEq

/-- The transaction still has to pass its lane, or is passing it. -/
def Stage.onLane : Stage → Bool
  | .found | .counted | .queued | .running => true
  | _ => false

/-- The transaction is in its lane's line. -/
def Stage.inLine : Stage → Bool
  | .queued | .running => true
  | _ => false

structure Call (κ : Type) where
  channel : κ
  kind : ControlKind
  lane : Nat
  stage : Stage
  deriving DecidableEq

/-- The table of lanes, the lanes that were ever made, and where every call stands. -/
structure ControlLanes (κ τ : Type) where
  control : Table κ Nat
  lanes : Nat → Lane τ
  allocated : Nat
  calls : τ → Option (Call κ)

/-- One atomic step of one task. -/
inductive LaneOp (κ τ : Type) where
  | lookup (task : τ) (channel : κ) (kind : ControlKind)
  | count (task : τ)
  | acquire (task : τ)
  | start (task : τ)
  | release (task : τ)
  | discount (task : τ)
  | check (task : τ)
  | forget (task : τ)
  | cancel (task : τ)

/-- What a step shows: a transaction joined its lane's line, or started. -/
inductive LaneEvent (κ τ : Type) where
  | queued (channel : κ) (task : τ)
  | started (channel : κ) (task : τ)

namespace ControlLanes

variable {κ τ : Type} [DecidableEq κ] [DecidableEq τ]

def new : ControlLanes κ τ := ⟨∅, fun _ => .new, 0, fun _ => none⟩

variable (lanes : ControlLanes κ τ) (task : τ)

omit [DecidableEq κ] [DecidableEq τ] in
/-- Change one lane in place. -/
def modifyLane (lane : Nat) (f : Lane τ → Lane τ) : ControlLanes κ τ :=
  { lanes with lanes := Function.update lanes.lanes lane (f (lanes.lanes lane)) }

omit [DecidableEq κ] in
def setCall (call : Call κ) : ControlLanes κ τ :=
  { lanes with calls := Function.update lanes.calls task (some call) }

def lane (channel : κ) : ControlLanes κ τ × Nat :=
  match lanes.control.lookup channel with
  | some lane => (lanes, lane)
  | none =>
    ({ lanes with
      control := lanes.control.insert channel lanes.allocated
      lanes := Function.update lanes.lanes lanes.allocated .new
      allocated := lanes.allocated + 1 }, lanes.allocated)

/-- The call takes the lane out of the table: it is the channel's lane, and nobody is counted. -/
def removes (call : Call κ) : Prop :=
  lanes.control.lookup call.channel = some call.lane ∧ (lanes.lanes call.lane).waiting = 0
  deriving Decidable

/-- Drop an idle lane from the table. -/
def forgetIfIdle (call : Call κ) : ControlLanes κ τ :=
  if lanes.removes call then { lanes with control := lanes.control.erase call.channel } else lanes

/-- Take a step only a call at one stage can take. -/
def atStage (stage : Stage)
    (f : Call κ → ControlLanes κ τ × Option (LaneEvent κ τ)) :
    ControlLanes κ τ × Option (LaneEvent κ τ) :=
  match lanes.calls task with
  | none => (lanes, none)
  | some call => if call.stage = stage then f call else (lanes, none)

/-- The lane is looked up, under the table's lock. -/
def lookupStep (channel : κ) (kind : ControlKind) : ControlLanes κ τ :=
  match lanes.calls task with
  | some _ => lanes
  | none =>
    let (lanes, lane) := lanes.lane channel
    lanes.setCall task { channel, kind, lane, stage := .found }

/-- The call counts itself in. -/
def countStep : ControlLanes κ τ × Option (LaneEvent κ τ) :=
  lanes.atStage task .found fun call =>
    ((lanes.modifyLane call.lane fun lane =>
        { lane with waiting := (lane.waiting + 1) % waitingModulus }).setCall task
          { call with stage := .counted }, none)

/-- The call asks for the permit. -/
def acquireStep : ControlLanes κ τ × Option (LaneEvent κ τ) :=
  lanes.atStage task .counted fun call =>
    ((lanes.modifyLane call.lane fun lane =>
        { lane with gate := lane.gate.acquire task }).setCall task { call with stage := .queued },
      some (.queued call.channel task))

/-- The call runs, once it has the permit. -/
def startStep : ControlLanes κ τ × Option (LaneEvent κ τ) :=
  lanes.atStage task .queued fun call =>
    if (lanes.lanes call.lane).gate.holder = some task then
      ((lanes.modifyLane call.lane fun lane =>
          { lane with running := some call.kind }).setCall task { call with stage := .running },
        some (.started call.channel task))
    else (lanes, none)

/-- The call is over and gives its permit back. -/
def releaseStep : ControlLanes κ τ × Option (LaneEvent κ τ) :=
  lanes.atStage task .running fun call =>
    ((lanes.modifyLane call.lane fun lane =>
        { lane with running := none, gate := lane.gate.release }).setCall task
          { call with stage := .released }, none)

/-- The call counts itself out. -/
def discountStep : ControlLanes κ τ × Option (LaneEvent κ τ) :=
  lanes.atStage task .released fun call =>
    ((lanes.modifyLane call.lane fun lane =>
        { lane with waiting := (lane.waiting + waitingModulus - 1) % waitingModulus }).setCall task
          { call with stage := .discounted }, none)

/-- The count is read once without the table's lock. -/
def checkStep : ControlLanes κ τ × Option (LaneEvent κ τ) :=
  lanes.atStage task .discounted fun call =>
    (lanes.setCall task
      { call with
        stage := if (lanes.lanes call.lane).waiting = 0 then .forgetting else .done }, none)

/-- The count is read again under the table's lock, and an idle lane goes. -/
def forgetStep : ControlLanes κ τ × Option (LaneEvent κ τ) :=
  lanes.atStage task .forgetting fun call =>
    ((lanes.forgetIfIdle call).setCall task { call with stage := .done }, none)

/-- A call that waits or runs is dropped. What it reported as running stays reported. -/
def cancelStep : ControlLanes κ τ :=
  match lanes.calls task with
  | none => lanes
  | some call =>
    match call.stage with
    | .queued =>
      (lanes.modifyLane call.lane fun lane =>
        { lane with gate := lane.gate.leave task }).setCall task { call with stage := .withdrawn }
    | .running =>
      (lanes.modifyLane call.lane fun lane =>
        { lane with gate := lane.gate.leave task }).setCall task { call with stage := .aborted }
    | _ => lanes

/-- The lanes as a machine over the steps of all tasks. A step whose task is not there yet
changes nothing. -/
def machine : Transducer (ControlLanes κ τ) (LaneOp κ τ) (Option (LaneEvent κ τ)) where
  step
    | lanes, .lookup task channel kind => (lanes.lookupStep task channel kind, none)
    | lanes, .count task => lanes.countStep task
    | lanes, .acquire task => lanes.acquireStep task
    | lanes, .start task => lanes.startStep task
    | lanes, .release task => lanes.releaseStep task
    | lanes, .discount task => lanes.discountStep task
    | lanes, .check task => lanes.checkStep task
    | lanes, .forget task => lanes.forgetStep task
    | lanes, .cancel task => (lanes.cancelStep task, none)

/-! ## What is asked of the lanes -/

omit [DecidableEq κ] [DecidableEq τ] in
/-- A transaction of the channel is running. -/
def Runs (channel : κ) : Prop :=
  ∃ call, lanes.calls task = some call ∧ call.channel = channel ∧ call.stage = .running

def queuedOf (channel : κ) (past : List (LaneOp κ τ × Option (LaneEvent κ τ))) : List τ :=
  past.filterMap fun taken =>
    match taken.2 with
    | some (.queued other task) => if other = channel then some task else none
    | _ => none

def startedOf (channel : κ) (past : List (LaneOp κ τ × Option (LaneEvent κ τ))) : List τ :=
  past.filterMap fun taken =>
    match taken.2 with
    | some (.started other task) => if other = channel then some task else none
    | _ => none

omit [DecidableEq κ] [DecidableEq τ] in
/-- The transaction was dropped before it started. -/
def withdrew : Bool := (lanes.calls task).any fun call => decide (call.stage = .withdrawn)

/-- A step that takes a lane out of the table finds no task that has looked this lane up and
not yet passed it. -/
def KeepsFoundLanes (lanes : ControlLanes κ τ) : LaneOp κ τ → Prop
  | .forget task => ∀ call ∈ lanes.calls task, call.stage = .forgetting → lanes.removes call →
      ∀ other, ∀ found ∈ lanes.calls other, found.lane = call.lane → found.stage.onLane = false
  | _ => True

instance [Fintype τ] (lanes : ControlLanes κ τ) (op : LaneOp κ τ) :
    Decidable (KeepsFoundLanes lanes op) := by
  cases op <;> dsimp only [KeepsFoundLanes] <;> infer_instance

end ControlLanes

end Roost.Worker
