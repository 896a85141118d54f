-- SUMMARY: Agent status updates, and the one order that admits them.
import Roost.Base.Transducer
import Roost.Protocol.TerminalView.Record

/-!
# Agent status order

A revision counts within one occupant of one epoch. Identities that are retired are compared by
equality only; a bounded number of retired epochs is remembered, oldest first out. An update with
no identity yields for good once an identified one was accepted.
-/

namespace Roost.Agents

/-! ## Statuses -/

structure StatusEpoch where
  value : String
  check : hasUuidShape value = true
  deriving DecidableEq

structure AgentOccupantId where
  value : String
  check : hasUuidShape value = true
  deriving DecidableEq

inductive AgentRuntimeState
  | working
  | blocked
  | idle
  deriving DecidableEq

/-- Where a status was observed. -/
inductive AgentStatusSource
  | integration
  | screen
  deriving DecidableEq

/-- The fencing triple, present only when all three fields are. -/
structure AgentStatusIdentity where
  statusEpoch : StatusEpoch
  occupantId : AgentOccupantId
  source : AgentStatusSource

/-- What the order reads of a status. -/
structure AgentStatusFields where
  state : AgentRuntimeState
  revision : Int
  statusEpoch : Option StatusEpoch
  occupantId : Option AgentOccupantId
  source : Option AgentStatusSource
  deriving DecidableEq

/-- A retained status; it is always active. -/
structure AgentStatus where
  common : AgentStatusFields
  deriving DecidableEq

structure AgentStatusUpdate where
  common : AgentStatusFields
  active : Bool

def agentStatusIdentity (status : AgentStatusFields) : Option AgentStatusIdentity := do
  let statusEpoch ← status.statusEpoch
  let occupantId ← status.occupantId
  let source ← status.source
  return { statusEpoch, occupantId, source }

def sameAgentIdentityOccupant : Option AgentStatusIdentity → Option AgentStatusIdentity → Bool
  | some left, some right =>
    decide (left.statusEpoch = right.statusEpoch) && decide (left.occupantId = right.occupantId)
  | none, none => true
  | _, _ => false

def sameAgentStatusOccupant (left right : AgentStatusFields) : Bool :=
  sameAgentIdentityOccupant (agentStatusIdentity left) (agentStatusIdentity right)

/-! ## The order -/

/-- Retired epochs one session's order remembers. -/
def maxRetiredEpochs : Nat := 64

/-- One session's admission order. -/
structure AgentStatusOrder where
  identifiedAccepted : Bool := false
  legacyRevision : Option Int := none
  /-- Oldest first. -/
  retiredEpochs : List StatusEpoch := []
  retiredOccupantsByEpoch : Table StatusEpoch (List AgentOccupantId) := ∅
  latestStatusEpoch : Option StatusEpoch := none
  latestOccupantId : Option AgentOccupantId := none
  latestState : Option AgentRuntimeState := none
  latestStateChangeRevision : Int := 0

namespace AgentStatusOrder

/-- An order seeded from a row that was handed over rather than observed. -/
def seededFrom : Option AgentStatus → AgentStatusOrder
  | none => {}
  | some held =>
    match agentStatusIdentity held.common with
    | some identity =>
      { identifiedAccepted := true
        latestStatusEpoch := some identity.statusEpoch
        latestOccupantId := some identity.occupantId
        latestState := some held.common.state
        latestStateChangeRevision := held.common.revision }
    | none => { legacyRevision := some held.common.revision }

variable (order : AgentStatusOrder)

def retiredOccupants (statusEpoch : StatusEpoch) : List AgentOccupantId :=
  (order.retiredOccupantsByEpoch.lookup statusEpoch).getD []

def isRetired (identity : AgentStatusIdentity) : Bool :=
  decide (identity.statusEpoch ∈ order.retiredEpochs) ||
    decide (identity.occupantId ∈ order.retiredOccupants identity.statusEpoch)

/-- Whether an update may be applied over what is retained. -/
def accepts (previous : Option AgentStatus) (update : AgentStatusUpdate) : Bool :=
  match agentStatusIdentity update.common with
  | none =>
    if order.identifiedAccepted ||
        previous.any fun held => (agentStatusIdentity held.common).isSome then false
    else if order.legacyRevision.any fun floor => update.common.revision ≤ floor then false
    else update.active || previous.isSome
  | some identity =>
    if order.isRetired identity then false
    else
      match previous with
      | none => update.active
      | some held =>
        -- A first report may take the slot of a status with no identity, a later one may not.
        if (agentStatusIdentity held.common).isNone && decide (1 < update.common.revision) then
          false
        else if (agentStatusIdentity held.common).isNone then update.active
        else if !sameAgentStatusOccupant held.common update.common then update.active
        else decide (held.common.revision < update.common.revision)

def retireOccupant (statusEpoch : StatusEpoch) (occupantId : AgentOccupantId) : AgentStatusOrder :=
  { order with
    retiredOccupantsByEpoch := order.retiredOccupantsByEpoch.insert statusEpoch
      ((order.retiredOccupants statusEpoch).insert occupantId) }

def retireEpoch (statusEpoch : StatusEpoch) : AgentStatusOrder :=
  let order :=
    { order with
      retiredEpochs :=
        if statusEpoch ∈ order.retiredEpochs then order.retiredEpochs
        else order.retiredEpochs ++ [statusEpoch]
      retiredOccupantsByEpoch := order.retiredOccupantsByEpoch.erase statusEpoch }
  if order.retiredEpochs.length ≤ maxRetiredEpochs then order
  else
    match order.retiredEpochs with
    | [] => order
    | oldest :: retiredEpochs =>
      { order with
        retiredEpochs
        retiredOccupantsByEpoch := order.retiredOccupantsByEpoch.erase oldest }

def retireReplaced (identity : AgentStatusIdentity) : AgentStatusOrder :=
  match order.latestStatusEpoch with
  | none => order
  | some previousEpoch =>
    if previousEpoch ≠ identity.statusEpoch then order.retireEpoch previousEpoch
    else
      match order.latestOccupantId with
      | none => order
      | some previousOccupant =>
        if previousOccupant ≠ identity.occupantId then
          order.retireOccupant previousEpoch previousOccupant
        else order

def advanceIdentity (identity : AgentStatusIdentity) : AgentStatusOrder :=
  { order.retireReplaced identity with
    latestStatusEpoch := some identity.statusEpoch
    latestOccupantId := some identity.occupantId }

def record (update : AgentStatusUpdate) : AgentStatusOrder :=
  match agentStatusIdentity update.common with
  | none => { order with legacyRevision := some update.common.revision }
  | some identity =>
    let changed : Bool :=
      decide (order.latestStatusEpoch ≠ some identity.statusEpoch) ||
        decide (order.latestOccupantId ≠ some identity.occupantId) ||
        decide (order.latestState ≠ some update.common.state)
    let order : AgentStatusOrder :=
      { order with
        latestStateChangeRevision :=
          if changed then update.common.revision else order.latestStateChangeRevision
        latestState := some update.common.state
        identifiedAccepted := true }
    let order := order.advanceIdentity identity
    if !update.active then order.retireOccupant identity.statusEpoch identity.occupantId
    else order

/-- Fold the synthetic deletion a close publishes. -/
def recordClose (current : AgentStatus) (inactiveRevision : Int) : AgentStatusOrder :=
  match agentStatusIdentity current.common with
  | some identity =>
    ({ order with identifiedAccepted := true }.advanceIdentity identity).retireOccupant
      identity.statusEpoch identity.occupantId
  | none =>
    { order with
      legacyRevision := some (order.legacyRevision.elim inactiveRevision (max · inactiveRevision)) }

end AgentStatusOrder

/-! ## One session -/

/-- One session's order and the row it retains. -/
structure StatusRow where
  order : AgentStatusOrder
  retained : Option AgentStatus

/-- What arrives for one session: a frame, or its close. -/
inductive Report
  | update (update : AgentStatusUpdate)
  | close (inactiveRevision : Int)

namespace StatusRow

/-- A session whose row, if it has one, was handed over. -/
def seeded (retained : Option AgentStatus) : StatusRow :=
  { order := .seededFrom retained, retained }

variable (row : StatusRow)

/-- Refused frames change nothing; an accepted one is recorded, and retained unless inactive. -/
def apply : Report → StatusRow × Bool
  | .update update =>
    if !row.order.accepts row.retained update then (row, false)
    else
      ({ order := row.order.record update
         retained := if update.active then some { common := update.common } else none }, true)
  | .close inactiveRevision =>
    match row.retained with
    | none => (row, false)
    | some current =>
      ({ order := row.order.recordClose current inactiveRevision, retained := none }, true)

end StatusRow

/-- One session's reports in the order they are handled, each answered whether it was taken. -/
def statuses : Transducer StatusRow Report Bool where
  step := StatusRow.apply

end Roost.Agents
