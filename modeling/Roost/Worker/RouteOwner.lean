-- SUMMARY: The worker's owner of browser input routes.
import Roost.Base.Index
import Roost.Base.Transducer

/-!
# Input routes

A browser claims the input route of a session before any of its bytes may reach the keeper.
An admitted claim blocks the route and starts an attempt, which waits for the keeper's lane on
a task of its own. Once granted it settles: the route becomes active under a fresh epoch, or
retires. Meanwhile connections close, sessions end and devices are revoked.

Each section of code that holds the owner's lock is one step. The clock, the session table,
the budget's facts, the lane and the minted epochs are the environment's.
-/

namespace Roost.Worker

/-- How long a retired route fences its revision, in milliseconds. -/
def terminalInputRouteTombstone : Nat := 60000

/-- The most routes the owner holds. -/
def terminalInputRouteMaxEntries : Nat := 8192

def routeIdentifierMaxBytes : Nat := 128

def maxRouteRevision : Nat := 2 ^ 63 - 1

def routeClaimBusy : String := "route_claim_busy"

/-- Who is claiming: a device, its tab, and the connection it spoke on. -/
structure RouteActor where
  deviceFingerprint : String
  tabId : String
  connectionId : String
  deriving DecidableEq

/-- The claim fields the owner reads. -/
structure RouteClaim where
  requestId : String
  sessionId : String
  revision : Nat
  workerEpoch : String
  deriving DecidableEq

/-- The one result shape every claim answers with. -/
structure RouteResult where
  requestId : String
  sessionId : String
  revision : Nat
  accepted : Bool
  latestRevision : Nat
  inputRouteEpoch : String
  workerEpoch : String
  reason : String
  deriving DecidableEq

def routeResult (claim : RouteClaim) (workerEpoch : String) (accepted : Bool)
    (latestRevision : Nat) (inputRouteEpoch reason : String) : RouteResult where
  requestId := claim.requestId
  sessionId := claim.sessionId
  revision := claim.revision
  accepted := accepted
  latestRevision := latestRevision
  inputRouteEpoch := inputRouteEpoch
  workerEpoch := workerEpoch
  reason := reason

/-- A device, its tab and a session. -/
structure RouteKey where
  deviceFingerprint : String
  tabId : String
  sessionId : String
  deriving DecidableEq

def routeKey (actor : RouteActor) (sessionId : String) : RouteKey :=
  ⟨actor.deviceFingerprint, actor.tabId, sessionId⟩

def validIdentifier (value : String) : Bool :=
  decide (value ≠ "") && decide (value.utf8ByteSize ≤ routeIdentifierMaxBytes)

def validActor (actor : RouteActor) : Bool :=
  validIdentifier actor.deviceFingerprint && validIdentifier actor.tabId &&
    validIdentifier actor.connectionId

inductive RouteStatus where
  | active
  | blocked
  | retired
  deriving DecidableEq

/-- The attempt a route waits on. -/
structure PendingAttempt where
  id : Nat
  connectionId : String

structure RouteEntry where
  actor : RouteActor
  sessionId : String
  latestRevision : Nat
  inputRouteEpoch : Option String
  status : RouteStatus
  retiredUntil : Option Nat
  latestClaim : RouteClaim
  latestResult : Option RouteResult
  pending : Option PendingAttempt

/-- How far an attempt's task has come. -/
inductive AttemptStage where
  /-- It waits for the lane, or for its cancellation. -/
  | waiting
  /-- The lane was granted; the route has not been settled. -/
  | granted
  /-- It was cancelled, has answered, and waits for its ticket to drain. -/
  | draining
  | finished
  deriving DecidableEq

/-- What an attempt's task owns, its cancellation and its published result. -/
structure Attempt where
  key : RouteKey
  claim : RouteClaim
  channelId : UInt16
  connectionId : String
  /-- Why it was cancelled; the first reason wins. -/
  cancel : Option String
  outcome : Option RouteResult
  stage : AttemptStage

/-- The owner's table, and the attempts that were ever started. -/
structure RouteState where
  workerEpoch : String
  routes : Table RouteKey RouteEntry
  revokedDevices : Finset String
  revokeOverflow : Bool
  disposed : Bool
  nextAttempt : Nat
  attempts : Nat → Option Attempt

/-- What a claim's budget says while it is asked. -/
structure ClaimBudget where
  sessionAuthorized : Bool
  currentConnection : Bool
  expired : Bool
  deriving DecidableEq

/-- What a claim finds outside the owner. -/
structure ClaimEnv where
  nowMs : Nat
  channelId : Option UInt16
  budget : ClaimBudget
  reserveRefusal : Option String
  /-- Why the keeper lane refuses the ticket. -/
  admitRefusal : Option String
  deriving DecidableEq

/-- What a settlement finds outside the owner. -/
structure SettleEnv where
  nowMs : Nat
  channelId : Option UInt16
  budget : ClaimBudget
  /-- The epoch that is minted, if one can be. -/
  epoch : Option String
  deriving DecidableEq

inductive ClaimVerdict where
  | refused (latestRevision : Nat) (reason : String)
  /-- The same claim is under way; its attempt's result is awaited. -/
  | awaited (attempt : Nat)
  /-- The same claim was answered before. -/
  | cached (result : RouteResult)
  /-- The claim has a ticket for the channel's lane. -/
  | admitted (channelId : UInt16)
  deriving DecidableEq

/-- Why a claim may not enter keeper admission, or nothing when it may. -/
def preAdmissionFailure (channelId : Option UInt16) (budget : ClaimBudget) : Option String :=
  if channelId.isNone || !budget.sessionAuthorized then some "terminal session is unavailable"
  else if !budget.currentConnection then some "worker connection superseded"
  else if budget.expired then some "route claim budget expired"
  else none

namespace RouteEntry

variable (entry : RouteEntry)

/-- The tombstone's lease has run out and its ticket has drained. -/
def expired (nowMs : Nat) : Bool :=
  decide (entry.status = .retired) && entry.pending.isNone &&
    entry.retiredUntil.any fun until_ => decide (until_ ≤ nowMs)

def answers (actor : RouteActor) (claim : RouteClaim) : Option ClaimVerdict :=
  let exactLatest := decide (entry.latestClaim.requestId = claim.requestId) &&
    decide (entry.latestClaim.revision = claim.revision) &&
    decide (entry.actor.connectionId = actor.connectionId)
  match exactLatest, entry.pending, entry.latestResult with
  | true, some pending, _ => some (.awaited pending.id)
  | true, none, some latest => some (.cached latest)
  | _, _, _ =>
    if claim.revision ≤ entry.latestRevision then
      some (.refused entry.latestRevision "stale_route_revision")
    else none

/-- The route stops writing and fences its revision for a while. -/
def retire (workerEpoch : String) (nowMs : Nat) (reason : String) : RouteEntry :=
  { entry with
    inputRouteEpoch := none
    status := .retired
    retiredUntil := some (nowMs + terminalInputRouteTombstone)
    latestResult := some (routeResult entry.latestClaim workerEpoch false entry.latestRevision ""
      reason) }

end RouteEntry

/-- The first reason for a cancellation wins. -/
def Attempt.request (attempt : Attempt) (reason : String) : Attempt :=
  { attempt with cancel := attempt.cancel.or (some reason) }

namespace RouteState

def new (workerEpoch : String) : RouteState where
  workerEpoch := workerEpoch
  routes := ∅
  revokedDevices := ∅
  revokeOverflow := false
  disposed := false
  nextAttempt := 0
  attempts _ := none

variable (state : RouteState)

/-- The device may not write and may not claim. -/
def fenced (deviceFingerprint : String) : Bool :=
  state.revokeOverflow || decide (deviceFingerprint ∈ state.revokedDevices)

/-- Drop tombstones whose lease has run out and whose ticket has drained. -/
def pruneRetired (nowMs : Nat) : RouteState :=
  { state with routes := state.routes.retain fun _ entry => !entry.expired nowMs }

def setAttempt (id : Nat) (attempt : Attempt) : RouteState :=
  { state with attempts := Function.update state.attempts id (some attempt) }

def setEntry (key : RouteKey) (entry : RouteEntry) : RouteState :=
  { state with routes := state.routes.insert key entry }

/-! ## Queries -/

variable (actor : RouteActor)

def isCurrent (sessionId epoch : String) : Bool :=
  if !validActor actor || !validIdentifier sessionId || decide (epoch = "") then false
  else if state.fenced actor.deviceFingerprint then false
  else
    (state.routes.lookup (routeKey actor sessionId)).any fun entry =>
      decide (entry.status = .active) &&
        decide (entry.actor.connectionId = actor.connectionId) &&
        decide (entry.inputRouteEpoch = some epoch)

/-- Whether epoch-less input may pass: never while a route exists for this actor and session,
until its tombstone has run out. -/
def allowsLegacyInput (sessionId : String) (nowMs : Nat) : RouteState × Bool :=
  if !validActor actor || !validIdentifier sessionId then (state, false)
  else if state.fenced actor.deviceFingerprint then (state, false)
  else
    let key := routeKey actor sessionId
    match state.routes.lookup key with
    | none => (state, true)
    | some entry =>
      if entry.expired nowMs then ({ state with routes := state.routes.erase key }, true)
      else (state, false)

/-! ## Claims -/

/-- What a claim comes to, after the tombstones were pruned. -/
def claimVerdict (claim : RouteClaim) (env : ClaimEnv) : ClaimVerdict :=
  if !validActor actor || !validIdentifier claim.requestId || !validIdentifier claim.sessionId ||
      !validIdentifier claim.workerEpoch || decide (claim.revision = 0) ||
      decide (claim.revision > maxRouteRevision) then
    .refused 0 "invalid_route_claim"
  else if state.disposed then .refused 0 routeClaimBusy
  else if state.fenced actor.deviceFingerprint then .refused 0 "device_revoked"
  else if claim.workerEpoch ≠ state.workerEpoch then .refused 0 "worker_epoch_mismatch"
  else
    let existing := state.routes.lookup (routeKey actor claim.sessionId)
    match existing.bind fun entry => entry.answers actor claim with
    | some verdict => verdict
    | none =>
      let latestRevision := existing.elim 0 RouteEntry.latestRevision
      match preAdmissionFailure env.channelId env.budget with
      | some failure => .refused latestRevision failure
      | none =>
        if existing.isNone && decide (state.routes.keys.length ≥ terminalInputRouteMaxEntries) then
          .refused 0 routeClaimBusy
        else if existing.any fun entry => entry.pending.isSome then
          .refused latestRevision routeClaimBusy
        else
          match env.reserveRefusal, env.channelId, env.admitRefusal with
          | some reason, _, _ => .refused latestRevision reason
          | none, none, _ => .refused latestRevision "terminal session is unavailable"
          | none, some _, some reason => .refused latestRevision reason
          | none, some channelId, none => .admitted channelId

def blockedEntry (claim : RouteClaim) (attempt : Nat) : RouteEntry where
  actor := actor
  sessionId := claim.sessionId
  latestRevision := claim.revision
  inputRouteEpoch := none
  status := .blocked
  retiredUntil := none
  latestClaim := claim
  latestResult := none
  pending := some ⟨attempt, actor.connectionId⟩

def admitClaim (claim : RouteClaim) (channelId : UInt16) : RouteState :=
  let attempt := state.nextAttempt + 1
  let key := routeKey actor claim.sessionId
  ({ state with nextAttempt := attempt : RouteState }.setEntry key
      (blockedEntry actor claim attempt)).setAttempt attempt
    { key, claim, channelId, connectionId := actor.connectionId, cancel := none, outcome := none,
      stage := .waiting }

def claim (actor : RouteActor) (claim : RouteClaim) (env : ClaimEnv) : RouteState × ClaimVerdict :=
  let state := state.pruneRetired env.nowMs
  match state.claimVerdict actor claim env with
  | .admitted channelId => (state.admitClaim actor claim channelId, .admitted channelId)
  | verdict => (state, verdict)

/-! ## Attempts -/

/-- Take a step only an attempt at one stage can take. -/
def atStage (id : Nat) (stage : AttemptStage) (f : Attempt → RouteState × Option RouteResult) :
    RouteState × Option RouteResult :=
  match state.attempts id with
  | none => (state, none)
  | some attempt => if attempt.stage = stage then f attempt else (state, none)

/-- The lane is granted before the task noticed a cancellation. -/
def grant (id : Nat) : RouteState :=
  (state.atStage id .waiting fun attempt =>
    (state.setAttempt id { attempt with stage := .granted }, none)).1

def noticeCancel (id : Nat) : RouteState × Option RouteResult :=
  state.atStage id .waiting fun attempt =>
    match attempt.cancel with
    | none => (state, none)
    | some reason =>
      let result := routeResult attempt.claim state.workerEpoch false attempt.claim.revision ""
        reason
      (state.setAttempt id { attempt with stage := .draining, outcome := some result }, some result)

/-- A cancelled attempt's ticket has drained: the entry stops waiting on it. -/
def clearDrainedPending (key : RouteKey) (id nowMs : Nat) : RouteState :=
  match state.routes.lookup key with
  | none => state
  | some entry =>
    if entry.status = .retired ∧ entry.pending.any (fun pending => decide (pending.id = id)) then
      (state.setEntry key { entry with pending := none }).pruneRetired nowMs
    else state

/-- The ticket of a cancelled attempt drains. -/
def drain (id nowMs : Nat) : RouteState :=
  (state.atStage id .draining fun attempt =>
    ((state.clearDrainedPending attempt.key id nowMs).setAttempt id
      { attempt with stage := .finished }, none)).1

def isSettling (attempt : Attempt) (id : Nat) (entry : RouteEntry) : Bool :=
  !state.disposed && (entry.pending.any fun pending => decide (pending.id = id)) &&
    decide (entry.status = .blocked) && decide (entry.latestRevision = attempt.claim.revision) &&
    decide (entry.actor.connectionId = attempt.connectionId)

def settleGranted (attempt : Attempt) (id : Nat) (env : SettleEnv) : RouteState × RouteResult :=
  let stillHere := decide (env.channelId = some attempt.channelId)
  let reason := attempt.cancel.getD "route_claim_retired"
  match state.routes.lookup attempt.key with
  | none =>
    (state, routeResult attempt.claim state.workerEpoch false attempt.claim.revision "" reason)
  | some entry =>
    if !state.isSettling attempt id entry then
      (state, routeResult attempt.claim state.workerEpoch false entry.latestRevision "" reason)
    else
      let fail reason :=
        (state.setEntry attempt.key { entry with
            inputRouteEpoch := none
            status := .retired
            retiredUntil := some (env.nowMs + terminalInputRouteTombstone)
            pending := none
            latestResult := some (routeResult attempt.claim state.workerEpoch false
              entry.latestRevision "" reason) },
          routeResult attempt.claim state.workerEpoch false entry.latestRevision "" reason)
      match preAdmissionFailure (if stillHere then some attempt.channelId else none) env.budget,
          env.epoch with
      | some reason, _ => fail reason
      | none, none => fail "route epoch could not be minted"
      | none, some epoch =>
        let result := routeResult attempt.claim state.workerEpoch true entry.latestRevision epoch ""
        (state.setEntry attempt.key { entry with
            inputRouteEpoch := some epoch
            status := .active
            retiredUntil := none
            pending := none
            latestResult := some result },
          result)

/-- A granted attempt settles, gives its ticket back and publishes its result. -/
def settle (id : Nat) (env : SettleEnv) : RouteState × Option RouteResult :=
  state.atStage id .granted fun attempt =>
    let (state, result) := state.settleGranted attempt id env
    (state.setAttempt id { attempt with stage := .finished, outcome := some result }, some result)

/-! ## Retirement -/

/-- Cancel the attempts some entries wait on. -/
def cancelPending (selects : RouteEntry → Bool) (reason : String) : RouteState :=
  let waitsOn id := state.routes.entries.any fun entry =>
    selects entry.2 && entry.2.pending.any fun pending => decide (pending.id = id)
  { state with
    attempts := fun id => (state.attempts id).map fun attempt =>
      if waitsOn id then attempt.request reason else attempt }

def retireWhere (identifier : String) (selects : RouteEntry → Bool) (nowMs : Nat) : RouteState :=
  if !validIdentifier identifier then state
  else
    let state := (state.pruneRetired nowMs).cancelPending selects "route_retired"
    { state with
      routes := state.routes.mapValues fun _ entry =>
        if selects entry then entry.retire state.workerEpoch nowMs "route_retired" else entry }

def retireConnection (connectionId : String) (nowMs : Nat) : RouteState :=
  state.retireWhere connectionId (fun entry =>
    decide (entry.actor.connectionId = connectionId) ||
      entry.pending.any fun pending => decide (pending.connectionId = connectionId)) nowMs

def retireSession (sessionId : String) (nowMs : Nat) : RouteState :=
  state.retireWhere sessionId (fun entry => decide (entry.sessionId = sessionId)) nowMs

/-- The first half of a revocation: the device is fenced out. -/
def revokeDevice (deviceFingerprint : String) : RouteState :=
  if !validIdentifier deviceFingerprint then state
  else if state.revokedDevices.card ≥ terminalInputRouteMaxEntries then
    { state with revokeOverflow := true }
  else { state with revokedDevices := insert deviceFingerprint state.revokedDevices }

/-- The second half: the device's routes are retired. -/
def retireDevice (deviceFingerprint : String) (nowMs : Nat) : RouteState :=
  state.retireWhere deviceFingerprint
    (fun entry => decide (entry.actor.deviceFingerprint = deviceFingerprint)) nowMs

/-- Cancel every pending claim and forget every route. -/
def dispose : RouteState :=
  if state.disposed then state
  else
    { state.cancelPending (fun _ => true) "route_owner_disposed" with
      disposed := true, routes := ∅, revokedDevices := ∅ }

end RouteState

/-! ## The owner as a machine -/

/-- One step of the owner, or of an attempt's task. -/
inductive RouteOp where
  | claim (actor : RouteActor) (claim : RouteClaim) (env : ClaimEnv)
  | grant (attempt : Nat)
  | noticeCancel (attempt : Nat)
  | drain (attempt nowMs : Nat)
  | settle (attempt : Nat) (env : SettleEnv)
  | allowsLegacyInput (actor : RouteActor) (sessionId : String) (nowMs : Nat)
  | retireConnection (connectionId : String) (nowMs : Nat)
  | retireSession (sessionId : String) (nowMs : Nat)
  | revokeDevice (deviceFingerprint : String)
  | retireDevice (deviceFingerprint : String) (nowMs : Nat)
  | dispose
  deriving DecidableEq

/-- What a step answers. -/
inductive RouteAnswer where
  | claimed (verdict : ClaimVerdict)
  | settled (result : Option RouteResult)
  | allowed (allowed : Bool)
  | done

/-- The owner and its attempts as a machine. -/
def routeOwner : Transducer RouteState RouteOp RouteAnswer where
  step
    | state, .claim actor claim env => (state.claim actor claim env).map id .claimed
    | state, .grant attempt => (state.grant attempt, .done)
    | state, .noticeCancel attempt => (state.noticeCancel attempt).map id .settled
    | state, .drain attempt nowMs => (state.drain attempt nowMs, .done)
    | state, .settle attempt env => (state.settle attempt env).map id .settled
    | state, .allowsLegacyInput actor sessionId nowMs =>
      (state.allowsLegacyInput actor sessionId nowMs).map id .allowed
    | state, .retireConnection connectionId nowMs =>
      (state.retireConnection connectionId nowMs, .done)
    | state, .retireSession sessionId nowMs => (state.retireSession sessionId nowMs, .done)
    | state, .revokeDevice deviceFingerprint => (state.revokeDevice deviceFingerprint, .done)
    | state, .retireDevice deviceFingerprint nowMs =>
      (state.retireDevice deviceFingerprint nowMs, .done)
    | state, .dispose => (state.dispose, .done)

end Roost.Worker
