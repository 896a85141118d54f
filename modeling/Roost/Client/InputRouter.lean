-- SUMMARY: The client's input router: admission, window, settlement, and claims.
import Mathlib.Data.String.Basic
import Roost.Base.OrderedMap
import Roost.Base.Transducer
import Roost.Client.Liveness

/-!
# Input routing

Each session has a lane of batches, oldest first. A batch is admitted, handed to a transport,
and settled by a result, a timeout, or the loss of its route; held batches wait unsent while
the worker's route is claimed. A batch is put back unsent only when the worker proves it never
wrote it.

Every settled batch is told to the outcome feed. Where the source drops the outcomes a call
makes, the model still says what the feed heard.
-/

namespace Roost.Client

/-- Both tokens name the same connection, whatever domain generation each was minted under. -/
def TerminalToken.sameConnection (token other : TerminalToken) : Bool :=
  decide (token.socketGeneration = other.socketGeneration) &&
    decide (token.processEpoch = other.processEpoch) &&
    decide (token.transport = other.transport) && decide (token.workerFp = other.workerFp)

namespace TerminalToken

variable {token other third : TerminalToken}

theorem sameConnection_iff : token.sameConnection other = true ↔
    token.socketGeneration = other.socketGeneration ∧ token.processEpoch = other.processEpoch ∧
      token.transport = other.transport ∧ token.workerFp = other.workerFp := by
  simp only [sameConnection, Bool.and_eq_true, decide_eq_true_eq, and_assoc]

theorem sameConnection_self (token : TerminalToken) : token.sameConnection token = true :=
  sameConnection_iff.mpr ⟨rfl, rfl, rfl, rfl⟩

theorem sameConnection_trans (h : token.sameConnection other = true)
    (h' : other.sameConnection third = true) : token.sameConnection third = true := by
  obtain ⟨hsock, hepoch, htransport, hworker⟩ := sameConnection_iff.mp h
  obtain ⟨hsock', hepoch', htransport', hworker'⟩ := sameConnection_iff.mp h'
  exact sameConnection_iff.mpr ⟨hsock.trans hsock', hepoch.trans hepoch',
    htransport.trans htransport', hworker.trans hworker'⟩

end TerminalToken

/-! ## Batches and outcomes -/

def maxInputBytes : Nat := 64 * 1024

def maxPendingInputsPerSession : Nat := 200

def maxPendingInputBytesPerSession : Nat := 256 * 1024

/-- Most batches of one session that were handed to a transport and have not settled. -/
def maxStartedInputsPerSession : Nat := 8

def heldInputAdmissionTimeoutMs : Nat := 10000

def inputResultTimeoutMs : Nat := 10000

/-- The highest route revision the wire can carry. -/
def maxTerminalInputRouteRevision : Nat := 2 ^ 63 - 1

def routeClaimTimeoutMs : Nat := 8000

def fallbackClaimAttempts : Nat := 120

def fallbackClaimRetryMs : Nat := 250

/-- What became of one admitted batch. -/
inductive InputOutcome where
  | accepted (inputSeq : Nat) (writtenBytes : UInt32)
  | rejected (inputSeq : Nat) (reason : String)
  | ambiguous (inputSeq : Nat) (writtenBytes : UInt32) (reason : String)

/-- The batch this outcome answers. -/
def InputOutcome.inputSeq : InputOutcome → Nat
  | accepted inputSeq _ => inputSeq
  | rejected inputSeq _ => inputSeq
  | ambiguous inputSeq _ _ => inputSeq

def InputOutcome.isAmbiguous : InputOutcome → Bool
  | ambiguous _ _ _ => true
  | _ => false

/-- One admitted batch's bookkeeping. -/
structure PendingInput where
  sessionId : String
  viewId : Option String
  inputSeq : Nat
  bytes : List UInt8
  /-- The generation the batch was dispatched on; nothing while it is held. -/
  fence : Option TerminalToken
  /-- The bytes have been handed to a transport. -/
  started : Bool
  admittedAtMs : Nat
  startedAtMs : Nat
  deriving DecidableEq

/-- The batch was dispatched on a generation that passes a test. -/
def PendingInput.fencedOn (pending : PendingInput) (p : TerminalToken → Bool) : Bool :=
  pending.fence.any p

/-- The batch once it was handed to a transport. The result timer is armed at the first hand-off. -/
def PendingInput.handedTo (token : TerminalToken) (nowMs : Nat) (pending : PendingInput) :
    PendingInput :=
  { pending with
    startedAtMs := if pending.started then pending.startedAtMs else nowMs
    started := true
    fence := some token }

/-- The batch as it was before it was handed over. -/
def PendingInput.unsent (pending : PendingInput) : PendingInput :=
  { pending with started := false, fence := none, startedAtMs := 0 }

/-- Change the first batch of a sequence. -/
def modifyBatch (inputSeq : Nat) (f : PendingInput → PendingInput) :
    List PendingInput → List PendingInput
  | [] => []
  | pending :: rest =>
    if pending.inputSeq = inputSeq then f pending :: rest
    else pending :: modifyBatch inputSeq f rest

/-- Where a session's input is in its route lifecycle. -/
inductive InputPhase where
  | sending
  | holding
  | claiming
  | blocked
  | closed
  deriving DecidableEq

/-! ## Claims -/

/-- One claim that has not had its answer. -/
structure InputClaim where
  requestId : String
  sessionId : String
  revision : Nat
  token : TerminalToken
  workerEpoch : String
  /-- The staged attempt the claim gates; nothing for a Sync fallback. -/
  attemptId : Option Nat
  sentAtMs : Nat
  retried : Bool
  deriving DecidableEq

/-- A promotion holding a session's input while it drains and claims. -/
structure PromotionHold where
  attemptId : Nat
  token : TerminalToken
  heldAtMs : Nat
  claimSent : Bool
  deriving DecidableEq

/-- A Sync fallback reclaiming a session's input. -/
structure FallbackRecovery where
  workerFp : String
  workerEpoch : String
  attempts : Nat
  nextAtMs : Nat
  deriving DecidableEq

structure RouteClaimState where
  required : Bool
  inFlight : Option InputClaim
  promotion : Option PromotionHold
  fallback : Option FallbackRecovery
  workerEpoch : String
  deriving DecidableEq

def RouteClaimState.new : RouteClaimState := ⟨false, none, none, none, ""⟩

/-- A worker's answer to a claim. -/
structure InputRouteResult where
  requestId : String
  sessionId : String
  revision : Nat
  accepted : Bool
  latestRevision : Nat
  inputRouteEpoch : String
  workerEpoch : String
  reason : String

/-- What one answer did to its claim. -/
inductive ClaimSettlement where
  | accepted (claim : InputClaim)
  | retry (claim : InputClaim)
  | refused (claim : InputClaim) (reason : String)

/-! ## Lanes -/

structure InputLane where
  sessionId : String
  phase : InputPhase
  /-- Outstanding batches, oldest first. -/
  pending : List PendingInput
  pendingBytes : Nat
  routeEpoch : String
  routeRevision : Nat
  routeEpochToken : Option TerminalToken
  ambiguous : List Nat
  claims : RouteClaimState
  deriving DecidableEq

namespace InputLane

def new (sessionId : String) : InputLane where
  sessionId := sessionId
  phase := .sending
  pending := []
  pendingBytes := 0
  routeEpoch := ""
  routeRevision := 0
  routeEpochToken := none
  ambiguous := []
  claims := .new

variable (lane : InputLane)

/-- Settle one batch, keeping the byte accounting right; nothing when it is not there. -/
def settleIn (inputSeq : Nat) : Option InputLane :=
  (lane.pending.find? fun pending => decide (pending.inputSeq = inputSeq)).map fun found =>
    { lane with
      pendingBytes := lane.pendingBytes - found.bytes.length
      pending := lane.pending.eraseP fun pending => decide (pending.inputSeq = inputSeq) }

/-- Settle batches one after another, and say which of them were there. -/
def settleEach (lane : InputLane) : List Nat → InputLane × List Nat
  | [] => (lane, [])
  | inputSeq :: rest =>
    match lane.settleIn inputSeq with
    | none => lane.settleEach rest
    | some lane =>
      let (lane, settled) := lane.settleEach rest
      (lane, inputSeq :: settled)

/-- Refuse every batch that has not started. -/
def refuseUnstarted (reason : String) : InputLane × List InputOutcome :=
  let matching := (lane.pending.filter fun pending => !pending.started).map PendingInput.inputSeq
  let (lane, settled) := lane.settleEach matching
  (lane, settled.map fun inputSeq => .rejected inputSeq reason)

/-- The batch was handed to a transport. -/
def markStarted (inputSeq : Nat) (token : TerminalToken) (nowMs : Nat) : InputLane :=
  { lane with pending := modifyBatch inputSeq (PendingInput.handedTo token nowMs) lane.pending }

/-- The unstarted batches that fit in the in-flight window, oldest first. -/
def startable : List PendingInput :=
  if lane.phase ≠ .sending then []
  else
    let started := lane.pending.countP fun pending => pending.started
    (lane.pending.filter fun pending => !pending.started).take
      (maxStartedInputsPerSession - started)

/-- What the loss of a carrier makes of one batch that was dispatched on it. -/
def retiredOutcome (reason : String) (pending : PendingInput) : InputOutcome :=
  if pending.started then
    .ambiguous pending.inputSeq 0
      (reason ++ " after input was sent; the batch will not be retried")
  else .rejected pending.inputSeq (reason ++ " before input was sent")

/-- Settle outcomes one after another, noting the ambiguous ones. -/
def retireEach (lane : InputLane) : List InputOutcome → InputLane × List InputOutcome
  | [] => (lane, [])
  | outcome :: rest =>
    match lane.settleIn outcome.inputSeq with
    | none => lane.retireEach rest
    | some lane =>
      let lane :=
        if outcome.isAmbiguous then { lane with ambiguous := lane.ambiguous ++ [outcome.inputSeq] }
        else lane
      let (lane, outcomes) := lane.retireEach rest
      (lane, outcome :: outcomes)

/-- Settle everything dispatched on the generations that retired. -/
def retireFenced (retired : TerminalToken → Bool) (reason : String) :
    InputLane × List InputOutcome :=
  lane.retireEach ((lane.pending.filter fun pending => pending.fencedOn retired).map
    (retiredOutcome reason))

/-- The epoch was acknowledged over this connection. -/
def epochFor (token : TerminalToken) : String :=
  if lane.routeEpochToken.any fun acknowledged => acknowledged.sameConnection token then
    lane.routeEpoch
  else ""

def routedOnSyncSocket (socketGeneration : UInt64) : Bool :=
  decide (lane.phase = .sending) && lane.routeEpochToken.any fun token =>
    decide (token.transport = .sync) && decide (token.socketGeneration = socketGeneration)

def startedOnSync (inputSeq : Nat) : Bool :=
  lane.pending.any fun pending => decide (pending.inputSeq = inputSeq) && pending.started &&
    pending.fencedOn fun token => decide (token.transport = .sync)

end InputLane

/-! ## The router -/

structure InputRouter where
  lanes : OrderedMap String InputLane
  nextInputSeq : Nat
  nextClaimId : Nat

namespace InputRouter

def new : InputRouter := ⟨.empty, 0, 0⟩

variable (router : InputRouter)

variable (sessionId : String)

def laneOrNew : InputLane :=
  (router.lanes.lookup sessionId).getD (.new sessionId)

/-- Every batch still outstanding on a session, oldest first. -/
def outstanding : List PendingInput :=
  (router.lanes.lookup sessionId).elim [] InputLane.pending

def setLane (lane : InputLane) : InputRouter :=
  { router with lanes := router.lanes.insert sessionId lane }

def modifyLane (f : InputLane → InputLane) : InputRouter :=
  match router.lanes.lookup sessionId with
  | none => router
  | some lane => router.setLane sessionId (f lane)

def editLane (edit : InputLane → Option InputLane) : Option InputRouter :=
  (router.lanes.entries.findSome? fun entry => (edit entry.2).map fun lane => (entry.1, lane)).map
    fun found => router.setLane found.1 found.2

/-! ## Admission and dispatch -/

/-- Admit one batch, or refuse it before it is queued. -/
def admitInput (viewId : Option String) (bytes : List UInt8) (nowMs : Nat) :
    InputRouter × Except String PendingInput :=
  let lane := router.laneOrNew sessionId
  let router := router.setLane sessionId lane
  if lane.phase = .closed then (router, .error "terminal session is closed")
  else if lane.phase = .blocked then (router, .error "terminal input route is reconnecting")
  else if bytes.length > maxInputBytes then
    (router, .error ("input exceeds " ++ toString maxInputBytes ++ " bytes"))
  else
    -- The sequence is allocated even for a batch that is then refused.
    let inputSeq := router.nextInputSeq + 1
    let router := { router with nextInputSeq := inputSeq }
    if bytes.isEmpty then (router, .error "input batch is empty")
    else if lane.pending.length ≥ maxPendingInputsPerSession ∨
        lane.pendingBytes + bytes.length > maxPendingInputBytesPerSession then
      (router, .error ("terminal input lane is full (" ++ toString maxPendingInputsPerSession ++
        " batches, " ++ toString maxPendingInputBytesPerSession ++ " bytes)"))
    else
      let pending : PendingInput :=
        { sessionId, viewId, inputSeq, bytes, fence := none, started := false
          admittedAtMs := nowMs, startedAtMs := 0 }
      (router.setLane sessionId { lane with
          pendingBytes := lane.pendingBytes + bytes.length
          pending := lane.pending ++ [pending] },
        .ok pending)

variable (token : TerminalToken)

def routeEpochFor : String :=
  (router.lanes.lookup sessionId).elim "" fun lane => lane.epochFor token

def isBlocked : Bool :=
  (router.lanes.lookup sessionId).any fun lane => decide (lane.phase = .blocked)

/-- Whether fresh input on this session is held unsent. -/
def isHolding : Bool :=
  (router.lanes.lookup sessionId).any fun lane =>
    decide (lane.phase = .holding) || decide (lane.phase = .claiming)

def startable : List PendingInput :=
  (router.lanes.lookup sessionId).elim [] InputLane.startable

/-- Mark a batch as handed to a transport. -/
def markStarted (inputSeq : Nat) (token : TerminalToken) (nowMs : Nat) : InputRouter :=
  (router.editLane fun lane =>
    if lane.pending.any fun pending => decide (pending.inputSeq = inputSeq) then
      some (lane.markStarted inputSeq token nowMs)
    else none).getD router

variable (nowMs : Nat)

/-- Hand a transport every unsent batch the in-flight window has room for, oldest first. -/
def dispatchStartable :
    InputRouter × List PendingInput :=
  let batches := router.startable sessionId
  (batches.foldl (fun router pending => router.markStarted pending.inputSeq token nowMs) router,
    batches)

/-! ## Settlement -/

/-- Settle one batch with the result its transport reported. -/
def settle (inputSeq : Nat) (outcome : InputOutcome) : InputRouter × Bool :=
  if outcome.inputSeq ≠ inputSeq then (router, false)
  else
    match router.editLane fun lane => lane.settleIn inputSeq with
    | none => (router, false)
    | some router => (router, true)

/-- Settle one batch only when this transport is the one that carried it. -/
def settleFrom (inputSeq : Nat)
    (outcome : InputOutcome) : InputRouter × Bool :=
  if outcome.inputSeq ≠ inputSeq then (router, false)
  else
    let settled := (router.lanes.lookup sessionId).bind fun lane =>
      (lane.pending.find? fun pending => decide (pending.inputSeq = inputSeq)).bind fun pending =>
        if pending.fencedOn fun fence => decide (fence = token) then lane.settleIn inputSeq
        else none
    match settled with
    | none => (router, false)
    | some lane => (router.setLane sessionId lane, true)

def settleAll (outcomes : List InputOutcome) : InputRouter :=
  outcomes.foldl (fun router outcome => (router.settle outcome.inputSeq outcome).1) router

/-- Settle every held batch whose admission timeout has expired. -/
def sweepHeld : InputRouter × List InputOutcome :=
  let lanes := router.lanes.values.filter fun lane =>
    decide (lane.phase ≠ .sending) || !lane.pending.any fun pending => pending.started
  let expired := (lanes.flatMap InputLane.pending).filter fun pending =>
    !pending.started && decide (nowMs - pending.admittedAtMs ≥ heldInputAdmissionTimeoutMs)
  let outcomes := expired.map fun pending =>
    .rejected pending.inputSeq "terminal input route is reconnecting"
  (router.settleAll outcomes, outcomes)

/-- Settle every started batch whose result is overdue. -/
def sweepUnanswered : InputRouter × List InputOutcome :=
  let overdue := (router.lanes.values.flatMap InputLane.pending).filter fun pending =>
    pending.started && decide (nowMs - pending.startedAtMs ≥ inputResultTimeoutMs)
  let outcomes := overdue.map fun pending =>
    .ambiguous pending.inputSeq 0 "input result timed out; the batch will not be retried"
  (router.settleAll outcomes, outcomes)

def retireFenced (retired : TerminalToken → Bool) (reason : String) :
    InputRouter × List InputOutcome :=
  ({ router with lanes := router.lanes.mapValues fun _ lane => (lane.retireFenced retired reason).1 },
    router.lanes.values.flatMap fun lane => (lane.retireFenced retired reason).2)

/-- Settle everything dispatched on a token when that carrier retires. -/
def retireToken (reason : String) : InputRouter × List InputOutcome :=
  router.retireFenced (fun fenced => decide (fenced = token)) reason

def retireSyncGeneration (socketGeneration : UInt64) (reason : String) :
    InputRouter × List InputOutcome :=
  router.retireFenced (fun fenced => decide (fenced.transport = .sync) &&
    decide (fenced.socketGeneration = socketGeneration)) reason

def refuseUnstarted (sessionId reason : String) : InputRouter × List InputOutcome :=
  match router.lanes.lookup sessionId with
  | none => (router, [])
  | some lane =>
    let (lane, outcomes) := lane.refuseUnstarted reason
    (router.setLane sessionId lane, outcomes)

/-- Move a lane into a new phase, refusing what can no longer go out. -/
def setPhase (phase : InputPhase) : InputRouter × List InputOutcome :=
  let router := router.setLane sessionId { router.laneOrNew sessionId with phase }
  match phase with
  | .closed => router.refuseUnstarted sessionId "terminal session is closed"
  | .blocked => router.refuseUnstarted sessionId "terminal input route is reconnecting"
  | _ => (router, [])

/-! ## Lost routes -/

/-- Drop the lane's epoch and block it; the feed hears what that refuses. -/
def forgetRoute : InputRouter × List InputOutcome :=
  (router.modifyLane sessionId fun lane =>
    { lane with routeEpoch := "", routeEpochToken := none }).setPhase sessionId .blocked

/-- Forget the routes of some sessions, one after another. -/
def forgetRoutes (router : InputRouter) : List String → InputRouter × List InputOutcome
  | [] => (router, [])
  | sessionId :: rest =>
    let (router, outcomes) := router.forgetRoute sessionId
    let (router, others) := router.forgetRoutes rest
    (router, outcomes ++ others)

def blockRoutesOnSyncSocket (socketGeneration : UInt64) :
    InputRouter × List String × List InputOutcome :=
  let blocked := (router.lanes.entries.filter fun entry =>
    entry.2.routedOnSyncSocket socketGeneration).map Prod.fst
  let (router, outcomes) := router.forgetRoutes blocked
  (router, blocked, outcomes)

/-- The worker refused a Sync batch before writing it: put it back unsent and block the lane. -/
def requeueMovedSyncBatch (inputSeq : Nat) :
    InputRouter × Bool × List InputOutcome :=
  match router.lanes.lookup sessionId with
  | none => (router, false, [])
  | some lane =>
    let routedDirect := lane.routeEpochToken.any fun token => decide (token.transport ≠ .sync)
    if routedDirect ∨ !lane.startedOnSync inputSeq ∨ lane.phase = .closed then (router, false, [])
    else
      let (router, outcomes) :=
        if lane.phase = .sending then router.forgetRoute sessionId else (router, [])
      (router.modifyLane sessionId fun lane => { lane with
          pending := modifyBatch inputSeq PendingInput.unsent lane.pending },
        true, outcomes)

/-! ## Claim transitions -/

def installRouteEpoch (epoch : String)
    (revision : Nat) : InputRouter × Bool :=
  if revision = 0 ∨ revision > maxTerminalInputRouteRevision then (router, false)
  else
    let lane := router.laneOrNew sessionId
    if revision < lane.routeRevision then (router.setLane sessionId lane, false)
    else
      (router.setLane sessionId { lane with
        routeEpoch := epoch, routeRevision := revision, routeEpochToken := some token }, true)

/-- Change a lane's phase and claims, unless it is closed. A session without one gets a lane. -/
def holdLane (f : RouteClaimState → RouteClaimState) : InputRouter :=
  let lane := router.laneOrNew sessionId
  if lane.phase = .closed then router.setLane sessionId lane
  else router.setLane sessionId { lane with phase := .holding, claims := f lane.claims }

def holdForPromotion (attemptId : Nat) (token : TerminalToken)
    (nowMs : Nat) : InputRouter :=
  router.holdLane sessionId fun claims => { claims with
    fallback := none, inFlight := none
    promotion := some ⟨attemptId, token, nowMs, false⟩ }

/-- Hold the lane until Sync is claimed back. -/
def beginFallback (sessionId workerFp workerEpoch : String) (nowMs : Nat) : InputRouter :=
  router.holdLane sessionId fun claims => { claims with
    promotion := none, inFlight := none
    fallback := some ⟨workerFp, workerEpoch, 0, nowMs⟩ }

/-- Whether a batch already handed to a token is still unanswered. -/
def hasUnsettledOn : Bool :=
  (router.lanes.lookup sessionId).any fun lane => lane.pending.any fun pending =>
    pending.started && pending.fencedOn fun fence => decide (fence = token)

def claimRequestId (claim : Nat) : String := "route-claim-" ++ toString claim

def beginRouteClaim (workerEpoch : String)
    (attemptId : Option Nat) (nowMs : Nat) : InputRouter × Except String InputClaim :=
  let claimId := router.nextClaimId + 1
  let router := { router with nextClaimId := claimId }
  let lane := router.laneOrNew sessionId
  let lane := { lane with
    claims := { lane.claims with required := true }, routeEpoch := "", routeEpochToken := none }
  if lane.routeRevision ≥ maxTerminalInputRouteRevision then
    (router.setLane sessionId { lane with phase := .blocked },
      .error "terminal input route revision exhausted")
  else
    let claim : InputClaim :=
      { requestId := claimRequestId claimId, sessionId, revision := lane.routeRevision + 1, token
        workerEpoch, attemptId, sentAtMs := nowMs, retried := false }
    (router.setLane sessionId { lane with
        routeRevision := lane.routeRevision + 1
        phase := .claiming
        claims := { lane.claims with
          promotion := lane.claims.promotion.map fun promotion => { promotion with claimSent := true }
          inFlight := some claim } },
      .ok claim)

def endClaim (lane : InputLane) : InputLane :=
  { lane with phase := .holding, claims := { lane.claims with inFlight := none } }

/-- Apply one answer that arrived on a token. -/
def settleRouteClaim (result : InputRouteResult) (nowMs : Nat) :
    InputRouter × Option ClaimSettlement :=
  let found := (router.lanes.lookup result.sessionId).bind fun lane =>
    (lane.claims.inFlight.filter fun claim =>
      decide (claim.requestId = result.requestId) && claim.token.sameConnection token).map
        fun claim => (lane, claim)
  match found with
  | none => (router, none)
  | some (lane, claim) =>
    let ended := endClaim lane
    if result.revision ≠ claim.revision ∨ result.workerEpoch ≠ claim.workerEpoch then
      (router.setLane result.sessionId ended,
        some (.refused claim "terminal input route claim response was invalid"))
    else if result.accepted ∧ result.inputRouteEpoch ≠ "" then
      (router.setLane result.sessionId { ended with
          routeEpoch := result.inputRouteEpoch
          routeEpochToken := some claim.token
          claims := { ended.claims with workerEpoch := claim.workerEpoch } },
        some (.accepted claim))
    else
      let stale := decide (result.reason = "stale_route_revision") && !claim.retried
      if !stale ∨ result.latestRevision < claim.revision ∨
          result.latestRevision ≥ maxTerminalInputRouteRevision then
        let reason :=
          if stale then "terminal input route revision is unavailable"
          else if result.reason = "" then "terminal input route claim was rejected"
          else result.reason
        (router.setLane result.sessionId ended, some (.refused claim reason))
      else
        let claimId := router.nextClaimId + 1
        let retry := { claim with
          requestId := claimRequestId claimId, revision := result.latestRevision + 1
          sentAtMs := nowMs, retried := true }
        ({ router with nextClaimId := claimId : InputRouter }.setLane result.sessionId { lane with
            routeRevision := result.latestRevision + 1
            claims := { lane.claims with inFlight := some retry } },
          some (.retry retry))

def takeClaims (ended : InputClaim → Bool) : InputRouter × List InputClaim :=
  ({ router with lanes := router.lanes.mapValues fun _ lane =>
      if lane.claims.inFlight.any ended then endClaim lane else lane },
    router.lanes.values.filterMap fun lane => lane.claims.inFlight.filter ended)

/-- Take every claim whose answer is overdue. -/
def expireRouteClaims : InputRouter × List InputClaim :=
  router.takeClaims fun claim => decide (nowMs - claim.sentAtMs ≥ routeClaimTimeoutMs)

def rejectSyncClaims (socketGeneration : UInt64) : InputRouter × List InputClaim :=
  router.takeClaims fun claim => decide (claim.token.transport = .sync) &&
    decide (claim.token.socketGeneration = socketGeneration)

/-- A lane with nothing holding it. -/
def withoutClaims (lane : InputLane) : InputLane :=
  { lane with claims := { lane.claims with promotion := none, fallback := none, inFlight := none } }

/-- End whatever holds the lane, and hand back the batches it held. -/
def releaseHeld : InputRouter × List PendingInput :=
  match router.lanes.lookup sessionId with
  | none => (router, [])
  | some lane =>
    if lane.phase = .closed then (router, [])
    else
      (router.setLane sessionId { withoutClaims lane with phase := .sending },
        lane.pending.filter fun pending => !pending.started)

/-- Give up on the route: drop every claim and refuse what is held. -/
def blockRoute : InputRouter × List InputOutcome :=
  match router.lanes.lookup sessionId with
  | none => (router, [])
  | some lane =>
    if lane.phase = .closed then (router, [])
    else (router.setLane sessionId (withoutClaims lane)).setPhase sessionId .blocked

/-- Schedule the next fallback attempt, or say that they are spent. -/
def deferFallback : InputRouter × Bool :=
  match (router.lanes.lookup sessionId).bind fun lane =>
      lane.claims.fallback.map fun fallback => (lane, fallback) with
  | none => (router, false)
  | some (lane, fallback) =>
    let attempts := fallback.attempts + 1
    if attempts < fallbackClaimAttempts then
      (router.setLane sessionId { lane with claims := { lane.claims with
          fallback := some { fallback with
            attempts, nextAtMs := nowMs + fallbackClaimRetryMs } } }, true)
    else
      (router.setLane sessionId { lane with claims := { lane.claims with fallback := none } },
        false)

def dueFallbacks : List (String × FallbackRecovery) :=
  router.lanes.entries.filterMap fun entry =>
    (entry.2.claims.fallback.filter fun fallback =>
      entry.2.claims.inFlight.isNone && decide (fallback.nextAtMs ≤ nowMs)).map
        fun fallback => (entry.1, fallback)

end InputRouter

/-! ## The router as a machine -/

inductive RouterCall where
  | admitInput (sessionId : String) (viewId : Option String) (bytes : List UInt8) (nowMs : Nat)
  | dispatchStartable (sessionId : String) (token : TerminalToken) (nowMs : Nat)
  | settle (inputSeq : Nat) (outcome : InputOutcome)
  | settleFrom (sessionId : String) (token : TerminalToken) (inputSeq : Nat)
    (outcome : InputOutcome)
  | sweepHeld (nowMs : Nat)
  | sweepUnanswered (nowMs : Nat)
  | retireToken (token : TerminalToken) (reason : String)
  | retireSyncGeneration (socketGeneration : UInt64) (reason : String)
  | refuseUnstarted (sessionId reason : String)
  | setPhase (sessionId : String) (phase : InputPhase)
  | blockRoutesOnSyncSocket (socketGeneration : UInt64)
  | requeueMovedSyncBatch (sessionId : String) (inputSeq : Nat)
  | installRouteEpoch (sessionId : String) (token : TerminalToken) (epoch : String)
    (revision : Nat)
  | holdForPromotion (sessionId : String) (attemptId : Nat) (token : TerminalToken) (nowMs : Nat)
  | beginFallback (sessionId workerFp workerEpoch : String) (nowMs : Nat)
  | beginRouteClaim (sessionId : String) (token : TerminalToken) (workerEpoch : String)
    (attemptId : Option Nat) (nowMs : Nat)
  | settleRouteClaim (token : TerminalToken) (result : InputRouteResult) (nowMs : Nat)
  | expireRouteClaims (nowMs : Nat)
  | rejectSyncClaims (socketGeneration : UInt64)
  | releaseHeld (sessionId : String)
  | blockRoute (sessionId : String)
  | deferFallback (sessionId : String) (nowMs : Nat)

/-- What a call does that is of any account: a batch admitted, batches handed to a transport,
batches settled, and the sequence of a batch put back unsent. -/
structure RouterEffects where
  admitted : Option PendingInput
  handed : List PendingInput
  settled : List InputOutcome
  putBack : Option Nat

def RouterEffects.none : RouterEffects := ⟨.none, [], [], .none⟩

def RouterEffects.ofSettled (outcomes : List InputOutcome) : RouterEffects :=
  { RouterEffects.none with settled := outcomes }

/-- The router as a machine that answers with what it did to batches. -/
def inputRouter : Transducer InputRouter RouterCall RouterEffects where
  step
    | router, .admitInput sessionId viewId bytes nowMs =>
      (router.admitInput sessionId viewId bytes nowMs).map id fun admission =>
        { RouterEffects.none with admitted := admission.toOption }
    | router, .dispatchStartable sessionId token nowMs =>
      (router.dispatchStartable sessionId token nowMs).map id fun batches =>
        { RouterEffects.none with handed := batches }
    | router, .settle inputSeq outcome =>
      (router.settle inputSeq outcome).map id fun settled =>
        .ofSettled (if settled then [outcome] else [])
    | router, .settleFrom sessionId token inputSeq outcome =>
      (router.settleFrom sessionId token inputSeq outcome).map id fun settled =>
        .ofSettled (if settled then [outcome] else [])
    | router, .sweepHeld nowMs => (router.sweepHeld nowMs).map id .ofSettled
    | router, .sweepUnanswered nowMs => (router.sweepUnanswered nowMs).map id .ofSettled
    | router, .retireToken token reason => (router.retireToken token reason).map id .ofSettled
    | router, .retireSyncGeneration socketGeneration reason =>
      (router.retireSyncGeneration socketGeneration reason).map id .ofSettled
    | router, .refuseUnstarted sessionId reason =>
      (router.refuseUnstarted sessionId reason).map id .ofSettled
    | router, .setPhase sessionId phase => (router.setPhase sessionId phase).map id .ofSettled
    | router, .blockRoutesOnSyncSocket socketGeneration =>
      (router.blockRoutesOnSyncSocket socketGeneration).map id fun blocked => .ofSettled blocked.2
    | router, .requeueMovedSyncBatch sessionId inputSeq =>
      (router.requeueMovedSyncBatch sessionId inputSeq).map id fun requeued =>
        { RouterEffects.none with
          putBack := if requeued.1 then some inputSeq else .none, settled := requeued.2 }
    | router, .installRouteEpoch sessionId token epoch revision =>
      ((router.installRouteEpoch sessionId token epoch revision).1, .none)
    | router, .holdForPromotion sessionId attemptId token nowMs =>
      (router.holdForPromotion sessionId attemptId token nowMs, .none)
    | router, .beginFallback sessionId workerFp workerEpoch nowMs =>
      (router.beginFallback sessionId workerFp workerEpoch nowMs, .none)
    | router, .beginRouteClaim sessionId token workerEpoch attemptId nowMs =>
      ((router.beginRouteClaim sessionId token workerEpoch attemptId nowMs).1, .none)
    | router, .settleRouteClaim token result nowMs =>
      ((router.settleRouteClaim token result nowMs).1, .none)
    | router, .expireRouteClaims nowMs => ((router.expireRouteClaims nowMs).1, .none)
    | router, .rejectSyncClaims socketGeneration =>
      ((router.rejectSyncClaims socketGeneration).1, .none)
    | router, .releaseHeld sessionId => ((router.releaseHeld sessionId).1, .none)
    | router, .blockRoute sessionId => (router.blockRoute sessionId).map id .ofSettled
    | router, .deferFallback sessionId nowMs => ((router.deferFallback sessionId nowMs).1, .none)

end Roost.Client
