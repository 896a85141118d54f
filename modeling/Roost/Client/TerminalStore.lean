-- SUMMARY: The client's terminal store: where input goes, and who serves it.
import Roost.Client.InputRouter
import Roost.Client.RouteRegistry
import Roost.Client.Sweep

/-!
# The terminal store

A session's replica is bound to a carrier generation, and its input goes there; with no
generation it goes to the Sync socket. A direct candidate that can be promoted holds the
session's input, waits for what the old route still carries, and claims the worker's input route;
its acceptance commits the candidate and releases the input onto it. A route that is lost or a
claim that failed is claimed back for Sync.

The carriers' own signalling is another part of the client; here the grants it holds are state.
Where the source logs an acknowledgement or an election, the store emits it too.
-/

namespace Roost.Client

open Roost.Cell

/-- How long a promotion waits for the old route's batches. -/
def inputHandoffDrainMs : Nat := 10000

/-- How long a staged attempt has to earn its baseline. -/
def candidateBaselineDeadlineMs : Nat := 5000

/-- The worker's refusal of a batch whose route moved, made before it writes. -/
def inputRouteChangedReason : String := "terminal input route changed"

/-! ## Replicas and their views -/

namespace TerminalView

def publishedAs (viewId wireViewId : String) (intent : ViewIntent) (revision nowMs : Nat) :
    TerminalView where
  viewId := viewId
  wireViewId := wireViewId
  cols := match intent with
    | .publish cols _ => cols
    | _ => 0
  rows := match intent with
    | .publish _ rows => rows
    | _ => 0
  intent := intent
  revision := revision
  unacknowledged := none
  publishedAtMs := nowMs
  acknowledgedAtMs := 0
  counted := false
  answer := none

/-- Adopt a new wire id, and forget every answer the old one carried. -/
def adoptWireViewId (view : TerminalView) (wireViewId : String) : TerminalView :=
  if view.wireViewId = wireViewId then view
  else
    { view with
      wireViewId, unacknowledged := none, answer := none, counted := false
      publishedAtMs := 0, acknowledgedAtMs := 0 }

def publishes (view : TerminalView) : Bool :=
  match view.intent with
  | .publish .. => true
  | _ => false

end TerminalView

namespace TerminalSession

variable (replica : TerminalSession)

def openProspectiveView (logicalViewId wireViewId : String) (intent : ViewIntent)
    (revision nowMs : Nat) : TerminalSession :=
  { replica with
    views := replica.views.insert logicalViewId
      (.publishedAs logicalViewId wireViewId intent revision nowMs) }

/-- The authority's id for one pane. -/
def wireViewId (logicalViewId : String) : Option String :=
  (replica.views.lookup logicalViewId).map TerminalView.wireViewId

def adoptWireViewId (logicalViewId wireViewId : String) : TerminalSession :=
  { replica with
    views := replica.views.modify logicalViewId fun view => view.adoptWireViewId wireViewId }

/-- The panes a candidate may publish. -/
def publishableViews : List TerminalView := replica.orderedViews.filter TerminalView.publishes

/-- The panes that are not leaving. -/
def remainingViews : List TerminalView :=
  replica.orderedViews.filter fun view => decide (view.intent ≠ .unpublish)

/-- A promoted replica's counter continues past the one it replaces. -/
def beginPromotionAfter (previousRevision : Nat) : TerminalSession :=
  { replica with
    deliveries := RendererDeliveries.clear
      { replica.deliveries with
        revision := Nat.max replica.deliveries.revision previousRevision + 1 } }

def inheritWireRecord (replaced : Option TerminalSession) : TerminalSession :=
  { replica with
    wireStreamId := replaced.bind TerminalSession.wireStreamId
    wireGridEpoch := replaced.bind TerminalSession.wireGridEpoch
    wireSeq := replaced.bind TerminalSession.wireSeq }

variable (previous : Option TerminalSession)

/-- A replica as it is swapped in for the one a promotion replaces. -/
def promotedOver : TerminalSession :=
  (match previous with
    | none => replica
    | some held => replica.beginPromotionAfter held.frameRevision).inheritWireRecord previous

theorem promotedOver_generation :
    (replica.promotedOver previous).generation = replica.generation := by
  cases previous with
  | none | some => rfl

theorem promotedOver_orderedViews :
    (replica.promotedOver previous).orderedViews = replica.orderedViews := by
  cases previous with
  | none | some => rfl

end TerminalSession

/-- What a carrier brings for a replica: a frame, or a part of a chunked baseline. -/
inductive CellInput where
  | frame (frame : PbCellGridFrame)
  | chunk (chunk : PbCellGridChunk)

/-- Fold what a carrier brought. -/
def CellInput.fold (sizes : Sizes) (token : TerminalToken) (nowMs : Nat)
    (replica : TerminalSession) : CellInput → TerminalSession
  | .frame whole => (replica.admitFrame sizes whole false token nowMs).1
  | .chunk part => (replica.admitChunk sizes part token nowMs).1

/-! ## The store -/

/-- A worker's grant while it lives. -/
structure LiveGrant where
  workerEpoch : String
  inputRouteSupported : Bool

/-- One pane inside a rotation, and what it was last saying. -/
structure RotationView where
  intent : ViewIntent
  sourceRevision : Nat

/-- A session's pending move back onto Sync. -/
structure SyncViewRotation where
  attemptId : Nat
  oldRouteToken : TerminalToken
  views : OrderedMap String RotationView

inductive ViewIdTarget where
  | candidate
  | syncFallback
  deriving DecidableEq

/-- What the store asks of the host, and the two moments it notes. -/
inductive TerminalEffect where
  | sent (effect : Effect)
  /-- One batch on its way, under the epoch it is stamped with. -/
  | input (token : TerminalToken) (sessionId : String) (viewId : Option String) (inputSeq : Nat)
    (bytes : List UInt8) (inputRouteEpoch : String)
  | routeClaim (claim : InputClaim)
  /-- A candidate published a view of its own. -/
  | prospectiveView (token : TerminalToken) (sessionId wireViewId : String) (intent : ViewIntent)
    (revision : Nat)
  /-- An abandoned candidate's view is unpublished. -/
  | withdrawal (token : TerminalToken) (sessionId wireViewId : String) (revision : Nat)
  | mintViewId (sessionId : String) (attemptId : Nat) (logicalViewId : String)
    (target : ViewIdTarget)
  | closeDirectCarriers (workerFp : String)
  | routeAcknowledged (sessionId : String) (token : TerminalToken) (inputRouteEpoch : String)
  /-- A candidate is now the session's route, and serves these views. -/
  | elected (sessionId : String) (token : TerminalToken) (wireViewIds : List String)
  deriving DecidableEq

/-- The client's terminal side. -/
structure TerminalStore where
  terminal : OrderedMap String TerminalSession
  routes : RouteRegistry TerminalSession
  input : InputRouter
  sync : SyncState
  nextGeneration : UInt64
  grants : OrderedMap String LiveGrant
  pendingSyncViewRotation : OrderedMap String SyncViewRotation
  nextAttemptId : Nat

abbrev Emitted := TerminalStore × List TerminalEffect

/-- Do one thing after another. -/
def Emitted.andThen (done : Emitted) (f : TerminalStore → Emitted) : Emitted :=
  ((f done.1).1, done.2 ++ (f done.1).2)

/-- Do one thing for each of some, in order. -/
def forEach {α : Type} (f : α → TerminalStore → Emitted) : List α → TerminalStore → Emitted
  | [], store => (store, [])
  | x :: rest, store => (f x store).andThen (forEach f rest)

namespace TerminalStore

def new : TerminalStore where
  terminal := .empty
  routes := .new
  input := .new
  sync := ⟨none, none, true⟩
  nextGeneration := 1
  grants := .empty
  pendingSyncViewRotation := .empty
  nextAttemptId := 1

variable (store : TerminalStore)

variable (sessionId : String)

def generation : Option TerminalToken :=
  (store.terminal.lookup sessionId).bind TerminalSession.generation

/-- Change a replica that is there. -/
def modifyTerminal (f : TerminalSession → TerminalSession) : TerminalStore :=
  match store.terminal.lookup sessionId with
  | none => store
  | some replica => { store with terminal := store.terminal.insert sessionId (f replica) }

def lane : Option InputLane := store.input.lanes.lookup sessionId

def heldPromotion : Option PromotionHold :=
  (store.lane sessionId).bind fun lane => lane.claims.promotion

/-- The session's input needs an acknowledged route. -/
def routeRequired : Bool :=
  (store.lane sessionId).any fun lane => lane.claims.required

/-! ## Dispatch -/

/-- Where a session's input goes now: its replica's generation, else the Sync socket. -/
def inputDestination : Option TerminalToken :=
  (store.generation sessionId).or store.sync.terminalToken

def wireViewIdOf (pending : PendingInput) : Option String :=
  pending.viewId.bind fun viewId =>
    (store.terminal.lookup pending.sessionId).bind fun replica => replica.wireViewId viewId

/-- Hand a transport every unsent batch the in-flight window has room for. Marking a batch as
started touches no epoch, so all are stamped with the one acknowledged before. -/
def dispatchStartable (token : TerminalToken) (nowMs : Nat) : Emitted :=
  let (input, batches) := store.input.dispatchStartable sessionId token nowMs
  ({ store with input }, batches.map fun pending =>
      .input token pending.sessionId (store.wireViewIdOf pending) pending.inputSeq pending.bytes
        (store.input.routeEpochFor pending.sessionId token))

/-- Send what waits behind a slot that came free. -/
def sendQueuedInput (nowMs : Nat) : Emitted :=
  if store.input.isHolding sessionId then (store, [])
  else
    match store.inputDestination sessionId with
    | none => (store, [])
    | some token => store.dispatchStartable sessionId token nowMs

/-! ## Claims for Sync -/

/-- The route cannot be recovered: refuse what is held, and every batch after. -/
def blockLane : TerminalStore :=
  { store with input := (store.input.blockRoute sessionId).1 }

/-- A fallback attempt failed: try again shortly, or block once they are spent. -/
def deferOrBlockFallback (nowMs : Nat) : TerminalStore :=
  let (input, deferred) := store.input.deferFallback sessionId nowMs
  if deferred then { store with input } else { store with input : TerminalStore }.blockLane sessionId

/-- Claim Sync back for one session, on a ready Sync generation only. -/
def claimFallback (nowMs : Nat) (due : String × FallbackRecovery) (store : TerminalStore) :
    Emitted :=
  let (sessionId, fallback) := due
  let sync := store.sync.terminalToken.filter fun _ =>
    store.sync.terminalDomain.any DomainToken.ready
  let workerEpoch := (((store.grants.lookup fallback.workerFp).map LiveGrant.workerEpoch).filter
    fun epoch => decide (epoch ≠ "")).getD fallback.workerEpoch
  match sync.filter fun _ => decide (workerEpoch ≠ "") with
  | none => (store.deferOrBlockFallback sessionId nowMs, [])
  | some sync =>
    match store.input.beginRouteClaim sessionId sync workerEpoch none nowMs with
    | (input, .ok claim) => ({ store with input }, [.routeClaim claim])
    | (input, .error _) => ({ store with input : TerminalStore }.blockLane sessionId, [])

def claimDueFallbacks (nowMs : Nat) : Emitted :=
  forEach (claimFallback nowMs) (store.input.dueFallbacks nowMs) store

variable (sessionId : String)

def acknowledgedWorkerEpoch : String :=
  (store.lane sessionId).elim "" fun lane => lane.claims.workerEpoch

/-- A blocked lane no direct route serves begins to claim Sync back. The worker is the
replica's, else the one the sessions list has. -/
def reclaimLostRoute (listedWorkerFp : Option String) (nowMs : Nat) :
    TerminalStore × Bool :=
  if !store.input.isBlocked sessionId || (store.routes.routes.lookup sessionId).isSome then
    (store, false)
  else
    let ownWorkerFp := ((store.terminal.lookup sessionId).map TerminalSession.workerFp).filter
      fun workerFp => decide (workerFp ≠ "")
    match ownWorkerFp.or listedWorkerFp with
    | none => (store, false)
    | some workerFp =>
      ({ store with
          input := store.input.beginFallback sessionId workerFp
            (store.acknowledgedWorkerEpoch sessionId) nowMs }, true)

/-! ## Keystrokes and results -/

/-- Keystrokes from a pane. -/
def handleTerminalInput (viewId : Option String) (bytes : List UInt8)
    (listedWorkerFp : Option String) (nowMs : Nat) : Emitted :=
  let (store, reclaiming) := store.reclaimLostRoute sessionId listedWorkerFp nowMs
  match store.input.admitInput sessionId viewId bytes nowMs with
  | (input, .error _) => ({ store with input }, [])
  | (input, .ok admitted) =>
    let store := { store with input }
    if store.input.isHolding sessionId then
      if reclaiming then store.claimDueFallbacks nowMs else (store, [])
    else
      match store.inputDestination sessionId with
      | none =>
        ({ store with
            input := (store.input.settle admitted.inputSeq (.rejected admitted.inputSeq
              "no terminal transport is connected for this session")).1 }, [])
      | some token => store.dispatchStartable sessionId token nowMs

/-- Settle a batch wherever it went, and send what waits behind it. -/
def settleInput (inputSeq : Nat) (sessionId : String) (outcome : InputOutcome) (nowMs : Nat) :
    Emitted :=
  let (input, settled) := store.input.settle inputSeq outcome
  let store := { store with input }
  if settled then store.sendQueuedInput sessionId nowMs else (store, [])

/-- A refusal that proves a Sync batch was never written. -/
def provesMoved (inputSeq : Nat) (outcome : InputOutcome) : Bool :=
  let carriedOnSync :=
    ((store.input.outstanding sessionId).find? fun pending =>
      decide (pending.inputSeq = inputSeq)).any fun pending =>
        pending.fencedOn fun fence => decide (fence.transport = .sync)
  carriedOnSync && (store.routes.routes.lookup sessionId).isNone &&
    match outcome with
    | .rejected _ reason => decide (reason = inputRouteChangedReason)
    | _ => false

/-- A write result for one batch, from the Sync socket. A drain it ends is resumed after. -/
def handleInputResult (inputSeq : Nat) (outcome : InputOutcome)
    (listedWorkerFp : Option String) (nowMs : Nat) : Emitted :=
  if !store.provesMoved sessionId inputSeq outcome then
    store.settleInput inputSeq sessionId outcome nowMs
  else
    match store.input.requeueMovedSyncBatch sessionId inputSeq with
    | (input, false, _) => { store with input : TerminalStore }.settleInput inputSeq sessionId outcome nowMs
    | (input, true, _) =>
      let store := { store with input }
      if store.input.isHolding sessionId then store.claimDueFallbacks nowMs
      else
        match store.reclaimLostRoute sessionId listedWorkerFp nowMs with
        | (store, true) => store.claimDueFallbacks nowMs
        | (store, false) => store.settleInput inputSeq sessionId outcome nowMs

/-- A write result from a direct carrier, true only for a batch that carrier took. -/
def handleDirectInputResult (token : TerminalToken) (inputSeq : Nat)
    (outcome : InputOutcome) (nowMs : Nat) : Emitted :=
  let (input, settled) := store.input.settleFrom sessionId token inputSeq outcome
  let store := { store with input }
  if settled then store.sendQueuedInput sessionId nowMs else (store, [])

/-! ## Ends of a promotion -/

/-- The views a cancelled attempt's worker still holds, released on the token that published
them. -/
def releaseCancelled (cancelled : List CancelledCandidate) : List TerminalEffect :=
  cancelled.flatMap fun attempt => attempt.minted.map fun view =>
    .withdrawal attempt.token attempt.sessionId view.1 (view.2 + 1)

/-- Abandon a staged attempt, and have its worker release what it published. -/
def cancelStagedCandidate : Emitted :=
  let (routes, cancelled) := store.routes.cancelCandidate sessionId
  ({ store with routes }, releaseCancelled cancelled.toList)

/-- End a hold and send what it kept on a route, when the lane has the epoch it needs there. -/
def releaseHeldOnto (route : TerminalToken) (nowMs : Nat) : Emitted :=
  if store.routeRequired sessionId ∧ store.input.routeEpochFor sessionId route = "" then
    (store.blockLane sessionId, [])
  else
    { store with input := (store.input.releaseHeld sessionId).1 : TerminalStore }.dispatchStartable
      sessionId route nowMs

/-- Hand a lane whose promotion ended back to the route in charge, unless the claim may already
have moved the worker's route. -/
def recoverOrRelease (promotion : PromotionHold) (nowMs : Nat) : Emitted :=
  match promotion.claimSent, promotion.token.workerFp with
  | true, some workerFp =>
    ({ store with
        input := store.input.beginFallback sessionId workerFp promotion.token.processEpoch nowMs },
      [])
  | _, _ =>
    match store.inputDestination sessionId with
    | some current => store.releaseHeldOnto sessionId current nowMs
    | none => (store.blockLane sessionId, [])

/-- End a promotion that will not commit. -/
def abandonPromotion (nowMs : Nat) : Emitted :=
  match store.heldPromotion sessionId with
  | none => (store, [])
  | some promotion =>
    let staged := (store.routes.candidates.lookup sessionId).any fun candidate =>
      decide (candidate.attemptId = promotion.attemptId)
    Emitted.andThen (if staged then store.cancelStagedCandidate sessionId else (store, []))
      fun store => store.recoverOrRelease sessionId promotion nowMs

/-- Retire the ids the previous route was serving, on the route that served them. -/
def releasePrevious (oldToken : TerminalToken)
    (oldViews : List (String × Nat)) : List TerminalEffect :=
  match oldToken.transport with
  | .sync =>
    -- A socket that redialled never held the view; the old lease is left to expire.
    if store.sync.terminalToken ≠ some oldToken then []
    else oldViews.map fun view =>
      .sent (.sendSync (.view sessionId view.1 .unpublish (view.2 + 1)) oldToken)
  | .loopback | .peer => oldViews.map fun view =>
      .sent (.sendDirect oldToken (.view sessionId view.1 .unpublish (view.2 + 1)))

/-- Swap the promoted replica in, and then retire what it replaced. -/
def commitPromotion (promoted : TerminalSession) (token : TerminalToken) :
    Emitted :=
  let previous := store.terminal.lookup sessionId
  let promoted := promoted.promotedOver previous
  let store := { store with terminal := store.terminal.insert sessionId promoted }
  let released := match previous with
    | none => []
    | some replica =>
      match replica.generation with
      | none => []
      | some oldToken => store.releasePrevious sessionId oldToken
          (replica.remainingViews.map fun view => (view.wireViewId, view.revision))
  (store, .elected sessionId token (promoted.orderedViews.map TerminalView.wireViewId) :: released)

def commitCandidate (attemptId : Nat) (candidate : TerminalToken) : Emitted :=
  match store.routes.promote sessionId attemptId candidate with
  | (routes, .ok promoted) =>
    { store with routes : TerminalStore }.commitPromotion sessionId promoted candidate
  | (routes, .error _) => ({ store with routes }, [])

/-! ## Promotion -/

/-- Whether input on a candidate is written under a claimed epoch: on a peer always, unless the
worker's grant says otherwise. -/
def claimsInputRoute (candidate : TerminalToken) : Bool :=
  ((candidate.workerFp.bind fun workerFp => store.grants.lookup workerFp).map
    LiveGrant.inputRouteSupported).getD (decide (candidate.transport = .peer))

/-- Wait out what the old route carries, then claim the worker's route. -/
def drainThenClaim (attemptId : Nat) (candidate : TerminalToken)
    (heldAtMs nowMs : Nat) : Emitted :=
  if (store.generation sessionId).any fun oldRoute => store.input.hasUnsettledOn sessionId oldRoute then
    if nowMs - heldAtMs ≥ inputHandoffDrainMs then store.abandonPromotion sessionId nowMs
    else (store, [])
  else
    match store.input.beginRouteClaim sessionId candidate candidate.processEpoch (some attemptId)
        nowMs with
    | (input, .ok claim) => ({ store with input }, [.routeClaim claim])
    | (input, .error _) => { store with input : TerminalStore }.abandonPromotion sessionId nowMs

/-- A candidate may be promotable: hold the session's input, drain, and claim. Each is done
once. -/
def advancePromotion (attemptId : Nat) (candidate : TerminalToken)
    (nowMs : Nat) : Emitted :=
  match store.routes.promotable sessionId attemptId candidate with
  | .error _ => (store, [])
  | .ok _ =>
    match (store.heldPromotion sessionId).filter fun promotion =>
        decide (promotion.attemptId = attemptId) with
    | some promotion =>
      if promotion.claimSent then (store, [])
      else store.drainThenClaim sessionId attemptId candidate promotion.heldAtMs nowMs
    | none =>
      if !store.claimsInputRoute candidate then
        if store.routeRequired sessionId then store.abandonPromotion sessionId nowMs
        else store.commitCandidate sessionId attemptId candidate
      else
        { store with
          input := store.input.holdForPromotion sessionId attemptId candidate nowMs
          : TerminalStore }.drainThenClaim sessionId attemptId candidate nowMs nowMs

/-- One claim's answer, on the token it arrived on. -/
def settleRouteResult (token : TerminalToken) (result : InputRouteResult) (nowMs : Nat) : Emitted :=
  let sessionId := result.sessionId
  match store.input.settleRouteClaim token result nowMs with
  | (input, none) => ({ store with input }, [])
  | (input, some (.accepted claim)) =>
    Emitted.andThen
      ({ store with input }, [.routeAcknowledged sessionId claim.token result.inputRouteEpoch])
      fun store =>
        match claim.attemptId with
        | some attemptId =>
          match store.routes.promotable sessionId attemptId claim.token with
          | .error _ => store.abandonPromotion sessionId nowMs
          | .ok _ =>
            (store.commitCandidate sessionId attemptId claim.token).andThen fun store =>
              store.releaseHeldOnto sessionId claim.token nowMs
        | none => store.releaseHeldOnto sessionId token nowMs
  | (input, some (.retry claim)) => ({ store with input }, [.routeClaim claim])
  | (input, some (.refused claim _)) =>
    let store := { store with input }
    match claim.attemptId with
    | some _ => store.abandonPromotion sessionId nowMs
    | none => (store.deferOrBlockFallback sessionId nowMs, [])

/-- A claim whose answer will never be read. -/
def endUnansweredClaim (nowMs : Nat) (claim : InputClaim) (store : TerminalStore) : Emitted :=
  match claim.attemptId with
  | some _ => store.abandonPromotion claim.sessionId nowMs
  | none => (store.deferOrBlockFallback claim.sessionId nowMs, [])

def expireRouteClaims (nowMs : Nat) : Emitted :=
  let (input, claims) := store.input.expireRouteClaims nowMs
  forEach (endUnansweredClaim nowMs) claims { store with input }

def rejectSyncClaims (socketGeneration : UInt64) (nowMs : Nat) : Emitted :=
  let (input, claims) := store.input.rejectSyncClaims socketGeneration
  forEach (endUnansweredClaim nowMs) claims { store with input }

/-- A held promotion re-entered: claimed once its drain is over, abandoned when its candidate
went. -/
def resumeHeldPromotion (sessionId : String) (nowMs : Nat) : Emitted :=
  match store.heldPromotion sessionId with
  | none => (store, [])
  | some promotion =>
    let staged := (store.routes.candidates.lookup sessionId).any fun candidate =>
      decide (candidate.attemptId = promotion.attemptId)
    if !staged then store.abandonPromotion sessionId nowMs
    else if promotion.claimSent then (store, [])
    else store.advancePromotion sessionId promotion.attemptId promotion.token nowMs

end TerminalStore

end Roost.Client
