-- SUMMARY: The client's terminal store as a machine.
import Roost.Client.TerminalStore

/-!
# Calls on the terminal store

Panes open and change, a carrier stages the sessions it may serve, an attempt publishes views of
its own and earns a baseline, carriers and workers go, and the Sync link opens, resets and
closes. Where a handler of the source ends by advancing a promotion, or the sweep takes several
of these in turn, a run makes the calls one after another.
-/

namespace Roost.Client

open Roost.Cell

namespace TerminalStore

variable (store : TerminalStore)

/-! ## View commands -/

/-- Where a session's next view command goes: its elected direct route, else the live Sync
socket once the terminal domain is ready, else nowhere. -/
def publicationTarget (sessionId : String) : Option TerminalToken :=
  match store.routes.routes.lookup sessionId with
  | some route => some route.token
  | none => store.sync.terminalToken.filter fun _ => store.sync.terminalDomain.any DomainToken.ready

/-- One view command, on a carrier that still serves the session. -/
def sendIntentWith (token : TerminalToken) (sessionId wireViewId : String) (intent : ViewIntent)
    (revision : Nat) : List TerminalEffect :=
  let command : TerminalCommand := .view sessionId wireViewId intent revision
  if token.transport = .sync then [.sent (.sendSync command token)]
  else if store.routes.routeMatches sessionId token then [.sent (.sendDirect token command)]
  else []

/-- Send one intent on the replica's own generation. -/
def sendIntentForWire (sessionId wireViewId : String) (intent : ViewIntent) (revision : Nat) :
    List TerminalEffect :=
  match store.generation sessionId with
  | none => []
  | some token => store.sendIntentWith token sessionId wireViewId intent revision

/-- Publish one view's current intent on a named token, and mark it awaited. -/
def publishViewOnToken (token : TerminalToken) (sessionId viewId : String) (nowMs : Nat) :
    Emitted :=
  match (store.terminal.lookup sessionId).bind fun replica => replica.views.lookup viewId with
  | none => (store, [])
  | some view =>
    (store.modifyTerminal sessionId fun replica =>
      (replica.bindGeneration token).markViewPublished viewId token.viewAnswerGeneration nowMs,
      store.sendIntentWith token sessionId view.wireViewId view.intent view.revision)

def publishView (sessionId viewId : String) (nowMs : Nat) : Emitted :=
  if (store.pendingSyncViewRotation.lookup sessionId).isSome then (store, [])
  else
    match store.publicationTarget sessionId with
    | none => (store, [])
    | some token => store.publishViewOnToken token sessionId viewId nowMs

/-! ## Staging -/

/-- The views an attempt is to prepare, as the panes are now. -/
def prospectiveViews (views : List TerminalView) : OrderedMap String ProspectiveView :=
  views.foldl (fun prospective view => prospective.insert view.viewId
    { wireViewId := none, sourceIntent := view.intent, sourceRevision := view.revision
      candidateRevision := view.revision + 1, acknowledged := false }) .empty

/-- Begin one attempt for one session: a carrier stages it, and the host mints an id a pane. -/
def stageOne (carrier : DirectCarrier) (nowMs : Nat) (sessionId : String) (store : TerminalStore) :
    Emitted :=
  if (store.routes.candidates.lookup sessionId).isSome then (store, [])
  else
    let views := ((store.terminal.lookup sessionId).map TerminalSession.publishableViews).getD []
    if views.isEmpty then (store, [])
    else
      let attemptId := store.nextAttemptId
      let candidate : PromotionCandidate :=
        { sessionId, connectionId := carrier.connectionId, token := carrier.token, attemptId
          baselineReady := false, prospectiveViews := prospectiveViews views, stagedAtMs := nowMs }
      let (routes, staged) := store.routes.stage candidate (.new sessionId carrier.workerFp)
      ({ store with routes, nextAttemptId := attemptId + 1 },
        if staged then views.map fun view => .mintViewId sessionId attemptId view.viewId .candidate
        else [])

/-- Begin an attempt on a carrier for each of some sessions that this document is viewing and
the carrier's grant admits. -/
def stageAdmittedSessions (carrier : DirectCarrier) (sessions : Finset String) (nowMs : Nat) :
    Emitted :=
  let watched := store.terminal.entries.filter fun entry =>
    decide (entry.1 ∈ sessions) && carrier.allowsSession entry.1 &&
      !entry.2.publishableViews.isEmpty
  forEach (stageOne carrier nowMs) (watched.map Prod.fst) store

/-- Stage a session on the live carrier whose grant admits it, unless it keeps its route. -/
def stageOpenedSession (sessionId : String) (nowMs : Nat) : Emitted :=
  match store.routes.admittedCarrier sessionId with
  | none => (store, [])
  | some carrier =>
    let keepsItsRoute := (store.routes.routes.lookup sessionId).any fun route =>
      decide (route.connectionId = carrier.connectionId) ||
        (decide (route.token.transport = .loopback) && decide (carrier.transport = .peer))
    if keepsItsRoute then (store, []) else store.stageAdmittedSessions carrier {sessionId} nowMs

/-- The panes moved: abandon the staged attempt, and start another for what they want now. -/
def cancelStagedCandidateAndRestart (sessionId : String) (nowMs : Nat) : Emitted :=
  if (store.routes.candidates.lookup sessionId).isNone then (store, [])
  else
    (store.cancelStagedCandidate sessionId).andThen fun store =>
      match store.routes.admittedCarrier sessionId with
      | none => (store, [])
      | some carrier => stageOne carrier nowMs sessionId store

/-- Abandon every attempt whose baseline deadline has passed. -/
def sweepCandidateDeadlines (nowMs : Nat) : Emitted :=
  let expired := store.routes.candidates.entries.filter fun entry =>
    (!entry.2.baselineReady || entry.2.hasUnacknowledged) &&
      decide (nowMs - entry.2.stagedAtMs ≥ candidateBaselineDeadlineMs)
  forEach (fun sessionId store => store.cancelStagedCandidate sessionId) (expired.map Prod.fst) store

/-- A host answer that is a view id the worker will accept. -/
def isMintableViewId (candidate : String) : Bool :=
  isTerminalUuid candidate && decide ((utf8Bytes candidate)[14]? = some 52)

/-- Whether this document still holds a pane exactly as an attempt read it. -/
def canonicalStillMatches (sessionId logicalViewId : String) (intent : ViewIntent)
    (revision : Nat) : Bool :=
  ((store.terminal.lookup sessionId).bind fun replica => replica.views.lookup logicalViewId).any
    fun view => decide (view.intent = intent) && decide (view.revision = revision)

/-- Whether any view this document holds is already published under an id. -/
def wireIdIsLiveElsewhere (wireViewId : String) : Bool :=
  store.terminal.values.any fun replica =>
    replica.orderedViews.any fun view => decide (view.wireViewId = wireViewId)

/-- Why a candidate may not publish under the id the host answered with. -/
def refusesWireId (wireViewId : Option String) : Bool :=
  match wireViewId with
  | none => true
  | some wireViewId => !isMintableViewId wireViewId || store.wireIdIsLiveElsewhere wireViewId

variable (sessionId : String)

def adoptCandidateViewId (attemptId : Nat) (logicalViewId : String)
    (wireViewId : Option String) (nowMs : Nat) : Emitted :=
  match (store.routes.candidates.lookup sessionId).filter fun candidate =>
      decide (candidate.attemptId = attemptId) with
  | none => (store, [])
  | some candidate =>
    match (candidate.prospectiveViews.lookup logicalViewId).filter fun view =>
        view.wireViewId.isNone with
    | none => (store, [])
    | some view =>
      if !store.routes.candidateIsAdmissible sessionId ∨
          !store.canonicalStillMatches sessionId logicalViewId view.sourceIntent
            view.sourceRevision then
        (store, [])
      else if store.refusesWireId wireViewId then store.cancelStagedCandidate sessionId
      else
        match store.routes.staged.lookup sessionId, wireViewId with
        | some replica, some wireViewId =>
          let token := candidate.token
          let replica := ((replica.bindGeneration token).openProspectiveView logicalViewId
            wireViewId view.sourceIntent view.candidateRevision nowMs).markViewPublished
              logicalViewId token.socketGeneration nowMs
          let routes := { store.routes with staged := store.routes.staged.insert sessionId replica }
          ({ store with routes := (routes.markViewWireId sessionId logicalViewId wireViewId).1 },
            [.prospectiveView token sessionId wireViewId view.sourceIntent view.candidateRevision])
        | _, _ => (store, [])

def forgetRotationView (sessionId logicalViewId : String) : TerminalStore :=
  match store.pendingSyncViewRotation.lookup sessionId with
  | none => store
  | some rotation =>
    let views := rotation.views.erase logicalViewId
    { store with
      pendingSyncViewRotation :=
        if views.entries.isEmpty then store.pendingSyncViewRotation.erase sessionId
        else store.pendingSyncViewRotation.insert sessionId { rotation with views } }

def adoptSyncViewId (attemptId : Nat) (logicalViewId : String)
    (wireViewId : Option String) (nowMs : Nat) : Emitted :=
  match ((store.pendingSyncViewRotation.lookup sessionId).filter fun rotation =>
      decide (rotation.attemptId = attemptId)).bind fun rotation =>
        rotation.views.lookup logicalViewId with
  | none => (store, [])
  | some view =>
    let forgotten := store.forgetRotationView sessionId logicalViewId
    if !store.canonicalStillMatches sessionId logicalViewId view.intent view.sourceRevision then
      (forgotten, [])
    else
      match wireViewId.filter isMintableViewId with
      | none => (forgotten, [])
      | some wireViewId =>
        if store.wireIdIsLiveElsewhere wireViewId then (forgotten, [])
        else
          let adopted := forgotten.modifyTerminal sessionId fun replica =>
            replica.adoptWireViewId logicalViewId wireViewId
          -- On Sync whatever route is elected: here the answer is known to be Sync.
          match store.sync.terminalToken with
          | none => (adopted, [])
          | some token => adopted.publishViewOnToken token sessionId logicalViewId nowMs

/-- An elected route is gone: mint fresh ids for the panes it held. -/
def beginSyncViewRotation (oldRouteToken : TerminalToken) : Emitted :=
  let panes := ((store.terminal.lookup sessionId).map TerminalSession.remainingViews).getD []
  if panes.isEmpty then (store, [])
  else
    let attemptId := store.nextAttemptId
    let views := panes.foldl (fun views view =>
      views.insert view.viewId ⟨view.intent, view.revision⟩) OrderedMap.empty
    ({ store with
        nextAttemptId := attemptId + 1
        pendingSyncViewRotation :=
          store.pendingSyncViewRotation.insert sessionId ⟨attemptId, oldRouteToken, views⟩ },
      views.keys.map fun logicalViewId =>
        .mintViewId sessionId attemptId logicalViewId .syncFallback)

/-! ## Panes -/

/-- The worker a session's replica belongs to, or nothing said when it has none. -/
def workerOf : String :=
  (store.terminal.lookup sessionId).elim "" TerminalSession.workerFp

def setViewDemand (workerFp sessionId viewId : String) (active : Bool) : TerminalStore :=
  { store with routes := (store.routes.setViewDemand workerFp sessionId viewId active).1 }

/-- A pane attached: create the replica, record the demand, publish the view. -/
def handleViewOpened (sessionId workerFp viewId : String) (cols rows : UInt32) (nowMs : Nat) :
    Emitted :=
  let replica := (store.terminal.lookup sessionId).getD (.new sessionId workerFp)
  let store := { store with
    terminal := store.terminal.insert sessionId (replica.openView viewId cols rows) }
  let store := store.setViewDemand workerFp sessionId viewId true
  (((store.cancelStagedCandidateAndRestart sessionId nowMs).andThen fun store =>
    store.stageOpenedSession sessionId nowMs).andThen fun store =>
      store.publishView sessionId viewId nowMs)

/-- A pane's new size is another one. -/
def changesSize (sessionId viewId : String) (cols rows : UInt32) : Bool :=
  ((store.terminal.lookup sessionId).bind fun replica => replica.views.lookup viewId).any
    fun view => decide (view.resize cols rows ≠ view)

/-- A pane changed size. -/
def handleViewResized (sessionId viewId : String) (cols rows : UInt32) (nowMs : Nat) : Emitted :=
  if !store.changesSize sessionId viewId cols rows then (store, [])
  else
    let store := store.modifyTerminal sessionId fun replica => replica.resizeView viewId cols rows
    (store.cancelStagedCandidateAndRestart sessionId nowMs).andThen fun store =>
      store.publishView sessionId viewId nowMs

/-- A pane was hidden: it keeps its place but stops constraining geometry. -/
def handleViewHidden (sessionId viewId : String) (nowMs : Nat) : Emitted :=
  let workerFp := store.workerOf sessionId
  let store := store.modifyTerminal sessionId fun replica => replica.hideView viewId
  let store := store.setViewDemand workerFp sessionId viewId false
  (store.cancelStagedCandidateAndRestart sessionId nowMs).andThen fun after =>
    match (store.terminal.lookup sessionId).bind fun replica => replica.views.lookup viewId with
    | none => (after, [])
    | some view => (after, after.sendIntentForWire sessionId view.wireViewId .park view.revision)

/-- A pane closed, or its authorization was lost. -/
def handleViewClosed (sessionId viewId : String) (nowMs : Nat) : Emitted :=
  let closing := (store.terminal.lookup sessionId).bind fun replica => replica.views.lookup viewId
  let store := store.modifyTerminal sessionId fun replica => replica.closeView viewId
  let store := store.setViewDemand (store.workerOf sessionId) sessionId viewId false
  (store.cancelStagedCandidateAndRestart sessionId nowMs).andThen fun store =>
    match closing with
    | none => (store, [])
    | some view =>
      (store, store.sendIntentForWire sessionId view.wireViewId .unpublish (view.revision + 1))

/-! ## Carriers -/

def handleCarrierAuthenticated (carrier : DirectCarrier) (nowMs : Nat) : Emitted :=
  let (routes, registration) := store.routes.register carrier
  Emitted.andThen
    ({ store with routes },
      if registration.accepted then releaseCancelled registration.cancelled else [])
    fun store => store.stageAdmittedSessions carrier carrier.grantedSessions nowMs

/-- A fresh grant arrived: every live carrier to that worker is widened to it, and stages what
it newly admits. -/
def handleGrantMinted (workerFp : String) (grant : LiveGrant) (sessions : Finset String)
    (nowMs : Nat) : Emitted :=
  let (routes, widened) := store.routes.widenGrant workerFp grant.workerEpoch sessions
  forEach (fun entry store => store.stageAdmittedSessions entry.1 entry.2 nowMs) widened
    { store with routes, grants := store.grants.insert workerFp grant }

/-- Retire one route: settle what its carrier was sent, and hold the lane until Sync is claimed
back. -/
def retireRoute (reason : String) (lost : LostRoute) (store : TerminalStore) : Emitted :=
  let store := { store with
    routes := (store.routes.retireRoute lost.sessionId lost.token).1
    input := (store.input.retireToken lost.token reason).1 }
  match lost.token.transport with
  | .loopback | .peer =>
    let input := match lost.token.workerFp with
      | none => store.input
      | some workerFp =>
        store.input.beginFallback lost.sessionId workerFp lost.token.processEpoch 0
    { store with input : TerminalStore }.beginSyncViewRotation lost.sessionId lost.token
  | .sync =>
    match store.terminal.lookup lost.sessionId, store.sync.terminalToken with
    | some replica, some syncToken =>
      (store, ((Store.scopedResync replica syncToken lost.sessionId).map TerminalEffect.sent).toList)
    | _, _ => (store, [])

/-- A direct carrier closed: retire exactly its routes and abandon exactly its attempts. -/
def handleCarrierLost (connectionId : String) : Emitted :=
  let (routes, lost) := store.routes.unregister connectionId
  let (routes, abandoned) := routes.cancelCandidatesForConnection connectionId
  Emitted.andThen ({ store with routes }, releaseCancelled abandoned)
    fun store => forEach (retireRoute "direct carrier lost") lost store

/-- A worker is gone: its connections, routes, demands and attempts all go. -/
def handleWorkerRetired (workerFp : String) : Emitted :=
  let (routes, lost) := store.routes.retireWorker TerminalSession.generation workerFp
  (forEach (retireRoute "worker retired") lost { store with routes }).andThen fun store =>
    let (routes, abandoned) := store.routes.cancelCandidatesForWorker workerFp
    ({ store with routes }, releaseCancelled abandoned ++ [.closeDirectCarriers workerFp])

def fencedAttempt (token : TerminalToken) : Option PromotionCandidate :=
  (store.routes.candidates.lookup sessionId).filter fun candidate =>
    decide (candidate.token = token) && store.routes.candidateIsAdmissible sessionId

/-- Fold what a direct carrier brought: into the elected replica, else into the staged one. -/
def handleDirectCells (sizes : Sizes) (sessionId : String) (token : TerminalToken)
    (cells : CellInput) (nowMs : Nat) : TerminalStore :=
  if store.routes.routeMatches sessionId token then
    store.modifyTerminal sessionId fun replica =>
      cells.fold sizes token nowMs (replica.bindGeneration token)
  else
    match store.fencedAttempt sessionId token, store.routes.staged.lookup sessionId with
    | some _, some replica =>
      let replica := cells.fold sizes token nowMs (replica.bindGeneration token)
      let routes := { store.routes with staged := store.routes.staged.insert sessionId replica }
      { store with routes := routes.markCandidateBaseline sessionId replica.baselineReady }
    | _, _ => store

/-- Whether every view the candidate published has been answered. -/
def everyViewAcknowledged : Bool :=
  (store.routes.candidates.lookup sessionId).any fun candidate =>
    !candidate.prospectiveViews.entries.isEmpty && !candidate.hasUnacknowledged

/-- A candidate that earned its baseline, every view answered, is advanced. -/
def advanceCandidate (nowMs : Nat) : Emitted :=
  match store.routes.candidates.lookup sessionId with
  | none => (store, [])
  | some candidate =>
    if !candidate.baselineReady ∨ !store.everyViewAcknowledged sessionId then (store, [])
    else store.advancePromotion sessionId candidate.attemptId candidate.token nowMs

/-- The worker's answer to a view the candidate published. -/
def applyDirectViewState (token : TerminalToken) (state : ViewStateResult)
    (nowMs : Nat) : Emitted :=
  match store.fencedAttempt sessionId token, store.routes.staged.lookup sessionId with
  | some candidate, some replica =>
    match candidate.prospectiveViews.entries.find? fun entry =>
        decide (entry.2.wireViewId = some state.viewId) with
    | none => (store, [])
    | some (logicalViewId, _) =>
      let (replica, admission) :=
        replica.applyViewState { state with sessionId, viewId := logicalViewId } nowMs
      let withReplica (replica : TerminalSession) : TerminalStore :=
        { store with
          routes := { store.routes with staged := store.routes.staged.insert sessionId replica } }
      let acknowledge (store : TerminalStore) : TerminalStore :=
        { store with routes := store.routes.markViewAcknowledged sessionId logicalViewId }
      match admission with
      | .stale => (withReplica replica, [])
      | .refused => (withReplica replica).cancelStagedCandidate sessionId
      | .accepted none => (acknowledge (withReplica replica), [])
      | .accepted (some streamId) =>
        if !isTerminalUuid streamId ∨
            !isTerminalGeometry { cols := state.effectiveCols, rows := state.effectiveRows } then
          (withReplica replica).cancelStagedCandidate sessionId
        else
          (acknowledge (withReplica
            (replica.installExpectedStream streamId state.effectiveCols state.effectiveRows)), [])
  | _, _ => (store, [])

/-! ## The Sync link -/

variable (generation : UInt64)

/-- The newest dial opened, and no other link is live. -/
def openLink (processEpoch : String) : TerminalStore :=
  if generation + 1 ≠ store.nextGeneration ∨ store.sync.link.isSome then store
  else
    { store with
      sync := { store.sync with
        link := some ⟨generation, processEpoch, true, true⟩, terminalDomain := none } }

def resetTerminalDomain (generation domainGeneration : UInt64) : TerminalStore :=
  if !store.sync.accepts generation then store
  else { store with sync := { store.sync with terminalDomain := some ⟨domainGeneration, false⟩ } }

def markTerminalDomainReady : TerminalStore :=
  if !store.sync.accepts generation then store
  else
    { store with
      sync := { store.sync with
        terminalDomain := store.sync.terminalDomain.map fun domain =>
          { domain with ready := true } } }

/-- The live link is replaced deliberately. -/
def requestRedial : TerminalStore :=
  { store with sync := (store.sync.requestRedial generation).1 }

/-- Unbind every replica fenced to a Sync socket, settle what it was carrying, and block every
lane whose route was acknowledged over it. -/
def releaseSyncGeneration : TerminalStore :=
  let input := (store.input.retireSyncGeneration generation "Sync closed").1
  { store with
    input := (input.blockRoutesOnSyncSocket generation).1
    terminal := store.terminal.mapValues fun _ replica =>
      if replica.generation.any fun token =>
          decide (token.transport = .sync) && decide (token.socketGeneration = generation) then
        replica.releaseGeneration.retireLiveness .generationReset
      else replica }

def onLinkClosed : TerminalStore :=
  let wasOpen := decide (store.sync.linkGeneration = some generation)
  let latest := decide (generation = store.nextGeneration - 1)
  let store :=
    if wasOpen then { store with sync := { store.sync with link := none, terminalDomain := none } }
    else store
  if !wasOpen && !latest then store else store.releaseSyncGeneration generation

/-- A cell frame from Sync; one for a session an elected direct carrier owns is a straggler. -/
def handleSyncCells (sizes : Sizes) (sessionId : String) (cells : CellInput) (nowMs : Nat) :
    TerminalStore :=
  match store.sync.terminalToken with
  | none => store
  | some token =>
    if (store.generation sessionId).any fun own => decide (own.transport ≠ .sync) then store
    else
      store.modifyTerminal sessionId fun replica =>
        cells.fold sizes token nowMs (replica.bindGeneration token)

end TerminalStore

/-! ## The store as a machine -/

/-- One call on the store. A carrier is a direct one. -/
inductive TerminalCall where
  | viewOpened (sessionId workerFp viewId : String) (cols rows : UInt32) (nowMs : Nat)
  | viewResized (sessionId viewId : String) (cols rows : UInt32) (nowMs : Nat)
  | viewHidden (sessionId viewId : String) (nowMs : Nat)
  | viewClosed (sessionId viewId : String) (nowMs : Nat)
  | publishView (sessionId viewId : String) (nowMs : Nat)
  | viewIdMinted (sessionId : String) (attemptId : Nat) (logicalViewId : String)
    (target : ViewIdTarget) (wireViewId : Option String) (nowMs : Nat)
  | carrierReady (carrier : DirectCarrier) (direct : carrier.transport ≠ .sync) (nowMs : Nat)
  | grantMinted (workerFp : String) (grant : LiveGrant) (sessions : Finset String) (nowMs : Nat)
  | grantEnded (workerFp : String)
  | carrierLost (connectionId : String)
  | workerRetired (workerFp : String)
  | directCells (sessionId : String) (token : TerminalToken) (cells : CellInput) (nowMs : Nat)
  | directViewState (sessionId : String) (token : TerminalToken) (state : ViewStateResult)
    (nowMs : Nat)
  | advanceCandidate (sessionId : String) (nowMs : Nat)
  | directInputResult (sessionId : String) (token : TerminalToken) (inputSeq : Nat)
    (outcome : InputOutcome) (nowMs : Nat)
  | directRouteResult (token : TerminalToken) (result : InputRouteResult) (nowMs : Nat)
  | dialled
  | linkOpened (generation : UInt64) (processEpoch : String)
  | linkReplaced (generation : UInt64)
  | linkClosed (generation : UInt64) (nowMs : Nat)
  | terminalDomainReset (generation domainGeneration : UInt64)
  | terminalDomainReady (generation : UInt64)
  | syncCells (sessionId : String) (cells : CellInput) (nowMs : Nat)
  | syncInputResult (sessionId : String) (inputSeq : Nat) (outcome : InputOutcome)
    (listedWorkerFp : Option String) (nowMs : Nat)
  | syncRouteResult (result : InputRouteResult) (nowMs : Nat)
  | terminalInput (sessionId : String) (viewId : Option String) (bytes : List UInt8)
    (listedWorkerFp : Option String) (nowMs : Nat)
  | sweepCandidateDeadlines (nowMs : Nat)
  | expireRouteClaims (nowMs : Nat)
  | resumeHeldPromotion (sessionId : String) (nowMs : Nat)
  | claimDueFallbacks (nowMs : Nat)
  | sweepHeld (nowMs : Nat)
  | sweepUnanswered (nowMs : Nat)
  | sendQueuedInput (sessionId : String) (nowMs : Nat)

/-- The store as a machine that answers with what it emitted. -/
def terminalStore (sizes : Sizes) : Transducer TerminalStore TerminalCall (List TerminalEffect) where
  step
    | store, .viewOpened sessionId workerFp viewId cols rows nowMs =>
      store.handleViewOpened sessionId workerFp viewId cols rows nowMs
    | store, .viewResized sessionId viewId cols rows nowMs =>
      store.handleViewResized sessionId viewId cols rows nowMs
    | store, .viewHidden sessionId viewId nowMs => store.handleViewHidden sessionId viewId nowMs
    | store, .viewClosed sessionId viewId nowMs => store.handleViewClosed sessionId viewId nowMs
    | store, .publishView sessionId viewId nowMs => store.publishView sessionId viewId nowMs
    | store, .viewIdMinted sessionId attemptId logicalViewId .candidate wireViewId nowMs =>
      store.adoptCandidateViewId sessionId attemptId logicalViewId wireViewId nowMs
    | store, .viewIdMinted sessionId attemptId logicalViewId .syncFallback wireViewId nowMs =>
      store.adoptSyncViewId sessionId attemptId logicalViewId wireViewId nowMs
    | store, .carrierReady carrier _ nowMs => store.handleCarrierAuthenticated carrier nowMs
    | store, .grantMinted workerFp grant sessions nowMs =>
      store.handleGrantMinted workerFp grant sessions nowMs
    | store, .grantEnded workerFp => ({ store with grants := store.grants.erase workerFp }, [])
    | store, .carrierLost connectionId => store.handleCarrierLost connectionId
    | store, .workerRetired workerFp => store.handleWorkerRetired workerFp
    | store, .directCells sessionId token cells nowMs =>
      (store.handleDirectCells sizes sessionId token cells nowMs, [])
    | store, .directViewState sessionId token state nowMs =>
      store.applyDirectViewState sessionId token state nowMs
    | store, .advanceCandidate sessionId nowMs => store.advanceCandidate sessionId nowMs
    | store, .directInputResult sessionId token inputSeq outcome nowMs =>
      store.handleDirectInputResult sessionId token inputSeq outcome nowMs
    | store, .directRouteResult token result nowMs => store.settleRouteResult token result nowMs
    | store, .dialled => ({ store with nextGeneration := store.nextGeneration + 1 }, [])
    | store, .linkOpened generation processEpoch => (store.openLink generation processEpoch, [])
    | store, .linkReplaced generation => (store.requestRedial generation, [])
    | store, .linkClosed generation nowMs =>
      (store.onLinkClosed generation).rejectSyncClaims generation nowMs
    | store, .terminalDomainReset generation domainGeneration =>
      (store.resetTerminalDomain generation domainGeneration, [])
    | store, .terminalDomainReady generation => (store.markTerminalDomainReady generation, [])
    | store, .syncCells sessionId cells nowMs =>
      (store.handleSyncCells sizes sessionId cells nowMs, [])
    | store, .syncInputResult sessionId inputSeq outcome listedWorkerFp nowMs =>
      store.handleInputResult sessionId inputSeq outcome listedWorkerFp nowMs
    | store, .syncRouteResult result nowMs =>
      match store.sync.terminalToken with
      | none => (store, [])
      | some token => store.settleRouteResult token result nowMs
    | store, .terminalInput sessionId viewId bytes listedWorkerFp nowMs =>
      store.handleTerminalInput sessionId viewId bytes listedWorkerFp nowMs
    | store, .sweepCandidateDeadlines nowMs => store.sweepCandidateDeadlines nowMs
    | store, .expireRouteClaims nowMs => store.expireRouteClaims nowMs
    | store, .resumeHeldPromotion sessionId nowMs => store.resumeHeldPromotion sessionId nowMs
    | store, .claimDueFallbacks nowMs => store.claimDueFallbacks nowMs
    | store, .sweepHeld nowMs => ({ store with input := (store.input.sweepHeld nowMs).1 }, [])
    | store, .sweepUnanswered nowMs =>
      ({ store with input := (store.input.sweepUnanswered nowMs).1 }, [])
    | store, .sendQueuedInput sessionId nowMs => store.sendQueuedInput sessionId nowMs

end Roost.Client
