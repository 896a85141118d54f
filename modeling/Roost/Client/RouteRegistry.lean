-- SUMMARY: The client's registry of connections, routes, and staged attempts.
import Roost.Base.OrderedMap
import Roost.Client.Session

/-!
# Direct routes

A worker has one active connection and one candidate. A session is staged on a connection and
promoted to its route once the attempt holds a baseline and its views are answered; a candidate
takes the active slot when it holds a route and the active one holds none. Connections close,
routes are lost, workers are retired, and grants only widen.

What a staged replica is does not matter here but for the generation it is bound to.
-/

namespace Roost.Client

/-! ## Carriers, routes and attempts -/

structure DirectCarrier where
  connectionId : String
  workerFp : String
  transport : TerminalTransport
  token : TerminalToken
  socketId : String
  grantedSessions : Finset String
  deriving DecidableEq

namespace DirectCarrier

def allowsSession (carrier : DirectCarrier) (sessionId : String) : Bool :=
  decide (sessionId ∈ carrier.grantedSessions)

/-- The connection could present this token: right kind, right worker, right process epoch. -/
def presents (carrier : DirectCarrier) (token : TerminalToken) : Bool :=
  decide (token.transport = carrier.transport) && decide (token.workerFp = some carrier.workerFp) &&
    decide (token.processEpoch = carrier.token.processEpoch)

end DirectCarrier

structure SessionRoute where
  connectionId : String
  token : TerminalToken
  deriving DecidableEq

structure LostRoute where
  sessionId : String
  token : TerminalToken

/-- One pane the candidate prepares a separate wire view for. -/
structure ProspectiveView where
  /-- The id the candidate published, once the host minted one. -/
  wireViewId : Option String
  sourceIntent : ViewIntent
  sourceRevision : Nat
  candidateRevision : Nat
  acknowledged : Bool

/-- A staged attempt: one connection's preparation of a session's route. -/
structure PromotionCandidate where
  sessionId : String
  connectionId : String
  token : TerminalToken
  attemptId : Nat
  baselineReady : Bool
  prospectiveViews : OrderedMap String ProspectiveView
  stagedAtMs : Nat

namespace PromotionCandidate

/-- A view the candidate published has not been acknowledged yet. -/
def hasUnacknowledged (candidate : PromotionCandidate) : Bool :=
  candidate.prospectiveViews.values.any fun view => !view.acknowledged

/-- The wire ids the attempt minted, with the revision each was published under. -/
def minted (candidate : PromotionCandidate) : List (String × Nat) :=
  candidate.prospectiveViews.values.filterMap fun view =>
    view.wireViewId.map fun wireViewId => (wireViewId, view.candidateRevision)

end PromotionCandidate

/-- What the worker of a cancelled attempt still holds for this document. -/
structure CancelledCandidate where
  sessionId : String
  token : TerminalToken
  minted : List (String × Nat)

structure ConnectionRegistration where
  accepted : Bool
  /-- The attempts staged on the connection this one displaced. -/
  cancelled : List CancelledCandidate

namespace ConnectionRegistration

def admitted : ConnectionRegistration := ⟨true, []⟩

def refused : ConnectionRegistration := ⟨false, []⟩

end ConnectionRegistration

inductive PromotionRefusal where
  | noCandidate
  | attemptMovedOn
  | baselineIncomplete
  | viewUnacknowledged
  | tokenChanged
  | connectionGone
  | grantDoesNotAdmit
  | noViewDemand
  | loopbackPreferred

/-! ## The registry -/

structure WorkerConnections where
  active : Option DirectCarrier
  candidate : Option DirectCarrier
  deriving DecidableEq

namespace WorkerConnections

/-- The connections that are there, the active one before the candidate. -/
def carriers (slots : WorkerConnections) : List DirectCarrier :=
  slots.active.toList ++ slots.candidate.toList

def drop (connectionId : String) (slots : WorkerConnections) : WorkerConnections where
  active := slots.active.filter fun carrier => decide (carrier.connectionId ≠ connectionId)
  candidate := slots.candidate.filter fun carrier => decide (carrier.connectionId ≠ connectionId)

end WorkerConnections

/-- One document's connections, routes, demands and staged attempts. -/
structure RouteRegistry (ρ : Type) where
  connections : OrderedMap String WorkerConnections
  routes : OrderedMap String SessionRoute
  /-- Which views want which session on which worker. -/
  demands : OrderedMap String (OrderedMap String (Finset String))
  candidates : OrderedMap String PromotionCandidate
  /-- The replica each attempt folds into. -/
  staged : OrderedMap String ρ

namespace RouteRegistry

variable {ρ : Type}

def new : RouteRegistry ρ := ⟨.empty, .empty, .empty, .empty, .empty⟩

variable (registry : RouteRegistry ρ)

/-! ## Queries -/

def hasViewDemand (workerFp sessionId : String) : Bool :=
  ((registry.demands.lookup workerFp).bind fun sessions => sessions.lookup sessionId).any
    fun views => decide (views ≠ ∅)

def hasRoutesFor : Option DirectCarrier → Bool
  | none => false
  | some carrier =>
    registry.routes.values.any fun route => decide (route.connectionId = carrier.connectionId)

variable (sessionId : String)

def routeMatches (token : TerminalToken) : Bool :=
  (registry.routes.lookup sessionId).any fun route => decide (route.token = token)

/-- Any registered connection whose grant still admits this session. -/
def admittedCarrier : Option DirectCarrier :=
  registry.connections.values.findSome? fun slots =>
    slots.carriers.find? fun carrier => carrier.allowsSession sessionId

/-- Whether a staged attempt is still something its connection could promote. -/
def candidateIsAdmissible : Bool :=
  match registry.candidates.lookup sessionId with
  | none => false
  | some candidate =>
    (candidate.token.workerFp.bind fun workerFp => registry.connections.lookup workerFp).any
      fun slots => (slots.candidate.toList ++ slots.active.toList).any fun carrier =>
        decide (carrier.connectionId = candidate.connectionId) &&
          carrier.presents candidate.token && carrier.allowsSession sessionId

/-- Whether a staged attempt may be promoted now, and on which connection. -/
def promotable (attemptId : Nat) (token : TerminalToken) :
    Except PromotionRefusal String :=
  match registry.candidates.lookup sessionId with
  | none => .error .noCandidate
  | some candidate =>
    if candidate.attemptId ≠ attemptId then .error .attemptMovedOn
    else if !candidate.baselineReady then .error .baselineIncomplete
    else if candidate.hasUnacknowledged then .error .viewUnacknowledged
    else if candidate.token ≠ token then .error .tokenChanged
    else
      match token.workerFp with
      | none => .error .tokenChanged
      | some workerFp =>
        match registry.connections.lookup workerFp with
        | none => .error .connectionGone
        | some slots =>
          match slots.candidate.or slots.active with
          | none => .error .connectionGone
          | some carrier =>
            if carrier.connectionId ≠ candidate.connectionId ∨ !carrier.presents token then
              .error .tokenChanged
            else if !carrier.allowsSession sessionId then .error .grantDoesNotAdmit
            else if !registry.hasViewDemand workerFp sessionId then .error .noViewDemand
            else if (slots.active.any fun active =>
                decide (active.connectionId ≠ carrier.connectionId)) ∧
                carrier.transport ≠ .loopback then
              .error .loopbackPreferred
            else .ok carrier.connectionId

/-! ## Slots and routes -/

/-- A candidate takes the active slot only when it holds a route and the active one holds none. -/
def promoteCandidateIfPossible (workerFp : String) : RouteRegistry ρ :=
  match registry.connections.lookup workerFp with
  | none => registry
  | some slots =>
    if !registry.hasRoutesFor slots.candidate || registry.hasRoutesFor slots.active then registry
    else
      { registry with connections := registry.connections.insert workerFp ⟨slots.candidate, none⟩ }

variable (connectionId : String)

def takeRoutesForConnection : RouteRegistry ρ × List LostRoute :=
  let served := registry.routes.entries.filter fun entry =>
    decide (entry.2.connectionId = connectionId)
  ({ registry with
      routes := registry.routes.retain fun _ route => decide (route.connectionId ≠ connectionId) },
    served.map fun entry => ⟨entry.1, entry.2.token⟩)

/-! ## Attempts -/

/-- Abandon one session's staged attempt. -/
def cancelCandidate : RouteRegistry ρ × Option CancelledCandidate :=
  match registry.candidates.lookup sessionId with
  | none => (registry, none)
  | some candidate =>
    ({ registry with
        candidates := registry.candidates.erase sessionId
        staged := registry.staged.erase sessionId },
      some ⟨candidate.sessionId, candidate.token, candidate.minted⟩)

/-- Abandon the staged attempts of some sessions, one after another. -/
def cancelCandidates (registry : RouteRegistry ρ) :
    List String → RouteRegistry ρ × List CancelledCandidate
  | [] => (registry, [])
  | sessionId :: rest =>
    let (registry, cancelled) := registry.cancelCandidate sessionId
    let (registry, others) := registry.cancelCandidates rest
    (registry, cancelled.toList ++ others)

/-- Abandon every attempt staged on one connection. -/
def cancelCandidatesForConnection :
    RouteRegistry ρ × List CancelledCandidate :=
  registry.cancelCandidates ((registry.candidates.entries.filter fun entry =>
    decide (entry.2.connectionId = connectionId)).map Prod.fst)

/-- Abandon every attempt staged on one worker. -/
def cancelCandidatesForWorker (workerFp : String) : RouteRegistry ρ × List CancelledCandidate :=
  registry.cancelCandidates ((registry.candidates.entries.filter fun entry =>
    decide (entry.2.token.workerFp = some workerFp)).map Prod.fst)

/-- Record a staged attempt and its replica, unless a newer one is staged. -/
def stage (candidate : PromotionCandidate) (replica : ρ) : RouteRegistry ρ × Bool :=
  if (registry.candidates.lookup candidate.sessionId).any fun existing =>
      decide (existing.attemptId > candidate.attemptId) then
    (registry, false)
  else
    ({ registry with
        staged := registry.staged.insert candidate.sessionId replica
        candidates := registry.candidates.insert candidate.sessionId candidate }, true)

/-- Change the record of a session's staged attempt. -/
def modifyCandidate (f : PromotionCandidate → PromotionCandidate) :
    RouteRegistry ρ :=
  match registry.candidates.lookup sessionId with
  | none => registry
  | some candidate =>
    { registry with candidates := registry.candidates.insert sessionId (f candidate) }

/-- Change one view an attempt prepares. -/
def modifyView (sessionId logicalViewId : String) (f : ProspectiveView → ProspectiveView) :
    RouteRegistry ρ :=
  registry.modifyCandidate sessionId fun candidate =>
    match candidate.prospectiveViews.lookup logicalViewId with
    | none => candidate
    | some view =>
      { candidate with prospectiveViews := candidate.prospectiveViews.insert logicalViewId (f view) }

/-- Record whether a staged attempt now holds a complete validated baseline. -/
def markCandidateBaseline (baselineReady : Bool) : RouteRegistry ρ :=
  registry.modifyCandidate sessionId fun candidate => { candidate with baselineReady }

/-- Record the id the candidate published for one pane. -/
def markViewWireId (sessionId logicalViewId wireViewId : String) : RouteRegistry ρ × Bool :=
  (registry.modifyView sessionId logicalViewId fun view =>
      { view with wireViewId := some wireViewId },
    ((registry.candidates.lookup sessionId).bind fun candidate =>
      candidate.prospectiveViews.lookup logicalViewId).isSome)

/-- Record that the authority acknowledged one of the candidate's own views. -/
def markViewAcknowledged (sessionId logicalViewId : String) : RouteRegistry ρ :=
  registry.modifyView sessionId logicalViewId fun view => { view with acknowledged := true }

/-! ## Connections -/

def register (connection : DirectCarrier) : RouteRegistry ρ × ConnectionRegistration :=
  if connection.token.socketGeneration = 0 ∨ !connection.presents connection.token then
    (registry, .refused)
  else
    let incumbent := registry.connections.lookup connection.workerFp
    if incumbent.any fun slots =>
        decide (slots.active = some connection) || decide (slots.candidate = some connection) then
      (registry, .admitted)
    else if incumbent.any fun slots => registry.hasRoutesFor slots.candidate then
      (registry, .refused)
    else
      let (registry, cancelled) :=
        match incumbent.bind WorkerConnections.candidate with
        | none => (registry, [])
        | some displaced => registry.cancelCandidatesForConnection displaced.connectionId
      ({ registry with
          connections := registry.connections.insert connection.workerFp
            ⟨incumbent.bind WorkerConnections.active, some connection⟩ },
        ⟨true, cancelled⟩)

/-- The worker whose active slot a connection sits in. -/
def servedBy : Option String :=
  (registry.connections.entries.filter fun entry =>
    entry.2.active.any fun carrier => decide (carrier.connectionId = connectionId)).getLast?.map
      Prod.fst

def unregister : RouteRegistry ρ × List LostRoute :=
  let servedBy := registry.servedBy connectionId
  let registry := { registry with
    connections := registry.connections.mapValues fun _ => WorkerConnections.drop connectionId }
  match servedBy with
  | none => (registry, [])
  | some workerFp =>
    let (registry, lost) := registry.takeRoutesForConnection connectionId
    let registry := registry.promoteCandidateIfPossible workerFp
    let registry :=
      if registry.connections.lookup workerFp = some ⟨none, none⟩ then
        { registry with connections := registry.connections.erase workerFp }
      else registry
    (registry, lost)

/-- A carrier widened to a fresh grant, with what it newly admits; nothing when it keeps its scope. -/
def widenCarrier (processEpoch : String) (sessions : Finset String) (carrier : DirectCarrier) :
    Option (DirectCarrier × Finset String) :=
  if (processEpoch ≠ "" ∧ carrier.token.processEpoch ≠ processEpoch) ∨
      ¬carrier.grantedSessions ⊆ sessions then none
  else
    let added := sessions \ carrier.grantedSessions
    if added = ∅ then none
    else some ({ carrier with grantedSessions := carrier.grantedSessions ∪ added }, added)

def widenGrant (workerFp processEpoch : String) (sessions : Finset String) :
    RouteRegistry ρ × List (DirectCarrier × Finset String) :=
  match registry.connections.lookup workerFp with
  | none => (registry, [])
  | some slots =>
    let widen := widenCarrier processEpoch sessions
    let widened (carrier : DirectCarrier) := ((widen carrier).map Prod.fst).getD carrier
    ({ registry with
        connections := registry.connections.insert workerFp
          ⟨slots.active.map widened, slots.candidate.map widened⟩ },
      slots.carriers.filterMap widen)

def setViewDemand (workerFp sessionId viewId : String) (active : Bool) : RouteRegistry ρ × Bool :=
  let sessions := (registry.demands.lookup workerFp).getD .empty
  let views := (sessions.lookup sessionId).getD ∅
  let changed := if active then decide (viewId ∉ views) else decide (viewId ∈ views)
  let views := if active then insert viewId views else views.erase viewId
  let sessions := if views = ∅ then sessions.erase sessionId else sessions.insert sessionId views
  let demands :=
    if sessions.entries.isEmpty then registry.demands.erase workerFp
    else registry.demands.insert workerFp sessions
  ({ registry with demands }, changed)

/-! ## Promotion and retirement -/

/-- Promote a staged attempt to the session's route, and hand back its replica. -/
def promote (attemptId : Nat) (token : TerminalToken) :
    RouteRegistry ρ × Except PromotionRefusal ρ :=
  match registry.promotable sessionId attemptId token, token.workerFp with
  | .error refusal, _ => (registry, .error refusal)
  | .ok _, none => (registry, .error .tokenChanged)
  | .ok connectionId, some workerFp =>
    let registry := { registry with candidates := registry.candidates.erase sessionId }
    match registry.staged.lookup sessionId with
    | none => (registry, .error .noCandidate)
    | some promoted =>
      let registry := { registry with
        staged := registry.staged.erase sessionId
        routes := registry.routes.insert sessionId ⟨connectionId, token⟩ }
      (registry.promoteCandidateIfPossible workerFp, .ok promoted)

def retireRoute (token : TerminalToken) : RouteRegistry ρ × Bool :=
  if !registry.routeMatches sessionId token then (registry, false)
  else
    let workerFp := (registry.routes.lookup sessionId).bind fun route => route.token.workerFp
    let registry := { registry with
      routes := registry.routes.erase sessionId
      candidates := registry.candidates.erase sessionId
      staged := registry.staged.erase sessionId }
    (match workerFp with
      | none => registry
      | some workerFp => registry.promoteCandidateIfPossible workerFp, true)

/-- Retire everything for a worker. A staged replica goes by the generation it is bound to. -/
def retireWorker (generation : ρ → Option TerminalToken) (workerFp : String) :
    RouteRegistry ρ × List LostRoute :=
  let ofWorker (route : SessionRoute) := decide (route.token.workerFp = some workerFp)
  let lost := registry.routes.entries.filter fun entry => ofWorker entry.2
  ({ connections := registry.connections.erase workerFp
     routes := registry.routes.retain fun _ route => !ofWorker route
     demands := registry.demands.erase workerFp
     candidates := registry.candidates.retain fun _ candidate =>
       decide (candidate.token.workerFp ≠ some workerFp)
     staged := registry.staged.retain fun _ replica =>
       decide (((generation replica).bind TerminalToken.workerFp) ≠ some workerFp) },
    lost.map fun entry => ⟨entry.1, entry.2.token⟩)

end RouteRegistry

/-! ## The registry as a machine -/

inductive RouteCall (ρ : Type) where
  | register (connection : DirectCarrier)
  | unregister (connectionId : String)
  | widenGrant (workerFp processEpoch : String) (sessions : Finset String)
  | setViewDemand (workerFp sessionId viewId : String) (active : Bool)
  | stage (candidate : PromotionCandidate) (replica : ρ)
  | markViewWireId (sessionId logicalViewId wireViewId : String)
  | markCandidateBaseline (sessionId : String) (baselineReady : Bool)
  | markViewAcknowledged (sessionId logicalViewId : String)
  | promote (sessionId : String) (attemptId : Nat) (token : TerminalToken)
  | cancelCandidate (sessionId : String)
  | cancelCandidatesForConnection (connectionId : String)
  | cancelCandidatesForWorker (workerFp : String)
  | retireRoute (sessionId : String) (token : TerminalToken)
  | retireWorker (workerFp : String)

/-- What a call answers. -/
inductive RouteReply (ρ : Type) where
  | registered (registration : ConnectionRegistration)
  | lost (routes : List LostRoute)
  | widened (carriers : List (DirectCarrier × Finset String))
  | said (answer : Bool)
  | promoted (replica : Except PromotionRefusal ρ)
  | cancelled (candidates : List CancelledCandidate)
  | done

def routeRegistry {ρ : Type} (generation : ρ → Option TerminalToken) :
    Transducer (RouteRegistry ρ) (RouteCall ρ) (RouteReply ρ) where
  step
    | registry, .register connection => (registry.register connection).map id .registered
    | registry, .unregister connectionId => (registry.unregister connectionId).map id .lost
    | registry, .widenGrant workerFp processEpoch sessions =>
      (registry.widenGrant workerFp processEpoch sessions).map id .widened
    | registry, .setViewDemand workerFp sessionId viewId active =>
      (registry.setViewDemand workerFp sessionId viewId active).map id .said
    | registry, .stage candidate replica => (registry.stage candidate replica).map id .said
    | registry, .markViewWireId sessionId logicalViewId wireViewId =>
      (registry.markViewWireId sessionId logicalViewId wireViewId).map id .said
    | registry, .markCandidateBaseline sessionId baselineReady =>
      (registry.markCandidateBaseline sessionId baselineReady, .done)
    | registry, .markViewAcknowledged sessionId logicalViewId =>
      (registry.markViewAcknowledged sessionId logicalViewId, .done)
    | registry, .promote sessionId attemptId token =>
      (registry.promote sessionId attemptId token).map id .promoted
    | registry, .cancelCandidate sessionId =>
      (registry.cancelCandidate sessionId).map id fun cancelled => .cancelled cancelled.toList
    | registry, .cancelCandidatesForConnection connectionId =>
      (registry.cancelCandidatesForConnection connectionId).map id .cancelled
    | registry, .cancelCandidatesForWorker workerFp =>
      (registry.cancelCandidatesForWorker workerFp).map id .cancelled
    | registry, .retireRoute sessionId token =>
      (registry.retireRoute sessionId token).map id .said
    | registry, .retireWorker workerFp =>
      (registry.retireWorker generation workerFp).map id .lost

end Roost.Client
