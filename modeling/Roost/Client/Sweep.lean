-- SUMMARY: The client's replicas under one Sync link, and the liveness pass.
import Roost.Client.ReplicaSafety

/-!
# The sweep

There is no timer in the client: a deadline comes due only when the sweep looks at
it. The liveness pass takes a due proof first, then a due probe, then arms a probe
where nothing is armed. The Sync link, the elected routes and the rotation of view
ids are other parts of the client; here they are state the pass reads.
-/

namespace Roost.Client

open Roost.Cell

/-! ## The store -/

/-- The live Sync socket. -/
structure SyncLink where
  generation : UInt64
  processEpoch : String
  opened : Bool
  /-- It has not been closed intentionally. -/
  accepting : Bool

/-- The terminal domain's hydration state. -/
structure DomainToken where
  generation : UInt64
  ready : Bool

/-- The part of the Sync state machine the sweep reads. -/
structure SyncState where
  link : Option SyncLink
  terminalDomain : Option DomainToken
  /-- Whether the document is visible, as last reported. -/
  visible : Bool

namespace SyncState

/-- Whether a generation is the live socket's, open and accepting. -/
def accepts (sync : SyncState) (generation : UInt64) : Bool :=
  sync.link.any fun link => decide (link.generation = generation) && link.accepting && link.opened

def linkGeneration (sync : SyncState) : Option UInt64 := sync.link.map SyncLink.generation

/-- Close the live socket deliberately, so that the dial loop redials. -/
def requestRedial (sync : SyncState) (generation : UInt64) : SyncState × Bool :=
  if !sync.accepts generation then (sync, false)
  else ({ sync with link := none, terminalDomain := none }, true)

def terminalToken (sync : SyncState) : Option TerminalToken :=
  sync.link.map fun link =>
    .sync link.generation link.processEpoch
      ((sync.terminalDomain.map DomainToken.generation).getD 0)

end SyncState

/-- A command about one session, as either carrier takes it. -/
inductive TerminalCommand where
  | resync (sessionId viewId streamId gridEpoch : String) (seq : UInt64)
  | view (sessionId viewId : String) (intent : ViewIntent) (revision : Nat)
  deriving DecidableEq

/-- What the host is asked to do. -/
inductive Effect where
  | sendSync (command : TerminalCommand) (token : TerminalToken)
  | sendDirect (token : TerminalToken) (command : TerminalCommand)
  | closeSyncLink (generation : UInt64) (reason : String)
  deriving DecidableEq

/-- The client's terminal state. -/
structure Store where
  terminal : Table String TerminalSession
  sync : SyncState
  /-- The token of each session's elected direct route. -/
  routes : Table String TerminalToken
  pendingSyncViewRotation : Finset String

/-- What one part of the client leaves behind, and what it asks for. -/
abbrev Acted := Store × List Effect

namespace Store

/-- A client that holds no replica. -/
def new (sync : SyncState) : Store where
  terminal := ∅
  sync := sync
  routes := ∅
  pendingSyncViewRotation := ∅

variable (store : Store)

/-- Change a session's replica, if there is one. -/
def modifyTerminal (sessionId : String) (f : TerminalSession → TerminalSession) :
    Store :=
  { store with terminal := store.terminal.modify sessionId f }

def modifyLiveness (sessionId : String)
    (f : ForegroundLiveness → ForegroundLiveness) : Store :=
  store.modifyTerminal sessionId fun replica => { replica with liveness := f replica.liveness }

/-- Where a session's next view command goes: its elected direct route, else the live
Sync socket once the terminal domain is ready, else nowhere. -/
def publicationTarget (sessionId : String) : Option TerminalToken :=
  match store.routes.lookup sessionId with
  | some token => some token
  | none =>
    if !(store.sync.terminalDomain.any DomainToken.ready) then none else store.sync.terminalToken

/-! ## Repairs -/

def scopedResync (replica : TerminalSession) (token : TerminalToken) (sessionId : String) :
    Option Effect :=
  match replica.repairView with
  | none => none
  | some view =>
    match replica.expectedStreamId with
    | none => none
    | some streamId =>
      let gridEpoch := (replica.canonical.map CellGridFrame.gridEpoch).getD ""
      let seq := (replica.canonical.map CellGridFrame.seq).getD 0
      let command := .resync sessionId view.wireViewId streamId gridEpoch seq
      match token.transport with
      | .sync => some (.sendSync command token)
      | .loopback | .peer => some (.sendDirect token command)

/-- The resync one replica owes. -/
def repairRequest (replica : TerminalSession) (token : TerminalToken) (sessionId : String)
    (nowMs : Nat) : Option Effect :=
  if !replica.repairLatched ∨ !replica.repairDue token nowMs then none
  else scopedResync replica token sessionId

/-- Ask for a fresh baseline when the latch says one is due. -/
def requestRepairIfDue (sessionId : String) (nowMs : Nat) : Acted :=
  if sessionId ∈ store.pendingSyncViewRotation then (store, [])
  else
    match store.terminal.lookup sessionId with
    | none => (store, [])
    | some replica =>
      match replica.generation with
      | none => (store, [])
      | some token =>
        match repairRequest replica token sessionId nowMs with
        | none => (store, [])
        | some request =>
          (store.modifyTerminal sessionId fun replica =>
            (replica.markRepairSent token nowMs).beginScopedRepair token nowMs, [request])

/-- A generation-matched view-state result; an accepted one that names a stream installs
the new expectation. -/
def handleViewState (state : ViewStateResult) (nowMs : Nat) : Acted :=
  match store.terminal.lookup state.sessionId with
  | none => (store, [])
  | some replica =>
    match replica.orderedViews.find? fun view => decide (view.wireViewId = state.viewId) with
    | none => (store, [])
    | some view =>
      let (replica, admission) := replica.applyViewState { state with viewId := view.viewId } nowMs
      let store := store.modifyTerminal state.sessionId fun _ => replica
      match admission with
      | .accepted (some streamId) =>
        if !isTerminalUuid streamId ∨
            !isTerminalGeometry { cols := state.effectiveCols, rows := state.effectiveRows } then
          (store, [])
        else
          (store.modifyTerminal state.sessionId fun replica =>
            replica.installExpectedStream streamId state.effectiveCols
              state.effectiveRows).requestRepairIfDue state.sessionId nowMs
      | _ => (store, [])

/-- Publish a view's current intent on the session's publication target. A target the
replica is not fenced to re-fences it first. -/
def publishView (sessionId viewId : String) (nowMs : Nat) : Acted :=
  if sessionId ∈ store.pendingSyncViewRotation then (store, [])
  else
    match store.publicationTarget sessionId with
    | none => (store, [])
    | some token =>
      match (store.terminal.lookup sessionId).bind fun replica => replica.views.lookup viewId with
      | none => (store, [])
      | some view =>
        let command := .view sessionId view.wireViewId view.intent view.revision
        let sent :=
          if token.transport = .sync then [.sendSync command token]
          else if store.routes.lookup sessionId = some token then [.sendDirect token command]
          else []
        (store.modifyTerminal sessionId fun replica =>
          (replica.bindGeneration token).markViewPublished viewId token.viewAnswerGeneration nowMs,
          sent)

/-- Unbind every replica fenced to the Sync socket that just closed. -/
def releaseSyncGeneration (generation : UInt64) : Store :=
  store.terminal.keys.foldl
    (fun store sessionId => store.modifyTerminal sessionId fun replica =>
      if replica.generation.any fun token =>
          decide (token.transport = .sync ∧ token.socketGeneration = generation) then
        replica.releaseGeneration.retireLiveness .generationReset
      else replica)
    store

/-! ## The liveness pass -/

/-- Why a pane that stopped painting closes its link. -/
def livenessReason : String := "terminal-liveness"

/-- Whether a replica is still something the watchdog owes anything. -/
inductive Watch where
  | watched (owner : TerminalToken)
  | retire (outcome : RepairOutcome)

variable (store : Store)

variable (sessionId : String)

/-- The generation whose publication target this session currently has. -/
def electedOwner : Option TerminalToken :=
  match (store.terminal.lookup sessionId).bind TerminalSession.generation with
  | none => none
  | some owner => if store.publicationTarget sessionId = some owner then some owner else none

/-- Why there is no elected owner. -/
def unwatchableReason : RepairOutcome :=
  if ((store.terminal.lookup sessionId).bind TerminalSession.generation).isSome then
    .generationReset
  else .inactive

/-- Re-validate every precondition at fire time. -/
def watch : Watch :=
  match store.terminal.lookup sessionId with
  | none => .retire .inactive
  | some replica =>
    if replica.foregroundView.isNone then .retire .inactive
    else if replica.liveness.challenge.any fun challenge =>
        decide (replica.expectedStreamId ≠ some challenge.streamId) then
      .retire .streamReplaced
    else
      match store.electedOwner sessionId with
      | some owner => .watched owner
      | none => .retire (store.unwatchableReason sessionId)

/-- Retire a replica's deadlines, and only when it holds some. -/
def retire (outcome : RepairOutcome) : Store :=
  store.modifyLiveness sessionId fun liveness =>
    if liveness.quietDueMs.isNone && liveness.challenge.isNone then liveness
    else liveness.retire outcome

/-- Hand the link to the recovery that replaces a Sync socket. -/
def requestLinkReplacement (reason : String) : Acted :=
  match store.sync.linkGeneration with
  | none => (store, [])
  | some generation =>
    let (sync, redialled) := store.sync.requestRedial generation
    ({ store with sync }, if redialled then [.closeSyncLink generation reason] else [])

/-- Publish the scoped resync a challenge is; `none` when there is nothing to publish or a
challenge is outstanding. -/
def publishChallenge (owner : TerminalToken) (nowMs : Nat) :
    Option Acted :=
  match store.terminal.lookup sessionId with
  | none => none
  | some replica =>
    if replica.liveness.hasPendingChallenge owner then none
    else
      match scopedResync replica owner sessionId with
      | none => none
      | some request =>
        some (store.modifyTerminal sessionId fun replica => replica.beginScopedRepair owner nowMs,
          [request])

/-- The quiet probe came due: publish a challenge, or re-arm and report. -/
def probe (nowMs : Nat) : Acted :=
  match store.watch sessionId with
  | .retire outcome => (store.retire sessionId outcome, [])
  | .watched owner =>
    let store := store.modifyLiveness sessionId ForegroundLiveness.takeQuiet
    match store.publishChallenge sessionId owner nowMs with
    | some acted => acted
    | none =>
      -- Nothing went out, so the session owes a deadline rather than a challenge.
      (store.modifyLiveness sessionId fun liveness =>
        liveness.claimRearmEpisode.1.rearmQuiet owner nowMs, [])

/-- The proof deadline came due. -/
def escalate (nowMs : Nat) : Acted :=
  match store.watch sessionId with
  | .retire outcome => (store.retire sessionId outcome, [])
  | .watched owner =>
    match store.terminal.lookup sessionId with
    | none => (store, [])
    | some replica =>
      if !replica.liveness.hasPendingChallenge owner then
        (store.modifyLiveness sessionId ForegroundLiveness.clearProof, [])
      else
        let store := store.modifyLiveness sessionId ForegroundLiveness.markEscalated
        let rearmed := store.modifyLiveness sessionId fun liveness =>
          liveness.rearmQuiet owner nowMs
        if owner.transport ≠ .sync then (rearmed, [])
        else if !(store.sync.linkGeneration.any fun generation => store.sync.accepts generation) then
          -- There is no live socket to replace.
          (rearmed, [])
        else store.requestLinkReplacement livenessReason

def armWhenWatchable (nowMs : Nat) : Store :=
  match store.electedOwner sessionId with
  | none => store
  | some owner =>
    store.modifyTerminal sessionId fun replica =>
      if replica.expectedStreamId.isNone ∨ replica.foregroundView.isNone then replica
      -- While a challenge is outstanding the proof deadline owns the session.
      else if replica.liveness.hasPendingChallenge owner then replica
      else { replica with liveness := replica.liveness.armQuietIfUnarmed owner nowMs }

/-- One pass over one replica's liveness deadlines. -/
def sweepForegroundLiveness (nowMs : Nat) : Acted :=
  if !store.sync.visible then (store.retire sessionId .inactive, [])
  else
    match store.terminal.lookup sessionId with
    | none => (store, [])
    | some replica =>
      let proofDue := replica.liveness.proofExpiryDue nowMs
      let quietDue := replica.liveness.quietExpiryDue nowMs
      let (store, escalated) := if proofDue then store.escalate sessionId nowMs else (store, [])
      let (store, probed) := if quietDue then store.probe sessionId nowMs else (store, [])
      (store.armWhenWatchable sessionId nowMs, escalated ++ probed)

end Store

end Roost.Client
