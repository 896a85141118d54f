-- SUMMARY: The view registry, its socket lifecycle, and the lease sweep.
import Roost.Protocol.TerminalView.Tombstone

/-!
# The view registry

Which socket watches which session's terminal. Records are held once, under their
composite key; a session index and the sockets' own view sets name them. Every effect is
returned for the host to perform: the answers owed, the calls owed, and the sessions
whose live viewer set moved.
-/

namespace Roost.TerminalView

inductive TerminalViewStatus where
  | unspecified | accepted | rejected | unavailable
  deriving DecidableEq

/-- One answer the membership machine owes a socket. -/
inductive PendingReply where
  | command (socketId viewId sessionId : String) (revision : Nat) (active : Bool)
      (status : TerminalViewStatus) (reason : String)
  /-- Answer a view record, whose effective geometry the hub fills in. -/
  | view (socketId viewId sessionId : String) (revision : Nat) (status : TerminalViewStatus)
      (reason : String)

def PendingReply.status : PendingReply → TerminalViewStatus
  | .command _ _ _ _ _ status _ => status
  | .view _ _ _ _ status _ => status

/-- One host-side effect the membership machine decided. -/
inductive SinkCall where
  | watching (socketId : String) (sessionId : SessionId) (watching : Bool)
  | resync (socketId : String) (sessionId : SessionId) (gridEpoch : String) (seq : Nat)
  | liveViewExpired (socketId viewId : String) (sessionId : SessionId)

/-- What one membership mutation decided. -/
structure MembershipOutcome where
  /-- Sessions whose live viewer set moved. -/
  changed : Finset SessionId := ∅
  replies : List PendingReply := []
  calls : List SinkCall := []

/-- The authenticated facts one socket contributes to view membership. -/
structure SocketRegistration where
  socketId : String
  viewerKey : Option String
  callerFingerprint : String
  sessionIds : Finset String

/-- One registered socket, with the view keys it currently owns. -/
structure SocketRecord where
  id : String
  viewerKey : Option String
  fingerprint : String
  allowedSessions : Finset String
  views : Finset String

def SocketRegistration.record (registration : SocketRegistration) : SocketRecord where
  id := registration.socketId
  viewerKey := registration.viewerKey
  fingerprint := registration.callerFingerprint
  allowedSessions := registration.sessionIds
  views := ∅

def SocketRecord.allows (socket : SocketRecord) (sessionId : String) : Bool :=
  decide (sessionId ∈ socket.allowedSessions)

def ViewRecord.park (record : ViewRecord) (socketId : String) (nowMs : Nat) : ViewRecord :=
  if record.socketId = socketId then { record with parked := true, parkedAtMs := nowMs }
  else record

/-- The coordinator's terminal view membership. -/
structure ViewRegistry where
  sockets : Table String SocketRecord := ∅
  views : Table String ViewRecord := ∅
  sessionViews : Index SessionId String := ∅
  tombstones : TombstoneStore := {}

def KeyOrder : Type := { order : List String → List String // ∀ keys, (order keys).Perm keys }

namespace ViewRegistry

variable (registry : ViewRegistry)

def new : ViewRegistry := {}

/-! ## The machine's helpers -/

/-- How many view records one socket currently owns. -/
def viewCount (socketId : String) : Nat :=
  match registry.sockets.lookup socketId with
  | some socket => socket.views.card
  | none => 0

/-- How many view records one session currently holds. -/
def sessionCount (sessionId : SessionId) : Nat := (registry.sessionViews.under sessionId).card

def modifyViews (socketId : String) (f : Finset String → Finset String) : ViewRegistry :=
  { registry with
    sockets := registry.sockets.modify socketId fun socket =>
      { socket with views := f socket.views } }

/-- Remove one record and every index that names it. `save` retains a tombstone, with the
revision and intent of `claim` or of the record. A missing record is not an error. -/
def dropRecord (key : String) (save : Bool) (nowMs : Nat) (claim : Option (Nat × ViewIntent)) :
    ViewRegistry :=
  match registry.views.lookup key with
  | none => registry
  | some record =>
    let registry := { registry with views := registry.views.erase key }
    let registry :=
      match sessionOf record with
      | some sessionId =>
        { registry with sessionViews := registry.sessionViews.drop sessionId key }
      | none => registry
    let registry := registry.modifyViews record.socketId (·.erase key)
    if save then
      let (revision, intent) := claim.getD (record.revision, record.intent)
      { registry with
        tombstones := registry.tombstones.retain nowMs key record.viewerKey revision intent }
    else registry

def syncWatching (socketId : String) (sessionId : SessionId) : SinkCall :=
  .watching socketId sessionId <| registry.views.entries.any fun entry =>
    entry.2.socketId == socketId && decide (sessionOf entry.2 = some sessionId)

/-! ## The socket lifecycle -/

/-- A socket is gone: park every record it owned. No session is reported: the grace defers
the geometry drop to the sweep that observes it. -/
def closeSocket (socketId : String) (nowMs : Nat) : ViewRegistry :=
  match registry.sockets.lookup socketId with
  | none => registry
  | some socket =>
    { registry with
      sockets := registry.sockets.erase socketId
      views := (Index.ascending socket.views).foldl
        (fun views key => views.modify key (·.park socketId nowMs)) registry.views }

/-- Admit a socket, replacing any earlier registration of the same id. -/
def registerSocket (registration : SocketRegistration) (nowMs : Nat) : ViewRegistry :=
  let registry := registry.closeSocket registration.socketId nowMs
  { registry with
    sockets := registry.sockets.insert registration.socketId registration.record }

def setSessionAllowed (socketId sessionId : String) (allowed : Bool) : ViewRegistry :=
  { registry with
    sockets := registry.sockets.modify socketId fun socket =>
      { socket with
        allowedSessions :=
          if allowed then insert sessionId socket.allowedSessions
          else socket.allowedSessions.erase sessionId } }

/-! ## Revocation, closing and the sweep -/

/-- Drop every one of the records under these keys, keeping no claim. -/
def dropAll (keys : List String) : ViewRegistry :=
  keys.foldl (fun registry key => registry.dropRecord key false 0 none) registry

/-- A device lost its authority: every record, claim and socket it held goes. -/
def removeFingerprint (fingerprint : String) : ViewRegistry × MembershipOutcome :=
  let doomed := registry.views.entries.filter fun entry => entry.2.fingerprint == fingerprint
  let dropped := registry.dropAll (doomed.map Sigma.fst)
  let outcome : MembershipOutcome :=
    { changed := (doomed.filterMap fun entry => sessionOf entry.2).toFinset }
  ({ dropped with
      tombstones := dropped.tombstones.removeViewer fingerprint
      sockets := dropped.sockets.retain fun _ socket => socket.fingerprint != fingerprint },
    outcome)

/-- A session closed: no record and no retained claim of it survives. Every socket that
held a view of it is told to stop being fed it. -/
def closeSession (sessionId : SessionId) : ViewRegistry × MembershipOutcome :=
  let keys := Index.ascending (registry.sessionViews.under sessionId)
  let watchers := ((keys.filterMap registry.views.lookup).map ViewRecord.socketId).toFinset
  let dropped := registry.dropAll keys
  let outcome : MembershipOutcome :=
    { calls := (Index.ascending watchers).map fun socketId => .watching socketId sessionId false }
  ({ dropped with
      sessionViews := dropped.sessionViews.erase sessionId
      tombstones := dropped.tombstones.removeSession sessionId.value },
    outcome)

/-- One turn of the sweep: reap a lapsed lease, or note that a park grace has elapsed. -/
def sweepKey (nowMs : Nat) (state : ViewRegistry × MembershipOutcome) (key : String) :
    ViewRegistry × MembershipOutcome :=
  let (registry, outcome) := state
  match registry.views.lookup key with
  | none => state
  | some record =>
    if record.deadlineMs > nowMs then
      if record.constrains && !viewConstrains record nowMs then
        let lapsed := { registry with
          views := registry.views.modify key fun record => { record with constrains := false } }
        (lapsed, { outcome with changed := outcome.changed ∪ (sessionOf record).toFinset })
      else state
    else
      let expired :=
        match sessionOf record with
        | some sessionId =>
          if !record.parked then [SinkCall.liveViewExpired record.socketId record.viewId sessionId]
          else []
        | none => []
      let dropped := registry.dropRecord key true nowMs none
      let watch :=
        match sessionOf record with
        | some sessionId =>
          if (dropped.sockets.lookup record.socketId).isSome then
            [dropped.syncWatching record.socketId sessionId]
          else []
        | none => []
      (dropped, { outcome with
        changed := outcome.changed ∪ (sessionOf record).toFinset
        calls := outcome.calls ++ expired ++ watch })

def sweep (order : KeyOrder) (nowMs : Nat) : ViewRegistry × MembershipOutcome :=
  let (swept, outcome) :=
    (order.val registry.views.keys).foldl (sweepKey nowMs) (registry, {})
  ({ swept with tombstones := swept.tombstones.expire nowMs }, outcome)

/-- The records that bind one session's PTY, and how many membership still holds for it. -/
def geometrySet (sessionId : SessionId) (nowMs : Nat) : GeometrySet :=
  TerminalView.geometrySet registry.views (registry.sessionViews.under sessionId) nowMs

end ViewRegistry

end Roost.TerminalView
