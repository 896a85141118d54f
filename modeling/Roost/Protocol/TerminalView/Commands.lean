-- SUMMARY: What one client declaration does to membership.
import Roost.Protocol.TerminalView.Registry

/-!
# View commands

Accept, reject, reclaim, release, and the two capacity refusals. A declaration that
changes membership names its session as changed; one that does not owes the socket a
reply.
-/

namespace Roost.TerminalView

/-- Why a declaration that renames a live handle is refused. -/
def sessionMoved : String := "a terminal view cannot change sessions"

/-- The authenticated socket a command arrived on. -/
structure Caller where
  socketId : String
  viewerKey : String
  fingerprint : String

namespace MembershipOutcome

def refuse (socketId : String) (command : TerminalViewCommand) (reason : String) :
    MembershipOutcome where
  replies := [.command socketId command.viewId command.sessionId command.revision command.active
    .rejected reason]

def acceptInactive (socketId : String) (command : TerminalViewCommand) : PendingReply :=
  .command socketId command.viewId command.sessionId command.revision false .accepted ""

def answerView (record : ViewRecord) (status : TerminalViewStatus) (reason : String) :
    PendingReply :=
  .view record.socketId record.viewId record.intent.sessionId record.revision status reason

/-- Whether the socket was told its view is accepted. -/
def accepts (outcome : MembershipOutcome) : Bool :=
  outcome.replies.any fun reply => decide (reply.status = .accepted)

end MembershipOutcome

open MembershipOutcome

namespace ViewRegistry

variable (registry : ViewRegistry)

/-- Drop a record on an explicit inactive declaration, keeping the claim with the release's
own revision and intent. -/
def release (socketId : String) (command : TerminalViewCommand) (key : String) (nowMs : Nat) :
    ViewRegistry × MembershipOutcome :=
  let sessionId := (registry.views.lookup key).bind sessionOf
  let dropped := registry.dropRecord key true nowMs (some (command.revision, intentOf command))
  (dropped,
    { changed := sessionId.toFinset
      replies := [acceptInactive socketId command]
      calls := (sessionId.map (dropped.syncWatching socketId)).toList })

/-- A record whose socket is gone, reclaimed by the same tab on the same device. The
incoming geometry is adopted. -/
def reclaim (caller : Caller) (command : TerminalViewCommand) (current : ViewRecord)
    (key : String) (nowMs : Nat) : ViewRegistry × MembershipOutcome :=
  if !current.parked then
    (registry, refuse caller.socketId command "view is owned by another live socket")
  else if command.revision < current.revision then
    (registry, refuse caller.socketId command "stale terminal view revision")
  else if command.sessionId ≠ current.intent.sessionId then
    (registry, refuse caller.socketId command sessionMoved)
  else if !command.active then
    registry.release caller.socketId command key nowMs
  else if registry.viewCount caller.socketId ≥ terminalSocketViewCap then
    (registry, refuse caller.socketId command "terminal socket view capacity exceeded")
  else
    let sessionId := sessionOf current
    let current :=
      { current with
        socketId := caller.socketId
        intent := intentOf command
        revision := command.revision
        deadlineMs := ViewRecord.leaseDeadline nowMs
        parked := false
        parkedAtMs := 0
        constrains := true }
    let registry := { registry with views := registry.views.insert key current }
    let registry := registry.modifyViews caller.socketId (insert key)
    (registry,
      { changed := sessionId.toFinset
        replies := [answerView current .accepted ""]
        calls := (sessionId.map (registry.syncWatching caller.socketId)).toList })

/-- A declaration from the socket that already owns the record. A same-revision command
renews the lease before its intent is judged. -/
def update (caller : Caller) (command : TerminalViewCommand) (current : ViewRecord)
    (nowMs : Nat) : ViewRegistry × MembershipOutcome :=
  if command.revision < current.revision then
    (registry, refuse caller.socketId command "stale terminal view revision")
  else if command.revision = current.revision then
    let renewed := { current with deadlineMs := ViewRecord.leaseDeadline nowMs }
    let registry := { registry with views := registry.views.insert renewed.key renewed }
    if !intentsEqual renewed.intent (intentOf command) then
      (registry, refuse caller.socketId command "terminal view revision conflicts")
    else (registry, { replies := [answerView renewed .accepted ""] })
  else if command.sessionId ≠ current.intent.sessionId then
    (registry, refuse caller.socketId command sessionMoved)
  else if !command.active then
    registry.release caller.socketId command current.key nowMs
  else
    let sessionId := sessionOf current
    let current :=
      { current with
        intent := intentOf command
        revision := command.revision
        deadlineMs := ViewRecord.leaseDeadline nowMs }
    ({ registry with views := registry.views.insert current.key current },
      { changed := sessionId.toFinset, replies := [answerView current .accepted ""] })

/-- The part of an admission that needs no retained claim. -/
def admitUnclaimed (caller : Caller) (command : TerminalViewCommand) (key : String)
    (nowMs : Nat) : ViewRegistry × MembershipOutcome :=
  let intent := intentOf command
  if !command.active then
    ({ registry with
        tombstones :=
          registry.tombstones.retain nowMs key caller.viewerKey command.revision intent },
      { replies := [acceptInactive caller.socketId command] })
  else if registry.viewCount caller.socketId ≥ terminalSocketViewCap then
    (registry, refuse caller.socketId command "terminal socket view capacity exceeded")
  else
    match SessionId.tryFrom command.sessionId with
    | .error _ => (registry, {})
    | .ok sessionId =>
      if registry.sessionCount sessionId ≥ sessionViewCap then
        (registry, refuse caller.socketId command "terminal session view capacity exceeded")
      else
        let record : ViewRecord :=
          { key
            viewId := command.viewId
            viewerKey := caller.viewerKey
            fingerprint := caller.fingerprint
            socketId := caller.socketId
            intent
            revision := command.revision
            deadlineMs := ViewRecord.leaseDeadline nowMs
            parked := false
            parkedAtMs := 0
            constrains := true }
        let registry :=
          { registry with
            views := registry.views.insert key record
            sessionViews := registry.sessionViews.add sessionId key }
        let registry := registry.modifyViews caller.socketId (insert key)
        (registry,
          { changed := {sessionId}
            replies := [answerView record .accepted ""]
            calls := [registry.syncWatching caller.socketId sessionId] })

/-- A declaration for a handle this viewer key has never held, or whose record is gone. -/
def admitView (caller : Caller) (command : TerminalViewCommand) (key : String) (nowMs : Nat) :
    ViewRegistry × MembershipOutcome :=
  match registry.tombstones.get key with
  | none => registry.admitUnclaimed caller command key nowMs
  | some old =>
    if command.revision < old.revision ∨
        (command.revision = old.revision ∧ !intentsEqual old.intent (intentOf command)) then
      (registry, refuse caller.socketId command "stale or conflicting terminal view revision")
    else if old.intent.sessionId ≠ command.sessionId then
      (registry, refuse caller.socketId command sessionMoved)
    else if command.revision = old.revision ∧ !command.active then
      (registry, { replies := [acceptInactive caller.socketId command] })
    else
      admitUnclaimed { registry with tombstones := registry.tombstones.remove key } caller command
        key nowMs

def handleViewCommand (socketId : String) (command : TerminalViewCommand) (nowMs : Nat) :
    ViewRegistry × MembershipOutcome :=
  match registry.sockets.lookup socketId with
  | none => (registry, {})
  | some socket =>
    match validateViewCommand socket.viewerKey command with
    | some reason => (registry, refuse socketId command reason)
    | none =>
      if !socket.allows command.sessionId then
        (registry, refuse socketId command "terminal session is unavailable")
      else
        match socket.viewerKey with
        | none => (registry, {})
        | some viewerKey =>
          let caller : Caller := { socketId, viewerKey, fingerprint := socket.fingerprint }
          let key := viewKey caller.viewerKey command.viewId
          match registry.views.lookup key with
          | some current =>
            if current.socketId ≠ caller.socketId then
              registry.reclaim caller command current key nowMs
            else registry.update caller command current nowMs
          | none => registry.admitView caller command key nowMs

/-- Apply one resync request. -/
def handleResync (socketId : String) (command : TerminalResyncCommand) : MembershipOutcome :=
  match registry.sockets.lookup socketId with
  | none => {}
  | some socket =>
    match socket.viewerKey with
    | none => {}
    | some viewerKey =>
      if !socket.allows command.sessionId || !isTerminalUuid command.viewId then {}
      else
        match registry.views.lookup (viewKey viewerKey command.viewId) with
        | none => {}
        | some record =>
          if record.socketId ≠ socketId ∨ record.parked ∨
              record.intent.sessionId ≠ command.sessionId then {}
          else
            match sessionOf record with
            | none => {}
            | some sessionId =>
              { calls := [.resync socketId sessionId command.gridEpoch command.seq] }

end ViewRegistry

/-! ## The registry as a machine -/

/-- The calls a host makes on a registry. A sweep also fixes the order in which the record
map hands out its keys. -/
inductive Op where
  | registerSocket (registration : SocketRegistration)
  | closeSocket (socketId : String)
  | handleViewCommand (socketId : String) (command : TerminalViewCommand)
  | handleResync (socketId : String) (command : TerminalResyncCommand)
  | removeFingerprint (fingerprint : String)
  | closeSession (sessionId : SessionId)
  | setSessionAllowed (socketId sessionId : String) (allowed : Bool)
  | sweep (order : KeyOrder)

/-- A call and the clock it is made at. -/
abbrev Event := Op × Nat

/-- The registry over the calls of a run. -/
def machine : Transducer ViewRegistry Event MembershipOutcome where
  step
    | registry, (.registerSocket registration, nowMs) =>
      (registry.registerSocket registration nowMs, {})
    | registry, (.closeSocket socketId, nowMs) => (registry.closeSocket socketId nowMs, {})
    | registry, (.handleViewCommand socketId command, nowMs) =>
      registry.handleViewCommand socketId command nowMs
    | registry, (.handleResync socketId command, _) =>
      (registry, registry.handleResync socketId command)
    | registry, (.removeFingerprint fingerprint, _) => registry.removeFingerprint fingerprint
    | registry, (.closeSession sessionId, _) => registry.closeSession sessionId
    | registry, (.setSessionAllowed socketId sessionId allowed, _) =>
      (registry.setSessionAllowed socketId sessionId allowed, {})
    | registry, (.sweep order, nowMs) => registry.sweep order nowMs

end Roost.TerminalView
