-- SUMMARY: The coordinator's tables, and the statements that project an event.
import Roost.Protocol.SessionEvent

/-!
# The session projection

The coordinator keeps the event log and its projection in one database. A session is written as a
row of texts and numbers and read back from one; four statements project an event, each with its
own columns. A table is a finite map under its primary key, the log a list in id order.
-/

namespace Roost.Coord.Events

/-- The largest value of an integer column. -/
@[irreducible] def i64Max : Nat := 2 ^ 63 - 1

/-- How events and port lists are written as JSON text. What is written reads back. -/
structure JsonCodec (Text : Type) where
  empty : Text
  event : SessionEvent → Text
  decodeEvent : Text → Except String SessionEvent
  decode_event : ∀ event' : SessionEvent, decodeEvent (event event') = .ok event'
  ports : List Int → Text
  decodePorts : Text → Option (List Int)
  decode_ports : ∀ ports' : List Int, decodePorts (ports ports') = some ports'

namespace JsonCodec

variable {Text : Type} (codec : JsonCodec Text)

/-- Values as their own text. -/
def verbatim : JsonCodec (Option (SessionEvent ⊕ List Int)) where
  empty := none
  event event' := some (.inl event')
  decodeEvent
    | some (.inl event') => .ok event'
    | _ => .error "not an event"
  decode_event _ := rfl
  ports ports' := some (.inr ports')
  decodePorts
    | some (.inr ports') => some ports'
    | _ => none
  decode_ports _ := rfl

end JsonCodec

/-! ## The row shape -/

/-- A session row as the database spells it: every closed enum and id is text. -/
structure SessionRow (Text : Type) where
  id : String
  dashboardId : String
  workerFp : String
  channel : Int
  kind : String
  cwd : String
  workspaceId : Option String
  status : String
  createdAt : Int
  closedAt : Option Int
  customTitle : Option String
  gitBranch : Option String
  gitRemote : Option String
  prNumber : Option Int
  prState : Option String
  prChecks : Option String
  prUrl : Option String
  portsJson : Option Text
  spawnCwd : Option String

/-- Why a projection read or write failed. -/
inductive ProjectionError
  | sqlite
  | storedRow (field reason : String)

section Rows

variable {Text : Type} (codec : JsonCodec Text)

/-- The row that is written for a session. Absent ports and no ports are both `NULL`, and so are an
unresolved and a missing origin. -/
def sessionToRow (session : Session) (dashboardId : String) : SessionRow Text where
  id := session.id.value
  dashboardId := dashboardId
  workerFp := session.workerFp.value
  channel := session.channel.asU32.toNat
  kind := session.kind.asStr
  cwd := session.cwd
  workspaceId := session.workspaceId.map (·.value)
  status := session.status.asStr
  createdAt := session.createdAt
  closedAt := session.closedAt
  customTitle := session.customTitle
  gitBranch := session.gitBranch
  gitRemote := session.gitRemote.bind id
  prNumber := session.prNumber
  prState := session.prState.map (·.asStr)
  prChecks := session.prChecks.map (·.asStr)
  prUrl := session.prUrl
  portsJson := (session.ports.filter fun ports => !ports.isEmpty).map codec.ports
  spawnCwd := session.spawnCwd

/-- Name the column a stored value could not be read from. -/
def column {α : Type} (field : String) (result : ProtocolResult α) : Except ProjectionError α :=
  result.mapError fun error => .storedRow field error.reason

def optionalColumn {α : Type} (field : String) (value : Option String)
    (build : String → ProtocolResult α) : Except ProjectionError (Option α) :=
  match value with
  | none => .ok none
  | some text => (column field (build text)).map some

/-- The listening ports; a text that does not read as whole numbers is no ports. -/
def portsFromColumn (portsJson : Option Text) : List Int :=
  (portsJson.bind codec.decodePorts).getD []

def sessionFromRow (row : SessionRow Text) : Except ProjectionError Session := do
  let id ← column "sessions.id" (SessionId.tryFrom row.id)
  let workerFp ← column "sessions.worker_fp" (WorkerFp.tryFrom row.workerFp)
  let channel ← column "sessions.channel" (ChannelId.tryFrom row.channel)
  let kind ← column "sessions.kind" (SessionKind.fromStr row.kind)
  let workspaceId ← optionalColumn "sessions.workspace_id" row.workspaceId WorkspaceId.tryFrom
  let status ← column "sessions.status" (SessionStatus.fromStr row.status)
  let prState ← optionalColumn "sessions.pr_state" row.prState PullRequestState.fromStr
  let prChecks ← optionalColumn "sessions.pr_checks" row.prChecks PullRequestChecks.fromStr
  return {
    id, workerFp, channel, kind, workspaceId, status, prState, prChecks
    cwd := row.cwd
    spawnCwd := row.spawnCwd
    createdAt := row.createdAt
    closedAt := row.closedAt
    customTitle := row.customTitle
    gitBranch := row.gitBranch
    gitRemote := some row.gitRemote
    prNumber := row.prNumber
    prUrl := row.prUrl
    ports := some (portsFromColumn codec row.portsJson) }

/-- A session as a stored row keeps it: an absent origin is null, absent ports are none. -/
def asStored (session : Session) : Session :=
  { session with
    gitRemote := some (session.gitRemote.bind id)
    ports := some (session.ports.getD []) }

variable (session : Session)

@[simp] theorem id_asStored : (asStored session).id = session.id := rfl

theorem asStored_revisedBy (event : SessionEvent) :
    asStored ((asStored session).revisedBy event) = asStored (session.revisedBy event) := by
  cases event with
  | git sid branch remote => cases remote <;> simp [asStored, Session.revisedBy]
  | _ => simp [asStored, Session.revisedBy]

theorem optionalColumn_map {α : Type} {field : String} {value : Option α} {asStr : α → String}
    {build : String → ProtocolResult α} (h : ∀ a, build (asStr a) = .ok a) :
    optionalColumn field (value.map asStr) build = .ok value := by
  cases value with
  | none => rfl
  | some => simp [optionalColumn, column, h, Except.mapError, Except.map]

theorem portsFromColumn_written (dashboardId : String) :
    portsFromColumn codec (sessionToRow codec session dashboardId).portsJson =
      session.ports.getD [] := by
  simp only [portsFromColumn, sessionToRow]
  cases hports : session.ports with
  | none => rfl
  | some ports =>
    cases ports with
    | nil => rfl
    | cons => simp [Option.filter, codec.decode_ports]

theorem column_ok {α : Type} {field : String} {result : ProtocolResult α} {a : α}
    (h : result = .ok a) : column field result = .ok a := by
  rw [h]
  rfl

theorem sessionFromRow_sessionToRow (dashboardId : String) :
    sessionFromRow codec (sessionToRow codec session dashboardId) = .ok (asStored session) := by
  have hports := portsFromColumn_written codec session dashboardId
  simp only [sessionFromRow, Except.bind_eq_ok]
  refine ⟨_, column_ok (SessionId.tryFrom_value session.id), _,
    column_ok (WorkerFp.tryFrom_value session.workerFp), _,
    column_ok (ChannelId.tryFrom_asU32 session.channel), _,
    column_ok (SessionKind.fromStr_asStr session.kind), _,
    optionalColumn_map WorkspaceId.tryFrom_value, _,
    column_ok (SessionStatus.fromStr_asStr session.status), _,
    optionalColumn_map PullRequestState.fromStr_asStr, _,
    optionalColumn_map PullRequestChecks.fromStr_asStr, ?_⟩
  rw [hports]
  rfl

end Rows

/-! ## The tables -/

/-- A row of the append-only log. -/
structure EventRow (Text : Type) where
  id : Nat
  dashboardId : String
  kind : String
  sessionId : Option SessionId
  workerFp : Option WorkerFp
  payloadJson : Text
  ts : Int
  clientSeq : Option Nat

/-- The tables an append reads and writes. `eventSequence` is the largest event id ever used,
`workers` the workers that are registered and not deleted. -/
structure Tables (Text : Type) where
  events : List (EventRow Text)
  eventSequence : Nat
  sessions : Table SessionId (SessionRow Text)
  workers : List WorkerFp
  workspaces : List WorkspaceId
  workspaceSessions : List (WorkspaceId × SessionId)

namespace SessionRow

variable {Text : Type}

/-- The conflict arm of a snapshot's upsert: the thirteen worker-owned columns take the announced
values, the others stay. -/
def announcedOver (row held : SessionRow Text) : SessionRow Text :=
  { held with
    workerFp := row.workerFp
    channel := row.channel
    kind := row.kind
    cwd := row.cwd
    status := row.status
    closedAt := row.closedAt
    gitBranch := row.gitBranch
    gitRemote := row.gitRemote
    prNumber := row.prNumber
    prState := row.prState
    prChecks := row.prChecks
    prUrl := row.prUrl
    portsJson := row.portsJson }

end SessionRow

namespace Tables

variable {Text : Type} (codec : JsonCodec Text) (tables : Tables Text)

/-- Upsert every session a worker announced, one statement each. -/
def projectSnapshotSessions (sessions : List Session) (dashboardId : String) : Tables Text :=
  sessions.foldl
    (fun tables session =>
      let row := sessionToRow codec session dashboardId
      { tables with
        sessions := tables.sessions.insert session.id <|
          match tables.sessions.lookup session.id with
          | none => row
          | some held => row.announcedOver held })
    tables

/-- Insert the row an `opened` folds into unless there is one, and report whether this call won. -/
def insertOpenedSession (session : Session) (dashboardId : String) : Bool × Tables Text :=
  match tables.sessions.lookup session.id with
  | some _ => (false, tables)
  | none =>
    (true, { tables with
        sessions := tables.sessions.insert session.id (sessionToRow codec session dashboardId) })

variable (sessionId : SessionId)

/-- The workspaces a session is a member of, deduplicated and in first-seen order. -/
def workspaceIdsForSession : List WorkspaceId :=
  (tables.workspaceSessions.filterMap fun membership =>
    if membership.2 = sessionId then some membership.1 else none).reverse.dedup.reverse

/-- Delete a session's junction rows and any workspace left with no sessions; the workspaces are
returned. The owners are read first. -/
def cascadeClosedSession : List WorkspaceId × Tables Text :=
  let ownerIds := tables.workspaceIdsForSession sessionId
  let memberships := tables.workspaceSessions.filter fun membership => membership.2 ≠ sessionId
  let orphans := ownerIds.filter fun workspaceId =>
    !(memberships.any fun membership => membership.1 = workspaceId)
  (orphans, { tables with
      workspaceSessions := memberships
      workspaces := tables.workspaces.filter fun workspaceId => workspaceId ∉ orphans })

/-- Delete a session's row; its junction rows go with it. -/
def deleteSession : Tables Text :=
  { tables with
    sessions := tables.sessions.erase sessionId
    workspaceSessions :=
      tables.workspaceSessions.filter fun membership => membership.2 ≠ sessionId }

def loadSession : Except ProjectionError (Option Session) :=
  match tables.sessions.lookup sessionId with
  | none => .ok none
  | some row => (sessionFromRow codec row).map some

/-- Write a folded row back over the stored one, every column but the key. -/
def updateSessionRow (session : Session) (dashboardId : String) : Tables Text :=
  { tables with
    sessions := tables.sessions.modify session.id fun held =>
      { sessionToRow codec session dashboardId with id := held.id } }

/-- Fold an event onto its stored row and write the result back. -/
def foldAndUpdateSession (event : SessionEvent) (dashboardId : String) :
    Except ProjectionError (Option Session × Tables Text) :=
  match event.sessionId with
  | none => .ok (none, tables)
  | some sessionId => do
    match ← tables.loadSession codec sessionId with
    | none => return (none, tables)
    | some existing =>
      let projection : SessionMap := AList.insert existing.id existing ∅
      match (foldEvent projection event).lookup sessionId with
      | none => return (none, tables)
      | some updated => return (some updated, tables.updateSessionRow codec updated dashboardId)

def setWorkspaceMembership (sessionId : SessionId) (workspaceId : Option WorkspaceId) :
    Tables Text :=
  let memberships := tables.workspaceSessions.filter fun membership => membership.2 ≠ sessionId
  match workspaceId with
  | none => { tables with workspaceSessions := memberships }
  | some workspaceId =>
    { tables with workspaceSessions := memberships ++ [(workspaceId, sessionId)] }

end Tables

end Roost.Coord.Events
