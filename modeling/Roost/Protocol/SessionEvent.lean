-- SUMMARY: The session events, and the one fold of their log.
import Mathlib.Algebra.Ring.Nat
import Roost.Protocol.TerminalView.Record

/-!
# Session events

Public session state is the fold of an ordered event log. Every event but a snapshot is a fact
about one session; a snapshot announces the live sessions of a worker. Signed 64-bit values are
integers, a map is a finite table.
-/

namespace Roost

/-! ## Identities -/

/-- Characters of a rendered fingerprint. -/
def fingerprintHexLen : Nat := 64

def isFingerprintHex (value : String) : Bool :=
  let bytes := utf8Bytes value
  decide (bytes.length = fingerprintHexLen) &&
    bytes.all fun byte => decide ((48 ≤ byte ∧ byte ≤ 57) ∨ (97 ≤ byte ∧ byte ≤ 102))

/-- The lowercase hex digest of a worker's public key. -/
structure WorkerFp where
  value : String
  check : isFingerprintHex value = true
  deriving DecidableEq

def WorkerFp.tryFrom (value : String) : ProtocolResult WorkerFp :=
  if h : isFingerprintHex value = true then .ok { value, check := h }
  else .error { field := "worker_fp", reason := "must be 64 lowercase hex characters" }

/-- The grouping bucket sessions hang off. -/
@[ext]
structure WorkspaceId where
  value : String
  check : hasUuidShape value = true

instance : DecidableEq WorkspaceId := fun _ _ => decidable_of_iff' _ WorkspaceId.ext_iff

def WorkspaceId.tryFrom (value : String) : ProtocolResult WorkspaceId :=
  if h : hasUuidShape value = true then .ok { value, check := h }
  else .error { field := "workspace_id", reason := "must be a UUID" }

/-- A worker-local PTY id. -/
structure ChannelId where
  asU32 : UInt32
  deriving DecidableEq

def ChannelId.tryFrom (value : Int) : ProtocolResult ChannelId :=
  if 0 ≤ value ∧ value < 2 ^ 32 then .ok { asU32 := UInt32.ofNat value.toNat }
  else .error {
    field := "channel"
    reason := "must be an integer in 0..=4294967295, got " ++ toString value }

@[simp] theorem SessionId.tryFrom_value (sid : SessionId) :
    SessionId.tryFrom sid.value = .ok sid := by
  simp [SessionId.tryFrom, sid.check]

@[simp] theorem WorkerFp.tryFrom_value (workerFp : WorkerFp) :
    WorkerFp.tryFrom workerFp.value = .ok workerFp := by
  simp [WorkerFp.tryFrom, workerFp.check]

@[simp] theorem WorkspaceId.tryFrom_value (workspaceId : WorkspaceId) :
    WorkspaceId.tryFrom workspaceId.value = .ok workspaceId := by
  simp [WorkspaceId.tryFrom, workspaceId.check]

@[simp] theorem ChannelId.tryFrom_asU32 (channel : ChannelId) :
    ChannelId.tryFrom (channel.asU32.toNat : Int) = .ok channel := by
  have hlt : (channel.asU32.toNat : Int) < 2 ^ 32 := by exact_mod_cast channel.asU32.toNat_lt
  rw [ChannelId.tryFrom, if_pos ⟨Int.natCast_nonneg _, hlt⟩, Int.toNat_natCast, UInt32.ofNat_toNat]

/-! ## Closed sets -/

/-- Every session is a keeper-backed shell terminal. -/
inductive SessionKind
  | shell
  deriving DecidableEq

def SessionKind.asStr : SessionKind → String
  | .shell => "shell"

inductive SessionStatus
  | open
  | closed
  deriving DecidableEq

def SessionStatus.asStr : SessionStatus → String
  | .open => "open"
  | .closed => "closed"

inductive PullRequestState
  | open
  | merged
  | closed
  | draft
  deriving DecidableEq

def PullRequestState.asStr : PullRequestState → String
  | .open => "open"
  | .merged => "merged"
  | .closed => "closed"
  | .draft => "draft"

inductive PullRequestChecks
  | passing
  | failing
  | pending
  | none
  deriving DecidableEq

def PullRequestChecks.asStr : PullRequestChecks → String
  | .passing => "passing"
  | .failing => "failing"
  | .pending => "pending"
  | .none => "none"

/-- The member of a closed set that a text spells; another text is an error on `field`. -/
def closedFromStr {α : Type} (field what : String) (members : List α) (asStr : α → String)
    (value : String) : ProtocolResult α :=
  match members.find? fun member => asStr member == value with
  | some member => .ok member
  | none => .error { field, reason := "unknown " ++ what ++ " " ++ debugQuoted value }

def SessionKind.fromStr : String → ProtocolResult SessionKind :=
  closedFromStr "session_kind" "session kind" [.shell] SessionKind.asStr

def SessionStatus.fromStr : String → ProtocolResult SessionStatus :=
  closedFromStr "session_status" "session status" [.open, .closed] SessionStatus.asStr

def PullRequestState.fromStr : String → ProtocolResult PullRequestState :=
  closedFromStr "pr_state" "pull request state" [.open, .merged, .closed, .draft]
    PullRequestState.asStr

def PullRequestChecks.fromStr : String → ProtocolResult PullRequestChecks :=
  closedFromStr "pr_checks" "pull request checks" [.passing, .failing, .pending, .none]
    PullRequestChecks.asStr

@[simp] theorem SessionKind.fromStr_asStr (kind : SessionKind) :
    SessionKind.fromStr kind.asStr = .ok kind := by
  cases kind; rfl

@[simp] theorem SessionStatus.fromStr_asStr (status : SessionStatus) :
    SessionStatus.fromStr status.asStr = .ok status := by
  cases status <;> rfl

@[simp] theorem PullRequestState.fromStr_asStr (state : PullRequestState) :
    PullRequestState.fromStr state.asStr = .ok state := by
  cases state <;> rfl

@[simp] theorem PullRequestChecks.fromStr_asStr (checks : PullRequestChecks) :
    PullRequestChecks.fromStr checks.asStr = .ok checks := by
  cases checks <;> rfl

/-! ## The row and the union -/

/-- A session row. The git, pull-request and port fields are absent until the worker has resolved
them; `gitRemote` tells "not looked yet" from "looked, no origin". -/
structure Session where
  id : SessionId
  workerFp : WorkerFp
  channel : ChannelId
  kind : SessionKind
  cwd : String
  spawnCwd : Option String
  workspaceId : Option WorkspaceId
  status : SessionStatus
  createdAt : Int
  closedAt : Option Int
  customTitle : Option String
  gitBranch : Option String
  gitRemote : Option (Option String)
  prNumber : Option Int
  prState : Option PullRequestState
  prChecks : Option PullRequestChecks
  prUrl : Option String
  ports : Option (List Int)
  deriving DecidableEq

inductive SessionEvent
  | opened (sessionId : SessionId) (workerFp : WorkerFp) (channel : ChannelId)
      (sessionKind : SessionKind) (cwd : String) (ts : Int) (traceId : Option String)
  | closed (sessionId : SessionId) (exitCode : Option Int) (ts : Int) (traceId : Option String)
  | attached (sessionId : SessionId) (ts : Int) (traceId : Option String)
  | detached (sessionId : SessionId) (ts : Int) (traceId : Option String)
  | cwd (sessionId : SessionId) (cwd : String) (ts : Int) (traceId : Option String)
  | workspaceAssigned (sessionId : SessionId) (workspaceId : Option WorkspaceId) (ts : Int)
      (traceId : Option String)
  | snapshot (workerFp : WorkerFp) (sessions : List Session) (ts : Int) (traceId : Option String)
  | respawned (sessionId : SessionId) (newChannel : ChannelId) (ts : Int) (traceId : Option String)
  | renamed (sessionId : SessionId) (customTitle : String) (ts : Int) (traceId : Option String)
  | git (sessionId : SessionId) (branch remote : Option String) (ts : Int)
      (traceId : Option String)
  | pr (sessionId : SessionId) (number : Option Int) (state : Option PullRequestState)
      (checks : Option PullRequestChecks) (url : Option String) (ts : Int)
      (traceId : Option String)
  | ports (sessionId : SessionId) (ports : List Int) (ts : Int) (traceId : Option String)
  deriving DecidableEq

namespace SessionEvent

def ts : SessionEvent → Int
  | .opened _ _ _ _ _ ts _ => ts
  | .closed _ _ ts _ => ts
  | .attached _ ts _ => ts
  | .detached _ ts _ => ts
  | .cwd _ _ ts _ => ts
  | .workspaceAssigned _ _ ts _ => ts
  | .snapshot _ _ ts _ => ts
  | .respawned _ _ ts _ => ts
  | .renamed _ _ ts _ => ts
  | .git _ _ _ ts _ => ts
  | .pr _ _ _ _ _ ts _ => ts
  | .ports _ _ ts _ => ts

def sessionId : SessionEvent → Option SessionId
  | .snapshot .. => none
  | .opened sessionId .. => some sessionId
  | .closed sessionId .. => some sessionId
  | .attached sessionId .. => some sessionId
  | .detached sessionId .. => some sessionId
  | .cwd sessionId .. => some sessionId
  | .workspaceAssigned sessionId .. => some sessionId
  | .respawned sessionId .. => some sessionId
  | .renamed sessionId .. => some sessionId
  | .git sessionId .. => some sessionId
  | .pr sessionId .. => some sessionId
  | .ports sessionId .. => some sessionId

/-- The wire discriminator, the value of the log's kind column. -/
def kindName : SessionEvent → String
  | .opened .. => "opened"
  | .closed .. => "closed"
  | .attached .. => "attached"
  | .detached .. => "detached"
  | .cwd .. => "cwd"
  | .workspaceAssigned .. => "workspace_assigned"
  | .snapshot .. => "snapshot"
  | .respawned .. => "respawned"
  | .renamed .. => "renamed"
  | .git .. => "git"
  | .pr .. => "pr"
  | .ports .. => "ports"

def announced : SessionEvent → List Session
  | .snapshot _ sessions _ _ => sessions
  | _ => []

theorem kindName_closed {event : SessionEvent} (h : event.kindName = "closed") :
    ∃ sid exitCode ts traceId, event = .closed sid exitCode ts traceId := by
  cases event with
  | closed sid exitCode ts traceId => exact ⟨sid, exitCode, ts, traceId, rfl⟩
  | _ => simp [kindName] at h

end SessionEvent

/-! ## The fold -/

/-- The projection the fold produces, keyed by session id. -/
abbrev SessionMap := Table SessionId Session

/-- The row an `opened` folds into. -/
def openedSession (sessionId : SessionId) (workerFp : WorkerFp) (channel : ChannelId)
    (sessionKind : SessionKind) (cwd : String) (ts : Int) : Session where
  id := sessionId
  workerFp := workerFp
  channel := channel
  kind := sessionKind
  cwd := cwd
  spawnCwd := some cwd
  workspaceId := none
  status := .open
  createdAt := ts
  closedAt := none
  customTitle := none
  gitBranch := none
  gitRemote := none
  prNumber := none
  prState := none
  prChecks := none
  prUrl := none
  ports := none

namespace Session

/-- What an event about one held session makes of its row. -/
def revisedBy (session : Session) : SessionEvent → Session
  -- Only the live folder drifts; `spawnCwd` is the creation fact.
  | .cwd _ cwd _ _ => { session with cwd }
  | .workspaceAssigned _ workspaceId _ _ => { session with workspaceId }
  -- Forced open, in case a `closed` was projected before the respawn landed.
  | .respawned _ newChannel _ _ =>
    { session with channel := newChannel, status := .open, closedAt := none }
  | .renamed _ customTitle _ _ =>
    { session with customTitle := if customTitle = "" then none else some customTitle }
  | .git _ branch remote _ _ =>
    { session with
      gitBranch := branch
      gitRemote := match remote with
        | some remote => some (some remote)
        | none => session.gitRemote }
  | .pr _ number state checks url _ _ =>
    { session with prNumber := number, prState := state, prChecks := checks, prUrl := url }
  | .ports _ ports _ _ => { session with ports := some ports }
  | _ => session

@[simp] theorem id_revisedBy (sess : Session) (event : SessionEvent) :
    (sess.revisedBy event).id = sess.id := by
  cases event <;> rfl

@[simp] theorem workerFp_revisedBy (sess : Session) (event : SessionEvent) :
    (sess.revisedBy event).workerFp = sess.workerFp := by
  cases event <;> rfl

/-- An announced row with the four fields the worker does not track taken from the row before. -/
def carriedOver (announced : Session) : Option Session → Session
  | none => announced
  | some before =>
    { announced with
      createdAt := before.createdAt
      workspaceId := before.workspaceId
      customTitle := before.customTitle
      spawnCwd := before.spawnCwd }

end Session

def foldEvent (prev : SessionMap) (event : SessionEvent) : SessionMap :=
  match event with
  | .attached .. => prev
  | .detached .. => prev
  | .opened sessionId workerFp channel sessionKind cwd ts _ =>
    prev.insert sessionId (openedSession sessionId workerFp channel sessionKind cwd ts)
  | .closed sessionId .. => prev.erase sessionId
  -- A session absent from the snapshot keeps its row.
  | .snapshot _ sessions _ _ =>
    sessions.foldl
      (fun next announced =>
        next.insert announced.id (announced.carriedOver (prev.lookup announced.id)))
      prev
  | .cwd sessionId .. => prev.modify sessionId (·.revisedBy event)
  | .workspaceAssigned sessionId .. => prev.modify sessionId (·.revisedBy event)
  | .respawned sessionId .. => prev.modify sessionId (·.revisedBy event)
  | .renamed sessionId .. => prev.modify sessionId (·.revisedBy event)
  | .git sessionId .. => prev.modify sessionId (·.revisedBy event)
  | .pr sessionId .. => prev.modify sessionId (·.revisedBy event)
  | .ports sessionId .. => prev.modify sessionId (·.revisedBy event)

def lastAnnounced (sessions : List Session) (sessionId : SessionId) : Option Session :=
  sessions.reverse.find? fun session => decide (session.id = sessionId)

theorem lastAnnounced_append (sessions : List Session) (session : Session) (sid : SessionId) :
    lastAnnounced (sessions ++ [session]) sid =
      if session.id = sid then some session else lastAnnounced sessions sid := by
  simp only [lastAnnounced, List.reverse_append, List.reverse_singleton, List.singleton_append,
    List.find?_cons]
  by_cases h : session.id = sid <;> simp [h]

theorem id_of_lastAnnounced {sessions : List Session} {sid : SessionId} {session : Session}
    (h : lastAnnounced sessions sid = some session) : session.id = sid := by
  simpa using List.find?_some h

theorem lookup_foldEvent_snapshot (prev : SessionMap) (fp : WorkerFp)
    (sessions : List Session) (ts : Int) (traceId : Option String) (sid : SessionId) :
    AList.lookup sid (foldEvent prev (.snapshot fp sessions ts traceId)) =
      match lastAnnounced sessions sid with
      | none => prev.lookup sid
      | some last => some (last.carriedOver (prev.lookup sid)) := by
  show AList.lookup sid (sessions.foldl _ prev) = _
  induction sessions using List.reverseRecOn with
  | nil => rfl
  | append_singleton sessions sess ih =>
    rw [List.foldl_append, List.foldl_cons, List.foldl_nil, Table.lookup_insert,
      lastAnnounced_append]
    by_cases h : sess.id = sid
    · rw [if_pos h.symm, if_pos h, h]
    · rw [if_neg (Ne.symm h), if_neg h, ih]

theorem lookup_foldEvent_revise (prev : SessionMap) {event : SessionEvent} {named : SessionId}
    (hnamed : event.sessionId = some named) (hopened : event.kindName ≠ "opened")
    (hclosed : event.kindName ≠ "closed") (sid : SessionId) :
    AList.lookup sid (foldEvent prev event) =
      if sid = named then (prev.lookup sid).map (·.revisedBy event)
      else prev.lookup sid := by
  have hkept : ∀ other, AList.lookup sid prev =
      if sid = other then (prev.lookup sid).map id else prev.lookup sid := by
    intro other
    rw [Option.map_id, id, ite_self]
  cases event with
  | opened => exact absurd rfl hopened
  | closed => exact absurd rfl hclosed
  | snapshot => cases hnamed
  | attached | detached =>
    cases hnamed
    exact hkept _
  | cwd | workspaceAssigned | respawned | renamed | git | pr | ports =>
    cases hnamed
    rw [foldEvent, Table.lookup_modify]

/-- Fold an ordered log from nothing. -/
def foldAll (events : List SessionEvent) : SessionMap := events.foldl foldEvent ∅

theorem foldAll_append_singleton (events : List SessionEvent) (event : SessionEvent) :
    foldAll (events ++ [event]) = foldEvent (foldAll events) event := by
  simp [foldAll]

end Roost
