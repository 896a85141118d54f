-- SUMMARY: The append transaction: admission, dedup, insert and projection.
import Roost.Coord.Events.Projection

/-!
# The append transaction

One event is admitted, filtered, inserted and projected, or nothing is written. A statement the
database itself refuses, by a constraint, a trigger or a fault, rolls everything back; which
statements it refuses is the environment's answer.
-/

namespace Roost.Coord.Events

variable {Text : Type}

/-! ## Callers and errors -/

/-- A publication slot's key. -/
structure Reservation where
  workerFp : WorkerFp
  clientSeq : Nat
  deriving DecidableEq

/-- Who is appending. A coordinator-side producer has no fingerprint and no sequence. -/
structure Caller where
  workerFp : Option WorkerFp
  clientSeq : Option Nat
  dashboardId : String
  deriving DecidableEq

namespace Caller

def worker (workerFp : WorkerFp) (clientSeq : Nat) (dashboardId : String) : Caller :=
  { workerFp := some workerFp, clientSeq := some clientSeq, dashboardId }

def coordinator (dashboardId : String) : Caller :=
  { workerFp := none, clientSeq := none, dashboardId }

/-- The publication slot this caller's event belongs in, when it has one. -/
def reservation (caller : Caller) : Option Reservation :=
  match caller.workerFp, caller.clientSeq with
  | some workerFp, some clientSeq => some { workerFp, clientSeq }
  | _, _ => none

theorem reservation_eq_some {caller : Caller} {key : Reservation} : caller.reservation = some key ↔
      caller.workerFp = some key.workerFp ∧ caller.clientSeq = some key.clientSeq := by
  obtain ⟨workerFp, clientSeq, dashboardId⟩ := caller
  cases workerFp <;> cases clientSeq <;> cases key <;> simp [reservation]

end Caller

/-- Why an append failed, as distinct from a refusal. -/
inductive AppendError
  | sqlite
  | projection (error : ProjectionError)
  | snapshotTooLarge (sessions limit : Nat)
  | workspaceUnavailable
  | publicationCapacity
  | eventIdOutOfRange (id : Int)
  | undecodableRetained (eventId : Int) (reason : String)
  | extraWork (reason : String)
  | clientSeqOutOfRange (clientSeq : Nat)

/-! ## Admission -/

/-- What the caller claims to be, and what the database says. -/
structure AdmissionFacts where
  callerWorkerFp : Option String
  eventWorkerFp : Option String
  callerWorkerLive : Bool := false
  alreadyDeduplicated : Bool := false
  sessionId : Option SessionId
  eventKind : String
  sessionExists : Bool := false
  sessionRowWorkerFp : Option String := none
  snapshotEventWorkerFps : List String := []
  snapshotRowWorkerFps : List String := []
  snapshotWorkspaceIds : List WorkspaceId := []
  existingSnapshotWorkspaceCount : Nat := 0

/-- Which rule refused an event. -/
inductive AdmissionRefusal
  | callerWorkerNotLive
  | foreignWorkerClaim
  | foreignAnnouncedSession
  | foreignAnnouncedRow
  | missingSnapshotWorkspace
  | foreignSession
  | unknownSession

structure Admission where
  admitted : Bool
  sessionId : Option SessionId
  sessionExists : Bool
  refusal : Option AdmissionRefusal

namespace Admission

def admitting (sessionId : Option SessionId) (sessionExists : Bool) : Admission :=
  { admitted := true, sessionId, sessionExists, refusal := none }

def refuse (refusal : AdmissionRefusal) (sessionId : Option SessionId) : Admission :=
  { admitted := false, sessionId, sessionExists := false, refusal := some refusal }

end Admission

def anyForeign (caller : Option String) (claimed : List String) : Bool :=
  match caller with
  | none => false
  | some caller => claimed.any fun owner => owner != caller

/-- Decide whether an event may be appended; the rules in the order they are asked. -/
def admitFacts (facts : AdmissionFacts) : Admission :=
  let sessionId := facts.sessionId
  let caller := facts.callerWorkerFp
  -- Rule 1: a producer that is not a worker always passes.
  if caller.isNone then .admitting sessionId facts.sessionExists
  -- Rule 2.
  else if !facts.callerWorkerLive then .refuse .callerWorkerNotLive sessionId
  -- Rule 3.
  else if facts.eventWorkerFp.isSome && facts.eventWorkerFp != caller then
    .refuse .foreignWorkerClaim sessionId
  -- Rule 4: admitted on purpose, or a retry could not reach the claim.
  else if facts.alreadyDeduplicated then .admitting sessionId false
  -- Rules 5 and 6.
  else if anyForeign caller facts.snapshotEventWorkerFps then
    .refuse .foreignAnnouncedSession sessionId
  else if anyForeign caller facts.snapshotRowWorkerFps then .refuse .foreignAnnouncedRow sessionId
  -- Rule 7.
  else if facts.existingSnapshotWorkspaceCount ≠ facts.snapshotWorkspaceIds.length then
    .refuse .missingSnapshotWorkspace sessionId
  else
    match sessionId with
    -- Rule 8: an event with no session id is a snapshot.
    | none => .admitting none false
    | some sessionId =>
      -- Rule 9.
      if facts.sessionExists then
        if facts.sessionRowWorkerFp = caller then .admitting (some sessionId) true
        else .refuse .foreignSession (some sessionId)
      -- Rules 10 and 11.
      else if facts.eventKind = "opened" then .admitting (some sessionId) false
      else .refuse .unknownSession (some sessionId)

/-- The fingerprint an `opened` or a snapshot claims. -/
def eventClaimedWorkerFp : SessionEvent → Option String
  | .opened _ workerFp .. => some workerFp.value
  | .snapshot workerFp .. => some workerFp.value
  | _ => none

/-- A sequence as an integer column compares it. -/
def asSqliteInteger (value : Nat) : Nat := min value i64Max

/-- The announced ids, deduplicated, in first-seen order. -/
def announcedSessionIds (sessions : List Session) : List SessionId :=
  (sessions.map (·.id)).reverse.dedup.reverse

/-- The workspaces a snapshot names, deduplicated, in first-seen order. -/
def announcedWorkspaceIds (sessions : List Session) : List WorkspaceId :=
  (sessions.filterMap (·.workspaceId)).reverse.dedup.reverse

namespace Tables

variable (tables : Tables Text)

/-- A durable row of a worker's sequence. -/
def delivered (workerFp : WorkerFp) (clientSeq : Nat) : Bool :=
  tables.events.any fun row => row.workerFp = some workerFp ∧ row.clientSeq = some clientSeq

def sessionRowOwner (sessionId : SessionId) : Option String :=
  (tables.sessions.lookup sessionId).map (·.workerFp)

/-- Read every fact the rules need; a read after the rule that decides is skipped. -/
def loadAdmissionFacts (event : SessionEvent) (caller : Caller) : AdmissionFacts :=
  let facts : AdmissionFacts :=
    { callerWorkerFp := caller.workerFp.map (·.value)
      eventWorkerFp := eventClaimedWorkerFp event
      eventKind := event.kindName
      sessionId := event.sessionId }
  match caller.workerFp with
  | none =>
    { facts with sessionExists := event.sessionId.any fun id => (tables.sessionRowOwner id).isSome }
  | some workerFp =>
    if workerFp ∉ tables.workers then facts
    else
      let facts := { facts with callerWorkerLive := true }
      if caller.clientSeq.any fun seq => tables.delivered workerFp (asSqliteInteger seq) then
        { facts with alreadyDeduplicated := true }
      else
        match event with
        | .snapshot _ sessions _ _ =>
          let workspaceIds := announcedWorkspaceIds sessions
          { facts with
            snapshotEventWorkerFps := sessions.map (·.workerFp.value)
            snapshotRowWorkerFps := (announcedSessionIds sessions).filterMap tables.sessionRowOwner
            snapshotWorkspaceIds := workspaceIds
            existingSnapshotWorkspaceCount :=
              (tables.workspaces.dedup.filter fun id => id ∈ workspaceIds).length }
        | event =>
          match event.sessionId.bind tables.sessionRowOwner with
          | none => facts
          | some owner => { facts with sessionExists := true, sessionRowWorkerFp := some owner }

end Tables

/-! ## The transaction -/

/-- What the transaction decided, about the event it decided on. -/
structure CommittedState (Text : Type) where
  insertedId : Option Nat
  eventJson : Text
  publishable : Bool
  admissionRejected : Bool
  reapOrphanIds : List SessionId
  cascadeOrphanIds : List WorkspaceId
  event : SessionEvent

structure CommittedEventPublication (Text : Type) where
  event : SessionEvent
  authenticatedWorkerFp : Option WorkerFp
  eventId : Nat
  eventJson : Text
  cascadeOrphanIds : List WorkspaceId
  snapshotReapIds : List SessionId

def CommittedState.publicationEffect (state : CommittedState Text)
    (authenticatedWorkerFp : Option WorkerFp) : Option (CommittedEventPublication Text) :=
  if !state.publishable then none
  else state.insertedId.map fun eventId =>
    { event := state.event
      authenticatedWorkerFp
      eventId
      eventJson := state.eventJson
      cascadeOrphanIds := state.cascadeOrphanIds
      snapshotReapIds := state.reapOrphanIds }

/-- The statements of a transaction that the database may refuse. -/
inductive Statement
  | admissionFacts
  | workspace
  | tombstones
  | insertEvent
  | project

/-- What the environment answers during one transaction. `extraWork` is the outcome of the caller's
atomic extra work, if it has any; it reads and writes no table an append owns. -/
structure TransactionAnswers where
  begins : Bool
  refuses : Statement → Bool
  extraWork : Option (Except String Unit)
  commits : Bool

/-- Every statement runs and there is no extra work. -/
def TransactionAnswers.plain : TransactionAnswers where
  begins := true
  refuses _ := false
  extraWork := none
  commits := true

def TransactionAnswers.run (answers : TransactionAnswers) (statement : Statement) :
    Except AppendError Unit :=
  if answers.refuses statement then .error .sqlite else .ok ()

def TransactionAnswers.runExtraWork (answers : TransactionAnswers) : Except AppendError Unit :=
  match answers.extraWork with
  | some (.error reason) => .error (.extraWork reason)
  | _ => .ok ()

namespace Tables

variable (codec : JsonCodec Text) (tables : Tables Text)

/-- A `workspace_assigned` naming a missing workspace throws. -/
def requireWorkspace (answers : TransactionAnswers) : SessionEvent → Except AppendError Unit
  | .workspaceAssigned _ (some workspaceId) _ _ => do
    answers.run .workspace
    if workspaceId ∈ tables.workspaces then return ()
    else .error .workspaceUnavailable
  | _ => .ok ()

def forceClosed (sessionId : SessionId) : Bool :=
  tables.events.any fun row => row.kind = "closed" ∧ row.sessionId = some sessionId

def forceClosedIds : SessionEvent → List SessionId
  | .snapshot _ sessions _ _ =>
    tables.events.filterMap fun row =>
      if row.kind = "closed" ∧ row.sessionId.any fun id => id ∈ sessions.map (·.id) then
        row.sessionId
      else none
  | _ => []

def readTombstones (answers : TransactionAnswers) (event : SessionEvent) :
    Except AppendError Unit :=
  if event.announced.isEmpty then .ok () else answers.run .tombstones

/-- The log with one more row, under the next id. -/
def logged (event : SessionEvent) (eventJson : Text) (caller : Caller) : Tables Text :=
  let row : EventRow Text :=
    { id := tables.eventSequence + 1
      dashboardId := caller.dashboardId
      kind := event.kindName
      sessionId := event.sessionId
      workerFp := caller.workerFp
      payloadJson := eventJson
      ts := event.ts
      clientSeq := caller.clientSeq }
  { tables with events := tables.events ++ [row], eventSequence := tables.eventSequence + 1 }

/-- The insert, which a row of the same worker and sequence turns into nothing. -/
def insertEvent (event : SessionEvent) (eventJson : Text) (caller : Caller) :
    Except AppendError (Option Nat × Tables Text) :=
  if caller.clientSeq.any fun seq => i64Max < seq then
    .error (.clientSeqOutOfRange (caller.clientSeq.getD 0))
  else if caller.reservation.any fun key => tables.delivered key.workerFp key.clientSeq then
    .ok (none, tables)
  -- The id column is exhausted.
  else if i64Max ≤ tables.eventSequence then .error .sqlite
  else .ok (some (tables.eventSequence + 1), tables.logged event eventJson caller)

def deleteEvent (id : Nat) : Tables Text :=
  { tables with events := tables.events.filter fun row => row.id ≠ id }

/-- The projection arm for the event's kind, and the only place `publishable` is decided. -/
def project (state : CommittedState Text) (admission : Admission) (caller : Caller) :
    Except AppendError (CommittedState Text × Tables Text) :=
  match state.event with
  | .snapshot _ sessions _ _ =>
    .ok ({ state with publishable := true },
      tables.projectSnapshotSessions codec sessions caller.dashboardId)
  | .opened sessionId .. =>
    match (foldEvent ∅ state.event).lookup sessionId with
    | none => .ok (state, tables)
    | some session =>
      let (won, tables) := tables.insertOpenedSession codec session caller.dashboardId
      -- A lost race: the loser leaves no phantom log entry.
      if !admission.sessionExists && !won then
        .ok ({ state with insertedId := none, admissionRejected := true },
          match state.insertedId with
          | none => tables
          | some id => tables.deleteEvent id)
      else .ok ({ state with publishable := true }, tables)
  | .closed sessionId .. =>
    let (orphans, tables) := tables.cascadeClosedSession sessionId
    .ok ({ state with cascadeOrphanIds := orphans, publishable := true },
      tables.deleteSession sessionId)
  | event =>
    match event.sessionId with
    | none => .ok (state, tables)
    | some sessionId => do
      let (updated, tables) ←
        (tables.foldAndUpdateSession codec event caller.dashboardId).mapError .projection
      if updated.isNone then return (state, tables)
      else
        let tables := match event with
          | .workspaceAssigned _ workspaceId _ _ =>
            tables.setWorkspaceMembership sessionId workspaceId
          | _ => tables
        return ({ state with publishable := true }, tables)

/-- The event without the sessions a durable `closed` has force-closed. -/
def effectiveEvent (event : SessionEvent) : SessionEvent :=
  let tombstoned := tables.forceClosedIds event
  match event with
  | .snapshot workerFp sessions ts traceId =>
    .snapshot workerFp (sessions.filter fun session => session.id ∉ tombstoned) ts traceId
  | event => event

/-- The transaction body: it contains no publish, and on an error nothing of it is kept. -/
def runInTransaction (event : SessionEvent) (caller : Caller) (answers : TransactionAnswers) :
    Except AppendError (CommittedState Text × Tables Text) := do
  let state : CommittedState Text :=
    { insertedId := none
      eventJson := codec.empty
      publishable := false
      admissionRejected := false
      reapOrphanIds := []
      cascadeOrphanIds := []
      event }
  answers.run .admissionFacts
  let admission := admitFacts (tables.loadAdmissionFacts event caller)
  if !admission.admitted then return ({ state with admissionRejected := true }, tables)
  else
    tables.requireWorkspace answers event
    readTombstones answers event
    let state :=
      { state with
        reapOrphanIds := tables.forceClosedIds event
        event := tables.effectiveEvent event }
    answers.runExtraWork
    let state := { state with eventJson := codec.event state.event }
    answers.run .insertEvent
    let (insertedId, tables) ← tables.insertEvent state.event state.eventJson caller
    let state := { state with insertedId }
    -- The dedupe short-circuit: already applied, still acknowledged.
    if insertedId.isNone && caller.clientSeq.isSome then return (state, tables)
    else
      answers.run .project
      tables.project codec state admission caller

/-! ## What a transaction can do -/

variable {codec tables} {event : SessionEvent} {caller : Caller} {answers : TransactionAnswers}
  {state state' : CommittedState Text} {tables' : Tables Text} {admission : Admission}

/-- Whether the log holds a row of a caller's sequence. -/
def holds (tables : Tables Text) (caller : Caller) : Bool :=
  caller.reservation.any fun key => tables.delivered key.workerFp key.clientSeq

/-- The state of an append that found its own row already there. -/
def duplicate (codec : JsonCodec Text) (tables : Tables Text) (event : SessionEvent) :
    CommittedState Text where
  insertedId := none
  eventJson := codec.event (tables.effectiveEvent event)
  publishable := false
  admissionRejected := false
  reapOrphanIds := tables.forceClosedIds event
  cascadeOrphanIds := []
  event := tables.effectiveEvent event

/-- The state of an append right after its own insert. -/
def inserted (codec : JsonCodec Text) (tables : Tables Text) (event : SessionEvent) :
    CommittedState Text :=
  { duplicate codec tables event with insertedId := some (tables.eventSequence + 1) }

theorem insertEvent_cases {eventJson : Text} {insertedId : Option Nat}
    (h : tables.insertEvent event eventJson caller = .ok (insertedId, tables')) :
    (tables.holds caller = true ∧ insertedId = none ∧ tables' = tables) ∨
      (tables.holds caller = false ∧ (∀ seq, caller.clientSeq = some seq → seq ≤ i64Max) ∧
        tables.eventSequence < i64Max ∧ insertedId = some (tables.eventSequence + 1) ∧
        tables' = tables.logged event eventJson caller) := by
  simp only [insertEvent, Except.ite_error_eq_ok] at h
  obtain ⟨hrange, h⟩ := h
  split at h
  · rename_i hholds
    cases h
    exact .inl ⟨hholds, rfl, rfl⟩
  rename_i hfresh
  rw [Except.ite_error_eq_ok] at h
  obtain ⟨hroom, h⟩ := h
  cases h
  refine .inr ⟨by simpa [holds] using hfresh, ?_, by omega, rfl, rfl⟩
  intro seq hseq
  simpa [hseq] using hrange

def admits (tables : Tables Text) (event : SessionEvent) (caller : Caller) : Bool :=
  (admitFacts (tables.loadAdmissionFacts event caller)).admitted

theorem runInTransaction_cases
    (h : tables.runInTransaction codec event caller answers = .ok (state, tables')) :
    (state.admissionRejected = true ∧ state.insertedId = none ∧ state.publishable = false ∧
        tables' = tables) ∨
      (tables.holds caller = true ∧ state = duplicate codec tables event ∧ tables' = tables) ∨
      (tables.admits event caller = true ∧ tables.holds caller = false ∧
        (∀ seq, caller.clientSeq = some seq → seq ≤ i64Max) ∧ tables.eventSequence < i64Max ∧
        (tables.logged (tables.effectiveEvent event) (codec.event (tables.effectiveEvent event))
          caller).project codec (inserted codec tables event)
            (admitFacts (tables.loadAdmissionFacts event caller)) caller = .ok (state, tables')) := by
  simp only [runInTransaction, Except.bind_eq_ok] at h
  obtain ⟨-, -, h⟩ := h
  split at h
  · cases h
    exact .inl ⟨rfl, rfl, rfl, rfl⟩
  rename_i hadmits
  simp only [Except.bind_eq_ok] at h
  obtain ⟨-, -, -, -, -, -, -, -, ⟨_, _⟩, hinsert, h⟩ := h
  obtain ⟨hholds, rfl, rfl⟩ | ⟨hfresh, hrange, hroom, rfl, rfl⟩ := insertEvent_cases hinsert
  · have hsome : caller.clientSeq.isSome = true := by
      obtain ⟨_, hkey, -⟩ := (Option.any_eq_true ..).mp hholds
      rw [(Caller.reservation_eq_some.mp hkey).2]
      rfl
    rw [if_pos (by simp [hsome])] at h
    cases h
    exact .inr (.inl ⟨hholds, rfl, rfl⟩)
  · rw [if_neg (by simp)] at h
    simp only [Except.bind_eq_ok] at h
    obtain ⟨-, -, h⟩ := h
    exact .inr (.inr ⟨by simpa [admits] using hadmits, hfresh, hrange, hroom, h⟩)

/-- The four statements leave the log alone. -/
structure SameLog (tables tables' : Tables Text) : Prop where
  events : tables'.events = tables.events
  sequence : tables'.eventSequence = tables.eventSequence

theorem projectSnapshotSessions_log (sessions : List Session) (dashboardId : String) :
    SameLog tables (tables.projectSnapshotSessions codec sessions dashboardId) := by
  unfold projectSnapshotSessions
  induction sessions generalizing tables with
  | nil => exact ⟨rfl, rfl⟩
  | cons session sessions ih =>
    rw [List.foldl_cons]
    exact ⟨ih.events, ih.sequence⟩

theorem insertOpenedSession_lost {session : Session} {dashboardId : String}
    (h : (tables.insertOpenedSession codec session dashboardId).1 = false) :
    (tables.insertOpenedSession codec session dashboardId).2.sessions = tables.sessions ∧
      (tables.sessions.lookup session.id).isSome = true := by
  unfold insertOpenedSession at h ⊢
  split
  · rename_i hrow
    exact ⟨rfl, by rw [hrow]; rfl⟩
  · rename_i hnone
    rw [hnone] at h
    cases h

theorem setWorkspaceMembership_log (sid : SessionId) (workspaceId : Option WorkspaceId) :
    SameLog tables (tables.setWorkspaceMembership sid workspaceId) := by
  cases workspaceId <;> exact ⟨rfl, rfl⟩

theorem foldAndUpdateSession_log {dashboardId : String} {updated : Option Session}
    (h : tables.foldAndUpdateSession codec event dashboardId = .ok (updated, tables')) :
    SameLog tables tables' := by
  unfold foldAndUpdateSession at h
  split at h
  · cases h
    exact ⟨rfl, rfl⟩
  simp only [Except.bind_eq_ok] at h
  obtain ⟨existing, -, h⟩ := h
  split at h
  · cases h
    exact ⟨rfl, rfl⟩
  · split at h <;> cases h <;> exact ⟨rfl, rfl⟩

theorem project_cases (h : tables.project codec state admission caller = .ok (state', tables')) :
    (SameLog tables tables' ∧ ∃ publishable cascadeOrphanIds,
        state' = { state with publishable, cascadeOrphanIds }) ∨
      (state' = { state with insertedId := none, admissionRejected := true } ∧
        tables'.sessions = tables.sessions ∧ tables'.eventSequence = tables.eventSequence ∧
        (tables'.events = tables.events.filter fun row => some row.id ≠ state.insertedId) ∧
        admission.sessionExists = false ∧ ∃ sid, state.event.sessionId = some sid ∧
          (tables.sessions.lookup sid).isSome = true) := by
  unfold project at h
  split at h
  · cases h
    exact .inl ⟨projectSnapshotSessions_log _ _, _, _, rfl⟩
  · rename_i sid _ _ _ _ _ _ hevent
    split at h
    · cases h
      exact .inl ⟨⟨rfl, rfl⟩, _, _, rfl⟩
    rename_i session hfolded
    have hid : session.id = sid := by
      rw [hevent, foldEvent, Table.lookup_insert, if_pos rfl] at hfolded
      cases hfolded
      rfl
    have hlog : SameLog tables (tables.insertOpenedSession codec session caller.dashboardId).2 := by
      unfold insertOpenedSession
      split <;> exact ⟨rfl, rfl⟩
    dsimp only at h
    split at h
    · rename_i hlost
      obtain ⟨hexists, hwon⟩ := Bool.and_eq_true_iff.mp hlost
      obtain ⟨hheld, hrow⟩ := insertOpenedSession_lost (by simpa using hwon)
      cases h
      have hnamed : ∃ named, state.event.sessionId = some named ∧
          (tables.sessions.lookup named).isSome = true :=
        ⟨sid, by rw [hevent]; rfl, hid ▸ hrow⟩
      refine .inr ⟨rfl, ?_⟩
      cases hins : state.insertedId with
      | none =>
        exact ⟨hheld, hlog.sequence, by simp [hlog.events], by simpa using hexists, hnamed⟩
      | some =>
        exact ⟨hheld, hlog.sequence, by simp [deleteEvent, hlog.events], by simpa using hexists,
          hnamed⟩
    · cases h
      exact .inl ⟨hlog, _, _, rfl⟩
  · cases h
    exact .inl ⟨⟨rfl, rfl⟩, _, _, rfl⟩
  · split at h
    · cases h
      exact .inl ⟨⟨rfl, rfl⟩, _, _, rfl⟩
    simp only [Except.bind_eq_ok, Except.mapError_eq_ok] at h
    obtain ⟨⟨_, tables₁⟩, hfold, h⟩ := h
    have hlog := foldAndUpdateSession_log hfold
    split at h
    · cases h
      exact .inl ⟨hlog, _, _, rfl⟩
    cases h
    split
    · have hjunct := @setWorkspaceMembership_log _ tables₁
      exact .inl ⟨⟨(hjunct _ _).events.trans hlog.events,
        (hjunct _ _).sequence.trans hlog.sequence⟩, _, _, rfl⟩
    · exact .inl ⟨hlog, _, _, rfl⟩

end Tables

end Roost.Coord.Events
