-- SUMMARY: The sessions table as the fold of the event log.
import Roost.Coord.Events.Append

/-!
# The projection and the fold

Four statements with different columns project what one functional fold computes. They mirror it
but for two of them: an `opened` does not touch a row that is there, and a snapshot that announces
a new session twice keeps four columns of the first announcement.
-/

namespace Roost.Coord.Events

open EventLog JsonCodec Table Tables

variable {Text : Type} {codec : JsonCodec Text}

/-! ## Rows and sessions -/

theorem sessionToRow_asStored (sess : Session) (dashboardId : String) :
    sessionToRow codec (asStored sess) dashboardId = sessionToRow codec sess dashboardId := by
  have hports : ((asStored sess).ports.filter fun ports => !ports.isEmpty) =
      sess.ports.filter fun ports => !ports.isEmpty := by
    unfold asStored
    cases sess.ports with
    | none | some => rfl
  simp only [sessionToRow, hports]
  simp [asStored]

theorem announcedOver_sessionToRow {announced before : Session} (hid : announced.id = before.id)
    (dashboardId dashboardId' : String) : (sessionToRow codec announced dashboardId).announcedOver
        (sessionToRow codec before dashboardId') =
      sessionToRow codec (announced.carriedOver (some before)) dashboardId' := by
  simp [SessionRow.announcedOver, sessionToRow, Session.carriedOver, hid]

/-- The row stored under a key was written for the session the map holds there, if it holds one. -/
def Writes (codec : JsonCodec Text) (sessionId : SessionId) :
    Option (SessionRow Text) → Option Session → Prop
  | none, none => True
  | some row, some session =>
    session.id = sessionId ∧ ∃ dashboardId, row = sessionToRow codec session dashboardId
  | _, _ => False

def Mirrors (codec : JsonCodec Text) (sessions : Table SessionId (SessionRow Text))
    (map : SessionMap) : Prop :=
  ∀ sessionId, Writes codec sessionId (sessions.lookup sessionId) (map.lookup sessionId)

theorem writes_row (sess : Session) (dashboardId : String) :
    Writes codec sess.id (some (sessionToRow codec sess dashboardId)) (some sess) :=
  ⟨rfl, dashboardId, rfl⟩

variable {sid : SessionId} {answers : TransactionAnswers}

theorem Writes.read {row : Option (SessionRow Text)}
    {sess : Option Session} (h : Writes codec sid row sess) :
    row.map (sessionFromRow codec) = sess.map fun sess => .ok (asStored sess) := by
  cases row <;> cases sess
  · rfl
  · exact h.elim
  · exact h.elim
  · obtain ⟨-, _, rfl⟩ := h
    simp [sessionFromRow_sessionToRow]

namespace Mirrors

variable {sessions : Table SessionId (SessionRow Text)} {map : SessionMap}

theorem empty : Mirrors codec ∅ ∅ := fun _ => trivial

section

variable (h : Mirrors codec sessions map)
include h

theorem absent {sid : SessionId} (hrow : sessions.lookup sid = none) : map.lookup sid = none := by
  have hwrites := h sid
  rw [hrow] at hwrites
  cases hsess : map.lookup sid with
  | none => rfl
  | some =>
    rw [hsess] at hwrites
    exact hwrites.elim

theorem held {sid : SessionId} {row : SessionRow Text} (hrow : sessions.lookup sid = some row) :
    ∃ sess, map.lookup sid = some sess ∧ sess.id = sid ∧
      ∃ dashboardId, row = sessionToRow codec sess dashboardId := by
  have hwrites := h sid
  rw [hrow] at hwrites
  cases hsess : map.lookup sid with
  | none =>
    rw [hsess] at hwrites
    exact hwrites.elim
  | some sess =>
    rw [hsess] at hwrites
    exact ⟨sess, rfl, hwrites⟩

theorem insert (sess : Session) (dashboardId : String) :
    Mirrors codec (sessions.insert sess.id (sessionToRow codec sess dashboardId))
      (map.insert sess.id sess) := by
  intro sid
  rw [lookup_insert, lookup_insert]
  split
  · rename_i heq
    rw [heq]
    exact writes_row sess dashboardId
  · exact h sid

theorem erase (sid : SessionId) : Mirrors codec (sessions.erase sid) (map.erase sid) := by
  intro other
  rw [lookup_erase, lookup_erase]
  split
  · trivial
  · exact h other

end

end Mirrors

/-! ## The snapshot's upserts -/

def firstAnnounced (sessions : List Session) (sessionId : SessionId) : Option Session :=
  sessions.find? fun session => decide (session.id = sessionId)

theorem firstAnnounced_append (sessions : List Session) (sess : Session) (sid : SessionId) :
    firstAnnounced (sessions ++ [sess]) sid = (firstAnnounced sessions sid).or
        (if sess.id = sid then some sess else none) := by
  unfold firstAnnounced
  rw [List.find?_append, List.find?_singleton]
  simp

variable {sessions : List Session}

theorem id_of_firstAnnounced {sess : Session}
    (h : firstAnnounced sessions sid = some sess) : sess.id = sid := by
  simpa using List.find?_some h

theorem firstAnnounced_eq_none :
    firstAnnounced sessions sid = none ↔ lastAnnounced sessions sid = none := by
  simp [firstAnnounced, lastAnnounced, List.find?_eq_none]

theorem lookup_projectSnapshotSessions (tables : Tables Text) (sessions : List Session)
    (dashboardId : String) (sid : SessionId) : AList.lookup sid
        (tables.projectSnapshotSessions codec sessions dashboardId).sessions =
      match lastAnnounced sessions sid with
      | none => tables.sessions.lookup sid
      | some last =>
        some ((sessionToRow codec last dashboardId).announcedOver ((tables.sessions.lookup sid).getD
            (sessionToRow codec ((firstAnnounced sessions sid).getD last) dashboardId))) := by
  unfold projectSnapshotSessions
  induction sessions using List.reverseRecOn with
  | nil => rfl
  | append_singleton sessions sess ih =>
    rw [List.foldl_append, List.foldl_cons, List.foldl_nil, lastAnnounced_append,
      firstAnnounced_append]
    rw [lookup_insert]
    by_cases heq : sess.id = sid
    · rw [if_pos heq.symm, if_pos heq, if_pos heq, heq, ih]
      cases hlast : lastAnnounced sessions sid with
      | none =>
        rw [firstAnnounced_eq_none.mpr hlast]
        cases tables.sessions.lookup sid <;> rfl
      | some last =>
        obtain ⟨_, hfirst⟩ := Option.ne_none_iff_exists'.mp fun hnone =>
          Option.some_ne_none last (hlast ▸ firstAnnounced_eq_none.mp hnone)
        rw [hfirst]
        rfl
    · rw [if_neg (Ne.symm heq), if_neg heq, if_neg heq, Option.or_none, ih]

/-- Two announcements agree on the columns a snapshot does not update. -/
structure AgreeOnKept (first last : Session) : Prop where
  createdAt : first.createdAt = last.createdAt
  workspaceId : first.workspaceId = last.workspaceId
  customTitle : first.customTitle = last.customTitle
  spawnCwd : first.spawnCwd = last.spawnCwd

theorem AgreeOnKept.carriedOver {first last : Session} (h : AgreeOnKept first last) :
    last.carriedOver (some first) = last := by
  simp [Session.carriedOver, h.createdAt, h.workspaceId, h.customTitle, h.spawnCwd]

/-- An event that its statement projects as the fold folds it: an `opened` finds no row of its
session, or the very row it folds into; a session that has no row and is announced twice is
announced with the same four kept columns first and last. -/
def Projectable (codec : JsonCodec Text) (sessions : Table SessionId (SessionRow Text)) :
    SessionEvent → Prop
  | .opened sessionId workerFp channel sessionKind cwd ts _ =>
    ∀ row, sessions.lookup sessionId = some row →
      row = sessionToRow codec (openedSession sessionId workerFp channel sessionKind cwd ts)
        row.dashboardId
  | .snapshot _ announced _ _ =>
    ∀ sessionId first last, sessions.lookup sessionId = none →
      firstAnnounced announced sessionId = some first →
      lastAnnounced announced sessionId = some last → AgreeOnKept first last
  | _ => True

/-- A projectable snapshot projects as it folds. -/
theorem Mirrors.snapshot {tables : Tables Text} {map : SessionMap}
    (h : Mirrors codec tables.sessions map) {fp : WorkerFp} {announced : List Session}
    {ts : Int} {traceId : Option String}
    (hproj : Projectable codec tables.sessions (.snapshot fp announced ts traceId))
    (dashboardId : String) :
    Mirrors codec (tables.projectSnapshotSessions codec announced dashboardId).sessions
      (foldEvent map (.snapshot fp announced ts traceId)) := by
  intro sid
  rw [lookup_projectSnapshotSessions, lookup_foldEvent_snapshot]
  cases hlast : lastAnnounced announced sid with
  | none => exact h sid
  | some last =>
    have hid := id_of_lastAnnounced hlast
    dsimp only
    cases hrow : tables.sessions.lookup sid with
    | some =>
      obtain ⟨_, hsess, hsame, dashboardId', rfl⟩ := h.held hrow
      rw [hsess, Option.getD_some, announcedOver_sessionToRow (hid.trans hsame.symm)]
      exact ⟨hid, dashboardId', rfl⟩
    | none =>
      obtain ⟨first, hfirst⟩ := Option.ne_none_iff_exists'.mp fun hnone =>
        Option.some_ne_none last (hlast ▸ firstAnnounced_eq_none.mp hnone)
      have hagree := hproj sid first last hrow hfirst hlast
      rw [h.absent hrow, hfirst, Option.getD_none, Option.getD_some,
        announcedOver_sessionToRow (hid.trans (id_of_firstAnnounced hfirst).symm),
        hagree.carriedOver]
      exact ⟨hid, dashboardId, rfl⟩

/-! ## The other statements -/

variable {tables tables' : Tables Text} {map : SessionMap} {event : SessionEvent}
  {caller : Caller} {admission : Admission} {state state' : CommittedState Text}

theorem Mirrors.opened (h : Mirrors codec tables.sessions map) (sess : Session)
    (dashboardId : String) (hsame : ∀ row, tables.sessions.lookup sess.id = some row →
      row = sessionToRow codec sess row.dashboardId) :
    Mirrors codec (tables.insertOpenedSession codec sess dashboardId).2.sessions
      (map.insert sess.id sess) := by
  unfold insertOpenedSession
  split
  · rename_i row hrow
    intro sid
    rw [lookup_insert]
    split
    · rename_i heq
      rw [heq, hrow, hsame row hrow]
      exact writes_row sess _
    · exact h sid
  · exact h.insert sess dashboardId

theorem Mirrors.revise (h : Mirrors codec tables.sessions map) {dashboardId : String}
    {updated : Option Session} {named : SessionId} (hnamed : event.sessionId = some named)
    (hopened : event.kindName ≠ "opened") (hclosed : event.kindName ≠ "closed")
    (hfold : tables.foldAndUpdateSession codec event dashboardId = .ok (updated, tables')) :
    Mirrors codec tables'.sessions (foldEvent map event) := by
  intro sid
  rw [lookup_foldEvent_revise map hnamed hopened hclosed]
  simp only [foldAndUpdateSession, hnamed, loadSession, Except.bind_eq_ok] at hfold
  obtain ⟨_, hload, hfold⟩ := hfold
  cases hrow : tables.sessions.lookup named with
  | none =>
    rw [hrow] at hload
    cases hload
    cases hfold
    split
    · rename_i heq
      rw [heq, hrow, h.absent hrow]
      trivial
    · exact h sid
  | some row =>
    obtain ⟨sess, hsess, hid, _, rfl⟩ := h.held hrow
    rw [hrow] at hload
    dsimp only at hload
    rw [sessionFromRow_sessionToRow] at hload
    cases hload
    dsimp only at hfold
    rw [lookup_foldEvent_revise _ hnamed hopened hclosed, if_pos rfl, lookup_insert,
      if_pos (by rw [id_asStored, hid])] at hfold
    cases hfold
    simp only [updateSessionRow, Session.id_revisedBy, id_asStored, hid]
    rw [lookup_modify]
    split
    · rename_i heq
      rw [heq, hrow, hsess]
      refine ⟨by rw [Session.id_revisedBy, hid], dashboardId, ?_⟩
      rw [← sessionToRow_asStored (sess.revisedBy event), ← asStored_revisedBy,
        sessionToRow_asStored]
      simp [sessionToRow]
    · exact h sid

theorem project_mirrors (hmirrors : Mirrors codec tables.sessions map)
    (hproj : Projectable codec tables.sessions state.event)
    (h : tables.project codec state admission caller = .ok (state', tables'))
    (hlogged : state'.insertedId.isSome = true) :
    Mirrors codec tables'.sessions (foldEvent map state.event) := by
  unfold Tables.project at h
  split at h
  · rename_i hevent
    cases h
    rw [hevent] at hproj ⊢
    exact hmirrors.snapshot hproj caller.dashboardId
  · rename_i sid fp chan sessionKind cwd ts traceId hevent
    rw [hevent] at hproj h ⊢
    have hfolded : (foldEvent ∅ (.opened sid fp chan sessionKind cwd ts
        traceId)).lookup sid =
        some (openedSession sid fp chan sessionKind cwd ts) := by
      rw [foldEvent, Table.lookup_insert, if_pos rfl]
    rw [hfolded] at h
    dsimp only at h
    split at h
    · cases h
      cases hlogged
    · cases h
      exact hmirrors.opened (openedSession sid fp chan sessionKind cwd ts)
        caller.dashboardId hproj
  · rename_i sid _ _ _ hevent
    cases h
    rw [hevent]
    exact hmirrors.erase sid
  rename_i hsnapshot hopened hclosed
  have hkind : state.event.kindName ≠ "opened" ∧ state.event.kindName ≠ "closed" := by
    cases hevent : state.event with
    | opened => exact (hopened _ _ _ _ _ _ _ hevent).elim
    | closed => exact (hclosed _ _ _ _ hevent).elim
    | _ => exact ⟨by simp [SessionEvent.kindName], by simp [SessionEvent.kindName]⟩
  split at h
  · rename_i hnone
    cases hevent : state.event with
    | snapshot => exact (hsnapshot _ _ _ _ hevent).elim
    | _ => simp [hevent, SessionEvent.sessionId] at hnone
  rename_i named hnamed
  simp only [Except.bind_eq_ok, Except.mapError_eq_ok] at h
  obtain ⟨⟨updated, tables₁⟩, hfold, h⟩ := h
  have hrev := hmirrors.revise hnamed hkind.1 hkind.2 hfold
  split at h
  · cases h
    exact hrev
  cases h
  split
  · rename_i workspaceId _ _ _
    cases workspaceId <;> exact hrev
  · exact hrev

/-! ## The log -/

def Tables.storedEvents (codec : JsonCodec Text) (tables : Tables Text) :
    Except String (List SessionEvent) :=
  tables.events.mapM fun row => codec.decodeEvent row.payloadJson

/-- The ids of the log ascend, none above the sequence. -/
structure Ascending (tables : Tables Text) : Prop where
  pairwise : (tables.events.map (·.id)).Pairwise (· < ·)
  bounded : ∀ row ∈ tables.events, row.id ≤ tables.eventSequence

/-- The sessions table is the fold of the log. -/
structure Projected (codec : JsonCodec Text) (tables : Tables Text) : Prop where
  ascending : Ascending tables
  folded : ∃ events, tables.storedEvents codec = .ok events ∧
    Mirrors codec tables.sessions (foldAll events)

theorem Ascending.logged (h : Ascending tables) (event : SessionEvent) (eventJson : Text)
    (caller : Caller) : Ascending (tables.logged event eventJson caller) := by
  refine ⟨?_, ?_⟩
  · simp only [Tables.logged, List.map_append, List.map_singleton]
    refine List.pairwise_append.mpr ⟨h.pairwise, List.pairwise_singleton _ _, ?_⟩
    intro id hid next hnext
    obtain ⟨row, hrow, rfl⟩ := List.mem_map.mp hid
    rw [List.mem_singleton.mp hnext]
    exact Nat.lt_succ_of_le (h.bounded row hrow)
  · intro row hrow
    rcases List.mem_append.mp hrow with hold | hnew
    · exact Nat.le_succ_of_le (h.bounded row hold)
    · rw [List.mem_singleton.mp hnew]
      exact le_rfl

theorem Ascending.filter_logged (h : Ascending tables) (event : SessionEvent) (eventJson : Text)
    (caller : Caller) : ((tables.logged event eventJson caller).events.filter fun row =>
      decide (some row.id ≠ some (tables.eventSequence + 1))) = tables.events := by
  have hkept : ∀ row ∈ tables.events,
      decide (some row.id ≠ some (tables.eventSequence + 1)) = true := by
    intro row hrow
    have hle := h.bounded row hrow
    simp only [ne_eq, Option.some.injEq, decide_eq_true_eq]
    omega
  simp only [Tables.logged]
  rw [List.filter_append, List.filter_eq_self.mpr hkept]
  simp

theorem runInTransaction_log (hascends : Ascending tables)
    (h : tables.runInTransaction codec event caller answers = .ok (state, tables')) :
    (tables'.events = tables.events ∧ tables'.sessions = tables.sessions ∧
        tables.eventSequence ≤ tables'.eventSequence ∧ state.insertedId = none) ∨
      (tables.admits event caller = true ∧ tables.holds caller = false ∧
        Tables.SameLog (tables.logged (tables.effectiveEvent event)
          (codec.event (tables.effectiveEvent event)) caller) tables' ∧
        state.insertedId = some (tables.eventSequence + 1) ∧
        (Projectable codec tables.sessions (tables.effectiveEvent event) →
          ∀ map, Mirrors codec tables.sessions map →
            Mirrors codec tables'.sessions (foldEvent map (tables.effectiveEvent event)))) := by
  obtain ⟨-, hid, -, rfl⟩ | ⟨-, rfl, rfl⟩ | ⟨hadmits, hfresh, -, -, hproject⟩ :=
    runInTransaction_cases h
  · exact .inl ⟨rfl, rfl, le_rfl, hid⟩
  · exact .inl ⟨rfl, rfl, le_rfl, rfl⟩
  obtain ⟨hlog, _, _, rfl⟩ | ⟨rfl, hsessions, hsequence, hevents, -⟩ :=
    project_cases hproject
  · refine .inr ⟨hadmits, hfresh, hlog, rfl, ?_⟩
    intro hproj map hmirrors
    have hlogged : Mirrors codec (tables.logged (tables.effectiveEvent event)
      (codec.event (tables.effectiveEvent event)) caller).sessions map := hmirrors
    have hins : Projectable codec (tables.logged (tables.effectiveEvent event)
      (codec.event (tables.effectiveEvent event)) caller).sessions
      (inserted codec tables event).event := hproj
    exact project_mirrors hlogged hins hproject rfl
  · refine .inl ⟨?_, hsessions, ?_, rfl⟩
    · rw [hevents]
      exact hascends.filter_logged _ _ _
    · rw [hsequence]
      exact Nat.le_succ _

theorem Ascending.runInTransaction (hascends : Ascending tables)
    (h : tables.runInTransaction codec event caller answers = .ok (state, tables')) :
    Ascending tables' := by
  obtain ⟨hevents, -, hsequence, -⟩ | ⟨-, -, hlog, -, -⟩ := runInTransaction_log hascends h
  · refine ⟨by rw [hevents]; exact hascends.pairwise, ?_⟩
    intro row hrow
    rw [hevents] at hrow
    exact (hascends.bounded row hrow).trans hsequence
  have hlogged := hascends.logged (tables.effectiveEvent event)
    (codec.event (tables.effectiveEvent event)) caller
  refine ⟨by rw [hlog.events]; exact hlogged.pairwise, ?_⟩
  rw [hlog.events, hlog.sequence]
  exact hlogged.bounded

theorem Projected.runInTransaction (hprojected : Projected codec tables)
    (hproj : tables.admits event caller = true → tables.holds caller = false →
      Projectable codec tables.sessions (tables.effectiveEvent event))
    (h : tables.runInTransaction codec event caller answers = .ok (state, tables')) :
    Projected codec tables' := by
  refine ⟨hprojected.ascending.runInTransaction h, ?_⟩
  obtain ⟨events, hstored, hmirrors⟩ := hprojected.folded
  obtain ⟨hevents, hsessions, -, -⟩ | ⟨hadmits, hfresh, hlog, -, hfolds⟩ :=
    runInTransaction_log hprojected.ascending h
  · exact ⟨events, by rw [storedEvents, hevents]; exact hstored, hsessions ▸ hmirrors⟩
  refine ⟨events ++ [tables.effectiveEvent event], ?_, ?_⟩
  · rw [storedEvents, hlog.events]
    exact Except.mapM_eq_ok.mpr
      (List.rel_append (Except.mapM_eq_ok.mp hstored) (.cons (codec.decode_event _) .nil))
  · rw [foldAll_append_singleton]
    exact hfolds (hproj hadmits hfresh) _ hmirrors

/-! ## Runs -/

theorem Ascending.start : Ascending (start : EventLog Text).tables :=
  ⟨.nil, fun _ h => nomatch h⟩

theorem Projected.start : Projected codec (start : EventLog Text).tables :=
  ⟨.start, [], rfl, .empty⟩

theorem delivered_runInTransaction {fp : WorkerFp} {clientSeq : Nat} (hascends : Ascending tables)
    (h : tables.runInTransaction codec event caller answers = .ok (state, tables'))
    (hdel : tables.delivered fp clientSeq = true) : tables'.delivered fp clientSeq = true := by
  obtain ⟨hevents, -, -, -⟩ | ⟨-, -, hlog, -, -⟩ := runInTransaction_log hascends h
  · rw [delivered, hevents]
    exact hdel
  · rw [delivered, hlog.events, logged, List.any_append]
    exact Bool.or_eq_true_iff.mpr (.inl hdel)

theorem runInTransaction_holds (hholds : tables.holds caller = true)
    (h : tables.runInTransaction codec event caller answers = .ok (state, tables')) :
    tables' = tables := by
  obtain ⟨-, -, -, hsame⟩ | ⟨-, -, hsame⟩ | ⟨-, hfresh, -⟩ := runInTransaction_cases h
  · exact hsame
  · exact hsame
  · rw [hholds] at hfresh
    cases hfresh

theorem runInTransaction_delivers {key : Reservation} (hkey : caller.reservation = some key)
    (h : tables.runInTransaction codec event caller answers = .ok (state, tables'))
    (hadmitted : state.admissionRejected = false) :
    tables'.delivered key.workerFp key.clientSeq = true := by
  obtain ⟨hreject, -⟩ | ⟨hholds, -, rfl⟩ | ⟨-, -, -, -, hproject⟩ := runInTransaction_cases h
  · rw [hadmitted] at hreject
    cases hreject
  · simpa [holds, hkey] using hholds
  obtain ⟨hlog, -⟩ | ⟨rfl, -⟩ := project_cases hproject
  · obtain ⟨hworker, hseq⟩ := Caller.reservation_eq_some.mp hkey
    rw [delivered, hlog.events, logged, List.any_append]
    simp [hworker, hseq]
  · cases hadmitted

section Runs

variable [DecidableEq Text]

def ProjectsAsFolded (codec : JsonCodec Text) (log : EventLog Text) : Step → Prop
  | .transact call _ => ∀ delivery, log.flights.lookup call = some (.reserved delivery) →
    log.tables.admits delivery.event delivery.caller = true →
    log.tables.holds delivery.caller = false →
    Projectable codec log.tables.sessions (log.tables.effectiveEvent delivery.event)
  | _ => True

variable {log : EventLog Text}

/-- A step logs only above the last event. -/
theorem Ascending.step (h : Ascending log.tables) (step : Step) :
    Ascending (log.step codec step).tables := by
  refine step_tables (P := Ascending) h step ?_ ?_
  · intro workers workspaces workspaceSessions _
    exact ⟨h.pairwise, h.bounded⟩
  · intro call deliv answers state tables _ _ hrun
    exact h.runInTransaction hrun

/-- A step that projects as it folds keeps rows and fold equal. -/
theorem Projected.step (h : Projected codec log.tables) {step : Step}
    (hfolded : ProjectsAsFolded codec log step) : Projected codec (log.step codec step).tables := by
  refine step_tables (P := Projected codec) h step ?_ ?_
  · intro workers workspaces workspaceSessions _
    exact ⟨⟨h.ascending.pairwise, h.ascending.bounded⟩, h.folded⟩
  · intro call deliv answers state tables hstep hfly hrun
    subst hstep
    exact h.runInTransaction (hfolded deliv hfly) hrun

/-- What was delivered stays delivered. -/
theorem delivered_step (hascends : Ascending log.tables) {fp : WorkerFp}
    {clientSeq : Nat} (h : log.tables.delivered fp clientSeq = true) (step : Step) :
    (log.step codec step).tables.delivered fp clientSeq = true := by
  refine step_tables (P := fun tables => tables.delivered fp clientSeq = true) h step ?_ ?_
  · intro workers workspaces workspaceSessions _
    exact h
  · intro call deliv answers state tables _ _ hrun
    exact delivered_runInTransaction hascends hrun h

/-- The sessions table, read back, is the fold of the stored events in id order. -/
def FoldsLog (codec : JsonCodec Text) (tables : Tables Text) : Prop :=
  ∃ events, tables.storedEvents codec = .ok events ∧ (tables.events.map (·.id)).Pairwise (· < ·) ∧
    ∀ sessionId, (tables.sessions.lookup sessionId).map (sessionFromRow codec) =
      ((foldAll events).lookup sessionId).map fun session => .ok (asStored session)

def AdmitsCall (codec : JsonCodec Text) (log : EventLog Text) (call : Nat)
    (answers : TransactionAnswers) (delivery : Delivery) : Prop :=
  log.flights.lookup call = some (.reserved delivery) ∧ answers.begins = true ∧
    answers.commits = true ∧ ∃ state tables,
      log.tables.runInTransaction codec delivery.event delivery.caller answers =
        .ok (state, tables) ∧ state.admissionRejected = false

theorem replay_tables {call : Nat} {delivery : Delivery} {key : Reservation}
    (hkey : delivery.caller.reservation = some key) (hfree : log.flights.lookup call = none)
    (hdel : log.tables.delivered key.workerFp key.clientSeq = true)
    (answers : TransactionAnswers) (fence : Fence) : ((appends codec).run log
      [.reserve call delivery, .transact call answers, .resolve call fence]).tables =
        log.tables := by
  have hres : (log.step codec (.reserve call delivery)) = log.reserve call delivery := by
    simp only [EventLog.step, hfree]
  have htrans : ((log.reserve call delivery).step codec (.transact call answers)).tables =
      log.tables := by
    refine EventLog.step_tables (P := fun tables => tables = log.tables)
      (EventLog.reserve_tables log call delivery) _ (fun _ _ _ hstep => by cases hstep) ?_
    intro _ delivery' _ state tables hstep hfly hrun
    cases hstep
    rw [EventLog.reserve_tables] at hrun
    have hholds : log.tables.holds delivery'.caller = true := by
      rw [EventLog.reserve_caller hfly, Tables.holds, hkey]
      exact hdel
    exact runInTransaction_holds hholds hrun
  rw [Transducer.run_cons, appends_next, hres, Transducer.run_cons, appends_next,
    Transducer.run_cons, appends_next, Transducer.run_nil]
  exact EventLog.step_tables (P := fun tables => tables = log.tables) htrans _
    (fun _ _ _ hstep => by cases hstep) (fun _ _ _ _ _ hstep => by cases hstep)

/-- Along steps that project as the log folds, the sessions table stays the fold of the stored
events. In every run, a delivery of a sequence that was admitted before changes neither. -/
theorem table_folds_log (codec : JsonCodec Text) (steps : List Step) :
    ((appends codec).Along (ProjectsAsFolded codec) .start steps →
      FoldsLog codec ((appends codec).run .start steps).tables) ∧
      ∀ early call answers later delivery key, steps = early ++ .transact call answers :: later →
        AdmitsCall codec ((appends codec).run .start early) call answers delivery →
        delivery.caller.reservation = some key →
        ∀ call' delivery' answers' fence, delivery'.caller.reservation = some key →
          ((appends codec).run .start steps).flights.lookup call' = none →
          ((appends codec).run ((appends codec).run .start steps)
            [.reserve call' delivery', .transact call' answers', .resolve call' fence]).tables =
              ((appends codec).run .start steps).tables := by
  constructor
  · intro halong
    have hprojected : Projected codec ((appends codec).run .start steps).tables := by
      refine halong.invariant (P := fun log => Projected codec log.tables) .start ?_
      intro log step hkept hfolded
      exact hkept.step hfolded
    obtain ⟨events, hstored, hmirrors⟩ := hprojected.folded
    exact ⟨events, hstored, hprojected.ascending.pairwise, fun id => (hmirrors id).read⟩
  intro early call answers later delivery key hsteps hadmits hkey call' delivery' answers' fence
    hkey' hfree
  let kept (log : EventLog Text) : Prop :=
    Ascending log.tables ∧ log.tables.delivered key.workerFp key.clientSeq = true
  have hascends : Ascending ((appends codec).run .start early).tables := by
    refine Transducer.invariant (P := fun log : EventLog Text => Ascending log.tables) .start ?_ early
    intro log step hlog
    exact hlog.step step
  have hdel : kept ((appends codec).run .start steps) := by
    rw [hsteps, Transducer.run_append, Transducer.run_cons]
    refine Transducer.invariant (P := kept) ?_ ?_ later
    · rw [appends_next]
      refine ⟨hascends.step _, ?_⟩
      obtain ⟨hfly, hbegins, hcommits, _, _, hrun, hadmitted⟩ := hadmits
      have hrow := runInTransaction_delivers hkey hrun hadmitted
      simpa [EventLog.step, hfly, EventLog.transact, hbegins, hrun, hcommits] using hrow
    · intro log step hlog
      exact ⟨hlog.1.step step, delivered_step hlog.1 hlog.2 step⟩
  exact replay_tables hkey' hfree hdel.2 answers' fence

end Runs

/-! ## A session opened twice -/

def loneWorker : WorkerFp where
  value := "aaaaaaaaaaaaaaaaaaaaaaaaaaaaaaaaaaaaaaaaaaaaaaaaaaaaaaaaaaaaaaaa"
  check := by decide +kernel

def loneSession : SessionId where
  value := "00000000-0000-4000-8000-000000000001"
  check := by decide +kernel

def openedIn (cwd : String) (ts : Int) : SessionEvent :=
  .opened loneSession loneWorker { asU32 := 1 } .shell cwd ts none

/-- One call of the lone worker, its three parts in a row. -/
def lonely (call : Nat) (event : SessionEvent) (fence : Bool) : List Step :=
  let delivery : Delivery :=
    { event, caller := .worker loneWorker call "main", deferSnapshotReap := true }
  [.reserve call delivery, .transact call .plain, .resolve call { first := fence, second := fence }]

def opening : List Step := .world [loneWorker] [] [] :: lonely 1 (openedIn "/first" 1) true

/-- The worker opens a session and opens it again elsewhere. -/
def reopening : List Step := opening ++ lonely 2 (openedIn "/second" 2) true

/-- The run of a worker that opens a session. -/
theorem opened_folds_log :
    FoldsLog JsonCodec.verbatim ((appends JsonCodec.verbatim).run .start opening).tables := by
  have hfolded : (appends JsonCodec.verbatim).Along (ProjectsAsFolded JsonCodec.verbatim) .start
      opening := by
    refine ⟨trivial, trivial, ?_, trivial, trivial⟩
    intro delivery hfly _ _
    cases hfly
    intro row hrow
    cases hrow
  exact (table_folds_log JsonCodec.verbatim opening).1 hfolded

/-- The second `opened` is logged, and the row stays what the first made of it. -/
theorem reopened_session_diverges :
    ¬ FoldsLog verbatim ((appends verbatim).run .start reopening).tables := by
  rintro ⟨events, hstored, -, hsame⟩
  have hevents : (storedEvents verbatim
      ((appends verbatim).run .start reopening).tables).toOption =
        some [openedIn "/first" 1, openedIn "/second" 2] := by
    decide +kernel
  rw [hstored] at hevents
  cases hevents
  have hcwd := congrArg
    (fun result => result.bind fun read : Except ProjectionError Session =>
      read.toOption.map (·.cwd))
    (hsame loneSession)
  revert hcwd
  decide +kernel

end Roost.Coord.Events
