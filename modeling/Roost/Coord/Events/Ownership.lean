-- SUMMARY: Which rows an admitted event may touch, over every run.
import Roost.Coord.Events.LogFold

/-!
# Session ownership

A worker's event is admitted on facts read before it is written: whom it claims to be from, and who
owns the rows it names. What it then writes are rows it names, under their own worker.
-/

namespace Roost.Coord.Events

open EventLog Tables

variable {Text : Type} {codec : JsonCodec Text} {tables tables' : Tables Text}
  {event : SessionEvent} {caller : Caller} {admission : Admission}
  {state state' : CommittedState Text} {workerFp : WorkerFp} {sid : SessionId}

/-! ## What admission proves -/

def Concerns (event : SessionEvent) (sessionId : SessionId) : Prop :=
  event.sessionId = some sessionId ∨ ∃ session ∈ event.announced, session.id = sessionId

inductive Brings : SessionEvent → WorkerFp → Prop
  | opened {sessionId workerFp channel sessionKind cwd ts traceId} :
    Brings (.opened sessionId workerFp channel sessionKind cwd ts traceId) workerFp
  | announced {workerFp sessions ts traceId session} (h : session ∈ sessions) :
    Brings (.snapshot workerFp sessions ts traceId) session.workerFp

def OwnedBy (workerFp : WorkerFp) (tables : Tables Text) (sessionId : SessionId) : Prop :=
  ∀ row, tables.sessions.lookup sessionId = some row → row.workerFp = workerFp.value

/-- Every row an event concerns is a worker's, and so is every row it brings. -/
structure OwnsAll (workerFp : WorkerFp) (tables : Tables Text) (event : SessionEvent) : Prop where
  rows : ∀ sessionId, Concerns event sessionId → OwnedBy workerFp tables sessionId
  brought : ∀ brought, Brings event brought → brought = workerFp

theorem WorkerFp.eq_of_value {fp fp' : WorkerFp} (h : fp.value = fp'.value) : fp = fp' := by
  cases fp
  cases fp'
  cases h
  rfl

theorem mem_announcedSessionIds {sessions : List Session} {sess : Session}
    (h : sess ∈ sessions) : sess.id ∈ announcedSessionIds sessions := by
  simp only [announcedSessionIds, List.mem_reverse, List.mem_dedup, List.mem_map]
  exact ⟨sess, h, rfl⟩

theorem not_anyForeign {caller : String} {claimed : List String}
    (h : anyForeign (some caller) claimed = false) {owner : String} (hmem : owner ∈ claimed) :
    owner = caller := by
  simp only [anyForeign, List.any_eq_false, bne_iff_ne, ne_eq, not_not] at h
  exact h owner hmem

theorem not_alreadyDeduplicated (hfresh : tables.holds caller = false)
    (hrange : ∀ seq, caller.clientSeq = some seq → seq ≤ i64Max)
    (hworker : caller.workerFp = some workerFp) :
    (caller.clientSeq.any fun seq => tables.delivered workerFp (asSqliteInteger seq)) = false := by
  cases hseq : caller.clientSeq with
  | none => rfl
  | some seq =>
    have hkey : caller.reservation = some { workerFp, clientSeq := seq } :=
      Caller.reservation_eq_some.mpr ⟨hworker, hseq⟩
    rw [holds, hkey] at hfresh
    simpa [asSqliteInteger, Nat.min_eq_left (hrange seq hseq)] using hfresh

/-- What the rules prove of the facts of a fresh worker delivery they pass. -/
structure Passed (facts : AdmissionFacts) (workerFp : WorkerFp) : Prop where
  claimed : ∀ claimed, facts.eventWorkerFp = some claimed → claimed = workerFp.value
  announced : ∀ owner ∈ facts.snapshotEventWorkerFps, owner = workerFp.value
  rows : ∀ owner ∈ facts.snapshotRowWorkerFps, owner = workerFp.value
  named : ∀ sessionId, facts.sessionId = some sessionId → facts.sessionExists = true →
    facts.sessionRowWorkerFp = some workerFp.value
  exists_of : facts.sessionId.isSome = true → (admitFacts facts).sessionExists = facts.sessionExists

theorem admitFacts_passed {facts : AdmissionFacts}
    (hcaller : facts.callerWorkerFp = some workerFp.value)
    (hnew : facts.alreadyDeduplicated = false) (h : (admitFacts facts).admitted = true) :
    Passed facts workerFp := by
  unfold admitFacts at h
  simp only [hcaller, hnew, Option.isNone_some, Bool.false_eq_true, if_false] at h
  split at h
  · cases h
  rename_i hlive
  split at h
  · cases h
  rename_i hclaim
  split at h
  · cases h
  rename_i hann
  split at h
  · cases h
  rename_i hrows
  split at h
  · cases h
  rename_i hworksp
  refine ⟨?_, ?_, ?_, ?_, ?_⟩
  · intro claimed hclaimed
    simpa [hclaimed] using hclaim
  · intro owner hmem
    exact not_anyForeign (by simpa using hann) hmem
  · intro owner hmem
    exact not_anyForeign (by simpa using hrows) hmem
  · intro sid hid hthere
    rw [hid] at h
    dsimp only at h
    rw [if_pos hthere] at h
    split at h
    · assumption
    · cases h
  intro hsome
  obtain ⟨_, hid⟩ := Option.isSome_iff_exists.mp hsome
  unfold admitFacts
  rw [hid] at h
  simp only [hcaller, hnew, hlive, hclaim, hann, hrows, hworksp, hid,
    Option.isNone_some, Bool.false_eq_true, if_false]
  dsimp only at h
  split at h
  · rename_i hthere
    rw [if_pos hthere]
    split at h
    · rename_i howned
      rw [if_pos howned, hthere]
      rfl
    · cases h
  rename_i hthere
  rw [if_neg hthere]
  split at h
  · rename_i hopened
    rw [if_pos hopened]
    simpa [Admission.admitting] using hthere
  · cases h

theorem loadAdmissionFacts_fresh (event : SessionEvent) (hworker : caller.workerFp = some workerFp)
    (hlive : workerFp ∈ tables.workers)
    (hnew : (caller.clientSeq.any fun seq => tables.delivered workerFp (asSqliteInteger seq)) =
      false) : (tables.loadAdmissionFacts event caller).alreadyDeduplicated = false ∧
      (tables.loadAdmissionFacts event caller).eventWorkerFp = eventClaimedWorkerFp event ∧
      (tables.loadAdmissionFacts event caller).sessionId = event.sessionId ∧
      (tables.loadAdmissionFacts event caller).snapshotEventWorkerFps =
        event.announced.map (·.workerFp.value) ∧
      (tables.loadAdmissionFacts event caller).snapshotRowWorkerFps =
        (announcedSessionIds event.announced).filterMap tables.sessionRowOwner ∧
      (tables.loadAdmissionFacts event caller).sessionRowWorkerFp =
        event.sessionId.bind tables.sessionRowOwner ∧
      (tables.loadAdmissionFacts event caller).sessionExists =
        (event.sessionId.bind tables.sessionRowOwner).isSome := by
  simp only [loadAdmissionFacts, hworker, hlive, hnew, not_true_eq_false, if_false,
    Bool.false_eq_true]
  cases event with
  | snapshot => exact ⟨rfl, rfl, rfl, rfl, rfl, rfl, rfl⟩
  | _ =>
    dsimp only
    split
    · rename_i hnone
      exact ⟨rfl, rfl, rfl, rfl, rfl, hnone.symm, by rw [hnone]; rfl⟩
    · rename_i hsome
      exact ⟨rfl, rfl, rfl, rfl, rfl, hsome.symm, by rw [hsome]; rfl⟩

theorem admits_owned (hworker : caller.workerFp = some workerFp)
    (hfresh : tables.holds caller = false)
    (hrange : ∀ seq, caller.clientSeq = some seq → seq ≤ i64Max)
    (hadmits : tables.admits event caller = true) :
    OwnsAll workerFp tables event ∧ ((event.sessionId.bind tables.sessionRowOwner).isSome = true →
        (admitFacts (tables.loadAdmissionFacts event caller)).sessionExists = true) := by
  have hnew := not_alreadyDeduplicated hfresh hrange hworker
  have hcaller : (tables.loadAdmissionFacts event caller).callerWorkerFp = some workerFp.value := by
    simp only [loadAdmissionFacts, hworker]
    split
    · rfl
    split
    · rfl
    · cases event with
      | snapshot => rfl
      | _ => dsimp only; split <;> rfl
  by_cases hlive : workerFp ∈ tables.workers
  · obtain ⟨hdedup, hclaim, hid, hann, hrows, howner, hexists⟩ :=
      loadAdmissionFacts_fresh event hworker hlive hnew
    have hpassed := admitFacts_passed hcaller hdedup hadmits
    refine ⟨⟨?_, ?_⟩, ?_⟩
    · intro sid hconcerns row hrow
      have hrowOwn : tables.sessionRowOwner sid = some row.workerFp := by
        rw [sessionRowOwner, hrow]
        rfl
      rcases hconcerns with hnamed | ⟨sess, hmem, rfl⟩
      · have hthere := hpassed.named sid (hid.trans hnamed)
        rw [hexists, howner, hnamed, Option.bind_some, hrowOwn] at hthere
        exact Option.some.inj (hthere rfl)
      · refine hpassed.rows _ ?_
        rw [hrows]
        exact List.mem_filterMap.mpr ⟨sess.id, mem_announcedSessionIds hmem, hrowOwn⟩
    · intro brought hbrings
      cases hbrings with
      | opened => exact WorkerFp.eq_of_value (hpassed.claimed _ hclaim)
      | announced hmem =>
        refine WorkerFp.eq_of_value (hpassed.announced _ ?_)
        rw [hann]
        exact List.mem_map.mpr ⟨_, hmem, rfl⟩
    · intro hsome
      rw [hpassed.exists_of, hexists, hsome]
      rw [hid]
      cases hnamed : event.sessionId with
      | none => simp [hnamed] at hsome
      | some => rfl
  · simp [admits, loadAdmissionFacts, hworker, hlive, admitFacts, Admission.refuse] at hadmits

theorem admits_exists (hfresh : tables.holds caller = false)
    (hrange : ∀ seq, caller.clientSeq = some seq → seq ≤ i64Max)
    (hadmits : tables.admits event caller = true) (hnamed : event.sessionId = some sid)
    (hrow : (tables.sessions.lookup sid).isSome = true) :
    (admitFacts (tables.loadAdmissionFacts event caller)).sessionExists = true := by
  have howner : (tables.sessionRowOwner sid).isSome = true := by
    rw [sessionRowOwner, Option.isSome_map]
    exact hrow
  cases hworker : caller.workerFp with
  | none => simp [loadAdmissionFacts, hworker, admitFacts, Admission.admitting, hnamed, howner]
  | some =>
    refine (admits_owned hworker hfresh hrange hadmits).2 ?_
    rw [hnamed]
    exact howner

/-! ## What a statement writes -/

/-- Every row is stored under its own id. -/
def RowsKeyed (tables : Tables Text) : Prop :=
  ∀ sessionId row, tables.sessions.lookup sessionId = some row → row.id = sessionId.value

theorem SessionId.value_of_tryFrom {value : String} {sid : SessionId}
    (h : SessionId.tryFrom value = .ok sid) : sid.value = value := by
  unfold SessionId.tryFrom at h
  split at h
  · cases h
    rfl
  · cases h

theorem WorkerFp.value_of_tryFrom {value : String} {workerFp : WorkerFp}
    (h : WorkerFp.tryFrom value = .ok workerFp) : workerFp.value = value := by
  unfold WorkerFp.tryFrom at h
  split at h
  · cases h
    rfl
  · cases h

theorem sessionFromRow_identity {row : SessionRow Text} {sess : Session}
    (h : sessionFromRow codec row = .ok sess) :
    sess.id.value = row.id ∧ sess.workerFp.value = row.workerFp := by
  simp only [sessionFromRow, Except.bind_eq_ok, column, Except.mapError_eq_ok] at h
  obtain ⟨_, hid, _, hworker, _, _, _, _, _, _, _, _, _, _, _, _, h⟩ := h
  cases h
  exact ⟨SessionId.value_of_tryFrom hid, WorkerFp.value_of_tryFrom hworker⟩

/-- What an event leaves of the row of a session: the row as it was, or a row of its own id whose
worker had the row before or came with the event. -/
def RowAfter (event : SessionEvent) (sessionId : SessionId)
    (row row' : Option (SessionRow Text)) : Prop :=
  row' = row ∨ Concerns event sessionId ∧ ∀ after, row' = some after → after.id = sessionId.value ∧
      ((∃ before, row = some before ∧ after.workerFp = before.workerFp) ∨
        ∃ workerFp, Brings event workerFp ∧ after.workerFp = workerFp.value)

theorem row_after_snapshot (hkeyed : RowsKeyed tables) (claimed : WorkerFp)
    (sessions : List Session) (ts : Int) (traceId : Option String) (dashboardId : String)
    (sid : SessionId) :
    RowAfter (.snapshot claimed sessions ts traceId) sid (tables.sessions.lookup sid)
      ((tables.projectSnapshotSessions codec sessions dashboardId).sessions.lookup sid) := by
  rw [lookup_projectSnapshotSessions]
  cases hlast : lastAnnounced sessions sid with
  | none => exact .inl rfl
  | some last =>
    have hid := id_of_lastAnnounced hlast
    have hmem : last ∈ sessions := by
      simpa using List.mem_of_find?_eq_some hlast
    refine .inr ⟨.inr ⟨last, hmem, hid⟩, ?_⟩
    rintro after ⟨⟩
    refine ⟨?_, .inr ⟨last.workerFp, .announced hmem, rfl⟩⟩
    show ((tables.sessions.lookup sid).getD _).id = sid.value
    cases hrow : tables.sessions.lookup sid with
    | some row => exact hkeyed sid row hrow
    | none =>
      cases hfirst : firstAnnounced sessions sid with
      | none => exact congrArg SessionId.value hid
      | some => exact congrArg SessionId.value (id_of_firstAnnounced hfirst)

theorem row_after_revise (hkeyed : RowsKeyed tables) {dashboardId : String}
    {updated : Option Session} {named : SessionId} (hnamed : event.sessionId = some named)
    (hopened : event.kindName ≠ "opened") (hclosed : event.kindName ≠ "closed")
    (hfold : tables.foldAndUpdateSession codec event dashboardId = .ok (updated, tables'))
    (sid : SessionId) : RowAfter event sid (tables.sessions.lookup sid)
      (tables'.sessions.lookup sid) := by
  simp only [foldAndUpdateSession, hnamed, loadSession, Except.bind_eq_ok] at hfold
  obtain ⟨_, hload, hfold⟩ := hfold
  cases hrow : tables.sessions.lookup named with
  | none =>
    rw [hrow] at hload
    cases hload
    cases hfold
    exact .inl rfl
  | some row =>
    rw [hrow] at hload
    dsimp only at hload
    cases hread : sessionFromRow codec row with
    | error => simp [hread, Except.map] at hload
    | ok sess =>
      rw [hread] at hload
      cases hload
      obtain ⟨hid, hworker⟩ := sessionFromRow_identity hread
      have hsame : sess.id = named :=
        SessionId.ext (hid.trans (hkeyed named row hrow))
      dsimp only at hfold
      rw [lookup_foldEvent_revise _ hnamed hopened hclosed, if_pos rfl, Table.lookup_insert,
        if_pos hsame.symm] at hfold
      cases hfold
      simp only [updateSessionRow, Session.id_revisedBy, hsame]
      rw [Table.lookup_modify]
      split
      · rename_i heq
        subst heq
        refine .inr ⟨.inl hnamed, ?_⟩
        rw [hrow]
        rintro after ⟨⟩
        refine ⟨hkeyed sid row hrow, .inl ⟨row, rfl, ?_⟩⟩
        exact (congrArg WorkerFp.value (Session.workerFp_revisedBy sess event)).trans hworker
      · exact .inl rfl

theorem project_row (hkeyed : RowsKeyed tables)
    (h : tables.project codec state admission caller = .ok (state', tables')) (sid : SessionId) :
    RowAfter state.event sid (tables.sessions.lookup sid) (tables'.sessions.lookup sid) := by
  unfold project at h
  split at h
  · rename_i hevent
    cases h
    rw [hevent]
    exact row_after_snapshot hkeyed _ _ _ _ _ _
  · rename_i named workerFp chan sessionKind cwd ts traceId hevent
    rw [hevent] at h ⊢
    have hfolded : (foldEvent ∅ (.opened named workerFp chan sessionKind cwd ts
        traceId)).lookup named = some (openedSession named workerFp chan sessionKind cwd ts) := by
      rw [foldEvent, Table.lookup_insert, if_pos rfl]
    rw [hfolded] at h
    have hrow : RowAfter (.opened named workerFp chan sessionKind cwd ts traceId) sid
        (tables.sessions.lookup sid)
        ((tables.insertOpenedSession codec (openedSession named workerFp chan sessionKind cwd ts)
          caller.dashboardId).2.sessions.lookup sid) := by
      unfold insertOpenedSession
      split
      · exact .inl rfl
      rw [Table.lookup_insert]
      split
      · rename_i heq
        refine .inr ⟨.inl (congrArg some heq.symm), ?_⟩
        rintro after ⟨⟩
        exact ⟨congrArg SessionId.value heq.symm, .inr ⟨workerFp, .opened, rfl⟩⟩
      · exact .inl rfl
    dsimp only at h
    split at h
    · cases h
      cases state.insertedId <;> exact hrow
    · cases h
      exact hrow
  · rename_i named _ _ _ hevent
    cases h
    show RowAfter _ _ _ (AList.lookup sid (tables.sessions.erase named))
    rw [hevent, Table.lookup_erase]
    split
    · rename_i heq
      exact .inr ⟨.inl (congrArg some heq.symm), fun _ hnone => by cases hnone⟩
    · exact .inl rfl
  · rename_i hsnapshot hopened hclosed
    have hkind : state.event.kindName ≠ "opened" ∧ state.event.kindName ≠ "closed" := by
      cases hevent : state.event with
      | opened => exact (hopened _ _ _ _ _ _ _ hevent).elim
      | closed => exact (hclosed _ _ _ _ hevent).elim
      | _ => exact ⟨by simp [SessionEvent.kindName], by simp [SessionEvent.kindName]⟩
    split at h
    · cases h
      exact .inl rfl
    rename_i named hnamed
    simp only [Except.bind_eq_ok, Except.mapError_eq_ok] at h
    obtain ⟨⟨updated, tables₁⟩, hfold, h⟩ := h
    have hrow := row_after_revise hkeyed hnamed hkind.1 hkind.2 hfold sid
    split at h
    · cases h
      exact hrow
    cases h
    split
    · rename_i workspaceId _ _ _
      cases workspaceId <;> exact hrow
    · exact hrow

/-! ## Transactions and runs -/

theorem Concerns.of_effective (h : Concerns (tables.effectiveEvent event) sid) :
    Concerns event sid := by
  cases event with
  | snapshot =>
    rcases h with hnone | ⟨session, hmem, hid⟩
    · cases hnone
    · exact .inr ⟨session, (List.mem_filter.mp hmem).1, hid⟩
  | _ => exact h

theorem Brings.of_effective {brought : WorkerFp} (h : Brings (tables.effectiveEvent event) brought) :
    Brings event brought := by
  cases event with
  | snapshot =>
    cases h with
    | announced hmem => exact .announced (List.mem_filter.mp hmem).1
  | _ => exact h

theorem RowAfter.keyed {row row' : Option (SessionRow Text)} (h : RowAfter event sid row row')
    (hkeyed : ∀ before, row = some before → before.id = sid.value) :
    ∀ after, row' = some after → after.id = sid.value := by
  rcases h with rfl | ⟨-, hafter⟩
  · exact hkeyed
  · exact fun after hrow => (hafter after hrow).1

variable {answers : TransactionAnswers}

theorem RowsKeyed.runInTransaction (hkeyed : RowsKeyed tables)
    (h : tables.runInTransaction codec event caller answers = .ok (state, tables')) :
    RowsKeyed tables' := by
  obtain ⟨-, -, -, rfl⟩ | ⟨-, -, rfl⟩ | ⟨-, -, -, -, hproj⟩ := runInTransaction_cases h
  · exact hkeyed
  · exact hkeyed
  have hlogged : RowsKeyed (tables.logged (tables.effectiveEvent event)
    (codec.event (tables.effectiveEvent event)) caller) := hkeyed
  intro sid
  exact (project_row hlogged hproj sid).keyed (hkeyed sid)

/-- A worker's transaction touches its own rows only. -/
theorem runInTransaction_owned (hkeyed : RowsKeyed tables)
    (hworker : caller.workerFp = some workerFp)
    (h : tables.runInTransaction codec event caller answers = .ok (state, tables'))
    (sid : SessionId) : tables'.sessions.lookup sid = tables.sessions.lookup sid ∨
      OwnedBy workerFp tables sid ∧ OwnedBy workerFp tables' sid := by
  obtain ⟨-, -, -, rfl⟩ | ⟨-, -, rfl⟩ | ⟨hadmits, hfresh, hrange, -, hproj⟩ :=
    runInTransaction_cases h
  · exact .inl rfl
  · exact .inl rfl
  have howns := (admits_owned hworker hfresh hrange hadmits).1
  have hlogged : RowsKeyed (tables.logged (tables.effectiveEvent event)
    (codec.event (tables.effectiveEvent event)) caller) := hkeyed
  rcases project_row hlogged hproj sid with hsame | ⟨hconcerns, hafter⟩
  · exact .inl hsame
  have hpre := howns.rows sid (Concerns.of_effective hconcerns)
  refine .inr ⟨hpre, ?_⟩
  intro after hrow
  obtain ⟨-, ⟨before, hheld, hsame⟩ | ⟨brought, hbrings, hsame⟩⟩ := hafter after hrow
  · exact hsame.trans (hpre before hheld)
  · rw [hsame, howns.brought brought (Brings.of_effective hbrings)]

/-- A refused event changes no table. -/
theorem runInTransaction_refused
    (h : tables.runInTransaction codec event caller answers = .ok (state, tables'))
    (href : state.admissionRejected = true) : tables' = tables ∧ state.publishable = false := by
  obtain ⟨-, -, hsilent, hsame⟩ | ⟨-, rfl, hsame⟩ | ⟨hadmits, hfresh, hrange, -, hproj⟩ :=
    runInTransaction_cases h
  · exact ⟨hsame, hsilent⟩
  · exact ⟨hsame, rfl⟩
  obtain ⟨-, _, _, rfl⟩ | ⟨-, -, -, -, hnew, sid, hnamed, hrow⟩ :=
    project_cases hproj
  · cases href
  -- The insert cannot have been lost: a row that is there was seen before.
  have hevent : event.sessionId = some sid := by
    cases event with
    | snapshot => cases hnamed
    | _ => exact hnamed
  rw [admits_exists hfresh hrange hadmits hevent hrow] at hnew
  cases hnew

section Runs

variable [DecidableEq Text]

theorem resolve_refused_live (log : EventLog Text) (call : Nat) (deliv : Delivery)
    (href : state.admissionRejected = true) (hsilent : state.publishable = false)
    (fence : Fence) : (log.resolve codec call deliv state fence).live = log.live := by
  simp only [resolve, CommittedState.publicationEffect, hsilent, href,
    resolvePublication, Bool.not_false, Bool.not_true, Bool.false_and, if_true]
  cases deliv.caller.reservation <;> simp [answer, reaps, unpublished]

theorem RowsKeyed.step {log : EventLog Text} (h : RowsKeyed log.tables) (step : Step) :
    RowsKeyed (log.step codec step).tables := by
  refine step_tables (P := RowsKeyed) h step (fun _ _ _ _ => h) ?_
  intro call deliv answers state tables _ _ hrun
  exact h.runInTransaction hrun

theorem rowsKeyed_run (codec : JsonCodec Text) (steps : List Step) :
    RowsKeyed ((appends codec).run .start steps).tables := by
  refine Transducer.invariant (P := fun log : EventLog Text => RowsKeyed log.tables) ?_ ?_ steps
  · intro sid row hrow
    cases hrow
  · intro log step hlog
    exact hlog.step step

def TransactedBy (workerFp : WorkerFp) (log : EventLog Text) : Step → Prop
  | .transact call _ => ∀ delivery, log.flights.lookup call = some (.reserved delivery) →
    delivery.caller.workerFp = some workerFp
  | _ => True

/-- A worker's own step leaves another's row alone. -/
theorem foreign_row_step {log : EventLog Text} (hkeyed : RowsKeyed log.tables) {step : Step}
    (hworker : TransactedBy workerFp log step) {row : SessionRow Text}
    (hrow : log.tables.sessions.lookup sid = some row) (hfor : row.workerFp ≠ workerFp.value) :
    (log.step codec step).tables.sessions.lookup sid = some row := by
  refine step_tables (P := fun tables => tables.sessions.lookup sid = some row) hrow
    step (fun _ _ _ _ => hrow) ?_
  intro call deliv answers state tables hstep hfly hrun
  subst hstep
  rcases runInTransaction_owned hkeyed (hworker deliv hfly) hrun sid with
    hsame | ⟨hown, -⟩
  · rw [hsame, hrow]
  · exact absurd (hown row hrow) hfor

/-- An event a worker delivers touches only sessions of that worker or of nobody, and leaves them
its own; a refused event changes no table and publishes nothing; and no run of one worker's
transactions touches the row of another's session. -/
theorem worker_touches_own_sessions (codec : JsonCodec Text) (steps : List Step) :
    (∀ call answers delivery workerFp state tables,
        ((appends codec).run .start steps).flights.lookup call = some (.reserved delivery) →
        ((appends codec).run .start steps).tables.runInTransaction codec delivery.event
          delivery.caller answers = .ok (state, tables) →
        (delivery.caller.workerFp = some workerFp → ∀ sid, tables.sessions.lookup sid ≠
            ((appends codec).run .start steps).tables.sessions.lookup sid →
          OwnedBy workerFp ((appends codec).run .start steps).tables sid ∧
            OwnedBy workerFp tables sid) ∧
        (state.admissionRejected = true → tables = ((appends codec).run .start steps).tables ∧
            ∀ (log : EventLog Text) fence,
              (log.resolve codec call delivery state fence).tables = log.tables ∧
                (log.resolve codec call delivery state fence).live = log.live)) ∧
      ∀ workerFp more,
        (appends codec).Along (TransactedBy workerFp) ((appends codec).run .start steps) more →
        ∀ sid row,
          ((appends codec).run .start steps).tables.sessions.lookup sid = some row →
          row.workerFp ≠ workerFp.value →
          ((appends codec).run ((appends codec).run .start steps) more).tables.sessions.lookup
            sid = some row := by
  have hkeyed := rowsKeyed_run codec steps
  refine ⟨?_, ?_⟩
  · intro call answers delivery workerFp state tables _ hrun
    refine ⟨?_, ?_⟩
    · intro hworker sid hchange
      exact (runInTransaction_owned hkeyed hworker hrun sid).resolve_left hchange
    intro href
    obtain ⟨hsame, hsilent⟩ := runInTransaction_refused hrun href
    refine ⟨hsame, fun log fence => ⟨resolve_tables state fence, ?_⟩⟩
    exact resolve_refused_live log call delivery href hsilent fence
  intro workerFp more halong sid row hrow hfor
  let kept (log : EventLog Text) : Prop :=
    RowsKeyed log.tables ∧ log.tables.sessions.lookup sid = some row
  have hkept : kept ((appends codec).run ((appends codec).run .start steps) more) := by
    refine halong.invariant (P := kept) ⟨hkeyed, hrow⟩ ?_
    intro log step hlog hworker
    exact ⟨hlog.1.step step, foreign_row_step hlog.1 hworker hlog.2 hfor⟩
  exact hkept.2

end Runs

end Roost.Coord.Events
