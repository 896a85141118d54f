-- SUMMARY: When a worker's resent payload stays the one that was committed.
import Roost.Coord.Events.Retention

/-!
# Honest replays

A replay is compared by the text of its effective event, and the effective event depends on the
log: a `closed` that is logged between two deliveries of one snapshot takes its session out of the
second. While no such `closed` is logged the two texts agree.
-/

namespace Roost.Coord.Events

open SessionEvent Tables Transducer

variable {Text : Type} {codec : JsonCodec Text}

/-! ## The effective event -/

section Tombstones

variable {tables tables' : Tables Text} {event : SessionEvent} {caller : Caller}
  {answers : TransactionAnswers} {state : CommittedState Text} {sid : SessionId}

theorem mem_forceClosedIds : sid ∈ tables.forceClosedIds event ↔
      tables.forceClosed sid = true ∧ sid ∈ event.announced.map (·.id) := by
  cases event with
  | snapshot fp sessions ts traceId =>
    simp only [forceClosedIds, forceClosed, announced,
      List.mem_filterMap, List.any_eq_true, decide_eq_true_eq]
    constructor
    · rintro ⟨row, hrow, hid⟩
      split at hid
      · rename_i hclosed
        obtain ⟨hkind, hany⟩ := hclosed
        rw [hid, Option.any_some, decide_eq_true_eq] at hany
        exact ⟨⟨row, hrow, hkind, hid⟩, hany⟩
      · cases hid
    · rintro ⟨⟨row, hrow, hkind, hid⟩, hann⟩
      refine ⟨row, hrow, ?_⟩
      rw [if_pos ⟨hkind, by rw [hid, Option.any_some, decide_eq_true_eq]; exact hann⟩]
      exact hid
  | _ => simp [forceClosedIds, announced]

theorem effectiveEvent_congr (h : ∀ sess ∈ event.announced,
    tables'.forceClosed sess.id = tables.forceClosed sess.id) :
    tables'.effectiveEvent event = tables.effectiveEvent event := by
  cases event with
  | snapshot fp sessions ts traceId =>
    have hkept : ∀ sess ∈ sessions,
        decide (sess.id ∉ tables'.forceClosedIds (.snapshot fp sessions ts traceId)) =
          decide (sess.id ∉ tables.forceClosedIds (.snapshot fp sessions ts traceId)) := by
      intro sess hsess
      refine decide_eq_decide.mpr (not_congr ?_)
      rw [mem_forceClosedIds, mem_forceClosedIds, h sess hsess]
    simp only [effectiveEvent]
    rw [List.filter_congr hkept]
  | _ => rfl

theorem kindName_effectiveEvent : (tables.effectiveEvent event).kindName = event.kindName := by
  cases event <;> rfl

theorem sessionId_effectiveEvent : (tables.effectiveEvent event).sessionId = event.sessionId := by
  cases event <;> rfl

theorem forceClosed_runInTransaction (hascends : Ascending tables)
    (h : tables.runInTransaction codec event caller answers = .ok (state, tables'))
    (hkept : tables.admits event caller = true → tables.holds caller = false →
      event.kindName = "closed" → event.sessionId = some sid →
      tables.forceClosed sid = true) :
    tables'.forceClosed sid = tables.forceClosed sid := by
  obtain ⟨hevents, -⟩ | ⟨hadmits, hfresh, hlog, -⟩ := runInTransaction_log hascends h
  · rw [forceClosed, hevents]
    rfl
  have hrow : tables'.forceClosed sid = (tables.forceClosed sid ||
      decide (event.kindName = "closed" ∧ event.sessionId = some sid)) := by
    rw [forceClosed, hlog.events]
    simp only [logged, List.any_append, List.any_cons, List.any_nil, Bool.or_false,
      kindName_effectiveEvent, sessionId_effectiveEvent]
    rfl
  rw [hrow]
  by_cases hclosed : event.kindName = "closed" ∧ event.sessionId = some sid
  · rw [hkept hadmits hfresh hclosed.1 hclosed.2]
    rfl
  · rw [decide_eq_false hclosed, Bool.or_false]

end Tombstones

/-! ## Replays -/

/-- A call's transaction that commits the row of its event. -/
def InsertsCall (codec : JsonCodec Text) (log : EventLog Text) (call : Nat)
    (answers : TransactionAnswers) (delivery : Delivery) : Prop :=
  log.flights.lookup call = some (.reserved delivery) ∧ answers.begins = true ∧
    answers.commits = true ∧ ∃ state tables,
      log.tables.runInTransaction codec delivery.event delivery.caller answers =
        .ok (state, tables) ∧ state.insertedId.isSome = true

/-- A step that logs no `closed` of a session the event announces, unless a `closed` of it is in
the log already. -/
def KeepsTombstones (event : SessionEvent) (log : EventLog Text) : Step → Prop
  | .transact call answers => ∀ delivery, log.flights.lookup call = some (.reserved delivery) →
    answers.begins = true → answers.commits = true →
    log.tables.admits delivery.event delivery.caller = true →
    log.tables.holds delivery.caller = false → delivery.event.kindName = "closed" →
    ∀ session ∈ event.announced, delivery.event.sessionId = some session.id →
      log.tables.forceClosed session.id = true
  | _ => True

structure Replays (codec : JsonCodec Text) (event : SessionEvent) (key : Reservation)
    (eventJson : Text) (log : EventLog Text) : Prop where
  grounded : Grounded log
  delivered : log.tables.delivered key.workerFp key.clientSeq = true
  effective : codec.event (log.tables.effectiveEvent event) = eventJson
  retained : ∀ effect, SlotRetains log.pendingPublications key effect → effect.eventJson = eventJson
  committed : ∀ call delivery state, log.flights.lookup call = some (.committed delivery state) →
    delivery.caller.reservation = some key →
    (state.insertedId.isSome = true ∨
      delivery.event = event ∧ state.admissionRejected = false) → state.eventJson = eventJson

section Runs

variable [DecidableEq Text] {log : EventLog Text} {event : SessionEvent} {key : Reservation}
  {eventJson : Text}

theorem effectiveEvent_step (hascends : Ascending log.tables) {step : Step}
    (h : KeepsTombstones event log step) :
    (log.step codec step).tables.effectiveEvent event = log.tables.effectiveEvent event := by
  refine effectiveEvent_congr fun sess hsess => ?_
  cases step with
  | reserve =>
    simp only [EventLog.step]
    split
    · rw [EventLog.reserve_tables]
    · rfl
  | transact call answers =>
    simp only [EventLog.step]
    split
    · rename_i deliv hfly
      by_cases hdone : answers.begins = true ∧ answers.commits = true
      · rcases EventLog.transact_tables codec log call deliv answers with hsame | ⟨state, hrun⟩
        · rw [hsame]
        · refine forceClosed_runInTransaction hascends hrun ?_
          intro hadmits hfresh hkind hid
          exact h deliv hfly hdone.1 hdone.2 hadmits hfresh hkind sess hsess hid
      have hsame : (log.transact codec call deliv answers).tables = log.tables := by
        unfold EventLog.transact
        split
        · rfl
        split
        · rfl
        split
        · rfl
        · rename_i hbegins _ _ _ _ hcommits
          exact absurd ⟨by simpa using hbegins, by simpa using hcommits⟩ hdone
      rw [hsame]
    · rfl
  | resolve =>
    simp only [EventLog.step]
    split
    · rw [EventLog.resolve_tables]
    · rfl
  | world => rfl

/-- While tombstones are kept, the replay stays the one retained. -/
theorem Replays.step (h : Replays codec event key eventJson log) {step : Step}
    (hkeeps : KeepsTombstones event log step) :
    Replays codec event key eventJson (log.step codec step) where
  grounded := h.grounded.step step
  delivered := delivered_step h.grounded.ascending h.delivered step
  effective := by rw [effectiveEvent_step h.grounded.ascending hkeeps, h.effective]
  retained := by
    intro eff hret
    rcases EventLog.step_slotRetains hret with hpre |
      ⟨call, fence, deliv, state, committed, rfl, hfly, hkey, hcommit, hretained⟩
    · exact h.retained eff hpre
    obtain ⟨-, hid, hjson⟩ := publicationEffect_eq_some hcommit
    have heff : eff.eventJson = committed.eventJson := by
      simp only [CommittedEventPublication.retained, Except.ite_error_eq_ok] at hretained
      cases hretained.2
      rfl
    rw [heff, hjson]
    exact h.committed call deliv state hfly hkey (.inl (by simp [hid]))
  committed := by
    intro call deliv state hfly hkey hwhich
    rcases EventLog.step_committed hfly with hpre | ⟨answers, rfl, -, -, -, hrun⟩
    · exact h.committed call deliv state hpre hkey hwhich
    rcases hwhich with hid | ⟨rfl, hadmitted⟩
    · obtain ⟨hholds, -⟩ := runInTransaction_inserts hrun hid
      rw [holds_of_reservation hkey, h.delivered] at hholds
      cases hholds
    · rw [runInTransaction_eventJson hrun hadmitted, h.effective]

variable {call : Nat} {deliv : Delivery} {answers : TransactionAnswers}

/-- An inserted delivery replays as itself. -/
theorem Replays.of_inserts
    (hground : Grounded log) (hinserts : InsertsCall codec log call answers deliv)
    (hkey : deliv.caller.reservation = some key) :
    Replays codec deliv.event key (codec.event (log.tables.effectiveEvent deliv.event))
      (log.step codec (.transact call answers)) := by
  obtain ⟨hfly, hbegins, hcommits, _, tables, hrun, hid⟩ := hinserts
  obtain ⟨hholds, hadmitted, -⟩ := runInTransaction_inserts hrun hid
  rw [holds_of_reservation hkey] at hholds
  have hfresh : ¬ log.tables.delivered key.workerFp key.clientSeq = true := by simp [hholds]
  have htables : (log.step codec (.transact call answers)).tables = tables := by
    simp [EventLog.step, hfly, EventLog.transact, hbegins, hcommits, hrun]
  have hkeeps : KeepsTombstones deliv.event log (.transact call answers) := by
    intro delivery' hfly' _ _ _ _ hkind sess hsess _
    rw [hfly] at hfly'
    cases hfly'
    obtain ⟨_, _, _, _, hclosed⟩ := kindName_closed hkind
    rw [hclosed] at hsess
    cases hsess
  refine ⟨hground.step _, ?delivered, ?effective, ?retained, ?committed⟩
  case delivered =>
    rw [htables]
    exact runInTransaction_delivers hkey hrun hadmitted
  case effective => rw [effectiveEvent_step hground.ascending hkeeps]
  case retained =>
    intro eff hret
    rcases EventLog.step_slotRetains hret with hpre | ⟨_, _, _, _, _, hstep, -⟩
    · exact absurd (hground.retained key eff hpre) hfresh
    · cases hstep
  case committed =>
    intro call' delivery' state' hfly' hkey' hwhich
    rcases EventLog.step_committed hfly' with hpre | ⟨answers', hstep, hreserved, -, -, hrun'⟩
    · have hdel : log.tables.delivered key.workerFp key.clientSeq = true := by
        rcases hwhich with hins | ⟨-, hadmitted'⟩
        · exact hground.inserted hpre hkey' hins
        · exact hground.admitted call' delivery' state' key hpre hkey' hadmitted'
      exact absurd hdel hfresh
    cases hstep
    rw [hfly] at hreserved
    cases hreserved
    have hadmitted' : state'.admissionRejected = false := by
      rcases hwhich with hins | ⟨-, hadmitted'⟩
      · exact (runInTransaction_inserts hrun' hins).2.1
      · exact hadmitted'
    exact runInTransaction_eventJson hrun' hadmitted'

variable {state : CommittedState Text}

/-- An honest replay is not rejected. -/
theorem Replays.resolve {resolution : PublicationResolution Text} (fence : Fence)
    (h : Replays codec event key eventJson log)
    (hfly : log.flights.lookup call = some (.committed deliv state))
    (hevent : deliv.event = event) (hkey : deliv.caller.reservation = some key)
    (hres : (resolvePublication codec (state.publicationEffect deliv.caller.workerFp)
      (!state.admissionRejected && state.insertedId.isNone) state.eventJson deliv.caller
      log.pendingPublications fence).resolution = .ok resolution) :
    resolution.replayRejected = false := by
  generalize hded : (!state.admissionRejected && state.insertedId.isNone) = deduplicated
    at hres
  generalize hcommit : state.publicationEffect deliv.caller.workerFp = committedEffect
    at hres
  have hresolve := resolves codec committedEffect deduplicated state.eventJson deliv.caller
    log.pendingPublications fence
  generalize resolvePublication codec committedEffect deduplicated state.eventJson deliv.caller
    log.pendingPublications fence = resolved at hres hresolve
  cases hresolve with
  | outOfRange | undecodable => cases hres
  | lost | retained | published | unkeyed | released | putBack | claimed =>
    cases hres
    rfl
  | mismatch hkey' hslot hret hpayload =>
    rw [hkey] at hkey'
    cases hkey'
    have hadmitted : state.admissionRejected = false := by
      simpa using (Bool.and_eq_true_iff.mp hded).1
    have hreplay := h.committed call deliv state hfly hkey (.inr ⟨hevent, hadmitted⟩)
    exact absurd ((h.retained _ ⟨_, hslot, hret⟩).trans hreplay.symm) hpayload

variable (codec)

theorem answers_step_resolve
    (fence : Fence) (hfly : log.flights.lookup call = some (.committed deliv state)) :
    ∃ result, (log.step codec (.resolve call fence)).answers = log.answers ++ [(call, result)] ∧
      ∀ decided, result = .ok decided → ∃ resolution,
        (resolvePublication codec (state.publicationEffect deliv.caller.workerFp)
          (!state.admissionRejected && state.insertedId.isNone) state.eventJson deliv.caller
          log.pendingPublications fence).resolution = .ok resolution ∧
        decided.replayRejected = resolution.replayRejected := by
  simp only [EventLog.step, hfly, EventLog.resolve]
  cases hresol : (resolvePublication codec (state.publicationEffect deliv.caller.workerFp)
      (!state.admissionRejected && state.insertedId.isNone) state.eventJson deliv.caller
      log.pendingPublications fence).resolution with
  | error error => exact ⟨.error error, rfl, fun _ h => by cases h⟩
  | ok resolution =>
    refine ⟨.ok (buildResult state resolution), rfl, ?_⟩
    rintro decided ⟨⟩
    exact ⟨resolution, rfl, rfl⟩

/-- No append of the event under the key that is committed is answered as a violation. -/
def AcceptsReplays (log : EventLog Text) (event : SessionEvent)
    (key : Reservation) : Prop :=
  ∀ replay delivery state fence,
    log.flights.lookup replay = some (.committed delivery state) → delivery.event = event →
    delivery.caller.reservation = some key →
    ∃ result, (log.step codec (.resolve replay fence)).answers = log.answers ++ [(replay, result)] ∧
      ∀ decided, result = .ok decided → decided.replayRejected = false

/-- Once the row of an event is committed, and while no `closed` of a session it announces is
logged, no delivery of the same event under the same key is answered as a violation. -/
theorem honest_replay_accepted (early later : List Step) {call : Nat}
    {delivery : Delivery} {key : Reservation}
    (hinserts : InsertsCall codec ((appends codec).run .start early) call answers delivery)
    (hkey : delivery.caller.reservation = some key)
    (hkeeps : (appends codec).Along (KeepsTombstones delivery.event)
      ((appends codec).run .start (early ++ [.transact call answers])) later) :
    AcceptsReplays codec ((appends codec).run .start (early ++ .transact call answers :: later))
      delivery.event key := by
  have hreplays : Replays codec delivery.event key
      (codec.event (((appends codec).run .start early).tables.effectiveEvent delivery.event))
      ((appends codec).run .start (early ++ .transact call answers :: later)) := by
    rw [List.append_cons, run_append]
    refine hkeeps.invariant ?_ ?_
    · rw [run_concat, appends_next]
      exact .of_inserts (grounded_run codec early) hinserts hkey
    · intro log step h hkept
      exact h.step hkept
  intro replay delivery' state fence hfly hevent hkey'
  obtain ⟨result, hanswer, hresult⟩ := answers_step_resolve codec fence hfly
  refine ⟨result, hanswer, ?_⟩
  intro decided hdec
  obtain ⟨_, hres, hsame⟩ := hresult decided hdec
  rw [hsame]
  exact hreplays.resolve fence hfly hevent hkey' hres

end Runs

/-! ## A snapshot resent across a close -/

/-- The lone worker announces its session under sequence 1. -/
def announcement : Delivery where
  event := .snapshot loneWorker
    [openedSession loneSession loneWorker { asU32 := 1 } .shell "/first" 1] 1 none
  caller := .worker loneWorker 1 "main"
  deferSnapshotReap := true

/-- The coordinator closes the session. -/
def closure : Delivery where
  event := .closed loneSession (some 0) 2 none
  caller := .coordinator "main"
  deferSnapshotReap := false

def reserving : List Step := [.world [loneWorker] [] [], .reserve 1 announcement]

/-- The announcement loses its publication and is sent again. -/
def resending : List Step :=
  [.resolve 1 { first := false, second := false }, .reserve 3 announcement, .transact 3 .plain]

/-- The announcement loses its publication, its session is closed, and it is sent again. -/
def resendingClosed : List Step :=
  [.resolve 1 { first := false, second := false }, .reserve 2 closure, .transact 2 .plain,
    .resolve 2 { first := true, second := true }, .reserve 3 announcement, .transact 3 .plain]

def loneKey : Reservation := { workerFp := loneWorker, clientSeq := 1 }

/-- Whether an append has committed and not yet resolved. -/
def Flight.hasCommitted {Text : Type} : Flight Text → Bool
  | .reserved _ => false
  | .committed _ _ => true

theorem announcement_inserts : InsertsCall .verbatim
    ((appends .verbatim).run .start reserving) 1 .plain announcement := by
  refine ⟨rfl, rfl, rfl, ?_⟩
  have hid : (((appends .verbatim).run .start reserving).tables.runInTransaction .verbatim
      announcement.event announcement.caller .plain).toOption.map (·.1.insertedId) =
        some (some 1) := by
    decide +kernel
  obtain ⟨⟨state, tables⟩, hrun, hid⟩ := Option.map_eq_some_iff.mp hid
  exact ⟨state, tables, Except.toOption_eq_some.mp hrun, by rw [hid]; rfl⟩

/-- The worker that resends its announcement before the session is closed. -/
theorem resent_announcement_accepted : AcceptsReplays .verbatim
      ((appends .verbatim).run .start (reserving ++ .transact 1 .plain :: resending))
      announcement.event loneKey := by
  have hkeeps : (appends .verbatim).Along (KeepsTombstones announcement.event)
      ((appends .verbatim).run .start (reserving ++ [.transact 1 .plain])) resending := by
    refine ⟨trivial, trivial, ?_, trivial⟩
    intro delivery hfly _ _ _ _ hkind
    have hsnapshot : (((appends .verbatim).run .start (reserving ++ [.transact 1 .plain] ++
        resending.take 2)).flights.lookup 3).map (·.delivery.event.kindName) =
          some "snapshot" := by
      decide +kernel
    have hsame := hsnapshot.symm.trans (congrArg (Option.map (·.delivery.event.kindName)) hfly)
    rw [Option.map_some, Flight.delivery, hkind] at hsame
    exact absurd (Option.some.inj hsame) (by decide)
  exact honest_replay_accepted .verbatim reserving resending announcement_inserts rfl hkeeps

/-- The worker resends what it sent, and the close in between makes it a violation. -/
theorem resent_announcement_rejected :
    InsertsCall .verbatim ((appends .verbatim).run .start reserving) 1 .plain announcement ∧
      ¬ AcceptsReplays .verbatim
        ((appends .verbatim).run .start (reserving ++ .transact 1 .plain :: resendingClosed))
        announcement.event loneKey := by
  refine ⟨announcement_inserts, fun hacc => ?_⟩
  have hreplay : (((appends .verbatim).run .start (reserving ++ .transact 1 .plain ::
      resendingClosed)).flights.lookup 3).map (fun flight =>
        (flight.delivery.event, flight.delivery.caller, flight.hasCommitted)) =
        some (announcement.event, announcement.caller, true) := by
    decide +kernel
  obtain ⟨flight, hfly, hsame⟩ := Option.map_eq_some_iff.mp hreplay
  obtain ⟨delivery⟩ | ⟨delivery, state⟩ := flight
  · cases congrArg (·.2.2) hsame
  have hevent : delivery.event = announcement.event := congrArg (·.1) hsame
  have hcaller : delivery.caller = announcement.caller := congrArg (·.2.1) hsame
  obtain ⟨result, hanswer, hdec⟩ := hacc 3 delivery state
    { first := true, second := true } hfly hevent (by rw [hcaller]; rfl)
  have hreject : (((appends .verbatim).run .start (reserving ++ .transact 1 .plain ::
      resendingClosed ++ [.resolve 3 { first := true, second := true }])).answers.map
        fun answer => answer.2.toOption.map (·.replayRejected)) =
        [some false, some false] ++ [some true] := by
    decide +kernel
  rw [run_concat, appends_next, hanswer, List.map_append] at hreject
  have hlast := (List.append_inj' hreject rfl).2
  rw [List.map_singleton, List.cons.injEq] at hlast
  obtain ⟨decided, hresult, htrue⟩ := Option.map_eq_some_iff.mp hlast.1
  rw [hdec decided (Except.toOption_eq_some.mp hresult)] at htrue
  cases htrue

end Roost.Coord.Events
