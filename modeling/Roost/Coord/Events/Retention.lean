-- SUMMARY: Slots and appends in flight: the effect of a sequence has one holder.
import Roost.Coord.Events.Publications

/-!
# Retention

A slot retains an effect only because an append that inserted a row lost its publication, and an
append is committed only by its own transaction. The effect of one sequence has one holder: the
append that inserted its row, or the slot.
-/

namespace Roost.Coord.Events

open EventLog Table Tables

variable {Text : Type} {codec : JsonCodec Text}

/-! ## Slots -/

def SlotRetains (store : PendingPublicationStore Text) (key : Reservation)
    (effect : RetainedPublication Text) : Prop :=
  ∃ slot, store.slots.lookup key = some slot ∧ Retains slot effect

section Slots

variable {store store' : PendingPublicationStore Text} {key other : Reservation}
  {effect effect' : RetainedPublication Text} {slot : PublicationSlot Text}

theorem lookup_reserve (h : store.reserve key = some store') : store'.slots.lookup other =
      if other = key then some ((store.slots.lookup key).getD (emptySlot key))
      else store.slots.lookup other := by
  unfold PendingPublicationStore.reserve at h
  split at h
  · cases h
  split at h
  · rename_i hheld
    cases h
    obtain ⟨_, hslot⟩ := Option.isSome_iff_exists.mp hheld
    split
    · rename_i heq
      rw [heq, hslot, Option.getD_some]
    · rfl
  · rename_i habsent
    cases h
    have hnone : store.slots.lookup key = none := by
      simpa [PendingPublicationStore.contains] using habsent
    rw [hnone, lookup_insert]
    rfl

theorem lookup_retain : (store.retain key effect).slots.lookup other = if other = key then
        (store.slots.lookup other).map fun slot =>
          { slot with state := .retained, effect := some effect }
      else store.slots.lookup other :=
  lookup_modify key other _

theorem lookup_release : (store.release key).slots.lookup other =
      if other = key then none else store.slots.lookup other :=
  lookup_erase key other

theorem slotRetains_of_reserve (hres : store.reserve key = some store')
    (h : SlotRetains store' other effect) : SlotRetains store other effect := by
  obtain ⟨slot, hslot, hret⟩ := h
  rw [lookup_reserve hres] at hslot
  split at hslot
  · rename_i heq
    cases hold : store.slots.lookup key with
    | none =>
      rw [hold] at hslot
      cases hslot
      exact absurd hret.1 (by simp [emptySlot])
    | some =>
      rw [hold] at hslot
      cases hslot
      exact ⟨_, heq ▸ hold, hret⟩
  · exact ⟨slot, hslot, hret⟩

theorem slotRetains_of_retain (h : SlotRetains (store.retain key effect') other effect) :
    (other = key ∧ effect = effect') ∨ SlotRetains store other effect := by
  obtain ⟨slot, hslot, hret⟩ := h
  rw [lookup_retain] at hslot
  split at hslot
  · rename_i heq
    obtain ⟨_, -, rfl⟩ := Option.map_eq_some_iff.mp hslot
    exact .inl ⟨heq, (Option.some.inj hret.2).symm⟩
  · exact .inr ⟨slot, hslot, hret⟩

theorem slotRetains_of_release (h : SlotRetains (store.release key) other effect) :
    SlotRetains store other effect := by
  obtain ⟨slot, hslot, hret⟩ := h
  rw [lookup_release] at hslot
  split at hslot
  · cases hslot
  · exact ⟨slot, hslot, hret⟩

theorem slotRetains_of_claimed
    (h : SlotRetains { slots := store.slots.insert key { slot with state := .claimed } } other
      effect) : SlotRetains store other effect := by
  obtain ⟨found, hfound, hret⟩ := h
  rw [lookup_insert] at hfound
  split at hfound
  · cases hfound
    exact absurd hret.1 (by simp)
  · exact ⟨found, hfound, hret⟩

theorem slotRetains_of_releaseReservation {caller : Caller}
    (h : SlotRetains (releaseReservation store caller) other effect) :
    SlotRetains store other effect := by
  unfold releaseReservation at h
  split at h
  · exact h
  · exact slotRetains_of_release h

variable {replayEventJson : Text} {fence : Fence} {caller : Caller} {deduplicated : Bool}
  {committedEffect : Option (CommittedEventPublication Text)} {resolved : Resolved Text}

theorem Resolves.slotRetains
    (h : Resolves codec caller store replayEventJson fence committedEffect deduplicated resolved)
    (hafter : SlotRetains resolved.store other effect) : SlotRetains store other effect ∨
      ∃ committed, committedEffect = some committed ∧ caller.reservation = some other ∧
        committed.retained caller.dashboardId = .ok effect := by
  cases h with
  | lost | outOfRange | unkeyed | mismatch => exact .inl hafter
  | retained hfence hkey hretained =>
    rcases slotRetains_of_retain hafter with ⟨rfl, rfl⟩ | hpre
    · exact .inr ⟨_, rfl, hkey, hretained⟩
    · exact .inl hpre
  | published => exact .inl (slotRetains_of_releaseReservation hafter)
  | released => exact .inl (slotRetains_of_release hafter)
  | undecodable => exact .inl (slotRetains_of_claimed hafter)
  | putBack hkey hslot hret =>
    rcases slotRetains_of_retain hafter with ⟨rfl, rfl⟩ | hpre
    · exact .inl ⟨_, hslot, hret⟩
    · exact .inl (slotRetains_of_claimed hpre)
  | claimed => exact .inl (slotRetains_of_claimed (slotRetains_of_release hafter))

end Slots

/-! ## Steps -/

namespace EventLog

variable {log : EventLog Text} {step : Step} {call other : Nat} {deliv : Delivery}
  {state : CommittedState Text} {key : Reservation} {effect : RetainedPublication Text}

theorem lookup_answer (result : Except AppendError AppendEventResult) :
    (log.answer call result).flights.lookup other =
      if other = call then none else log.flights.lookup other :=
  lookup_erase call other

theorem slotRetains_reserve
    (h : SlotRetains (log.reserve call deliv).pendingPublications key effect) :
    SlotRetains log.pendingPublications key effect := by
  unfold reserve at h
  split at h
  · exact h
  dsimp only at h
  split at h
  · exact h
  split at h
  · exact h
  · rename_i hres
    exact slotRetains_of_reserve hres h

theorem slotRetains_transact (answers : TransactionAnswers)
    (h : SlotRetains (log.transact codec call deliv answers).pendingPublications key effect) :
    SlotRetains log.pendingPublications key effect := by
  unfold transact at h
  split at h
  · exact h
  split at h
  · exact slotRetains_of_releaseReservation h
  · split at h
    · exact h
    · exact h

theorem committed_reserve
    (h : (log.reserve call deliv).flights.lookup other = some (.committed delivery' state)) :
    log.flights.lookup other = some (.committed delivery' state) := by
  have hended : ∀ result, (log.answer call result).flights.lookup other =
      some (.committed delivery' state) →
      log.flights.lookup other = some (.committed delivery' state) := by
    intro result hlook
    rw [lookup_answer] at hlook
    split at hlook
    · cases hlook
    · exact hlook
  have hins : ∀ reserved : Delivery,
      AList.lookup other (log.flights.insert call (.reserved reserved)) =
        some (.committed delivery' state) →
      log.flights.lookup other = some (.committed delivery' state) := by
    intro reserved hlook
    rw [lookup_insert] at hlook
    split at hlook
    · cases hlook
    · exact hlook
  unfold reserve at h
  split at h
  · exact hended _ h
  dsimp only at h
  split at h
  · exact hins _ h
  · split at h
    · exact hended _ h
    · exact hins _ h

theorem committed_transact {answers : TransactionAnswers} {delivery' : Delivery}
    (h : (log.transact codec call deliv answers).flights.lookup other =
      some (.committed delivery' state)) :
    log.flights.lookup other = some (.committed delivery' state) ∨
      (other = call ∧ delivery' = deliv ∧ answers.begins = true ∧ answers.commits = true ∧
        log.tables.runInTransaction codec deliv.event deliv.caller answers =
          .ok (state, (log.transact codec call deliv answers).tables)) := by
  have hended : ∀ (log' : EventLog Text) result, log'.flights = log.flights →
      (log'.answer call result).flights.lookup other = some (.committed delivery' state) →
      log.flights.lookup other = some (.committed delivery' state) := by
    intro log' result hflights hlook
    rw [lookup_answer, hflights] at hlook
    split at hlook
    · cases hlook
    · exact hlook
  unfold transact at h ⊢
  split at h
  · exact .inl (hended _ _ rfl h)
  rename_i hbegins
  rw [if_neg hbegins]
  split at h
  · exact .inl (hended { log with
      pendingPublications := releaseReservation log.pendingPublications deliv.caller } _ rfl h)
  rename_i hrun
  split at h
  · exact .inl (hended _ _ rfl h)
  rename_i hcommits
  rw [lookup_insert] at h
  split at h
  · rename_i heq
    cases h
    refine .inr ⟨heq, rfl, by simpa using hbegins, by simpa using hcommits, ?_⟩
    rw [if_neg hcommits]
    exact hrun
  · exact .inl h

variable [DecidableEq Text]

theorem resolve_pendingPublications (fence : Fence) :
    (log.resolve codec call deliv state fence).pendingPublications =
      (resolvePublication codec (state.publicationEffect deliv.caller.workerFp)
        (!state.admissionRejected && state.insertedId.isNone) state.eventJson deliv.caller
        log.pendingPublications fence).store := by
  unfold resolve
  dsimp only
  split <;> rfl

theorem resolve_flights (fence : Fence) :
    (log.resolve codec call deliv state fence).flights = log.flights.erase call := by
  unfold resolve
  dsimp only
  split <;> rfl

/-- A retained effect was retained before or just resolved. -/
theorem step_slotRetains (h : SlotRetains (log.step codec step).pendingPublications key effect) :
    SlotRetains log.pendingPublications key effect ∨
      ∃ call fence deliv state committed, step = .resolve call fence ∧
        log.flights.lookup call = some (.committed deliv state) ∧
        deliv.caller.reservation = some key ∧
        state.publicationEffect deliv.caller.workerFp = some committed ∧
        committed.retained deliv.caller.dashboardId = .ok effect := by
  cases step with
  | reserve =>
    simp only [step] at h
    split at h
    · exact .inl (slotRetains_reserve h)
    · exact .inl h
  | transact call answers =>
    simp only [step] at h
    split at h
    · exact .inl (slotRetains_transact answers h)
    · exact .inl h
  | resolve call fence =>
    simp only [step] at h
    split at h
    · rename_i deliv state hfly
      rw [resolve_pendingPublications] at h
      rcases (resolves codec _ _ _ _ _ _).slotRetains h with hpre | ⟨committed, hcommit, hkey, hretained⟩
      · exact .inl hpre
      · exact .inr ⟨call, fence, deliv, state, committed, rfl, hfly, hkey, hcommit, hretained⟩
    · exact .inl h
  | world => exact .inl h

/-- A committed flight was committed before or just transacted. -/
theorem step_committed
    (h : (log.step codec step).flights.lookup call = some (.committed deliv state)) :
    log.flights.lookup call = some (.committed deliv state) ∨
      ∃ answers, step = .transact call answers ∧ log.flights.lookup call = some (.reserved deliv) ∧
        answers.begins = true ∧ answers.commits = true ∧
        log.tables.runInTransaction codec deliv.event deliv.caller answers =
          .ok (state, (log.step codec step).tables) := by
  cases step with
  | reserve =>
    simp only [step] at h
    split at h
    · exact .inl (committed_reserve h)
    · exact .inl h
  | transact called answers =>
    simp only [step] at h ⊢
    split at h
    · rename_i hfly
      rcases committed_transact h with hpre | ⟨rfl, rfl, hbegins, hcommits, hrun⟩
      · exact .inl hpre
      · rw [hfly]
        exact .inr ⟨answers, rfl, rfl, hbegins, hcommits, hrun⟩
    · exact .inl h
  | resolve =>
    simp only [step] at h
    split at h
    · rw [resolve_flights, lookup_erase] at h
      split at h
      · cases h
      · exact .inl h
    · exact .inl h
  | world => exact .inl h

end EventLog

/-! ## One holder -/

section Transactions

variable {tables tables' : Tables Text} {event : SessionEvent} {caller : Caller}
  {answers : TransactionAnswers} {state : CommittedState Text} {key : Reservation}

theorem holds_of_reservation (h : caller.reservation = some key) :
    tables.holds caller = tables.delivered key.workerFp key.clientSeq := by
  simp [holds, h]

theorem runInTransaction_inserts
    (h : tables.runInTransaction codec event caller answers = .ok (state, tables'))
    (hins : state.insertedId.isSome = true) :
    tables.holds caller = false ∧ state.admissionRejected = false ∧
      state.insertedId = some (tables.eventSequence + 1) ∧ tables.eventSequence < i64Max := by
  obtain ⟨-, hnone, -⟩ | ⟨-, rfl, -⟩ | ⟨-, hfresh, -, hroom, hproj⟩ :=
    runInTransaction_cases h
  · rw [hnone] at hins
    cases hins
  · cases hins
  · obtain ⟨-, _, _, rfl⟩ | ⟨rfl, -⟩ := project_cases hproj
    · exact ⟨hfresh, rfl, rfl, hroom⟩
    · cases hins

theorem runInTransaction_eventJson
    (h : tables.runInTransaction codec event caller answers = .ok (state, tables'))
    (hadmitted : state.admissionRejected = false) :
    state.eventJson = codec.event (tables.effectiveEvent event) := by
  obtain ⟨hreject, -⟩ | ⟨-, rfl, -⟩ | ⟨-, -, -, -, hproj⟩ := runInTransaction_cases h
  · rw [hadmitted] at hreject
    cases hreject
  · rfl
  · obtain ⟨-, _, _, rfl⟩ | ⟨rfl, -⟩ := project_cases hproj
    · rfl
    · cases hadmitted

end Transactions

variable {state : CommittedState Text}

theorem publicationEffect_eq_some {fp : Option WorkerFp}
    {committed : CommittedEventPublication Text} (h : state.publicationEffect fp = some committed) :
    state.publishable = true ∧ state.insertedId = some committed.eventId ∧
      committed.eventJson = state.eventJson := by
  unfold CommittedState.publicationEffect at h
  split at h
  · cases h
  · rename_i hpublish
    obtain ⟨_, hid, rfl⟩ := Option.map_eq_some_iff.mp h
    exact ⟨by simpa using hpublish, hid, rfl⟩

/-- What a slot retains and what a committed append admitted is in the log, and the effect of one
sequence is with one append or in its slot. -/
structure Grounded (log : EventLog Text) : Prop where
  ascending : Ascending log.tables
  retained : ∀ key effect, SlotRetains log.pendingPublications key effect →
    log.tables.delivered key.workerFp key.clientSeq = true
  admitted : ∀ call delivery state key, log.flights.lookup call = some (.committed delivery state) →
    delivery.caller.reservation = some key → state.admissionRejected = false →
    log.tables.delivered key.workerFp key.clientSeq = true
  decided : ∀ call delivery state, log.flights.lookup call = some (.committed delivery state) →
    state.insertedId.isSome = true → state.admissionRejected = false
  once : ∀ call call' delivery delivery' state state' key,
    log.flights.lookup call = some (.committed delivery state) →
    log.flights.lookup call' = some (.committed delivery' state') →
    delivery.caller.reservation = some key → delivery'.caller.reservation = some key →
    state.insertedId.isSome = true → state'.insertedId.isSome = true → call = call'
  apart : ∀ key effect call delivery state, SlotRetains log.pendingPublications key effect →
    log.flights.lookup call = some (.committed delivery state) →
    delivery.caller.reservation = some key → state.insertedId = none

theorem Grounded.start : Grounded (.start : EventLog Text) where
  ascending := .start
  retained := by rintro key effect ⟨slot, hslot, -⟩; cases hslot
  admitted := by intro call deliv state key h; cases h
  decided := by intro call deliv state h; cases h
  once := by intro call call' deliv delivery' state state' key h; cases h
  apart := by rintro key effect call deliv state ⟨slot, hslot, -⟩; cases hslot

theorem Grounded.inserted {log : EventLog Text} (h : Grounded log) {call : Nat} {deliv : Delivery}
    {key : Reservation}
    (hfly : log.flights.lookup call = some (.committed deliv state))
    (hkey : deliv.caller.reservation = some key) (hid : state.insertedId.isSome = true) :
    log.tables.delivered key.workerFp key.clientSeq = true :=
  h.admitted call deliv state key hfly hkey (h.decided call deliv state hfly hid)

section Runs

variable [DecidableEq Text] {log : EventLog Text}

/-- A step keeps every retained effect grounded in the log. -/
theorem Grounded.step (h : Grounded log) (step : Step) : Grounded (log.step codec step) := by
  have hkept {key : Reservation} (hdel : log.tables.delivered key.workerFp key.clientSeq = true)
      (step : Step) : (log.step codec step).tables.delivered key.workerFp key.clientSeq = true :=
    delivered_step h.ascending hdel step
  have hfresh {tables : Tables Text} {deliv : Delivery} {state : CommittedState Text}
      {answers : TransactionAnswers} {key : Reservation}
      (hrun : log.tables.runInTransaction codec deliv.event deliv.caller answers =
        .ok (state, tables))
      (hkey : deliv.caller.reservation = some key) (hid : state.insertedId.isSome = true) :
      ¬ log.tables.delivered key.workerFp key.clientSeq = true := by
    obtain ⟨hholds, -⟩ := runInTransaction_inserts hrun hid
    rw [holds_of_reservation hkey] at hholds
    simp [hholds]
  refine ⟨h.ascending.step step, ?retained, ?admitted, ?decided, ?once, ?apart⟩
  case retained =>
    intro key effect hret
    rcases step_slotRetains hret with hpre |
      ⟨call, fence, deliv, state, committed, rfl, hfly, hkey, hcommit, -⟩
    · exact hkept (h.retained key effect hpre) step
    · have hid := (publicationEffect_eq_some hcommit).2.1
      exact hkept (h.inserted hfly hkey (by simp [hid])) _
  case admitted =>
    intro call deliv state key hfly hkey hadmitted
    rcases step_committed hfly with hpre | ⟨answers, rfl, -, -, -, hrun⟩
    · exact hkept (h.admitted call deliv state key hpre hkey hadmitted) step
    · exact runInTransaction_delivers hkey hrun hadmitted
  case decided =>
    intro call deliv state hfly hid
    rcases step_committed hfly with hpre | ⟨answers, rfl, -, -, -, hrun⟩
    · exact h.decided call deliv state hpre hid
    · exact (runInTransaction_inserts hrun hid).2.1
  case once =>
    intro call call' deliv delivery' state state' key hfly hfly' hkey hkey' hid hid'
    rcases step_committed hfly with hpre | ⟨answers, hstep, -, -, -, hrun⟩ <;>
    rcases step_committed hfly' with hpre' | ⟨answers', hstep', -, -, -, hrun'⟩
    · exact h.once call call' deliv delivery' state state' key hpre hpre' hkey hkey' hid hid'
    · exact absurd (h.inserted hpre hkey hid) (hfresh hrun' hkey' hid')
    · exact absurd (h.inserted hpre' hkey' hid') (hfresh hrun hkey hid)
    · rw [hstep] at hstep'
      cases hstep'
      rfl
  case apart =>
    intro key effect call deliv state hret hfly hkey
    by_contra hid
    have hsome : state.insertedId.isSome = true := Option.isSome_iff_ne_none.mpr hid
    rcases step_slotRetains hret with hpre |
      ⟨call', fence, delivery', state', committed, rfl, hfly', hkey', hcommit, -⟩
    · rcases step_committed hfly with hpre' | ⟨answers, -, -, -, -, hrun⟩
      · exact hid (h.apart key effect call deliv state hpre hpre' hkey)
      · exact hfresh hrun hkey hsome (h.retained key effect hpre)
    rcases step_committed hfly with hpre' | ⟨answers, hstep, -⟩
    · have hid' := (publicationEffect_eq_some hcommit).2.1
      have hsame := h.once call call' deliv delivery' state state' key hpre' hfly' hkey
        hkey' hsome (by simp [hid'])
      rw [hsame] at hfly
      simp only [EventLog.step, hfly'] at hfly
      rw [resolve_flights, lookup_erase, if_pos rfl] at hfly
      cases hfly
    · cases hstep

theorem grounded_run (codec : JsonCodec Text) (steps : List Step) :
    Grounded ((appends codec).run .start steps) := by
  refine Transducer.invariant (P := Grounded) .start ?_ steps
  intro log step h
  exact h.step step

/-- An append in flight that inserted the row of its reservation is the only one that did, the log
has the delivery, and no slot retains its effect. -/
def InsertsOnce (log : EventLog Text) : Prop :=
  ∀ call deliv state key, log.flights.lookup call = some (.committed deliv state) →
    deliv.caller.reservation = some key → state.insertedId.isSome = true →
      log.tables.delivered key.workerFp key.clientSeq = true ∧
      (∀ effect, ¬SlotRetains log.pendingPublications key effect) ∧
      ∀ call' deliv' state', log.flights.lookup call' = some (.committed deliv' state') →
        deliv'.caller.reservation = some key → state'.insertedId.isSome = true → call' = call

/-- In every run a client sequence is inserted once at most. -/
theorem sequence_inserted_once (codec : JsonCodec Text) (steps : List Step) :
    InsertsOnce ((appends codec).run .start steps) := by
  intro call deliv state key hfly hkey hid
  have h := grounded_run codec steps
  refine ⟨h.inserted hfly hkey hid, fun effect hret => ?_, fun call' deliv' state' hfly' hkey' hid' =>
    h.once call' call deliv' deliv state' state key hfly' hfly hkey' hkey hid' hid⟩
  have hnone := h.apart key effect call deliv state hret hfly hkey
  simp [hnone] at hid

end Runs

end Roost.Coord.Events
