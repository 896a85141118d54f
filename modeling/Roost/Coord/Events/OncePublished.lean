-- SUMMARY: When a committed effect is published exactly once.
import Roost.Coord.Events.HonestReplay

/-!
# Published once

A committed effect waits with its append or in its slot until a delivery of the same text publishes
it, while no append gives the slot back that another one needs. Every way of giving a slot back
without publishing (a failed transaction, a refused event, a closed fence, a claim that finds
nothing) can take the slot of somebody else's effect.
-/

namespace Roost.Coord.Events

open CommittedEventPublication Table Transducer

variable {Text : Type} {codec : JsonCodec Text}

/-! ## What a slot is there for -/

/-- An append that may yet have an effect to retain: its sequence is not in the log, or it has
committed an effect. -/
def Flight.Needs (flight : Flight Text) (tables : Tables Text) (key : Reservation) : Prop :=
  flight.delivery.caller.reservation = some key ∧
    match flight with
    | .reserved _ => tables.delivered key.workerFp key.clientSeq = false
    | .committed delivery state =>
      (state.publicationEffect delivery.caller.workerFp).isSome = true

/-- The slot of a key retains an effect, or another append may yet need it. -/
def AtStake (log : EventLog Text) (call : Nat) (key : Reservation) : Prop :=
  (∃ effect, SlotRetains log.pendingPublications key effect) ∨
    ∃ other flight, other ≠ call ∧ log.flights.lookup other = some flight ∧
      flight.Needs log.tables key

/-- A resolution that does not reach the claim: the event was refused or inserted, the fence is
closed, or the slot retains nothing. -/
def SkipsClaim (log : EventLog Text) (key : Reservation) (state : CommittedState Text)
    (fence : Fence) : Prop :=
  state.admissionRejected = true ∨ state.insertedId.isSome = true ∨ fence.first = false ∨
    ∀ effect, ¬ SlotRetains log.pendingPublications key effect

/-- A step that does not give back a slot at stake: neither a transaction that fails does, nor an
append without an effect of its own that skips the claim. -/
def Spares (codec : JsonCodec Text) (log : EventLog Text) : Step → Prop
  | .transact call answers => ∀ delivery key error,
    log.flights.lookup call = some (.reserved delivery) →
    delivery.caller.reservation = some key → answers.begins = true →
    log.tables.runInTransaction codec delivery.event delivery.caller answers = .error error →
    ¬ AtStake log call key
  | .resolve call fence => ∀ delivery state key,
    log.flights.lookup call = some (.committed delivery state) →
    delivery.caller.reservation = some key →
    state.publicationEffect delivery.caller.workerFp = none →
    SkipsClaim log key state fence → ¬ AtStake log call key
  | _ => True

/-! ## Slots across an operation -/

section Slots

variable {store store' : PendingPublicationStore Text} {key other : Reservation}
  {effect effect' : RetainedPublication Text} {slot : PublicationSlot Text}
  {replayEventJson : Text} {fence : Fence} {caller : Caller} {deduplicated : Bool}
  {committedEffect : Option (CommittedEventPublication Text)} {res : Resolved Text}

section

variable (h : SlotRetains store other effect)
include h

theorem SlotRetains.reserve
    (hreserve : store.reserve key = some store') : SlotRetains store' other effect := by
  obtain ⟨slot, hslot, hret⟩ := h
  refine ⟨slot, ?_, hret⟩
  rw [lookup_reserve hreserve]
  split
  · rename_i heq
    rw [← heq, hslot, Option.getD_some]
  · exact hslot

theorem SlotRetains.release (hne : other ≠ key) : SlotRetains (store.release key) other effect := by
  obtain ⟨slot, hslot, hret⟩ := h
  exact ⟨slot, by rw [lookup_release, if_neg hne, hslot], hret⟩

theorem SlotRetains.retain (hne : other ≠ key) :
    SlotRetains (store.retain key effect') other effect := by
  obtain ⟨slot, hslot, hret⟩ := h
  exact ⟨slot, by rw [lookup_retain, if_neg hne, hslot], hret⟩

theorem SlotRetains.claimed (hne : other ≠ key) :
    SlotRetains { slots := store.slots.insert key slot } other effect := by
  obtain ⟨found, hfound, hret⟩ := h
  exact ⟨found, by rw [lookup_insert, if_neg hne, hfound], hret⟩

end

theorem slotRetains_retain (hslot : (store.slots.lookup key).isSome = true) :
    SlotRetains (store.retain key effect) key effect := by
  obtain ⟨slot, hslot⟩ := Option.isSome_iff_exists.mp hslot
  refine ⟨{ slot with state := .retained, effect := some effect }, ?_, rfl, rfl⟩
  rw [lookup_retain, if_pos rfl, hslot]
  rfl

theorem SlotRetains.unique (h : SlotRetains store key effect)
    (h' : SlotRetains store key effect') : effect = effect' := by
  obtain ⟨_, hslot, -, heff⟩ := h
  obtain ⟨_, hslot', -, heff'⟩ := h'
  rw [hslot] at hslot'
  cases hslot'
  rw [heff] at heff'
  exact Option.some.inj heff'

theorem Resolves.keeps_retained
    (h : Resolves codec caller store replayEventJson fence committedEffect deduplicated res)
    (hpre : SlotRetains store other effect) :
    SlotRetains res.store other effect ∨ (caller.reservation = some other ∧
        (committedEffect.isSome = true ∨
          (committedEffect = none ∧ (deduplicated = false ∨ fence.first = false)) ∨
          (∃ error, fromClaimed codec effect other.workerFp = .error error) ∨
          ∃ published, fromClaimed codec effect other.workerFp =
            .ok published ∧ res.live = published.publish)) := by
  cases h with
  | lost | outOfRange | unkeyed | mismatch => exact .inl hpre
  | @retained effect' _ key _ _ hkey =>
    by_cases heq : other = key
    · exact .inr ⟨heq ▸ hkey, .inl rfl⟩
    · exact .inl (hpre.retain heq)
  | published =>
    cases hkey : caller.reservation with
    | none =>
      simp only [releaseReservation, hkey]
      exact .inl hpre
    | some key =>
      simp only [releaseReservation, hkey]
      by_cases heq : other = key
      · exact .inr ⟨heq ▸ rfl, .inl rfl⟩
      · exact .inl (hpre.release heq)
  | @released _ key hkey hwhy =>
    by_cases heq : other = key
    · subst heq
      obtain ⟨slot, hslot, hret⟩ := hpre
      rcases hwhy with hduplicate | hfence | hnothing
      · exact .inr ⟨hkey, .inr (.inl ⟨rfl, .inl hduplicate⟩)⟩
      · exact .inr ⟨hkey, .inr (.inl ⟨rfl, .inr hfence⟩)⟩
      · exact absurd hret (hnothing slot effect hslot)
    · exact .inl (hpre.release heq)
  | @undecodable key slot effect' error hkey hslot hret hclaim =>
    by_cases heq : other = key
    · subst heq
      have hsame : effect = effect' := hpre.unique ⟨slot, hslot, hret⟩
      subst hsame
      exact .inr ⟨hkey, .inr (.inr (.inl ⟨error, hclaim⟩))⟩
    · exact .inl (hpre.claimed heq)
  | @putBack key slot effect' published hkey hslot hret =>
    by_cases heq : other = key
    · subst heq
      have hsame : effect = effect' := hpre.unique ⟨slot, hslot, hret⟩
      subst hsame
      refine .inl (slotRetains_retain ?_)
      rw [lookup_insert, if_pos rfl]
      rfl
    · exact .inl ((hpre.claimed heq).retain heq)
  | @claimed key slot effect' published hkey hslot hret hclaim =>
    by_cases heq : other = key
    · subst heq
      have hsame : effect = effect' := hpre.unique ⟨slot, hslot, hret⟩
      subst hsame
      exact .inr ⟨hkey, .inr (.inr (.inr ⟨published, hclaim, rfl⟩))⟩
    · exact .inl ((hpre.claimed heq).release heq)

theorem Resolves.keeps_slot
    (h : Resolves codec caller store replayEventJson fence committedEffect deduplicated res)
    (hslot : (store.slots.lookup other).isSome = true) :
    (res.store.slots.lookup other).isSome = true ∨ (caller.reservation = some other ∧
        (committedEffect.isSome = true ∨ (∃ eff, SlotRetains store other eff) ∨
          (committedEffect = none ∧ (deduplicated = false ∨ fence.first = false ∨
            ∀ eff, ¬ SlotRetains store other eff)))) := by
  have hins (key : Reservation) (slot : PublicationSlot Text) :
      (AList.lookup other (store.slots.insert key slot)).isSome = true := by
    rw [lookup_insert]
    split
    · rfl
    · exact hslot
  cases h with
  | lost | outOfRange | unkeyed | mismatch => exact .inl hslot
  | retained =>
    refine .inl ?_
    rw [lookup_retain]
    split
    · simpa using hslot
    · exact hslot
  | published =>
    cases hkey : caller.reservation with
    | none =>
      simp only [releaseReservation, hkey]
      exact .inl hslot
    | some key =>
      simp only [releaseReservation, hkey, lookup_release]
      by_cases heq : other = key
      · exact .inr ⟨heq ▸ rfl, .inl rfl⟩
      · rw [if_neg heq]
        exact .inl hslot
  | @released _ key hkey hwhy =>
    by_cases heq : other = key
    · subst heq
      refine .inr ⟨hkey, .inr (.inr ⟨rfl, ?_⟩)⟩
      rcases hwhy with hduplicate | hfence | hnothing
      · exact .inl hduplicate
      · exact .inr (.inl hfence)
      · refine .inr (.inr ?_)
        rintro eff ⟨slot, hfound, hret⟩
        exact hnothing slot eff hfound hret
    · refine .inl ?_
      rw [lookup_release, if_neg heq]
      exact hslot
  | undecodable => exact .inl (hins _ _)
  | putBack =>
    refine .inl ?_
    dsimp only
    rw [lookup_retain]
    split
    · simpa using hins _ _
    · exact hins _ _
  | @claimed key slot eff _ hkey hfound hret =>
    by_cases heq : other = key
    · subst heq
      exact .inr ⟨hkey, .inr (.inl ⟨eff, slot, hfound, hret⟩)⟩
    refine .inl ?_
    dsimp only
    rw [lookup_release, if_neg heq]
    exact hins _ _

end Slots

/-! ## A slot for every append that may need one -/

section Held

variable {log : EventLog Text} {call other : Nat} {delivery : Delivery}
  {state : CommittedState Text} {key : Reservation} {effect : RetainedPublication Text}

theorem Flight.Needs.of_later {flight : Flight Text} {tables tables' : Tables Text}
    (h : flight.Needs tables' key) (hkept : tables.delivered key.workerFp key.clientSeq = true →
      tables'.delivered key.workerFp key.clientSeq = true) : flight.Needs tables key := by
  refine ⟨h.1, ?_⟩
  have hneeds := h.2
  cases flight with
  | reserved =>
    cases hpre : tables.delivered key.workerFp key.clientSeq with
    | false => exact rfl
    | true =>
      have hafter := hkept hpre
      exact absurd (hneeds.symm.trans hafter) (by simp)
  | committed => exact hneeds

/-- Every append that may need its slot has one. -/
def SlotsHeld (log : EventLog Text) : Prop :=
  ∀ call flight key, log.flights.lookup call = some flight → flight.Needs log.tables key →
    (log.pendingPublications.slots.lookup key).isSome = true

theorem SlotsHeld.start : SlotsHeld (.start : EventLog Text) := by
  intro call flight key h
  cases h

theorem SlotsHeld.answer (h : SlotsHeld log) (result : Except AppendError AppendEventResult) :
    SlotsHeld (log.answer call result) := by
  intro other flight key hfly hneeds
  rw [EventLog.lookup_answer] at hfly
  split at hfly
  · cases hfly
  · exact h other flight key hfly hneeds

theorem SlotsHeld.reserve (h : SlotsHeld log) (call : Nat) (deliv : Delivery) :
    SlotsHeld (log.reserve call deliv) := by
  unfold EventLog.reserve
  split
  · exact h.answer _
  dsimp only
  split
  · rename_i hnone
    intro other flight key hfly hneeds
    rw [lookup_insert] at hfly
    split at hfly
    · cases hfly
      have hkey := hneeds.1
      dsimp only [Flight.delivery] at hkey
      rw [hnone] at hkey
      cases hkey
    · exact h other flight key hfly hneeds
  rename_i hreserved
  split
  · exact h.answer _
  rename_i hstore
  intro other flight key hfly hneeds
  rw [lookup_reserve hstore]
  split
  · rfl
  rename_i hne
  rw [lookup_insert] at hfly
  split at hfly
  · cases hfly
    have hkey := hneeds.1
    dsimp only [Flight.delivery] at hkey
    rw [hreserved] at hkey
    exact absurd (Option.some.inj hkey).symm hne
  · exact h other flight key hfly hneeds

theorem SlotsHeld.transact (h : SlotsHeld log) (hascends : Ascending log.tables)
    (hfly : log.flights.lookup call = some (.reserved delivery)) (answers : TransactionAnswers)
    (hspares : Spares codec log (.transact call answers)) :
    SlotsHeld (log.transact codec call delivery answers) := by
  unfold EventLog.transact
  split
  · exact h.answer _
  rename_i hbegins
  split
  · rename_i error hrun
    intro other flight key hother hneeds
    rw [EventLog.lookup_answer] at hother
    split at hother
    · cases hother
    rename_i hne
    have hslot := h other flight key hother hneeds
    dsimp only [EventLog.answer]
    cases hkey : delivery.caller.reservation with
    | none =>
      simp only [releaseReservation, hkey]
      exact hslot
    | some reserved =>
      simp only [releaseReservation, hkey, lookup_release]
      by_cases heq : key = reserved
      · refine absurd (.inr ⟨other, flight, hne, hother, ?_⟩)
          (hspares delivery reserved error hfly hkey (by simpa using hbegins) hrun)
        exact heq ▸ hneeds
      · rw [if_neg heq]
        exact hslot
  · rename_i tables hrun
    split
    · exact h.answer _
    intro other flight key hother hneeds
    have hpre {flight : Flight Text} (hneeds : flight.Needs tables key) :
        flight.Needs log.tables key :=
      hneeds.of_later (delivered_runInTransaction hascends hrun)
    rw [lookup_insert] at hother
    split at hother
    · cases hother
      obtain ⟨hkey, heff⟩ := hneeds
      dsimp only [Flight.delivery] at hkey heff
      obtain ⟨_, heff⟩ := Option.isSome_iff_exists.mp heff
      have hid := (publicationEffect_eq_some heff).2.1
      obtain ⟨hfresh, -⟩ := runInTransaction_inserts hrun (by simp [hid])
      rw [holds_of_reservation hkey] at hfresh
      exact h call _ key hfly ⟨hkey, hfresh⟩
    · exact h other flight key hother (hpre hneeds)

section Resolve

variable [DecidableEq Text]

theorem SlotsHeld.resolve (h : SlotsHeld log) (hground : Grounded log)
    (hfly : log.flights.lookup call = some (.committed delivery state)) (fence : Fence)
    (hspares : Spares codec log (.resolve call fence)) :
    SlotsHeld (log.resolve codec call delivery state fence) := by
  intro other flight key hother hneeds
  rw [EventLog.resolve_flights, lookup_erase] at hother
  rw [EventLog.resolve_tables] at hneeds
  split at hother
  · cases hother
  rename_i hne
  have hslot := h other flight key hother hneeds
  rw [EventLog.resolve_pendingPublications]
  rcases (resolves codec (state.publicationEffect delivery.caller.workerFp)
      (!state.admissionRejected && state.insertedId.isNone) state.eventJson delivery.caller
      log.pendingPublications fence).keeps_slot hslot with hkept | ⟨hkey, hgone⟩
  · exact hkept
  -- The key is the resolved one: nothing else of it may need the slot.
  exfalso
  have hother_needs : ∀ delivered : log.tables.delivered key.workerFp key.clientSeq = true,
      (∀ delivery' state', flight = .committed delivery' state' →
        state'.insertedId = none) → False := by
    intro hdel hnone
    cases flight with
    | reserved =>
      have hfresh := hneeds.2
      rw [hdel] at hfresh
      cases hfresh
    | committed delivery' state' =>
      obtain ⟨_, heff⟩ := Option.isSome_iff_exists.mp hneeds.2
      have hid := (publicationEffect_eq_some heff).2.1
      rw [hnone delivery' state' rfl] at hid
      cases hid
  rcases hgone with heff | ⟨eff, hret⟩ | ⟨hnone, hwhy⟩
  · obtain ⟨_, heff⟩ := Option.isSome_iff_exists.mp heff
    have hid : state.insertedId.isSome = true := by
      rw [(publicationEffect_eq_some heff).2.1]
      rfl
    refine hother_needs (hground.inserted hfly hkey hid) ?_
    rintro delivery' state' rfl
    by_contra hsome
    exact hne (hground.once other call delivery' delivery state' state key hother hfly
      hneeds.1 hkey (Option.isSome_iff_ne_none.mpr hsome) hid)
  · refine hother_needs (hground.retained key eff hret) ?_
    rintro delivery' state' rfl
    exact hground.apart key eff other delivery' state' hret hother hneeds.1
  · refine hspares delivery state key hfly hkey hnone ?_ (.inr ⟨other, flight, hne, hother, hneeds⟩)
    rcases hwhy with hduplicate | hfence | hnothing
    · rcases Bool.and_eq_false_iff.mp hduplicate with hreject | hins
      · exact .inl (by simpa using hreject)
      · exact .inr (.inl (by simpa using hins))
    · exact .inr (.inr (.inl hfence))
    · exact .inr (.inr (.inr hnothing))

/-- A spared slot keeps its effect. -/
theorem SlotsHeld.step (h : SlotsHeld log) (hground : Grounded log) {step : Step}
    (hspares : Spares codec log step) : SlotsHeld (log.step codec step) := by
  cases step with
  | reserve call deliv =>
    simp only [EventLog.step]
    split
    · exact h.reserve call deliv
    · exact h
  | transact call answers =>
    simp only [EventLog.step]
    split
    · rename_i hfly
      exact h.transact hground.ascending hfly answers hspares
    · exact h
  | resolve call fence =>
    simp only [EventLog.step]
    split
    · rename_i hfly
      exact h.resolve hground hfly fence hspares
    · exact h
  | world => exact h

end Resolve

/-! ## Where a committed effect is -/

/-- A committed append with a publishable effect, and the form its slot would retain. -/
structure Commits (codec : JsonCodec Text) (delivery : Delivery) (state : CommittedState Text)
    (key : Reservation) (committed : CommittedEventPublication Text)
    (effect : RetainedPublication Text) : Prop where
  keyed : delivery.caller.reservation = some key
  publishes : state.publicationEffect delivery.caller.workerFp = some committed
  retains : committed.retained delivery.caller.dashboardId = .ok effect
  decodes : ∃ published, fromClaimed codec effect key.workerFp = .ok published

/-- An effect is with its append, in its slot, or published. -/
def Waits (call : Nat) (delivery : Delivery) (state : CommittedState Text) (key : Reservation)
    (eventId : Nat) (effect : RetainedPublication Text) (log : EventLog Text) : Prop :=
  log.flights.lookup call = some (.committed delivery state) ∨
    SlotRetains log.pendingPublications key effect ∨ 0 < publishedCount eventId log.live

namespace EventLog

theorem lookup_reserve_ne (hne : other ≠ call) :
    (log.reserve call delivery).flights.lookup other = log.flights.lookup other := by
  unfold reserve
  split
  · rw [lookup_answer, if_neg hne]
  dsimp only
  split
  · dsimp only
    rw [lookup_insert, if_neg hne]
  split
  · rw [lookup_answer, if_neg hne]
  · dsimp only
    rw [lookup_insert, if_neg hne]

theorem lookup_transact_ne (answers : TransactionAnswers) (hne : other ≠ call) :
    (log.transact codec call delivery answers).flights.lookup other = log.flights.lookup other := by
  unfold transact
  split
  · rw [lookup_answer, if_neg hne]
  split
  · rw [lookup_answer, if_neg hne]
  split
  · rw [lookup_answer, if_neg hne]
  · dsimp only
    rw [lookup_insert, if_neg hne]

theorem live_reserve : (log.reserve call delivery).live = log.live := by
  unfold reserve
  split
  · rfl
  dsimp only
  split
  · rfl
  · split <;> rfl

theorem live_transact (answers : TransactionAnswers) :
    (log.transact codec call delivery answers).live = log.live := by
  unfold transact
  split
  · rfl
  · split
    · rfl
    · split <;> rfl

theorem reserve_slotRetains (h : SlotRetains log.pendingPublications key effect) :
    SlotRetains (log.reserve call delivery).pendingPublications key effect := by
  unfold reserve
  split
  · exact h
  dsimp only
  split
  · exact h
  split
  · exact h
  · rename_i hreserve
    exact h.reserve hreserve

theorem transact_slotRetains (answers : TransactionAnswers)
    (hfly : log.flights.lookup call = some (.reserved delivery))
    (hspares : Spares codec log (.transact call answers))
    (h : SlotRetains log.pendingPublications key effect) :
    SlotRetains (log.transact codec call delivery answers).pendingPublications key effect := by
  unfold transact
  split
  · exact h
  rename_i hbegins
  split
  · rename_i error hrun
    cases hkey : delivery.caller.reservation with
    | none =>
      simp only [releaseReservation, hkey]
      exact h
    | some reserved =>
      simp only [releaseReservation, hkey]
      by_cases heq : key = reserved
      · refine absurd (.inl ⟨effect, ?_⟩)
          (hspares delivery reserved error hfly hkey (by simpa using hbegins) hrun)
        exact heq ▸ h
      · exact h.release heq
  · split <;> exact h

theorem publishedCount_resolve [DecidableEq Text] (eventId : Nat) (fence : Fence) :
    publishedCount eventId (log.resolve codec call delivery state fence).live =
      publishedCount eventId log.live + publishedCount eventId (resolvePublication codec
          (state.publicationEffect delivery.caller.workerFp)
          (!state.admissionRejected && state.insertedId.isNone) state.eventJson delivery.caller
          log.pendingPublications fence).live := by
  unfold resolve
  dsimp only
  split
  · exact publishedCount_append _ _ _
  · dsimp only [EventLog.answer]
    rw [publishedCount_append, publishedCount_reaps, publishedCount_append, Nat.add_zero]

end EventLog

variable {done : CommittedEventPublication Text}

theorem Commits.eventId (h : Commits codec delivery state key done effect) :
    effect.eventId = (done.eventId : Int) := by
  have hretained := h.retains
  simp only [retained, Except.ite_error_eq_ok] at hretained
  cases hretained.2
  rfl

section Runs

variable [DecidableEq Text]

section

variable (h : Commits codec delivery state key done effect)
include h

theorem Waits.of_own (hslots : SlotsHeld log)
    (hfly : log.flights.lookup call = some (.committed delivery state)) (fence : Fence) :
    Waits call delivery state key done.eventId effect
      (log.resolve codec call delivery state fence) := by
  have hneeds : (Flight.committed delivery state).Needs log.tables key :=
    ⟨h.keyed, by dsimp only; rw [h.publishes]; rfl⟩
  have hslot := hslots call _ key hfly hneeds
  have hresolve := resolves codec (state.publicationEffect delivery.caller.workerFp)
    (!state.admissionRejected && state.insertedId.isNone) state.eventJson delivery.caller
    log.pendingPublications fence
  have hcount : publishedCount done.eventId
      (log.resolve codec call delivery state fence).live = _ :=
    EventLog.publishedCount_resolve done.eventId fence
  have hstore : (log.resolve codec call delivery state fence).pendingPublications = _ :=
    EventLog.resolve_pendingPublications fence
  rw [h.publishes] at hresolve hcount hstore
  generalize resolvePublication codec (some done)
    (!state.admissionRejected && state.insertedId.isNone) state.eventJson delivery.caller
    log.pendingPublications fence = res at hresolve hcount hstore
  cases hresolve with
  | lost hfence hnone =>
    rw [h.keyed] at hnone
    cases hnone
  | outOfRange hfence hkey hretained =>
    rw [h.retains] at hretained
    cases hretained
  | retained hfence hkey hretained =>
    rw [h.keyed] at hkey
    cases hkey
    rw [h.retains] at hretained
    cases hretained
    refine .inr (.inl ?_)
    rw [hstore]
    exact slotRetains_retain hslot
  | published =>
    refine .inr (.inr ?_)
    rw [hcount]
    rw [publishedCount_publish, if_pos rfl]
    exact Nat.succ_pos _

variable {state' : CommittedState Text}

theorem Waits.of_retained (hground : Grounded log) {resolver : Nat} {delivery' : Delivery}
    (hfly : log.flights.lookup resolver = some (.committed delivery' state')) (fence : Fence)
    (hspares : Spares codec log (.resolve resolver fence))
    (hret : SlotRetains log.pendingPublications key effect) :
    SlotRetains (log.resolve codec resolver delivery' state' fence).pendingPublications key effect ∨
      0 < publishedCount done.eventId (log.resolve codec resolver delivery' state' fence).live := by
  rw [EventLog.resolve_pendingPublications, EventLog.publishedCount_resolve]
  rcases (resolves codec (state'.publicationEffect delivery'.caller.workerFp)
      (!state'.admissionRejected && state'.insertedId.isNone) state'.eventJson delivery'.caller
      log.pendingPublications fence).keeps_retained hret with hkept |
    ⟨hkey, hsome | ⟨hnone, hwhy⟩ | ⟨error, herror⟩ | ⟨published, hclaim, hlive⟩⟩
  · exact .inl hkept
  · obtain ⟨_, hown⟩ := Option.isSome_iff_exists.mp hsome
    have hid := (publicationEffect_eq_some hown).2.1
    rw [hground.apart key effect resolver delivery' state' hret hfly hkey] at hid
    cases hid
  · refine absurd (.inl ⟨effect, hret⟩) (hspares delivery' state' key hfly hkey hnone ?_)
    rcases hwhy with hduplicate | hfence
    · rcases Bool.and_eq_false_iff.mp hduplicate with hreject | hins
      · exact .inl (by simpa using hreject)
      · exact .inr (.inl (by simpa using hins))
    · exact .inr (.inr (.inl hfence))
  · obtain ⟨_, hclaim⟩ := h.decodes
    rw [hclaim] at herror
    cases herror
  · refine .inr ?_
    have hid : published.eventId = done.eventId :=
      Int.natCast_inj.mp ((fromClaimed_eventId hclaim).symm.trans h.eventId)
    rw [hlive, publishedCount_publish, if_pos hid]
    exact Nat.succ_pos _

/-- A committed effect waits until its call resolves. -/
theorem Waits.step (hground : Grounded log) (hslots : SlotsHeld log) {step : Step}
    (hspares : Spares codec log step)
    (hwaits : Waits call delivery state key done.eventId effect log) :
    Waits call delivery state key done.eventId effect (log.step codec step) := by
  cases step with
  | reserve called delivery' =>
    simp only [EventLog.step]
    split
    · rename_i hfree
      rcases hwaits with hfly | hret | hpublish
      · refine .inl ?_
        rw [EventLog.lookup_reserve_ne, hfly]
        rintro rfl
        rw [hfree] at hfly
        cases hfly
      · exact .inr (.inl (EventLog.reserve_slotRetains hret))
      · exact .inr (.inr (by rw [EventLog.live_reserve]; exact hpublish))
    · exact hwaits
  | transact called answers =>
    simp only [EventLog.step]
    split
    · rename_i hreserved
      rcases hwaits with hfly | hret | hpublish
      · refine .inl ?_
        rw [EventLog.lookup_transact_ne, hfly]
        rintro rfl
        rw [hreserved] at hfly
        cases hfly
      · exact .inr (.inl (EventLog.transact_slotRetains answers hreserved hspares hret))
      · exact .inr (.inr (by rw [EventLog.live_transact]; exact hpublish))
    · exact hwaits
  | resolve called fence =>
    simp only [EventLog.step]
    split
    · rename_i hres
      rcases hwaits with hfly | hret | hpublish
      · by_cases heq : call = called
        · subst heq
          rw [hfly] at hres
          cases hres
          exact .of_own h hslots hfly fence
        · exact .inl (by rw [EventLog.resolve_flights, lookup_erase, if_neg heq, hfly])
      · exact .inr (Waits.of_retained h hground hres fence hspares hret)
      · refine .inr (.inr ?_)
        rw [EventLog.publishedCount_resolve]
        exact Nat.add_pos_left hpublish _
    · exact hwaits
  | world => exact hwaits

theorem Commits.claim {replay : Nat} {delivery' : Delivery}
    (hkey : delivery'.caller.reservation = some key) (hadmitted : state'.admissionRejected = false)
    (hid : state'.insertedId = none) (hjson : state'.eventJson = effect.eventJson)
    (hret : SlotRetains log.pendingPublications key effect) : 0 < publishedCount done.eventId
      (log.resolve codec replay delivery' state' { first := true, second := true }).live := by
  have hcount : publishedCount done.eventId
      (log.resolve codec replay delivery' state' { first := true, second := true }).live = _ :=
    EventLog.publishedCount_resolve done.eventId _
  have hnone : state'.publicationEffect delivery'.caller.workerFp = none := by
    simp [CommittedState.publicationEffect, hid]
  have hduplicate : (!state'.admissionRejected && state'.insertedId.isNone) = true := by
    simp [hadmitted, hid]
  rw [hcount, hnone, hduplicate]
  have hresolve := resolves codec none true state'.eventJson delivery'.caller
    log.pendingPublications { first := true, second := true }
  generalize resolvePublication codec none true state'.eventJson delivery'.caller
    log.pendingPublications { first := true, second := true } = res at hresolve ⊢
  obtain ⟨slot, hslot, hslot_retains⟩ := hret
  cases hresolve with
  | unkeyed hunkey =>
    rw [hkey] at hunkey
    cases hunkey
  | released hkey' hwhy =>
    rw [hkey] at hkey'
    cases hkey'
    rcases hwhy with hfirst | hfence | hnothing
    · cases hfirst
    · cases hfence
    · exact absurd hslot_retains (hnothing slot effect hslot)
  | mismatch hkey' hslot' hret' hpayload =>
    rw [hkey] at hkey'
    cases hkey'
    have hsame : effect = _ := SlotRetains.unique ⟨slot, hslot, hslot_retains⟩ ⟨_, hslot', hret'⟩
    exact absurd (hsame ▸ hjson.symm) hpayload
  | undecodable hkey' hslot' hret' hclaim =>
    rw [hkey] at hkey'
    cases hkey'
    have hsame : effect = _ := SlotRetains.unique ⟨slot, hslot, hslot_retains⟩ ⟨_, hslot', hret'⟩
    subst hsame
    obtain ⟨_, hdec⟩ := h.decodes
    rw [hdec] at hclaim
    cases hclaim
  | putBack hkey' hslot' hret' hclaim hfence => cases hfence
  | claimed hkey' hslot' hret' hclaim =>
    rw [hkey] at hkey'
    cases hkey'
    have hsame : effect = _ := SlotRetains.unique ⟨slot, hslot, hslot_retains⟩ ⟨_, hslot', hret'⟩
    subst hsame
    rw [publishedCount_publish,
      if_pos (Int.natCast_inj.mp ((fromClaimed_eventId hclaim).symm.trans h.eventId))]
    exact Nat.succ_pos _

end

omit [DecidableEq Text] in
theorem Commits.of_transaction {tables tables' : Tables Text} {answers : TransactionAnswers}
    (hrun : tables.runInTransaction codec delivery.event delivery.caller answers =
      .ok (state, tables')) (hkey : delivery.caller.reservation = some key)
    (hcommit : state.publicationEffect delivery.caller.workerFp = some done) :
    ∃ effect, Commits codec delivery state key done effect := by
  obtain ⟨-, hid, hjson⟩ := publicationEffect_eq_some hcommit
  obtain ⟨-, hadmitted, hnext, hroom⟩ := runInTransaction_inserts hrun (by simp [hid])
  have hrange : ¬ i64Max < done.eventId := by
    have hsame := Option.some.inj (hid.symm.trans hnext)
    omega
  have htext : codec.decodeEvent done.eventJson = .ok (tables.effectiveEvent delivery.event) := by
    rw [hjson, runInTransaction_eventJson hrun hadmitted, codec.decode_event]
  refine ⟨_, hkey, hcommit, by rw [retained, if_neg hrange], ?_⟩
  refine ⟨_, Except.bind_eq_ok.mpr ⟨tables.effectiveEvent delivery.event, ?_, if_neg ?_⟩⟩
  · rw [Except.mapError_eq_ok]
    exact htext
  · exact not_lt.mpr (Int.natCast_nonneg _)

theorem publishedCount_step_le (eventId : Nat) (step : Step) :
    publishedCount eventId log.live ≤ publishedCount eventId (log.step codec step).live := by
  cases step with
  | reserve =>
    simp only [EventLog.step]
    split
    · rw [EventLog.live_reserve]
    · exact le_rfl
  | transact =>
    simp only [EventLog.step]
    split
    · rw [EventLog.live_transact]
    · exact le_rfl
  | resolve =>
    simp only [EventLog.step]
    split
    · rw [EventLog.publishedCount_resolve]
      exact Nat.le_add_right _ _
    · exact le_rfl
  | world => exact le_rfl

/-! ## Runs -/

def CommitsCall (codec : JsonCodec Text) (log : EventLog Text) (call : Nat)
    (answers : TransactionAnswers) (delivery : Delivery) (state : CommittedState Text) : Prop :=
  log.flights.lookup call = some (.reserved delivery) ∧ answers.begins = true ∧
    answers.commits = true ∧ ∃ tables,
      log.tables.runInTransaction codec delivery.event delivery.caller answers = .ok (state, tables)

/-- Once its own append is resolved, every publishable effect of a worker is published or retained,
and a delivery of its text that then runs alone, admitted and with the fence open, leaves it
published once. -/
def PublishesOnce (codec : JsonCodec Text) (steps : List Step) : Prop :=
  ∀ early call answers later delivery state key committed,
    steps = early ++ .transact call answers :: later →
    CommitsCall codec ((appends codec).run .start early) call answers delivery state →
    delivery.caller.reservation = some key →
    state.publicationEffect delivery.caller.workerFp = some committed →
    ((appends codec).run .start steps).flights.lookup call ≠ some (.committed delivery state) →
    (publishedCount committed.eventId ((appends codec).run .start steps).live = 1 ∨
      ∃ effect, committed.retained delivery.caller.dashboardId = .ok effect ∧
        SlotRetains ((appends codec).run .start steps).pendingPublications key effect) ∧
    ∀ replay delivery' answers' reserved,
      ((appends codec).run .start steps).flights.lookup replay = none →
      AdmitsCall codec (((appends codec).run .start steps).step codec (.reserve replay delivery'))
        replay answers' reserved →
      reserved.caller.reservation = some key →
      codec.event (((appends codec).run .start steps).tables.effectiveEvent reserved.event) =
        committed.eventJson →
      publishedCount committed.eventId ((appends codec).run .start (steps ++
        [.reserve replay delivery', .transact replay answers',
          .resolve replay { first := true, second := true }])).live = 1

/-- In every run an event is published once at most. -/
theorem publishedCount_le_one (codec : JsonCodec Text) (steps : List Step) (eventId : Nat) :
    publishedCount eventId ((appends codec).run .start steps).live ≤ 1 := by
  have honce := (heldOnce_run codec steps).once eventId
  simp only [standing] at honce
  split at honce <;> omega

/-- A replay left alone publishes the retained effect. -/
theorem Commits.claim_alone (h : Commits codec delivery state key done effect)
    (hground : Grounded log) (hret : SlotRetains log.pendingPublications key effect)
    {replay : Nat} {delivery' reserved : Delivery} {answers' : TransactionAnswers}
    (hfree : log.flights.lookup replay = none)
    (hadmits : AdmitsCall codec (log.step codec (.reserve replay delivery')) replay answers'
      reserved) (hkey : reserved.caller.reservation = some key)
    (hjson : codec.event (log.tables.effectiveEvent reserved.event) = done.eventJson) :
    0 < publishedCount done.eventId ((appends codec).run log
      [.reserve replay delivery', .transact replay answers',
        .resolve replay { first := true, second := true }]).live := by
  have hreserve : log.step codec (.reserve replay delivery') = log.reserve replay delivery' := by
    simp only [EventLog.step, hfree]
  obtain ⟨hfly, hbegins, hcommits, state', tables, hrun, hadmitted⟩ := hadmits
  rw [hreserve] at hfly hrun
  have hdel := hground.retained key effect hret
  have hid : state'.insertedId = none := by
    by_contra hsome
    obtain ⟨hholds, -⟩ := runInTransaction_inserts hrun (Option.isSome_iff_ne_none.mpr hsome)
    rw [holds_of_reservation hkey, EventLog.reserve_tables, hdel] at hholds
    cases hholds
  have heff : effect.eventJson = done.eventJson := by
    have hretained := h.retains
    simp only [retained, Except.ite_error_eq_ok] at hretained
    cases hretained.2
    rfl
  have htext : state'.eventJson = effect.eventJson := by
    rw [runInTransaction_eventJson hrun hadmitted, EventLog.reserve_tables, hjson, heff]
  let flights := (log.reserve replay delivery').flights.insert replay (.committed reserved state')
  have htrans : (log.reserve replay delivery').step codec (.transact replay answers') =
      { log.reserve replay delivery' with tables, flights } := by
    simp only [EventLog.step, hfly, EventLog.transact, hbegins, hrun, hcommits, Bool.not_true,
      Bool.false_eq_true, if_false]
    rfl
  have hresolve : EventLog.step codec { log.reserve replay delivery' with tables, flights }
      (.resolve replay { first := true, second := true }) =
        EventLog.resolve codec { log.reserve replay delivery' with tables, flights } replay reserved
          state' { first := true, second := true } := by
    have hlook : flights.lookup replay = some (.committed reserved state') := by
      rw [lookup_insert, if_pos rfl]
    simp only [EventLog.step, hlook]
  rw [run_cons, appends_next, hreserve, run_cons, appends_next, htrans,
    run_cons, appends_next, hresolve, run_nil]
  exact h.claim hkey hadmitted hid htext (EventLog.reserve_slotRetains hret)

/-- No event is published twice, whatever the run; along steps that spare what is at stake each
publishable effect of a worker is published or waits in its slot, until a delivery of its text
publishes it. -/
theorem published_once (codec : JsonCodec Text) (steps : List Step) :
    (∀ eventId, publishedCount eventId ((appends codec).run .start steps).live ≤ 1) ∧
      ((appends codec).Along (Spares codec) .start steps → PublishesOnce codec steps) := by
  refine ⟨publishedCount_le_one codec steps, ?_⟩
  intro hspares early call answers later delivery state key committed hsteps hcommits hkey
    hcommit hres
  obtain ⟨hfly, hbegins, hdone, tables, hrun⟩ := hcommits
  obtain ⟨effect, h⟩ := Commits.of_transaction hrun hkey hcommit
  let kept (log : EventLog Text) : Prop := Grounded log ∧ SlotsHeld log
  have hkept (log : EventLog Text) (step : Step) (hlog : kept log) (hstep : Spares codec log step) :
      kept ((appends codec).next log step) :=
    ⟨hlog.1.step step, hlog.2.step hlog.1 hstep⟩
  have hwaits : kept ((appends codec).run .start steps) ∧
      Waits call delivery state key committed.eventId effect ((appends codec).run .start steps) := by
    rw [hsteps, List.append_cons, along_append] at hspares
    rw [hsteps, List.append_cons, run_append]
    refine hspares.2.invariant (P := fun log => kept log ∧
      Waits call delivery state key committed.eventId effect log) ?_ ?_
    · refine ⟨hspares.1.invariant (P := kept) ⟨.start, .start⟩ hkept, .inl ?_⟩
      rw [run_concat, appends_next]
      simp only [EventLog.step, hfly, EventLog.transact, hbegins, hrun, hdone, Bool.not_true,
        Bool.false_eq_true, if_false]
      rw [lookup_insert, if_pos rfl]
    · intro log step hlog hstep
      exact ⟨hkept log step hlog.1 hstep, hlog.2.step h hlog.1.1 hlog.1.2 hstep⟩
  have hone {log : EventLog Text} (steps : List Step) (hlog : (appends codec).run .start steps = log)
      (hpos : 0 < publishedCount committed.eventId log.live) :
      publishedCount committed.eventId log.live = 1 := by
    have hle := publishedCount_le_one codec steps committed.eventId
    rw [hlog] at hle
    omega
  obtain ⟨⟨hground, -⟩, hpend | hret | hpublish⟩ := hwaits
  · exact absurd hpend hres
  · refine ⟨.inr ⟨effect, h.retains, hret⟩, ?_⟩
    intro replay delivery' answers' reserved hfree hadmits hkey' hjson
    refine hone _ rfl ?_
    rw [run_append]
    exact h.claim_alone hground hret hfree hadmits hkey' hjson
  refine ⟨.inl (hone steps rfl hpublish), ?_⟩
  intro replay delivery' answers' reserved hfree hadmits hkey' hjson
  refine hone _ rfl ?_
  rw [run_append, run_cons, run_cons, run_cons, run_nil, appends_next, appends_next, appends_next]
  exact hpublish.trans_le ((publishedCount_step_le _ _).trans
    ((publishedCount_step_le _ _).trans (publishedCount_step_le _ _)))

end Runs

end Held

/-! ## A replay behind a closed fence -/

/-- The lone worker opens its session under sequence 1. -/
def firstOpened : Delivery where
  event := openedIn "/first" 1
  caller := .worker loneWorker 1 "main"
  deferSnapshotReap := true

/-- One delivery of it, its three parts in a row. -/
def delivering (call : Nat) (fence : Bool) : List Step :=
  [.reserve call firstOpened, .transact call .plain,
    .resolve call { first := fence, second := fence }]

def registering : List Step := [.world [loneWorker] [] [], .reserve 1 firstOpened]

/-- The worker registers, and its event is committed behind a closed fence. -/
def losing : List Step := .world [loneWorker] [] [] :: delivering 1 false

/-- The worker retries behind a closed fence. -/
def retrying : List Step := losing ++ delivering 2 false

theorem firstOpened_commits : ∃ state tables committed,
    ((appends .verbatim).run .start registering).tables.runInTransaction .verbatim
      firstOpened.event firstOpened.caller .plain = .ok (state, tables) ∧
    state.publicationEffect firstOpened.caller.workerFp = some committed := by
  have hrun : (((appends .verbatim).run .start registering).tables.runInTransaction .verbatim
      firstOpened.event firstOpened.caller .plain).toOption.map (fun result =>
        (result.1.publicationEffect firstOpened.caller.workerFp).isSome) = some true := by
    decide +kernel
  obtain ⟨⟨state, tables⟩, hrun, hsome⟩ := Option.map_eq_some_iff.mp hrun
  obtain ⟨committed, hcommit⟩ := Option.isSome_iff_exists.mp hsome
  exact ⟨state, tables, committed, Except.toOption_eq_some.mp hrun, hcommit⟩

/-- The run of a worker whose publication is lost and retained. -/
theorem losing_publishes_once : PublishesOnce .verbatim losing := by
  obtain ⟨state, tables, committed, hrun, hcommit⟩ := firstOpened_commits
  have hspares : (appends .verbatim).Along (Spares .verbatim) .start losing := by
    refine ⟨trivial, trivial, ?_, ?_, trivial⟩
    · intro delivery key error hfly _ _ hfailed
      cases hfly
      exact absurd (hrun.symm.trans hfailed) (fun h => nomatch h)
    intro delivery' state' key hfly _ hnone
    have hsome : (((appends .verbatim).run .start (losing.take 3)).flights.lookup 1).map
        (fun flight => match flight with
          | .reserved _ => false
          | .committed delivery state =>
            (state.publicationEffect delivery.caller.workerFp).isSome) = some true := by
      decide +kernel
    have hsame := hsome.symm.trans (congrArg (Option.map (fun flight => match flight with
          | .reserved _ => false
          | .committed delivery state =>
            (state.publicationEffect delivery.caller.workerFp).isSome)) hfly)
    rw [Option.map_some] at hsame
    dsimp only at hsame
    rw [hnone] at hsame
    cases hsame
  exact (published_once .verbatim losing).2 hspares

/-- The retry finds its fence closed and gives back the slot of the effect it came for. -/
theorem retried_effect_lost : ¬ PublishesOnce .verbatim retrying := by
  intro hpublish
  obtain ⟨state, tables, committed, hrun, hcommit⟩ := firstOpened_commits
  have hcommits : CommitsCall .verbatim ((appends .verbatim).run .start registering) 1 .plain
      firstOpened state := ⟨rfl, rfl, rfl, tables, hrun⟩
  have hres : ((appends .verbatim).run .start retrying).flights.lookup 1 = none := by
    have hnone : (((appends .verbatim).run .start retrying).flights.lookup 1).isNone = true := by
      decide +kernel
    exact Option.isNone_iff_eq_none.mp hnone
  obtain ⟨hpublished | ⟨effect, -, slot, hslot, -⟩, -⟩ :=
    hpublish registering 1 .plain _ firstOpened state loneKey committed rfl hcommits rfl
      hcommit (by rw [hres]; exact fun h => nomatch h)
  · have hsilent : ((appends .verbatim).run .start retrying).live = [] := by decide +kernel
    rw [hsilent] at hpublished
    cases hpublished
  have hnone : (((appends .verbatim).run .start retrying).pendingPublications.slots.lookup
      loneKey).isNone = true := by
    decide +kernel
  rw [hslot] at hnone
  cases hnone

end Roost.Coord.Events
