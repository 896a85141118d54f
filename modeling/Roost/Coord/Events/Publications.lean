-- SUMMARY: What the decision after a commit does, and how often it publishes.
import Roost.Base.Ledger
import Roost.Coord.Events.LogFold

/-!
# Publications

A committed effect is held by the append that inserted it, then by its slot if its publication was
lost, until it is published. Counting the holders of one event id over the process bounds how often
it is published, whatever the appends, fences and failures.
-/

namespace Roost.Coord.Events

open CommittedEventPublication EventLog PendingPublicationStore Table

variable {Text : Type} {codec : JsonCodec Text}

/-! ## Resolutions -/

def isCommitted (eventId : Nat) : LiveEffect → Bool
  | .sessionCommitted _ id => decide (id = eventId)
  | _ => false

def publishedCount (eventId : Nat) (live : List LiveEffect) : Nat :=
  live.countP (isCommitted eventId)

variable (eventId : Nat)

theorem publishedCount_publish (eff : CommittedEventPublication Text) :
    publishedCount eventId eff.publish = if eff.eventId = eventId then 1 else 0 := by
  have hcasc : (eff.cascadeOrphanIds.map LiveEffect.workspaceDeleted).countP
      (isCommitted eventId) = 0 := by
    rw [List.countP_eq_zero]
    intro msg hmem
    obtain ⟨_, _, rfl⟩ := List.mem_map.mp hmem
    simp [isCommitted]
  simp only [publishedCount, publish, List.countP_cons, hcasc, isCommitted]
  by_cases h : eff.eventId = eventId <;> simp [h]

theorem publishedCount_reaps (resolution : PublicationResolution Text) (deferSnapshotReap : Bool) :
    publishedCount eventId (reaps resolution deferSnapshotReap) = 0 := by
  rw [publishedCount, List.countP_eq_zero]
  intro msg hmem
  unfold reaps at hmem
  split at hmem
  · split at hmem
    · cases hmem
    · obtain ⟨_, _, rfl⟩ := List.mem_map.mp hmem
      simp [isCommitted]
  · cases hmem

def Retains (slot : PublicationSlot Text) (effect : RetainedPublication Text) : Prop :=
  slot.state = .retained ∧ slot.effect = some effect

variable {store : PendingPublicationStore Text} {key : Reservation}
  {replayEventJson : Text} {fence : Fence} {caller : Caller} {deduplicated : Bool}
  {committedEffect : Option (CommittedEventPublication Text)}

theorem claim_cases [DecidableEq Text] (store : PendingPublicationStore Text) (key : Reservation)
    (replayEventJson : Text) :
    (∃ slot effect, store.slots.lookup key = some slot ∧ Retains slot effect ∧
        ((effect.eventJson = replayEventJson ∧ store.claim key replayEventJson =
            (.claimed effect, { slots := store.slots.insert key { slot with state := .claimed } })) ∨
          (effect.eventJson ≠ replayEventJson ∧
            store.claim key replayEventJson = (.payloadMismatch, store)))) ∨
      ((∀ slot effect, store.slots.lookup key = some slot → ¬ Retains slot effect) ∧
        store.claim key replayEventJson = (.nothing, store)) := by
  unfold claim
  cases hslot : store.slots.lookup key with
  | none => exact .inr ⟨fun _ _ h => (nomatch h), rfl⟩
  | some slot =>
    dsimp only
    split
    · rename_i effect hstate heff
      refine .inl ⟨slot, effect, rfl, ⟨hstate, heff⟩, ?_⟩
      split
      · rename_i hne
        exact .inr ⟨hne, rfl⟩
      · rename_i heq
        exact .inl ⟨not_not.mp heq, rfl⟩
    · rename_i hnone
      refine .inr ⟨?_, rfl⟩
      rintro _ effect ⟨⟩ hret
      exact hnone effect hret.1 hret.2

theorem fromClaimed_eventId {claimed : RetainedPublication Text} {fp : WorkerFp}
    {eff : CommittedEventPublication Text} (h : fromClaimed codec claimed fp = .ok eff) :
    claimed.eventId = eff.eventId := by
  simp only [fromClaimed, Except.bind_eq_ok, Except.ite_error_eq_ok] at h
  obtain ⟨_, -, hnonneg, h⟩ := h
  cases h
  exact (Int.toNat_of_nonneg (not_lt.mp hnonneg)).symm

/-- The decision after a commit: an effect of the call's own is retained or published; without one
the slot is given back, or what it retains is told apart, claimed and put back, or published. -/
inductive Resolves (codec : JsonCodec Text) (caller : Caller)
    (store : PendingPublicationStore Text) (replayEventJson : Text) (fence : Fence) :
    Option (CommittedEventPublication Text) → Bool → Resolved Text → Prop
  | lost {effect : CommittedEventPublication Text} {deduplicated : Bool}
      (hfence : fence.first = false) (hnone : caller.reservation = none) :
    Resolves codec caller store replayEventJson fence (some effect) deduplicated
      { resolution := .ok unpublished, store, live := [] }
  | outOfRange {effect : CommittedEventPublication Text} {deduplicated : Bool}
      {key : Reservation} {error : AppendError} (hfence : fence.first = false)
      (hkey : caller.reservation = some key)
      (hretained : effect.retained caller.dashboardId = .error error) :
    Resolves codec caller store replayEventJson fence (some effect) deduplicated
      { resolution := .error error, store, live := [] }
  | retained {effect : CommittedEventPublication Text} {deduplicated : Bool}
      {key : Reservation} {retained : RetainedPublication Text} (hfence : fence.first = false)
      (hkey : caller.reservation = some key)
      (hretained : effect.retained caller.dashboardId = .ok retained) :
    Resolves codec caller store replayEventJson fence (some effect) deduplicated
      { resolution := .ok unpublished, store := store.retain key retained, live := [] }
  | published {effect : CommittedEventPublication Text} {deduplicated : Bool}
      (hfence : fence.first = true) :
    Resolves codec caller store replayEventJson fence (some effect) deduplicated
      { resolution := .ok { publishedEffect := some effect, replayRejected := false }
        store := releaseReservation store caller
        live := effect.publish }
  | unkeyed {deduplicated : Bool} (hnone : caller.reservation = none) :
    Resolves codec caller store replayEventJson fence none deduplicated
      { resolution := .ok unpublished, store, live := [] }
  | released {deduplicated : Bool} {key : Reservation} (hkey : caller.reservation = some key)
      (hwhy : deduplicated = false ∨ fence.first = false ∨
        ∀ slot effect, store.slots.lookup key = some slot → ¬ Retains slot effect) :
    Resolves codec caller store replayEventJson fence none deduplicated
      { resolution := .ok unpublished, store := store.release key, live := [] }
  | mismatch {key : Reservation} {slot : PublicationSlot Text} {effect : RetainedPublication Text}
      (hkey : caller.reservation = some key)
      (hslot : store.slots.lookup key = some slot) (hret : Retains slot effect)
      (hpayload : effect.eventJson ≠ replayEventJson) :
    Resolves codec caller store replayEventJson fence none true
      { resolution := .ok { publishedEffect := none, replayRejected := true }, store, live := [] }
  | undecodable {key : Reservation} {slot : PublicationSlot Text}
      {effect : RetainedPublication Text} {error : AppendError}
      (hkey : caller.reservation = some key)
      (hslot : store.slots.lookup key = some slot) (hret : Retains slot effect)
      (hclaim : fromClaimed codec effect key.workerFp = .error error) :
    Resolves codec caller store replayEventJson fence none true
      { resolution := .error error
        store := { slots := store.slots.insert key { slot with state := .claimed } }
        live := [] }
  | putBack {key : Reservation} {slot : PublicationSlot Text} {effect : RetainedPublication Text}
      {published : CommittedEventPublication Text} (hkey : caller.reservation = some key)
      (hslot : store.slots.lookup key = some slot) (hret : Retains slot effect)
      (hclaim : fromClaimed codec effect key.workerFp =
        .ok published) (hfence : fence.second = false) :
    Resolves codec caller store replayEventJson fence none true
      { resolution := .ok unpublished
        store := retain
          { slots := store.slots.insert key { slot with state := .claimed } } key effect
        live := [] }
  | claimed {key : Reservation} {slot : PublicationSlot Text} {effect : RetainedPublication Text}
      {published : CommittedEventPublication Text} (hkey : caller.reservation = some key)
      (hslot : store.slots.lookup key = some slot) (hret : Retains slot effect)
      (hclaim : fromClaimed codec effect key.workerFp = .ok published) :
    Resolves codec caller store replayEventJson fence none true
      { resolution := .ok { publishedEffect := some published, replayRejected := false }
        store := release
          { slots := store.slots.insert key { slot with state := .claimed } } key
        live := published.publish }

theorem resolves [DecidableEq Text] (codec : JsonCodec Text)
    (committedEffect : Option (CommittedEventPublication Text)) (deduplicated : Bool)
    (replayEventJson : Text) (caller : Caller) (store : PendingPublicationStore Text)
    (fence : Fence) : Resolves codec caller store replayEventJson fence committedEffect deduplicated
      (resolvePublication codec committedEffect deduplicated replayEventJson caller store fence) := by
  cases committedEffect with
  | some effect =>
    cases hfence : fence.first with
    | true =>
      simp only [resolvePublication, hfence]
      exact .published hfence
    | false =>
      cases hkey : caller.reservation with
      | none =>
        simp only [resolvePublication, hfence, retainEffect, hkey]
        exact .lost hfence hkey
      | some =>
        cases hretained : effect.retained caller.dashboardId with
        | error =>
          simp only [resolvePublication, hfence, retainEffect, hkey, hretained, Except.map]
          exact .outOfRange hfence hkey hretained
        | ok retained =>
          simp only [resolvePublication, hfence, retainEffect, hkey, hretained, Except.map]
          exact .retained hfence hkey hretained
  | none =>
    cases hkey : caller.reservation with
    | none =>
      simp only [resolvePublication, hkey]
      exact .unkeyed hkey
    | some key =>
      cases deduplicated with
      | false =>
        simp only [resolvePublication, hkey]
        exact .released hkey (.inl rfl)
      | true =>
        cases hfence : fence.first with
        | false =>
          simp only [resolvePublication, hkey, hfence]
          exact .released hkey (.inr (.inl hfence))
        | true =>
          simp only [resolvePublication, hkey, hfence, claimRetained]
          rcases claim_cases store key replayEventJson with
            ⟨slot, effect, hslot, hret, ⟨-, hclaim⟩ | ⟨hpayload, hclaim⟩⟩ | ⟨hnothing, hclaim⟩
          · rw [hclaim]
            cases hclaimed : fromClaimed codec effect key.workerFp with
            | error =>
              simp only [hclaimed]
              exact .undecodable hkey hslot hret hclaimed
            | ok =>
              simp only [hclaimed]
              cases hsecond : fence.second
              · exact .putBack hkey hslot hret hclaimed hsecond
              · exact .claimed hkey hslot hret hclaimed
          · rw [hclaim]
            exact .mismatch hkey hslot hret hpayload
          · rw [hclaim]
            exact .released hkey (.inr (.inr hnothing))

/-! ## At most once -/

def slotHolds (eventId : Nat) (slot : PublicationSlot Text) : Nat :=
  if slot.state = .retained ∧ slot.effect.any fun effect => effect.eventId = (eventId : Int) then 1
  else 0

/-- One for an append that has committed an event id and not yet resolved it. -/
def flightHolds (eventId : Nat) : Flight Text → Nat
  | .reserved _ => 0
  | .committed delivery state =>
    if (state.publicationEffect delivery.caller.workerFp).any fun effect =>
      effect.eventId = eventId then 1 else 0

/-- How often an event id was published or may yet be. -/
def standing (eventId : Nat) (log : EventLog Text) : Nat :=
  publishedCount eventId log.live + total (flightHolds eventId) log.flights +
    total (slotHolds eventId) log.pendingPublications.slots

variable {eff : RetainedPublication Text} {slot : PublicationSlot Text}

theorem slotHolds_of_retains {eventId : Nat}
    (h : Retains slot eff) :
    slotHolds eventId slot = if eff.eventId = (eventId : Int) then 1 else 0 := by
  simp [slotHolds, h.1, h.2]

theorem total_release_le (store : PendingPublicationStore Text) (key : Reservation) :
    total (slotHolds eventId) (store.release key).slots +
        heldBy (slotHolds eventId) store.slots key = total (slotHolds eventId) store.slots :=
  total_erase_add

theorem total_retain_le (store : PendingPublicationStore Text)
    (key : Reservation) (effect : RetainedPublication Text) :
    Table.total (slotHolds eventId) (store.retain key effect).slots ≤
      Table.total (slotHolds eventId) store.slots +
        (if effect.eventId = (eventId : Int) then 1 else 0) := by
  simp only [PendingPublicationStore.retain, Table.modify]
  cases hslot : store.slots.lookup key with
  | none => exact Nat.le_add_right _ _
  | some slot =>
    have hret : Retains ({ slot with state := .retained, effect := some effect } :
        PublicationSlot Text) effect := ⟨rfl, rfl⟩
    have htotal : Table.total (slotHolds eventId) (store.slots.insert key
        { slot with state := .retained, effect := some effect }) +
          Table.heldBy (slotHolds eventId) store.slots key =
        Table.total (slotHolds eventId) store.slots +
          slotHolds eventId ({ slot with state := .retained, effect := some effect } :
            PublicationSlot Text) := Table.total_insert_add
    rw [slotHolds_of_retains hret] at htotal
    dsimp only
    omega

theorem total_claim {store : PendingPublicationStore Text} {key : Reservation}
    (hslot : store.slots.lookup key = some slot) (hret : Retains slot eff) :
    total (slotHolds eventId) (store.slots.insert key { slot with state := .claimed }) +
        (if eff.eventId = (eventId : Int) then 1 else 0) =
      total (slotHolds eventId) store.slots := by
  have htotal : total (slotHolds eventId) (store.slots.insert key
      { slot with state := .claimed }) + heldBy (slotHolds eventId) store.slots key =
      total (slotHolds eventId) store.slots +
        slotHolds eventId ({ slot with state := .claimed } : PublicationSlot Text) :=
    total_insert_add
  have hclaim : slotHolds eventId ({ slot with state := .claimed } : PublicationSlot Text) = 0 := by
    simp [slotHolds]
  rw [heldBy_of_lookup hslot, slotHolds_of_retains hret, hclaim] at htotal
  omega

theorem Resolves.standing_le {resolved : Resolved Text} (eventId : Nat)
    (h : Resolves codec caller store replayEventJson fence committedEffect deduplicated resolved) :
    publishedCount eventId resolved.live + Table.total (slotHolds eventId) resolved.store.slots ≤
      Table.total (slotHolds eventId) store.slots +
        if committedEffect.any fun eff => eff.eventId = eventId then 1 else 0 := by
  cases h with
  | lost | outOfRange | unkeyed | mismatch => simp [publishedCount]
  | @retained eff _ key retained _ _ hretained =>
    have hid : retained.eventId = (eff.eventId : Int) := by
      simp only [CommittedEventPublication.retained, Except.ite_error_eq_ok] at hretained
      cases hretained.2
      rfl
    have htotal := total_retain_le eventId store key retained
    simpa [publishedCount, hid, Int.natCast_inj] using htotal
  | @published eff _ _ =>
    rw [publishedCount_publish]
    simp only [Option.any_some, decide_eq_true_eq]
    cases hkey : caller.reservation with
    | none =>
      simp only [releaseReservation, hkey]
      omega
    | some key =>
      have htotal := total_release_le eventId store key
      simp only [releaseReservation, hkey]
      omega
  | @released _ key _ _ =>
    have htotal := total_release_le eventId store key
    simp only [publishedCount, List.countP_nil, Option.any_none, Bool.false_eq_true, if_false]
    omega
  | undecodable hkey hslot hret hclaim =>
    have htotal := total_claim eventId hslot hret
    simp only [publishedCount, List.countP_nil, Option.any_none, Bool.false_eq_true, if_false]
    omega
  | @putBack key slot eff published hkey hslot hret hclaim _ =>
    have htotal := total_claim eventId hslot hret
    have hback := total_retain_le eventId
      { slots := store.slots.insert key { slot with state := .claimed } } key eff
    simp only [publishedCount, List.countP_nil, Option.any_none, Bool.false_eq_true, if_false]
    dsimp only at hback
    omega
  | @claimed key slot eff published hkey hslot hret hclaim =>
    have htotal := total_claim eventId hslot hret
    have hback := total_release_le eventId
      { slots := store.slots.insert key { slot with state := .claimed } } key
    have hid : eff.eventId = (published.eventId : Int) := fromClaimed_eventId hclaim
    rw [publishedCount_publish]
    simp only [hid, Int.natCast_inj] at htotal
    simp only [Option.any_none, Bool.false_eq_true, if_false]
    dsimp only at hback
    omega

theorem publishedCount_append (live live' : List LiveEffect) :
    publishedCount eventId (live ++ live') =
      publishedCount eventId live + publishedCount eventId live' :=
  List.countP_append

variable (log : EventLog Text)

theorem standing_answer_le (call : Nat) (result : Except AppendError AppendEventResult) :
    standing eventId (log.answer call result) ≤ standing eventId log := by
  have htotal : total (flightHolds eventId) (log.flights.erase call) +
      heldBy (flightHolds eventId) log.flights call =
        total (flightHolds eventId) log.flights := total_erase_add
  simp only [standing, answer]
  omega

theorem standing_reserved_le (call : Nat) (deliv : Delivery) :
    standing eventId { log with flights := log.flights.insert call (.reserved deliv) } ≤
      standing eventId log := by
  have htotal : total (flightHolds eventId) (log.flights.insert call (.reserved deliv)) +
      heldBy (flightHolds eventId) log.flights call = total (flightHolds eventId) log.flights +
          flightHolds eventId (.reserved deliv : Flight Text) := total_insert_add
  have hnone : flightHolds eventId (.reserved deliv : Flight Text) = 0 := rfl
  simp only [standing]
  omega

def emptySlot (key : Reservation) : PublicationSlot Text where
  workerFp := key.workerFp
  clientSeq := key.clientSeq
  state := .reserved
  effect := none

theorem total_reserve_le {store store' : PendingPublicationStore Text}
    {key : Reservation} (h : store.reserve key = some store') :
    Table.total (slotHolds eventId) store'.slots ≤ Table.total (slotHolds eventId) store.slots := by
  unfold PendingPublicationStore.reserve at h
  split at h
  · cases h
  split at h
  · cases h
    exact le_rfl
  cases h
  have hnone : slotHolds eventId (emptySlot key : PublicationSlot Text) = 0 := by
    simp [slotHolds, emptySlot]
  have htotal : Table.total (slotHolds eventId) (store.slots.insert key (emptySlot key)) +
      Table.heldBy (slotHolds eventId) store.slots key =
      Table.total (slotHolds eventId) store.slots + slotHolds eventId (emptySlot key) :=
    Table.total_insert_add
  have hres : Table.total (slotHolds eventId) (store.slots.insert key (emptySlot key)) ≤
      Table.total (slotHolds eventId) store.slots := by
    omega
  exact hres

theorem standing_reserve_le (call : Nat)
    (deliv : Delivery) : standing eventId (log.reserve call deliv) ≤ standing eventId log := by
  unfold EventLog.reserve
  split
  · exact standing_answer_le eventId log call _
  dsimp only
  split
  · exact standing_reserved_le eventId log call _
  split
  · exact standing_answer_le eventId log call _
  rename_i store hreserve
  refine (standing_reserved_le eventId { log with pendingPublications := store } call _).trans ?_
  have htotal := total_reserve_le eventId hreserve
  simp only [standing]
  omega

theorem standing_release_le (caller : Caller) : standing eventId
        { log with pendingPublications := releaseReservation log.pendingPublications caller } ≤
      standing eventId log := by
  cases hkey : caller.reservation with
  | none => simp [releaseReservation, hkey, standing]
  | some key =>
    have htotal := total_release_le eventId log.pendingPublications key
    simp only [releaseReservation, hkey, standing]
    omega

theorem standing_committed_le (tables : Tables Text)
    (call : Nat) (deliv : Delivery) (state : CommittedState Text) : standing eventId
        { log with tables, flights := log.flights.insert call (.committed deliv state) } ≤
      standing eventId log + flightHolds eventId (.committed deliv state : Flight Text) := by
  have htotal : total (flightHolds eventId) (log.flights.insert call (.committed deliv state)) +
      heldBy (flightHolds eventId) log.flights call = total (flightHolds eventId) log.flights +
          flightHolds eventId (.committed deliv state : Flight Text) := total_insert_add
  simp only [standing]
  omega

/-- No event id has two holders or messages, and none above the sequence has one. -/
structure HeldOnce (log : EventLog Text) : Prop where
  ascending : Ascending log.tables
  once : ∀ eventId, standing eventId log ≤
    if eventId ≤ log.tables.eventSequence then 1 else 0

theorem HeldOnce.start : HeldOnce (.start : EventLog Text) := by
  refine ⟨.start, fun eventId => ?_⟩
  have hzero : standing eventId (.start : EventLog Text) = 0 := rfl
  rw [hzero]
  exact Nat.zero_le _

theorem HeldOnce.mono {log log' : EventLog Text} (h : HeldOnce log)
    (htables : log'.tables = log.tables)
    (hstand : ∀ eventId, standing eventId log' ≤ standing eventId log) : HeldOnce log' := by
  refine ⟨htables ▸ h.ascending, fun eventId => ?_⟩
  rw [htables]
  exact (hstand eventId).trans (h.once eventId)

theorem HeldOnce.transact {log : EventLog Text} (h : HeldOnce log) (call : Nat) (deliv : Delivery)
    (answers : TransactionAnswers) : HeldOnce (log.transact codec call deliv answers) := by
  unfold EventLog.transact
  split
  · exact h.mono rfl fun eventId => standing_answer_le eventId log call _
  split
  · refine h.mono rfl fun eventId => (standing_answer_le eventId _ call _).trans ?_
    exact standing_release_le eventId log deliv.caller
  rename_i state tables hrun
  split
  · exact h.mono rfl fun eventId => standing_answer_le eventId log call _
  refine ⟨h.ascending.runInTransaction hrun, fun eventId => ?_⟩
  refine (standing_committed_le eventId log tables call deliv state).trans ?_
  have honce := h.once eventId
  obtain ⟨-, -, hsequence, hid⟩ | ⟨-, -, hlog, hid, -⟩ :=
    runInTransaction_log h.ascending hrun
  · have hnone : flightHolds eventId (.committed deliv state : Flight Text) = 0 := by
      simp [flightHolds, CommittedState.publicationEffect, hid]
    rw [hnone]
    dsimp only
    split at honce <;> split <;> omega
  have hsequence : tables.eventSequence = log.tables.eventSequence + 1 := hlog.sequence
  have hholds : flightHolds eventId (.committed deliv state : Flight Text) ≤
      if eventId = log.tables.eventSequence + 1 then 1 else 0 := by
    have hseq : (eventId = log.tables.eventSequence + 1) =
        (log.tables.eventSequence + 1 = eventId) := propext eq_comm
    cases hpublish : state.publishable with
    | false => simp [flightHolds, CommittedState.publicationEffect, hpublish]
    | true => simp [flightHolds, CommittedState.publicationEffect, hpublish, hid, hseq]
  rw [hsequence]
  split at honce <;> split at hholds <;> split <;> omega

section Runs

variable [DecidableEq Text] {log : EventLog Text}

theorem standing_resolve_le {call : Nat}
    {deliv : Delivery} {state : CommittedState Text}
    (hfly : log.flights.lookup call = some (.committed deliv state)) (fence : Fence) :
    standing eventId (log.resolve codec call deliv state fence) ≤ standing eventId log := by
  have hresolve := resolves codec (state.publicationEffect deliv.caller.workerFp)
    (!state.admissionRejected && state.insertedId.isNone) state.eventJson deliv.caller
    log.pendingPublications fence
  have hslots := hresolve.standing_le eventId
  have hflights : total (flightHolds eventId) (log.flights.erase call) +
      heldBy (flightHolds eventId) log.flights call =
        total (flightHolds eventId) log.flights := total_erase_add
  rw [heldBy_of_lookup hfly] at hflights
  simp only [flightHolds] at hflights
  unfold resolve
  dsimp only
  split
  · simp only [standing, answer, publishedCount_append]
    omega
  · simp only [standing, answer, publishedCount_append, publishedCount_reaps]
    omega

/-- A step holds each effect in one slot at most. -/
theorem HeldOnce.step (h : HeldOnce log) (step : Step) :
    HeldOnce (log.step codec step) := by
  cases step with
  | reserve call deliv =>
    simp only [EventLog.step]
    split
    · exact h.mono (EventLog.reserve_tables log call deliv) fun eventId =>
        standing_reserve_le eventId log call deliv
    · exact h
  | transact call answers =>
    simp only [EventLog.step]
    split
    · exact h.transact call _ answers
    · exact h
  | resolve call fence =>
    simp only [EventLog.step]
    split
    · rename_i state hfly
      exact h.mono (EventLog.resolve_tables state fence) fun eventId =>
        standing_resolve_le eventId hfly fence
    · exact h
  | world =>
    exact ⟨⟨h.ascending.pairwise, h.ascending.bounded⟩, h.once⟩

theorem heldOnce_run (codec : JsonCodec Text) (steps : List Step) :
    HeldOnce ((appends codec).run .start steps) := by
  refine Transducer.invariant (P := HeldOnce) .start ?_ steps
  intro log step h
  exact h.step step

end Runs

end Roost.Coord.Events
