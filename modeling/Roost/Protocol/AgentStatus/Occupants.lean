-- SUMMARY: What a session's reports can admit.
import Roost.Protocol.AgentStatus.Order

/-!
# Occupants over a run

The retained row's occupant is the latest the order has seen. An occupant that leaves the row is
fenced by name while its epoch is the current one, and by its epoch after that, until as many
epochs were retired after its own as the order remembers.
-/

namespace Roost.Agents

open AgentStatusOrder Transducer

/-! ## Occupants -/

/-- Who a status is about. -/
abbrev Occupant := StatusEpoch × AgentOccupantId

def AgentStatusIdentity.occupant (identity : AgentStatusIdentity) : Occupant :=
  (identity.statusEpoch, identity.occupantId)

def occupantOf (status : AgentStatusFields) : Option Occupant :=
  (agentStatusIdentity status).map (·.occupant)

theorem sameAgentStatusOccupant_iff {left right : AgentStatusFields} :
    sameAgentStatusOccupant left right = true ↔ occupantOf left = occupantOf right := by
  unfold sameAgentStatusOccupant occupantOf
  cases agentStatusIdentity left with
  | none => cases agentStatusIdentity right <;> simp [sameAgentIdentityOccupant]
  | some =>
    cases agentStatusIdentity right with
    | none => simp [sameAgentIdentityOccupant]
    | some =>
      simp [sameAgentIdentityOccupant, AgentStatusIdentity.occupant]

def StatusRow.Retains (row : StatusRow) (occupant : Occupant) : Prop :=
  ∃ held, row.retained = some held ∧ occupantOf held.common = some occupant

namespace AgentStatusOrder

variable {order : AgentStatusOrder} {ident : AgentStatusIdentity} {occ : Occupant}

def Retired (order : AgentStatusOrder) (occupant : Occupant) : Prop :=
  occupant.1 ∈ order.retiredEpochs ∨ occupant.2 ∈ order.retiredOccupants occupant.1

theorem isRetired_iff : order.isRetired ident = true ↔ order.Retired ident.occupant := by
  simp [isRetired, Retired, AgentStatusIdentity.occupant]

/-! ## One retirement -/

theorem mem_retiredOccupants_retireOccupant {statusEpoch other : StatusEpoch}
    {occupantId otherId : AgentOccupantId} :
    otherId ∈ (order.retireOccupant statusEpoch occupantId).retiredOccupants other ↔
      (other = statusEpoch ∧ otherId = occupantId) ∨ otherId ∈ order.retiredOccupants other := by
  unfold retireOccupant
  rw [retiredOccupants]
  rw [Table.lookup_insert]
  split
  · rename_i heq
    subst heq
    simp
  · rename_i hne
    simp [hne, retiredOccupants]

theorem retireEpoch_retiredEpochs {statusEpoch : StatusEpoch}
    (hfresh : statusEpoch ∉ order.retiredEpochs) : (order.retireEpoch statusEpoch).retiredEpochs =
      if order.retiredEpochs.length < maxRetiredEpochs then order.retiredEpochs ++ [statusEpoch]
      else (order.retiredEpochs ++ [statusEpoch]).tail := by
  unfold retireEpoch
  simp only [if_neg hfresh, List.length_append, List.length_singleton]
  split
  · rw [if_pos (by omega)]
  · rw [if_neg (by omega)]
    cases order.retiredEpochs <;> rfl

def replacesEpoch (order : AgentStatusOrder) (identity : AgentStatusIdentity) : Bool :=
  order.latestStatusEpoch.any fun previousEpoch => decide (previousEpoch ≠ identity.statusEpoch)

/-- The order remembers no more epochs than the limit, nor its latest one among them, and knows
the latest epoch and occupant together. -/
structure WellFormed (order : AgentStatusOrder) : Prop where
  bounded : order.retiredEpochs.length ≤ maxRetiredEpochs
  paired : order.latestStatusEpoch.isSome = order.latestOccupantId.isSome
  current : ∀ statusEpoch, order.latestStatusEpoch = some statusEpoch →
    statusEpoch ∉ order.retiredEpochs

theorem advanceIdentity_same (h : order.replacesEpoch ident = false) :
    (order.advanceIdentity ident).retiredEpochs = order.retiredEpochs ∧
      (∀ statusEpoch occupantId, occupantId ∈ order.retiredOccupants statusEpoch →
        occupantId ∈ (order.advanceIdentity ident).retiredOccupants statusEpoch) ∧
      ∀ statusEpoch occupantId, order.latestStatusEpoch = some statusEpoch →
        order.latestOccupantId = some occupantId → occupantId ≠ ident.occupantId →
        occupantId ∈ (order.advanceIdentity ident).retiredOccupants statusEpoch := by
  have hoccup : ∀ statusEpoch, (order.advanceIdentity ident).retiredOccupants statusEpoch =
      (order.retireReplaced ident).retiredOccupants statusEpoch := fun _ => rfl
  have hepochs : (order.advanceIdentity ident).retiredEpochs =
      (order.retireReplaced ident).retiredEpochs := rfl
  simp only [hoccup, hepochs, retireReplaced]
  cases hepoch : order.latestStatusEpoch with
  | none => exact ⟨rfl, fun _ _ hmem => hmem, fun _ _ hnone => nomatch hnone⟩
  | some previousEpoch =>
    have hsame : previousEpoch = ident.statusEpoch := by
      simpa [replacesEpoch, hepoch] using h
    dsimp only
    rw [if_neg (not_not.mpr hsame)]
    cases hocc : order.latestOccupantId with
    | none => exact ⟨rfl, fun _ _ hmem => hmem, fun _ _ _ hnone => nomatch hnone⟩
    | some previousOccupant =>
      dsimp only
      split
      · refine ⟨rfl, ?_, ?_⟩
        · intro statusEpoch occupantId hmem
          exact mem_retiredOccupants_retireOccupant.mpr (.inr hmem)
        · rintro statusEpoch occupantId ⟨⟩ ⟨⟩ _
          exact mem_retiredOccupants_retireOccupant.mpr (.inl ⟨rfl, rfl⟩)
      · rename_i hkept
        refine ⟨rfl, fun _ _ hmem => hmem, ?_⟩
        rintro _ occupantId _ ⟨⟩ hne
        exact absurd hne hkept

theorem advanceIdentity_replaces {previousEpoch : StatusEpoch}
    (hlatest : order.latestStatusEpoch = some previousEpoch)
    (h : order.replacesEpoch ident = true) : (order.advanceIdentity ident).retiredEpochs =
      (order.retireEpoch previousEpoch).retiredEpochs := by
  have hne : previousEpoch ≠ ident.statusEpoch := by
    simpa [replacesEpoch, hlatest] using h
  have hepochs : (order.advanceIdentity ident).retiredEpochs =
      (order.retireReplaced ident).retiredEpochs := rfl
  rw [hepochs, retireReplaced, hlatest]
  dsimp only
  rw [if_pos hne]

theorem WellFormed.advance (h : order.WellFormed) (hfresh : ident.statusEpoch ∉ order.retiredEpochs)
    : (order.advanceIdentity ident).WellFormed := by
  cases hreplaces : order.replacesEpoch ident with
  | false =>
    obtain ⟨hepochs, -, -⟩ := advanceIdentity_same hreplaces
    refine ⟨hepochs ▸ h.bounded, rfl, ?_⟩
    rintro statusEpoch ⟨⟩
    rw [hepochs]
    exact hfresh
  | true =>
    obtain ⟨previousEpoch, hlatest, hne⟩ := (Option.any_eq_true ..).mp hreplaces
    have hne : previousEpoch ≠ ident.statusEpoch := of_decide_eq_true hne
    have hepochs := advanceIdentity_replaces hlatest hreplaces
    rw [retireEpoch_retiredEpochs (h.current previousEpoch hlatest)] at hepochs
    have hbound := h.bounded
    refine ⟨?_, rfl, ?_⟩
    · rw [hepochs]
      split <;> simp <;> omega
    rintro statusEpoch ⟨⟩
    rw [hepochs]
    have hother : ident.statusEpoch ∉ order.retiredEpochs ++ [previousEpoch] := by
      simp [hfresh, Ne.symm hne]
    split
    · exact hother
    · exact fun hmem => hother (List.mem_of_mem_tail hmem)

theorem WellFormed.retireOccupant (h : order.WellFormed) (statusEpoch : StatusEpoch)
    (occupantId : AgentOccupantId) : (order.retireOccupant statusEpoch occupantId).WellFormed :=
  ⟨h.bounded, h.paired, h.current⟩

/-! ## Fences -/

/-- An occupant is fenced by name within the latest epoch, or by its epoch, after whose retirement
at most `since` epochs, itself among them, were retired. -/
def Fenced (order : AgentStatusOrder) (occupant : Occupant) (since : Nat) : Prop :=
  (order.latestStatusEpoch = some occupant.1 ∧ occupant.2 ∈ order.retiredOccupants occupant.1) ∨
    ∃ older newer, order.retiredEpochs = older ++ occupant.1 :: newer ∧ newer.length + 1 ≤ since

variable {since : Nat}

theorem Fenced.retired (h : order.Fenced occupant since) : order.Retired occupant := by
  rcases h with ⟨-, hname⟩ | ⟨older, newer, hepochs, -⟩
  · exact .inr hname
  · exact .inl (by rw [hepochs]; simp)

theorem Fenced.retireOccupant (h : order.Fenced occ since) (statusEpoch : StatusEpoch)
    (occupantId : AgentOccupantId) :
    (order.retireOccupant statusEpoch occupantId).Fenced occ since := by
  rcases h with ⟨hlatest, hname⟩ | hepoch
  · exact .inl ⟨hlatest, mem_retiredOccupants_retireOccupant.mpr (.inr hname)⟩
  · exact .inr hepoch

theorem Fenced.advance (h : order.Fenced occ since) (hwell : order.WellFormed)
    (hlimit : since + (order.replacesEpoch ident).toNat ≤ maxRetiredEpochs) :
    (order.advanceIdentity ident).Fenced occ (since + (order.replacesEpoch ident).toNat) := by
  cases hreplaces : order.replacesEpoch ident with
  | false =>
    obtain ⟨hepochs, hkept, -⟩ := advanceIdentity_same hreplaces
    rcases h with ⟨hlatest, hname⟩ | ⟨older, newer, hold, hcount⟩
    · have hsame : occ.1 = ident.statusEpoch := by
        simpa [replacesEpoch, hlatest] using hreplaces
      exact .inl ⟨congrArg some hsame.symm, hkept _ _ hname⟩
    · exact .inr ⟨older, newer, hepochs.trans hold, hcount⟩
  | true =>
    obtain ⟨previousEpoch, hlatest, -⟩ := (Option.any_eq_true ..).mp hreplaces
    have hepochs := advanceIdentity_replaces hlatest hreplaces
    rw [retireEpoch_retiredEpochs (hwell.current previousEpoch hlatest)] at hepochs
    rw [hreplaces, Bool.toNat_true] at hlimit
    rw [Bool.toNat_true]
    refine .inr ?_
    rw [hepochs]
    rcases h with ⟨hcur, -⟩ | ⟨older, newer, hold, hcount⟩
    · -- The occupant's own epoch is retired: it is the last of the queue.
      rw [hlatest] at hcur
      cases hcur
      split
      · exact ⟨order.retiredEpochs, [], rfl, by simp⟩
      rename_i hfull
      refine ⟨order.retiredEpochs.tail, [], ?_, by simp⟩
      cases hqueue : order.retiredEpochs with
      | nil =>
        rw [hqueue] at hfull
        exact absurd hfull (by decide)
      | cons => rfl
    -- Another epoch follows it: fewer than the limit do, so an older one goes.
    split
    · refine ⟨older, newer ++ [previousEpoch], by rw [hold]; simp, ?_⟩
      rw [List.length_append, List.length_singleton]
      omega
    rename_i hfull
    cases older with
    | nil =>
      rw [hold] at hfull
      simp only [List.nil_append, List.length_cons] at hfull
      omega
    | cons oldest older =>
      refine ⟨older, newer ++ [previousEpoch], by rw [hold]; simp, ?_⟩
      rw [List.length_append, List.length_singleton]
      omega

theorem Fenced.of_advance (hwell : order.WellFormed) (hepoch : order.latestStatusEpoch = some occ.1)
    (hocc : order.latestOccupantId = some occ.2) (hne : ident.occupant ≠ occ) :
    (order.advanceIdentity ident).Fenced occ (order.replacesEpoch ident).toNat := by
  cases hreplaces : order.replacesEpoch ident with
  | false =>
    have hsame : occ.1 = ident.statusEpoch := by
      simpa [replacesEpoch, hepoch] using hreplaces
    refine .inl ⟨congrArg some hsame.symm, ?_⟩
    refine (advanceIdentity_same hreplaces).2.2 _ _ hepoch hocc ?_
    intro hid
    exact hne (Prod.ext hsame.symm hid.symm)
  | true =>
    have hepochs := advanceIdentity_replaces hepoch hreplaces
    rw [retireEpoch_retiredEpochs (hwell.current occ.1 hepoch)] at hepochs
    refine .inr ?_
    rw [hepochs]
    split
    · exact ⟨order.retiredEpochs, [], rfl, by simp⟩
    rename_i hfull
    refine ⟨order.retiredEpochs.tail, [], ?_, by simp⟩
    cases hqueue : order.retiredEpochs with
    | nil =>
      rw [hqueue] at hfull
      exact absurd hfull (by decide)
    | cons => rfl

theorem Fenced.of_retireOccupant (hepoch : order.latestStatusEpoch = some occ.1) :
    (order.retireOccupant occ.1 occ.2).Fenced occ since :=
  .inl ⟨hepoch, mem_retiredOccupants_retireOccupant.mpr (.inl ⟨rfl, rfl⟩)⟩

/-! ## Records -/

variable {update : AgentStatusUpdate} {held : AgentStatus}

/-- The order with what a record of an identified update sets besides the identity. -/
def observed (order : AgentStatusOrder) (state : Option AgentRuntimeState) (revision : Int) :
    AgentStatusOrder :=
  { order with
    latestState := state, latestStateChangeRevision := revision, identifiedAccepted := true }

theorem record_identified {P : AgentStatusOrder → Prop}
    (hid : agentStatusIdentity update.common = some ident) (hact : update.active = true →
      ∀ state rev, P ((order.observed state rev).advanceIdentity ident))
    (hinactive : update.active = false →
      ∀ state rev, P (((order.observed state rev).advanceIdentity ident).retireOccupant
        ident.statusEpoch ident.occupantId)) : P (order.record update) := by
  unfold record
  rw [hid]
  cases hupdate : update.active with
  | false => exact hinactive hupdate _ _
  | true => exact hact hupdate _ _

theorem recordClose_identified {inactiveRevision : Int}
    (hid : agentStatusIdentity held.common = some ident) : order.recordClose held inactiveRevision =
      ((order.observed order.latestState order.latestStateChangeRevision).advanceIdentity
        ident).retireOccupant ident.statusEpoch ident.occupantId := by
  unfold recordClose
  rw [hid]
  rfl

theorem WellFormed.observed (h : order.WellFormed) (state : Option AgentRuntimeState)
    (rev : Int) : (order.observed state rev).WellFormed :=
  ⟨h.bounded, h.paired, h.current⟩

theorem not_retired_of_accepts {prev : Option AgentStatus}
    (hid : agentStatusIdentity update.common = some ident)
    (h : order.accepts prev update = true) : ¬ order.Retired ident.occupant := by
  rw [← isRetired_iff]
  intro hretire
  simp [accepts, hid, hretire] at h

theorem identifiedAccepted_retireEpoch (statusEpoch : StatusEpoch) :
    (order.retireEpoch statusEpoch).identifiedAccepted = order.identifiedAccepted := by
  unfold retireEpoch
  dsimp only
  generalize (if statusEpoch ∈ order.retiredEpochs then order.retiredEpochs
    else order.retiredEpochs ++ [statusEpoch]) = retired
  split
  · rfl
  · split <;> rfl

theorem identifiedAccepted_advance :
    (order.advanceIdentity ident).identifiedAccepted = order.identifiedAccepted := by
  have hreplaced : (order.advanceIdentity ident).identifiedAccepted =
      (order.retireReplaced ident).identifiedAccepted := rfl
  rw [hreplaced, retireReplaced]
  split
  · rfl
  split
  · exact identifiedAccepted_retireEpoch _
  · split
    · rfl
    · split <;> rfl

end AgentStatusOrder

/-! ## One session's row -/

namespace StatusRow

variable {row : StatusRow} {report : Report} {occ : Occupant}

def retires (row : StatusRow) : Report → Bool
  | .update update =>
    row.order.accepts row.retained update &&
      (agentStatusIdentity update.common).any row.order.replacesEpoch
  | .close _ =>
    row.retained.any fun current =>
      (agentStatusIdentity current.common).any row.order.replacesEpoch

/-- The retained row's identity is the latest one of a well-formed order. -/
structure Tracks (row : StatusRow) : Prop where
  wellFormed : row.order.WellFormed
  latest : ∀ held identity, row.retained = some held →
    agentStatusIdentity held.common = some identity →
    row.order.latestStatusEpoch = some identity.statusEpoch ∧
      row.order.latestOccupantId = some identity.occupantId ∧
      row.order.identifiedAccepted = true

theorem Tracks.seeded (kept : Option AgentStatus) : (StatusRow.seeded kept).Tracks := by
  cases kept with
  | none => exact ⟨⟨by decide, rfl, fun _ h => nomatch h⟩, fun _ _ h => nomatch h⟩
  | some held =>
    have horder : (StatusRow.seeded (some held)).order = .seededFrom (some held) := rfl
    cases hid : agentStatusIdentity held.common with
    | none =>
      refine ⟨?_, ?_⟩
      · rw [horder]
        simp only [seededFrom, hid]
        exact ⟨Nat.zero_le _, rfl, fun _ h => nomatch h⟩
      · rintro _ ident ⟨⟩ hsome
        rw [hid] at hsome
        cases hsome
    | some =>
      refine ⟨?_, ?_⟩
      · rw [horder]
        simp only [seededFrom, hid]
        exact ⟨Nat.zero_le _, rfl, fun _ _ hmem => nomatch hmem⟩
      rintro _ identity' ⟨⟩ hsome
      rw [hid] at hsome
      cases hsome
      rw [horder]
      simp only [seededFrom, hid]
      exact ⟨trivial, trivial, trivial⟩

theorem Retains.latest (h : row.Tracks) (hkeep : row.Retains occ) :
    row.order.latestStatusEpoch = some occ.1 ∧
      row.order.latestOccupantId = some occ.2 ∧ row.order.identifiedAccepted = true := by
  obtain ⟨held, hheld, hocc⟩ := hkeep
  obtain ⟨ident, hid, rfl⟩ := Option.map_eq_some_iff.mp hocc
  exact h.latest held ident hheld hid

variable {update : AgentStatusUpdate}

theorem next_accepted
    (h : row.order.accepts row.retained update = true) : statuses.next row (.update update) =
      { order := row.order.record update
        retained := if update.active then some { common := update.common } else none } := by
  simp [next, statuses, apply, h]

/-- A report is refused, or moves the order on. -/
theorem next_cases (row : StatusRow) (report : Report) :
    (statuses.next row report = row ∧ row.retires report = false ∧
        statuses.answer row report = false) ∨
      (∃ update, report = .update update ∧ row.order.accepts row.retained update = true ∧
        statuses.next row report =
          { order := row.order.record update
            retained := if update.active then some { common := update.common } else none }) ∨
      ∃ inactiveRevision held, report = .close inactiveRevision ∧ row.retained = some held ∧
        statuses.next row report =
          { order := row.order.recordClose held inactiveRevision, retained := none } := by
  cases report with
  | update update =>
    cases hacc : row.order.accepts row.retained update with
    | false =>
      refine .inl ⟨?_, ?_, ?_⟩
      · simp [next, statuses, apply, hacc]
      · simp [retires, hacc]
      · simp [answer, statuses, apply, hacc]
    | true => exact .inr (.inl ⟨update, rfl, hacc, next_accepted hacc⟩)
  | close inactiveRevision =>
    cases hret : row.retained with
    | none =>
      refine .inl ⟨?_, ?_, ?_⟩
      · simp [next, statuses, apply, hret]
      · simp [retires, hret]
      · simp [answer, statuses, apply, hret]
    | some held =>
      refine .inr (.inr ⟨inactiveRevision, held, rfl, rfl, ?_⟩)
      simp [next, statuses, apply, hret]

theorem record_legacy (order : AgentStatusOrder)
    (hid : agentStatusIdentity update.common = none) :
    order.record update = { order with legacyRevision := some update.common.revision } := by
  unfold record
  rw [hid]

theorem recordClose_legacy {held : AgentStatus} (order : AgentStatusOrder)
    (hid : agentStatusIdentity held.common = none) (inactiveRevision : Int) :
    order.recordClose held inactiveRevision = { order with
        legacyRevision :=
          some (order.legacyRevision.elim inactiveRevision (max · inactiveRevision)) } := by
  unfold recordClose
  rw [hid]

theorem legacy_refused (h : row.order.identifiedAccepted = true)
    (hid : agentStatusIdentity update.common = none) :
    row.order.accepts row.retained update = false := by
  simp [accepts, hid, h]

theorem Tracks.next (h : row.Tracks) (report : Report) : (statuses.next row report).Tracks := by
  obtain ⟨hsame, -, -⟩ | ⟨update, rfl, hacc, hnext⟩ |
    ⟨inactiveRevision, held, rfl, hheld, hnext⟩ := next_cases row report
  · rw [hsame]
    exact h
  · rw [hnext]
    cases hid : agentStatusIdentity update.common with
    | none =>
      refine ⟨?_, ?_⟩
      · dsimp only
        rw [record_legacy _ hid]
        exact ⟨h.wellFormed.bounded, h.wellFormed.paired, h.wellFormed.current⟩
      intro held ident hheld hidentity
      split at hheld
      · cases hheld
        rw [hid] at hidentity
        cases hidentity
      · cases hheld
    | some ident =>
      have hfresh : ident.statusEpoch ∉ row.order.retiredEpochs := fun hmem =>
        not_retired_of_accepts hid hacc (.inl hmem)
      refine ⟨?_, ?_⟩
      · refine record_identified hid ?_ ?_
        · intro _ state rev
          exact (h.wellFormed.observed state rev).advance hfresh
        · intro _ state rev
          exact ((h.wellFormed.observed state rev).advance hfresh).retireOccupant _ _
      intro held identity' hheld hidentity
      dsimp only at hheld
      split at hheld
      · rename_i hact
        cases hheld
        rw [hid] at hidentity
        cases hidentity
        refine record_identified (P := fun order =>
          order.latestStatusEpoch = some ident.statusEpoch ∧
            order.latestOccupantId = some ident.occupantId ∧
            order.identifiedAccepted = true) hid ?_ ?_
        · intro _ state rev
          exact ⟨rfl, rfl, identifiedAccepted_advance⟩
        · intro hinactive
          rw [hact] at hinactive
          cases hinactive
      · cases hheld
  · rw [hnext]
    refine ⟨?_, fun _ _ hnone => nomatch hnone⟩
    cases hid : agentStatusIdentity held.common with
    | none =>
      rw [recordClose_legacy _ hid]
      exact ⟨h.wellFormed.bounded, h.wellFormed.paired, h.wellFormed.current⟩
    | some ident =>
      obtain ⟨hepoch, -, -⟩ := h.latest held ident hheld hid
      dsimp only
      rw [recordClose_identified hid]
      exact ((h.wellFormed.observed _ _).advance
        (h.wellFormed.current _ hepoch)).retireOccupant _ _

theorem identifiedAccepted_next (h : row.order.identifiedAccepted = true) (report : Report) :
    (statuses.next row report).order.identifiedAccepted = true := by
  obtain ⟨hsame, -, -⟩ | ⟨update, rfl, -, hnext⟩ | ⟨_, held, rfl, -, hnext⟩ :=
    next_cases row report
  · rw [hsame]
    exact h
  · rw [hnext]
    cases hid : agentStatusIdentity update.common with
    | none =>
      rw [record_legacy _ hid]
      exact h
    | some =>
      refine record_identified
        (P := fun order => order.identifiedAccepted = true) hid ?_ ?_
      · intro _ state rev
        exact identifiedAccepted_advance
      · intro _ state rev
        exact identifiedAccepted_advance
  · rw [hnext]
    cases hid : agentStatusIdentity held.common with
    | none =>
      dsimp only
      rw [recordClose_legacy _ hid]
      exact h
    | some =>
      rw [recordClose_identified hid]
      exact identifiedAccepted_advance

/-- One report costs the fence one retirement at most. -/
theorem fenced_next {since : Nat} (h : row.Tracks) (hfenced : row.order.Fenced occ since)
    (hlimit : since + (row.retires report).toNat ≤ maxRetiredEpochs) :
    (statuses.next row report).order.Fenced occ (since + (row.retires report).toNat) := by
  obtain ⟨hsame, hretires, -⟩ | ⟨update, rfl, hacc, hnext⟩ |
    ⟨inactiveRevision, held, rfl, hheld, hnext⟩ := next_cases row report
  · rw [hsame, hretires]
    exact hfenced
  · rw [hnext]
    simp only [retires, hacc, Bool.true_and] at hlimit ⊢
    cases hid : agentStatusIdentity update.common with
    | none =>
      rw [record_legacy _ hid, Option.any_none]
      exact hfenced
    | some ident =>
      rw [hid, Option.any_some] at hlimit
      rw [Option.any_some]
      have hadv (state : Option AgentRuntimeState) (rev : Int) :
          ((row.order.observed state rev).advanceIdentity ident).Fenced occ
            (since + (row.order.replacesEpoch ident).toNat) := by
        have hobs : (row.order.observed state rev).Fenced occ since := hfenced
        exact hobs.advance (h.wellFormed.observed state rev) hlimit
      refine record_identified (P := fun order =>
        order.Fenced occ (since + (row.order.replacesEpoch ident).toNat)) hid ?_ ?_
      · intro _ state rev
        exact hadv state rev
      · intro _ state rev
        exact (hadv state rev).retireOccupant _ _
  · rw [hnext]
    simp only [retires, hheld, Option.any_some] at hlimit ⊢
    cases hid : agentStatusIdentity held.common with
    | none =>
      rw [recordClose_legacy _ hid, Option.any_none]
      exact hfenced
    | some =>
      rw [hid, Option.any_some] at hlimit
      rw [Option.any_some, recordClose_identified hid]
      have hobs : (row.order.observed row.order.latestState
          row.order.latestStateChangeRevision).Fenced occ since := hfenced
      exact (hobs.advance (h.wellFormed.observed _ _) hlimit).retireOccupant _ _

/-- An occupant that leaves is fenced. -/
theorem fenced_of_leaves (h : row.Tracks) (hkeep : row.Retains occ)
    (hleaves : ¬ (statuses.next row report).Retains occ) :
    (statuses.next row report).order.Fenced occ (row.retires report).toNat := by
  obtain ⟨hepoch, hocc, hidentif⟩ := hkeep.latest h
  obtain ⟨hsame, -, -⟩ | ⟨update, rfl, hacc, hnext⟩ |
    ⟨inactiveRevision, held, rfl, hheld, hnext⟩ := next_cases row report
  · rw [hsame] at hleaves
    exact absurd hkeep hleaves
  · cases hid : agentStatusIdentity update.common with
    | none =>
      rw [legacy_refused hidentif hid] at hacc
      cases hacc
    | some ident =>
      rw [hnext] at hleaves ⊢
      simp only [retires, hacc, hid, Option.any_some, Bool.true_and]
      by_cases hown : ident.occupant = occ
      · -- The occupant's own inactive update.
        subst hown
        refine record_identified (P := fun order =>
          order.Fenced ident.occupant (row.order.replacesEpoch ident).toNat) hid ?_ ?_
        · intro hact
          refine absurd ⟨_, by rw [if_pos hact], ?_⟩ hleaves
          rw [occupantOf, hid, Option.map_some]
        · intro _ state rev
          exact .of_retireOccupant rfl
      have hadv (state : Option AgentRuntimeState) (rev : Int) :
          ((row.order.observed state rev).advanceIdentity ident).Fenced occ
            (row.order.replacesEpoch ident).toNat := by
        have hwell := h.wellFormed.observed state rev
        exact .of_advance hwell hepoch hocc hown
      refine record_identified (P := fun order =>
        order.Fenced occ (row.order.replacesEpoch ident).toNat) hid ?_ ?_
      · intro _ state rev
        exact hadv state rev
      · intro _ state rev
        exact (hadv state rev).retireOccupant _ _
  · obtain ⟨_, hret, hsome⟩ := hkeep
    rw [hheld] at hret
    cases hret
    obtain ⟨_, hid, rfl⟩ := Option.map_eq_some_iff.mp hsome
    rw [hnext]
    rw [recordClose_identified hid]
    exact .of_retireOccupant rfl

end StatusRow

end Roost.Agents
