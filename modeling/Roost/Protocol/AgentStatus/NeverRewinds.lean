-- SUMMARY: Over every run of reports, what an agent's status never takes back.
import Roost.Protocol.AgentStatus.Occupants

/-!
# Agent status never rewinds

The epochs an order remembers are counted from the report that retires the occupant, which for a
replaced epoch retires that epoch itself.
-/

namespace Roost.Agents

open AgentStatusOrder StatusRow Transducer

namespace StatusRow

variable {row : StatusRow} {occupant : Occupant}

def retirements : StatusRow → List Report → Nat
  | _, [] => 0
  | row, report :: reports =>
    (row.retires report).toNat + retirements (statuses.next row report) reports

/-- The fence holds for as many retirements as are remembered. -/
theorem fenced_run {since : Nat} (h : row.Tracks) (hfenced : row.order.Fenced occupant since)
    (reports : List Report) (hlimit : since + row.retirements reports ≤ maxRetiredEpochs) :
    (statuses.run row reports).order.Fenced occupant (since + row.retirements reports) := by
  induction reports generalizing row since with
  | nil => exact hfenced
  | cons report reports ih =>
    rw [retirements, ← Nat.add_assoc] at hlimit ⊢
    exact ih (h.next report) (fenced_next h hfenced (Nat.le_of_add_right_le hlimit)) hlimit

theorem revision_lt_of_accepts {held : AgentStatus} {update : AgentStatusUpdate}
    (hheld : row.retained = some held) (hretained : occupantOf held.common = some occupant)
    (hupdate : occupantOf update.common = some occupant)
    (h : row.order.accepts row.retained update = true) :
    held.common.revision < update.common.revision := by
  have hsame : sameAgentStatusOccupant held.common update.common = true :=
    sameAgentStatusOccupant_iff.mpr (hretained.trans hupdate.symm)
  obtain ⟨_, hid, -⟩ := Option.map_eq_some_iff.mp hupdate
  obtain ⟨_, hid', -⟩ := Option.map_eq_some_iff.mp hretained
  simp only [accepts, hid, hheld] at h
  split at h
  · cases h
  · simpa [hid', hsame] using h

/-- While an occupant is retained its revision never falls. -/
theorem revision_kept {floor : Int} (hret : row.Retains occupant)
    (hfloor : ∀ held, row.retained = some held → occupantOf held.common = some occupant →
      floor ≤ held.common.revision) (report : Report) :
    ∀ held, (statuses.next row report).retained = some held →
      occupantOf held.common = some occupant → floor ≤ held.common.revision := by
  obtain ⟨before, hpre, hocc⟩ := hret
  obtain ⟨hsame, -, -⟩ | ⟨_, rfl, hacc, hnext⟩ | ⟨_, _, rfl, -, hnext⟩ :=
    next_cases row report
  · rw [hsame]
    exact hfloor
  · rw [hnext]
    intro held hheld hown
    dsimp only at hheld
    split at hheld
    · cases hheld
      have hlt := revision_lt_of_accepts hpre hocc hown hacc
      exact (hfloor before hpre hocc).trans hlt.le
    · cases hheld
  · rw [hnext]
    intro held hheld
    cases hheld

end StatusRow

/-! ## Runs -/

variable (retained : Option AgentStatus)

def RevisionsIncrease : Prop :=
  ∀ early update between update' occupant, (statuses.run (.seeded retained) early).order.accepts
      (statuses.run (.seeded retained) early).retained update = true →
    occupantOf update.common = some occupant → occupantOf update'.common = some occupant →
    statuses.Along (fun row _ => row.Retains occupant)
      (statuses.run (.seeded retained) (early ++ [.update update]))
      (between ++ [.update update']) →
    (statuses.run (.seeded retained) (early ++ .update update :: between)).order.accepts
      (statuses.run (.seeded retained) (early ++ .update update :: between)).retained update' =
        true →
    update.common.revision < update'.common.revision

/-- No identified update once accepted is followed by one without an identity. -/
def IdentifiedIsFinal : Prop :=
  ∀ early update later update', (statuses.run (.seeded retained) early).order.accepts
      (statuses.run (.seeded retained) early).retained update = true →
    (agentStatusIdentity update.common).isSome = true →
    agentStatusIdentity update'.common = none →
    (statuses.run (.seeded retained) (early ++ .update update :: later)).order.accepts
      (statuses.run (.seeded retained) (early ++ .update update :: later)).retained update' = false

/-- An occupant that a report takes out of the row, by replacing it, by its own inactive update or
by a close, is refused while at most the remembered number of epochs was retired from that report
on. -/
def StaysRetired : Prop :=
  ∀ early report later occupant, (statuses.run (.seeded retained) early).Retains occupant →
    ¬ (statuses.run (.seeded retained) (early ++ [report])).Retains occupant →
    (statuses.run (.seeded retained) early).retirements (report :: later) ≤ maxRetiredEpochs →
    ∀ update, occupantOf update.common = some occupant →
      (statuses.run (.seeded retained) (early ++ report :: later)).order.accepts
        (statuses.run (.seeded retained) (early ++ report :: later)).retained update = false

theorem tracks_run (reports : List Report) : (statuses.run (.seeded retained) reports).Tracks := by
  refine invariant (P := StatusRow.Tracks) (.seeded retained) ?_ reports
  intro row report h
  exact h.next report

/-- Whatever frames and closes arrive for a session and in whatever order: revisions increase while
an occupant is retained, an occupant that was taken out is refused while at most the remembered
number of epochs was retired from the report that took it out on, and identified updates are
final. -/
theorem status_never_rewinds :
    RevisionsIncrease retained ∧ StaysRetired retained ∧ IdentifiedIsFinal retained := by
  refine ⟨?increase, ?stays, ?final⟩
  case increase =>
    intro early update between update' occupant hacc hocc hocc' halong hacc'
    rw [along_concat] at halong
    obtain ⟨halong, held, hheld, hown⟩ := halong
    rw [List.append_cons, run_append] at hacc'
    let floored (row : StatusRow) : Prop := ∀ held, row.retained = some held →
      occupantOf held.common = some occupant → update.common.revision ≤ held.common.revision
    have hstart : floored (statuses.run (.seeded retained) (early ++ [.update update])) := by
      intro held hheld hown
      rw [run_concat, next_accepted hacc] at hheld
      dsimp only at hheld
      split at hheld
      · cases hheld
        exact le_rfl
      · cases hheld
    have hfloor : floored (statuses.run (statuses.run (.seeded retained)
        (early ++ [.update update])) between) := by
      refine halong.invariant (P := floored) hstart ?_
      intro row report hkept hret
      exact revision_kept hret hkept report
    exact (hfloor held hheld hown).trans_lt
      (revision_lt_of_accepts hheld hown hocc' hacc')
  case stays =>
    intro early report later occupant hret hleaves hlimit update hupdate
    rw [retirements] at hlimit
    rw [run_concat] at hleaves
    have htracks := tracks_run retained early
    have hfenced := fenced_of_leaves htracks hret hleaves
    have hlater := fenced_run (htracks.next report) hfenced later hlimit
    rw [← run_cons, ← run_append] at hlater
    cases hacc : (statuses.run (.seeded retained) (early ++ report :: later)).order.accepts
        (statuses.run (.seeded retained) (early ++ report :: later)).retained update with
    | false => rfl
    | true =>
      obtain ⟨_, hid, rfl⟩ := Option.map_eq_some_iff.mp hupdate
      exact absurd hlater.retired (not_retired_of_accepts hid hacc)
  case final =>
    intro early update later update' hacc hidentity hlegacy
    refine legacy_refused ?_ hlegacy
    rw [List.append_cons, run_append]
    refine invariant (P := fun row : StatusRow => row.order.identifiedAccepted = true)
      ?_ ?_ later
    · obtain ⟨_, hid⟩ := Option.isSome_iff_exists.mp hidentity
      rw [run_concat, next_accepted hacc]
      refine record_identified
        (P := fun order => order.identifiedAccepted = true) hid ?_ ?_
      · intro _ state revision
        exact identifiedAccepted_advance
      · intro _ state revision
        exact identifiedAccepted_advance
    · intro row report h
      exact identifiedAccepted_next h report

/-! ## An occupant whose epoch is forgotten -/

def StaysRetiredAfter : Prop :=
  ∀ early report later occupant, (statuses.run (.seeded retained) early).Retains occupant →
    ¬ (statuses.run (.seeded retained) (early ++ [report])).Retains occupant →
    (statuses.run (.seeded retained) (early ++ [report])).retirements later ≤ maxRetiredEpochs →
    ∀ update, occupantOf update.common = some occupant →
      (statuses.run (.seeded retained) (early ++ report :: later)).order.accepts
        (statuses.run (.seeded retained) (early ++ report :: later)).retained update = false

/-- One of ninety identifiers, told apart by their first digits. -/
def numbered (n : Fin 90) : String :=
  String.ofList (Nat.toDigits 10 (10 + n.val)) ++ "000000-0000-4000-8000-000000000000"

theorem numbered_shape : ∀ n, hasUuidShape (numbered n) = true := by
  decide +kernel

def firstReport (n : Fin 90) : AgentStatusUpdate where
  active := true
  common :=
    { state := .working
      revision := 1
      statusEpoch := some { value := numbered n, check := numbered_shape n }
      occupantId := some { value := numbered n, check := numbered_shape n }
      source := some .integration }

/-- Sixty-four agents, each in its own epoch, after the first two. -/
def restarts : List Report :=
  (List.range 64).map fun n => .update (firstReport (Fin.ofNat 90 (n + 2)))

/-- The epoch of an agent that is replaced is retired with it, so the sixty-fourth epoch that is
retired after it already drives it out. -/
theorem replaced_agent_returns : ¬ StaysRetiredAfter none := by
  intro hstays
  have hret : (statuses.run (.seeded none) [.update (firstReport 0)]).Retains
      ({ value := numbered 0, check := numbered_shape 0 },
        { value := numbered 0, check := numbered_shape 0 }) :=
    ⟨{ common := (firstReport 0).common }, rfl, rfl⟩
  have hleaves : ¬ (statuses.run (.seeded none)
      ([.update (firstReport 0)] ++ [.update (firstReport 1)])).Retains
        ({ value := numbered 0, check := numbered_shape 0 },
          { value := numbered 0, check := numbered_shape 0 }) := by
    rintro ⟨held, hheld, hown⟩
    have hretained : (statuses.run (.seeded none)
        ([.update (firstReport 0)] ++ [.update (firstReport 1)])).retained =
          some { common := (firstReport 1).common } := by
      decide +kernel
    rw [hretained] at hheld
    cases hheld
    revert hown
    decide +kernel
  have href := hstays [.update (firstReport 0)] (.update (firstReport 1)) restarts _ hret
    hleaves (by decide +kernel) (firstReport 0) rfl
  revert href
  decide +kernel

end Roost.Agents
