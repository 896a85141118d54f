-- SUMMARY: The total of a charge over a table, and what an edit does to it.
import Mathlib.Algebra.Order.Monoid.Canonical.Defs
import Roost.Base.Index

/-!
# Ledgers

A table whose entries each hold a charge has a total. An edit changes it by what the
edited entry held before and holds after; no other entry matters. The same holds of a family
over a list of names.
-/

namespace Roost

theorem sum_map_update {κ α M : Type} [DecidableEq κ] [AddCommMonoid M] (charge : α → M)
    {names : List κ} (hnd : names.Nodup) (family : κ → α) {name : κ} (hmem : name ∈ names)
    (value : α) : (names.map fun other => charge (Function.update family name value other)).sum +
        charge (family name) =
      (names.map fun other => charge (family other)).sum + charge value := by
  induction names with
  | nil => exact absurd hmem List.not_mem_nil
  | cons first names ih =>
    obtain ⟨hfirst, hnd⟩ := List.nodup_cons.mp hnd
    rw [List.map_cons, List.map_cons, List.sum_cons, List.sum_cons]
    by_cases heq : name = first
    · subst heq
      have hrest : (names.map fun other => charge (Function.update family name value other)) =
          names.map fun other => charge (family other) := by
        refine List.map_congr_left fun other hother => ?_
        rw [Function.update_of_ne (fun h : other = name => hfirst (h ▸ hother))]
      rw [hrest, Function.update_self, add_right_comm, add_comm (charge value), add_right_comm]
    · have htail := ih hnd ((List.mem_cons.mp hmem).resolve_left heq)
      rw [Function.update_of_ne (Ne.symm heq), add_assoc, htail, add_assoc]

namespace Table

variable {κ α M : Type} [DecidableEq κ] [AddCommMonoid M] (charge : α → M)

omit [DecidableEq κ] in
def total (table : Table κ α) : M := (table.entries.map fun entry => charge entry.2).sum

/-- What the entry of a key holds; an absent entry holds nothing. -/
def heldBy (table : Table κ α) (key : κ) : M := (table.lookup key).elim 0 charge

variable {charge} {table : Table κ α} {key other : κ} {value : α}

omit [DecidableEq κ] in
@[simp] theorem total_empty : total charge (∅ : Table κ α) = 0 := rfl

theorem heldBy_of_lookup (h : table.lookup key = some value) :
    heldBy charge table key = charge value := by
  rw [heldBy, h, Option.elim_some]

theorem heldBy_of_absent (h : table.lookup key = none) : heldBy charge table key = 0 := by
  rw [heldBy, h, Option.elim_none]

theorem total_erase_add :
    total charge (table.erase key) + heldBy charge table key = total charge table := by
  obtain ⟨entries, -⟩ := table
  simp only [total, heldBy, AList.erase, AList.lookup]
  clear * -
  induction entries with
  | nil => simp
  | cons entry entries ih =>
    by_cases hkey : key = entry.1
    · subst hkey
      rw [List.kerase_cons_eq rfl, List.dlookup_cons_eq, Option.elim_some, List.map_cons,
        List.sum_cons, add_comm]
    · rw [List.kerase_cons_ne hkey, List.dlookup_cons_ne _ _ hkey, List.map_cons, List.map_cons,
        List.sum_cons, List.sum_cons, add_assoc, ih]

theorem total_insert_add : total charge (table.insert key value) + heldBy charge table key =
      total charge table + charge value := by
  have hinsert : total charge (table.insert key value) =
      charge value + total charge (table.erase key) := by
    simp [total, AList.erase]
  rw [hinsert, add_assoc, total_erase_add, add_comm]

theorem total_insert [IsRightCancelAdd M] :
    total charge (table.insert key value) = total charge (table.erase key) + charge value := by
  have hinsert : total charge (table.insert key value) + heldBy charge table key =
      total charge table + charge value := total_insert_add
  have herase : total charge (table.erase key) + heldBy charge table key = total charge table :=
    total_erase_add
  rw [← herase, add_right_comm] at hinsert
  exact add_right_cancel hinsert

omit [DecidableEq κ] in
theorem total_congr [DecidableEq κ] {charge' : α → M}
    (h : ∀ key value, table.lookup key = some value → charge value = charge' value) :
    total charge table = total charge' table := by
  refine congrArg List.sum (List.map_congr_left fun entry hmem => ?_)
  exact h entry.1 entry.2 (lookup_eq_some_iff.mpr hmem)

theorem heldBy_le_total [PartialOrder M] [CanonicallyOrderedAdd M] :
    heldBy charge table key ≤ total charge table := by
  rw [← total_erase_add]
  exact le_add_self

end Table

end Roost
