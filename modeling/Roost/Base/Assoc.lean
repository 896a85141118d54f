-- SUMMARY: Association lists: what a lookup finds where each key stands once.
import Mathlib.Data.List.Nodup

/-!
# Association lists

A list of keyed entries is read by the first entry of a key. Where no key stands twice, that is
the one entry of the key.
-/

namespace Roost.Assoc

variable {κ α : Type} [DecidableEq κ] {entries : List (κ × α)} {key : κ} {value : α}

theorem mem_of_lookup (h : entries.lookup key = some value) : (key, value) ∈ entries := by
  obtain ⟨_, _, heq, _⟩ := List.lookup_eq_some_iff.mp h
  exact heq ▸ List.mem_append_right _ List.mem_cons_self

theorem lookup_of_mem (hnd : (entries.map Prod.fst).Nodup) (h : (key, value) ∈ entries) :
    entries.lookup key = some value := by
  obtain ⟨before, after, heq⟩ := List.append_of_mem h
  refine List.lookup_eq_some_iff.mpr ⟨before, after, heq, ?_⟩
  intro entry hmem
  rw [heq, List.map_append, List.map_cons] at hnd
  have hne : entry.1 ≠ key :=
    (List.nodup_append.mp hnd).2.2 _ (List.mem_map_of_mem hmem) _ List.mem_cons_self
  exact bne_iff_ne.mpr (Ne.symm hne)

end Roost.Assoc
