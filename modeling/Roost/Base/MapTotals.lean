-- SUMMARY: Sizes and charge totals of an ordered map, and what edits do to them.
import Mathlib.Algebra.Order.BigOperators.Group.List
import Mathlib.Algebra.Order.Ring.Nat
import Roost.Base.OrderedMap

/-!
# Totals over a map

A map holds a charge for each of its values. Writing an entry adds its charge to what the other keys
hold, erasing an entry takes its charge away, and dropping entries never adds to the total.
-/

namespace Roost.OrderedMap

variable {κ α : Type} [LinearOrder κ] {map : OrderedMap κ α} {key : κ} {value : α}

def total (charge : α → Nat) (map : OrderedMap κ α) : Nat := (map.values.map charge).sum

variable (charge : α → Nat)

theorem total_eq (map : OrderedMap κ α) :
    total charge map = (map.entries.map fun entry => charge entry.2).sum := by
  rw [total, values, List.map_map]
  rfl

theorem total_insert (map : OrderedMap κ α) (key : κ) (value : α) :
    total charge (map.insert key value) = charge value + total charge (map.erase key) := by
  rw [total_eq, total_eq, ((map.insert_entries_perm key value).map _).sum_eq, List.map_cons,
    List.sum_cons]

theorem total_erase (h : map.lookup key = some value) :
    charge value + total charge (map.erase key) = total charge map := by
  rw [total_eq, total_eq, ← ((erase_entries_perm h).map _).sum_eq, List.map_cons, List.sum_cons]

theorem total_erase_absent (h : map.lookup key = none) :
    total charge (map.erase key) = total charge map := by
  rw [total_eq, total_eq, erase_absent h]

theorem total_retain_le (map : OrderedMap κ α) (p : κ → α → Bool) :
    total charge (map.retain p) ≤ total charge map := by
  rw [total_eq, total_eq]
  exact (List.filter_sublist.map _).sum_le_sum fun _ _ => Nat.zero_le _

theorem length_insert (map : OrderedMap κ α) (key : κ) (value : α) :
    (map.insert key value).length = (map.erase key).length + 1 :=
  (map.insert_entries_perm key value).length_eq

theorem length_erase (h : map.lookup key = some value) : (map.erase key).length + 1 = map.length :=
  (erase_entries_perm h).length_eq

theorem length_erase_absent (h : map.lookup key = none) : (map.erase key).length = map.length :=
  congrArg List.length (erase_absent h)

theorem length_retain_le (map : OrderedMap κ α) (p : κ → α → Bool) :
    (map.retain p).length ≤ map.length :=
  List.length_filter_le _ _

end Roost.OrderedMap
