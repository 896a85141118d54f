-- SUMMARY: A half-open range of numbers read from its top down.
import Mathlib.Data.List.Flatten
import Mathlib.Data.List.Range

/-!
# Reading downwards

`down lo hi` lists the numbers from `hi` exclusive down to `lo`. What is gathered from the numbers
in that order splits wherever the range does, top part first.
-/

namespace Roost

def down (lo hi : Nat) : List Nat := (List.range (hi - lo)).map fun below => hi - 1 - below

variable {lo hi n mid : Nat}

theorem mem_down : n ∈ down lo hi ↔ lo ≤ n ∧ n < hi := by
  simp only [down, List.mem_map, List.mem_range]
  constructor
  · rintro ⟨below, hbelow, rfl⟩
    omega
  · rintro ⟨hlo, hhi⟩
    exact ⟨hi - 1 - n, by omega, by omega⟩

theorem down_of_le (h : hi ≤ lo) : down lo hi = [] := by
  rw [down, Nat.sub_eq_zero_of_le h, List.range_zero, List.map_nil]

@[simp] theorem length_down (lo hi : Nat) : (down lo hi).length = hi - lo := by
  rw [down, List.length_map, List.length_range]

theorem down_append (hlo : lo ≤ mid) (hhi : mid ≤ hi) :
    down lo hi = down mid hi ++ down lo mid := by
  have hlen : hi - lo = (hi - mid) + (mid - lo) := by omega
  rw [down, hlen, List.range_add, List.map_append, List.map_map]
  congr 1
  refine List.map_congr_left fun below hbelow => ?_
  rw [List.mem_range] at hbelow
  show hi - 1 - (hi - mid + below) = mid - 1 - below
  omega

theorem down_succ (n : Nat) : down n (n + 1) = [n] := by
  rw [down, Nat.add_sub_cancel_left]
  rfl

theorem down_cons (h : lo ≤ n) : down lo (n + 1) = n :: down lo n := by
  rw [down_append h (Nat.le_succ n), down_succ]
  rfl

variable {α : Type} (f : Nat → List α)

/-- What the members of a range hold, read from the top down. -/
def gather (lo hi : Nat) : List α := (down lo hi).flatMap f

variable {f}

theorem gather_of_le (h : hi ≤ lo) : gather f lo hi = [] := by
  rw [gather, down_of_le h, List.flatMap_nil]

theorem gather_append (hlo : lo ≤ mid) (hhi : mid ≤ hi) :
    gather f lo hi = gather f mid hi ++ gather f lo mid := by
  rw [gather, down_append hlo hhi, List.flatMap_append, gather, gather]

theorem gather_succ (n : Nat) : gather f n (n + 1) = f n := by
  rw [gather, down_succ, List.flatMap_singleton]

theorem gather_cons (h : lo ≤ n) : gather f lo (n + 1) = f n ++ gather f lo n := by
  rw [gather, down_cons h, List.flatMap_cons, gather]

theorem length_gather_le (hlo : lo ≤ mid) : (gather f mid hi).length ≤ (gather f lo hi).length := by
  rcases Nat.le_total mid hi with hhi | hhi
  · rw [gather_append hlo hhi, List.length_append]
    exact Nat.le_add_right _ _
  · rw [gather_of_le hhi]
    exact Nat.zero_le _

theorem gather_ne_iff (hlo : lo ≤ mid) (hhi : mid ≤ hi) :
    gather f mid hi ≠ gather f lo hi ↔ (gather f mid hi).length < (gather f lo hi).length := by
  rw [gather_append hlo hhi, List.length_append, Nat.lt_add_right_iff_pos, List.length_pos_iff]
  constructor
  · intro hne hnil
    exact hne (by rw [hnil, List.append_nil])
  · intro hsome heq
    exact hsome (List.append_right_eq_self.mp heq.symm)

theorem gather_eq_nil : gather f lo hi = [] ↔ ∀ n, lo ≤ n → n < hi → f n = [] := by
  rw [gather, List.flatMap_eq_nil_iff]
  exact ⟨fun h n hlo hhi => h n (mem_down.mpr ⟨hlo, hhi⟩),
    fun h n hmem => h n (mem_down.mp hmem).1 (mem_down.mp hmem).2⟩

end Roost
