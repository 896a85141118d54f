-- SUMMARY: Interning key/value pairs into a capped map, whatever their order.
import Mathlib.Data.Finset.Card
import Mathlib.Data.List.AList

/-!
# Interning

A list of pairs is interned one by one: a new key is entered, a known key must
carry the value it was entered with. Whether a list can be interned depends on
which pairs it has, not on their order or number.
-/

namespace Roost.Intern

variable {κ ν : Type} [DecidableEq κ]

/-- No key with two values, and at most `cap` keys. -/
structure Fits (cap : Nat) (pairs : List (κ × ν)) : Prop where
  single : ∀ k v v', (k, v) ∈ pairs → (k, v') ∈ pairs → v = v'
  capped : (pairs.map Prod.fst).toFinset.card ≤ cap

def Holds (map : AList fun _ : κ => ν) (pairs : List (κ × ν)) : Prop :=
  ∀ k v, map.lookup k = some v ↔ (k, v) ∈ pairs

variable {cap : Nat} {map : AList fun _ : κ => ν} {pairs pairs' : List (κ × ν)} {k : κ} {v : ν}

theorem Fits.mono (h : Fits cap pairs) (hsub : pairs' ⊆ pairs) : Fits cap pairs' := by
  refine ⟨?_, ?_⟩
  · intro k v v' hv hv'
    exact h.single k v v' (hsub hv) (hsub hv')
  refine Nat.le_trans (Finset.card_le_card ?_) h.capped
  intro k hk
  rw [List.mem_toFinset] at hk ⊢
  exact List.map_subset Prod.fst hsub hk

theorem holds_nil : Holds (∅ : AList fun _ : κ => ν) [] := by
  intro k v
  simp

section

variable (h : Holds map pairs)
include h

theorem Holds.congr (hmem : ∀ p, p ∈ pairs ↔ p ∈ pairs') : Holds map pairs' := by
  intro k v
  rw [h k v, hmem]

theorem Holds.single {v v' : ν} (hv : (k, v) ∈ pairs) (hv' : (k, v') ∈ pairs) : v = v' := by
  have heq := ((h k v).mpr hv).symm.trans ((h k v').mpr hv')
  exact Option.some.inj heq

theorem Holds.keys_toFinset : map.keys.toFinset = (pairs.map Prod.fst).toFinset := by
  ext k
  rw [List.mem_toFinset, List.mem_toFinset, ← AList.mem_keys, ← AList.lookup_isSome,
    Option.isSome_iff_exists]
  simp [h k]

theorem Holds.keys_length : map.keys.length = (pairs.map Prod.fst).toFinset.card := by
  rw [← h.keys_toFinset, List.toFinset_card_of_nodup map.keys_nodup]

theorem Holds.fits (hcap : map.keys.length ≤ cap) : Fits cap pairs :=
  ⟨fun _ _ _ hv hv' => h.single hv hv', h.keys_length ▸ hcap⟩

theorem Holds.concat_known (hk : map.lookup k = some v) : Holds map (pairs ++ [(k, v)]) := by
  have hmem := (h k v).mp hk
  apply h.congr
  intro p
  rw [List.mem_append, List.mem_singleton]
  constructor
  · exact Or.inl
  intro hp
  rcases hp with hp | rfl
  · exact hp
  · exact hmem

theorem Holds.concat_new (hk : map.lookup k = none) (v : ν) :
    Holds (map.insert k v) (pairs ++ [(k, v)]) := by
  intro k' v'
  rw [List.mem_append, List.mem_singleton, Prod.mk.injEq]
  by_cases heq : k' = k
  · subst heq
    have hnone : (k', v') ∉ pairs := by
      intro hmem
      rw [(h k' v').mpr hmem] at hk
      cases hk
    simp [AList.lookup_insert, hnone, eq_comm]
  · rw [AList.lookup_insert_ne heq, h k' v']
    simp [heq]

end

theorem keys_length_insert_new (hk : map.lookup k = none) (v : ν) :
    (map.insert k v).keys.length = map.keys.length + 1 := by
  have hnot : k ∉ map.keys := by
    rw [← AList.mem_keys]
    exact AList.lookup_eq_none.mp hk
  rw [AList.keys_insert, List.length_cons, List.erase_of_not_mem hnot]

end Roost.Intern
