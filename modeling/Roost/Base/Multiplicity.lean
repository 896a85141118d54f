-- SUMMARY: How many keys of a map look up a value that shows something.
import Mathlib.Data.Set.Card
import Roost.Base.Index
import Roost.Base.OrderedMap

/-!
# Multiplicity in a map

The values of a map show something as often as there are keys whose value shows it. So two maps
that look up alike show everything equally often, however each of them is laid out.
-/

namespace Roost

variable {κ α β : Type} [DecidableEq β]

theorem count_filterMap_entries {entries : List (κ × α)} (hnd : (entries.map Prod.fst).Nodup)
    (f : α → Option β) (value : β) :
    {key | ∃ held, (key, held) ∈ entries ∧ f held = some value}.Finite ∧
      ((entries.map Prod.snd).filterMap f).count value =
        {key | ∃ held, (key, held) ∈ entries ∧ f held = some value}.ncard := by
  induction entries with
  | nil => simp
  | cons entry rest ih =>
    obtain ⟨key, held⟩ := entry
    rw [List.map_cons, List.nodup_cons] at hnd
    obtain ⟨hfinite, hcount⟩ := ih hnd.2
    have habsent : key ∉ {key | ∃ held, (key, held) ∈ rest ∧ f held = some value} := by
      rintro ⟨other, hmem, -⟩
      exact hnd.1 (List.mem_map.mpr ⟨(key, other), hmem, rfl⟩)
    rw [List.map_cons, List.filterMap_cons]
    by_cases hshows : f held = some value
    · have hkeys : {other | ∃ found, (other, found) ∈ (key, held) :: rest ∧ f found = some value} =
          insert key {key | ∃ held, (key, held) ∈ rest ∧ f held = some value} := by
        ext other
        constructor
        · rintro ⟨found, hmem, hfound⟩
          rcases List.mem_cons.mp hmem with heq | hmem
          · exact .inl (congrArg Prod.fst heq)
          · exact .inr ⟨found, hmem, hfound⟩
        · rintro (rfl | ⟨found, hmem, hfound⟩)
          · exact ⟨held, List.mem_cons_self, hshows⟩
          · exact ⟨found, List.mem_cons_of_mem _ hmem, hfound⟩
      rw [hkeys, hshows, Set.ncard_insert_of_notMem habsent hfinite]
      exact ⟨hfinite.insert key, by rw [List.count_cons_self, hcount]⟩
    have hkeys : {other | ∃ found, (other, found) ∈ (key, held) :: rest ∧ f found = some value} =
        {key | ∃ held, (key, held) ∈ rest ∧ f held = some value} := by
      ext other
      constructor
      · rintro ⟨found, hmem, hfound⟩
        rcases List.mem_cons.mp hmem with heq | hmem
        · cases heq
          exact absurd hfound hshows
        · exact ⟨found, hmem, hfound⟩
      · rintro ⟨found, hmem, hfound⟩
        exact ⟨found, List.mem_cons_of_mem _ hmem, hfound⟩
    rw [hkeys]
    refine ⟨hfinite, ?_⟩
    cases hother : f held with
    | none => exact hcount
    | some =>
      dsimp only
      rw [List.count_cons_of_ne, hcount]
      rintro rfl
      exact hshows hother

theorem OrderedMap.count_values [LinearOrder κ] (map : OrderedMap κ α) (f : α → Option β)
    (value : β) : {key | (map.lookup key).bind f = some value}.Finite ∧
      (map.values.filterMap f).count value =
        {key | (map.lookup key).bind f = some value}.ncard := by
  have hkeys : {key | (map.lookup key).bind f = some value} =
      {key | ∃ held, (key, held) ∈ map.entries ∧ f held = some value} := by
    ext key
    simp only [Set.mem_ofPred_eq, Option.bind_eq_some_iff, OrderedMap.lookup_eq_some_iff]
  rw [hkeys]
  exact count_filterMap_entries (map.sorted.imp ne_of_lt) f value

theorem Table.count_values [DecidableEq κ] (table : Table κ α) {values : List α}
    (hvalues : values.Perm (table.entries.map Sigma.snd)) (f : α → Option β) (value : β) :
    (values.filterMap f).count value = {key | (table.lookup key).bind f = some value}.ncard := by
  have hkeys : {key | (table.lookup key).bind f = some value} =
      {key | ∃ held, (key, held) ∈ (table.entries.map fun entry => (entry.1, entry.2)) ∧
        f held = some value} := by
    ext key
    simp only [Set.mem_ofPred_eq, Option.bind_eq_some_iff]
    refine exists_congr fun held => and_congr_left fun _ => ?_
    rw [← Option.mem_def, AList.mem_lookup_iff, List.mem_map]
    constructor
    · intro hmem
      exact ⟨_, hmem, rfl⟩
    · rintro ⟨entry, hmem, heq⟩
      cases heq
      exact hmem
  have hnd : ((table.entries.map fun entry => (entry.1, entry.2)).map Prod.fst).Nodup := by
    rw [List.map_map]
    exact table.nodupKeys
  have hcount := (count_filterMap_entries hnd f value).2
  rw [hkeys, ← hcount, List.map_map]
  exact (hvalues.filterMap f).count_eq value

end Roost
