-- SUMMARY: Finite tables edited in place, and indices that group keys by value.
import Mathlib.Data.Finmap
import Mathlib.Data.List.Sort

/-!
# Tables and indices

A table is a finite map that is edited one key at a time. What an edit does is said by
what a lookup finds afterwards.

An index groups keys under a name, and drops a name with its last key. It indexes a
partial function when a key stands under a name exactly when the function maps it there.
-/

namespace Roost

/-- A finite map. -/
abbrev Table (κ α : Type) := AList fun _ : κ => α

namespace Table

variable {κ α : Type} [DecidableEq κ] (table : Table κ α)

/-- Change the entry of a key, if there is one. -/
def modify (key : κ) (f : α → α) : Table κ α :=
  match table.lookup key with
  | none => table
  | some value => table.insert key (f value)

/-- Keep the entries that pass a test. -/
def retain (p : κ → α → Bool) : Table κ α where
  entries := table.entries.filter fun entry => p entry.1 entry.2
  nodupKeys := table.nodupKeys.sublist List.filter_sublist

/-- Change every entry, each by its key. -/
def mapValues (f : κ → α → α) : Table κ α where
  entries := table.entries.map fun entry => ⟨entry.1, f entry.1 entry.2⟩
  nodupKeys := by
    have hkeys : (table.entries.map fun entry : Sigma fun _ : κ => α =>
        (⟨entry.1, f entry.1 entry.2⟩ : Sigma fun _ : κ => α)).keys = table.entries.keys := by
      simp [List.keys, Function.comp_def]
    rw [List.NodupKeys, hkeys]
    exact table.nodupKeys

variable {table}

theorem lookup_insert (key other : κ) (value : α) : AList.lookup other (table.insert key value) =
      if other = key then some value else table.lookup other := by
  split
  · rename_i h
    subst h
    exact AList.lookup_insert table
  · rename_i h
    exact AList.lookup_insert_ne h

theorem lookup_erase (key other : κ) : AList.lookup other (table.erase key) =
      if other = key then none else table.lookup other := by
  split
  · rename_i h
    subst h
    exact AList.lookup_erase other table
  · rename_i h
    exact AList.lookup_erase_ne h

theorem lookup_modify (key other : κ) (f : α → α) : AList.lookup other (table.modify key f) =
      if other = key then (table.lookup other).map f else table.lookup other := by
  unfold modify
  split
  · rename_i hnone
    split
    · rename_i h
      rw [h, hnone]
      rfl
    · rfl
  rename_i hsome
  rw [lookup_insert]
  split
  · rename_i h
    rw [h, hsome]
    rfl
  · rfl

theorem lookup_eq_some_iff {key : κ} {value : α} :
    table.lookup key = some value ↔ ⟨key, value⟩ ∈ table.entries :=
  AList.mem_lookup_iff

theorem lookup_of_entries_nil (h : table.entries = []) (key : κ) : table.lookup key = none := by
  obtain ⟨_, _⟩ := table
  cases h
  rfl

theorem eq_empty_of_lookup (h : ∀ key, table.lookup key = none) : table = ∅ := by
  apply AList.ext
  apply List.eq_nil_iff_forall_not_mem.mpr
  intro entry hentry
  have hsome := lookup_eq_some_iff.mpr hentry
  rw [h entry.1] at hsome
  cases hsome

theorem lookup_retain (p : κ → α → Bool) (key : κ) :
    AList.lookup key (table.retain p) = (table.lookup key).filter (p key) := by
  apply Option.ext
  intro value
  rw [lookup_eq_some_iff, Option.filter_eq_some_iff, lookup_eq_some_iff]
  simp [retain]

theorem lookup_mapValues (f : κ → α → α) (key : κ) :
    AList.lookup key (table.mapValues f) = (table.lookup key).map (f key) := by
  apply Option.ext
  intro value
  rw [lookup_eq_some_iff, Option.map_eq_some_iff]
  constructor
  · intro hmem
    obtain ⟨entry, hentry, heq⟩ := List.mem_map.mp hmem
    cases heq
    exact ⟨entry.2, lookup_eq_some_iff.mpr hentry, rfl⟩
  · rintro ⟨held, hheld, rfl⟩
    exact List.mem_map.mpr ⟨⟨key, held⟩, lookup_eq_some_iff.mp hheld, rfl⟩

theorem length_keys_insert_le {key : κ} {value : α} :
    (table.insert key value).keys.length ≤ table.keys.length + 1 := by
  rw [AList.keys_insert, List.length_cons]
  exact Nat.succ_le_succ List.erase_sublist.length_le

theorem length_keys_insert {key : κ} {value held : α} (h : table.lookup key = some held) :
    (table.insert key value).keys.length = table.keys.length := by
  have hmem : key ∈ table.keys := AList.mem_keys.mp (AList.lookup_isSome.mp (h ▸ rfl))
  rw [AList.keys_insert, List.length_cons, List.length_erase_of_mem hmem]
  exact Nat.succ_pred_eq_of_pos (List.length_pos_of_mem hmem)

end Table

/-- Keys grouped under names. -/
abbrev Index (σ κ : Type) := Table σ (Finset κ)

namespace Index

variable {σ κ : Type} [DecidableEq σ] [DecidableEq κ] (index : Index σ κ)

def under (name : σ) : Finset κ := (index.lookup name).getD ∅

def add (name : σ) (key : κ) : Index σ κ :=
  index.insert name (insert key (index.under name))

def drop (name : σ) (key : κ) : Index σ κ :=
  match index.lookup name with
  | none => index
  | some keys =>
    let keys := keys.erase key
    if keys = ∅ then index.erase name else index.insert name keys

def ascending [LinearOrder κ] (keys : Finset κ) : List κ :=
  Quot.liftOn keys.val (fun list => list.insertionSort (· ≤ ·)) fun list list' hperm =>
    (((list.perm_insertionSort _).trans hperm).trans
      (list'.perm_insertionSort _).symm).eq_of_pairwise (fun _ _ _ _ => le_antisymm)
      (list.pairwise_insertionSort _) (list'.pairwise_insertionSort _)

/-- The index groups keys the way `f` maps them. -/
structure Indexes (f : κ → Option σ) : Prop where
  under : ∀ name key, key ∈ index.under name ↔ f key = some name
  full : ∀ name, index.lookup name ≠ some ∅

variable {index} {f : κ → Option σ} {name : σ} {key : κ}

omit [DecidableEq κ] in
@[simp] theorem mem_ascending [LinearOrder κ] {keys : Finset κ} :
    key ∈ ascending keys ↔ key ∈ keys := by
  obtain ⟨⟨list⟩, _⟩ := keys
  exact (list.perm_insertionSort _).mem_iff

omit [DecidableEq κ] in
theorem under_insert (name other : σ) (keys : Finset κ) :
    Index.under (index.insert name keys) other =
      if other = name then keys else index.under other := by
  unfold Index.under
  rw [Table.lookup_insert]
  split <;> rfl

theorem under_add (name other : σ) (key : κ) : (index.add name key).under other =
      if other = name then insert key (index.under name) else index.under other :=
  under_insert name other _

theorem under_drop (name other : σ) (key : κ) : (index.drop name key).under other =
      if other = name then (index.under name).erase key else index.under other := by
  unfold drop
  split
  · rename_i hnone
    split
    · rename_i h
      subst h
      simp [Index.under, hnone]
    · rfl
  rename_i keys hsome
  have hunder : index.under name = keys := by simp [Index.under, hsome]
  dsimp only
  rw [hunder]
  split
  · rename_i hempty
    unfold Index.under
    rw [Table.lookup_erase, hempty]
    split <;> rfl
  · exact under_insert name other _

omit [DecidableEq κ] in
theorem indexes_empty : Indexes (∅ : Index σ κ) fun _ => none :=
  ⟨by simp [Index.under], by simp⟩

theorem Indexes.add (h : Indexes index f) (hkey : f key = none) :
    Indexes (index.add name key) (Function.update f key (some name)) := by
  refine ⟨?_, ?_⟩
  · intro other k
    rw [under_add]
    by_cases hk : k = key
    · subst hk
      rw [Function.update_self, Option.some.injEq]
      split
      · rename_i hother
        simp [hother]
      · rename_i hother
        rw [h.under, hkey]
        simp [Ne.symm hother]
    · rw [Function.update_of_ne hk]
      split
      · rename_i hother
        rw [Finset.mem_insert, h.under, hother]
        simp [hk]
      · exact h.under other k
  · intro other
    unfold Index.add
    rw [Table.lookup_insert]
    split
    · simp
    · exact h.full other

theorem Indexes.drop (h : Indexes index f) (hkey : f key = some name) :
    Indexes (index.drop name key) (Function.update f key none) := by
  refine ⟨?_, ?_⟩
  · intro other k
    rw [under_drop]
    by_cases hk : k = key
    · subst hk
      rw [Function.update_self]
      split
      · simp
      · rename_i hother
        rw [h.under, hkey]
        simp [Ne.symm hother]
    · rw [Function.update_of_ne hk]
      split
      · rename_i hother
        rw [Finset.mem_erase, h.under, hother]
        simp [hk]
      · exact h.under other k
  intro other
  unfold Index.drop
  split
  · exact h.full other
  rename_i keys hsome
  dsimp only
  split
  · rw [Table.lookup_erase]
    split
    · simp
    · exact h.full other
  rename_i hnon
  rw [Table.lookup_insert]
  split
  · simpa using hnon
  · exact h.full other

theorem card_under_add_le {cap : Nat} (hcap : ∀ name, (index.under name).card ≤ cap)
    (hroom : (index.under name).card < cap) (other : σ) :
    ((index.add name key).under other).card ≤ cap := by
  rw [under_add]
  split
  · exact Nat.le_trans (Finset.card_insert_le _ _) hroom
  · exact hcap other

theorem card_under_drop_le {cap : Nat} (hcap : ∀ name, (index.under name).card ≤ cap)
    (other : σ) : ((index.drop name key).under other).card ≤ cap := by
  rw [under_drop]
  split
  · exact Nat.le_trans Finset.card_erase_le (hcap name)
  · exact hcap other

end Index

end Roost
