-- SUMMARY: A table of slots addressed by a key: claiming, filling, and reading back.
import Mathlib.Data.Finset.Card
import Mathlib.Data.List.Range

/-!
# Slots

Items name the slot they belong to by a key. `claim` checks with one flag per
slot that no two items want the same one; `fill` writes each item into its slot.
With distinct keys the table afterwards is read off the items: a slot an item
names holds it, every other slot is as it was.
-/

namespace Roost.Slots

open List

variable {α β : Type} (key : β → Nat)

/-- Flag the slots the items name; `none` when one is out of range or named twice. -/
def claim : List Bool → List β → Option (List Bool)
  | flags, [] => some flags
  | flags, item :: items =>
    match flags[key item]? with
    | some false => claim (flags.set (key item) true) items
    | _ => none

def fill (value : β → α) (slots : List α) (items : List β) : List α :=
  items.foldl (fun slots item => slots.set (key item) (value item)) slots

def at? (items : List β) (i : Nat) : Option β := items.find? fun item => decide (key item = i)

variable {key}

@[simp] theorem at?_nil (i : Nat) : at? key [] i = none := rfl

theorem at?_cons (item : β) (items : List β) (i : Nat) :
    at? key (item :: items) i = if key item = i then some item else at? key items i := by
  unfold at?
  rw [find?_cons]
  split <;> simp_all

variable {items : List β} {i : Nat}

theorem at?_eq_none_iff :
    at? key items i = none ↔ i ∉ items.map key := by
  simp [at?]

theorem at?_eq_some_iff (hnd : (items.map key).Nodup) {item : β} :
    at? key items i = some item ↔ item ∈ items ∧ key item = i := by
  induction items with
  | nil => simp
  | cons first items ih =>
    rw [map_cons, nodup_cons] at hnd
    rw [at?_cons]
    split
    · rename_i hfirst
      constructor
      · intro h
        cases h
        exact ⟨mem_cons_self, hfirst⟩
      intro h
      rcases mem_cons.mp h.1 with rfl | hmem
      · rfl
      · exact absurd (mem_map.mpr ⟨item, hmem, h.2.trans hfirst.symm⟩) hnd.1
    rename_i hfirst
    rw [ih hnd.2, mem_cons]
    constructor
    · intro h
      exact ⟨Or.inr h.1, h.2⟩
    intro h
    rcases h.1 with rfl | hmem
    · exact absurd h.2 hfirst
    · exact ⟨hmem, h.2⟩

theorem claim_cons_eq_some {flags out : List Bool} {item : β} :
    claim key flags (item :: items) = some out ↔
      flags[key item]? = some false ∧ claim key (flags.set (key item) true) items = some out := by
  rw [claim]
  split
  · rename_i h
    simp [h]
  rename_i h
  constructor
  · intro hnone
    cases hnone
  · intro hfree
    exact absurd hfree.1 h

theorem claim_eq_some {flags : List Bool} :
    (∃ out, claim key flags items = some out) ↔
      (∀ item ∈ items, flags[key item]? = some false) ∧ (items.map key).Nodup := by
  induction items generalizing flags with
  | nil => simp [claim]
  | cons item items ih =>
    simp only [claim_cons_eq_some, exists_and_left, ih, List.mem_cons, forall_eq_or_imp,
      List.map_cons, List.nodup_cons, List.mem_map, not_exists, not_and]
    constructor
    · rintro ⟨hfree, hrest, hnd⟩
      have hne : ∀ other ∈ items, key other ≠ key item := by
        intro other hmem heq
        have hset := hrest other hmem
        rw [heq, List.getElem?_set_self (List.getElem?_eq_some_iff.mp hfree).1] at hset
        cases hset
      refine ⟨⟨hfree, ?_⟩, hne, hnd⟩
      intro other hmem
      rw [← hrest other hmem, List.getElem?_set_ne (Ne.symm (hne other hmem))]
    · rintro ⟨⟨hfree, hrest⟩, hne, hnd⟩
      refine ⟨hfree, ?_, hnd⟩
      intro other hmem
      rw [List.getElem?_set_ne (Ne.symm (hne other hmem)), hrest other hmem]

theorem claim_replicate_eq_some {n : Nat} :
    (∃ out, claim key (replicate n false) items = some out) ↔
      (∀ item ∈ items, key item < n) ∧ (items.map key).Nodup := by
  simp [claim_eq_some, getElem?_replicate]

variable {value : β → α}

@[simp] theorem fill_nil (slots : List α) : fill key value slots [] = slots := rfl

@[simp] theorem fill_cons (slots : List α) (item : β) (items : List β) :
    fill key value slots (item :: items) =
      fill key value (slots.set (key item) (value item)) items := rfl

theorem fill_append (slots : List α) (items items' : List β) :
    fill key value slots (items ++ items') = fill key value (fill key value slots items) items' :=
  foldl_append

@[simp] theorem fill_length (slots : List α) (items : List β) :
    (fill key value slots items).length = slots.length := by
  induction items generalizing slots with
  | nil => rfl
  | cons item items ih => simp [ih]

theorem mem_fill {slots : List α} {a : α} (h : a ∈ fill key value slots items) :
    a ∈ slots ∨ ∃ item ∈ items, value item = a := by
  induction items generalizing slots with
  | nil => exact Or.inl h
  | cons item items ih =>
    rw [fill_cons] at h
    rcases ih h with hslot | ⟨other, hmem, hvalue⟩
    · rcases mem_or_eq_of_mem_set hslot with hold | heq
      · exact Or.inl hold
      · exact Or.inr ⟨item, mem_cons_self, heq.symm⟩
    · exact Or.inr ⟨other, mem_cons_of_mem _ hmem, hvalue⟩

theorem fill_getElem? (value : β → α) (slots : List α)
    (hnd : (items.map key).Nodup) (hi : i < slots.length) :
    (fill key value slots items)[i]? = ((at? key items i).map value).or slots[i]? := by
  induction items generalizing slots with
  | nil => simp
  | cons item items ih =>
    rw [map_cons, nodup_cons] at hnd
    rw [fill_cons, ih _ hnd.2 (by simpa using hi), at?_cons]
    by_cases hkey : key item = i
    · subst hkey
      have hnone : at? key items (key item) = none := at?_eq_none_iff.mpr hnd.1
      simp [hnone, hi]
    · rw [if_neg hkey, getElem?_set_ne hkey]

/-! ## Tables that are full -/

theorem exists_key_of_full {n : Nat} (hlt : ∀ item ∈ items, key item < n)
    (hnd : (items.map key).Nodup) (hlen : items.length = n) (hi : i < n) :
    ∃ item ∈ items, key item = i := by
  have hsub : (items.map key).toFinset ⊆ Finset.range n := by
    intro k hk
    obtain ⟨item, hmem, rfl⟩ := mem_map.mp (mem_toFinset.mp hk)
    exact Finset.mem_range.mpr (hlt item hmem)
  have hcard : (Finset.range n).card ≤ (items.map key).toFinset.card := by
    rw [toFinset_card_of_nodup hnd, length_map, hlen, Finset.card_range]
  have hall := Finset.eq_of_subset_of_card_le hsub hcard
  have hmem : i ∈ (items.map key).toFinset := hall ▸ Finset.mem_range.mpr hi
  exact mem_map.mp (mem_toFinset.mp hmem)

def collect (key : β → Nat) (n : Nat) (items : List β) : List β :=
  (range n).filterMap (at? key items)

section Full

variable {n : Nat} {items : List β} (hlt : ∀ item ∈ items, key item < n)
  (hnd : (items.map key).Nodup) (hlen : items.length = n)
include hlt hnd hlen

theorem at?_isSome_of_full {i : Nat} (hi : i < n) : ∃ item, at? key items i = some item := by
  obtain ⟨item, hmem, hkey⟩ := exists_key_of_full hlt hnd hlen hi
  exact ⟨item, (at?_eq_some_iff hnd).mpr ⟨hmem, hkey⟩⟩

theorem map_at?_of_full : (range n).map (at? key items) = (collect key n items).map some := by
  have hall : ∀ k ≤ n, (range k).map (at? key items) =
      ((range k).filterMap (at? key items)).map some := by
    intro k hk
    induction k with
    | zero => rfl
    | succ k ih =>
      obtain ⟨_, hitem⟩ := at?_isSome_of_full hlt hnd hlen hk
      rw [range_succ, map_append, filterMap_append, ih (Nat.le_of_succ_le hk)]
      simp [hitem]
  exact hall n (Nat.le_refl n)

theorem collect_length : (collect key n items).length = n := by
  have h := congrArg length (map_at?_of_full hlt hnd hlen)
  simpa using h.symm

theorem collect_getElem? {i : Nat} (hi : i < n) : (collect key n items)[i]? = at? key items i := by
  obtain ⟨_, hitem⟩ := at?_isSome_of_full hlt hnd hlen hi
  have h := congrArg (fun list => list[i]?) (map_at?_of_full hlt hnd hlen)
  simp only [getElem?_map, getElem?_range hi, Option.map_some, hitem] at h
  cases hget : (collect key n items)[i]? with
  | none =>
    rw [hget] at h
    cases h
  | some =>
    rw [hget, Option.map_some, Option.some.injEq] at h
    rw [hitem, h]

theorem collect_map_key : (collect key n items).map key = range n := by
  apply ext_getElem?
  intro i
  rw [getElem?_map]
  rcases Nat.lt_or_ge i n with hi | hi
  · obtain ⟨_, hitem⟩ := at?_isSome_of_full hlt hnd hlen hi
    rw [collect_getElem? hlt hnd hlen hi, hitem, getElem?_range hi, Option.map_some,
      ((at?_eq_some_iff hnd).mp hitem).2]
  · rw [getElem?_eq_none (by rw [collect_length hlt hnd hlen]; exact hi),
      getElem?_eq_none (by simpa using hi)]
    rfl

theorem collect_perm : (collect key n items).Perm items := by
  have hkeys := collect_map_key hlt hnd hlen
  have hnod : (collect key n items).Nodup := by
    apply List.Nodup.of_map key
    rw [hkeys]
    exact nodup_range
  rw [perm_ext_iff_of_nodup hnod (List.Nodup.of_map key hnd)]
  intro item
  constructor
  · intro hmem
    obtain ⟨_, -, hitem⟩ := mem_filterMap.mp hmem
    exact ((at?_eq_some_iff hnd).mp hitem).1
  · intro hmem
    refine mem_filterMap.mpr ⟨key item, mem_range.mpr (hlt item hmem), ?_⟩
    exact (at?_eq_some_iff hnd).mpr ⟨hmem, rfl⟩

theorem collect_congr {items' : List β} (hperm : items'.Perm items) :
    collect key n items' = collect key n items := by
  have hnd' : (items'.map key).Nodup := (hperm.map key).nodup_iff.mpr hnd
  apply filterMap_congr
  intro i hi
  obtain ⟨_, hitem⟩ := at?_isSome_of_full hlt hnd hlen (mem_range.mp hi)
  obtain ⟨hmem, hkey⟩ := (at?_eq_some_iff hnd).mp hitem
  rw [hitem]
  exact (at?_eq_some_iff hnd').mpr ⟨hperm.mem_iff.mpr hmem, hkey⟩

theorem collect_eq_mergeSort :
    collect key n items = items.mergeSort (fun a b => decide (key a ≤ key b)) := by
  have hpairw : (collect key n items).Pairwise fun a b => key a ≤ key b := by
    rw [← pairwise_map (f := key), collect_map_key hlt hnd hlen]
    exact pairwise_lt_range.imp Nat.le_of_lt
  have hsorted : (items.mergeSort fun a b => decide (key a ≤ key b)).Pairwise
      fun a b => decide (key a ≤ key b) = true :=
    pairwise_mergeSort (fun a b c => by simpa using Nat.le_trans)
      (fun a b => by simpa using Nat.le_total _ _) items
  have hcoll := collect_perm hlt hnd hlen
  have hmerge := mergeSort_perm items fun a b => decide (key a ≤ key b)
  refine (hcoll.trans hmerge.symm).eq_of_pairwise ?_ hpairw (hsorted.imp of_decide_eq_true)
  intro a b ha hb hab hba
  have hfirst : at? key items (key a) = some a :=
    (at?_eq_some_iff hnd).mpr ⟨hcoll.mem_iff.mp ha, rfl⟩
  have hsecond : at? key items (key a) = some b :=
    (at?_eq_some_iff hnd).mpr ⟨hmerge.mem_iff.mp hb, Nat.le_antisymm hba hab⟩
  exact Option.some.inj (hfirst.symm.trans hsecond)

theorem fill_full :
    fill key some (replicate n (none : Option β)) items = (collect key n items).map some := by
  rw [← map_at?_of_full hlt hnd hlen]
  apply ext_getElem?
  intro i
  rcases Nat.lt_or_ge i n with hi | hi
  · rw [fill_getElem? some _ hnd (by simpa using hi), getElem?_map, getElem?_range hi]
    obtain ⟨_, hitem⟩ := at?_isSome_of_full hlt hnd hlen hi
    simp [hitem]
  · rw [getElem?_eq_none (by simpa using hi), getElem?_eq_none (by simpa using hi)]

end Full

end Roost.Slots
