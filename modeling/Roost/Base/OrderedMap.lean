-- SUMMARY: Finite maps that keep their keys in order, with edits and pops.
import Mathlib.Data.List.Sort

/-!
# Ordered maps

A map holds its entries in the order of their keys, each key once. It is read from the
smallest key on. A key above all the others goes to the end.
-/

namespace Roost

open Prod (ext fst snd)

open List

structure OrderedMap (κ α : Type) [LinearOrder κ] where
  entries : List (κ × α)
  sorted : (entries.map fst).Pairwise (· < ·)

namespace OrderedMap

variable {κ α : Type} [LinearOrder κ]

def empty : OrderedMap κ α := { entries := [], sorted := .nil }

variable (map : OrderedMap κ α)

def keys : List κ := map.entries.map fst

def values : List α := map.entries.map snd

def length : Nat := map.entries.length

def lookup (key : κ) : Option α :=
  (map.entries.find? fun entry => decide (entry.1 = key)).map snd

/-! ## Insertion -/

/-- Place an entry among entries in key order; an entry of the same key is replaced. -/
def place (key : κ) (value : α) : List (κ × α) → List (κ × α)
  | [] => [(key, value)]
  | entry :: rest =>
    if key < entry.1 then (key, value) :: entry :: rest
    else if key = entry.1 then (key, value) :: rest
    else entry :: place key value rest

variable {key other : κ} {value : α} {entries : List (κ × α)}

theorem mem_place (h : other ∈ (place key value entries).map fst) :
    other = key ∨ other ∈ entries.map fst := by
  induction entries with
  | nil => exact .inl (by simpa [place] using h)
  | cons entry rest ih =>
    unfold place at h
    split at h
    · simpa using h
    split at h
    · rcases mem_cons.mp h with heq | hrest
      · exact .inl heq
      · exact .inr (mem_cons_of_mem _ hrest)
    rcases mem_cons.mp h with heq | hrest
    · exact .inr (heq ▸ mem_cons_self)
    · rcases ih hrest with heq | hmem
      · exact .inl heq
      · exact .inr (mem_cons_of_mem _ hmem)

theorem place_sorted (h : (entries.map fst).Pairwise (· < ·)) :
    ((place key value entries).map fst).Pairwise (· < ·) := by
  induction entries with
  | nil => simp [place]
  | cons entry rest ih =>
    rw [map_cons, pairwise_cons] at h
    unfold place
    split
    · rename_i hlt
      refine pairwise_cons.mpr ⟨?_, pairwise_cons.mpr h⟩
      intro other hmem
      rcases mem_cons.mp hmem with rfl | hrest
      · exact hlt
      · exact lt_trans hlt (h.1 other hrest)
    rename_i hge
    split
    · rename_i heq
      exact pairwise_cons.mpr ⟨heq ▸ h.1, h.2⟩
    rename_i hne
    refine pairwise_cons.mpr ⟨?_, ih h.2⟩
    intro other hmem
    rcases mem_place hmem with rfl | hrest
    · exact lt_of_le_of_ne (not_lt.mp hge) fun heq => hne heq.symm
    · exact h.1 other hrest

theorem place_last (h : ∀ other ∈ entries.map fst, other < key) :
    place key value entries = entries ++ [(key, value)] := by
  induction entries with
  | nil => rfl
  | cons entry rest ih =>
    have hhead := h entry.1 mem_cons_self
    rw [place, if_neg (not_lt.mpr hhead.le), if_neg (ne_of_gt hhead),
      ih fun other hmem => h other (mem_cons_of_mem _ hmem), cons_append]

def insert (key : κ) (value : α) : OrderedMap κ α :=
  { entries := place key value map.entries, sorted := place_sorted map.sorted }

theorem insert_last {map : OrderedMap κ α} (h : ∀ other ∈ map.keys, other < key) :
    (map.insert key value).entries = map.entries ++ [(key, value)] := place_last h

/-! ## Lookups and edits -/

/-- Keep the entries that pass a test. -/
def retain (p : κ → α → Bool) : OrderedMap κ α where
  entries := map.entries.filter fun entry => p entry.1 entry.2
  sorted := map.sorted.sublist (filter_sublist.map fst)

def erase (key : κ) : OrderedMap κ α :=
  map.retain fun other _ => decide (other ≠ key)

/-- Change every entry, each by its key. -/
def mapValues {β : Type} (f : κ → α → β) : OrderedMap κ β where
  entries := map.entries.map fun entry => (entry.1, f entry.1 entry.2)
  sorted := by
    rw [map_map]
    exact map.sorted

theorem mem_place_iff (h : (entries.map fst).Pairwise (· < ·)) (other : κ × α) :
    other ∈ place key value entries ↔ other = (key, value) ∨ other.1 ≠ key ∧ other ∈ entries := by
  induction entries with
  | nil => simp [place]
  | cons entry rest ih =>
    rw [map_cons, pairwise_cons] at h
    have hrest : ∀ other ∈ rest, entry.1 < other.1 :=
      fun other hmem => h.1 other.1 (mem_map_of_mem hmem)
    unfold place
    split
    · rename_i hlt
      have hne : ∀ other ∈ entry :: rest, other.1 ≠ key := by
        intro other hmem
        rcases mem_cons.mp hmem with rfl | hmem
        · exact ne_of_gt hlt
        · exact ne_of_gt (lt_trans hlt (hrest other hmem))
      rw [mem_cons]
      exact or_congr_right ⟨fun hmem => ⟨hne other hmem, hmem⟩, fun hmem => hmem.2⟩
    split
    · rename_i heq
      rw [mem_cons, mem_cons]
      refine or_congr_right ⟨fun hmem => ⟨heq ▸ ne_of_gt (hrest other hmem), .inr hmem⟩, ?_⟩
      rintro ⟨hne, rfl | hmem⟩
      · exact absurd heq.symm hne
      · exact hmem
    rename_i hne
    rw [mem_cons, mem_cons, ih h.2]
    constructor
    · rintro (rfl | rfl | ⟨hother, hmem⟩)
      · exact .inr ⟨fun heq => hne heq.symm, .inl rfl⟩
      · exact .inl rfl
      · exact .inr ⟨hother, .inr hmem⟩
    rintro (rfl | ⟨hother, rfl | hmem⟩)
    · exact .inr (.inl rfl)
    · exact .inl rfl
    · exact .inr (.inr ⟨hother, hmem⟩)

variable {map : OrderedMap κ α}

theorem mem_keys_insert (h : other ∈ (map.insert key value).keys) :
    other = key ∨ other ∈ map.keys :=
  mem_place h

theorem mem_keys_retain {p : κ → α → Bool} (h : key ∈ (map.retain p).keys) : key ∈ map.keys :=
  (filter_sublist.map fst).subset h

theorem lookup_eq_some_iff : map.lookup key = some value ↔ (key, value) ∈ map.entries := by
  unfold lookup
  rw [Option.map_eq_some_iff]
  constructor
  · rintro ⟨entry, hfound, rfl⟩
    have hkey : entry.1 = key := by simpa using find?_some hfound
    exact hkey ▸ mem_of_find?_eq_some hfound
  intro hmem
  cases hfound : map.entries.find? fun entry => decide (entry.1 = key) with
  | none =>
    have hmiss := find?_eq_none.mp hfound (key, value) hmem
    simp at hmiss
  | some entry =>
    refine ⟨entry, rfl, ?_⟩
    have hkey : entry.1 = key := by simpa using find?_some hfound
    have hdistinct : (map.entries.map fst).Nodup := map.sorted.imp ne_of_lt
    have hsame : entry = (key, value) :=
      inj_on_of_nodup_map hdistinct (mem_of_find?_eq_some hfound) hmem hkey
    exact congrArg snd hsame

variable (map)

theorem lookup_insert (key other : κ) (value : α) :
    (map.insert key value).lookup other = if other = key then some value else map.lookup other := by
  apply Option.ext
  intro found
  rw [lookup_eq_some_iff]
  change (other, found) ∈ place key value map.entries ↔ _
  rw [mem_place_iff map.sorted]
  split
  · rename_i heq
    simp [heq, eq_comm]
  · rename_i hne
    rw [lookup_eq_some_iff]
    simp [hne]

theorem lookup_retain (p : κ → α → Bool) (key : κ) :
    (map.retain p).lookup key = (map.lookup key).filter (p key) := by
  apply Option.ext
  intro found
  rw [lookup_eq_some_iff, Option.filter_eq_some_iff, lookup_eq_some_iff]
  simp [retain]

theorem lookup_erase (key other : κ) :
    (map.erase key).lookup other = if other = key then none else map.lookup other := by
  rw [erase, lookup_retain]
  split
  · rename_i heq
    cases map.lookup other <;> simp [heq]
  · rename_i hne
    cases map.lookup other <;> simp [hne]

theorem lookup_mapValues {β : Type} (f : κ → α → β) (key : κ) :
    (map.mapValues f).lookup key = (map.lookup key).map (f key) := by
  apply Option.ext
  intro found
  rw [lookup_eq_some_iff, Option.map_eq_some_iff]
  constructor
  · intro hmem
    obtain ⟨entry, hentry, heq⟩ := mem_map.mp hmem
    cases heq
    exact ⟨entry.2, lookup_eq_some_iff.mpr hentry, rfl⟩
  · rintro ⟨held, hheld, rfl⟩
    exact mem_map.mpr ⟨(key, held), lookup_eq_some_iff.mp hheld, rfl⟩

/-! ## Contents -/

theorem entries_nodup : map.entries.Nodup :=
  List.Nodup.of_map fst (map.sorted.imp ne_of_lt)

variable {map}

theorem mem_entries_erase {entry : κ × α} :
    entry ∈ (map.erase key).entries ↔ entry.1 ≠ key ∧ entry ∈ map.entries := by
  simp [erase, retain, and_comm]

theorem cons_erase_nodup (map : OrderedMap κ α) (key : κ) (value : α) :
    ((key, value) :: (map.erase key).entries).Nodup :=
  nodup_cons.mpr ⟨fun hmem => (mem_entries_erase.mp hmem).1 rfl, entries_nodup _⟩

theorem insert_entries_perm (map : OrderedMap κ α) (key : κ) (value : α) :
    (map.insert key value).entries.Perm ((key, value) :: (map.erase key).entries) := by
  refine (perm_ext_iff_of_nodup (entries_nodup _) (map.cons_erase_nodup key value)).mpr ?_
  intro entry
  rw [mem_cons, mem_entries_erase]
  exact mem_place_iff map.sorted entry

theorem erase_entries_perm (h : map.lookup key = some value) :
    ((key, value) :: (map.erase key).entries).Perm map.entries := by
  refine (perm_ext_iff_of_nodup (map.cons_erase_nodup key value) (entries_nodup _)).mpr ?_
  intro entry
  rw [mem_cons, mem_entries_erase]
  constructor
  · rintro (rfl | ⟨-, hmem⟩)
    · exact lookup_eq_some_iff.mp h
    · exact hmem
  intro hmem
  by_cases hkey : entry.1 = key
  · have hfound : map.lookup key = some entry.2 := by
      rw [← hkey]
      exact lookup_eq_some_iff.mpr hmem
    exact .inl (ext hkey (Option.some.inj (hfound.symm.trans h)))
  · exact .inr ⟨hkey, hmem⟩

theorem erase_absent (h : map.lookup key = none) : (map.erase key).entries = map.entries := by
  refine filter_eq_self.mpr fun entry hmem => ?_
  simp only [decide_eq_true_eq]
  rintro rfl
  rw [lookup_eq_some_iff.mpr hmem] at h
  cases h

theorem mem_keys_iff : key ∈ map.keys ↔ ∃ value, map.lookup key = some value := by
  constructor
  · intro hmem
    obtain ⟨entry, hentry, rfl⟩ := mem_map.mp hmem
    exact ⟨entry.2, lookup_eq_some_iff.mpr hentry⟩
  · rintro ⟨value, hvalue⟩
    exact mem_map.mpr ⟨(key, value), lookup_eq_some_iff.mp hvalue, rfl⟩

/-! ## Popping -/

def popUntilLoop (p : κ → Bool) : (entries : List (κ × α)) → (entries.map fst).Pairwise (· < ·) →
    List (κ × α) × Option ((κ × α) × OrderedMap κ α)
  | [], _ => ([], none)
  | entry :: rest, h =>
    if p entry.1 then ([], some (entry, { entries := rest, sorted := (pairwise_cons.mp h).2 }))
    else
      let (dropped, found) := popUntilLoop p rest (pairwise_cons.mp h).2
      (entry :: dropped, found)

/-- Pop entries from the smallest key on until one passes a test: what was dropped on the
way, and the entry with the map behind it. -/
def popUntil (map : OrderedMap κ α) (p : κ → Bool) :
    List (κ × α) × Option ((κ × α) × OrderedMap κ α) :=
  popUntilLoop p map.entries map.sorted

private theorem popUntilLoop_cases (p : κ → Bool) (entries : List (κ × α))
    (h : (entries.map fst).Pairwise (· < ·)) :
    (popUntilLoop p entries h = (entries, none) ∧ ∀ entry ∈ entries, p entry.1 = false) ∨
      ∃ dropped found rest, popUntilLoop p entries h = (dropped, some (found, rest)) ∧
        entries = dropped ++ found :: rest.entries ∧ (∀ entry ∈ dropped, p entry.1 = false) ∧
        p found.1 = true := by
  induction entries with
  | nil => exact .inl ⟨rfl, by simp⟩
  | cons entry rest ih =>
    unfold popUntilLoop
    split
    · rename_i hp
      exact .inr ⟨[], entry, _, rfl, rfl, by simp, hp⟩
    rename_i hp
    have hentry : p entry.1 = false := by simpa using hp
    rcases ih (pairwise_cons.mp h).2 with ⟨hloop, hall⟩ | ⟨dropped, found, map, hloop, heq, hdropped, hfound⟩
    · refine .inl ⟨by rw [hloop], ?_⟩
      simpa [hentry] using hall
    · refine .inr ⟨entry :: dropped, found, map, by rw [hloop], by rw [heq]; rfl, ?_, hfound⟩
      simpa [hentry] using hdropped

theorem popUntil_cases (map : OrderedMap κ α) (p : κ → Bool) :
    (map.popUntil p = (map.entries, none) ∧ ∀ key ∈ map.keys, p key = false) ∨
      ∃ dropped found rest, map.popUntil p = (dropped, some (found, rest)) ∧
        map.entries = dropped ++ found :: rest.entries ∧ (∀ entry ∈ dropped, p entry.1 = false) ∧
        p found.1 = true := by
  rcases popUntilLoop_cases p map.entries map.sorted with ⟨hloop, hall⟩ | hfound
  · refine .inl ⟨hloop, ?_⟩
    intro key hkey
    obtain ⟨entry, hentry, rfl⟩ := mem_map.mp hkey
    exact hall entry hentry
  · exact .inr hfound

end OrderedMap

end Roost
