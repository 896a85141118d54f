-- SUMMARY: Retained claims, capped per viewer and per process.
import Roost.Base.Transducer
import Roost.Protocol.TerminalView.Record

/-!
# Tombstones

The store is a lookup table and the recency order that eviction walks. The order holds
one entry per retention, superseded ones included; an entry whose sequence no longer
matches is stale and is dropped when the walk reaches it.
-/

namespace Roost.TerminalView

open List

def viewerTombstoneCap : Nat := 128

def processTombstoneCap : Nat := 131072

/-- A retained claim for a view whose record is gone. -/
structure Tombstone where
  key : String
  viewerKey : String
  revision : Nat
  intent : ViewIntent
  expiresMs : Nat
  sequence : Nat

structure TombstoneStore where
  entries : Table String Tombstone := ∅
  order : List (String × Nat) := []
  nextSequence : Nat := 0

namespace TombstoneStore

variable (store : TombstoneStore)

def get (key : String) : Option Tombstone := store.entries.lookup key

def len : Nat := store.entries.keys.length

/-- Forget one claim. -/
def remove (key : String) : TombstoneStore := { store with entries := store.entries.erase key }

/-- Drop the claims that pass a test. -/
private def removeWhere (doomed : Tombstone → Bool) : TombstoneStore :=
  { store with entries := store.entries.retain fun _ tombstone => !doomed tombstone }

/-- Drop every claim of a device and of its tabs. -/
def removeViewer (fingerprint : String) : TombstoneStore :=
  let owned := fingerprint ++ ":"
  store.removeWhere fun tombstone =>
    tombstone.viewerKey == fingerprint ||
      (utf8Bytes owned).isPrefixOf (utf8Bytes tombstone.viewerKey)

/-- Drop every claim that names this session. -/
def removeSession (sessionId : String) : TombstoneStore :=
  store.removeWhere fun tombstone => tombstone.intent.sessionId == sessionId

/-- Drop every claim whose lease has lapsed. -/
def expire (nowMs : Nat) : TombstoneStore :=
  store.removeWhere fun tombstone => decide (tombstone.expiresMs ≤ nowMs)

/-- Walk the order from its oldest end: skip superseded entries, stop at the first live
claim, and remove it if it is wanted. -/
private def evictWalk (wanted : Tombstone → Bool) : List (String × Nat) → TombstoneStore × Bool
  | [] => ({ store with order := [] }, false)
  | (key, sequence) :: order =>
    match store.entries.lookup key with
    | none => evictWalk wanted order
    | some tombstone =>
      if tombstone.sequence ≠ sequence then evictWalk wanted order
      else if !wanted tombstone then ({ store with order := (key, sequence) :: order }, false)
      else ({ store with entries := store.entries.erase key, order }, true)

/-- Remove the oldest live claim, if `wanted` accepts it. -/
def evictOldest (wanted : Tombstone → Bool) : TombstoneStore × Bool :=
  store.evictWalk wanted store.order

/-- Evict while more than `cap` claims are counted; a successful eviction counts one less. -/
private def evictOver (cap : Nat) (wanted : Tombstone → Bool) : Nat → TombstoneStore →
    TombstoneStore
  | 0, store => store
  | count + 1, store =>
    if count + 1 > cap then
      match store.evictOldest wanted with
      | (store, true) => evictOver cap wanted count store
      | (store, false) => store
    else store

/-- Oldest-first eviction within the process cap and then the viewer's own. -/
def evict (viewerKey : String) : TombstoneStore :=
  let store := evictOver processTombstoneCap (fun _ => true) store.len store
  let own := (store.entries.entries.filter fun entry => entry.2.viewerKey == viewerKey).length
  evictOver viewerTombstoneCap (fun tombstone => tombstone.viewerKey == viewerKey) own store

/-- Retain one claim for one lease. -/
def retain (nowMs : Nat) (key viewerKey : String) (revision : Nat) (intent : ViewIntent) :
    TombstoneStore :=
  let sequence := store.nextSequence + 1
  let tombstone : Tombstone :=
    { key, viewerKey, revision, intent, sequence
      expiresMs := saturatingAdd nowMs terminalViewLeaseMs }
  evict
    { entries := store.entries.insert key tombstone
      order := store.order ++ [(key, sequence)]
      nextSequence := sequence }
    viewerKey

/-! ## The claims in the order of their retention -/

/-- The claim a queue entry stands for, unless it is stale. -/
def claimAt (entry : String × Nat) : Option Tombstone :=
  (store.get entry.1).filter fun tombstone => decide (tombstone.sequence = entry.2)

/-- The retained claims, least recently retained first. -/
def live : List Tombstone := store.order.filterMap store.claimAt

/-- How many claims a viewer holds. -/
def owned (viewerKey : String) : Nat :=
  (store.entries.entries.filter fun entry => entry.2.viewerKey == viewerKey).length

/-- Every claim is filed under its key and has its entry in the queue, whose sequences ascend. -/
structure Filed : Prop where
  filed : ∀ key tombstone, store.get key = some tombstone →
    tombstone.key = key ∧ (key, tombstone.sequence) ∈ store.order
  ascending : store.order.Pairwise fun earlier later => earlier.2 < later.2
  below : ∀ entry ∈ store.order, entry.2 ≤ store.nextSequence

variable {store} {wanted : Tombstone → Bool} {entry : String × Nat} {tombstone : Tombstone}

theorem claimAt_eq_some :
    store.claimAt entry = some tombstone ↔
      store.get entry.1 = some tombstone ∧ tombstone.sequence = entry.2 := by
  simp [claimAt, Option.filter_eq_some_iff]

theorem mem_live (h : store.Filed) :
    tombstone ∈ store.live ↔ store.get tombstone.key = some tombstone := by
  simp only [live, mem_filterMap, claimAt_eq_some]
  constructor
  · rintro ⟨entry, -, hget, -⟩
    rw [(h.filed _ _ hget).1, hget]
  · exact fun hget => ⟨_, (h.filed _ _ hget).2, hget, rfl⟩

theorem live_ascending (h : store.Filed) :
    store.live.Pairwise fun earlier later => earlier.sequence < later.sequence := by
  refine h.ascending.filterMap _ fun earlier later hlt first hfirst second hsecond => ?_
  rw [(claimAt_eq_some.mp hfirst).2, (claimAt_eq_some.mp hsecond).2]
  exact hlt

theorem live_perm (h : store.Filed) : store.live.Perm (store.entries.entries.map Sigma.snd) := by
  have hentry : (store.entries.entries.map Sigma.snd).Nodup := by
    refine List.Nodup.of_map Tombstone.key ?_
    have hkeys : (store.entries.entries.map Sigma.snd).map Tombstone.key = store.entries.keys := by
      rw [map_map]
      exact map_congr_left fun entry hmem =>
        (h.filed _ _ (Table.lookup_eq_some_iff.mpr hmem)).1
    rw [hkeys]
    exact store.entries.nodupKeys
  have hlive : store.live.Nodup := (live_ascending h).imp fun hlt heq => by
    rw [heq] at hlt
    exact hlt.false
  refine (perm_ext_iff_of_nodup hlive hentry).mpr fun tombstone => ?_
  rw [mem_live h, mem_map]
  constructor
  · exact fun hget => ⟨_, Table.lookup_eq_some_iff.mp hget, rfl⟩
  rintro ⟨entry, hmem, rfl⟩
  have hget := Table.lookup_eq_some_iff.mpr hmem
  rw [(h.filed _ _ hget).1]
  exact hget

theorem len_eq (h : store.Filed) : store.len = store.live.length := by
  rw [(live_perm h).length_eq, length_map]
  simp [len, AList.keys, keys]

theorem owned_eq (h : store.Filed) (viewerKey : String) :
    store.owned viewerKey = store.live.countP fun tombstone => tombstone.viewerKey == viewerKey := by
  rw [(live_perm h).countP_eq, countP_map, countP_eq_length_filter]
  rfl

/-! ## Eviction -/

def popFirst (wanted : Tombstone → Bool) : List Tombstone → List Tombstone × Bool
  | [] => ([], false)
  | first :: rest => if wanted first then (rest, true) else (first :: rest, false)

/-- Queue entries that stand for no claim. -/
def stale (store : TombstoneStore) : Nat := store.order.length - store.live.length

theorem live_le_order (store : TombstoneStore) : store.live.length ≤ store.order.length :=
  length_filterMap_le _ _

theorem Filed.tail {order : List (String × Nat)}
    (h : Filed { store with order := entry :: order }) (hstale : store.claimAt entry = none) :
    Filed { store with order } where
  filed key tombstone hget := by
    refine ⟨(h.filed key tombstone hget).1, ?_⟩
    rcases mem_cons.mp (h.filed key tombstone hget).2 with heq | hmem
    · have hclaim : store.claimAt entry = some tombstone :=
        claimAt_eq_some.mpr (heq ▸ ⟨hget, rfl⟩)
      rw [hstale] at hclaim
      cases hclaim
    · exact hmem
  ascending := (pairwise_cons.mp h.ascending).2
  below := fun other hmem => h.below other (mem_cons_of_mem _ hmem)

theorem Filed.popped {order : List (String × Nat)}
    (h : Filed { store with order := entry :: order }) {tombstone : Tombstone}
    (hlive : store.claimAt entry = some tombstone) :
    Filed { store with entries := store.entries.erase entry.1, order } ∧
      live { store with entries := store.entries.erase entry.1, order } =
        live { store with order } := by
  have hlater := (pairwise_cons.mp h.ascending).1
  constructor
  · refine ⟨fun key tombstone hget => ?_, (pairwise_cons.mp h.ascending).2,
      fun other hmem => h.below other (mem_cons_of_mem _ hmem)⟩
    simp only [get, Table.lookup_erase] at hget
    split at hget
    · cases hget
    rename_i hne
    refine ⟨(h.filed key tombstone hget).1, ?_⟩
    exact (mem_cons.mp (h.filed key tombstone hget).2).resolve_left fun heq =>
      hne (congrArg Prod.fst heq)
  refine filterMap_congr fun other hmem => ?_
  simp only [claimAt, get, Table.lookup_erase]
  split
  · rename_i heq
    obtain ⟨hget, hseq⟩ := claimAt_eq_some.mp hlive
    have hne : tombstone.sequence ≠ other.2 := hseq ▸ (hlater other hmem).ne
    rw [get, ← heq] at hget
    simp [hget, Option.filter, hne]
  · rfl

theorem evictWalk_cons (wanted : Tombstone → Bool) (entry : String × Nat)
    (order : List (String × Nat)) : store.evictWalk wanted (entry :: order) =
      match store.claimAt entry with
      | none => store.evictWalk wanted order
      | some tombstone =>
        if wanted tombstone then ({ store with entries := store.entries.erase entry.1, order }, true)
        else ({ store with order := entry :: order }, false) := by
  obtain ⟨key, seq⟩ := entry
  rw [evictWalk]
  simp only [claimAt, get]
  cases store.entries.lookup key with
  | none => rfl
  | some tombstone =>
    by_cases hseq : tombstone.sequence = seq <;> simp [hseq, Option.filter]
    cases wanted tombstone <;> rfl

theorem evictWalk_live (wanted : Tombstone → Bool) {order : List (String × Nat)}
    (h : Filed { store with order }) : (store.evictWalk wanted order).1.Filed ∧
      ((store.evictWalk wanted order).1.live, (store.evictWalk wanted order).2) =
        popFirst wanted (live { store with order }) ∧
      (store.evictWalk wanted order).1.stale ≤ stale { store with order } := by
  induction order with
  | nil => exact ⟨h, rfl, le_rfl⟩
  | cons entry order ih =>
    rw [evictWalk_cons]
    cases hclaim : store.claimAt entry with
    | none =>
      have hlive : live { store with order := entry :: order } = live { store with order } :=
        filterMap_cons_none hclaim
      obtain ⟨hfiled, hpop, hstale⟩ := ih (h.tail hclaim)
      refine ⟨hfiled, hlive ▸ hpop, hstale.trans ?_⟩
      simp only [stale, hlive, length_cons]
      omega
    | some tombstone =>
      have hlive : live { store with order := entry :: order } =
          tombstone :: live { store with order } := filterMap_cons_some hclaim
      rw [hlive, popFirst]
      dsimp only
      split
      · obtain ⟨hfiled, hpopped⟩ := h.popped hclaim
        refine ⟨hfiled, by rw [hpopped], ?_⟩
        simp only [stale, hpopped, hlive, length_cons]
        omega
      · exact ⟨h, by rw [hlive], le_rfl⟩

/-- Take wanted claims off the front while more than `cap` are counted. -/
def popOver (cap : Nat) (wanted : Tombstone → Bool) : Nat → List Tombstone → List Tombstone
  | 0, claims => claims
  | count + 1, claims =>
    if count + 1 > cap then
      match popFirst wanted claims with
      | (claims, true) => popOver cap wanted count claims
      | (claims, false) => claims
    else claims

theorem evictOver_live (cap : Nat) (wanted : Tombstone → Bool) (count : Nat) (h : store.Filed) :
    (evictOver cap wanted count store).Filed ∧
      (evictOver cap wanted count store).live = popOver cap wanted count store.live ∧
      (evictOver cap wanted count store).stale ≤ store.stale := by
  induction count generalizing store with
  | zero => exact ⟨h, rfl, le_rfl⟩
  | succ count ih =>
    unfold evictOver popOver
    split
    · obtain ⟨hfiled, hpop, hstale⟩ := @evictWalk_live store wanted store.order h
      rw [← evictOldest] at hfiled hpop hstale
      rw [← hpop]
      generalize store.evictOldest wanted = evicted at hfiled hpop hstale ⊢
      obtain ⟨_, found⟩ := evicted
      cases found with
      | false => exact ⟨hfiled, rfl, hstale⟩
      | true =>
        obtain ⟨hlast, hlive, hless⟩ := ih hfiled
        exact ⟨hlast, hlive, hless.trans hstale⟩
    · exact ⟨h, rfl, le_rfl⟩

theorem popOver_all (cap : Nat) (claims : List Tombstone) :
    popOver cap (fun _ => true) claims.length claims = claims.drop (claims.length - cap) := by
  induction claims with
  | nil => simp [popOver]
  | cons first rest ih =>
    rw [length_cons, popOver]
    split
    · rw [show rest.length + 1 - cap = rest.length - cap + 1 by omega, drop_succ_cons, ← ih]
      rfl
    · rw [show rest.length + 1 - cap = 0 by omega, drop_zero]

theorem popOver_cases (cap : Nat) (wanted : Tombstone → Bool) {count : Nat}
    {claims : List Tombstone} (hcount : count = claims.countP wanted) :
    ∃ gone, claims = gone ++ popOver cap wanted count claims ∧ (∀ claim ∈ gone, wanted claim = true) ∧
      gone.length ≤ count - cap ∧ ((popOver cap wanted count claims).countP wanted ≤ cap ∨
        ∀ first ∈ (popOver cap wanted count claims).head?, wanted first = false) := by
  induction count generalizing claims with
  | zero => exact ⟨[], rfl, by simp, Nat.zero_le _, .inl (by simp [popOver, ← hcount])⟩
  | succ count ih =>
    unfold popOver
    split
    · cases claims with
      | nil => simp at hcount
      | cons first rest =>
        by_cases hwanted : wanted first = true
        · rw [countP_cons_of_pos hwanted, Nat.add_right_cancel_iff] at hcount
          obtain ⟨gone, heq, hgone, hlength, hend⟩ := ih hcount
          simp only [popFirst, hwanted, if_true]
          refine ⟨first :: gone, by rw [cons_append, ← heq], ?_, ?_, hend⟩
          · exact forall_mem_cons.mpr ⟨hwanted, hgone⟩
          · rw [length_cons]
            omega
        · simp only [popFirst, hwanted]
          exact ⟨[], rfl, by simp, Nat.zero_le _, .inr (by simpa using hwanted)⟩
    · exact ⟨[], rfl, by simp, Nat.zero_le _, .inl (by omega)⟩

/-! ## Operations -/

theorem filtered_live (next : TombstoneStore) (h : store.Filed) (horder : next.order = store.order)
    (hseq : next.nextSequence = store.nextSequence) (kept : Tombstone → Bool)
    (hget : ∀ key, next.get key = (store.get key).filter kept) :
    next.Filed ∧ next.live = store.live.filter kept := by
  refine ⟨⟨fun key tombstone hnext => ?_, horder ▸ h.ascending, hseq ▸ horder ▸ h.below⟩, ?_⟩
  · rw [hget, Option.filter_eq_some_iff] at hnext
    exact horder ▸ h.filed key tombstone hnext.1
  rw [live, live, horder, filter_filterMap]
  refine filterMap_congr fun entry _ => ?_
  rw [claimAt, claimAt, hget, Option.filter_filter, Option.filter_filter]
  simp only [Bool.and_comm]

theorem remove_live (h : store.Filed) (key : String) : (store.remove key).Filed ∧
      (store.remove key).live = store.live.filter fun claim => !(claim.key == key) := by
  refine filtered_live (store.remove key) h rfl rfl _ fun other => ?_
  simp only [get, remove, Table.lookup_erase]
  cases hclaim : store.entries.lookup other with
  | none => simp
  | some claim =>
    rw [Option.filter, (h.filed other claim hclaim).1]
    by_cases heq : other = key <;> simp [heq]

theorem removeWhere_live (h : store.Filed) (doomed : Tombstone → Bool) :
    (store.removeWhere doomed).Filed ∧
      (store.removeWhere doomed).live = store.live.filter fun claim => !doomed claim :=
  filtered_live (store.removeWhere doomed) h rfl rfl _ fun key => Table.lookup_retain _ key

/-- A retention before it evicts. -/
def placed (store : TombstoneStore) (nowMs : Nat) (key viewerKey : String) (revision : Nat)
    (intent : ViewIntent) : TombstoneStore where
  entries := store.entries.insert key
    { key, viewerKey, revision, intent, sequence := store.nextSequence + 1
      expiresMs := saturatingAdd nowMs terminalViewLeaseMs }
  order := store.order ++ [(key, store.nextSequence + 1)]
  nextSequence := store.nextSequence + 1

theorem placed_live (h : store.Filed) (nowMs : Nat) (key viewerKey : String) (revision : Nat)
    (intent : ViewIntent) : (store.placed nowMs key viewerKey revision intent).Filed ∧
      ∃ claim, claim.key = key ∧ claim.viewerKey = viewerKey ∧
        (store.placed nowMs key viewerKey revision intent).live =
          (store.live.filter fun claim => !(claim.key == key)) ++ [claim] := by
  have hold : ∀ entry ∈ store.order, entry.2 ≠ store.nextSequence + 1 := fun entry hmem =>
    (Nat.lt_succ_of_le (h.below entry hmem)).ne
  constructor
  · refine ⟨fun other claim hget => ?_, ?_, ?_⟩
    · simp only [get, placed, Table.lookup_insert] at hget
      split at hget
      · rename_i heq
        cases hget
        exact ⟨heq.symm, mem_append_right _ (heq ▸ mem_cons_self)⟩
      · exact ⟨(h.filed other claim hget).1, mem_append_left _ (h.filed other claim hget).2⟩
    · refine pairwise_append.mpr ⟨h.ascending, pairwise_singleton _ _, ?_⟩
      rintro entry hmem last hlast
      obtain rfl := mem_singleton.mp hlast
      exact Nat.lt_succ_of_le (h.below entry hmem)
    · intro entry hmem
      rcases mem_append.mp hmem with hmem | hmem
      · exact (h.below entry hmem).trans (Nat.le_succ _)
      · obtain rfl := mem_singleton.mp hmem
        exact le_rfl
  refine ⟨⟨key, viewerKey, revision, intent, saturatingAdd nowMs terminalViewLeaseMs,
    store.nextSequence + 1⟩, rfl, rfl, ?_⟩
  rw [live, placed, filterMap_append, live, filter_filterMap]
  congr 1
  · refine filterMap_congr fun entry hmem => ?_
    simp only [claimAt, get, Table.lookup_insert]
    split
    · rename_i heq
      have hne := (hold entry hmem).symm
      cases hclaim : store.entries.lookup entry.1 with
      | none => simp [Option.filter, hne]
      | some claim =>
        have hkey := (h.filed entry.1 claim hclaim).1
        by_cases hseq : claim.sequence = entry.2 <;>
          simp [Option.filter, hne, hseq, hkey, heq]
    · rename_i hne
      cases hclaim : store.entries.lookup entry.1 with
      | none => rfl
      | some claim =>
        have hkey := (h.filed entry.1 claim hclaim).1
        by_cases hseq : claim.sequence = entry.2 <;>
          simp [Option.filter, hseq, hkey, hne]
  · simp [claimAt, get, Table.lookup_insert, Option.filter]

/-- The calls a registry makes on its claims. -/
inductive TombstoneOp where
  | retain (nowMs : Nat) (key viewerKey : String) (revision : Nat) (intent : ViewIntent)
  | remove (key : String)
  | removeViewer (fingerprint : String)
  | removeSession (sessionId : String)
  | expire (nowMs : Nat)

/-- The claims over the calls of a run. -/
def machine : Transducer TombstoneStore TombstoneOp Unit where
  step
    | store, .retain nowMs key viewerKey revision intent =>
      (store.retain nowMs key viewerKey revision intent, ())
    | store, .remove key => (store.remove key, ())
    | store, .removeViewer fingerprint => (store.removeViewer fingerprint, ())
    | store, .removeSession sessionId => (store.removeSession sessionId, ())
    | store, .expire nowMs => (store.expire nowMs, ())

/-- The claims a call drops, or supersedes. -/
def TombstoneOp.drops : TombstoneOp → Tombstone → Bool
  | .retain _ key _ _ _, claim => claim.key == key
  | .remove key, claim => claim.key == key
  | .removeViewer fingerprint, claim => claim.viewerKey == fingerprint ||
      (utf8Bytes (fingerprint ++ ":")).isPrefixOf (utf8Bytes claim.viewerKey)
  | .removeSession sessionId, claim => claim.intent.sessionId == sessionId
  | .expire nowMs, claim => decide (claim.expiresMs ≤ nowMs)

/-- What a retention evicted: as many of the oldest claims as the process cap has too few places
for, and then claims of the viewer itself, each the oldest there was. -/
structure EvictsOldest (placed next : TombstoneStore) (viewerKey : String) : Prop where
  split : ∃ aged own, placed.live = aged ++ own ++ next.live ∧
    aged.length = placed.len - processTombstoneCap ∧
    (∀ claim ∈ own, claim.viewerKey = viewerKey) ∧
    own.length ≤ placed.owned viewerKey - viewerTombstoneCap

theorem evict_live (h : store.Filed) (viewerKey : String) :
    (store.evict viewerKey).Filed ∧ EvictsOldest store (store.evict viewerKey) viewerKey ∧
      (store.evict viewerKey).len ≤ processTombstoneCap ∧
      (store.evict viewerKey).stale ≤ store.stale ∧
      ((store.evict viewerKey).owned viewerKey ≤ viewerTombstoneCap ∨
        ∀ first ∈ (store.evict viewerKey).live.head?, first.viewerKey ≠ viewerKey) := by
  obtain ⟨hmiddle, haged, hless⟩ := evictOver_live processTombstoneCap (fun _ => true) store.len h
  rw [len_eq h, popOver_all, ← len_eq h] at haged
  have hcount := owned_eq hmiddle viewerKey
  have heq : store.evict viewerKey = evictOver viewerTombstoneCap
      (fun claim => claim.viewerKey == viewerKey)
      ((evictOver processTombstoneCap (fun _ => true) store.len store).owned viewerKey)
      (evictOver processTombstoneCap (fun _ => true) store.len store) := rfl
  generalize evictOver processTombstoneCap (fun _ => true) store.len store = middle at *
  obtain ⟨hnext, hown, hlast⟩ := evictOver_live viewerTombstoneCap
    (fun claim => claim.viewerKey == viewerKey) (middle.owned viewerKey) hmiddle
  rw [← heq] at hnext hown hlast
  generalize store.evict viewerKey = next at *
  obtain ⟨own, hsplit, hgone, hlength, hend⟩ := popOver_cases viewerTombstoneCap _ hcount
  rw [← hown] at hsplit hend
  have hparts : store.live =
      store.live.take (store.len - processTombstoneCap) ++ own ++ next.live := by
    rw [append_assoc, ← hsplit, haged, take_append_drop]
  refine ⟨hnext, ⟨_, own, hparts, ?_, fun claim hmem => by simpa using hgone claim hmem, ?_⟩, ?_,
    hlast.trans hless, ?_⟩
  · rw [length_take, ← len_eq h]
    omega
  · refine hlength.trans (Nat.sub_le_sub_right ?_ _)
    rw [hcount, owned_eq h, haged]
    exact (drop_sublist _ _).countP_le
  · have hsum := congrArg length hsplit
    rw [haged, length_drop, length_append, ← len_eq h] at hsum
    rw [len_eq hnext]
    omega
  · rw [owned_eq hnext]
    exact hend.imp_right fun hhead first hmem => by simpa using hhead first hmem

/-- A retention finds a place for the viewer: it has one free, or one of its own claims is among
the oldest, as many as the process cap evicts and one more. -/
def fitsViewer (store : TombstoneStore) : TombstoneOp → Bool
  | .retain nowMs key viewerKey revision intent =>
    let placed := store.placed nowMs key viewerKey revision intent
    decide (placed.owned viewerKey ≤ viewerTombstoneCap) ||
      (placed.live.take (placed.len - processTombstoneCap + 1)).any fun claim =>
        claim.viewerKey == viewerKey
  | _ => true

theorem retain_owned (h : store.Filed) (hcap : ∀ viewer, store.owned viewer ≤ viewerTombstoneCap)
    {nowMs rev : Nat} {key viewerKey : String} {intent : ViewIntent}
    (hfits : store.fitsViewer (.retain nowMs key viewerKey rev intent) = true) (viewer : String) :
    (store.retain nowMs key viewerKey rev intent).owned viewer ≤ viewerTombstoneCap := by
  obtain ⟨hplaced, claim, -, hclaim, hlive⟩ := placed_live h nowMs key viewerKey rev intent
  obtain ⟨hnext, ⟨aged, own, hsplit, haged, hown, hlength⟩, -, -, hend⟩ :=
    evict_live hplaced viewerKey
  rw [show store.retain nowMs key viewerKey rev intent =
    (store.placed nowMs key viewerKey rev intent).evict viewerKey from rfl]
  simp only [fitsViewer, Bool.or_eq_true, decide_eq_true_eq, any_eq_true, beq_iff_eq] at hfits
  generalize store.placed nowMs key viewerKey rev intent = placed at *
  generalize placed.evict viewerKey = next at *
  have hcounts (viewer : String) := congrArg (countP fun t => t.viewerKey == viewer) hsplit
  simp only [countP_append, ← owned_eq hplaced, ← owned_eq hnext] at hcounts
  have hfilt : placed.owned viewer ≤ store.owned viewer + if viewerKey = viewer then 1 else 0 := by
    rw [owned_eq hplaced, hlive, countP_append, owned_eq h]
    refine Nat.add_le_add filter_sublist.countP_le ?_
    simp [countP_singleton, hclaim]
  have hstore := hcap viewer
  have hviewer := hcounts viewer
  split at hfilt
  · rename_i heq
    subst heq
    rcases hend with hend | hend
    · exact hend
    rcases hfits with hfits | ⟨claim, hmem, hclaim⟩
    · omega
    -- Still over the cap, nothing of the viewer's own went, so its claim is the oldest left.
    by_contra hover
    have haged0 : aged.countP (fun t => t.viewerKey == viewerKey) = 0 := by omega
    have hown0 : own = [] := by
      have hall : own.countP (fun t => t.viewerKey == viewerKey) = own.length :=
        countP_eq_length.mpr fun t ht => beq_iff_eq.mpr (hown t ht)
      exact length_eq_zero_iff.mp (by omega)
    subst hown0
    rw [hsplit, ← haged, append_nil, take_length_add_append, mem_append] at hmem
    rcases hmem with hmem | hmem
    · exact absurd (beq_iff_eq.mpr hclaim) (countP_eq_zero.mp haged0 claim hmem)
    cases hnextLive : next.live with
    | nil =>
      rw [hnextLive] at hmem
      cases hmem
    | cons =>
      rw [hnextLive] at hmem hend
      obtain rfl := mem_singleton.mp hmem
      exact hend claim rfl hclaim
  · omega

/-- A step keeps the recency order filed. -/
theorem step_filed (h : store.Filed) (op : TombstoneOp) : (machine.next store op).Filed := by
  cases op with
  | retain nowMs key viewerKey rev intent =>
    exact (evict_live (placed_live h nowMs key viewerKey rev intent).1 viewerKey).1
  | remove key => exact (remove_live h key).1
  | removeViewer | removeSession | expire => exact (removeWhere_live h _).1

theorem step_kept (h : store.Filed) (op : TombstoneOp)
    (hop : ∀ nowMs key viewerKey rev intent, op ≠ .retain nowMs key viewerKey rev intent) :
    (machine.next store op).live = store.live.filter (fun claim => !op.drops claim) ∧
      (machine.next store op).order = store.order := by
  cases op with
  | retain => exact absurd rfl (hop _ _ _ _ _)
  | remove key => exact ⟨(remove_live h key).2, rfl⟩
  | removeViewer | removeSession | expire => exact ⟨(removeWhere_live h _).2, rfl⟩

/-- A step keeps the process cap. -/
theorem step_bounded (h : store.Filed) (hlen : store.len ≤ processTombstoneCap)
    (op : TombstoneOp) : (machine.next store op).len ≤ processTombstoneCap ∧
      (machine.next store op).stale ≤ store.stale + store.live.countP op.drops := by
  have hkept : store.live.length = store.live.countP op.drops +
      (store.live.filter fun claim => !op.drops claim).length := by
    rw [length_eq_countP_add_countP op.drops]
    simp [countP_eq_length_filter]
  have horder := store.live_le_order
  by_cases hop : ∀ nowMs key viewerKey revision intent,
      op ≠ .retain nowMs key viewerKey revision intent
  · obtain ⟨hlive, hqueue⟩ := step_kept h op hop
    rw [len_eq (step_filed h op), stale, stale, hlive, hqueue]
    rw [len_eq h] at hlen
    omega
  push Not at hop
  obtain ⟨nowMs, key, viewerKey, revision, intent, rfl⟩ := hop
  obtain ⟨hplaced, claim, -, -, hlive⟩ := placed_live h nowMs key viewerKey revision intent
  obtain ⟨-, -, hcap, hstale, -⟩ := evict_live hplaced viewerKey
  refine ⟨hcap, hstale.trans ?_⟩
  rw [stale, hlive, stale, length_append, placed, length_append]
  simp only [TombstoneOp.drops, length_singleton] at hkept ⊢
  omega

theorem filed_empty : Filed {} where
  filed _ _ hget := nomatch hget
  ascending := Pairwise.nil
  below := nofun

theorem run_bounded (ops : List TombstoneOp) :
    (machine.run {} ops).Filed ∧ (machine.run {} ops).len ≤ processTombstoneCap :=
  machine.invariant (P := fun store => store.Filed ∧ store.len ≤ processTombstoneCap)
    ⟨filed_empty, Nat.zero_le _⟩ (fun _ op h => ⟨step_filed h.1 op, (step_bounded h.1 h.2 op).1⟩) ops

/-- A step that fits keeps every viewer's cap. -/
theorem step_owned (h : store.Filed) (hcap : ∀ viewer, store.owned viewer ≤ viewerTombstoneCap)
    (op : TombstoneOp) (hfits : store.fitsViewer op = true) (viewer : String) :
    (machine.next store op).owned viewer ≤ viewerTombstoneCap := by
  by_cases hop : ∀ nowMs key viewerKey revision intent,
      op ≠ .retain nowMs key viewerKey revision intent
  · refine le_trans ?_ (hcap viewer)
    rw [owned_eq (step_filed h op), (step_kept h op hop).1, owned_eq h]
    exact filter_sublist.countP_le
  · push Not at hop
    obtain ⟨_, _, _, _, _, rfl⟩ := hop
    exact retain_owned h hcap hfits viewer

/-- The process cap holds after every run, and a retention evicts none but the oldest claims; the
viewers' caps hold while every retention finds its viewer a place. -/
theorem tombstone_caps (ops : List TombstoneOp) : (machine.run {} ops).len ≤ processTombstoneCap ∧
      (∀ nowMs key viewerKey revision intent,
        EvictsOldest ((machine.run {} ops).placed nowMs key viewerKey revision intent)
          ((machine.run {} ops).retain nowMs key viewerKey revision intent) viewerKey) ∧
      (machine.Along (fun store op => store.fitsViewer op = true) {} ops →
        ∀ viewerKey, (machine.run {} ops).owned viewerKey ≤ viewerTombstoneCap) := by
  obtain ⟨hfiled, hlen⟩ := run_bounded ops
  refine ⟨hlen, fun nowMs key viewerKey revision intent => ?_, fun hfits => ?_⟩
  · exact (evict_live (placed_live hfiled nowMs key viewerKey revision intent).1 viewerKey).2.1
  · exact (hfits.invariant (P := fun store => store.Filed ∧
      ∀ viewer, store.owned viewer ≤ viewerTombstoneCap) ⟨filed_empty, fun _ => Nat.zero_le _⟩
      fun store op h hop => ⟨step_filed h.1 op, step_owned h.1 h.2 op hop⟩).2

def retainClaim (view viewerKey : String) : TombstoneOp :=
  .retain 0 view viewerKey 1 { sessionId := "session", cols := 80, rows := 24, active := true }

theorem tombstone_caps_two_viewers (viewerKey : String) :
    (machine.run {} [retainClaim "1" "phone", retainClaim "2" "desk", retainClaim "1" "desk"]).owned
      viewerKey ≤ viewerTombstoneCap :=
  (tombstone_caps _).2.2 (by decide +kernel) viewerKey

/-- One claim of another viewer in front lets a viewer pass its cap. -/
theorem foreign_claim_blocks_eviction : (machine.run {} (retainClaim "first" "phone" ::
      (List.range 129).map fun view =>
        retainClaim (String.ofList (Nat.toDigits 10 view)) "desk")).owned "desk" = 129 := by
  decide +kernel

/-- The claims a run drops or supersedes. -/
def dropped : TombstoneStore → List TombstoneOp → Nat
  | _, [] => 0
  | store, op :: ops => store.live.countP op.drops + dropped (machine.next store op) ops

/-- The queue holds an entry more than the process cap for each claim the run dropped, at most. -/
theorem queue_bounded (limit : Nat) (ops : List TombstoneOp) (h : dropped {} ops ≤ limit) :
    (machine.run {} ops).order.length ≤ processTombstoneCap + limit := by
  have hrun : ∀ (ops : List TombstoneOp) (store : TombstoneStore), store.Filed →
      store.len ≤ processTombstoneCap →
      (machine.run store ops).stale ≤ store.stale + dropped store ops := by
    intro ops
    induction ops with
    | nil => exact fun store _ _ => le_rfl
    | cons op ops ih =>
      intro store hfiled hlen
      obtain ⟨hnext, hstale⟩ := step_bounded hfiled hlen op
      have hlast := ih _ (step_filed hfiled op) hnext
      rw [Transducer.run_cons, dropped]
      omega
  obtain ⟨hfiled, hlen⟩ := run_bounded ops
  have hstale := hrun ops {} filed_empty (Nat.zero_le _)
  have hstart : stale {} = 0 := rfl
  rw [len_eq hfiled] at hlen
  rw [stale] at hstale
  omega

theorem queue_bounded_superseded :
    (machine.run {} [retainClaim "1" "phone", retainClaim "1" "phone"]).order.length ≤
      processTombstoneCap + 1 :=
  queue_bounded 1 _ (by decide +kernel)

/-- A view that is released and claimed again, round after round. -/
def toggles : Nat → List TombstoneOp
  | 0 => []
  | count + 1 => toggles count ++ [retainClaim "view" "phone", .remove "view"]

theorem evictOver_fits {cap count : Nat} (h : count ≤ cap) :
    evictOver cap wanted count store = store := by
  cases count with
  | zero => rfl
  | succ => rw [evictOver, if_neg h.not_gt]

theorem toggles_queue (count : Nat) : (machine.run {} (toggles count)).live = [] ∧
      (machine.run {} (toggles count)).order.length = count := by
  induction count with
  | zero => exact ⟨rfl, rfl⟩
  | succ count ih =>
    have hfiled := (run_bounded (toggles count)).1
    rw [toggles, Transducer.run_append]
    generalize machine.run {} (toggles count) = store at *
    have hrun : machine.run store [retainClaim "view" "phone", .remove "view"] =
        ((store.placed 0 "view" "phone" 1 ⟨"session", 80, 24, true⟩).evict "phone").remove "view" :=
      rfl
    obtain ⟨hplaced, claim, hkey, -, hlive⟩ := placed_live hfiled 0 "view" "phone" 1
      ⟨"session", 80, 24, true⟩
    have hqueue : (store.placed 0 "view" "phone" 1 ⟨"session", 80, 24, true⟩).order.length =
        count + 1 := by rw [placed, length_append, ih.2, length_singleton]
    rw [ih.1, filter_nil, nil_append] at hlive
    rw [hrun]
    generalize store.placed 0 "view" "phone" 1 ⟨"session", 80, 24, true⟩ = placed at *
    -- One claim is within both caps.
    have hevict : placed.evict "phone" = placed := by
      have hone : placed.live.length = 1 := by rw [hlive, length_singleton]
      have hlen : placed.len ≤ processTombstoneCap := by
        rw [len_eq hplaced, hone]
        decide
      have hown : placed.owned "phone" ≤ viewerTombstoneCap := by
        rw [owned_eq hplaced]
        exact countP_le_length.trans (hone ▸ by decide)
      rw [evict, evictOver_fits hlen]
      exact evictOver_fits hown
    rw [hevict]
    refine ⟨?_, hqueue⟩
    rw [(remove_live hplaced "view").2, hlive]
    simp [hkey]

/-- Each round leaves an entry in the queue, and no walk ever runs. -/
theorem queue_unbounded : ¬∃ bound, ∀ ops, (machine.run {} ops).order.length ≤ bound := by
  rintro ⟨bound, hbound⟩
  have hlong := hbound (toggles (bound + 1))
  rw [(toggles_queue _).2] at hlong
  omega

end TombstoneStore

end Roost.TerminalView
