-- SUMMARY: The layout document's integrity walk.
import Mathlib.Data.List.Nodup
import Roost.Protocol.Layout.Document

/-!
# The graph of a layout document

Leaf keys are unique, a slot is owned by exactly one leaf, a selected slot belongs to its own leaf,
and every slot is bound to exactly one session. The walk reports the first violation it meets.
-/

namespace Roost.Layout

open Prod (fst)
open Except (bind_eq_ok foldlM_accepts foldlM_keeps forM_eq_ok ite_error_eq_ok ok)

open List

/-- A leaf's position in the walk, kept so that a graph issue can name its path. -/
structure LayoutLeafRecord where
  path : String
  slotCount : Nat
  selectedSlotKey : Option String

/-- What the walk has seen: leaf keys, leaves, the leaf that owns each slot, and each slot with its
index in that leaf. -/
structure GraphWalk where
  leafKeys : List String
  leaves : List LayoutLeafRecord
  slotOwner : List (String × Nat)
  slotOrder : List (String × Nat)

open GraphWalk

def GraphWalk.empty : GraphWalk where
  leafKeys := []
  leaves := []
  slotOwner := []
  slotOrder := []

variable (walk : GraphWalk)

def GraphWalk.ownerOf (slotKey : String) : Option Nat :=
  walk.slotOwner.lookup slotKey

def pathedLeaves (path : String) : LayoutDocumentNode → List (String × LayoutDocumentLeaf)
  | .leaf leaf => [(path, leaf)]
  | .node _ first second =>
    pathedLeaves (path ++ ".first") first ++ pathedLeaves (path ++ ".second") second

def GraphWalk.addSlot (path : String) (walk : GraphWalk) (slot : String × Nat) :
    ProtocolResult GraphWalk :=
  if (walk.ownerOf slot.1).isSome then
    .error { field := path ++ ".slot_keys[" ++ toString slot.2 ++ "]"
             reason := "slot_key values must be unique across the document" }
  else .ok { walk with slotOwner := walk.slotOwner ++ [(slot.1, walk.leaves.length)]
                       slotOrder := walk.slotOrder ++ [slot] }

def GraphWalk.addLeaf (pathed : String × LayoutDocumentLeaf) :
    ProtocolResult GraphWalk := do
  let (path, leaf) := pathed
  if leaf.leafKey ∈ walk.leafKeys then
    .error { field := join path "leaf_key", reason := "leaf_key values must be unique" }
  else
    let walk ← leaf.slotKeys.zipIdx.foldlM (addSlot path)
      { walk with leafKeys := walk.leafKeys ++ [leaf.leafKey] }
    .ok { walk with
      leaves := walk.leaves ++
        [{ path, slotCount := leaf.slotKeys.length, selectedSlotKey := leaf.selectedSlotKey }] }

def validateSelectedSlot (ordinal : Nat) (record : LayoutLeafRecord) :
    ProtocolResult Unit :=
  let field := join record.path "selected_slot_key"
  match record.selectedSlotKey, record.slotCount with
  | none, 0 => .ok ()
  | none, _ + 1 | some _, 0 =>
    .error { field
             reason := "selected_slot_key must be null exactly when slot_keys is empty" }
  | some selected, _ + 1 =>
    match walk.ownerOf selected with
    | none => .error { field, reason := "selected_slot_key must reference a slot in root" }
    | some owner =>
      if owner ≠ ordinal then
        .error { field, reason := "selected_slot_key must belong to its leaf" }
      else .ok ()

/-- One binding, after the slots and the sessions bound before it. -/
def validateBinding (bound : List String × List String)
    (indexed : LayoutDocumentBinding × Nat) : ProtocolResult (List String × List String) :=
  let (binding, index) := indexed
  let field := "bindings[" ++ toString index ++ "]"
  if binding.slotKey ∈ bound.1 then
    .error { field := field ++ ".slot_key", reason := "each slot_key must have exactly one binding" }
  else if (walk.ownerOf binding.slotKey).isNone then
    .error { field := field ++ ".slot_key"
             reason := "binding slot_key must reference a slot in root" }
  else if binding.sessionId ∈ bound.2 then
    .error { field := field ++ ".session_id", reason := "bound session_id values must be unique" }
  else .ok (bound.1 ++ [binding.slotKey], bound.2 ++ [binding.sessionId])

/-- A slot that no binding names. -/
def validateBoundSlot (boundSlotKeys : List String) (slot : String × Nat) :
    ProtocolResult Unit :=
  if slot.1 ∈ boundSlotKeys then .ok ()
  else match walk.ownerOf slot.1 with
  | none => .ok ()
  | some owner =>
    .error { field := ((walk.leaves[owner]?.map (·.path)).getD "") ++ ".slot_keys[" ++
              toString slot.2 ++ "]"
             reason := "each slot_key must have exactly one binding" }

def validateBindings (bindings : List LayoutDocumentBinding) :
    ProtocolResult Unit := do
  let bound ← bindings.zipIdx.foldlM (validateBinding walk) ([], [])
  walk.slotOrder.forM (validateBoundSlot walk bound.1)

/-- Prove that the tree hangs together, or return the first violation in walk order. -/
def validate (document : LayoutDocumentV1) : ProtocolResult Unit := do
  let walk ← (pathedLeaves "root" document.root).foldlM addLeaf empty
  if document.focusedLeafKey ∉ walk.leafKeys then
    .error { field := "focused_leaf_key"
             reason := "focused_leaf_key must reference a leaf in root" }
  else
    walk.leaves.zipIdx.forM fun (record, ordinal) => validateSelectedSlot walk ordinal record
    validateBindings walk document.bindings

/-! ## What a validated document satisfies -/

theorem pathedLeaves_leaves (path : String) (node : LayoutDocumentNode) :
    (pathedLeaves path node).map (·.2) = node.leaves := by
  induction node generalizing path with
  | leaf => rfl
  | node split first second ihfirst ihsecond =>
    rw [pathedLeaves, map_append, ihfirst, ihsecond, LeafTree.leaves]

/-- What the walk remembers of the leaves it has passed. -/
structure Walked (done : List (String × LayoutDocumentLeaf)) (walk : GraphWalk) : Prop where
  keys : walk.leafKeys = done.map (·.2.leafKey)
  keysNodup : walk.leafKeys.Nodup
  leaves : walk.leaves = done.map fun pathed =>
    { path := pathed.1, slotCount := pathed.2.slotKeys.length
      selectedSlotKey := pathed.2.selectedSlotKey }
  owners : walk.slotOwner = done.zipIdx.flatMap fun pathed =>
    pathed.1.2.slotKeys.map (·, pathed.2)
  ownersNodup : (walk.slotOwner.map fst).Nodup
  order : walk.slotOrder.map fst = walk.slotOwner.map fst

variable {path : String} {walk walk' : GraphWalk} {done : List (String × LayoutDocumentLeaf)}
  {pathed : String × LayoutDocumentLeaf} {document : LayoutDocumentV1}

theorem GraphWalk.addSlot_ok {slot : String × Nat} (h : walk.addSlot path slot = .ok walk') :
    slot.1 ∉ walk.slotOwner.map fst ∧
      walk' = { walk with slotOwner := walk.slotOwner ++ [(slot.1, walk.leaves.length)]
                          slotOrder := walk.slotOrder ++ [slot] } := by
  rw [addSlot, ite_error_eq_ok] at h
  obtain ⟨hnew, h⟩ := h
  refine ⟨?_, (ok.inj h).symm⟩
  intro hmem
  obtain ⟨entry, hentry, heq⟩ := mem_map.mp hmem
  refine hnew (lookup_isSome_iff.mpr ⟨entry, hentry, ?_⟩)
  rw [heq, beq_self_eq_true]

theorem GraphWalk.addSlots_ok {slots : List (String × Nat)} (hnd : (walk.slotOwner.map fst).Nodup)
    (h : slots.foldlM (addSlot path) walk = .ok walk') :
    walk' = { walk with slotOwner := walk.slotOwner ++ slots.map fun slot =>
                          (slot.1, walk.leaves.length)
                        slotOrder := walk.slotOrder ++ slots } ∧
      (walk'.slotOwner.map fst).Nodup := by
  refine foldlM_keeps (R := fun slots walk' =>
    walk' = { walk with slotOwner := walk.slotOwner ++ slots.map fun slot =>
                          (slot.1, walk.leaves.length)
                        slotOrder := walk.slotOrder ++ slots } ∧
      (walk'.slotOwner.map fst).Nodup) ?_ ⟨by simp, hnd⟩ h
  rintro slots _ slot _ ⟨rfl, hnd⟩ hslot
  obtain ⟨hnew, rfl⟩ := addSlot_ok hslot
  refine ⟨by simp, ?_⟩
  rw [map_append, nodup_append]
  refine ⟨hnd, nodup_singleton _, ?_⟩
  rintro key hkey _ hlast rfl
  rw [map_singleton, mem_singleton] at hlast
  exact hnew (hlast ▸ hkey)

theorem Walked.addLeaf (hwalk : Walked done walk)
    (h : walk.addLeaf pathed = .ok walk') : Walked (done ++ [pathed]) walk' := by
  simp only [GraphWalk.addLeaf, ite_error_eq_ok, bind_eq_ok] at h
  obtain ⟨hnew, _, hslots, h⟩ := h
  have hadded := GraphWalk.addSlots_ok (by exact hwalk.ownersNodup) hslots
  obtain ⟨rfl, hnd⟩ := hadded
  cases h
  have hcount : walk.leaves.length = done.length := by
    rw [hwalk.leaves, length_map]
  refine
    { keys := by simp [hwalk.keys]
      keysNodup := ?_
      leaves := by simp [hwalk.leaves]
      owners := ?_
      ownersNodup := hnd
      order := ?_ }
  · refine nodup_append.mpr ⟨hwalk.keysNodup, nodup_singleton _, ?_⟩
    rintro key hkey _ hlast rfl
    exact hnew (mem_singleton.mp hlast ▸ hkey)
  · have hslots : pathed.2.slotKeys.zipIdx.map (fun slot => (slot.1, done.length)) =
        pathed.2.slotKeys.map (·, done.length) := by
      rw [← zipIdx_map_fst 0 pathed.2.slotKeys, map_map]
      simp
    simp [zipIdx_append, hwalk.owners, hcount, hslots]
  · simp [hwalk.order, map_map, Function.comp_def]

theorem walked (h : (pathedLeaves "root" document.root).foldlM addLeaf empty = .ok walk) :
    Walked (pathedLeaves "root" document.root) walk := by
  refine foldlM_keeps (R := Walked) (fun _ _ _ _ hwalk hleaf => hwalk.addLeaf hleaf) ?_ h
  exact
    { keys := rfl, keysNodup := .nil, leaves := rfl, owners := rfl, ownersNodup := .nil
      order := rfl }

theorem Walked.ownerOf_eq_some (hwalk : Walked done walk) {slotKey : String} {owner : Nat}
    (h : walk.ownerOf slotKey = some owner) :
    ∃ pathed, done[owner]? = some pathed ∧ slotKey ∈ pathed.2.slotKeys := by
  have hmem : (slotKey, owner) ∈ walk.slotOwner := by
    obtain ⟨_, _, heq, -⟩ := lookup_eq_some_iff.mp h
    rw [heq]
    exact mem_append_right _ mem_cons_self
  rw [hwalk.owners, mem_flatMap] at hmem
  obtain ⟨⟨pathed, _⟩, hind, hslot⟩ := hmem
  obtain ⟨_, hkey, heq⟩ := mem_map.mp hslot
  cases heq
  exact ⟨pathed, mem_zipIdx_iff_getElem?.mp hind, hkey⟩

theorem Walked.slots (hwalk : Walked done walk) :
    walk.slotOwner.map fst = done.flatMap fun pathed => pathed.2.slotKeys := by
  rw [hwalk.owners, map_flatMap]
  have hleaf : ∀ pathed : (String × LayoutDocumentLeaf) × Nat,
      (pathed.1.2.slotKeys.map (·, pathed.2)).map fst = pathed.1.2.slotKeys := by
    intro pathed
    rw [map_map]
    exact map_id _
  simp only [hleaf]
  conv_rhs => rw [← zipIdx_map_fst 0 done]
  rw [flatMap_map]

theorem Walked.selected (hwalk : Walked done walk)
    (h : walk.leaves.zipIdx.forM (fun indexed => validateSelectedSlot walk indexed.2 indexed.1) =
      .ok ()) (hmem : pathed ∈ done) :
    match pathed.2.selectedSlotKey with
    | none => pathed.2.slotKeys = []
    | some sel => sel ∈ pathed.2.slotKeys := by
  obtain ⟨ordinal, hord⟩ := mem_iff_getElem?.mp hmem
  have hrec : walk.leaves[ordinal]? = some
      { path := pathed.1
        slotCount := pathed.2.slotKeys.length
        selectedSlotKey := pathed.2.selectedSlotKey } := by
    rw [hwalk.leaves, getElem?_map, hord]
    rfl
  have hvalid := forM_eq_ok.mp h (_, ordinal) (mem_zipIdx_iff_getElem?.mpr hrec)
  cases hsel : pathed.2.selectedSlotKey with
  | none =>
    cases hslots : pathed.2.slotKeys with
    | nil => rfl
    | cons => simp [validateSelectedSlot, hsel, hslots] at hvalid
  | some sel =>
    cases hslots : pathed.2.slotKeys with
    | nil => simp [validateSelectedSlot, hsel, hslots] at hvalid
    | cons slot rest =>
      simp only [validateSelectedSlot, hsel, hslots, length_cons] at hvalid
      split at hvalid
      · exact nomatch hvalid
      rename_i howner
      rw [ite_error_eq_ok, not_not] at hvalid
      obtain ⟨_, hown, hslot⟩ := hwalk.ownerOf_eq_some (hvalid.1 ▸ howner)
      rw [hord] at hown
      cases hown
      exact hslots ▸ hslot

variable {bindings : List LayoutDocumentBinding}

theorem validateBindings_ok
    (h : validateBindings walk bindings = .ok ()) :
    (bindings.map (·.slotKey)).Nodup ∧ (bindings.map (·.sessionId)).Nodup ∧
      (∀ bnd ∈ bindings, (walk.ownerOf bnd.slotKey).isSome = true) ∧
      ∀ slot ∈ walk.slotOrder, (walk.ownerOf slot.1).isSome = true →
        slot.1 ∈ bindings.map (·.slotKey) := by
  rw [validateBindings, bind_eq_ok] at h
  obtain ⟨bound, hbound, hslots⟩ := h
  let Kept (done : List (LayoutDocumentBinding × Nat)) (bound : List String × List String) :=
    bound = (done.map (·.1.slotKey), done.map (·.1.sessionId)) ∧ bound.1.Nodup ∧ bound.2.Nodup ∧
      ∀ indexed ∈ done, (walk.ownerOf indexed.1.slotKey).isSome = true
  have hkept : Kept bindings.zipIdx bound := by
    refine foldlM_keeps ?_ ⟨rfl, nodup_nil, nodup_nil, by simp⟩ hbound
    rintro done _ ⟨bnd, index⟩ bound' ⟨rfl, hslots, hsess, howned⟩ hstep
    simp only [validateBinding, ite_error_eq_ok, Option.isNone_iff_eq_none] at hstep
    obtain ⟨hslot, howner, hsession, hstep⟩ := hstep
    cases hstep
    have happend : ∀ {keys : List String} {key : String}, keys.Nodup → key ∉ keys →
        (keys ++ [key]).Nodup := by
      intro keys key hnd hnew
      exact nodup_append.mpr ⟨hnd, nodup_singleton _, fun other hother last hlast heq =>
        hnew (mem_singleton.mp hlast ▸ heq ▸ hother)⟩
    refine ⟨by simp, happend hslots hslot, happend hsess hsession, fun indexed hmem => ?_⟩
    rcases mem_append.mp hmem with hold | hnew
    · exact howned indexed hold
    · cases mem_singleton.mp hnew
      exact Option.isSome_iff_ne_none.mpr howner
  obtain ⟨rfl, hslotKeys, hsessionIds, howned⟩ := hkept
  have hfirst : ∀ f : LayoutDocumentBinding → String,
      bindings.zipIdx.map (fun indexed => f indexed.1) = bindings.map f := by
    intro f
    rw [← zipIdx_map_fst 0 bindings, map_map]
    simp
  simp only [hfirst] at hslotKeys hsessionIds hslots
  refine ⟨hslotKeys, hsessionIds, fun bnd hmem => ?_, fun slot hslot hown => ?_⟩
  · obtain ⟨index, hindex⟩ := mem_iff_getElem?.mp hmem
    exact howned (bnd, index) (mem_zipIdx_iff_getElem?.mpr hindex)
  have hslot := forM_eq_ok.mp hslots slot hslot
  unfold validateBoundSlot at hslot
  split at hslot
  · next hmem => exact hmem
  · obtain ⟨_, howner⟩ := Option.isSome_iff_exists.mp hown
    rw [howner] at hslot
    cases hslot

/-- A document whose tree hangs together, some of its slots perhaps bound to no session. -/
structure Joined (document : LayoutDocumentV1) : Prop where
  leafKeys : (document.root.leaves.map (·.leafKey)).Nodup
  slotKeys : (document.root.leaves.flatMap (·.slotKeys)).Nodup
  selected : ∀ leaf ∈ document.root.leaves,
    match leaf.selectedSlotKey with
    | none => leaf.slotKeys = []
    | some selected => selected ∈ leaf.slotKeys
  focused : document.focusedLeafKey ∈ document.root.leaves.map (·.leafKey)
  bindingSlots : (document.bindings.map (·.slotKey)).Nodup
  bindingSessions : (document.bindings.map (·.sessionId)).Nodup
  owned : ∀ binding ∈ document.bindings, binding.slotKey ∈ document.root.leaves.flatMap (·.slotKeys)

/-- A document whose tree hangs together. -/
structure Connected (document : LayoutDocumentV1) : Prop extends Joined document where
  bound : ∀ leaf ∈ document.root.leaves, ∀ slot ∈ leaf.slotKeys,
    slot ∈ document.bindings.map (·.slotKey)

theorem validate_ok (h : validate document = .ok ()) : Connected document := by
  simp only [validate, bind_eq_ok, ite_error_eq_ok, not_not] at h
  obtain ⟨walk, hwalk, hfoc, _, hsel, hbindings⟩ := h
  have hwalk := walked hwalk
  obtain ⟨hslots, hsess, hbind, hbound⟩ := validateBindings_ok hbindings
  have hleaves := pathedLeaves_leaves "root" document.root
  have hpathed : ∀ leaf ∈ document.root.leaves, ∃ path, (path, leaf) ∈
      pathedLeaves "root" document.root := by
    intro leaf hmem
    rw [← hleaves] at hmem
    obtain ⟨pathed, hpathed, rfl⟩ := mem_map.mp hmem
    exact ⟨pathed.1, hpathed⟩
  have hkeys : walk.leafKeys = document.root.leaves.map (·.leafKey) := by
    rw [hwalk.keys, ← hleaves, map_map]
    rfl
  have howned : walk.slotOwner.map fst = document.root.leaves.flatMap (·.slotKeys) := by
    rw [hwalk.slots, ← hleaves, flatMap_map]
  refine
    { leafKeys := hkeys ▸ hwalk.keysNodup
      slotKeys := howned ▸ hwalk.ownersNodup
      selected := ?_
      focused := hkeys ▸ hfoc
      bindingSlots := hslots
      bindingSessions := hsess
      owned := ?_
      bound := ?_ }
  · intro leaf hmem
    obtain ⟨_, hmem⟩ := hpathed leaf hmem
    exact hwalk.selected hsel hmem
  · intro binding hmem
    obtain ⟨_, hentry, heq⟩ := lookup_isSome_iff.mp (hbind binding hmem)
    rw [← howned, eq_of_beq heq]
    exact mem_map_of_mem hentry
  intro leaf hmem slot hslot
  have hkey : slot ∈ walk.slotOwner.map fst := by
    rw [howned]
    exact mem_flatMap.mpr ⟨leaf, hmem, hslot⟩
  rw [← hwalk.order] at hkey
  obtain ⟨entry, hentry, rfl⟩ := mem_map.mp hkey
  refine hbound entry hentry (lookup_isSome_iff.mpr ?_)
  rw [hwalk.order] at hkey
  obtain ⟨owned, howned, heq⟩ := mem_map.mp hkey
  exact ⟨owned, howned, by rw [heq, beq_self_eq_true]⟩

/-! ## Documents that hang together are validated -/

theorem GraphWalk.ownerOf_of_mem (hnd : (walk.slotOwner.map fst).Nodup)
    {slotKey : String} {owner : Nat} (hmem : (slotKey, owner) ∈ walk.slotOwner) :
    walk.ownerOf slotKey = some owner := by
  have hsome : (walk.ownerOf slotKey).isSome = true :=
    lookup_isSome_iff.mpr ⟨_, hmem, beq_self_eq_true _⟩
  obtain ⟨found, hfound⟩ := Option.isSome_iff_exists.mp hsome
  obtain ⟨_, _, heq, -⟩ := lookup_eq_some_iff.mp hfound
  have hmem' : (slotKey, found) ∈ walk.slotOwner := by
    rw [heq]
    exact mem_append_right _ mem_cons_self
  have hsame := inj_on_of_nodup_map hnd hmem hmem' rfl
  cases hsame
  exact hfound

theorem GraphWalk.addSlots_accepts {slots : List (String × Nat)}
    (h : (walk.slotOwner.map fst ++ slots.map fst).Nodup) :
    ∃ walk', slots.foldlM (addSlot path) walk = .ok walk' := by
  refine foldlM_accepts (R := fun done walk' =>
      walk'.slotOwner.map fst = walk.slotOwner.map fst ++ done.map fst)
    (Q := fun done => (walk.slotOwner.map fst ++ done.map fst).Nodup) ?_ ?_ ?_
    (by simp) h
  · intro done walk' slot walk'' hkeys hslot
    obtain ⟨-, rfl⟩ := addSlot_ok hslot
    simp [hkeys]
  · intro done walk' slot hkeys hnd
    rw [map_append, ← append_assoc, ← hkeys, map_singleton] at hnd
    have hnew := disjoint_of_nodup_append hnd
    refine ⟨_, if_neg fun hheld => ?_⟩
    obtain ⟨entry, hentry, heq⟩ := lookup_isSome_iff.mp hheld
    exact hnew (mem_map.mpr ⟨entry, hentry, (eq_of_beq heq).symm⟩) mem_cons_self
  · intro done rest hnd
    rw [map_append, ← append_assoc] at hnd
    exact hnd.of_append_left

theorem Walked.accepts (hwalk : Walked done walk)
    (hkeys : ((done ++ [pathed]).map (·.2.leafKey)).Nodup)
    (hslots : ((done ++ [pathed]).flatMap (·.2.slotKeys)).Nodup) :
    ∃ walk', walk.addLeaf pathed = .ok walk' := by
  have hnew : pathed.2.leafKey ∉ walk.leafKeys := by
    rw [map_append, ← hwalk.keys] at hkeys
    exact fun hmem => disjoint_of_nodup_append hkeys hmem (mem_singleton_self _)
  have hfirst : pathed.2.slotKeys.zipIdx.map fst = pathed.2.slotKeys :=
    zipIdx_map_fst 0 _
  have hnd : (walk.slotOwner.map fst ++ pathed.2.slotKeys.zipIdx.map fst).Nodup := by
    rw [hfirst, hwalk.slots]
    simpa using hslots
  obtain ⟨walk', hwalk'⟩ : ∃ walk', pathed.2.slotKeys.zipIdx.foldlM (GraphWalk.addSlot pathed.1)
      { walk with leafKeys := walk.leafKeys ++ [pathed.2.leafKey] } = .ok walk' :=
    GraphWalk.addSlots_accepts hnd
  refine ⟨{ walk' with
    leaves := walk'.leaves ++ [{ path := pathed.1, slotCount := pathed.2.slotKeys.length
                                 selectedSlotKey := pathed.2.selectedSlotKey }] }, ?_⟩
  simp only [GraphWalk.addLeaf, ite_error_eq_ok, bind_eq_ok]
  exact ⟨hnew, walk', hwalk', rfl⟩

theorem walk_accepts {leaves : List (String × LayoutDocumentLeaf)}
    (hkeys : (leaves.map (·.2.leafKey)).Nodup) (hslots : (leaves.flatMap (·.2.slotKeys)).Nodup) :
    ∃ walk, leaves.foldlM addLeaf empty = .ok walk := by
  refine foldlM_accepts (R := Walked)
    (Q := fun done => (done.map (·.2.leafKey)).Nodup ∧ (done.flatMap (·.2.slotKeys)).Nodup)
    (fun _ _ _ _ hwalk hleaf => hwalk.addLeaf hleaf) ?_ ?_ ?_ ⟨hkeys, hslots⟩
  · exact fun done walk pathed hwalk hnd => hwalk.accepts hnd.1 hnd.2
  · intro done rest hnd
    rw [map_append, flatMap_append] at hnd
    exact ⟨hnd.1.of_append_left, hnd.2.of_append_left⟩
  · exact
      { keys := rfl, keysNodup := .nil, leaves := rfl, owners := rfl, ownersNodup := .nil
        order := rfl }

theorem Walked.validates (hwalk : Walked done walk)
    (hsel : ∀ pathed ∈ done, match pathed.2.selectedSlotKey with
      | none => pathed.2.slotKeys = []
      | some sel => sel ∈ pathed.2.slotKeys) :
    walk.leaves.zipIdx.forM (fun indexed => validateSelectedSlot walk indexed.2 indexed.1) =
      .ok () := by
  refine forM_eq_ok.mpr ?_
  rintro ⟨record, ordinal⟩ hmem
  have hrec := mem_zipIdx_iff_getElem?.mp hmem
  rw [hwalk.leaves, getElem?_map] at hrec
  obtain ⟨pathed, hpathed, rfl⟩ := Option.map_eq_some_iff.mp hrec
  have hown := hsel pathed (mem_of_getElem? hpathed)
  cases hchosen : pathed.2.selectedSlotKey with
  | none =>
    rw [hchosen] at hown
    simp [validateSelectedSlot, hown]
  | some sel =>
    rw [hchosen] at hown
    have howner : walk.ownerOf sel = some ordinal := by
      refine ownerOf_of_mem hwalk.ownersNodup ?_
      rw [hwalk.owners, mem_flatMap]
      exact ⟨(pathed, ordinal), mem_zipIdx_iff_getElem?.mpr hpathed, mem_map_of_mem hown⟩
    obtain ⟨_, hcount⟩ := Nat.exists_eq_succ_of_ne_zero (length_pos_of_mem hown).ne'
    simp [validateSelectedSlot, hcount, howner]

theorem validateBindings_accepts
    (hslots : (bindings.map (·.slotKey)).Nodup) (hsess : (bindings.map (·.sessionId)).Nodup)
    (howned : ∀ bnd ∈ bindings, (walk.ownerOf bnd.slotKey).isSome = true)
    (hbound : ∀ slot ∈ walk.slotOrder, slot.1 ∈ bindings.map (·.slotKey)) :
    validateBindings walk bindings = .ok () := by
  let Kept (done : List (LayoutDocumentBinding × Nat)) (bound : List String × List String) :=
    bound = (done.map (·.1.slotKey), done.map (·.1.sessionId))
  have hstep : ∀ done bound indexed bound', Kept done bound →
      validateBinding walk bound indexed = .ok bound' → Kept (done ++ [indexed]) bound' := by
    rintro done _ ⟨bnd, index⟩ bound' rfl h
    simp only [validateBinding, ite_error_eq_ok] at h
    obtain ⟨-, -, -, h⟩ := h
    cases h
    show (_, _) = (_, _)
    simp
  have hfirst : ∀ f : LayoutDocumentBinding → String,
      bindings.zipIdx.map (fun indexed => f indexed.1) = bindings.map f := by
    intro f
    rw [← zipIdx_map_fst 0 bindings, map_map]
    simp
  let Fresh (done : List (LayoutDocumentBinding × Nat)) := (done.map (·.1.slotKey)).Nodup ∧
    (done.map (·.1.sessionId)).Nodup ∧
    ∀ indexed ∈ done, (walk.ownerOf indexed.1.slotKey).isSome = true
  have haccept : ∀ done bound indexed, Kept done bound → Fresh (done ++ [indexed]) →
      ∃ bound', validateBinding walk bound indexed = .ok bound' := by
    rintro done _ ⟨bnd, index⟩ rfl ⟨hslots, hsess, howned⟩
    have howner := howned (bnd, index) (mem_append_right _ (mem_singleton_self _))
    rw [map_append] at hslots hsess
    refine ⟨(done.map (·.1.slotKey) ++ [bnd.slotKey],
      done.map (·.1.sessionId) ++ [bnd.sessionId]), ?_⟩
    simp only [validateBinding, ite_error_eq_ok, Option.isNone_iff_eq_none]
    exact ⟨fun hmem => disjoint_of_nodup_append hslots hmem (mem_singleton_self _),
      Option.isSome_iff_ne_none.mp howner,
      fun hmem => disjoint_of_nodup_append hsess hmem (mem_singleton_self _), trivial⟩
  have hclosed : ∀ done rest, Fresh (done ++ rest) → Fresh done := by
    rintro done rest ⟨hslots, hsess, howned⟩
    rw [map_append] at hslots hsess
    exact ⟨hslots.of_append_left, hsess.of_append_left, fun indexed hmem =>
      howned indexed (mem_append_left _ hmem)⟩
  have hall : Fresh bindings.zipIdx :=
    ⟨by rwa [hfirst], by rwa [hfirst], fun indexed hmem =>
      howned _ (mem_of_getElem? (mem_zipIdx_iff_getElem?.mp hmem))⟩
  obtain ⟨bound, hfold⟩ : ∃ bound, bindings.zipIdx.foldlM (validateBinding walk) ([], []) =
      .ok bound := foldlM_accepts hstep haccept hclosed rfl hall
  have hkept : Kept bindings.zipIdx bound := foldlM_keeps hstep rfl hfold
  rw [validateBindings, bind_eq_ok]
  refine ⟨bound, hfold, forM_eq_ok.mpr fun slot hslot => if_pos ?_⟩
  rw [hkept]
  show slot.1 ∈ bindings.zipIdx.map (·.1.slotKey)
  rw [hfirst]
  exact hbound slot hslot

theorem Connected.validates (h : Connected doc) : validate doc = .ok () := by
  have hleaves := pathedLeaves_leaves "root" doc.root
  have hmap : ∀ {β : Type} (f : LayoutDocumentLeaf → β),
      (pathedLeaves "root" doc.root).map (fun pathed => f pathed.2) = doc.root.leaves.map f := by
    intro β f
    rw [← hleaves, map_map]
    rfl
  have hflat : (pathedLeaves "root" doc.root).flatMap (·.2.slotKeys) =
      doc.root.leaves.flatMap (·.slotKeys) := by
    rw [← hleaves, flatMap_map]
  have hunique : ((pathedLeaves "root" doc.root).map (·.2.leafKey)).Nodup := by
    rw [hmap]
    exact h.leafKeys
  obtain ⟨walk, hwalk⟩ := walk_accepts hunique (hflat ▸ h.slotKeys)
  have hwalked := walked hwalk
  have hkeys : walk.slotOwner.map fst = doc.root.leaves.flatMap (·.slotKeys) :=
    hwalked.slots.trans hflat
  have hmem : ∀ pathed ∈ pathedLeaves "root" doc.root, pathed.2 ∈ doc.root.leaves :=
    fun pathed hpathed => hleaves ▸ mem_map_of_mem hpathed
  simp only [validate, bind_eq_ok, ite_error_eq_ok, not_not]
  refine ⟨walk, hwalk, ?_, (), hwalked.validates fun pathed hpathed => h.selected _ (hmem _ hpathed),
    validateBindings_accepts h.bindingSlots h.bindingSessions ?_ ?_⟩
  · rw [hwalked.keys, hmap]
    exact h.focused
  · intro bnd hbinding
    have hslot := h.owned bnd hbinding
    rw [← hkeys] at hslot
    obtain ⟨entry, hentry, heq⟩ := mem_map.mp hslot
    exact lookup_isSome_iff.mpr ⟨entry, hentry, by rw [heq]; exact beq_self_eq_true _⟩
  intro slot hslot
  have hslot' : slot.1 ∈ doc.root.leaves.flatMap (·.slotKeys) := by
    rw [← hkeys, ← hwalked.order]
    exact mem_map_of_mem hslot
  obtain ⟨leaf, hleaf, hown⟩ := mem_flatMap.mp hslot'
  exact h.bound leaf hleaf _ hown

end Roost.Layout
