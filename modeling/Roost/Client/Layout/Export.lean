-- SUMMARY: The runtime tree out, and which layouts the parser admits back.
import Mathlib.Data.String.Basic
import Roost.Base.OrderedMap
import Roost.Client.Layout.Materialize
import Roost.Protocol.Layout.Admissible

/-!
# Exporting a layout

A document key is a position: leaves and slots are numbered in first-before-second preorder, so what
is exported is told by the tree alone and the ids of its panes only say which leaf has the focus.
-/

namespace Roost.Layout

open LeafTree (height leaves marks size)

open List

def leafKeyPrefix : String := "leaf-"

def slotKeyPrefix : String := "slot-"

def leafKeyAt (number : Nat) : String := leafKeyPrefix ++ toString number

def slotKeyAt (number : Nat) : String := slotKeyPrefix ++ toString number

/-- What the export has assigned so far. -/
structure ExportWalk where
  nextLeaf : Nat
  nextSlot : Nat
  leafKeyByPaneId : OrderedMap String String
  bindings : List LayoutDocumentBinding

def exportLeaf (nextLeaf nextSlot : Nat) (leaf : PaneLeaf) : LayoutDocumentLeaf where
  leafKey := leafKeyAt nextLeaf
  slotKeys := (leaf.tabs.zipIdx nextSlot).map fun slot => slotKeyAt slot.2
  selectedSlotKey :=
    ((leaf.tabs.zipIdx nextSlot).reverse.find? fun slot => decide (slot.1 = leaf.selectedTab)).map
      fun slot => slotKeyAt slot.2

def exportBindings (nextSlot : Nat) (tabs : List String) : List LayoutDocumentBinding :=
  (tabs.zipIdx nextSlot).map fun slot => { slotKey := slotKeyAt slot.2, sessionId := slot.1 }

def exportNode (walk : ExportWalk) :
    PaneNode → Except LayoutDocumentError (LayoutDocumentNode × ExportWalk)
  | .leaf leaf =>
    .ok (.leaf (exportLeaf walk.nextLeaf walk.nextSlot leaf),
      { nextLeaf := walk.nextLeaf + 1
        nextSlot := walk.nextSlot + leaf.tabs.length
        leafKeyByPaneId := walk.leafKeyByPaneId.insert leaf.paneId (leafKeyAt walk.nextLeaf)
        bindings := walk.bindings ++ exportBindings walk.nextSlot leaf.tabs })
  | .node split a b => do
    let direction ← portableDirection split.direction
    let (first, walk) ← exportNode walk a
    let (second, walk) ← exportNode walk b
    .ok (.node { direction, ratio := split.ratio } first second, walk)

/-- The tree as a document, keys assigned in preorder. -/
def documentFromLayout (layout : PaneLayout) : Except LayoutDocumentError LayoutDocumentV1 := do
  let (root, walk) ← exportNode
    { nextLeaf := 1, nextSlot := 1, leafKeyByPaneId := .empty, bindings := [] } layout.root
  let focusedLeafKey ← Except.okOr (walk.leafKeyByPaneId.lookup layout.focusedPaneId)
    .focusedLeafMissing
  .ok { schemaVersion := 1, root, focusedLeafKey, bindings := walk.bindings }

/-- The arrangement of a folder as the portable document, read back by the one parser. -/
def exportLayoutDocument (ratioText : F64 → String) (folderKey : String)
    (liveSessionIds : List String) (layout : PaneLayout) :
    Except LayoutDocumentError LayoutDocumentV1 := do
  if folderKey = "" then .error .folderKeyRequired
  else
    let _ ← validatedLiveSet liveSessionIds
    let document ← documentFromLayout layout
    (parseLayoutDocumentV1 ratioText document).mapError fun error => .notAdmissible error.message

/-! ## Numbering -/

def numbered (nextLeaf nextSlot : Nat) : PaneNode → LayoutDocumentNode
  | .leaf leaf => .leaf (exportLeaf nextLeaf nextSlot leaf)
  | .node split a b =>
    .node { direction := split.direction, ratio := split.ratio } (numbered nextLeaf nextSlot a)
      (numbered (nextLeaf + a.leaves.length) (nextSlot + (a.leaves.flatMap (·.tabs)).length) b)

/-- Panes numbered one after another. -/
def numberedLeaves (nextLeaf nextSlot : Nat) : List PaneLeaf → List LayoutDocumentLeaf
  | [] => []
  | leaf :: leaves =>
    exportLeaf nextLeaf nextSlot leaf ::
      numberedLeaves (nextLeaf + 1) (nextSlot + leaf.tabs.length) leaves

def numberedKeys (keys : OrderedMap String String) (nextLeaf : Nat) :
    List PaneLeaf → OrderedMap String String
  | [] => keys
  | leaf :: leaves =>
    numberedKeys (keys.insert leaf.paneId (leafKeyAt nextLeaf)) (nextLeaf + 1) leaves

theorem numberedLeaves_append (nextLeaf nextSlot : Nat) (front back : List PaneLeaf) :
    numberedLeaves nextLeaf nextSlot (front ++ back) = numberedLeaves nextLeaf nextSlot front ++
        numberedLeaves (nextLeaf + front.length) (nextSlot + (front.flatMap (·.tabs)).length) back := by
  induction front generalizing nextLeaf nextSlot with
  | nil => rfl
  | cons leaf front ih =>
    simp only [cons_append, numberedLeaves, ih, length_cons, flatMap_cons, length_append]
    congr 3 <;> omega

theorem numberedKeys_append (keys : OrderedMap String String) (nextLeaf : Nat)
    (front back : List PaneLeaf) : numberedKeys keys nextLeaf (front ++ back) =
      numberedKeys (numberedKeys keys nextLeaf front) (nextLeaf + front.length) back := by
  induction front generalizing keys nextLeaf with
  | nil => rfl
  | cons leaf front ih =>
    rw [cons_append, numberedKeys, ih, numberedKeys, length_cons]
    congr 1
    omega

theorem exportBindings_append (nextSlot : Nat) (front back : List String) :
    exportBindings nextSlot (front ++ back) =
      exportBindings nextSlot front ++ exportBindings (nextSlot + front.length) back := by
  rw [exportBindings, zipIdx_append, map_append]
  rfl

theorem leaves_numbered (nextLeaf nextSlot : Nat) (node : PaneNode) :
    (numbered nextLeaf nextSlot node).leaves = numberedLeaves nextLeaf nextSlot node.leaves := by
  induction node generalizing nextLeaf nextSlot with
  | leaf => rfl
  | node split a b iha ihb =>
    rw [numbered, leaves, leaves, iha, ihb, numberedLeaves_append]

theorem marks_numbered (nextLeaf nextSlot : Nat) (node : PaneNode) :
    (numbered nextLeaf nextSlot node).marks = node.marks.map fun split =>
      { direction := split.direction, ratio := split.ratio } := by
  induction node generalizing nextLeaf nextSlot with
  | leaf => rfl
  | node split a b iha ihb =>
    rw [numbered, marks, marks, iha, ihb, map_cons, map_append]

theorem height_numbered (nextLeaf nextSlot : Nat) (node : PaneNode) :
    (numbered nextLeaf nextSlot node).height = node.height := by
  induction node generalizing nextLeaf nextSlot with
  | leaf => rfl
  | node split a b iha ihb => rw [numbered, height, height, iha, ihb]

theorem size_numbered (nextLeaf nextSlot : Nat) (node : PaneNode) :
    (numbered nextLeaf nextSlot node).size = node.size := by
  induction node generalizing nextLeaf nextSlot with
  | leaf => rfl
  | node split a b iha ihb => rw [numbered, size, size, iha, ihb]

theorem portableDirection_eq_ok {direction read : LayoutDirection} :
    portableDirection direction = .ok read ↔ direction.Portable ∧ read = direction := by
  cases direction <;> simp [portableDirection, LayoutDirection.Portable, eq_comm]

theorem exportNode_eq_ok {walk walk' : ExportWalk} {node : PaneNode} {root : LayoutDocumentNode} :
    exportNode walk node = .ok (root, walk') ↔ (∀ split ∈ node.marks, split.direction.Portable) ∧
        root = numbered walk.nextLeaf walk.nextSlot node ∧ walk' =
          { nextLeaf := walk.nextLeaf + node.leaves.length
            nextSlot := walk.nextSlot + (node.leaves.flatMap (·.tabs)).length
            leafKeyByPaneId := numberedKeys walk.leafKeyByPaneId walk.nextLeaf node.leaves
            bindings := walk.bindings ++
              exportBindings walk.nextSlot (node.leaves.flatMap (·.tabs)) } := by
  induction node generalizing walk walk' root with
  | leaf =>
    simp [exportNode, numbered, leaves, marks, numberedKeys, eq_comm]
  | node split a b iha ihb =>
    simp only [exportNode, Except.bind_eq_ok, portableDirection_eq_ok]
    constructor
    · rintro ⟨_, ⟨hown, rfl⟩, ⟨first, middle⟩, hfirst, ⟨second, last⟩, hsecond, h⟩
      cases h
      obtain ⟨ha, rfl, rfl⟩ := iha.mp hfirst
      obtain ⟨hb, rfl, rfl⟩ := ihb.mp hsecond
      refine ⟨forall_mem_cons.mpr ⟨hown, forall_mem_append.mpr ⟨ha, hb⟩⟩, rfl, ?_⟩
      simp only [leaves, length_append, flatMap_append, numberedKeys_append,
        exportBindings_append, Nat.add_assoc, append_assoc]
    · rintro ⟨hsplits, rfl, rfl⟩
      obtain ⟨hown, hbelow⟩ := forall_mem_cons.mp hsplits
      obtain ⟨ha, hb⟩ := forall_mem_append.mp hbelow
      refine ⟨split.direction, ⟨hown, rfl⟩, _, iha.mpr ⟨ha, rfl, rfl⟩, _, ihb.mpr ⟨hb, rfl, rfl⟩, ?_⟩
      simp only [numbered, leaves, length_append, flatMap_append,
        numberedKeys_append, exportBindings_append, Nat.add_assoc, append_assoc]

/-! ## Keys -/

theorem numberText_injective : Function.Injective Nat.repr := by
  intro m n h
  have hdigits : Nat.toDigits 10 m = Nat.toDigits 10 n := by
    rw [← Nat.toList_repr, ← Nat.toList_repr, h]
  rw [← Nat.ofDigitChars_ten_toDigits (n := m), hdigits, Nat.ofDigitChars_ten_toDigits]

theorem leafKeyAt_injective : Function.Injective leafKeyAt := fun _ _ h =>
  numberText_injective ((String.append_right_inj _).mp h)

theorem slotKeyAt_injective : Function.Injective slotKeyAt := fun _ _ h =>
  numberText_injective ((String.append_right_inj _).mp h)

variable {number nextSlot : Nat} {leaf : PaneLeaf}

theorem utf8ByteSize_repr_le {digits : Nat} (h : number < 10 ^ (digits + 1)) :
    number.repr.utf8ByteSize ≤ 4 * (digits + 1) := by
  have hdigit : ∀ digit : Nat, (String.singleton (Nat.digitChar digit)).utf8ByteSize ≤ 4 :=
    fun digit => by
      rw [String.utf8ByteSize_singleton]
      exact Char.utf8Size_le_four _
  induction digits generalizing number with
  | zero =>
    rw [Nat.repr_of_lt (by simpa using h)]
    exact hdigit number
  | succ digits ih =>
    rcases Nat.lt_or_ge number 10 with hlt | hge
    · rw [Nat.repr_of_lt hlt]
      have := hdigit number
      omega
    have hrest : (number / 10).repr.utf8ByteSize ≤ 4 * (digits + 1) := by
      refine ih ?_
      omega
    have hlast := hdigit (number % 10)
    rw [Nat.repr_of_ge hge, String.utf8ByteSize_append]
    omega

theorem bounded_numbered {keyPrefix : String} (hempty : keyPrefix ≠ "")
    (hshort : keyPrefix.utf8ByteSize ≤ 240) (h : number < 10 ^ 4) :
    Bounded layoutDocumentMaxKeyUtf8Bytes (keyPrefix ++ toString number) where
  nonempty := by
    intro hnil
    exact hempty (String.append_eq_empty_iff.mp hnil).1
  bytes := by
    have hdigits : number.repr.utf8ByteSize ≤ 4 * (3 + 1) := utf8ByteSize_repr_le h
    rw [String.utf8ByteSize_append]
    show keyPrefix.utf8ByteSize + number.repr.utf8ByteSize ≤ 256
    omega

/-! ## What an exported document says -/

theorem exportBindings_slotKeys (nextSlot : Nat) (tabs : List String) :
    (exportBindings nextSlot tabs).map (·.slotKey) =
      (range' nextSlot tabs.length).map slotKeyAt := by
  rw [exportBindings, map_map, ← zipIdx_map_snd nextSlot tabs, map_map]
  rfl

theorem exportBindings_sessions (nextSlot : Nat) (tabs : List String) :
    (exportBindings nextSlot tabs).map (·.sessionId) = tabs := by
  rw [exportBindings, map_map]
  exact zipIdx_map_fst nextSlot tabs

theorem exportLeaf_slotKeys (nextLeaf nextSlot : Nat) (leaf : PaneLeaf) :
    (exportLeaf nextLeaf nextSlot leaf).slotKeys =
      (range' nextSlot leaf.tabs.length).map slotKeyAt := by
  rw [← exportBindings_slotKeys, exportBindings, map_map]
  rfl

theorem exportLeaf_selected {nextLeaf : Nat} {sel : String}
    (h : (exportLeaf nextLeaf nextSlot leaf).selectedSlotKey = some sel) :
    ∃ number, (leaf.selectedTab, number) ∈ leaf.tabs.zipIdx nextSlot ∧ sel = slotKeyAt number := by
  obtain ⟨⟨sess, number⟩, hfound, rfl⟩ := Option.map_eq_some_iff.mp h
  have hmem := mem_reverse.mp (mem_of_find?_eq_some hfound)
  have hsession : sess = leaf.selectedTab := by simpa using find?_some hfound
  exact ⟨number, hsession ▸ hmem, rfl⟩

theorem exportLeaf_unselected {nextLeaf : Nat} :
    (exportLeaf nextLeaf nextSlot leaf).selectedSlotKey = none ↔ leaf.selectedTab ∉ leaf.tabs := by
  rw [exportLeaf, Option.map_eq_none_iff, find?_eq_none]
  constructor
  · intro h hmem
    obtain ⟨index, hindex⟩ := mem_iff_getElem?.mp hmem
    have hslot : (leaf.selectedTab, nextSlot + index) ∈ leaf.tabs.zipIdx nextSlot :=
      mk_add_mem_zipIdx_iff_getElem?.mpr hindex
    exact h _ (mem_reverse.mpr hslot) (decide_eq_true rfl)
  · rintro h ⟨sess, number⟩ hslot heq
    obtain rfl : sess = leaf.selectedTab := of_decide_eq_true heq
    exact h (fst_mem_of_mem_zipIdx (mem_reverse.mp hslot))

theorem mem_exportLeaf_slotKeys {nextLeaf : Nat} {slotKey : String} :
    slotKey ∈ (exportLeaf nextLeaf nextSlot leaf).slotKeys ↔
      ∃ number, nextSlot ≤ number ∧ number < nextSlot + leaf.tabs.length ∧
        slotKeyAt number = slotKey := by
  rw [exportLeaf_slotKeys, mem_map]
  simp only [mem_range'_1, and_assoc]

theorem exportLeaf_selected_mem {nextLeaf : Nat} {sel : String}
    (h : (exportLeaf nextLeaf nextSlot leaf).selectedSlotKey = some sel) :
    sel ∈ (exportLeaf nextLeaf nextSlot leaf).slotKeys := by
  obtain ⟨number, hmem, rfl⟩ := exportLeaf_selected h
  obtain ⟨hle, hlt, -⟩ := mem_zipIdx hmem
  exact mem_exportLeaf_slotKeys.mpr ⟨number, hle, hlt, rfl⟩

theorem exportLeaf_shows {nextLeaf : Nat} (hheld : leaf.tabs ≠ [] → leaf.selectedTab ∈ leaf.tabs) :
    match (exportLeaf nextLeaf nextSlot leaf).selectedSlotKey with
    | none => (exportLeaf nextLeaf nextSlot leaf).slotKeys = []
    | some sel => sel ∈ (exportLeaf nextLeaf nextSlot leaf).slotKeys := by
  cases hsel : (exportLeaf nextLeaf nextSlot leaf).selectedSlotKey with
  | none =>
    have htabs : leaf.tabs = [] := by
      by_contra hne
      exact exportLeaf_unselected.mp hsel (hheld hne)
    rw [exportLeaf_slotKeys, htabs]
    rfl
  | some => exact exportLeaf_selected_mem hsel

theorem exportLeaf_keyed {nextLeaf : Nat} (hleaf : nextLeaf < 10 ^ 4)
    (hslot : nextSlot + leaf.tabs.length ≤ 10 ^ 4) : (exportLeaf nextLeaf nextSlot leaf).Keyed := by
  have hslots : ∀ slotKey ∈ (exportLeaf nextLeaf nextSlot leaf).slotKeys,
      Bounded layoutDocumentMaxKeyUtf8Bytes slotKey := by
    intro slotKey hmem
    obtain ⟨_, -, hlt, rfl⟩ := mem_exportLeaf_slotKeys.mp hmem
    exact bounded_numbered (by decide) (by decide) (hlt.trans_le hslot)
  exact
    { leafKey := bounded_numbered (by decide) (by decide) hleaf
      slotKeys := hslots
      selected := fun sel hmem => hslots sel (exportLeaf_selected_mem hmem) }

theorem numberedLeaves_keys (nextLeaf nextSlot : Nat) (leaves : List PaneLeaf) :
    (numberedLeaves nextLeaf nextSlot leaves).map (·.leafKey) =
      (range' nextLeaf leaves.length).map leafKeyAt := by
  induction leaves generalizing nextLeaf nextSlot with
  | nil => rfl
  | cons leaf leaves ih =>
    rw [numberedLeaves, map_cons, ih, length_cons, range'_succ, map_cons]
    rfl

theorem numberedLeaves_slots (nextLeaf nextSlot : Nat) (leaves : List PaneLeaf) :
    (numberedLeaves nextLeaf nextSlot leaves).flatMap (·.slotKeys) =
      (exportBindings nextSlot (leaves.flatMap (·.tabs))).map (·.slotKey) := by
  induction leaves generalizing nextLeaf nextSlot with
  | nil => rfl
  | cons leaf leaves ih =>
    rw [numberedLeaves, flatMap_cons, ih, flatMap_cons, exportBindings_append,
      map_append, exportLeaf_slotKeys, ← exportBindings_slotKeys nextSlot leaf.tabs]

theorem mem_numberedLeaves {nextLeaf : Nat} {leaves : List PaneLeaf}
    {own : LayoutDocumentLeaf} (h : own ∈ numberedLeaves nextLeaf nextSlot leaves) :
    ∃ leaf ∈ leaves, ∃ number slot, own = exportLeaf number slot leaf ∧
      number < nextLeaf + leaves.length ∧
      slot + leaf.tabs.length ≤ nextSlot + (leaves.flatMap (·.tabs)).length := by
  induction leaves generalizing nextLeaf nextSlot with
  | nil => exact nomatch h
  | cons leaf leaves ih =>
    rw [flatMap_cons, length_append, length_cons]
    rcases mem_cons.mp h with rfl | hrest
    · exact ⟨leaf, mem_cons_self, nextLeaf, nextSlot, rfl, by omega, by omega⟩
    · obtain ⟨own', hmem, number, slot, rfl, hnumber, hslot⟩ := ih hrest
      exact ⟨own', mem_cons_of_mem _ hmem, number, slot, rfl, by omega, by omega⟩

theorem numberedKeys_lookup {keys : OrderedMap String String} {nextLeaf : Nat}
    {leaves : List PaneLeaf} {paneId : String} : (paneId ∉ leaves.map (·.paneId) ∧
      (numberedKeys keys nextLeaf leaves).lookup paneId = keys.lookup paneId) ∨
    ∃ place leaf, leaves[place]? = some leaf ∧ leaf.paneId = paneId ∧
      (numberedKeys keys nextLeaf leaves).lookup paneId = some (leafKeyAt (nextLeaf + place)) := by
  induction leaves generalizing keys nextLeaf with
  | nil => exact .inl ⟨not_mem_nil, rfl⟩
  | cons leaf leaves ih =>
    rw [numberedKeys]
    rcases @ih (keys.insert leaf.paneId (leafKeyAt nextLeaf)) (nextLeaf + 1) with
      ⟨habsent, hlook⟩ | ⟨place, own, hown, rfl, hlook⟩
    · rw [hlook, OrderedMap.lookup_insert]
      by_cases heq : paneId = leaf.paneId
      · exact .inr ⟨0, leaf, rfl, heq.symm, if_pos heq⟩
      refine .inl ⟨fun hmem => ?_, if_neg heq⟩
      rcases mem_cons.mp hmem with heq' | hmem
      · exact heq heq'
      · exact habsent hmem
    · refine .inr ⟨place + 1, own, hown, rfl, ?_⟩
      rw [hlook, Nat.add_right_comm, Nat.add_assoc]

def PaneLayout.documentWith (layout : PaneLayout) (focusedLeafKey : String) : LayoutDocumentV1 where
  schemaVersion := 1
  root := numbered 1 1 layout.root
  focusedLeafKey
  bindings := exportBindings 1 layout.sessions

theorem documentFromLayout_eq_ok {layout : PaneLayout} {doc : LayoutDocumentV1} :
    documentFromLayout layout = .ok doc ↔ (∀ split ∈ layout.root.marks, split.direction.Portable) ∧
        ∃ key, (numberedKeys .empty 1 layout.root.leaves).lookup layout.focusedPaneId = some key ∧
          doc = layout.documentWith key := by
  simp only [documentFromLayout, Except.bind_eq_ok, Except.okOr_eq_ok]
  constructor
  · rintro ⟨⟨root, walk⟩, hroot, key, hkey, h⟩
    obtain ⟨hsplits, rfl, rfl⟩ := exportNode_eq_ok.mp hroot
    exact ⟨hsplits, key, hkey, (Except.ok.inj h).symm⟩
  · rintro ⟨hsplits, key, hkey, rfl⟩
    exact ⟨_, exportNode_eq_ok.mpr ⟨hsplits, rfl, rfl⟩, key, hkey, rfl⟩

/-- The bounds of a document, read off the layout it was exported from. -/
structure PaneLayout.Exportable (layout : PaneLayout) : Prop where
  height : layout.root.height ≤ layoutDocumentMaxDepth
  nodes : layout.root.size ≤ layoutDocumentMaxNodes
  slots : layout.sessions.length ≤ layoutDocumentMaxSlots
  splits : ∀ split ∈ layout.root.marks, split.direction.Portable ∧ split.ratio.within = true
  ids : ∀ session ∈ layout.sessions, Bounded layoutDocumentMaxSessionIdUtf8Bytes session
  sessions : layout.sessions.Nodup
  held : ∀ leaf ∈ layout.root.leaves, leaf.tabs ≠ [] → leaf.selectedTab ∈ leaf.tabs

section
variable {layout : PaneLayout} {key : String}

theorem PaneLayout.documentWith_slots (layout : PaneLayout) (key : String) :
    (layout.documentWith key).root.leaves.flatMap (·.slotKeys) =
      (layout.documentWith key).bindings.map (·.slotKey) := by
  show (numbered 1 1 layout.root).leaves.flatMap (·.slotKeys) = _
  rw [leaves_numbered]
  exact numberedLeaves_slots 1 1 layout.root.leaves

theorem PaneLayout.Exportable.connected (h : layout.Exportable)
    (hkey : (numberedKeys .empty 1 layout.root.leaves).lookup layout.focusedPaneId = some key) :
    Connected (layout.documentWith key) := by
  have hslots := layout.documentWith_slots key
  have hnd : ((layout.documentWith key).bindings.map (·.slotKey)).Nodup := by
    show ((exportBindings 1 layout.sessions).map (·.slotKey)).Nodup
    rw [exportBindings_slotKeys]
    exact List.Nodup.map slotKeyAt_injective List.nodup_range'
  have hkeys : (layout.documentWith key).root.leaves.map (·.leafKey) =
      (List.range' 1 layout.root.leaves.length).map leafKeyAt := by
    show (numbered 1 1 layout.root).leaves.map (·.leafKey) = _
    rw [leaves_numbered, numberedLeaves_keys]
  refine
    { leafKeys := hkeys ▸ List.Nodup.map leafKeyAt_injective List.nodup_range'
      slotKeys := hslots ▸ hnd
      selected := fun own hmem => ?_
      focused := ?_
      bindingSlots := hnd
      bindingSessions := ?_
      owned := fun bnd hmem => ?_
      bound := fun own hmem slot hslot => ?_ }
  · change own ∈ (numbered 1 1 layout.root).leaves at hmem
    rw [leaves_numbered] at hmem
    obtain ⟨leaf, hleaf, _, _, rfl, -, -⟩ := mem_numberedLeaves hmem
    exact exportLeaf_shows (h.held leaf hleaf)
  · rcases @numberedKeys_lookup .empty 1 layout.root.leaves layout.focusedPaneId with
      ⟨-, hnone⟩ | ⟨place, leaf, hplace, -, hsome⟩
    · exact absurd (hkey.symm.trans hnone) (Option.some_ne_none key)
    cases Option.some.inj (hkey.symm.trans hsome)
    rw [hkeys]
    refine List.mem_map_of_mem (List.mem_range'_1.mpr ⟨by omega, ?_⟩)
    have := (List.getElem?_eq_some_iff.mp hplace).1
    omega
  · show ((exportBindings 1 layout.sessions).map (·.sessionId)).Nodup
    rw [exportBindings_sessions]
    exact h.sessions
  · rw [hslots]
    exact List.mem_map_of_mem hmem
  · rw [← hslots]
    exact List.mem_flatMap.mpr ⟨own, hmem, hslot⟩

theorem PaneLayout.Exportable.admissible (h : layout.Exportable)
    (hkey : (numberedKeys .empty 1 layout.root.leaves).lookup layout.focusedPaneId = some key) :
    Admissible (layout.documentWith key) := by
  have hconn := h.connected hkey
  have hcount : layout.root.leaves.length ≤ 255 := by
    have hsize := layout.root.size_eq
    have hnodes : layout.root.size ≤ 255 := h.nodes
    omega
  have hslotCount : layout.sessions.length ≤ 512 := h.slots
  have hleaves : ∀ own ∈ (layout.documentWith key).root.leaves, own.Keyed := by
    intro own hmem
    change own ∈ (numbered 1 1 layout.root).leaves at hmem
    rw [leaves_numbered] at hmem
    obtain ⟨leaf, -, number, slot, rfl, hnumber, hslot⟩ := mem_numberedLeaves hmem
    refine exportLeaf_keyed (by omega) ?_
    exact hslot.trans (by
      show 1 + layout.sessions.length ≤ 10 ^ 4
      omega)
  have hbind : (layout.documentWith key).bindings.length = layout.sessions.length := by
    rw [← length_map LayoutDocumentBinding.sessionId]
    exact congrArg length (exportBindings_sessions 1 layout.sessions)
  refine
    { version := rfl
      height := (height_numbered 1 1 layout.root).trans_le h.height
      nodes := (size_numbered 1 1 layout.root).trans_le h.nodes
      slots := ?_
      leaves := hleaves
      splits := fun split hmem => ?_
      focused := ?_
      bindings := hbind.trans_le hslotCount
      bound := fun bnd hmem => ⟨?_, ?_⟩
      connected := hconn }
  · rw [layout.documentWith_slots key, length_map, hbind]
    exact h.slots
  · change split ∈ (numbered 1 1 layout.root).marks at hmem
    rw [marks_numbered] at hmem
    obtain ⟨own, hown, rfl⟩ := mem_map.mp hmem
    exact h.splits own hown
  · obtain ⟨own, hown, heq⟩ := mem_map.mp hconn.focused
    exact heq ▸ (hleaves own hown).leafKey
  · obtain ⟨own, hown, hslot⟩ := mem_flatMap.mp (hconn.owned bnd hmem)
    exact (hleaves own hown).slotKeys _ hslot
  · refine h.ids _ ?_
    rw [← exportBindings_sessions 1 layout.sessions]
    exact mem_map_of_mem hmem

theorem numberedLeaves_mem {nextLeaf nextSlot : Nat} {leaves : List PaneLeaf} {leaf : PaneLeaf}
    (h : leaf ∈ leaves) :
    ∃ number slot, exportLeaf number slot leaf ∈ numberedLeaves nextLeaf nextSlot leaves := by
  induction leaves generalizing nextLeaf nextSlot with
  | nil => exact nomatch h
  | cons own leaves ih =>
    rcases mem_cons.mp h with rfl | hrest
    · exact ⟨nextLeaf, nextSlot, mem_cons_self⟩
    · obtain ⟨number, slot, hmem⟩ := @ih (nextLeaf + 1) (nextSlot + own.tabs.length) hrest
      exact ⟨number, slot, mem_cons_of_mem _ hmem⟩

theorem exportable_of_admissible (h : Admissible (layout.documentWith key)) : layout.Exportable := by
  have hsess : (layout.documentWith key).bindings.map (·.sessionId) = layout.sessions :=
    exportBindings_sessions 1 layout.sessions
  refine
    { height := (height_numbered 1 1 layout.root).symm.trans_le h.height
      nodes := (size_numbered 1 1 layout.root).symm.trans_le h.nodes
      slots := ?_
      splits := fun split hmem => ?_
      ids := fun sess hmem => ?_
      sessions := hsess ▸ h.connected.bindingSessions
      held := fun leaf hmem htabs => ?_ }
  · have hslots := h.slots
    rw [layout.documentWith_slots key, length_map] at hslots
    rwa [← hsess, length_map]
  · refine h.splits { direction := split.direction, ratio := split.ratio } ?_
    show _ ∈ (numbered 1 1 layout.root).marks
    rw [marks_numbered]
    exact mem_map_of_mem hmem
  · rw [← hsess] at hmem
    obtain ⟨bnd, hbinding, rfl⟩ := mem_map.mp hmem
    exact (h.bound bnd hbinding).2
  obtain ⟨number, slot, hown⟩ : ∃ number slot,
      exportLeaf number slot leaf ∈ numberedLeaves 1 1 layout.root.leaves :=
    numberedLeaves_mem hmem
  have hshows := h.connected.selected (exportLeaf number slot leaf) (by
    show _ ∈ (numbered 1 1 layout.root).leaves
    rw [leaves_numbered]
    exact hown)
  by_contra hout
  rw [exportLeaf_unselected.mpr hout, exportLeaf_slotKeys, map_eq_nil_iff,
    range'_eq_nil_iff] at hshows
  exact htabs (length_eq_zero_iff.mp hshows)

theorem exportLayoutDocument_eq_ok {ratioText : F64 → String} {folderKey : String}
    {liveSessionIds : List String} {document : LayoutDocumentV1} :
    exportLayoutDocument ratioText folderKey liveSessionIds layout = .ok document ↔
      folderKey ≠ "" ∧ (∃ live, validatedLiveSet liveSessionIds = .ok live) ∧ layout.Exportable ∧
        documentFromLayout layout = .ok document := by
  simp only [exportLayoutDocument, Except.ite_error_eq_ok, Except.bind_eq_ok, Except.mapError_eq_ok]
  constructor
  · rintro ⟨hfolder, live, hlive, found, hfound, hparsed⟩
    obtain ⟨hsplits, key, _, rfl⟩ := documentFromLayout_eq_ok.mp hfound
    obtain rfl : document = layout.documentWith key := by
      refine parse_portable hparsed fun split hmem => ?_
      change split ∈ (numbered 1 1 layout.root).marks at hmem
      rw [marks_numbered] at hmem
      obtain ⟨own, hown, rfl⟩ := mem_map.mp hmem
      exact hsplits own hown
    exact ⟨hfolder, ⟨live, hlive⟩, exportable_of_admissible (parse_admissible hparsed), hfound⟩
  · rintro ⟨hfolder, ⟨live, hlive⟩, hexport, hfound⟩
    obtain ⟨-, _, hkey, rfl⟩ := documentFromLayout_eq_ok.mp hfound
    exact ⟨hfolder, live, hlive, _, hfound, (hexport.admissible hkey).parse⟩

end

end Roost.Layout
