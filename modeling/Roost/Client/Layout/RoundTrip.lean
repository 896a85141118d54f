-- SUMMARY: An exported document materialized again is the same arrangement.
import Roost.Client.Layout.Export

/-!
# Export and back

What a document materializes to is one tree of its shape; collapsing drops the panes without a
session and nothing else. An exported layout with no empty pane comes back pane by pane, and the
document it is exported as again is the one it came from.
-/

namespace Roost.Layout

open LeafTree (leaves marks size)

open List

section
variable (document : LayoutDocumentV1) (extraSessions : List String) (ids : Nat → String)

def materialized (minted : Nat) : LayoutDocumentNode → PaneNode
  | .leaf leaf => .leaf (materializeLeaf document extraSessions (ids minted) leaf)
  | .node split first second =>
    .node { id := ids minted, direction := split.direction, ratio := split.ratio }
      (materialized (minted + 1) first) (materialized (minted + 1 + first.size) second)

def focusedPane (panes : List PaneLeaf) (leaves : List LayoutDocumentLeaf) : Option String :=
  ((panes.zip leaves).reverse.find? fun pair =>
    decide (pair.2.leafKey = document.focusedLeafKey)).map (·.1.paneId)

variable {document extraSessions ids}

theorem length_materialized (minted : Nat) (node : LayoutDocumentNode) :
    (materialized document extraSessions ids minted node).leaves.length = node.leaves.length := by
  induction node generalizing minted with
  | leaf => rfl
  | node split first second ihfirst ihsecond =>
    rw [materialized, leaves, leaves, length_append, length_append, ihfirst, ihsecond]

theorem focusedPane_singleton (pane : PaneLeaf) (leaf : LayoutDocumentLeaf) :
    focusedPane document [pane] [leaf] =
      if leaf.leafKey = document.focusedLeafKey then some pane.paneId else none := by
  by_cases hfoc : leaf.leafKey = document.focusedLeafKey <;> simp [focusedPane, hfoc]

theorem focusedPane_append {panes panes' : List PaneLeaf} {leaves leaves' : List LayoutDocumentLeaf}
    (h : panes.length = leaves.length) :
    focusedPane document (panes ++ panes') (leaves ++ leaves') =
      (focusedPane document panes' leaves').or (focusedPane document panes leaves) := by
  rw [focusedPane, zip_append h, reverse_append, find?_append, Option.map_or]
  rfl

theorem materializeNode_eq_ok {minted minted' : Nat} {focus focus' : Option String}
    {node : LayoutDocumentNode} {root : PaneNode} :
    materializeNode document extraSessions ids minted focus node = .ok (root, minted', focus') ↔
      (∀ split ∈ node.marks, split.direction.Portable) ∧
        root = materialized document extraSessions ids minted node ∧ minted' = minted + node.size ∧
        focus' = (focusedPane document root.leaves node.leaves).or focus := by
  induction node generalizing minted minted' focus focus' root with
  | leaf leaf =>
    have hfocus : ∀ pane, (if leaf.leafKey = document.focusedLeafKey then some pane.paneId
        else focus) = (focusedPane document [pane] [leaf]).or focus := by
      intro pane
      rw [focusedPane_singleton]
      split <;> rfl
    simp only [materializeNode, materialized, marks, size, leaves,
      Except.ok.injEq, Prod.mk.injEq, hfocus]
    constructor
    · rintro ⟨rfl, rfl, rfl⟩
      exact ⟨fun _ hmem => (by cases hmem), rfl, rfl, rfl⟩
    · rintro ⟨-, rfl, rfl, rfl⟩
      exact ⟨rfl, rfl, rfl⟩
  | node split first second ihfirst ihsecond =>
    have hlen : ∀ minted, (materialized document extraSessions ids minted first).leaves.length =
        first.leaves.length := fun minted => length_materialized minted first
    simp only [materializeNode, Except.bind_eq_ok, portableDirection_eq_ok]
    constructor
    · rintro ⟨_, ⟨hown, rfl⟩, ⟨a, middle, focusA⟩, ha, ⟨b, last, focusB⟩, hb, h⟩
      cases h
      obtain ⟨hfirst, rfl, rfl, rfl⟩ := ihfirst.mp ha
      obtain ⟨hsecond, rfl, rfl, rfl⟩ := ihsecond.mp hb
      refine ⟨forall_mem_cons.mpr ⟨hown, forall_mem_append.mpr ⟨hfirst, hsecond⟩⟩, rfl, ?_, ?_⟩
      · dsimp only
        rw [size]
        omega
      · rw [leaves, leaves, focusedPane_append (hlen _), Option.or_assoc]
    · rintro ⟨hsplits, rfl, rfl, rfl⟩
      obtain ⟨hown, hbelow⟩ := forall_mem_cons.mp hsplits
      obtain ⟨hfirst, hsecond⟩ := forall_mem_append.mp hbelow
      refine ⟨split.direction, ⟨hown, rfl⟩, _, ihfirst.mpr ⟨hfirst, rfl, rfl, rfl⟩, _,
        ihsecond.mpr ⟨hsecond, rfl, rfl, rfl⟩, ?_⟩
      simp only [materialized, leaves, size, Except.ok.injEq, Prod.mk.injEq,
        focusedPane_append (hlen _), Option.or_assoc, true_and, and_true]
      omega

theorem focusedPane_isSome {panes : List PaneLeaf} {leaves : List LayoutDocumentLeaf}
    (hlen : panes.length = leaves.length) (h : document.focusedLeafKey ∈ leaves.map (·.leafKey)) :
    ∃ (place : Nat) (pane : PaneLeaf) (leaf : LayoutDocumentLeaf), panes[place]? = some pane ∧ leaves[place]? = some leaf ∧
      leaf.leafKey = document.focusedLeafKey ∧
      focusedPane document panes leaves = some pane.paneId := by
  obtain ⟨leaf, hmem, hkey⟩ := mem_map.mp h
  have hsome : ((panes.zip leaves).reverse.find? fun pair =>
      decide (pair.2.leafKey = document.focusedLeafKey)).isSome = true := by
    rw [find?_isSome]
    rw [← map_snd_zip hlen.symm.le] at hmem
    obtain ⟨pair, hpair, rfl⟩ := mem_map.mp hmem
    exact ⟨pair, mem_reverse.mpr hpair, decide_eq_true hkey⟩
  obtain ⟨⟨pane, leaf⟩, hfound⟩ := Option.isSome_iff_exists.mp hsome
  obtain ⟨place, hplace⟩ := mem_iff_getElem?.mp (mem_reverse.mp (mem_of_find?_eq_some hfound))
  obtain ⟨hpane, hleaf⟩ := getElem?_zip_eq_some.mp hplace
  refine ⟨place, pane, leaf, hpane, hleaf, by simpa using find?_some hfound, ?_⟩
  rw [focusedPane, hfound]
  rfl

/-- The panes a materialized document drops: those that hold no session. -/
def sessionLess (root : PaneNode) (leaf : PaneLeaf) : Bool :=
  leaf.tabs.isEmpty && decide (leaf.paneId ∈ ((allLeaves root).filter (·.tabs.isEmpty)).map (·.paneId))

theorem sessionLess_eq {root : PaneNode} {leaf : PaneLeaf} (h : leaf ∈ root.leaves) :
    sessionLess root leaf = leaf.tabs.isEmpty := by
  cases hempty : leaf.tabs.isEmpty with
  | false => rw [sessionLess, hempty, Bool.false_and]
  | true =>
    have hmem : leaf.paneId ∈ ((allLeaves root).filter (·.tabs.isEmpty)).map (·.paneId) :=
      mem_map_of_mem (mem_filter.mpr ⟨h, hempty⟩)
    rw [sessionLess, hempty, Bool.true_and, decide_eq_true hmem]

theorem materializeLayoutDocument_accepts (extraSessions : List String) (ids : Nat → String)
    (hport : ∀ split ∈ doc.root.marks, split.direction.Portable)
    (hfoc : doc.focusedLeafKey ∈ doc.root.leaves.map (·.leafKey)) :
    ∃ (applied : AppliedLayout) (place : Nat) (pane : PaneLeaf) (leaf : LayoutDocumentLeaf),
      materializeLayoutDocument doc extraSessions ids = .ok applied ∧
      (materialized doc extraSessions ids 0 doc.root).leaves[place]? = some pane ∧
      doc.root.leaves[place]? = some leaf ∧ leaf.leafKey = doc.focusedLeafKey ∧
      applied.layout.root = (materialized doc extraSessions ids 0 doc.root).collapse
        (sessionLess (materialized doc extraSessions ids 0 doc.root)) ∧
      applied.layout.focusedPaneId = fixFocus applied.layout.root pane.paneId := by
  have hlen : (materialized doc extraSessions ids 0 doc.root).leaves.length =
      doc.root.leaves.length := length_materialized 0 doc.root
  obtain ⟨place, pane, leaf, hpane, hleaf, hkey, hfound⟩ := focusedPane_isSome hlen hfoc
  let root := materialized doc extraSessions ids 0 doc.root
  let kept := root.collapse (sessionLess root)
  let selected := ((findLeaf kept (fixFocus kept pane.paneId)).map (·.selectedTab)).filter
    fun selected => decide (selected ≠ "")
  refine ⟨{ layout := { root := kept, focusedPaneId := fixFocus kept pane.paneId }
            selectedSessionId := selected }, place, pane, leaf, ?_, hpane, hleaf, hkey, rfl, rfl⟩
  rw [materializeLayoutDocument, Except.bind_eq_ok]
  refine ⟨_, materializeNode_eq_ok.mpr ⟨hport, rfl, rfl, rfl⟩, ?_⟩
  rw [Except.bind_eq_ok]
  refine ⟨pane.paneId, ?_, rfl⟩
  rw [Except.okOr_eq_ok, hfound, Option.some_or]

end

/-! ## The same arrangement under other ids -/

/-- Two splits that differ in their ids alone. -/
def SameSplit (split split' : PaneSplit) : Prop :=
  split'.direction = split.direction ∧ split'.ratio = split.ratio

/-- Two panes that differ in their ids alone. -/
def SamePane (leaf leaf' : PaneLeaf) : Prop :=
  leaf'.tabs = leaf.tabs ∧ leaf'.selectedTab = leaf.selectedTab

/-- Two layouts that differ in the ids of their panes and splits alone, focused in one place. -/
structure PaneLayout.SameArrangement (layout layout' : PaneLayout) : Prop where
  panes : layout.root.Alike SameSplit SamePane layout'.root
  focus : ∃ (place : Nat) (pane pane' : PaneLeaf),
    layout.root.leaves[place]? = some pane ∧ pane.paneId = layout.focusedPaneId ∧
    layout'.root.leaves[place]? = some pane' ∧ pane'.paneId = layout'.focusedPaneId

section
variable {layout layout' : PaneLayout}

theorem numbered_alike {node node' : PaneNode} (h : node.Alike SameSplit SamePane node')
    (nextLeaf nextSlot : Nat) : numbered nextLeaf nextSlot node' = numbered nextLeaf nextSlot node ∧
      node'.leaves.length = node.leaves.length ∧
      node'.leaves.flatMap (·.tabs) = node.leaves.flatMap (·.tabs) := by
  induction h generalizing nextLeaf nextSlot with
  | leaf h =>
    refine ⟨?_, rfl, ?_⟩
    · simp only [numbered, exportLeaf, h.1, h.2]
    · simp only [leaves, flatMap_singleton, h.1]
  | node h ha hb iha ihb =>
    obtain ⟨hnumber, hlen, htabs⟩ := iha nextLeaf nextSlot
    refine ⟨?_, ?_, ?_⟩
    · simp only [numbered, h.1, h.2, hnumber, hlen, htabs, (ihb _ _).1]
    · simp only [leaves, length_append, hlen, (ihb nextLeaf nextSlot).2.1]
    · simp only [leaves, flatMap_append, htabs, (ihb nextLeaf nextSlot).2.2]

theorem lookup_focus {leaves : List PaneLeaf} (hids : (leaves.map (·.paneId)).Nodup) {place : Nat}
    {pane : PaneLeaf} (hplace : leaves[place]? = some pane) :
    (numberedKeys .empty 1 leaves).lookup pane.paneId = some (leafKeyAt (1 + place)) := by
  have hmem : pane.paneId ∈ leaves.map (·.paneId) :=
    List.mem_map_of_mem (List.mem_of_getElem? hplace)
  rcases @numberedKeys_lookup .empty 1 leaves pane.paneId with
    ⟨habsent, -⟩ | ⟨place', pane', hplace', hid, hlook⟩
  · exact absurd hmem habsent
  have hat : ∀ {index : Nat} {own : PaneLeaf}, leaves[index]? = some own →
      (leaves.map (·.paneId))[index]? = some own.paneId := fun hown => by
    rw [List.getElem?_map, hown]
    rfl
  have hlt : place' < (leaves.map (·.paneId)).length :=
    (List.getElem?_eq_some_iff.mp (hat hplace')).1
  have hsame : place' = place := by
    refine (List.getElem?_inj hlt hids).mp ?_
    rw [hat hplace', hat hplace, hid]
  rw [hlook, hsame]

theorem PaneLayout.SameArrangement.documentWith_eq (h : layout.SameArrangement layout')
    (key : String) : layout'.documentWith key = layout.documentWith key := by
  obtain ⟨hroot, -, hsess⟩ := numbered_alike h.panes 1 1
  rw [PaneLayout.documentWith, PaneLayout.documentWith, PaneLayout.sessions, hroot, hsess]
  rfl

theorem PaneLayout.SameArrangement.export_eq {ratioText : F64 → String} {folderKey : String}
    {live : List String} {document : LayoutDocumentV1} (h : layout.SameArrangement layout')
    (hids : (layout.root.leaves.map (·.paneId)).Nodup)
    (hids' : (layout'.root.leaves.map (·.paneId)).Nodup)
    (hexport : exportLayoutDocument ratioText folderKey live layout = .ok document) :
    exportLayoutDocument ratioText folderKey live layout' = .ok document := by
  obtain ⟨hfolder, hlive, hfits, hdoc⟩ := exportLayoutDocument_eq_ok.mp hexport
  obtain ⟨-, key, hkey, rfl⟩ := documentFromLayout_eq_ok.mp hdoc
  obtain ⟨_, _, _, hpane, hfocus, hpane', hfocus'⟩ := h.focus
  have hkey' : (numberedKeys .empty 1 layout'.root.leaves).lookup layout'.focusedPaneId = some key := by
    rw [← hkey, ← hfocus, ← hfocus', lookup_focus hids hpane, lookup_focus hids' hpane']
  rw [← h.documentWith_eq key]
  have hfits' : layout'.Exportable := by
    have hadmissible : Admissible (layout'.documentWith key) := by
      rw [h.documentWith_eq key]
      exact hfits.admissible hkey
    exact exportable_of_admissible hadmissible
  exact exportLayoutDocument_eq_ok.mpr ⟨hfolder, hlive, hfits', documentFromLayout_eq_ok.mpr
    ⟨fun split hmem => (hfits'.splits split hmem).1, key, hkey', rfl⟩⟩

end

/-! ## Materializing what was exported -/

theorem sessionBySlot_of_mem {bindings : List LayoutDocumentBinding}
    (hnd : (bindings.map (·.slotKey)).Nodup) {binding : LayoutDocumentBinding}
    (hmem : binding ∈ bindings) :
    sessionBySlot bindings binding.slotKey = some binding.sessionId := by
  have hsome : (bindings.reverse.find? fun other =>
      decide (other.slotKey = binding.slotKey)).isSome = true := by
    rw [find?_isSome]
    exact ⟨binding, mem_reverse.mpr hmem, decide_eq_true rfl⟩
  obtain ⟨other, hother⟩ := Option.isSome_iff_exists.mp hsome
  have hkey : other.slotKey = binding.slotKey := by simpa using find?_some hother
  have hsame : other = binding := inj_on_of_nodup_map hnd
    (mem_reverse.mp (mem_of_find?_eq_some hother)) hmem hkey
  rw [sessionBySlot, hother, hsame]
  rfl

section
variable {document : LayoutDocumentV1} {ids : Nat → String}

theorem materializeLeaf_export {nextLeaf nextSlot : Nat} {leaf : PaneLeaf} (paneId : String)
    (hsel : leaf.Selects) (hbound : ∀ slot ∈ leaf.tabs.zipIdx nextSlot,
      sessionBySlot document.bindings (slotKeyAt slot.2) = some slot.1) :
    SamePane leaf (materializeLeaf document [] paneId (exportLeaf nextLeaf nextSlot leaf)) := by
  have hslots : (leaf.tabs.zipIdx nextSlot).filterMap
      (sessionBySlot document.bindings ∘ fun slot => slotKeyAt slot.2) =
        (leaf.tabs.zipIdx nextSlot).filterMap fun slot => some slot.1 := filterMap_congr hbound
  have htabs : materializeTabs document [] (exportLeaf nextLeaf nextSlot leaf) = leaf.tabs := by
    rw [materializeTabs, ite_self, append_nil, exportLeaf, filterMap_map, hslots, filterMap_eq_map']
    exact zipIdx_map_fst nextSlot leaf.tabs
  refine ⟨htabs, ?_⟩
  show ((((exportLeaf nextLeaf nextSlot leaf).selectedSlotKey.bind
    (sessionBySlot document.bindings)).or
      (materializeTabs document [] (exportLeaf nextLeaf nextSlot leaf)).head?).getD "") = _
  rw [htabs]
  cases hselect : (exportLeaf nextLeaf nextSlot leaf).selectedSlotKey with
  | some =>
    obtain ⟨number, hslot, rfl⟩ := exportLeaf_selected hselect
    have hsession := hbound (leaf.selectedTab, number) hslot
    rw [Option.bind_some, hsession, Option.some_or, Option.getD_some]
  | none =>
    have hnone : leaf.tabs = [] := by
      by_contra hsome
      exact exportLeaf_unselected.mp hselect (hsel.held hsome)
    rw [hsel.unselected hnone, hnone, Option.bind_none, Option.none_or, head?_nil, Option.getD_none]

theorem materialized_numbered {minted nextLeaf nextSlot : Nat} {node : PaneNode}
    (hsel : ∀ leaf ∈ node.leaves, leaf.Selects)
    (hbound : ∀ slot ∈ (node.leaves.flatMap (·.tabs)).zipIdx nextSlot,
      sessionBySlot document.bindings (slotKeyAt slot.2) = some slot.1) :
    node.Alike SameSplit SamePane
      (materialized document [] ids minted (numbered nextLeaf nextSlot node)) := by
  induction node generalizing minted nextLeaf nextSlot with
  | leaf leaf =>
    rw [leaves, flatMap_singleton] at hbound
    exact .leaf (materializeLeaf_export _ (hsel leaf (mem_singleton_self _)) hbound)
  | node split a b iha ihb =>
    obtain ⟨ha, hb⟩ := forall_mem_append.mp hsel
    rw [leaves, flatMap_append, zipIdx_append] at hbound
    obtain ⟨hboundA, hboundB⟩ := forall_mem_append.mp hbound
    exact .node ⟨rfl, rfl⟩ (iha ha hboundA) (ihb hb hboundB)

theorem exportBindings_bound (tabs : List String) : ∀ slot ∈ tabs.zipIdx 1,
      sessionBySlot (exportBindings 1 tabs) (slotKeyAt slot.2) = some slot.1 := by
  intro slot hmem
  have hnd : ((exportBindings 1 tabs).map (·.slotKey)).Nodup := by
    rw [exportBindings_slotKeys]
    exact List.Nodup.map slotKeyAt_injective nodup_range'
  have hbind : ({ slotKey := slotKeyAt slot.2, sessionId := slot.1 } : LayoutDocumentBinding) ∈
      exportBindings 1 tabs := mem_map_of_mem hmem
  exact sessionBySlot_of_mem hnd hbind

theorem materialized_uncollapsed {root : PaneNode} {root' : PaneNode}
    (halike : root.Alike SameSplit SamePane root')
    (hheld : (∀ leaf ∈ root.leaves, leaf.tabs ≠ []) ∨ ∃ leaf, root = .leaf leaf) :
    root'.collapse (sessionLess root') = root' := by
  rcases hheld with hheld | ⟨leaf, rfl⟩
  · refine LeafTree.collapse_eq_self fun leaf' hmem => ?_
    obtain ⟨leaf, hleaf, htabs, -⟩ := halike.exists_leaf hmem
    rw [sessionLess_eq hmem, isEmpty_eq_false_iff, htabs]
    exact hheld leaf hleaf
  · cases halike
    rfl

theorem focused_place {layout : PaneLayout} {key : String}
    (hkey : (numberedKeys .empty 1 layout.root.leaves).lookup layout.focusedPaneId = some key)
    {place : Nat} {leaf : LayoutDocumentLeaf}
    (hleaf : (layout.documentWith key).root.leaves[place]? = some leaf)
    (hfoc : leaf.leafKey = (layout.documentWith key).focusedLeafKey) :
    ∃ pane, layout.root.leaves[place]? = some pane ∧ pane.paneId = layout.focusedPaneId := by
  have hkeys : (layout.documentWith key).root.leaves.map (·.leafKey) =
      (List.range' 1 layout.root.leaves.length).map leafKeyAt := by
    show (numbered 1 1 layout.root).leaves.map (·.leafKey) = _
    rw [leaves_numbered, numberedLeaves_keys]
  have hat := congrArg (·[place]?) hkeys
  simp only [List.getElem?_map, hleaf, Option.map_some] at hat
  obtain ⟨_, hnumber, heq⟩ := Option.map_eq_some_iff.mp hat.symm
  have hlt : place < layout.root.leaves.length := by
    have hbound := (List.getElem?_eq_some_iff.mp hnumber).1
    rwa [List.length_range'] at hbound
  rw [List.getElem?_range' hlt, Nat.one_mul] at hnumber
  cases hnumber
  rcases @numberedKeys_lookup .empty 1 layout.root.leaves layout.focusedPaneId with
    ⟨-, hnone⟩ | ⟨place', pane, hpane, hid, hsome⟩
  · exact absurd (hkey.symm.trans hnone) (Option.some_ne_none key)
  have hplace : 1 + place = 1 + place' := leafKeyAt_injective
    ((heq.trans hfoc).trans (Option.some.inj (hkey.symm.trans hsome)))
  cases Nat.add_left_cancel hplace
  exact ⟨pane, hpane, hid⟩

theorem export_materialize_export {ratioText : F64 → String} {folderKey : String}
    {live : List String} {layout : PaneLayout} (hwf : layout.WellFormed)
    (hheld : (∀ leaf ∈ layout.root.leaves, leaf.tabs ≠ []) ∨ ∃ leaf, layout.root = .leaf leaf)
    (hids : Function.Injective ids)
    (hexport : exportLayoutDocument ratioText folderKey live layout = .ok document) :
    ∃ applied, materializeLayoutDocument document [] ids = .ok applied ∧
      layout.SameArrangement applied.layout ∧ applied.layout.WellFormed ∧
      exportLayoutDocument ratioText folderKey live applied.layout = .ok document := by
  obtain ⟨-, -, hfits, hdoc⟩ := exportLayoutDocument_eq_ok.mp hexport
  obtain ⟨-, key, hkey, rfl⟩ := documentFromLayout_eq_ok.mp hdoc
  have hconn := hfits.connected hkey
  have hadmissible := hfits.admissible hkey
  have halike : layout.root.Alike SameSplit SamePane
      (materialized (layout.documentWith key) [] ids 0 (layout.documentWith key).root) :=
    materialized_numbered hwf.orderly.selects (exportBindings_bound layout.sessions)
  obtain ⟨applied, place, pane, _, happly, hpane, hleaf, hfoc, hroot, hfocus⟩ :=
    materializeLayoutDocument_accepts [] ids
      (fun split hmem => (hadmissible.splits split hmem).1) hconn.focused
  rw [materialized_uncollapsed halike hheld] at hroot
  have hsame : layout.SameArrangement applied.layout := by
    refine ⟨hroot ▸ halike, place, ?_⟩
    obtain ⟨pane', hpane', hfocus'⟩ := focused_place hkey hleaf hfoc
    refine ⟨pane', pane, hpane', hfocus', hroot ▸ hpane, ?_⟩
    have hmem : pane.paneId ∈ applied.layout.root.leaves.map (·.paneId) := by
      rw [hroot]
      exact mem_map_of_mem (mem_of_getElem? hpane)
    rw [hfocus, fixFocus, if_pos (findLeaf_isSome.mpr hmem)]
  have hwf' : applied.layout.WellFormed :=
    materializeLayoutDocument_wellFormed hconn.toJoined
      (fun split hmem => (hadmissible.splits split hmem).2) hids nodup_nil
      (fun _ hmem => (nomatch hmem)) happly
  exact ⟨applied, happly, hsame, hwf', hsame.export_eq hwf.orderly.ids hwf'.orderly.ids hexport⟩

end

end Roost.Layout
