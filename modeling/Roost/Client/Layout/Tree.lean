-- SUMMARY: The runtime pane tree: walkers, repairs, and mutations.
import Mathlib.Tactic.NormNum
import Roost.Protocol.Layout.Document

/-!
# The pane tree

A pane is a leaf with its ordered tabs, a divider a node with a ratio. A mutation is a replacement
of leaves, never an edit in place. A gesture that names a pane or a tab that is gone returns the
layout as it was.
-/

namespace Roost.Layout

/-- Half of what the two bounds add up to; as doubles they add up to one. -/
def layoutRatioMid : ℚ := 1 / 2

/-- A pane, with the ordered tabs its strip shows. -/
structure PaneLeaf where
  paneId : String
  /-- Ordered session ids. -/
  tabs : List String
  selectedTab : String
  deriving DecidableEq

/-- A divider between two subtrees. -/
structure PaneSplit where
  id : String
  direction : LayoutDirection
  ratio : F64

abbrev PaneNode := LeafTree PaneSplit PaneLeaf

/-- A whole folder's arrangement: the tree, and which pane has the keyboard. -/
structure PaneLayout where
  root : PaneNode
  focusedPaneId : String

/-- A single pane holding every given session, the first one selected. -/
def defaultLayout (sessionIds : List String) (paneId : String) : PaneLayout where
  root := .leaf { paneId, tabs := sessionIds, selectedTab := sessionIds.head?.getD "" }
  focusedPaneId := paneId

variable (node : PaneNode)

/-- Every pane, in first-before-second order. -/
def allLeaves : List PaneLeaf := node.leaves

def findLeaf (paneId : String) : Option PaneLeaf :=
  (allLeaves node).find? fun leaf => decide (leaf.paneId = paneId)

def findLeafOfTab (tab : String) : Option PaneLeaf :=
  (allLeaves node).find? fun leaf => decide (tab ∈ leaf.tabs)

def updateLeaf (paneId : String) (edit : PaneLeaf → PaneNode) : PaneNode :=
  node.bind fun leaf => if leaf.paneId = paneId then edit leaf else .leaf leaf

/-- Clamp a ratio into the shared bounds, treating every non-finite input. -/
def normalizePaneRatio : F64 → F64
  | .nan => .finite layoutRatioMid
  | .infinity false => .finite layoutRatioMax
  | .infinity true => .finite layoutRatioMin
  | .finite value => .finite (max layoutRatioMin (min value layoutRatioMax))

def setRatio (splitId : String) (ratio : F64) : PaneNode :=
  node.mapMarks fun split =>
    { split with ratio := if split.id = splitId then normalizePaneRatio ratio else split.ratio }

/-- Drop `tab` from a pane, moving its selection to the tab that took its place. -/
def removeTabFromLeaf (leaf : PaneLeaf) (tab : String) : PaneLeaf :=
  match leaf.tabs.findIdx? fun held => decide (held = tab) with
  | none => leaf
  | some index =>
    let tabs := leaf.tabs.filter fun held => decide (held ≠ tab)
    let selectedTab :=
      if leaf.selectedTab = tab then
        ((tabs[index]?.or tabs[index - 1]?).or tabs.head?).getD ""
      else leaf.selectedTab
    { leaf with tabs, selectedTab }

/-- Drop `tab` from whichever pane holds it, without collapsing what it empties. -/
def removeTabEverywhere (tab : String) : PaneNode :=
  node.map fun leaf => removeTabFromLeaf leaf tab

/-- Collapse only the empty panes the caller nominates, bottom-up. -/
def collapseEmpties (collapsiblePaneIds : List String) : PaneNode :=
  node.collapse fun leaf => leaf.tabs.isEmpty && decide (leaf.paneId ∈ collapsiblePaneIds)

/-- Clamp every ratio in a stored tree. -/
def normalizeSplitRatios : PaneNode :=
  node.mapMarks fun split => { split with ratio := normalizePaneRatio split.ratio }

/-- Point focus at a pane that exists, falling back to the first one. -/
def fixFocus (root : PaneNode) (preferred : String) : String :=
  if (findLeaf root preferred).isSome then preferred else root.first.paneId

/-! ## Walks and repairs -/

theorem normalizePaneRatio_within (ratio : F64) : (normalizePaneRatio ratio).within = true := by
  have hbounds : layoutRatioMin ≤ layoutRatioMax := by
    unfold layoutRatioMin layoutRatioMax
    norm_num
  cases ratio with
  | nan =>
    simp only [normalizePaneRatio, F64.within, decide_eq_true_eq]
    unfold layoutRatioMin layoutRatioMax layoutRatioMid
    norm_num
  | infinity negative => cases negative <;> simp [normalizePaneRatio, F64.within, hbounds]
  | finite =>
    simp only [normalizePaneRatio, F64.within, decide_eq_true_eq]
    exact ⟨le_max_left _ _, max_le hbounds (min_le_right _ _)⟩

variable {node : PaneNode} {paneId : String} {leaf : PaneLeaf}

theorem findLeaf_mem
    (h : findLeaf node paneId = some leaf) : leaf ∈ node.leaves ∧ leaf.paneId = paneId :=
  ⟨List.mem_of_find?_eq_some h, by simpa using List.find?_some h⟩

theorem findLeaf_isSome :
    (findLeaf node paneId).isSome ↔ paneId ∈ node.leaves.map (·.paneId) := by
  simp [findLeaf, allLeaves, List.find?_isSome]

theorem findLeafOfTab_mem {tab : String}
    (h : findLeafOfTab node tab = some leaf) : leaf ∈ node.leaves ∧ tab ∈ leaf.tabs :=
  ⟨List.mem_of_find?_eq_some h, by simpa using List.find?_some h⟩

theorem fixFocus_mem (root : PaneNode) (preferred : String) :
    fixFocus root preferred ∈ root.leaves.map (·.paneId) := by
  unfold fixFocus
  split
  · next hfound => exact findLeaf_isSome.mp hfound
  · exact List.mem_map_of_mem root.first_mem

theorem removeTabFromLeaf_tabs (leaf : PaneLeaf) (tab : String) :
    (removeTabFromLeaf leaf tab).tabs = leaf.tabs.filter fun held => decide (held ≠ tab) := by
  unfold removeTabFromLeaf
  cases hindex : leaf.tabs.findIdx? fun held => decide (held = tab) with
  | some => rfl
  | none =>
    rw [List.findIdx?_eq_none_iff] at hindex
    refine (List.filter_eq_self.mpr fun held hmem => ?_).symm
    simpa using hindex held hmem

@[simp] theorem removeTabFromLeaf_paneId (leaf : PaneLeaf) (tab : String) :
    (removeTabFromLeaf leaf tab).paneId = leaf.paneId := by
  unfold removeTabFromLeaf
  split <;> rfl

/-! ## Mutations -/

/-- Drop the dead tabs of a pane, moving its selection when it died. -/
def pruneLeaf (liveIds : List String) (leaf : PaneLeaf) : PaneLeaf :=
  let tabs := leaf.tabs.filter fun tab => decide (tab ∈ liveIds)
  if tabs.length = leaf.tabs.length then leaf
  else
    { paneId := leaf.paneId
      tabs
      selectedTab :=
        if leaf.selectedTab ∈ liveIds then leaf.selectedTab else tabs.head?.getD "" }

/-- Whether the prune takes the last tab of a pane, rather than finding the pane empty. -/
def emptiedByPrune (liveIds : List String) (leaf : PaneLeaf) : Bool :=
  !leaf.tabs.isEmpty && (leaf.tabs.filter fun tab => decide (tab ∈ liveIds)).isEmpty

def appendOrphans (orphans : List String) (leaf : PaneLeaf) : PaneLeaf where
  paneId := leaf.paneId
  tabs := leaf.tabs ++ orphans
  selectedTab := if leaf.selectedTab = "" then orphans.head?.getD "" else leaf.selectedTab

variable (layout : PaneLayout)

/-- Fold the live session set into a stored arrangement: clamp legacy ratios, prune dead tabs,
collapse only the panes that prune emptied, then append never-placed live sessions to the focused
pane. -/
def reconcile (liveIds : List String) : PaneLayout :=
  let normalized := normalizeSplitRatios layout.root
  let emptied := ((allLeaves normalized).filter (emptiedByPrune liveIds)).map (·.paneId)
  let root := collapseEmpties (normalized.map (pruneLeaf liveIds)) emptied
  let placed : List String := (allLeaves root).flatMap (·.tabs)
  let orphans := liveIds.filter fun session => decide (session ∉ placed)
  let focusedPaneId := fixFocus root layout.focusedPaneId
  { root :=
      if orphans.isEmpty then root
      else updateLeaf root focusedPaneId fun leaf => .leaf (appendOrphans orphans leaf)
    focusedPaneId }

/-- Move `movingTab` into a brand-new pane split off `targetPaneId`; focus follows it. The layout is
unchanged when the target pane does not exist, when the direction is not one this build can render,
or when the split would move a pane's only tab out from under it. -/
def splitLeaf (targetPaneId : String) (direction : LayoutDirection)
    (movingTab : String) (insertFirst : Bool) (newPaneId splitId : String) : PaneLayout :=
  match direction with
  | .other _ => layout
  | .row | .col =>
    match findLeaf layout.root targetPaneId with
    | none => layout
    | some target =>
      let sourcePaneId := (findLeafOfTab layout.root movingTab).map (·.paneId)
      if sourcePaneId = some targetPaneId ∧ target.tabs.length ≤ 1 then layout
      else
        let moved : PaneNode :=
          .leaf { paneId := newPaneId, tabs := [movingTab], selectedTab := movingTab }
        let split : PaneSplit := { id := splitId, direction, ratio := .finite (1 / 2) }
        let grown := updateLeaf (removeTabEverywhere layout.root movingTab) targetPaneId fun leaf =>
          if insertFirst then .node split moved (.leaf leaf) else .node split (.leaf leaf) moved
        { root := collapseEmpties grown sourcePaneId.toList
          focusedPaneId := newPaneId }

/-- A position in a strip, the end where none is wanted. -/
def insertAt (rest : List String) (tab : String) (index : Option Nat) : List String :=
  rest.insertIdx ((index.map (min · rest.length)).getD rest.length) tab

def moveWithin (tabs : List String) (tab : String) (index : Option Nat) : List String :=
  insertAt (tabs.filter fun held => decide (held ≠ tab)) tab index

def reorderTab (paneId : String) (orderedTabs : List String) : PaneLayout where
  root := updateLeaf layout.root paneId fun leaf => .leaf { leaf with tabs := orderedTabs }
  focusedPaneId := layout.focusedPaneId

/-- Move `tab` into `toPaneId` at `index`, selecting it there. A move inside one pane is a reorder of
that pane's strip. -/
def moveTab (tab toPaneId : String) (index : Option Nat) : PaneLayout :=
  match findLeaf layout.root toPaneId with
  | none => layout
  | some target =>
    let sourcePaneId := (findLeafOfTab layout.root tab).map (·.paneId)
    if sourcePaneId = some toPaneId then
      reorderTab layout toPaneId (moveWithin target.tabs tab index)
    else
      let destination := insertAt target.tabs tab index
      let moved := updateLeaf (removeTabEverywhere layout.root tab) toPaneId fun leaf =>
        .leaf { paneId := leaf.paneId, tabs := destination, selectedTab := tab }
      { root := collapseEmpties moved sourcePaneId.toList
        focusedPaneId := toPaneId }

def selectTab (tab : String) : PaneLayout :=
  match findLeafOfTab layout.root tab with
  | none => layout
  | some leaf =>
    { root := updateLeaf layout.root leaf.paneId fun leaf => .leaf { leaf with selectedTab := tab }
      focusedPaneId := leaf.paneId }

def focusPane (paneId : String) : PaneLayout :=
  if (findLeaf layout.root paneId).isNone then layout
  else { root := layout.root, focusedPaneId := paneId }

/-- Drop a closed tab, collapse only the pane this close emptied, and keep focus on a pane that
exists. -/
def closeTab (tab : String) : PaneLayout :=
  let closingPaneId := (findLeafOfTab layout.root tab).map (·.paneId)
  let root := collapseEmpties (removeTabEverywhere layout.root tab) closingPaneId.toList
  { root, focusedPaneId := fixFocus root layout.focusedPaneId }

end Roost.Layout
