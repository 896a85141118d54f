-- SUMMARY: Well-formed layouts, and the rewrites that keep their leaves orderly.
import Mathlib.Data.List.Nodup
import Mathlib.Data.List.Pairwise
import Roost.Client.Layout.Tree

/-!
# Well-formed layouts

Panes are orderly when any two are apart, in id and in tabs, and each one shows a tab it holds. An
edit rewrites one pane, drops tabs from all of them, or drops panes; each of the three keeps order.
-/

namespace Roost.Layout

open List

open LeafTree

/-- A pane selects one of its tabs, or nothing when it holds none. -/
structure PaneLeaf.Selects (leaf : PaneLeaf) : Prop where
  held : leaf.tabs ≠ [] → leaf.selectedTab ∈ leaf.tabs
  unselected : leaf.tabs = [] → leaf.selectedTab = ""

/-- Panes with distinct ids, every session in at most one tab position, and honest selections. -/
structure Orderly (leaves : List PaneLeaf) : Prop where
  ids : (leaves.map (·.paneId)).Nodup
  sessions : (leaves.flatMap (·.tabs)).Nodup
  selects : ∀ leaf ∈ leaves, leaf.Selects

structure PaneLayout.WellFormed (layout : PaneLayout) : Prop where
  orderly : Orderly layout.root.leaves
  focus : layout.focusedPaneId ∈ layout.root.leaves.map (·.paneId)
  ratios : ∀ split ∈ layout.root.marks, split.ratio.within = true

def PaneLayout.sessions (layout : PaneLayout) : List String := layout.root.leaves.flatMap (·.tabs)

/-- Two panes with nothing in common. -/
structure Apart (a b : PaneLeaf) : Prop where
  ids : a.paneId ≠ b.paneId
  tabs : List.Disjoint a.tabs b.tabs

theorem Apart.symm {a b : PaneLeaf} (h : Apart a b) : Apart b a :=
  ⟨h.ids.symm, fun _ hb ha => h.tabs ha hb⟩

instance : Std.Symm Apart := ⟨fun _ _ h => h.symm⟩

variable {leaves : List PaneLeaf} {f : PaneLeaf → PaneLeaf} {node : PaneNode} {paneId : String}

theorem orderly_iff : Orderly leaves ↔
      leaves.Pairwise Apart ∧ ∀ leaf ∈ leaves, leaf.tabs.Nodup ∧ leaf.Selects := by
  constructor
  · intro h
    have hsess := nodup_flatMap.mp h.sessions
    have hids := pairwise_map.mp h.ids
    exact ⟨(hids.and hsess.2).imp fun h => ⟨h.1, h.2⟩,
      fun leaf hmem => ⟨hsess.1 leaf hmem, h.selects leaf hmem⟩⟩
  rintro ⟨hapart, hleaf⟩
  exact
    { ids := pairwise_map.mpr (hapart.imp fun h => h.ids)
      sessions := nodup_flatMap.mpr
        ⟨fun leaf hmem => (hleaf leaf hmem).1, hapart.imp fun h => h.tabs⟩
      selects := fun leaf hmem => (hleaf leaf hmem).2 }

theorem Orderly.sublist {leaves' : List PaneLeaf} (h : Orderly leaves)
    (hsub : leaves'.Sublist leaves) : Orderly leaves' := by
  obtain ⟨hapart, hleaf⟩ := orderly_iff.mp h
  exact orderly_iff.mpr ⟨hapart.sublist hsub, fun leaf hmem => hleaf leaf (hsub.subset hmem)⟩

theorem Orderly.map (h : Orderly leaves) (hid : ∀ leaf, (f leaf).paneId = leaf.paneId)
    (htabs : ∀ leaf, (f leaf).tabs.Sublist leaf.tabs)
    (hselects : ∀ leaf ∈ leaves, leaf.Selects → (f leaf).Selects) : Orderly (leaves.map f) := by
  obtain ⟨hapart, hleaf⟩ := orderly_iff.mp h
  refine orderly_iff.mpr ⟨?_, ?_⟩
  · refine pairwise_map.mpr (hapart.imp fun {a b} hab => ⟨?_, ?_⟩)
    · rw [hid a, hid b]
      exact hab.ids
    · exact fun tab ha hb => hab.tabs ((htabs a).subset ha) ((htabs b).subset hb)
  intro leaf' hmem
  obtain ⟨leaf, hleaf', rfl⟩ := mem_map.mp hmem
  obtain ⟨hnd, hsel⟩ := hleaf leaf hleaf'
  exact ⟨hnd.sublist (htabs leaf), hselects leaf hleaf' hsel⟩

theorem Orderly.update (h : Orderly node.leaves) {target : PaneLeaf}
    (htarget : target ∈ node.leaves) (edit : PaneLeaf → PaneNode) (hnew : Orderly (edit target).leaves)
    (hapart : ∀ leaf ∈ (edit target).leaves, ∀ other ∈ node.leaves,
      other.paneId ≠ target.paneId → Apart leaf other) :
    Orderly (updateLeaf node target.paneId edit).leaves ∧
      (∀ leaf ∈ (edit target).leaves, leaf ∈ (updateLeaf node target.paneId edit).leaves) := by
  obtain ⟨before, after, hsplit⟩ := append_of_mem htarget
  obtain ⟨hold, hleaf⟩ := orderly_iff.mp h
  obtain ⟨hnewAp, hnewLeaf⟩ := orderly_iff.mp hnew
  rw [hsplit] at hold
  obtain ⟨hpre, hrest, hcross⟩ := pairwise_append.mp hold
  obtain ⟨htargeted, hafter⟩ := pairwise_cons.mp hrest
  -- Every other pane keeps its place: its id is not the target's.
  have hkeep : ∀ leaves : List PaneLeaf, (∀ leaf ∈ leaves, leaf.paneId ≠ target.paneId) →
      leaves.flatMap (fun leaf => (if leaf.paneId = target.paneId then edit leaf
        else LeafTree.leaf leaf).leaves) = leaves := by
    intro leaves hne
    induction leaves with
    | nil => rfl
    | cons leaf rest ih =>
      rw [flatMap_cons, if_neg (hne leaf mem_cons_self),
        ih fun other hmem => hne other (mem_cons_of_mem _ hmem)]
      rfl
  have hbefore : ∀ leaf ∈ before, leaf.paneId ≠ target.paneId := fun leaf hmem =>
    (hcross leaf hmem target mem_cons_self).ids
  have hafterNe : ∀ leaf ∈ after, leaf.paneId ≠ target.paneId := fun leaf hmem =>
    (htargeted leaf hmem).ids.symm
  have hleaves : (updateLeaf node target.paneId edit).leaves =
      before ++ ((edit target).leaves ++ after) := by
    rw [updateLeaf, LeafTree.leaves_bind, hsplit, flatMap_append, flatMap_cons,
      hkeep before hbefore, hkeep after hafterNe, if_pos rfl]
  have hbef : ∀ leaf ∈ before, leaf ∈ node.leaves := fun leaf hmem => by
    rw [hsplit]
    exact mem_append_left _ hmem
  have haft : ∀ leaf ∈ after, leaf ∈ node.leaves := fun leaf hmem => by
    rw [hsplit]
    exact mem_append_right _ (mem_cons_of_mem _ hmem)
  refine ⟨?_, fun leaf hmem => ?_⟩
  · rw [hleaves]
    refine orderly_iff.mpr ⟨?_, ?_⟩
    · refine pairwise_append.mpr ⟨hpre, pairwise_append.mpr ⟨hnewAp, hafter, ?_⟩, ?_⟩
      · intro leaf hmem other hother
        exact hapart leaf hmem other (haft other hother) (hafterNe other hother)
      intro other hother leaf hmem
      rcases mem_append.mp hmem with hmem | hmem
      · exact (hapart leaf hmem other (hbef other hother) (hbefore other hother)).symm
      · exact hcross other hother leaf (mem_cons_of_mem _ hmem)
    · intro leaf hmem
      rcases mem_append.mp hmem with hmem | hmem
      · exact hleaf leaf (hbef leaf hmem)
      rcases mem_append.mp hmem with hmem | hmem
      · exact hnewLeaf leaf hmem
      · exact hleaf leaf (haft leaf hmem)
  · rw [hleaves]
    exact mem_append_right _ (mem_append_left _ hmem)

variable {edit : PaneLeaf → PaneNode}

theorem updateLeaf_absent
    (h : paneId ∉ node.leaves.map (·.paneId)) : updateLeaf node paneId edit = node := by
  refine bind_eq_self fun leaf hmem => if_neg fun heq => h ?_
  exact heq ▸ mem_map_of_mem hmem

theorem updateLeaf_eq_map (node : PaneNode) (paneId : String) (f : PaneLeaf → PaneLeaf) :
    updateLeaf node paneId (fun leaf => .leaf (f leaf)) =
      node.map fun leaf => if leaf.paneId = paneId then f leaf else leaf := by
  rw [updateLeaf, ← LeafTree.bind_leaf]
  exact congrArg (LeafTree.bind · node) (funext fun leaf => (apply_ite LeafTree.leaf _ _ _).symm)

theorem updateLeaf_ids (node : PaneNode) (paneId : String)
    (hid : ∀ leaf, (f leaf).paneId = leaf.paneId) :
    (updateLeaf node paneId fun leaf => .leaf (f leaf)).leaves.map (·.paneId) =
      node.leaves.map (·.paneId) := by
  rw [updateLeaf_eq_map, leaves_map, map_map]
  refine map_congr_left fun leaf _ => ?_
  show (if leaf.paneId = paneId then f leaf else leaf).paneId = leaf.paneId
  split
  · exact hid leaf
  · rfl

theorem Orderly.rewrite (h : Orderly node.leaves) (hid : ∀ leaf, (f leaf).paneId = leaf.paneId)
    (hleaf : ∀ leaf ∈ node.leaves, leaf.paneId = paneId → (f leaf).tabs.Nodup ∧ (f leaf).Selects ∧
      ∀ other ∈ node.leaves, other.paneId ≠ paneId → List.Disjoint (f leaf).tabs other.tabs) :
    Orderly (updateLeaf node paneId fun leaf => .leaf (f leaf)).leaves := by
  by_cases hmem : paneId ∈ node.leaves.map (·.paneId)
  · obtain ⟨target, htarget, rfl⟩ := mem_map.mp hmem
    obtain ⟨hnd, hselects, hapart⟩ := hleaf target htarget rfl
    refine (h.update htarget (fun leaf => .leaf (f leaf)) ?_ ?_).1
    · exact orderly_iff.mpr ⟨pairwise_singleton _ _, fun leaf hleaf => by
        cases mem_singleton.mp hleaf
        exact ⟨hnd, hselects⟩⟩
    · intro leaf hleaf other hother hne
      cases mem_singleton.mp hleaf
      exact ⟨by rw [hid]; exact hne.symm, hapart other hother hne⟩
  · rw [updateLeaf_absent hmem]
    exact h

theorem mem_marks_updateLeaf
    {split : PaneSplit} (h : split ∈ (updateLeaf node paneId edit).marks) :
    split ∈ node.marks ∨ ∃ leaf, split ∈ (edit leaf).marks := by
  rcases mem_marks_bind h with hold | ⟨leaf, -, hnew⟩
  · exact .inl hold
  · split at hnew
    · exact .inr ⟨leaf, hnew⟩
    · exact nomatch hnew

/-! ## Dropping tabs, and the panes they leave empty -/

theorem PaneLeaf.Selects.removeTab {leaf : PaneLeaf} (h : leaf.Selects) (tab : String) :
    (removeTabFromLeaf leaf tab).Selects := by
  unfold removeTabFromLeaf
  cases hindex : leaf.tabs.findIdx? fun held => decide (held = tab) with
  | none => exact h
  | some index =>
    have hin : tab ∈ leaf.tabs := by
      by_contra hout
      have hnone : leaf.tabs.findIdx? (fun held => decide (held = tab)) = none :=
        findIdx?_eq_none_iff.mpr fun held hheld =>
          decide_eq_false fun heq : held = tab => hout (heq ▸ hheld)
      rw [hnone] at hindex
      exact nomatch hindex
    have hheld := h.held (ne_nil_of_mem hin)
    by_cases hselect : leaf.selectedTab = tab
    · simp only [hselect, if_true]
      constructor
      · intro hsome
        cases hnext : (leaf.tabs.filter fun held => decide (held ≠ tab)) with
        | nil => exact absurd hnext hsome
        | cons first rest =>
          simp only [head?_cons]
          cases hat : (first :: rest)[index]? with
          | some => exact mem_of_getElem? hat
          | none =>
            cases hpre : (first :: rest)[index - 1]? with
            | some => exact mem_of_getElem? hpre
            | none => exact mem_cons_self
      · intro hnone
        have hnone : (leaf.tabs.filter fun held => decide (held ≠ tab)) = [] := hnone
        simp only [hnone]
        rfl
    · simp only [hselect, if_false]
      have hkept : leaf.selectedTab ∈ leaf.tabs.filter fun held => decide (held ≠ tab) :=
        mem_filter.mpr ⟨hheld, decide_eq_true hselect⟩
      refine ⟨fun _ => hkept, fun hnone => ?_⟩
      have hnone : (leaf.tabs.filter fun held => decide (held ≠ tab)) = [] := hnone
      rw [hnone] at hkept
      exact nomatch hkept

theorem removeTabFromLeaf_sublist (leaf : PaneLeaf) (tab : String) :
    (removeTabFromLeaf leaf tab).tabs.Sublist leaf.tabs := by
  rw [removeTabFromLeaf_tabs]
  exact filter_sublist

theorem removeTabEverywhere_orderly (h : Orderly node.leaves) (tab : String) :
    Orderly (removeTabEverywhere node tab).leaves := by
  rw [removeTabEverywhere, leaves_map]
  exact h.map (removeTabFromLeaf_paneId · tab) (removeTabFromLeaf_sublist · tab)
    fun leaf _ hselects => hselects.removeTab tab

theorem removeTabEverywhere_gone (node : PaneNode) (tab : String) :
    ∀ leaf ∈ (removeTabEverywhere node tab).leaves, tab ∉ leaf.tabs := by
  intro leaf hmem
  rw [removeTabEverywhere, leaves_map] at hmem
  obtain ⟨_, -, rfl⟩ := mem_map.mp hmem
  rw [removeTabFromLeaf_tabs, mem_filter]
  simp

theorem removeTabEverywhere_ids (node : PaneNode) (tab : String) :
    (removeTabEverywhere node tab).leaves.map (·.paneId) = node.leaves.map (·.paneId) := by
  rw [removeTabEverywhere, leaves_map, map_map]
  exact map_congr_left fun leaf _ => removeTabFromLeaf_paneId leaf tab

theorem collapseEmpties_orderly (h : Orderly node.leaves) (ids : List String) :
    Orderly (collapseEmpties node ids).leaves := by
  rcases collapse_cases
    (fun leaf : PaneLeaf => leaf.tabs.isEmpty && decide (leaf.paneId ∈ ids)) node with
    ⟨-, hkept⟩ | ⟨-, leaf, hmem, hleft⟩
  · rw [collapseEmpties, hkept]
    exact h.sublist filter_sublist
  · rw [collapseEmpties, hleft]
    exact h.sublist (singleton_sublist.mpr hmem)

theorem mem_collapseEmpties {leaf : PaneLeaf} (hmem : leaf ∈ node.leaves)
    (htabs : leaf.tabs ≠ []) (ids : List String) : leaf ∈ (collapseEmpties node ids).leaves := by
  have hstays : leaf ∈ node.leaves.filter fun leaf =>
      !(leaf.tabs.isEmpty && decide (leaf.paneId ∈ ids)) :=
    mem_filter.mpr ⟨hmem, by simp [htabs]⟩
  rcases collapse_cases
    (fun leaf : PaneLeaf => leaf.tabs.isEmpty && decide (leaf.paneId ∈ ids)) node with
    ⟨-, hkept⟩ | ⟨hnone, -⟩
  · rw [collapseEmpties, hkept]
    exact hstays
  · rw [hnone] at hstays
    exact nomatch hstays

theorem mem_sessions_collapseEmpties {ids : List String} {session : String} :
    session ∈ (collapseEmpties node ids).leaves.flatMap (·.tabs) ↔
      session ∈ node.leaves.flatMap (·.tabs) := by
  constructor
  · intro h
    obtain ⟨leaf, hmem, htab⟩ := mem_flatMap.mp h
    refine mem_flatMap.mpr ⟨leaf, ?_, htab⟩
    rcases collapse_cases
      (fun leaf : PaneLeaf => leaf.tabs.isEmpty && decide (leaf.paneId ∈ ids)) node with
      ⟨-, hkept⟩ | ⟨-, own, hown, hleft⟩
    · rw [collapseEmpties, hkept] at hmem
      exact mem_of_mem_filter hmem
    · rw [collapseEmpties, hleft] at hmem
      exact mem_singleton.mp hmem ▸ hown
  · intro h
    obtain ⟨leaf, hmem, htab⟩ := mem_flatMap.mp h
    exact mem_flatMap.mpr ⟨leaf, mem_collapseEmpties hmem (ne_nil_of_mem htab) ids, htab⟩

theorem marks_collapseEmpties (node : PaneNode) (ids : List String) :
    (collapseEmpties node ids).marks ⊆ node.marks :=
  marks_collapse_subset _ node

end Roost.Layout
