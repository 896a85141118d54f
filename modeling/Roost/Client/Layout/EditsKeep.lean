-- SUMMARY: Every layout edit keeps a well-formed layout well formed.
import Roost.Client.Layout.WellFormed

/-!
# Edits keep layouts well formed

One theorem for each mutation. A split needs a fresh pane id and a reorder a permutation of the
pane's tabs; everything else is kept for any argument.
-/

namespace Roost.Layout

open List

open LeafTree

variable {layout : PaneLayout}

variable {leaf a b : PaneLeaf} {tab : String} {target : PaneLeaf}

theorem orderly_singleton : Orderly [leaf] ↔ leaf.tabs.Nodup ∧ leaf.Selects := by
  rw [orderly_iff, forall_mem_singleton]
  exact and_iff_right (pairwise_singleton _ _)

theorem defaultLayout_wellFormed {sessionIds : List String} (h : sessionIds.Nodup)
    (paneId : String) : (defaultLayout sessionIds paneId).WellFormed where
  orderly := by
    refine orderly_singleton.mpr ⟨h, ?_, ?_⟩
    · intro hsome
      cases sessionIds with
      | nil => exact absurd rfl hsome
      | cons => exact mem_cons_self
    intro hnone
    have hnone : sessionIds = [] := hnone
    rw [hnone]
    rfl
  focus := mem_singleton_self _
  ratios := fun _ hmem => nomatch hmem

variable {leaves : List PaneLeaf}

theorem Orderly.same_leaf (h : Orderly leaves)
    (ha : a ∈ leaves) (hb : b ∈ leaves) (hta : tab ∈ a.tabs) (htb : tab ∈ b.tabs) : a = b := by
  by_contra hne
  exact ((orderly_iff.mp h).1.forall ha hb hne).tabs hta htb

theorem Orderly.same_id (h : Orderly leaves)
    (ha : a ∈ leaves) (hb : b ∈ leaves) (hid : a.paneId = b.paneId) : a = b := by
  by_contra hne
  exact ((orderly_iff.mp h).1.forall ha hb hne).ids hid

section

variable (h : layout.WellFormed)
include h

theorem PaneLayout.WellFormed.apart (ha : a ∈ layout.root.leaves) (hb : b ∈ layout.root.leaves)
    (hid : b.paneId ≠ a.paneId) : List.Disjoint a.tabs b.tabs := by
  intro tab hta htb
  exact hid (congrArg PaneLeaf.paneId (h.orderly.same_leaf ha hb hta htb).symm)

theorem PaneLayout.WellFormed.setRatio (splitId : String) (ratio : F64) :
    ({ layout with root := setRatio layout.root splitId ratio } : PaneLayout).WellFormed where
  orderly := by
    rw [Layout.setRatio, leaves_mapMarks]
    exact h.orderly
  focus := by
    rw [Layout.setRatio, leaves_mapMarks]
    exact h.focus
  ratios := by
    rw [Layout.setRatio, marks_mapMarks]
    intro split hmem
    obtain ⟨old, hold, rfl⟩ := mem_map.mp hmem
    show (if old.id = splitId then normalizePaneRatio ratio else old.ratio).within = true
    split
    · exact normalizePaneRatio_within ratio
    · exact h.ratios old hold

theorem PaneLayout.WellFormed.rewrite {paneId focus : String}
    {f : PaneLeaf → PaneLeaf} (hid : ∀ leaf, (f leaf).paneId = leaf.paneId)
    (hleaf : ∀ leaf ∈ layout.root.leaves, leaf.paneId = paneId →
      (f leaf).tabs.Nodup ∧ (f leaf).Selects ∧ ∀ other ∈ layout.root.leaves,
        other.paneId ≠ paneId → List.Disjoint (f leaf).tabs other.tabs)
    (hfocus : focus ∈ layout.root.leaves.map (·.paneId)) :
    ({ root := updateLeaf layout.root paneId fun leaf => .leaf (f leaf)
       focusedPaneId := focus } : PaneLayout).WellFormed where
  orderly := h.orderly.rewrite hid hleaf
  focus := by
    rw [updateLeaf_ids _ _ hid]
    exact hfocus
  ratios := by
    rw [updateLeaf_eq_map, marks_map]
    exact h.ratios

theorem PaneLayout.WellFormed.reorderTab {paneId : String} {orderedTabs : List String}
    (hperm : ∀ leaf ∈ layout.root.leaves, leaf.paneId = paneId → orderedTabs.Perm leaf.tabs) :
    (reorderTab layout paneId orderedTabs).WellFormed := by
  refine h.rewrite (fun _ => rfl) (fun leaf hmem hid => ?_) h.focus
  have hperm := hperm leaf hmem hid
  have hsel := h.orderly.selects leaf hmem
  refine ⟨hperm.nodup_iff.mpr ((orderly_iff.mp h.orderly).2 leaf hmem).1, ⟨?_, ?_⟩, ?_⟩
  · intro hsome
    refine hperm.mem_iff.mpr (hsel.held fun hnone => hsome ?_)
    exact (hnone ▸ hperm).eq_nil
  · intro hnone
    have hnone : orderedTabs = [] := hnone
    exact hsel.unselected (hnone ▸ hperm).symm.eq_nil
  · intro other hother hne tab hta htb
    exact h.apart hmem hother (hid ▸ hne) (hperm.mem_iff.mp hta) htb

theorem PaneLayout.WellFormed.selectTab (tab : String) : (selectTab layout tab).WellFormed := by
  unfold Layout.selectTab
  split
  · exact h
  rename_i hfound
  obtain ⟨hmem, htab⟩ := findLeafOfTab_mem hfound
  refine h.rewrite (fun _ => rfl) (fun other hother hid => ?_) (mem_map_of_mem hmem)
  have hsame := h.orderly.same_id hother hmem hid
  refine ⟨((orderly_iff.mp h.orderly).2 other hother).1, ⟨fun _ => hsame ▸ htab, ?_⟩, ?_⟩
  · intro hnone
    rw [hsame] at hnone
    rw [hnone] at htab
    exact nomatch htab
  · intro third hthird hne
    exact h.apart (a := other) hother hthird (hid ▸ hne)

theorem PaneLayout.WellFormed.focusPane (paneId : String) :
    (focusPane layout paneId).WellFormed := by
  unfold Layout.focusPane
  split
  · exact h
  rename_i hfound
  refine { orderly := h.orderly, focus := findLeaf_isSome.mp ?_, ratios := h.ratios }
  cases hleaf : findLeaf layout.root paneId with
  | none => exact absurd (hleaf ▸ rfl) hfound
  | some => rfl

theorem PaneLayout.WellFormed.closeTab (tab : String) : (closeTab layout tab).WellFormed where
  orderly := collapseEmpties_orderly (removeTabEverywhere_orderly h.orderly tab) _
  focus := fixFocus_mem _ _
  ratios := by
    intro split hmem
    have hmem := marks_collapseEmpties _ _ hmem
    rw [removeTabEverywhere, marks_map] at hmem
    exact h.ratios split hmem

end

theorem insertAt_perm (rest : List String) (tab : String) (index : Option Nat) :
    (insertAt rest tab index).Perm (tab :: rest) := by
  refine perm_insertIdx tab rest ?_
  cases index with
  | none => exact Nat.le_refl _
  | some => exact Nat.min_le_right _ _

theorem moveWithin_perm {tabs : List String} (hnd : tabs.Nodup)
    (hmem : tab ∈ tabs) (index : Option Nat) : (moveWithin tabs tab index).Perm tabs := by
  refine (insertAt_perm _ _ _).trans ?_
  have herase : (tabs.filter fun held => decide (held ≠ tab)) = tabs.erase tab := by
    rw [hnd.erase_eq_filter]
    exact filter_congr fun held _ => by
      by_cases heq : held = tab <;> simp [heq]
  rw [herase]
  exact (perm_cons_erase hmem).symm

theorem wellFormed_collapsed {root : PaneNode} (hord : Orderly root.leaves)
    (hratios : ∀ split ∈ root.marks, split.ratio.within = true) (hmem : leaf ∈ root.leaves)
    (htabs : leaf.tabs ≠ []) {focus : String} (hfocus : leaf.paneId = focus) (ids : List String) :
    ({ root := collapseEmpties root ids, focusedPaneId := focus } : PaneLayout).WellFormed where
  orderly := collapseEmpties_orderly hord ids
  focus := hfocus ▸ mem_map_of_mem (mem_collapseEmpties hmem htabs ids)
  ratios := fun split hsplit => hratios split (marks_collapseEmpties root ids hsplit)

theorem PaneLayout.WellFormed.dropped_apart (h : layout.WellFormed)
    (htarget : target ∈ layout.root.leaves) (tab : String) {tabs : List String}
    (htabs : ∀ held ∈ tabs, held = tab ∨ held ∈ target.tabs)
    (hmem : leaf ∈ (removeTabEverywhere layout.root tab).leaves) (hne : leaf.paneId ≠ target.paneId) :
    List.Disjoint tabs leaf.tabs := by
  intro held hheld hin
  have hgone := removeTabEverywhere_gone layout.root tab leaf hmem
  rw [removeTabEverywhere, leaves_map] at hmem
  obtain ⟨old, hold, rfl⟩ := mem_map.mp hmem
  rw [removeTabFromLeaf_paneId] at hne
  rcases htabs held hheld with rfl | hheld
  · exact hgone hin
  · exact h.apart htarget hold hne hheld ((removeTabFromLeaf_sublist old tab).subset hin)

theorem PaneLayout.WellFormed.not_mem_of_source (h : layout.WellFormed)
    (htarget : target ∈ layout.root.leaves)
    (hsource : (findLeafOfTab layout.root tab).map (·.paneId) ≠ some target.paneId) :
    tab ∉ target.tabs := by
  intro hin
  cases hfound : findLeafOfTab layout.root tab with
  | none => exact absurd hin (by simpa using find?_eq_none.mp hfound target htarget)
  | some =>
    obtain ⟨hmem, htab⟩ := findLeafOfTab_mem hfound
    rw [hfound, h.orderly.same_leaf hmem htarget htab hin] at hsource
    exact hsource rfl

theorem PaneLayout.WellFormed.moveTab (h : layout.WellFormed) (tab toPaneId : String)
    (index : Option Nat) : (moveTab layout tab toPaneId index).WellFormed := by
  unfold Layout.moveTab
  cases htarget : findLeaf layout.root toPaneId with
  | none => exact h
  | some target =>
    obtain ⟨htargeted, rfl⟩ := findLeaf_mem htarget
    have htargetNodup := ((orderly_iff.mp h.orderly).2 target htargeted).1
    simp only
    split
    · next hsource =>
      refine h.reorderTab fun leaf hmem hid => ?_
      obtain ⟨_, hfound, hsourceId⟩ := Option.map_eq_some_iff.mp hsource
      obtain ⟨hsourc, htab⟩ := findLeafOfTab_mem hfound
      rw [h.orderly.same_id hsourc htargeted hsourceId] at htab
      rw [h.orderly.same_id hmem htargeted hid]
      exact moveWithin_perm htargetNodup htab index
    rename_i hsource
    have hperm := insertAt_perm target.tabs tab index
    have hin : tab ∈ insertAt target.tabs tab index := hperm.mem_iff.mpr mem_cons_self
    let moved : PaneLeaf → PaneLeaf := fun leaf =>
      { paneId := leaf.paneId, tabs := insertAt target.tabs tab index, selectedTab := tab }
    have hmoved : Orderly (updateLeaf (removeTabEverywhere layout.root tab) target.paneId
        fun leaf => .leaf (moved leaf)).leaves := by
      refine (removeTabEverywhere_orderly h.orderly tab).rewrite (fun _ => rfl)
        fun leaf hmem hid => ⟨?_, ⟨fun _ => hin, ?_⟩, fun other hother hne => ?_⟩
      · exact hperm.nodup_iff.mpr (nodup_cons.mpr ⟨h.not_mem_of_source htargeted hsource, htargetNodup⟩)
      · intro hnone
        have hnone : insertAt target.tabs tab index = [] := hnone
        rw [hnone] at hin
        exact nomatch hin
      · exact h.dropped_apart htargeted tab
          (fun held hheld => mem_cons.mp (hperm.mem_iff.mp hheld)) hother hne
    have hmem : moved (removeTabFromLeaf target tab) ∈
        (updateLeaf (removeTabEverywhere layout.root tab) target.paneId
          fun leaf => .leaf (moved leaf)).leaves := by
      rw [updateLeaf_eq_map, removeTabEverywhere, leaves_map, leaves_map]
      refine mem_map.mpr ⟨removeTabFromLeaf target tab, mem_map_of_mem htargeted, if_pos ?_⟩
      exact removeTabFromLeaf_paneId target tab
    refine wellFormed_collapsed hmoved (fun split hsplit => ?_) hmem (ne_nil_of_mem hin)
      (removeTabFromLeaf_paneId target tab) _
    rw [updateLeaf_eq_map, marks_map, removeTabEverywhere, marks_map] at hsplit
    exact h.ratios split hsplit

theorem half_within : (F64.finite (1 / 2)).within = true := by
  simp only [F64.within, decide_eq_true_eq]
  unfold layoutRatioMin layoutRatioMax
  norm_num

theorem PaneLayout.WellFormed.splitOff (h : layout.WellFormed)
    (htarget : target ∈ layout.root.leaves) {movingTab newPaneId : String} (insertFirst : Bool)
    (hfresh : newPaneId ∉ layout.root.leaves.map (·.paneId)) {split : PaneSplit}
    (hratio : split.ratio.within = true) (ids : List String) :
    ({ root := collapseEmpties (updateLeaf (removeTabEverywhere layout.root movingTab)
        target.paneId fun leaf =>
          if insertFirst then
            .node split (.leaf ⟨newPaneId, [movingTab], movingTab⟩) (.leaf leaf)
          else .node split (.leaf leaf) (.leaf ⟨newPaneId, [movingTab], movingTab⟩)) ids
       focusedPaneId := newPaneId } : PaneLayout).WellFormed := by
  let moved : PaneLeaf := ⟨newPaneId, [movingTab], movingTab⟩
  let edit : PaneLeaf → PaneNode := fun leaf =>
    if insertFirst then .node split (.leaf moved) (.leaf leaf)
    else .node split (.leaf leaf) (.leaf moved)
  let rest := removeTabEverywhere layout.root movingTab
  let kept := removeTabFromLeaf target movingTab
  have hrest : Orderly rest.leaves := removeTabEverywhere_orderly h.orderly movingTab
  have hkept : kept ∈ rest.leaves := by
    show kept ∈ (layout.root.map _).leaves
    rw [leaves_map]
    exact mem_map_of_mem htarget
  have hkeptId : kept.paneId = target.paneId := removeTabFromLeaf_paneId target movingTab
  have hpair : (edit kept).leaves.Perm [moved, kept] := by
    show ((if insertFirst then _ else _ : PaneNode)).leaves.Perm _
    cases insertFirst with
    | true => exact List.Perm.refl _
    | false => exact List.Perm.swap _ _ _
  -- The new pane is apart from every pane there is, once its tab is dropped from them.
  have hapart : ∀ other ∈ rest.leaves, Apart moved other := by
    intro other hother
    refine ⟨?_, ?_⟩
    · intro heq
      have heq : newPaneId = other.paneId := heq
      refine hfresh ?_
      rw [← removeTabEverywhere_ids layout.root movingTab, heq]
      exact mem_map_of_mem hother
    · intro tab htab hin
      cases mem_singleton.mp htab
      exact removeTabEverywhere_gone layout.root movingTab other hother hin
  have hnew : Orderly (edit kept).leaves := by
    refine orderly_iff.mpr ⟨?_, fun leaf hleaf => ?_⟩
    · refine hpair.symm.pairwise (pairwise_pair.mpr (hapart kept hkept)) fun hab => hab.symm
    rcases mem_cons.mp (hpair.mem_iff.mp hleaf) with rfl | hleaf
    · exact ⟨nodup_singleton _, fun _ => mem_singleton_self _, fun hnil => nomatch hnil⟩
    · cases mem_singleton.mp hleaf
      exact (orderly_iff.mp hrest).2 kept hkept
  have hupd := hrest.update hkept edit hnew fun leaf hleaf other hother hne => by
    rcases mem_cons.mp (hpair.mem_iff.mp hleaf) with rfl | hleaf
    · exact hapart other hother
    · cases mem_singleton.mp hleaf
      exact (orderly_iff.mp hrest).1.forall hkept hother fun heq => hne (heq ▸ rfl)
  rw [hkeptId] at hupd
  refine wellFormed_collapsed hupd.1 (fun own hown => ?_)
    (hupd.2 moved (hpair.mem_iff.mpr mem_cons_self)) (cons_ne_nil _ _) rfl ids
  rcases mem_marks_updateLeaf hown with hold | ⟨leaf, hmark⟩
  · have hold : own ∈ (layout.root.map _).marks := hold
    rw [marks_map] at hold
    exact h.ratios own hold
  · have hown : own = split := by
      cases insertFirst <;> exact mem_singleton.mp hmark
    exact hown ▸ hratio

theorem PaneLayout.WellFormed.splitLeaf (h : layout.WellFormed) (targetPaneId : String)
    (direction : LayoutDirection) (movingTab : String) (insertFirst : Bool) {newPaneId : String}
    (splitId : String) (hfresh : newPaneId ∉ layout.root.leaves.map (·.paneId)) :
    (splitLeaf layout targetPaneId direction movingTab insertFirst newPaneId splitId).WellFormed := by
  cases direction with
  | other => exact h
  | row | col =>
    unfold Layout.splitLeaf
    cases htarget : findLeaf layout.root targetPaneId with
    | none => exact h
    | some =>
      obtain ⟨htargeted, rfl⟩ := findLeaf_mem htarget
      simp only
      split
      · exact h
      exact h.splitOff htargeted insertFirst hfresh half_within _

/-! ## Folding the live sessions in -/

@[simp] theorem pruneLeaf_paneId (liveIds : List String) (leaf : PaneLeaf) :
    (pruneLeaf liveIds leaf).paneId = leaf.paneId := by
  unfold pruneLeaf
  dsimp only
  split <;> rfl

theorem pruneLeaf_tabs (liveIds : List String) (leaf : PaneLeaf) :
    (pruneLeaf liveIds leaf).tabs = leaf.tabs.filter fun tab => decide (tab ∈ liveIds) := by
  unfold pruneLeaf
  dsimp only
  split
  · next hall =>
    exact (filter_eq_self.mpr (length_filter_eq_length_iff.mp hall)).symm
  · rfl

theorem PaneLeaf.Selects.prune (h : leaf.Selects) (liveIds : List String) :
    (pruneLeaf liveIds leaf).Selects := by
  unfold pruneLeaf
  dsimp only
  split
  · exact h
  rename_i hsome
  let kept := leaf.tabs.filter fun tab => decide (tab ∈ liveIds)
  have htabs : leaf.tabs ≠ [] := fun hnone => hsome (by rw [hnone]; rfl)
  have hheld := h.held htabs
  by_cases hlive : leaf.selectedTab ∈ liveIds
  · have hkept : leaf.selectedTab ∈ kept := mem_filter.mpr ⟨hheld, decide_eq_true hlive⟩
    refine ⟨fun _ => ?_, fun hnone => ?_⟩
    · rw [if_pos hlive]
      exact hkept
    · exact absurd (hnone ▸ hkept : leaf.selectedTab ∈ []) not_mem_nil
  rw [if_neg hlive]
  refine ⟨fun hkept => ?_, fun hnone => ?_⟩
  · show kept.head?.getD "" ∈ kept
    cases hcases : kept with
    | nil => exact absurd hcases hkept
    | cons => exact mem_cons_self
  · show kept.head?.getD "" = ""
    rw [show kept = [] from hnone]
    rfl

section
variable {liveIds : List String}

/-- The tree the live sessions are folded into: pruned, and collapsed where the prune emptied. -/
def prunedRoot (layout : PaneLayout) (liveIds : List String) : PaneNode :=
  let normalized := normalizeSplitRatios layout.root
  collapseEmpties (normalized.map (pruneLeaf liveIds))
    (((allLeaves normalized).filter (emptiedByPrune liveIds)).map (·.paneId))

def orphansOf (layout : PaneLayout) (liveIds : List String) : List String :=
  liveIds.filter fun session => decide (session ∉ (prunedRoot layout liveIds).leaves.flatMap (·.tabs))

theorem reconcile_eq (layout : PaneLayout) (liveIds : List String) : reconcile layout liveIds =
      { root :=
          if (orphansOf layout liveIds).isEmpty then prunedRoot layout liveIds
          else updateLeaf (prunedRoot layout liveIds)
            (fixFocus (prunedRoot layout liveIds) layout.focusedPaneId)
            fun leaf => .leaf (appendOrphans (orphansOf layout liveIds) leaf)
        focusedPaneId := fixFocus (prunedRoot layout liveIds) layout.focusedPaneId } := rfl

theorem prunedRoot_orderly (h : Orderly layout.root.leaves) :
    Orderly (prunedRoot layout liveIds).leaves := by
  refine collapseEmpties_orderly ?_ _
  rw [leaves_map, normalizeSplitRatios, leaves_mapMarks]
  refine h.map (pruneLeaf_paneId liveIds) (fun leaf => ?_) fun leaf _ hsel =>
    hsel.prune liveIds
  rw [pruneLeaf_tabs]
  exact filter_sublist

variable {session : String}

theorem mem_prunedRoot : session ∈ (prunedRoot layout liveIds).leaves.flatMap (·.tabs) ↔
      session ∈ layout.sessions ∧ session ∈ liveIds := by
  rw [prunedRoot, mem_sessions_collapseEmpties, leaves_map, normalizeSplitRatios,
    leaves_mapMarks, flatMap_map]
  simp only [pruneLeaf_tabs, PaneLayout.sessions, mem_flatMap, mem_filter,
    decide_eq_true_eq]
  constructor
  · rintro ⟨leaf, hmem, htab, hlive⟩
    exact ⟨⟨leaf, hmem, htab⟩, hlive⟩
  · rintro ⟨⟨leaf, hmem, htab⟩, hlive⟩
    exact ⟨leaf, hmem, htab, hlive⟩

theorem prunedRoot_ratios : ∀ split ∈ (prunedRoot layout liveIds).marks, split.ratio.within = true := by
  intro split hmem
  have hmem := marks_collapseEmpties _ _ hmem
  rw [marks_map, normalizeSplitRatios, marks_mapMarks] at hmem
  obtain ⟨old, -, rfl⟩ := mem_map.mp hmem
  exact normalizePaneRatio_within old.ratio

theorem mem_orphansOf :
    session ∈ orphansOf layout liveIds ↔ session ∈ liveIds ∧ session ∉ layout.sessions := by
  rw [orphansOf, mem_filter, decide_eq_true_eq, mem_prunedRoot]
  constructor
  · rintro ⟨hlive, hout⟩
    exact ⟨hlive, fun hplaced => hout ⟨hplaced, hlive⟩⟩
  · rintro ⟨hlive, hout⟩
    exact ⟨hlive, fun h => hout h.1⟩

theorem reconcile_wellFormed (h : layout.WellFormed) (hnd : liveIds.Nodup) :
    (reconcile layout liveIds).WellFormed := by
  have hord : Orderly (prunedRoot layout liveIds).leaves := prunedRoot_orderly h.orderly
  let pruned : PaneLayout :=
    { root := prunedRoot layout liveIds
      focusedPaneId := fixFocus (prunedRoot layout liveIds) layout.focusedPaneId }
  have hpruned : pruned.WellFormed :=
    { orderly := hord, focus := fixFocus_mem _ _, ratios := prunedRoot_ratios }
  rw [reconcile_eq]
  cases horphans : orphansOf layout liveIds with
  | nil => exact hpruned
  | cons first rest =>
    refine hpruned.rewrite (fun _ => rfl) (fun leaf hmem hid => ?_) hpruned.focus
    have hplaced : ∀ other ∈ pruned.root.leaves, ∀ tab ∈ other.tabs,
        tab ∈ layout.sessions ∧ tab ∈ liveIds := fun other hother tab htab =>
      mem_prunedRoot.mp (mem_flatMap.mpr ⟨other, hother, htab⟩)
    have hnew : ∀ tab ∈ first :: rest, tab ∉ layout.sessions := fun tab htab =>
      (mem_orphansOf.mp (horphans ▸ htab)).2
    obtain ⟨hleafNod, hsel⟩ := (orderly_iff.mp hord).2 leaf hmem
    refine ⟨?_, ⟨fun _ => ?_, fun hnone => ?_⟩, fun other hother hne tab htab hin => ?_⟩
    · refine nodup_append.mpr ⟨hleafNod, horphans ▸ hnd.filter _, ?_⟩
      rintro tab htab _ horphan rfl
      exact hnew tab horphan (hplaced leaf hmem tab htab).1
    · show (if leaf.selectedTab = "" then first else leaf.selectedTab) ∈ leaf.tabs ++ (first :: rest)
      split
      · exact mem_append_right _ mem_cons_self
      · next hsome =>
        refine mem_append_left _ (hsel.held fun hnone => hsome ?_)
        exact hsel.unselected hnone
    · exact absurd (append_eq_nil_iff.mp hnone).2 (cons_ne_nil _ _)
    · rcases mem_append.mp htab with htab | horphan
      · exact hpruned.apart (a := leaf) hmem hother (hid ▸ hne) htab hin
      · exact hnew tab horphan (hplaced other hother tab hin).1

theorem mem_sessions_appended {node : PaneNode} {paneId : String}
    (h : paneId ∈ node.leaves.map (·.paneId)) (orphans : List String) :
    session ∈ (updateLeaf node paneId fun leaf => .leaf (appendOrphans orphans leaf)).leaves.flatMap
        (·.tabs) ↔ session ∈ node.leaves.flatMap (·.tabs) ∨ session ∈ orphans := by
  rw [updateLeaf_eq_map, leaves_map, flatMap_map]
  simp only [mem_flatMap]
  constructor
  · rintro ⟨leaf, hmem, htab⟩
    split at htab
    · exact (mem_append.mp htab).imp_left fun htab => ⟨leaf, hmem, htab⟩
    · exact .inl ⟨leaf, hmem, htab⟩
  rintro (⟨leaf, hmem, htab⟩ | horphan)
  · refine ⟨leaf, hmem, ?_⟩
    split
    · exact mem_append_left _ htab
    · exact htab
  obtain ⟨leaf, hmem, hid⟩ := mem_map.mp h
  refine ⟨leaf, hmem, ?_⟩
  rw [if_pos hid]
  exact mem_append_right _ horphan

theorem mem_sessions_reconcile :
    session ∈ (reconcile layout liveIds).sessions ↔ session ∈ liveIds := by
  have hsess : session ∈ (reconcile layout liveIds).sessions ↔
      session ∈ (prunedRoot layout liveIds).leaves.flatMap (·.tabs) ∨
        session ∈ orphansOf layout liveIds := by
    rw [reconcile_eq]
    cases horphans : orphansOf layout liveIds with
    | nil => exact (or_iff_left not_mem_nil).symm
    | cons first rest => exact mem_sessions_appended (fixFocus_mem _ _) (first :: rest)
  rw [hsess, mem_prunedRoot, mem_orphansOf]
  constructor
  · rintro (h | h)
    · exact h.2
    · exact h.1
  intro hlive
  by_cases hplaced : session ∈ layout.sessions
  · exact .inl ⟨hplaced, hlive⟩
  · exact .inr ⟨hlive, hplaced⟩

end

end Roost.Layout
