-- SUMMARY: The portable document in: fresh ids, extras, and collapsed panes.
import Roost.Client.Layout.EditsKeep
import Roost.Protocol.Layout.Parse

/-!
# Materializing a layout document

Ids are minted rather than read, `ids n` being the `n`-th one the source hands out. A document
whose tree hangs together becomes an orderly tree: each slot is one session's, each leaf key one
pane's, and the extra sessions are in no slot.
-/

namespace Roost.Layout

open List

/-- Why a document could not be read against this folder. -/
inductive LayoutDocumentError
  | folderKeyRequired
  | emptyLiveSessionId
  | duplicateLiveSessionId (sessionId : String)
  | sessionNotLive (sessionId : String)
  | focusedLeafMissing
  | unportableDirection
  | notAdmissible (reason : String)
  deriving DecidableEq

/-- A materialized arrangement, and the session it leaves selected. -/
structure AppliedLayout where
  layout : PaneLayout
  selectedSessionId : Option String

/-- A direction this build can both render and export. -/
def portableDirection : LayoutDirection → Except LayoutDocumentError LayoutDirection
  | .row => .ok .row
  | .col => .ok .col
  | .other _ => .error .unportableDirection

/-- The live membership, proved well formed. -/
def validatedLiveSet (liveSessionIds : List String) : Except LayoutDocumentError (List String) :=
  liveSessionIds.foldlM (fun live sessionId =>
    if sessionId = "" then .error .emptyLiveSessionId
    else if sessionId ∈ live then .error (.duplicateLiveSessionId sessionId)
    else .ok (live ++ [sessionId])) []

/-- Prove every binding in a document belongs to this folder's live set. -/
def validateLayoutDocumentImport (document : LayoutDocumentV1) (liveSessionIds : List String) :
    Except LayoutDocumentError Unit := do
  let live ← validatedLiveSet liveSessionIds
  document.bindings.forM fun binding =>
    if binding.sessionId ∉ live then .error (.sessionNotLive binding.sessionId) else .ok ()

def sessionBySlot (bindings : List LayoutDocumentBinding) (slotKey : String) : Option String :=
  (bindings.reverse.find? fun binding => decide (binding.slotKey = slotKey)).map (·.sessionId)

/-- The tabs of a leaf; a slot with no binding is dropped. -/
def materializeTabs (document : LayoutDocumentV1) (extraSessions : List String)
    (leaf : LayoutDocumentLeaf) : List String :=
  leaf.slotKeys.filterMap (sessionBySlot document.bindings) ++
    if leaf.leafKey = document.focusedLeafKey then extraSessions else []

def materializeLeaf (document : LayoutDocumentV1) (extraSessions : List String) (paneId : String)
    (leaf : LayoutDocumentLeaf) : PaneLeaf :=
  let tabs := materializeTabs document extraSessions leaf
  let selected := leaf.selectedSlotKey.bind (sessionBySlot document.bindings)
  { paneId, tabs, selectedTab := (selected.or tabs.head?).getD "" }

section
variable (document : LayoutDocumentV1) (extraSessions : List String) (ids : Nat → String)

/-- The tree, the ids minted so far, and the pane of the focused leaf. -/
def materializeNode (minted : Nat) (focusedPaneId : Option String) :
    LayoutDocumentNode → Except LayoutDocumentError (PaneNode × Nat × Option String)
  | .leaf leaf =>
    let pane := materializeLeaf document extraSessions (ids minted) leaf
    .ok (.leaf pane, minted + 1,
      if leaf.leafKey = document.focusedLeafKey then some pane.paneId else focusedPaneId)
  | .node split first second => do
    let direction ← portableDirection split.direction
    let (a, minted', focused) ← materializeNode (minted + 1) focusedPaneId first
    let (b, minted', focused) ← materializeNode minted' focused second
    .ok (.node { id := ids minted, direction, ratio := split.ratio } a b, minted', focused)

/-- Turn a document into a tree, with the extra sessions appended to its focused leaf. -/
def materializeLayoutDocument : Except LayoutDocumentError AppliedLayout := do
  let (root, _, focusedPaneId) ← materializeNode document extraSessions ids 0 none document.root
  let focused ← Except.okOr focusedPaneId .focusedLeafMissing
  let sessionLess := ((allLeaves root).filter (·.tabs.isEmpty)).map (·.paneId)
  let root := collapseEmpties root sessionLess
  let focusedPaneId := fixFocus root focused
  let selectedSessionId :=
    ((findLeaf root focusedPaneId).map (·.selectedTab)).filter fun selected =>
      decide (selected ≠ "")
  .ok { layout := { root, focusedPaneId }, selectedSessionId }

variable {document extraSessions ids}

/-! ## What is materialized -/

variable {node : LayoutDocumentNode}

theorem materializeNode_leaves {minted minted' : Nat} {focus focus' : Option String}
    {root : PaneNode}
    (h : materializeNode document extraSessions ids minted focus node = .ok (root, minted', focus')) :
    minted ≤ minted' ∧ ∃ places : List Nat, places.Pairwise (· < ·) ∧
      (∀ place ∈ places, minted ≤ place ∧ place < minted') ∧ places.length = node.leaves.length ∧
      root.leaves = (places.zip node.leaves).map fun placed =>
        materializeLeaf document extraSessions (ids placed.1) placed.2 := by
  induction node generalizing minted minted' focus focus' root with
  | leaf =>
    cases h
    refine ⟨Nat.le_succ _, [minted], pairwise_singleton _ _, ?_, rfl, rfl⟩
    intro place hmem
    cases mem_singleton.mp hmem
    exact ⟨Nat.le_refl _, Nat.lt_succ_self _⟩
  | node split first second ihfirst ihsecond =>
    simp only [materializeNode, Except.bind_eq_ok] at h
    obtain ⟨direction, -, ⟨a, middle, focusA⟩, ha, ⟨b, last, focusB⟩, hb, h⟩ := h
    dsimp only at hb h
    cases h
    obtain ⟨hlea, placesA, hordA, hinA, hlenA, hleave⟩ := ihfirst ha
    obtain ⟨hleb, placesB, hordB, hinB, hlenB, hleavesB⟩ := ihsecond hb
    refine ⟨by omega, placesA ++ placesB, ?_, ?_, ?_, ?_⟩
    · refine pairwise_append.mpr ⟨hordA, hordB, fun place hplace other hother => ?_⟩
      exact (hinA place hplace).2.trans_le (hinB other hother).1
    · intro place hmem
      rcases mem_append.mp hmem with hmem | hmem
      · have := hinA place hmem
        omega
      · have := hinB place hmem
        omega
    · rw [length_append, LeafTree.leaves, length_append, hlenA, hlenB]
    · rw [LeafTree.leaves, LeafTree.leaves, zip_append hlenA, map_append, hleave, hleavesB]

theorem materializeNode_ratios {minted minted' : Nat} {focus focus' : Option String}
    {root : PaneNode}
    (h : materializeNode document extraSessions ids minted focus node = .ok (root, minted', focus'))
    (hratios : ∀ split ∈ node.marks, split.ratio.within = true) :
    ∀ split ∈ root.marks, split.ratio.within = true := by
  induction node generalizing minted minted' focus focus' root with
  | leaf =>
    cases h
    exact fun _ hmem => nomatch hmem
  | node split first second ihfirst ihsecond =>
    simp only [materializeNode, Except.bind_eq_ok] at h
    obtain ⟨_, -, _, ha, _, hb, h⟩ := h
    cases h
    intro own hmem
    rcases mem_cons.mp hmem with rfl | hmem
    · exact hratios split mem_cons_self
    rcases mem_append.mp hmem with hmem | hmem
    · exact ihfirst ha (fun inner hinner => hratios inner
        (mem_cons_of_mem _ (mem_append_left _ hinner))) own hmem
    · exact ihsecond hb (fun inner hinner => hratios inner
        (mem_cons_of_mem _ (mem_append_right _ hinner))) own hmem

theorem sessionBySlot_mem {bindings : List LayoutDocumentBinding} {slotKey session : String}
    (h : sessionBySlot bindings slotKey = some session) :
    ∃ binding ∈ bindings, binding.slotKey = slotKey ∧ binding.sessionId = session := by
  obtain ⟨binding, hfound, rfl⟩ := Option.map_eq_some_iff.mp h
  exact ⟨binding, mem_reverse.mp (mem_of_find?_eq_some hfound),
    by simpa using find?_some hfound, rfl⟩

theorem sessionBySlot_inj (hdoc : Joined document) {slot slot' session : String}
    (h : sessionBySlot document.bindings slot = some session)
    (h' : sessionBySlot document.bindings slot' = some session) : slot = slot' := by
  obtain ⟨_, hmem, rfl, hsess⟩ := sessionBySlot_mem h
  obtain ⟨_, hmem', rfl, hsess'⟩ := sessionBySlot_mem h'
  rw [inj_on_of_nodup_map hdoc.bindingSessions hmem hmem' (hsess.trans hsess'.symm)]

theorem materializeTabs_nodup (hdoc : Joined document) (hextras : extraSessions.Nodup)
    (hout : ∀ session ∈ extraSessions, session ∉ document.bindings.map (·.sessionId)) :
    (document.root.leaves.flatMap (materializeTabs document extraSessions)).Nodup := by
  obtain ⟨hown, hcross⟩ := nodup_flatMap.mp hdoc.slotKeys
  have hbound : ∀ {leaf : LayoutDocumentLeaf} {session : String},
      session ∈ leaf.slotKeys.filterMap (sessionBySlot document.bindings) →
        (∃ slot ∈ leaf.slotKeys, sessionBySlot document.bindings slot = some session) ∧
          session ∉ extraSessions := by
    intro leaf session hmem
    obtain ⟨slot, hslot, hsess⟩ := mem_filterMap.mp hmem
    obtain ⟨_, hbind, -, rfl⟩ := sessionBySlot_mem hsess
    exact ⟨⟨slot, hslot, hsess⟩, fun hextra => hout _ hextra (mem_map_of_mem hbind)⟩
  refine nodup_flatMap.mpr ⟨fun leaf hmem => ?_, ?_⟩
  · refine nodup_append.mpr ⟨?_, ?_, ?_⟩
    · exact (hown leaf hmem).filterMap fun slot slot' session h h' => sessionBySlot_inj hdoc h h'
    · split
      · exact hextras
      · exact nodup_nil
    rintro session hheld _ hextra rfl
    split at hextra
    · exact (hbound hheld).2 hextra
    · exact nomatch hextra
  -- Two leaves share no slot, and only one has the focused key.
  refine (hcross.and (pairwise_map.mp hdoc.leafKeys)).imp ?_
  rintro leaf other ⟨hslots, hkeys⟩ session hin hin'
  rcases mem_append.mp hin with hin | hin <;> rcases mem_append.mp hin' with hin' | hin'
  · obtain ⟨_, hslot, hsess⟩ := (hbound hin).1
    obtain ⟨_, hslot', hsess'⟩ := (hbound hin').1
    exact hslots hslot (sessionBySlot_inj hdoc hsess hsess' ▸ hslot')
  · split at hin'
    · exact (hbound hin).2 hin'
    · exact nomatch hin'
  · split at hin
    · exact (hbound hin').2 hin
    · exact nomatch hin
  split at hin
  · next hfoc =>
    split at hin'
    · next hfoc' => exact hkeys (hfoc.trans hfoc'.symm)
    · exact nomatch hin'
  · exact nomatch hin

theorem materializeLeaf_selects (hdoc : Joined document) {leaf : LayoutDocumentLeaf}
    (hmem : leaf ∈ document.root.leaves) (paneId : String) :
    (materializeLeaf document extraSessions paneId leaf).Selects := by
  let tabs := materializeTabs document extraSessions leaf
  have hsel := hdoc.selected leaf hmem
  have hheld : ∀ sess, leaf.selectedSlotKey.bind (sessionBySlot document.bindings) =
      some sess → sess ∈ tabs := by
    intro sess hsess
    obtain ⟨slot, hslot, hbound⟩ := Option.bind_eq_some_iff.mp hsess
    rw [hslot] at hsel
    exact mem_append_left _ (mem_filterMap.mpr ⟨slot, hsel, hbound⟩)
  constructor
  · intro hsome
    show (((leaf.selectedSlotKey.bind (sessionBySlot document.bindings)).or tabs.head?).getD "") ∈ tabs
    cases hsess : leaf.selectedSlotKey.bind (sessionBySlot document.bindings) with
    | some sess => exact hheld sess hsess
    | none =>
      cases htabs : tabs with
      | nil => exact absurd htabs hsome
      | cons => exact mem_cons_self
  intro hnone
  have hnone : tabs = [] := hnone
  show (((leaf.selectedSlotKey.bind (sessionBySlot document.bindings)).or tabs.head?).getD "") = ""
  cases hsess : leaf.selectedSlotKey.bind (sessionBySlot document.bindings) with
  | some sess => exact absurd (hnone ▸ hheld sess hsess) not_mem_nil
  | none =>
    rw [hnone]
    rfl

theorem materializeLayoutDocument_wellFormed (hdoc : Joined doc)
    (hratios : ∀ split ∈ doc.root.marks, split.ratio.within = true) (hids : Function.Injective ids)
    (hextras : extraSessions.Nodup)
    (hout : ∀ sess ∈ extraSessions, sess ∉ doc.bindings.map (·.sessionId)) {applied : AppliedLayout}
    (h : materializeLayoutDocument doc extraSessions ids = .ok applied) :
    applied.layout.WellFormed := by
  simp only [materializeLayoutDocument, Except.bind_eq_ok] at h
  obtain ⟨⟨root, _, focus⟩, hnode, _, -, h⟩ := h
  cases h
  obtain ⟨-, places, hord, -, hlen, hleaves⟩ := materializeNode_leaves hnode
  have horderly : Orderly root.leaves := by
    refine { ids := ?_, sessions := ?_, selects := ?_ }
    · have hpanes : root.leaves.map (·.paneId) = places.map ids := by
        conv_rhs => rw [← map_fst_zip (Nat.le_of_eq hlen), map_map]
        rw [hleaves, map_map]
        rfl
      rw [hpanes]
      exact List.Nodup.map hids (hord.imp fun hlt => Nat.ne_of_lt hlt)
    · have htabs : root.leaves.flatMap (·.tabs) =
          doc.root.leaves.flatMap (materializeTabs doc extraSessions) := by
        conv_rhs => rw [← map_snd_zip (Nat.le_of_eq hlen.symm), flatMap_map]
        rw [hleaves, flatMap_map]
        rfl
      rw [htabs]
      exact materializeTabs_nodup hdoc hextras hout
    · intro pane hpane
      rw [hleaves] at hpane
      obtain ⟨_, hplaced, rfl⟩ := mem_map.mp hpane
      exact materializeLeaf_selects hdoc (of_mem_zip hplaced).2 _
  exact
    { orderly := collapseEmpties_orderly horderly _
      focus := fixFocus_mem _ _
      ratios := fun split hmem => materializeNode_ratios hnode hratios split
        (marks_collapseEmpties _ _ hmem) }

end

end Roost.Layout
