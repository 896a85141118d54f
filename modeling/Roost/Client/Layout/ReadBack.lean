-- SUMMARY: When a saved record is read back, and can be exported again.
import Roost.Client.Layout.Export
import Roost.Client.Layout.RecordRuns

/-!
# Reading a record back

The reader bounds a tree by its depth and its panes, a document by its depth, its nodes and its
slots; the edits bound neither. What is saved is read back exactly when every tree is within the
reader's bounds, and what is read back is exported exactly when it is within the document's.
-/

namespace Roost.Layout

open LayoutRecords LeafTree OrderedMap

/-- How a record is written as text and text is read as a record. -/
structure LayoutCodec (Text : Type) where
  encode : OrderedMap String PaneLayout → Except String Text
  decode : Text → Except String (OrderedMap String PaneLayout)

/-- Records of trees within the reader's depth are read back as they were written. -/
def LayoutCodec.ReadsBack {Text : Type} (codec : LayoutCodec Text) : Prop :=
  ∀ folders : OrderedMap String PaneLayout,
    (∀ entry ∈ folders.entries, entry.2.root.height ≤ layoutDocumentMaxDepth ∧
      ∀ split ∈ entry.2.root.marks, split.ratio.within = true) →
    ∃ text, codec.encode folders = .ok text ∧ codec.decode text = .ok folders

/-- The record as the host persists it. -/
def LayoutRecords.snapshot {Text : Type} (codec : LayoutCodec Text) (records : LayoutRecords) :
    Except LayoutRecordsError Text :=
  (codec.encode records.folders).mapError .serialization

/-- The record a payload restores is the one that was saved. -/
def LayoutRecords.ReadBack {Text : Type} (ratioText : F64 → String) (codec : LayoutCodec Text)
    (records : LayoutRecords) : Prop :=
  ∃ text count, records.snapshot codec = .ok text ∧
    restore ratioText (codec.decode text) = .ok (records, count)

section
variable {ratioText : F64 → String}

/-! ## What the reader accepts -/

variable {folderKey : String} {layout : PaneLayout}

theorem validateStoredNode_eq_ok {depth panes counted : Nat} {node : PaneNode} :
    validateStoredNode ratioText folderKey depth panes node = .ok counted ↔
      depth + node.height ≤ layoutDocumentMaxDepth + 1 ∧
        panes + node.leaves.length ≤ layoutDocumentMaxNodes ∧
        (∀ leaf ∈ node.leaves, leaf.tabs ≠ [] → leaf.selectedTab ∈ leaf.tabs) ∧
        (∀ split ∈ node.marks, split.ratio.within = true) ∧
        counted = panes + node.leaves.length := by
  induction node generalizing depth panes counted with
  | leaf =>
    simp only [validateStoredNode, Except.ite_error_eq_ok, height, leaves,
      marks, List.forall_mem_singleton, List.length_singleton, not_and, not_not, Nat.not_lt,
      Except.ok.injEq, List.not_mem_nil, false_implies, implies_true, true_and]
    constructor
    · rintro ⟨hdepth, hpanes, hheld, rfl⟩
      exact ⟨Nat.succ_le_succ hdepth, hpanes, hheld, rfl⟩
    · rintro ⟨hdepth, hpanes, hheld, rfl⟩
      exact ⟨Nat.le_of_succ_le_succ hdepth, hpanes, hheld, rfl⟩
  | node split a b iha ihb =>
    simp only [validateStoredNode, Except.ite_error_eq_ok, Except.bind_eq_ok, height,
      leaves, marks, List.forall_mem_append, List.forall_mem_cons,
      List.length_append, Nat.not_lt, Bool.not_eq_false, iha, ihb]
    constructor
    · rintro ⟨hdepth, hratio, _, ⟨hdeep, hroom, hheld, hratios, rfl⟩, hdeep', hroom', hheld',
        hratios', rfl⟩
      exact ⟨by omega, by omega, ⟨hheld', hheld⟩, ⟨hratio, hratios', hratios⟩, by omega⟩
    rintro ⟨hdeep, hroom, ⟨hheld', hheld⟩, ⟨hratio, hratios', hratios⟩, rfl⟩
    have hheight := a.height_pos
    exact ⟨by omega, hratio, _, ⟨by omega, by omega, hheld, hratios, rfl⟩, by omega, by omega,
      hheld', hratios', by omega⟩

theorem validateStored_eq_ok : validateStored ratioText folderKey layout = .ok () ↔
      layout.root.height ≤ layoutDocumentMaxDepth ∧
        layout.root.leaves.length ≤ layoutDocumentMaxNodes ∧
        (∀ leaf ∈ layout.root.leaves, leaf.tabs ≠ [] → leaf.selectedTab ∈ leaf.tabs) ∧
        (∀ split ∈ layout.root.marks, split.ratio.within = true) ∧
        layout.focusedPaneId ∈ layout.root.leaves.map (·.paneId) := by
  simp only [validateStored, Except.bind_eq_ok, validateStoredNode_eq_ok, Except.ite_error_eq_ok,
    Nat.zero_add]
  rw [← findLeaf_isSome, Bool.not_eq_true, Option.isNone_eq_false_iff]
  constructor
  · rintro ⟨_, ⟨hheight, hpanes, hheld, hratios, -⟩, hfocus, -⟩
    exact ⟨by omega, hpanes, hheld, hratios, hfocus⟩
  · rintro ⟨hheight, hpanes, hheld, hratios, hfocus⟩
    exact ⟨_, ⟨by omega, hpanes, hheld, hratios, rfl⟩, hfocus, trivial⟩

/-- A tree within the bounds of the reader. -/
structure PaneLayout.Readable (layout : PaneLayout) : Prop where
  height : layout.root.height ≤ layoutDocumentMaxDepth
  panes : layout.root.leaves.length ≤ layoutDocumentMaxNodes

theorem PaneLayout.WellFormed.validateStored_iff (h : layout.WellFormed) (folderKey : String) :
    validateStored ratioText folderKey layout = .ok () ↔ layout.Readable := by
  rw [validateStored_eq_ok]
  exact ⟨fun hvalid => ⟨hvalid.1, hvalid.2.1⟩, fun hread =>
    ⟨hread.height, hread.panes, fun leaf hmem => (h.orderly.selects leaf hmem).held,
      h.ratios, h.focus⟩⟩

theorem LayoutRecords.WellFormed.readBack_iff {Text : Type} {codec : LayoutCodec Text}
    (hcodec : codec.ReadsBack) {records : LayoutRecords} (h : records.WellFormed) :
    records.ReadBack ratioText codec ↔
      ∀ folderKey layout, records.stored folderKey = some layout → layout.Readable := by
  constructor
  · rintro ⟨text, count, -, hrest⟩ folderKey layout hstored
    obtain ⟨-, hvalid⟩ := restore_ok hrest
    exact ((h folderKey layout hstored).validateStored_iff folderKey).mp
      (hvalid _ (lookup_eq_some_iff.mp hstored))
  intro hread
  have hentry : ∀ entry ∈ records.folders.entries, entry.2.WellFormed ∧ entry.2.Readable := by
    intro entry hmem
    have hstored : records.stored entry.1 = some entry.2 := lookup_eq_some_iff.mpr hmem
    exact ⟨h _ _ hstored, hread _ _ hstored⟩
  obtain ⟨text, henc, hdec⟩ := hcodec records.folders fun entry hmem =>
    ⟨(hentry entry hmem).2.height, (hentry entry hmem).1.ratios⟩
  refine ⟨text, records.folders.length, ?_, ?_⟩
  · rw [snapshot, henc]
    rfl
  · simp only [restore, Except.bind_eq_ok, Except.mapError_eq_ok]
    refine ⟨records.folders, hdec, (), Except.forM_eq_ok.mpr fun entry hmem => ?_, rfl⟩
    exact ((hentry entry hmem).1.validateStored_iff entry.1).mpr (hentry entry hmem).2

/-! ## What was read back and is exported -/

variable {liveSessionIds : List String}

theorem validatedLiveSet_accepts (hnd : liveSessionIds.Nodup)
    (hnon : "" ∉ liveSessionIds) : ∃ live, validatedLiveSet liveSessionIds = .ok live := by
  refine Except.foldlM_accepts (R := fun done live => live = done)
    (Q := fun done => done.Nodup ∧ "" ∉ done) ?_ ?_ ?_ rfl ⟨hnd, hnon⟩
  · rintro done _ session live' rfl hstep
    simp only [Except.ite_error_eq_ok] at hstep
    exact (Except.ok.inj hstep.2.2).symm
  · rintro _ live session rfl ⟨hnd, hnon⟩
    refine ⟨live ++ [session], ?_⟩
    simp only [Except.ite_error_eq_ok]
    refine ⟨fun heq => hnon ?_, fun hmem => ?_, trivial⟩
    · exact List.mem_append_right _ (List.mem_singleton.mpr heq.symm)
    · exact List.disjoint_of_nodup_append hnd hmem (List.mem_singleton_self _)
  · intro done rest hboth
    exact ⟨hboth.1.of_append_left, fun hmem => hboth.2 (List.mem_append_left _ hmem)⟩

theorem exported_iff {stored : String}
    (hvalid : validateStored ratioText stored layout = .ok ())
    (hport : ∀ split ∈ layout.root.marks, split.direction.Portable) (hsess : layout.sessions.Nodup)
    (hids : ∀ session ∈ layout.sessions, Bounded layoutDocumentMaxSessionIdUtf8Bytes session)
    (hfolder : folderKey ≠ "") (hlive : liveSessionIds.Nodup) (hnon : "" ∉ liveSessionIds) :
    (∃ doc, exportLayoutDocument ratioText folderKey liveSessionIds layout = .ok doc) ↔
      layout.root.size ≤ layoutDocumentMaxNodes ∧
        layout.sessions.length ≤ layoutDocumentMaxSlots := by
  obtain ⟨hheight, -, hheld, hratios, hfocus⟩ := validateStored_eq_ok.mp hvalid
  constructor
  · rintro ⟨doc, hdoc⟩
    obtain ⟨-, -, hexport, -⟩ := exportLayoutDocument_eq_ok.mp hdoc
    exact ⟨hexport.nodes, hexport.slots⟩
  rintro ⟨hnodes, hslots⟩
  obtain ⟨key, hkey⟩ : ∃ key,
      (numberedKeys .empty 1 layout.root.leaves).lookup layout.focusedPaneId = some key := by
    rcases @numberedKeys_lookup .empty 1 layout.root.leaves layout.focusedPaneId with
      ⟨habsent, -⟩ | ⟨place, leaf, -, -, hsome⟩
    · exact absurd hfocus habsent
    · exact ⟨_, hsome⟩
  refine ⟨layout.documentWith key, exportLayoutDocument_eq_ok.mpr ⟨hfolder,
    validatedLiveSet_accepts hlive hnon, ?_, documentFromLayout_eq_ok.mpr
      ⟨hport, key, hkey, rfl⟩⟩⟩
  exact
    { height := hheight
      nodes := hnodes
      slots := hslots
      splits := fun split hmem => ⟨hport split hmem, hratios split hmem⟩
      ids := hids
      sessions := hsess
      held := hheld }

end

/-- The records of a run are read back exactly when every tree in them is within the reader's
bounds, and a layout that was read back is exported exactly when it is within the document's. -/
theorem layouts_read_back {Text : Type} (ratioText : F64 → String) (codec : LayoutCodec Text)
    (hcodec : codec.ReadsBack) : (∀ ops : List RecordOp, (layoutRecords ratioText).Along
        (fun records op => op.Fair ratioText records ∧ op.ReadsConsistent ratioText) .new ops →
      (((layoutRecords ratioText).run .new ops).ReadBack ratioText codec ↔ ∀ folderKey layout,
          ((layoutRecords ratioText).run .new ops).stored folderKey = some layout →
            layout.Readable)) ∧
    ∀ decoded restored count, restore ratioText decoded = .ok (restored, count) →
      ∀ entry ∈ restored.folders.entries,
        (∀ split ∈ entry.2.root.marks, split.direction.Portable) → entry.2.sessions.Nodup →
        (∀ session ∈ entry.2.sessions, Bounded layoutDocumentMaxSessionIdUtf8Bytes session) →
        ∀ folderKey liveSessionIds, folderKey ≠ "" → liveSessionIds.Nodup → "" ∉ liveSessionIds →
          ((∃ document, exportLayoutDocument ratioText folderKey liveSessionIds entry.2 =
              .ok document) ↔
            entry.2.root.size ≤ layoutDocumentMaxNodes ∧
              entry.2.sessions.length ≤ layoutDocumentMaxSlots) := by
  refine ⟨fun ops hops => ?_, ?_⟩
  · exact LayoutRecords.WellFormed.readBack_iff hcodec ((layouts_well_formed ratioText ops).1 hops).1
  intro decoded restored count hrest entry hmem hport hsess hids folderKey live hfolder
    hlive hnon
  exact exported_iff ((restore_ok hrest).2 entry hmem) hport hsess hids hfolder hlive
    hnon

/-! ## A record that is lost -/

/-- The record itself for text. -/
def plainCodec : LayoutCodec (OrderedMap String PaneLayout) where
  encode := .ok
  decode := .ok

theorem plainCodec_readsBack : plainCodec.ReadsBack := fun folders _ => ⟨folders, rfl, rfl⟩

/-- A pane seeded with one tab more than it is split. -/
def splitRun (splits : Nat) : List RecordOp :=
  [.seed "folder" ((List.range (splits + 1)).map toString) "p",
    .commit "folder" "folder" ((List.range splits).map fun number =>
      .split "p" .row (toString number) false ("q" ++ toString number) ("d" ++ toString number))]

theorem splitRun_fair {splits : Nat} (h : splits = 3 ∨ splits = 32) :
    (layoutRecords fun _ => "").Along
      (fun records op => op.Fair (fun _ => "") records ∧ op.ReadsConsistent fun _ => "") .new
      (splitRun splits) := by
  rcases h with rfl | rfl
  all_goals
    refine ⟨⟨⟨?_, ?_⟩, trivial⟩, ⟨fun layout hstored => ?_, trivial⟩, trivial⟩
    · decide +kernel
    · decide +kernel
    · cases hstored
      decide +kernel

/-- A pane split thirty-two times is stored and not read back. -/
theorem split_record_is_lost : ¬ ∀ ops : List RecordOp, (layoutRecords fun _ => "").Along
        (fun records op => op.Fair (fun _ => "") records ∧ op.ReadsConsistent fun _ => "") .new ops →
      ((layoutRecords fun _ => "").run .new ops).ReadBack (fun _ => "") plainCodec := by
  intro h
  obtain ⟨text, count, -, hrest⟩ := h (splitRun 32) (splitRun_fair (.inr rfl))
  obtain ⟨-, hvalid⟩ := restore_ok hrest
  have hdeep : ∃ layout,
      ((layoutRecords fun _ => "").run .new (splitRun 32)).stored "folder" = some layout ∧
        ¬ layout.root.height ≤ layoutDocumentMaxDepth :=
    ⟨_, rfl, by decide +kernel⟩
  obtain ⟨_, hstored, hheight⟩ := hdeep
  exact hheight (validateStored_eq_ok.mp
    (hvalid _ (lookup_eq_some_iff.mp hstored))).1

/-- Two panes of one session each, the second focused. -/
def twoPanes : PaneLayout where
  root := .node { id := "d", direction := .row, ratio := .finite (1 / 2) }
    (.leaf { paneId := "p", tabs := ["s"], selectedTab := "s" })
    (.leaf { paneId := "q", tabs := ["t"], selectedTab := "t" })
  focusedPaneId := "q"

/-- A pane split three times is read back, and a payload of two panes exports. -/
theorem short_record_is_read_back :
    ((layoutRecords fun _ => "").run .new (splitRun 3)).ReadBack (fun _ => "") plainCodec ∧
      ∃ document, exportLayoutDocument (fun _ => "") "folder" ["s", "t"] twoPanes =
        .ok document := by
  have hclaim := layouts_read_back (fun _ => "") plainCodec plainCodec_readsBack
  constructor
  · refine (hclaim.1 (splitRun 3) (splitRun_fair (.inl rfl))).mpr fun folderKey layout hstored => ?_
    cases List.mem_singleton.mp (lookup_eq_some_iff.mp hstored)
    exact ⟨by decide +kernel, by decide +kernel⟩
  · have hrestored : restore (fun _ => "") (.ok (empty.insert "folder" twoPanes)) =
        .ok ({ folders := empty.insert "folder" twoPanes }, 1) := by
      simp only [restore, Except.bind_eq_ok, Except.mapError_eq_ok]
      refine ⟨_, rfl, (), Except.forM_eq_ok.mpr fun entry hmem => ?_, rfl⟩
      cases List.mem_singleton.mp hmem
      exact validateStored_eq_ok.mpr (by decide +kernel)
    exact (hclaim.2 _ _ 1 hrestored ("folder", twoPanes) (List.mem_singleton_self _) (by decide)
      (by decide) (by decide) "folder" ["s", "t"] (by decide) (by decide) (by decide)).mpr
        ⟨by decide, by decide⟩

end Roost.Layout
