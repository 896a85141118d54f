-- SUMMARY: Each stored layout stays well formed while payloads are consistent.
import Roost.Base.Transducer
import Roost.Client.Layout.Record

/-!
# Runs of the layout records

A host seeds folders, reads payloads back, applies documents, and commits what the edits make of
stored layouts. The one step that can bring in a layout that is not well formed is a payload whose
trees the reader accepts and which are not consistent.
-/

namespace Roost.Layout

open LayoutRecords OrderedMap

inductive LayoutEdit
  | split (targetPaneId : String) (direction : LayoutDirection) (movingTab : String)
      (insertFirst : Bool) (newPaneId splitId : String)
  | move (tab toPaneId : String) (index : Option Nat)
  | reorder (paneId : String) (orderedTabs : List String)
  | select (tab : String)
  | focus (paneId : String)
  | close (tab : String)
  | ratio (splitId : String) (ratio : F64)
  | reconcile (liveIds : List String)

namespace LayoutEdit

def run (layout : PaneLayout) : LayoutEdit → PaneLayout
  | split targetPaneId direction movingTab insertFirst newPaneId splitId =>
    splitLeaf layout targetPaneId direction movingTab insertFirst newPaneId splitId
  | move tab toPaneId index => moveTab layout tab toPaneId index
  | reorder paneId orderedTabs => reorderTab layout paneId orderedTabs
  | select tab => selectTab layout tab
  | focus paneId => focusPane layout paneId
  | close tab => closeTab layout tab
  | ratio splitId value => { layout with root := setRatio layout.root splitId value }
  | reconcile liveIds => Layout.reconcile layout liveIds

/-- What a caller owes an edit: a minted pane id is fresh, a new order is a permutation, and the
live sessions are distinct and non-empty. -/
def Fair (layout : PaneLayout) : LayoutEdit → Prop
  | split _ _ _ _ newPaneId _ => newPaneId ∉ layout.root.leaves.map (·.paneId)
  | reorder paneId orderedTabs =>
    ∀ leaf ∈ layout.root.leaves, leaf.paneId = paneId → orderedTabs.Perm leaf.tabs
  | reconcile liveIds => liveIds.Nodup ∧ "" ∉ liveIds
  | _ => True

/-- Edits one after another, each owed what it is owed in the layout it finds. -/
def FairAll : PaneLayout → List LayoutEdit → Prop
  | _, [] => True
  | layout, edit :: edits => edit.Fair layout ∧ FairAll (edit.run layout) edits

instance (layout : PaneLayout) (edit : LayoutEdit) : Decidable (edit.Fair layout) := by
  cases edit <;> dsimp only [LayoutEdit.Fair] <;> infer_instance

def decidableFairAll : (layout : PaneLayout) → (edits : List LayoutEdit) →
    Decidable (FairAll layout edits)
  | _, [] => inferInstanceAs (Decidable True)
  | layout, edit :: edits =>
    let _ := decidableFairAll (edit.run layout) edits
    inferInstanceAs (Decidable (edit.Fair layout ∧ FairAll (edit.run layout) edits))

instance (layout : PaneLayout) (edits : List LayoutEdit) : Decidable (FairAll layout edits) :=
  decidableFairAll layout edits

/-- A fair edit keeps a layout well formed. -/
theorem run_wellFormed {layout : PaneLayout} {edit : LayoutEdit} (h : layout.WellFormed)
    (hfair : edit.Fair layout) : (edit.run layout).WellFormed := by
  cases edit with
  | split target direction tab insertFirst newPaneId splitId =>
    exact h.splitLeaf target direction tab insertFirst splitId hfair
  | move tab toPaneId index => exact h.moveTab tab toPaneId index
  | reorder => exact h.reorderTab hfair
  | select tab => exact h.selectTab tab
  | focus paneId => exact h.focusPane paneId
  | close tab => exact h.closeTab tab
  | ratio splitId ratio => exact h.setRatio splitId ratio
  | reconcile => exact reconcile_wellFormed h hfair.1

theorem runs_wellFormed {layout : PaneLayout} {edits : List LayoutEdit} (h : layout.WellFormed)
    (hfair : FairAll layout edits) : (edits.foldl run layout).WellFormed := by
  induction edits generalizing layout with
  | nil => exact h
  | cons edit edits ih => exact ih (run_wellFormed h hfair.1) hfair.2

end LayoutEdit

/-- One operation on the records. A payload comes as it decodes. -/
inductive RecordOp
  | seed (folderKey : String) (liveSessionIds : List String) (paneId : String)
  | restore (decoded : Except String (OrderedMap String PaneLayout))
  | apply (folderKey : String) (document : LayoutDocumentV1) (liveSessionIds : List String)
      (ids : Nat → String)
  | commit (folderKey source : String) (edits : List LayoutEdit)
  | remove (folderKey : String)
  | clear

section
variable (ratioText : F64 → String)

/-- The records an operation leaves; a refusal leaves them as they were. -/
def LayoutRecords.step (records : LayoutRecords) : RecordOp → LayoutRecords
  | .seed folderKey liveSessionIds paneId => records.seedIfAbsent folderKey liveSessionIds paneId
  | .restore decoded =>
    match restore ratioText decoded with
    | .error _ => records
    | .ok (restored, _) => restored
  | .apply folderKey document liveSessionIds ids =>
    match applyLayoutDocument records folderKey document liveSessionIds ids with
    | .error _ => records
    | .ok (applied, _) => applied
  | .commit folderKey source edits =>
    match records.stored source with
    | none => records
    | some layout => records.commit folderKey (edits.foldl LayoutEdit.run layout)
  | .remove folderKey => records.remove folderKey
  | .clear => .new

def layoutRecords : Transducer LayoutRecords RecordOp Unit where
  step records op := (records.step ratioText op, ())

/-- What a host owes an operation: live sessions are distinct and non-empty, minted ids differ, a
document is a parsed one, and edits are owed what each of them is. -/
def RecordOp.Fair (records : LayoutRecords) : RecordOp → Prop
  | .seed _ liveSessionIds _ => liveSessionIds.Nodup ∧ "" ∉ liveSessionIds
  | .apply _ document _ ids =>
    Function.Injective ids ∧ ∃ input, parseLayoutDocumentV1 ratioText input = .ok document
  | .commit _ source edits => ∀ layout, records.stored source = some layout →
    LayoutEdit.FairAll layout edits
  | _ => True

def RecordOp.ReadsConsistent : RecordOp → Prop
  | .restore (.ok folders) =>
    (∀ entry ∈ folders.entries, validateStored ratioText entry.1 entry.2 = .ok ()) →
      ∀ entry ∈ folders.entries, entry.2.Consistent
  | _ => True

def LayoutRecords.WellFormed (records : LayoutRecords) : Prop :=
  ∀ folderKey layout, records.stored folderKey = some layout → layout.WellFormed

/-- A folder is painted by a well-formed layout with exactly the live sessions. -/
def LayoutRecords.Resolves (records : LayoutRecords) : Prop :=
  ∀ folderKey liveSessionIds paneId, liveSessionIds.Nodup → "" ∉ liveSessionIds →
    (records.resolve folderKey liveSessionIds paneId).WellFormed ∧
      ∀ session, session ∈ (records.resolve folderKey liveSessionIds paneId).sessions ↔
        session ∈ liveSessionIds

variable {ratioText} {records : LayoutRecords}

theorem LayoutRecords.WellFormed.commit (h : records.WellFormed)
    {layout : PaneLayout} (hlayout : layout.WellFormed) (folderKey : String) :
    (records.commit folderKey layout).WellFormed := by
  intro other stored hstored
  rw [LayoutRecords.stored, LayoutRecords.commit, OrderedMap.lookup_insert] at hstored
  split at hstored
  · cases hstored
    exact hlayout
  · exact h other stored hstored

/-- In well-formed records every id resolves. -/
theorem LayoutRecords.WellFormed.resolves (h : records.WellFormed) :
    records.Resolves := by
  intro folderKey live paneId hnd _
  have hbase : ((records.stored folderKey).getD (defaultLayout [] paneId)).WellFormed := by
    cases hstored : records.stored folderKey with
    | none => exact defaultLayout_wellFormed List.nodup_nil paneId
    | some layout => exact h folderKey layout hstored
  exact ⟨reconcile_wellFormed hbase hnd, fun session => mem_sessions_reconcile⟩

variable {decoded : Except String (OrderedMap String PaneLayout)} {restored : LayoutRecords}

theorem restore_ok
    {count : Nat} (h : restore ratioText decoded = .ok (restored, count)) :
    decoded = .ok restored.folders ∧
      ∀ entry ∈ restored.folders.entries, validateStored ratioText entry.1 entry.2 = .ok () := by
  simp only [restore, Except.bind_eq_ok, Except.mapError_eq_ok] at h
  obtain ⟨_, hdec, _, hvalid, h⟩ := h
  cases h
  exact ⟨hdec, Except.forM_eq_ok.mp hvalid⟩

theorem restored_wellFormed_iff
    {count : Nat} (h : restore ratioText decoded = .ok (restored, count)) :
    restored.WellFormed ↔ ∀ entry ∈ restored.folders.entries, entry.2.Consistent := by
  obtain ⟨-, hvalid⟩ := restore_ok h
  constructor
  · intro hwf entry hmem
    exact (validateStored_wellFormed (hvalid entry hmem)).mp
      (hwf entry.1 entry.2 (lookup_eq_some_iff.mpr hmem))
  · intro hcons folderKey layout hstored
    have hmem := lookup_eq_some_iff.mp hstored
    exact (validateStored_wellFormed (hvalid _ hmem)).mpr (hcons _ hmem)

/-- A record operation keeps every layout well formed. -/
theorem LayoutRecords.WellFormed.step (h : records.WellFormed)
    {op : RecordOp} (hfair : op.Fair ratioText records) (hreads : op.ReadsConsistent ratioText) :
    (records.step ratioText op).WellFormed := by
  cases op with
  | seed folderKey live paneId =>
    show (records.seedIfAbsent folderKey live paneId).WellFormed
    unfold LayoutRecords.seedIfAbsent
    split
    · exact h
    · exact h.commit (defaultLayout_wellFormed hfair.1 paneId) folderKey
  | restore decoded =>
    simp only [LayoutRecords.step]
    cases hrest : LayoutRecords.restore ratioText decoded with
    | error => exact h
    | ok =>
      obtain ⟨rfl, hvalid⟩ := restore_ok hrest
      exact (restored_wellFormed_iff hrest).mpr (hreads hvalid)
  | apply folderKey doc live ids =>
    obtain ⟨hids, _, hparsed⟩ := hfair
    simp only [LayoutRecords.step]
    cases happly : applyLayoutDocument records folderKey doc live ids with
    | error => exact h
    | ok result =>
      obtain ⟨hcommit, hlayout⟩ := applyLayoutDocument_ok hparsed hids happly
      show result.1.WellFormed
      rw [hcommit]
      exact h.commit hlayout folderKey
  | commit folderKey source =>
    simp only [LayoutRecords.step]
    cases hstored : records.stored source with
    | none => exact h
    | some layout =>
      exact h.commit (LayoutEdit.runs_wellFormed (h source layout hstored)
        (hfair layout hstored)) folderKey
  | remove folderKey =>
    intro other layout hstored
    have hstored : (records.folders.erase folderKey).lookup other = some layout := hstored
    rw [OrderedMap.lookup_erase] at hstored
    split at hstored
    · exact nomatch hstored
    · exact h other layout hstored
  | clear => exact fun _ _ hstored => nomatch hstored

/-- Every stored layout and every resolved one is well formed, in every run that reads back
consistent layouts; what a payload leaves is well formed exactly when it was consistent. -/
theorem layouts_well_formed (ratioText : F64 → String) (ops : List RecordOp) :
    ((layoutRecords ratioText).Along
        (fun records op => op.Fair ratioText records ∧ op.ReadsConsistent ratioText) .new ops →
      ((layoutRecords ratioText).run .new ops).WellFormed ∧
        ((layoutRecords ratioText).run .new ops).Resolves) ∧
      ∀ decoded restored count, restore ratioText decoded = .ok (restored, count) →
        (restored.WellFormed ↔ ∀ entry ∈ restored.folders.entries, entry.2.Consistent) := by
  refine ⟨fun hops => ?_, fun decoded restored count => restored_wellFormed_iff⟩
  have hwf : ((layoutRecords ratioText).run .new ops).WellFormed := by
    have hnew : LayoutRecords.WellFormed .new := fun folderKey layout hstored => by
      exact absurd hstored (Option.some_ne_none layout).symm
    refine hops.invariant (P := LayoutRecords.WellFormed) hnew ?_
    intro records op hrec hop
    exact hrec.step hop.1 hop.2
  exact ⟨hwf, hwf.resolves⟩

end

/-- One pane that shows a session twice, as a payload can spell it. -/
def doubled : OrderedMap String PaneLayout :=
  empty.insert "folder"
    { root := .leaf { paneId := "pane", tabs := ["s", "s"], selectedTab := "s" }
      focusedPaneId := "pane" }

/-- A payload that shows a session twice is read back. -/
theorem doubled_is_restored : ¬ ∀ ops : List RecordOp,
      (layoutRecords fun _ => "").Along (fun records op => op.Fair (fun _ => "") records) .new ops →
      ((layoutRecords fun _ => "").run .new ops).WellFormed ∧
        ((layoutRecords fun _ => "").run .new ops).Resolves := by
  intro h
  have hstored := (h [.restore (.ok doubled)] ⟨trivial, trivial⟩).1 "folder" _ rfl
  exact absurd hstored.orderly.sessions (by decide)

/-- A pane split off a seeded one, the other one closed, and a payload read back over both. -/
def seededOps : List RecordOp :=
  [.seed "a" ["s", "t"] "p", .commit "a" "a" [.split "p" .row "t" true "q" "d", .close "s"],
    .restore (.ok (empty.insert "b" (defaultLayout ["u"] "r")))]

theorem seeded_runs_well_formed : ((layoutRecords fun _ => "").run .new seededOps).WellFormed ∧
      ((layoutRecords fun _ => "").run .new seededOps).Resolves := by
  refine (layouts_well_formed (fun _ => "") seededOps).1 ⟨⟨?_, trivial⟩, ⟨?_, trivial⟩, ⟨trivial, ?_⟩, trivial⟩
  · exact ⟨by decide, by decide⟩
  · intro layout hstored
    cases hstored
    exact ⟨(by decide : "q" ∉ ["p"]), trivial, trivial⟩
  · intro _ entry hmem
    cases List.mem_singleton.mp hmem
    exact ⟨by decide, by decide, by decide⟩

end Roost.Layout
