-- SUMMARY: One stored arrangement per folder, and the calls that change it.
import Mathlib.Data.String.Basic
import Roost.Base.OrderedMap
import Roost.Client.Layout.Materialize

/-!
# Layout records

A stored tree is untrusted on the way back in: every folder of a payload is checked before any of
them is installed. A payload is taken as it decodes: a record of layouts, or the text of why it is
none. `ratioText` is how a double prints.
-/

namespace Roost.Layout

/-- Why a persisted record could not be read. -/
inductive LayoutRecordsError
  | notARecord (reason : String)
  | malformed (folderKey reason : String)
  | serialization (reason : String)

/-- The stored arrangements, one per folder bucket. -/
structure LayoutRecords where
  folders : OrderedMap String PaneLayout

namespace LayoutRecords

def new : LayoutRecords := { folders := .empty }

variable (records : LayoutRecords)

variable (folderKey : String)

def stored : Option PaneLayout :=
  records.folders.lookup folderKey

/-- Replace a folder's stored arrangement. -/
def commit (layout : PaneLayout) : LayoutRecords :=
  { folders := records.folders.insert folderKey layout }

/-- Persist a stable default the first time a folder becomes active. -/
def seedIfAbsent (liveSessionIds : List String)
    (paneId : String) : LayoutRecords :=
  if folderKey = "" ∨ (records.stored folderKey).isSome then records
  else records.commit folderKey (defaultLayout liveSessionIds paneId)

/-- The arrangement a host should paint for a folder: the stored one folded against the live
session set, or a derived default when nothing is stored. -/
def resolve (liveSessionIds : List String)
    (paneId : String) : PaneLayout :=
  reconcile ((records.stored folderKey).getD (defaultLayout [] paneId)) liveSessionIds

/-- Forget one folder's arrangement. -/
def remove : LayoutRecords :=
  { folders := records.folders.erase folderKey }

end LayoutRecords

section
variable (ratioText : F64 → String)

/-- One walk over a stored tree, counting its panes. The source's worklist takes the second child
of a split, and everything below it, before the first. -/
def validateStoredNode (folderKey : String) (depth panes : Nat) :
    PaneNode → Except LayoutRecordsError Nat
  | .leaf leaf =>
    if depth > layoutDocumentMaxDepth then
      .error (.malformed folderKey ("exceeds depth " ++ toString layoutDocumentMaxDepth))
    else if panes + 1 > layoutDocumentMaxNodes then
      .error (.malformed folderKey ("exceeds " ++ toString layoutDocumentMaxNodes ++ " panes"))
    else if leaf.tabs ≠ [] ∧ leaf.selectedTab ∉ leaf.tabs then
      .error (.malformed folderKey
        ("pane " ++ leaf.paneId ++ " selects a tab it does not hold"))
    else .ok (panes + 1)
  | .node split a b =>
    if depth > layoutDocumentMaxDepth then
      .error (.malformed folderKey ("exceeds depth " ++ toString layoutDocumentMaxDepth))
    else if split.ratio.within = false then
      .error (.malformed folderKey
        ("split " ++ split.id ++ " has ratio " ++ ratioText split.ratio ++ " out of bounds"))
    else do
      let panes ← validateStoredNode folderKey (depth + 1) panes b
      validateStoredNode folderKey (depth + 1) panes a

def validateStored (folderKey : String) (layout : PaneLayout) : Except LayoutRecordsError Unit := do
  let _ ← validateStoredNode ratioText folderKey 1 0 layout.root
  if (findLeaf layout.root layout.focusedPaneId).isNone then
    .error (.malformed folderKey
      ("focused pane " ++ layout.focusedPaneId ++ " is not in the tree"))
  else .ok ()

/-- Read a persisted record, all of it or none of it. -/
def LayoutRecords.restore (decoded : Except String (OrderedMap String PaneLayout)) :
    Except LayoutRecordsError (LayoutRecords × Nat) := do
  let folders ← decoded.mapError LayoutRecordsError.notARecord
  folders.entries.forM fun (folderKey, layout) => validateStored ratioText folderKey layout
  .ok ({ folders }, folders.length)

end

/-- The one place a document becomes a committed arrangement. -/
def applyLayoutDocument (records : LayoutRecords) (folderKey : String) (document : LayoutDocumentV1)
    (liveSessionIds : List String) (ids : Nat → String) :
    Except LayoutDocumentError (LayoutRecords × AppliedLayout) := do
  if folderKey = "" then .error .folderKeyRequired
  else
    validateLayoutDocumentImport document liveSessionIds
    let bound := document.bindings.map (·.sessionId)
    let extras := liveSessionIds.filter fun session => decide (session ∉ bound)
    let applied ← materializeLayoutDocument document extras ids
    .ok (records.commit folderKey applied.layout, applied)

/-! ## What a stored layout is known to satisfy -/

/-- What the reader of a payload does not look for: that two panes share an id, that a session is in
two tab positions, or that an empty pane selects something. -/
structure PaneLayout.Consistent (layout : PaneLayout) : Prop where
  ids : (layout.root.leaves.map (·.paneId)).Nodup
  sessions : layout.sessions.Nodup
  unselected : ∀ leaf ∈ layout.root.leaves, leaf.tabs = [] → leaf.selectedTab = ""

instance (layout : PaneLayout) : Decidable layout.Consistent :=
  decidable_of_iff ((layout.root.leaves.map (·.paneId)).Nodup ∧ layout.sessions.Nodup ∧
      ∀ leaf ∈ layout.root.leaves, leaf.tabs = [] → leaf.selectedTab = "")
    ⟨fun h => ⟨h.1, h.2.1, h.2.2⟩, fun h => ⟨h.ids, h.sessions, h.unselected⟩⟩

variable {ratioText : F64 → String} {folderKey : String}

theorem validateStoredNode_ok {depth panes panes' : Nat} {node : PaneNode}
    (h : validateStoredNode ratioText folderKey depth panes node = .ok panes') :
    (∀ leaf ∈ node.leaves, leaf.tabs ≠ [] → leaf.selectedTab ∈ leaf.tabs) ∧
      ∀ split ∈ node.marks, split.ratio.within = true := by
  induction node generalizing depth panes panes' with
  | leaf =>
    simp only [validateStoredNode, Except.ite_error_eq_ok, not_and, not_not] at h
    refine ⟨fun own hmem => ?_, fun _ hmem => by cases hmem⟩
    cases List.mem_singleton.mp hmem
    exact h.2.2.1
  | node split a b iha ihb =>
    simp only [validateStoredNode, Except.ite_error_eq_ok, Except.bind_eq_ok,
      Bool.not_eq_false] at h
    obtain ⟨-, hratio, _, hb, ha⟩ := h
    obtain ⟨hleave, hmarksA⟩ := iha ha
    obtain ⟨hleavesB, hmarksB⟩ := ihb hb
    refine ⟨fun leaf hmem => ?_, fun own hmem => ?_⟩
    · exact (List.mem_append.mp hmem).elim (hleave leaf) (hleavesB leaf)
    · rcases List.mem_cons.mp hmem with rfl | hmem
      · exact hratio
      · exact (List.mem_append.mp hmem).elim (hmarksA own) (hmarksB own)

theorem validateStored_wellFormed {layout : PaneLayout}
    (h : validateStored ratioText folderKey layout = .ok ()) :
    layout.WellFormed ↔ layout.Consistent := by
  simp only [validateStored, Except.bind_eq_ok, Except.ite_error_eq_ok, Option.isNone_iff_eq_none] at h
  obtain ⟨_, hnode, hfocus, -⟩ := h
  obtain ⟨hheld, hratios⟩ := validateStoredNode_ok hnode
  constructor
  · intro hwf
    exact ⟨hwf.orderly.ids, hwf.orderly.sessions, fun leaf hmem =>
      (hwf.orderly.selects leaf hmem).unselected⟩
  intro hcons
  refine
    { orderly :=
        { ids := hcons.ids, sessions := hcons.sessions
          selects := fun leaf hmem => ⟨hheld leaf hmem, hcons.unselected leaf hmem⟩ }
      focus := findLeaf_isSome.mp (Option.isSome_iff_ne_none.mpr hfocus)
      ratios := hratios }

theorem validatedLiveSet_ok {liveSessionIds live : List String}
    (h : validatedLiveSet liveSessionIds = .ok live) : live = liveSessionIds ∧ live.Nodup := by
  refine Except.foldlM_keeps (R := fun done live => live = done ∧ live.Nodup) ?_
    ⟨rfl, List.nodup_nil⟩ h
  rintro done _ session live' ⟨rfl, hnd⟩ hstep
  simp only [Except.ite_error_eq_ok] at hstep
  obtain ⟨-, hnew, hstep⟩ := hstep
  cases hstep
  refine ⟨rfl, List.nodup_append.mpr ⟨hnd, List.nodup_singleton _, ?_⟩⟩
  rintro session hmem _ hlast rfl
  exact hnew (List.mem_singleton.mp hlast ▸ hmem)

theorem applyLayoutDocument_ok {records records' : LayoutRecords}
    {input doc : LayoutDocumentV1} {liveSessionIds : List String} {ids : Nat → String}
    {applied : AppliedLayout} (hparsed : parseLayoutDocumentV1 ratioText input = .ok doc)
    (hids : Function.Injective ids)
    (h : applyLayoutDocument records folderKey doc liveSessionIds ids = .ok (records', applied)) :
    records' = records.commit folderKey applied.layout ∧ applied.layout.WellFormed := by
  obtain ⟨hratios, hvalid⟩ := parseLayoutDocumentV1_ok hparsed
  simp only [applyLayoutDocument, validateLayoutDocumentImport, Except.ite_error_eq_ok,
    Except.bind_eq_ok] at h
  obtain ⟨-, _, ⟨_, hlive, -⟩, _, happly, h⟩ := h
  cases h
  obtain ⟨rfl, hnd⟩ := validatedLiveSet_ok hlive
  refine ⟨rfl, materializeLayoutDocument_wellFormed (validate_ok hvalid).toJoined hratios hids
    (hnd.filter _) (fun session hmem => ?_) happly⟩
  exact of_decide_eq_true (List.mem_filter.mp hmem).2

end Roost.Layout
