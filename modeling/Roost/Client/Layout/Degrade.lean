-- SUMMARY: A document degraded to the live sessions, and that it is admitted.
import Roost.Client.Layout.ReadBack
import Roost.Client.Layout.RoundTrip

/-!
# Degrading a document

A binding whose session is not live is dropped and the panes left without a session collapse. What
is left binds the live sessions in their old order, and is within every bound of a document because
the tree only shrinks and its keys are numbered afresh.
-/

namespace Roost.Layout

open List

def hasSessionlessLeaf : LayoutDocumentNode → Bool
  | .leaf leaf => leaf.slotKeys.isEmpty
  | .node _ first second => hasSessionlessLeaf first || hasSessionlessLeaf second

/-- A document with its dead bindings dropped. -/
structure DegradedLayoutDocument where
  document : LayoutDocumentV1
  droppedSessionCount : Nat

def LayoutDocumentV1.trimmed (document : LayoutDocumentV1) (live : List String) : LayoutDocumentV1 :=
  { document with
    bindings := document.bindings.filter fun binding => decide (binding.sessionId ∈ live) }

/-- Human-confirmed import, which degrades instead of failing. -/
def degradeLayoutDocumentToLiveSessions (document : LayoutDocumentV1) (liveSessionIds : List String)
    (ids : Nat → String) : Except LayoutDocumentError DegradedLayoutDocument := do
  let live ← validatedLiveSet liveSessionIds
  let trimmed := document.trimmed live
  let droppedSessionCount := document.bindings.length - trimmed.bindings.length
  if droppedSessionCount = 0 ∧ hasSessionlessLeaf trimmed.root = false then
    .ok { document := trimmed, droppedSessionCount := 0 }
  else
    let applied ← materializeLayoutDocument trimmed [] ids
    let document ← documentFromLayout applied.layout
    .ok { document, droppedSessionCount }

def LayoutDocumentV1.sessions (document : LayoutDocumentV1) : List String :=
  (document.root.leaves.flatMap (·.slotKeys)).filterMap (sessionBySlot document.bindings)

/-! ## What a trimmed document binds -/

section
variable {document : LayoutDocumentV1} {live : List String}

theorem sessionBySlot_eq_some {bindings : List LayoutDocumentBinding}
    (hnd : (bindings.map (·.slotKey)).Nodup) {slotKey sid : String} :
    sessionBySlot bindings slotKey = some sid ↔ { slotKey, sessionId := sid } ∈ bindings := by
  constructor
  · intro h
    obtain ⟨_, hmem, rfl, rfl⟩ := sessionBySlot_mem h
    exact hmem
  · exact fun hmem => sessionBySlot_of_mem hnd hmem

theorem Joined.trimmed (h : Joined document) (live : List String) : Joined (document.trimmed live) where
  leafKeys := h.leafKeys
  slotKeys := h.slotKeys
  selected := h.selected
  focused := h.focused
  bindingSlots := h.bindingSlots.sublist (filter_sublist.map _)
  bindingSessions := h.bindingSessions.sublist (filter_sublist.map _)
  owned := fun bnd hmem => h.owned bnd (mem_filter.mp hmem).1

theorem sessionBySlot_trimmed (h : Joined document) (slotKey : String) :
    sessionBySlot (document.trimmed live).bindings slotKey =
      (sessionBySlot document.bindings slotKey).filter fun sess => decide (sess ∈ live) := by
  refine Option.ext fun sess => ?_
  rw [sessionBySlot_eq_some (h.trimmed live).bindingSlots, Option.filter_eq_some_iff,
    sessionBySlot_eq_some h.bindingSlots]
  exact mem_filter

theorem sessions_trimmed (h : Joined document) : (document.trimmed live).sessions =
      document.sessions.filter fun sess => decide (sess ∈ live) := by
  rw [LayoutDocumentV1.sessions, LayoutDocumentV1.sessions, filter_filterMap]
  exact filterMap_congr fun slotKey _ => sessionBySlot_trimmed h slotKey

theorem Connected.mem_sessions (h : Connected document) (sess : String) :
    sess ∈ document.sessions ↔ sess ∈ document.bindings.map (·.sessionId) := by
  rw [LayoutDocumentV1.sessions, mem_filterMap, mem_map]
  constructor
  · rintro ⟨slot, -, hbound⟩
    obtain ⟨bnd, hmem, -, rfl⟩ := sessionBySlot_mem hbound
    exact ⟨bnd, hmem, rfl⟩
  · rintro ⟨bnd, hmem, rfl⟩
    exact ⟨bnd.slotKey, h.owned bnd hmem, sessionBySlot_of_mem h.bindingSlots hmem⟩

end

/-! ## What is left of its tree -/

section
variable {document : LayoutDocumentV1} {extraSessions : List String} {ids : Nat → String}

theorem extent_materialized (minted : Nat) (node : LayoutDocumentNode) :
    (materialized document extraSessions ids minted node).height = node.height ∧
      (materialized document extraSessions ids minted node).size = node.size := by
  induction node generalizing minted with
  | leaf => exact ⟨rfl, rfl⟩
  | node split first second ihfirst ihsecond =>
    simp only [materialized, LeafTree.height, LeafTree.size, ihfirst, ihsecond, and_self]

theorem marks_materialized {minted : Nat} {node : LayoutDocumentNode} {split : PaneSplit}
    (h : split ∈ (materialized document extraSessions ids minted node).marks) :
    ∃ own ∈ node.marks, split.direction = own.direction ∧ split.ratio = own.ratio := by
  induction node generalizing minted with
  | leaf => exact nomatch h
  | node own first second ihfirst ihsecond =>
    rcases mem_cons.mp h with rfl | hbelow
    · exact ⟨own, mem_cons_self, rfl, rfl⟩
    rcases mem_append.mp hbelow with hmem | hmem
    · obtain ⟨inner, hinner, hsame⟩ := ihfirst hmem
      exact ⟨inner, mem_cons_of_mem _ (mem_append_left _ hinner), hsame⟩
    · obtain ⟨inner, hinner, hsame⟩ := ihsecond hmem
      exact ⟨inner, mem_cons_of_mem _ (mem_append_right _ hinner), hsame⟩

theorem tabs_materialized (minted : Nat) (node : LayoutDocumentNode) :
    (materialized document [] ids minted node).leaves.flatMap (·.tabs) =
      (node.leaves.flatMap (·.slotKeys)).filterMap (sessionBySlot document.bindings) := by
  induction node generalizing minted with
  | leaf =>
    simp only [materialized, LeafTree.leaves, flatMap_singleton, materializeLeaf,
      materializeTabs, ite_self, append_nil]
  | node split first second ihfirst ihsecond =>
    simp only [materialized, LeafTree.leaves, flatMap_append, filterMap_append, ihfirst, ihsecond]

theorem tabs_collapse (root : PaneNode) :
    (root.collapse (sessionLess root)).leaves.flatMap (·.tabs) = root.leaves.flatMap (·.tabs) := by
  have hdropped : ∀ leaf ∈ root.leaves, sessionLess root leaf = true → leaf.tabs = [] := by
    intro leaf hmem hless
    rw [sessionLess_eq hmem] at hless
    exact isEmpty_iff.mp hless
  have hkept : ∀ leaves : List PaneLeaf, (∀ leaf ∈ leaves, leaf ∈ root.leaves) →
      (leaves.filter fun leaf => !sessionLess root leaf).flatMap (·.tabs) =
        leaves.flatMap (·.tabs) := by
    intro leaves
    induction leaves with
    | nil => exact fun _ => rfl
    | cons leaf leaves ih =>
      intro hall
      obtain ⟨hmem, hrest⟩ := forall_mem_cons.mp hall
      cases hless : sessionLess root leaf with
      | false => simp [hless, ih hrest]
      | true => simp [hless, ih hrest, hdropped leaf hmem hless]
  rcases LeafTree.collapse_cases (sessionLess root) root with
    ⟨-, hleaves⟩ | ⟨hnone, leaf, hmem, hleaf⟩
  · rw [hleaves, hkept _ fun _ hmem => hmem]
  rw [hleaf, ← hkept root.leaves fun _ hmem => hmem, hnone]
  have hless : sessionLess root leaf = true := by
    have := filter_eq_nil_iff.mp hnone leaf hmem
    simpa using this
  rw [LeafTree.leaves, flatMap_singleton, hdropped leaf hmem hless]
  rfl

end

/-! ## What is left of a document -/

theorem PaneLayout.documentWith_sessions (layout : PaneLayout) (h : layout.WellFormed)
    (key : String) : (layout.documentWith key).sessions = layout.sessions := by
  have halike : layout.root.Alike SameSplit SamePane
      (materialized (layout.documentWith key) [] toString 0 (layout.documentWith key).root) :=
    materialized_numbered h.orderly.selects (exportBindings_bound layout.sessions)
  rw [LayoutDocumentV1.sessions, ← tabs_materialized 0 (layout.documentWith key).root]
  exact (numbered_alike halike 1 1).2.2

variable {ids : Nat → String}

theorem exportable_trimmed {doc : LayoutDocumentV1} (h : Admissible doc)
    (live : List String) {applied : AppliedLayout}
    (hwf : applied.layout.WellFormed)
    (hroot : applied.layout.root =
      (materialized (doc.trimmed live) [] ids 0 doc.root).collapse
        (sessionLess (materialized (doc.trimmed live) [] ids 0 doc.root)))
    (hsess : applied.layout.sessions =
      doc.sessions.filter fun sess => decide (sess ∈ live)) :
    applied.layout.Exportable := by
  have hextent : (materialized (doc.trimmed live) [] ids 0 doc.root).height =
      doc.root.height ∧
      (materialized (doc.trimmed live) [] ids 0 doc.root).size = doc.root.size :=
    extent_materialized 0 doc.root
  obtain ⟨hheight, hsize⟩ := hextent
  obtain ⟨hcoll, hcoll'⟩ := LeafTree.extent_collapse_le
    (sessionLess (materialized (doc.trimmed live) [] ids 0 doc.root))
    (materialized (doc.trimmed live) [] ids 0 doc.root)
  refine
    { height := ?_
      nodes := ?_
      slots := ?_
      splits := fun split hmem => ?_
      ids := fun sess hmem => ?_
      sessions := hwf.orderly.sessions
      held := fun leaf hmem => (hwf.orderly.selects leaf hmem).held }
  · rw [hroot]
    exact hcoll.trans (hheight.trans_le h.height)
  · rw [hroot]
    exact hcoll'.trans (hsize.trans_le h.nodes)
  · rw [hsess]
    exact (length_filter_le _ _).trans ((length_filterMap_le _ _).trans h.slots)
  · rw [hroot] at hmem
    obtain ⟨own, hown, hdir, hratio⟩ :=
      marks_materialized (LeafTree.marks_collapse_subset _ _ hmem)
    rw [hdir, hratio]
    exact h.splits own hown
  · rw [hsess] at hmem
    obtain ⟨bnd, hbind, rfl⟩ := mem_map.mp
      ((h.connected.mem_sessions sess).mp (mem_filter.mp hmem).1)
    exact (h.bound bnd hbind).2

theorem degrade_keeps_live {ratioText : F64 → String} {document : LayoutDocumentV1}
    (h : Admissible document) {live : List String} (hnd : live.Nodup) (hnon : "" ∉ live)
    (hids : Function.Injective ids) :
    ∃ degraded, degradeLayoutDocumentToLiveSessions document live ids = .ok degraded ∧
      parseLayoutDocumentV1 ratioText degraded.document = .ok degraded.document ∧
      degraded.document.sessions =
        document.sessions.filter (fun session => decide (session ∈ live)) ∧
      (∀ session, session ∈ degraded.document.bindings.map (·.sessionId) ↔
        session ∈ document.bindings.map (·.sessionId) ∧ session ∈ live) ∧
      degraded.droppedSessionCount =
        (document.bindings.filter fun bnd => decide (bnd.sessionId ∉ live)).length := by
  have hcount : document.bindings.length - (document.trimmed live).bindings.length =
      (document.bindings.filter fun bnd => decide (bnd.sessionId ∉ live)).length := by
    have hsum := length_eq_length_filter_add (l := document.bindings)
      fun bnd => decide (bnd.sessionId ∈ live)
    simp only [decide_not]
    show document.bindings.length -
      (document.bindings.filter fun bnd => decide (bnd.sessionId ∈ live)).length = _
    omega
  obtain ⟨live', hlive⟩ := validatedLiveSet_accepts hnd hnon
  obtain rfl := (validatedLiveSet_ok hlive).1
  -- Any admissible document with the right preorder binds the right sessions.
  have hbinds : ∀ {degraded : LayoutDocumentV1}, Admissible degraded →
      degraded.sessions = document.sessions.filter (fun session => decide (session ∈ live')) →
      ∀ session, session ∈ degraded.bindings.map (·.sessionId) ↔
        session ∈ document.bindings.map (·.sessionId) ∧ session ∈ live' := by
    intro degraded hadmissible hsess session
    rw [← hadmissible.connected.mem_sessions, ← h.connected.mem_sessions, hsess,
      mem_filter, decide_eq_true_iff]
  have hjoined := h.connected.toJoined
  simp only [degradeLayoutDocumentToLiveSessions, Except.bind_eq_ok, hlive, Except.ok.injEq,
    exists_eq_left', hcount]
  split
  · next hwhole =>
    have hall : document.trimmed live' = document := by
      have hkept : (document.bindings.filter fun bnd => decide (bnd.sessionId ∈ live')) =
          document.bindings := by
        refine filter_eq_self.mpr fun bnd hmem => ?_
        have hnone := filter_eq_nil_iff.mp (length_eq_zero_iff.mp hwhole.1) bnd hmem
        simpa using hnone
      rw [LayoutDocumentV1.trimmed, hkept]
    refine ⟨_, rfl, ?_⟩
    dsimp only
    have hsess : (document.trimmed live').sessions =
        document.sessions.filter fun session => decide (session ∈ live') := sessions_trimmed hjoined
    rw [hall] at hsess ⊢
    exact ⟨h.parse, hsess, hbinds h hsess, hwhole.1.symm⟩
  have hport : ∀ split ∈ (document.trimmed live').root.marks, split.direction.Portable :=
    fun split hmem => (h.splits split hmem).1
  obtain ⟨applied, place, pane, leaf, happly, hpane, hleaf, hfoc, hroot, hfocus⟩ :=
    materializeLayoutDocument_accepts [] ids hport (hjoined.trimmed live').focused
  have hwf : applied.layout.WellFormed :=
    materializeLayoutDocument_wellFormed (hjoined.trimmed live')
      (fun split hmem => (h.splits split hmem).2) hids nodup_nil
      (fun _ hmem => by cases hmem) happly
  have hsess : applied.layout.sessions =
      document.sessions.filter fun session => decide (session ∈ live') := by
    rw [PaneLayout.sessions, hroot, tabs_collapse, tabs_materialized]
    exact sessions_trimmed hjoined
  have hexport := exportable_trimmed h live' hwf hroot hsess
  obtain ⟨place', pane', hpane', hid⟩ :
      ∃ (place : Nat) (pane : PaneLeaf), applied.layout.root.leaves[place]? = some pane ∧
        pane.paneId = applied.layout.focusedPaneId := by
    obtain ⟨pane', hmem, hid⟩ := mem_map.mp hwf.focus
    obtain ⟨place', hplace⟩ := mem_iff_getElem?.mp hmem
    exact ⟨place', pane', hplace, hid⟩
  have hkey := lookup_focus hwf.orderly.ids hpane'
  rw [hid] at hkey
  have hadmissible := hexport.admissible hkey
  have hdoc := (applied.layout.documentWith_sessions hwf (leafKeyAt (1 + place'))).trans hsess
  have hexported : documentFromLayout applied.layout =
      .ok (applied.layout.documentWith (leafKeyAt (1 + place'))) :=
    documentFromLayout_eq_ok.mpr ⟨fun split hmem => (hexport.splits split hmem).1, _, hkey, rfl⟩
  refine ⟨{ document := applied.layout.documentWith (leafKeyAt (1 + place'))
            droppedSessionCount := _ }, ?_, hadmissible.parse, hdoc,
    hbinds hadmissible hdoc, rfl⟩
  simp only [Except.bind_eq_ok]
  exact ⟨applied, happly, _, hexported, rfl⟩

/-- Documents carry an arrangement unchanged: an exported layout comes back as it was and is exported
as the same document, and a parsed document degrades to an admissible one with its live sessions. -/
theorem layouts_travel (ratioText : F64 → String)
    (hids : Function.Injective ids) :
    (∀ (layout : PaneLayout) folderKey live document, layout.WellFormed →
      ((∀ leaf ∈ layout.root.leaves, leaf.tabs ≠ []) ∨ ∃ leaf, layout.root = .leaf leaf) →
      exportLayoutDocument ratioText folderKey live layout = .ok document →
      ∃ applied, materializeLayoutDocument document [] ids = .ok applied ∧
        layout.SameArrangement applied.layout ∧ applied.layout.WellFormed ∧
        exportLayoutDocument ratioText folderKey live applied.layout = .ok document) ∧
    ∀ input document (live : List String), parseLayoutDocumentV1 ratioText input = .ok document →
      live.Nodup → "" ∉ live →
      ∃ degraded, degradeLayoutDocumentToLiveSessions document live ids = .ok degraded ∧
        parseLayoutDocumentV1 ratioText degraded.document = .ok degraded.document ∧
        degraded.document.sessions =
          document.sessions.filter (fun session => decide (session ∈ live)) ∧
        (∀ session, session ∈ degraded.document.bindings.map (·.sessionId) ↔
          session ∈ document.bindings.map (·.sessionId) ∧ session ∈ live) ∧
        degraded.droppedSessionCount =
          (document.bindings.filter fun binding => decide (binding.sessionId ∉ live)).length := by
  refine ⟨fun layout folderKey live document hwf hheld hexport => ?_, ?_⟩
  · exact export_materialize_export hwf hheld hids hexport
  · intro input document live hparsed hnd hnon
    exact degrade_keeps_live (parse_admissible hparsed) hnd hnon hids

def twoPanesDocument : LayoutDocumentV1 := twoPanes.documentWith "leaf-2"

theorem twoPanes_wellFormed : twoPanes.WellFormed where
  orderly :=
    { ids := by decide
      sessions := by decide
      selects := fun leaf hmem => by
        constructor
        all_goals
          revert leaf
          decide }
  focus := by decide
  ratios := by decide +kernel

/-- A split layout travels, and with the session of its first pane dead the split collapses. -/
theorem two_panes_travel :
    (∃ applied, materializeLayoutDocument twoPanesDocument [] toString = .ok applied ∧
      twoPanes.SameArrangement applied.layout) ∧
    ∃ degraded, degradeLayoutDocumentToLiveSessions twoPanesDocument ["t"] toString =
        .ok degraded ∧
      degraded.document.sessions = ["t"] ∧ degraded.droppedSessionCount = 1 := by
  have hclaim := layouts_travel (fun _ => "") numberText_injective
  have hexported : exportLayoutDocument (fun _ => "") "folder" ["s", "t"] twoPanes =
      .ok twoPanesDocument := by decide +kernel
  have hparsed : parseLayoutDocumentV1 (fun _ => "") twoPanesDocument = .ok twoPanesDocument := by
    decide +kernel
  constructor
  · obtain ⟨applied, happlied, hsame, -⟩ := hclaim.1 twoPanes "folder" ["s", "t"] twoPanesDocument
      twoPanes_wellFormed (.inl (by decide)) hexported
    exact ⟨applied, happlied, hsame⟩
  · obtain ⟨degraded, hdegraded, -, hkept, -, hcount⟩ := hclaim.2 twoPanesDocument twoPanesDocument
      ["t"] hparsed (by decide) (by decide)
    exact ⟨degraded, hdegraded, hkept.trans (by decide), hcount.trans (by decide)⟩

/-- A live set that lists an empty id degrades no document. -/
theorem empty_live_id_is_refused : ¬ ∀ (document : LayoutDocumentV1) (live : List String),
      parseLayoutDocumentV1 (fun _ => "") document = .ok document → live.Nodup →
      ∃ degraded, degradeLayoutDocumentToLiveSessions document live toString = .ok degraded := by
  intro h
  obtain ⟨degraded, hdegr⟩ := h twoPanesDocument [""] (by decide +kernel) (by decide)
  exact nomatch hdegr

end Roost.Layout
