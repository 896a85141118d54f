-- SUMMARY: The operations on a socket's terminal lanes keep its books.
import Roost.Coord.Sync.Socket.QueueBooks

/-!
# The books of the lanes

A pump takes a frame from its lane into the hand and either queues it or puts it back. What
joins a lane was charged first; what a lane lets go is given back.
-/

namespace Roost.Coord.Sync.SyncV2Session

open Multiset (add_cons coe_nil coe_singleton cons_add cons_coe singleton_add)

open TerminalLane

variable {β : Type} {session session' : SyncV2Session β} {hand hand' : Multiset (RetainedFrame β)}
  {sid : String} {lane : TerminalLane β} {cursor : SnapshotCursor β}

theorem terminalLane_modifyLane (f : TerminalLane β → TerminalLane β)
    (hlane : session.terminalLane sid = some lane) :
    (session.modifyLane sid f).terminalLane sid = some (f lane) := by
  have hlook : (session.modifyLane sid f).terminalLane sid =
      if sid = sid then (session.terminalLane sid).map f
      else session.terminalLane sid := Table.lookup_modify sid sid f
  rwa [if_pos rfl, hlane, Option.map_some] at hlook

section

variable (h : session.Books hand)
include h

variable {f : SnapshotCursor β → SnapshotCursor β}

theorem Books.modifyCursor
    (hlane : session.terminalLane sid = some lane) (hcursor : lane.cursor = some cursor)
    (hmoved : (f cursor).holdings + hand' = cursor.holdings + hand) :
    (session.modifyCursor sid f).Books hand' := by
  refine h.modifyLane hlane ?_
  simp only [TerminalLane.holdings, hcursor, Option.map_some, Option.elim_some]
  rw [add_assoc, hmoved, add_assoc]

theorem Books.modifyCursor_same
    (hsame : ∀ cursor, (f cursor).holdings = cursor.holdings) :
    (session.modifyCursor sid f).Books hand := by
  refine h.modifyLane_same fun lane => ?_
  cases hcursor : lane.cursor with
  | none => simp [TerminalLane.holdings, hcursor]
  | some => simp [TerminalLane.holdings, hcursor, hsame]

/-! ## The ring -/

theorem Books.markTerminalLaneReady : (session.markTerminalLaneReady sid).Books hand := by
  unfold SyncV2Session.markTerminalLaneReady
  split
  · exact h
  split
  · exact h
  have hready : (session.modifyLane sid fun lane =>
      { lane with ready := true }).Books hand := h.modifyLane_same fun _ => rfl
  dsimp only
  split
  · exact hready
  · exact hready.moved rfl rfl rfl hready.queues

theorem Books.takeReadyLane (preferred : Option String) :
    (session.takeReadyLane preferred).1.Books hand := by
  unfold SyncV2Session.takeReadyLane
  extract_lets chosen
  cases chosen with
  | none => exact h
  | some =>
    dsimp only
    split
    · exact h.dropFromReadyRing
    · exact h.dropFromReadyRing.modifyLane_same fun _ => rfl

end

/-! ## Frames in and out of a lane -/

variable {sizes : FrameSizes β} {nowMs : Nat} {retained : RetainedFrame β}

section

variable (h : session.Books hand)
include h

theorem Books.retainTerminalFrame {frame : FirehoseFrame β}
    (hretain : session.retainTerminalFrame sid sizes frame nowMs = some (session', retained)) :
    session'.Books (retained ::ₘ hand) ∧ session'.terminalSessions = session.terminalSessions := by
  obtain ⟨_, hcharge, heq⟩ := Option.map_eq_some_iff.mp hretain
  cases heq
  refine ⟨h.tryCharge hcharge _ nowMs, ?_⟩
  rw [(tryCharge_cases hcharge).1]

theorem Books.retainCursorPart {cell : SharedCellFrame β}
    (hretain : session.retainCursorPart sid sizes cell nowMs = some (session', retained)) :
    session'.Books (retained ::ₘ hand) ∧ session'.terminalSessions = session.terminalSessions := by
  obtain ⟨_, hcharge, heq⟩ := Option.map_eq_some_iff.mp hretain
  cases heq
  refine ⟨h.tryCharge hcharge _ nowMs, ?_⟩
  rw [(tryCharge_cases hcharge).1]

theorem Books.takePart {part : RetainedFrame β}
    (htake : (session.takeCursorMaterialization sid).or
      (session.materializeCursorPart sid sizes nowMs) = some (session', part)) :
    session'.Books (part ::ₘ hand) ∧ ∃ lane cursor, session'.terminalLane sid = some lane ∧
      lane.cursor = some cursor ∧ cursor.materialized = none := by
  unfold SyncV2Session.takeCursorMaterialization SyncV2Session.materializeCursorPart at htake
  cases hlane : session.terminalLane sid with
  | none => simp [hlane] at htake
  | some lane =>
    cases hcursor : lane.cursor with
    | none => simp [hlane, hcursor] at htake
    | some cursor =>
      cases hpart : cursor.materialized with
      | some =>
        simp only [hlane, hcursor, hpart, Option.some_or, Option.some.injEq, Prod.mk.injEq] at htake
        obtain ⟨rfl, rfl⟩ := htake
        refine ⟨h.modifyCursor hlane hcursor ?_, _, { cursor with materialized := none },
          terminalLane_modifyLane _ hlane, ?_, rfl⟩
        · simp only [SnapshotCursor.holdings, hpart, Option.toList_none, Option.toList_some,
            coe_nil, zero_add, coe_singleton]
          rw [add_cons, singleton_add, cons_add]
        · rw [hcursor, Option.map_some]
      | none =>
        simp only [hlane, hcursor, hpart, Option.none_or] at htake
        split at htake
        · cases htake
        split at htake
        · cases htake
        obtain ⟨hbooks, htable⟩ := h.retainCursorPart htake
        refine ⟨hbooks, lane, cursor, ?_, hcursor, hpart⟩
        rw [terminalLane, htable]
        exact hlane

theorem Books.takePendingState {streamId : String} {state : RetainedFrame β}
    (htake : session.takePendingState sid = some (session', streamId, state)) :
    session'.Books (state ::ₘ hand) ∧ ∃ lane, session'.terminalLane sid = some lane := by
  unfold SyncV2Session.takePendingState at htake
  cases hlane : session.terminalLane sid with
  | none => simp [hlane] at htake
  | some lane =>
    cases hpend : lane.pendingStates with
    | nil => simp [hlane, hpend] at htake
    | cons =>
      simp only [hlane, hpend, Option.some.injEq, Prod.mk.injEq] at htake
      obtain ⟨rfl, -, rfl⟩ := htake
      refine ⟨h.modifyLane hlane ?_, _, terminalLane_modifyLane _ hlane⟩
      simp only [TerminalLane.holdings, hpend]
      rw [add_cons, ← cons_coe, cons_add, cons_add]

theorem Books.takeDeltaTailHead {delta : RetainedFrame β}
    (htake : session.takeDeltaTailHead sid = some (session', delta)) :
    session'.Books (delta ::ₘ hand) ∧ ∃ lane cursor, session'.terminalLane sid = some lane ∧
      lane.cursor = some cursor := by
  unfold SyncV2Session.takeDeltaTailHead at htake
  cases hlane : session.terminalLane sid with
  | none => simp [hlane] at htake
  | some lane =>
    cases hcursor : lane.cursor with
    | none => simp [hlane, hcursor] at htake
    | some cursor =>
      cases htail : cursor.deltaTail with
      | nil => simp [hlane, hcursor, htail] at htake
      | cons first rest =>
        simp only [hlane, hcursor, htail, Option.some.injEq, Prod.mk.injEq] at htake
        obtain ⟨rfl, rfl⟩ := htake
        refine ⟨h.modifyCursor hlane hcursor ?_, _, { cursor with deltaTail := rest },
          terminalLane_modifyLane _ hlane, ?_⟩
        · simp only [SnapshotCursor.holdings, htail]
          rw [add_cons, ← cons_coe, add_cons, cons_add]
        · rw [hcursor, Option.map_some]

/-! ## The pumps -/

theorem Books.releaseDrainedCursor : (session.releaseDrainedCursor sid).Books hand :=
  h.withLane (fun _ _ => books_releaseCursor) fun _ _ => releaseCursor_terminalSessions

variable (nowMs)

theorem Books.pumpState : (session.pumpState sid nowMs).1.Books hand := by
  unfold SyncV2Session.pumpState
  split
  · exact h
  rename_i htake
  obtain ⟨hbooks, _, hlane⟩ := h.takePendingState htake
  dsimp only
  split
  · rename_i hqueue
    exact (hbooks.tryEnqueueLaneFrame hqueue).modifyLane_same fun _ => rfl
  · refine hbooks.modifyLane hlane ?_
    simp only [TerminalLane.holdings]
    rw [add_cons, ← cons_coe, cons_add, cons_add]

variable (sizes)

theorem Books.pumpBaselinePart : (session.pumpBaselinePart sid sizes nowMs).1.Books hand := by
  unfold SyncV2Session.pumpBaselinePart
  dsimp only
  split
  · exact h
  rename_i htake
  obtain ⟨hbooks, _, _, hlane, hcursor, hnone⟩ := h.takePart htake
  split
  · rename_i hqueue
    exact (hbooks.tryEnqueueLaneFrame hqueue).modifyCursor_same fun _ => rfl
  refine hbooks.modifyCursor hlane hcursor ?_
  simp only [SnapshotCursor.holdings, hnone, Option.toList_none, Option.toList_some,
    coe_nil, zero_add, coe_singleton]
  rw [add_cons, singleton_add, cons_add]

theorem Books.pumpDelta : (session.pumpDelta sid nowMs).1.Books hand := by
  unfold SyncV2Session.pumpDelta
  split
  · exact h
  split
  · exact h
  rename_i htake
  obtain ⟨hbooks, _, _, hlane, hcursor⟩ := h.takeDeltaTailHead htake
  split
  · rename_i hqueue
    exact (hbooks.tryEnqueueLaneFrame hqueue).modifyCursor_same fun _ => rfl
  · refine hbooks.modifyCursor hlane hcursor ?_
    simp only [SnapshotCursor.holdings]
    rw [add_cons, ← cons_coe, add_cons, cons_add]

theorem Books.pumpCursor : (session.pumpCursor sid sizes nowMs).1.Books hand := by
  unfold SyncV2Session.pumpCursor
  split
  · exact h.releaseDrainedCursor
  · exact h.releaseDrainedCursor
  · exact h
  · exact h.pumpBaselinePart sizes nowMs
  · exact h.pumpDelta nowMs

theorem Books.pumpLane
    (granted : Bool) : (session.pumpLane sid sizes nowMs granted).Books hand := by
  unfold SyncV2Session.pumpLane
  split
  · exact h
  split
  · exact h
  split
  · have hpumped : (session.pumpState sid nowMs).1.Books hand := h.pumpState nowMs
    split
    · rename_i heq
      rwa [heq] at hpumped
    · rename_i heq
      rw [heq] at hpumped
      exact hpumped.markTerminalLaneReady
  have hpumped : (session.pumpCursor sid sizes nowMs).1.Books hand :=
    h.pumpCursor sizes nowMs
  split
  · rename_i heq
    rwa [heq] at hpumped
  · rename_i heq
    rw [heq] at hpumped
    exact hpumped.markTerminalLaneReady
  rename_i heq
  rw [heq] at hpumped
  split
  · exact hpumped.markTerminalLaneReady
  · exact hpumped

theorem Books.pumpNextReadyLane
    (granted : Bool) : (session.pumpNextReadyLane sizes nowMs granted).Books hand := by
  unfold SyncV2Session.pumpNextReadyLane
  have htaken := h.takeReadyLane none
  split
  · rename_i heq
    rwa [heq] at htaken
  · rename_i heq
    rw [heq] at htaken
    exact htaken.pumpLane sizes nowMs granted

theorem Books.pumpTerminalLane
    (granted : Bool) : (session.pumpTerminalLane sid sizes nowMs granted).Books hand := by
  unfold SyncV2Session.pumpTerminalLane
  have htaken := h.takeReadyLane (some sid)
  split
  · rename_i heq
    rwa [heq] at htaken
  · rename_i heq
    rw [heq] at htaken
    exact htaken.pumpLane sizes nowMs granted

end

/-! ## Deliveries -/

theorem holdings_advanceCursor (lane : TerminalLane β) (frameMeta : SyncFrameMeta) :
    (lane.advanceCursor frameMeta).holdings = lane.holdings := by
  unfold TerminalLane.advanceCursor
  split
  · rename_i cursor _ hcursor
    split
    · rfl
    extract_lets expected attachPriorityPending delivered advanced
    have hadv : advanced.holdings = cursor.holdings := by
      simp only [advanced]
      split <;> rfl
    split
    · rfl
    · simp only [TerminalLane.holdings, hcursor, Option.elim_some, hadv]
  · rfl

section

variable (h : session.Books hand)
include h

theorem Books.onTerminalFrameDelivered (frameMeta : SyncFrameMeta) :
    (session.onTerminalFrameDelivered frameMeta).Books hand := by
  unfold SyncV2Session.onTerminalFrameDelivered
  split
  · exact h
  rename_i sid _
  split
  · exact h
  split
  · split
    · exact h
    · have hidle : (session.modifyLane sid fun lane =>
          { lane with stateQueued := false }).Books hand := h.modifyLane_same fun _ => rfl
      exact hidle.markTerminalLaneReady
  · exact (h.modifyLane_same fun lane =>
      holdings_advanceCursor lane frameMeta).markTerminalLaneReady

/-! ## Ingress -/

theorem Books.discardUnsentMaterialization :
    (session.discardUnsentMaterialization sid).Books hand := by
  unfold SyncV2Session.discardUnsentMaterialization
  split
  · exact h.withLane (fun _ _ => books_releaseDeltaTail)
      fun _ _ => releaseDeltaTail_terminalSessions
  · exact (h.removeTerminalQueued false).withLane (fun _ _ => books_releaseCursor)
      fun _ _ => releaseCursor_terminalSessions

theorem Books.requestScopedRebaseline : (session.requestScopedRebaseline sid).Books hand := by
  have howed : (session.modifyLane sid fun lane =>
      { lane with rebaselinePending := true }).Books hand := h.modifyLane_same fun _ => rfl
  exact howed.discardUnsentMaterialization.markTerminalLaneReady

theorem Books.openLane (streamId : String) (attachPriorityPending : Bool)
    (habsent : (session.terminalLane sid).isNone) : ({ session with
      terminalSessions := session.terminalSessions.insert sid
        (TerminalLane.new streamId attachPriorityPending) } : SyncV2Session β).Books hand := by
  refine Books.putLane ?_ (Option.isNone_iff_eq_none.mp habsent)
  simpa [TerminalLane.holdings, TerminalLane.new] using h

theorem Books.beginTerminalStream (sizes : FrameSizes β)
    (streamId : String) : (session.beginTerminalStream sid sizes streamId).1.Books hand := by
  unfold SyncV2Session.beginTerminalStream
  split
  · exact h
  extract_lets dropped removed opened
  have hopened : opened.Books hand := by
    simp only [opened]
    split
    · rename_i habsent
      exact h.openLane streamId true habsent
    refine (h.dropFromReadyRing.removeTerminalQueued false).withLane ?_ ?_
    · intro lane s hs
      have hquiet : s.Books (({ lane with ready := false } : TerminalLane β).holdings + hand) := hs
      exact books_releaseCursor hquiet
    · intro lane s
      exact releaseCursor_terminalSessions
  split
  · exact hopened.markTerminalLaneReady.pumpTerminalLane sizes 0 false
  · exact hopened

end

theorem coe_concat (frames : List (RetainedFrame β)) (retained : RetainedFrame β) :
    (↑(frames ++ [retained]) : Multiset (RetainedFrame β)) = retained ::ₘ ↑frames :=
  Multiset.coe_eq_coe.mpr (List.perm_append_singleton retained frames)

theorem Books.pushState (h : session.Books (retained ::ₘ hand))
    (hlane : session.terminalLane sid = some lane) : (session.modifyLane sid fun lane =>
      { lane with pendingStates := lane.pendingStates ++ [retained] }).Books hand := by
  refine h.modifyLane hlane ?_
  simp only [TerminalLane.holdings, coe_concat]
  rw [cons_add, cons_add, add_cons]

theorem terminalLane_withLane
    {f : TerminalLane β → SyncV2Session β → TerminalLane β × SyncV2Session β}
    (hlane : session.terminalLane sid = some lane) :
    (session.withLane sid f).terminalLane sid = some (f lane
      { session with terminalSessions := session.terminalSessions.erase sid }).1 := by
  unfold SyncV2Session.withLane
  rw [show session.terminalSessions.lookup sid = some lane from hlane]
  exact AList.lookup_insert _

section

variable (hlane : session.terminalLane sid = some lane)
include hlane

theorem terminalLane_discardUnsentMaterialization :
    ∃ kept, (session.discardUnsentMaterialization sid).terminalLane sid = some kept ∧
      (lane.cursor.any SnapshotCursor.isMidBaseline = false → kept.cursor = none) := by
  unfold SyncV2Session.discardUnsentMaterialization
  rw [hlane, Option.bind_some]
  split
  · rename_i hmid
    refine ⟨_, terminalLane_withLane hlane, fun hnot => ?_⟩
    rw [hnot] at hmid
    cases hmid
  have hdrain : (session.removeTerminalQueued sid false).terminalLane sid =
      some lane := by
    rw [terminalLane, removeTerminalQueued, drainTerminalQueue, releaseCharges_terminalSessions]
    exact hlane
  refine ⟨_, terminalLane_withLane hdrain, fun _ => ?_⟩
  rw [releaseCursor_fst]

theorem terminalLane_markTerminalLaneReady :
    ∃ ready, (session.markTerminalLaneReady sid).terminalLane sid = some ready := by
  unfold SyncV2Session.markTerminalLaneReady
  rw [hlane]
  dsimp only
  split
  · exact ⟨lane, hlane⟩
  have hready := terminalLane_modifyLane (fun lane => { lane with ready := true }) hlane
  split <;> exact ⟨_, hready⟩

theorem terminalLane_requestScopedRebaseline :
    ∃ owing, (session.requestScopedRebaseline sid).terminalLane sid = some owing := by
  have howed := terminalLane_modifyLane (fun lane => { lane with rebaselinePending := true }) hlane
  obtain ⟨_, hkept, -⟩ := terminalLane_discardUnsentMaterialization howed
  exact terminalLane_markTerminalLaneReady hkept

end

section

variable (h : session.Books hand)
include h

variable (sizes)

theorem Books.enqueueTerminalState (frame : FirehoseFrame β) (nowMs : Nat) (granted : Bool) :
    (session.enqueueTerminalState sid sizes frame nowMs granted).1.Books hand := by
  unfold SyncV2Session.enqueueTerminalState
  extract_lets opened
  have hopened : opened.Books hand ∧ ∃ lane, opened.terminalLane sid = some lane := by
    simp only [opened]
    split
    · rename_i habsent
      exact ⟨h.openLane "" false habsent, _, AList.lookup_insert session.terminalSessions⟩
    · rename_i hpresent
      exact ⟨h, Option.ne_none_iff_exists'.mp (by simpa using hpresent)⟩
  obtain ⟨hbooks, lane, hlane⟩ := hopened
  cases hretain : opened.retainTerminalFrame sid sizes frame nowMs with
  | some charged =>
    obtain ⟨charged, _⟩ := charged
    obtain ⟨hcharge, htable⟩ := hbooks.retainTerminalFrame hretain
    have hpresent : charged.terminalLane sid = some lane := by
      rw [terminalLane, htable]
      exact hlane
    have hpushed := hcharge.pushState hpresent
    exact hpushed.markTerminalLaneReady.pumpTerminalLane sizes nowMs granted
  | none =>
    have howed : (opened.requestScopedRebaseline sid).Books hand :=
      hbooks.requestScopedRebaseline
    obtain ⟨owing, howing⟩ := terminalLane_requestScopedRebaseline hlane
    cases hagain : (opened.requestScopedRebaseline sid).retainTerminalFrame sid sizes
      frame nowMs with
    | some charged =>
      obtain ⟨charged, _⟩ := charged
      obtain ⟨hcharge, htable⟩ := howed.retainTerminalFrame hagain
      have hpresent : charged.terminalLane sid = some owing := by
        rw [terminalLane, htable]
        exact howing
      have hpushed := hcharge.pushState hpresent
      exact hpushed.markTerminalLaneReady.pumpTerminalLane sizes nowMs granted
    | none =>
      exact howed.moved rfl rfl rfl howed.queues

theorem Books.replaceTerminalSnapshot (streamId : String)
    (source : Option (TerminalSnapshotCursor β)) (nowMs : Nat) (granted : Bool) :
    (session.replaceTerminalSnapshot sid sizes streamId source nowMs granted).1.Books
      hand := by
  unfold SyncV2Session.replaceTerminalSnapshot
  cases hlane : session.terminalLane sid with
  | none => exact h
  | some lane =>
    dsimp only
    split
    · exact h
    split
    · have howed : (session.modifyLane sid fun lane =>
          { lane with rebaselinePending := true }).Books hand := h.modifyLane_same fun _ => rfl
      exact howed.markTerminalLaneReady
    rename_i hmid
    cases source with
    | none => exact h
    | some source =>
      dsimp only
      split
      · exact h
      obtain ⟨kept, hkept, hcursor⟩ := terminalLane_discardUnsentMaterialization hlane
      have hnone : kept.cursor = none := hcursor (by simpa using hmid)
      -- The cursor that is replaced was let go, so the fresh one takes nothing's place.
      have hinst : ((session.discardUnsentMaterialization sid).modifyLane sid
          fun lane => { lane with
            cursor := some (.ofSnapshot streamId source), rebaselinePending := false }).Books
          hand := by
        refine h.discardUnsentMaterialization.modifyLane hkept ?_
        simp [TerminalLane.holdings, hnone, SnapshotCursor.holdings, SnapshotCursor.ofSnapshot,
          SnapshotCursor.ofStream]
      exact hinst.markTerminalLaneReady.pumpTerminalLane sizes nowMs granted

theorem Books.admitTerminalDelta
    (streamId : String) (frame : FirehoseFrame β) (nowMs : Nat) (granted : Bool) :
    (session.admitTerminalDelta sid sizes streamId frame nowMs granted).1.Books hand := by
  unfold SyncV2Session.admitTerminalDelta
  split
  · exact h
  rename_i hany
  obtain ⟨lane, hlane⟩ : ∃ lane, session.terminalLane sid = some lane := by
    cases hlane : session.terminalLane sid with
    | none => simp [hlane] at hany
    | some lane => exact ⟨lane, rfl⟩
  extract_lets opened cursor
  have hopened : opened.Books hand ∧ ∃ lane cursor,
      opened.terminalLane sid = some lane ∧ lane.cursor = some cursor := by
    simp only [opened]
    split
    · rename_i habsent
      have hnone : lane.cursor = none := by simpa [hlane] using habsent
      refine ⟨h.modifyLane hlane ?_, _, _, terminalLane_modifyLane _ hlane, rfl⟩
      simp [TerminalLane.holdings, hnone, SnapshotCursor.holdings, SnapshotCursor.ofStream]
    rename_i hpresent
    obtain ⟨cursor, hcursor⟩ : ∃ cursor, lane.cursor = some cursor :=
      Option.ne_none_iff_exists'.mp (by simpa [hlane] using hpresent)
    exact ⟨h, lane, cursor, hlane, hcursor⟩
  obtain ⟨hbooks, present, _, hpresent, hstart⟩ := hopened
  split
  · exact hbooks.requestScopedRebaseline
  cases hretain : opened.retainTerminalFrame sid sizes frame nowMs with
  | none => exact hbooks.requestScopedRebaseline
  | some charged =>
    obtain ⟨charged, _⟩ := charged
    obtain ⟨hcharge, htable⟩ := hbooks.retainTerminalFrame hretain
    dsimp only
    split
    · exact hcharge.releaseCharge.requestScopedRebaseline
    have hkept : charged.terminalLane sid = some present := by
      rw [terminalLane, htable]
      exact hpresent
    refine Books.pumpTerminalLane sizes nowMs (Books.markTerminalLaneReady ?_) granted
    refine hcharge.modifyCursor hkept hstart ?_
    simp only [SnapshotCursor.holdings, coe_concat]
    rw [add_cons, cons_add, add_cons]

theorem Books.enqueueTerminalDelta
    (streamId : String) (frame : FirehoseFrame β) (nowMs : Nat) (granted : Bool) :
    (session.enqueueTerminalDelta sid sizes streamId frame nowMs granted).1.Books hand := by
  unfold SyncV2Session.enqueueTerminalDelta
  have hadmits : (session.admitTerminalDelta sid sizes streamId frame nowMs granted).1.Books
      hand := h.admitTerminalDelta sizes streamId frame nowMs granted
  dsimp only
  split
  · rename_i heq
    rwa [heq] at hadmits
  rename_i heq
  rw [heq] at hadmits
  split
  · exact hadmits
  · split <;> exact hadmits

end

end Roost.Coord.Sync.SyncV2Session
