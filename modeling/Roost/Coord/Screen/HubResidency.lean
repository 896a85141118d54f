-- SUMMARY: The pool's books over runs of the hub, and when the pool empties.
import Roost.Cell.WireSize
import Roost.Coord.Screen.HubRuns

/-!
# The hub and its pool

The pool is charged for exactly what the hub's sessions hold as long as no session is
dropped while a source still needs one of its versions: the record that would give the
charge back goes with the session.
-/

namespace Roost.Coord

open SessionCharge Table

open Roost.Cell TerminalScreenResidency ScreenTurn

def SessionScreen.rows (screen : SessionScreen) : Nat := screen.charge.rows
def SessionScreen.spans (screen : SessionScreen) : Nat := screen.charge.spans

namespace ScreenHub

/-- The pool is charged for exactly what the sessions hold. -/
structure Conserved (hub : ScreenHub) : Prop where
  rows : hub.residency.residentRows = total SessionScreen.rows hub.sessions
  spans : hub.residency.residentSpans = total SessionScreen.spans hub.sessions

/-- A session is dropped only when no source needs a version of it. -/
def DropsUnleased : ScreenHub → Op → Prop
  | hub, .dropSession sessionId =>
    ∀ screen ∈ hub.sessions.lookup sessionId,
      screen.charge.leased = false ∧ screen.charge.pinned = none
  | _, _ => True

instance (hub : ScreenHub) (op : Op) : Decidable (DropsUnleased hub op) := by
  cases op <;> dsimp only [DropsUnleased] <;> infer_instance

variable {sizes : Sizes} {hub hub' : ScreenHub} {sid : SessionId} {screen : SessionScreen}

theorem Conserved.covers (h : hub.Conserved)
    (hfound : hub.sessions.lookup sid = some screen) :
    hub.residency.Covers screen.charge := by
  constructor
  · have hheld : heldBy SessionScreen.rows hub.sessions sid = screen.charge.rows :=
      heldBy_of_lookup hfound
    rw [h.rows, ← hheld]
    exact heldBy_le_total
  have hheld : heldBy SessionScreen.spans hub.sessions sid = screen.charge.spans :=
    heldBy_of_lookup hfound
  rw [h.spans, ← hheld]
  exact heldBy_le_total

theorem Conserved.insert (h : hub.Conserved)
    (hfound : (hub.sessions.lookup sid).getD {} = screen) {turn : ScreenTurn}
    (hbalance : Balanced hub.residency turn.residency screen.charge turn.screen.charge)
    (hsess : hub'.sessions = hub.sessions.insert sid turn.screen)
    (hres : hub'.residency = turn.residency) : hub'.Conserved := by
  have hheld (measure : SessionScreen → Nat) (hempty : measure {} = 0) :
      heldBy measure hub.sessions sid = measure screen := by
    subst hfound
    unfold heldBy
    cases hub.sessions.lookup sid with
    | none => simp [hempty]
    | some => rfl
  constructor
  · have htotal : total SessionScreen.rows (hub.sessions.insert sid turn.screen) +
        heldBy SessionScreen.rows hub.sessions sid =
          total SessionScreen.rows hub.sessions + turn.screen.charge.rows :=
      total_insert_add
    have hpre : heldBy SessionScreen.rows hub.sessions sid = screen.charge.rows :=
      hheld _ rfl
    have hrows := hbalance.rows
    have hcons := h.rows
    rw [hsess, hres]
    omega
  have htotal : total SessionScreen.spans (hub.sessions.insert sid turn.screen) +
      heldBy SessionScreen.spans hub.sessions sid =
        total SessionScreen.spans hub.sessions + turn.screen.charge.spans :=
    total_insert_add
  have hpre : heldBy SessionScreen.spans hub.sessions sid = screen.charge.spans := hheld _ rfl
  have hspans := hbalance.spans
  have hcons := h.spans
  rw [hsess, hres]
  omega

/-- A chain of turns conserves rows and spans. -/
theorem Conserved.steps (h : hub.Conserved) (hsteps : Steps hub hub') : hub'.Conserved := by
  obtain hstill | ⟨sid, screen, turn, hmoved⟩ := hsteps
  · constructor
    · rw [hstill.residency, hstill.sessions]
      exact h.rows
    · rw [hstill.residency, hstill.sessions]
      exact h.spans
  · have hbalance := hmoved.turned.balanced (h.covers hmoved.found)
    exact h.insert (by rw [hmoved.found]; rfl) hbalance hmoved.sessions hmoved.residency

theorem Conserved.expectStream (h : hub.Conserved) (sid : SessionId) (streamId : String)
    (cols rows : UInt32) : (hub.expectStream sid streamId cols rows).1.Conserved := by
  obtain ⟨screen, hfound, -, he⟩ | ⟨-, he⟩ := expectStream_cases hub sid streamId cols rows
  · rw [he]
    have hsame : (hub.sessions.lookup sid).getD {} = screen := by rw [hfound]; rfl
    have hbalance : Balanced hub.residency (hub.turn screen).residency screen.charge
        (hub.turn screen).screen.charge := .refl
    exact h.insert hsame hbalance rfl rfl
  have hcovers : hub.residency.Covers ((hub.sessions.lookup sid).getD {}).charge := by
    cases hfound : hub.sessions.lookup sid with
    | none => exact ⟨Nat.zero_le _, Nat.zero_le _⟩
    | some => exact h.covers hfound
  rw [he]
  exact h.insert rfl (dropCache_balanced hcovers) rfl rfl

theorem dropSession_residency (hub : ScreenHub) (sid : SessionId)
    (hfound : hub.sessions.lookup sid = some screen) (hleased : screen.charge.leased = false)
    (hpinned : screen.charge.pinned = none) : (hub.dropSession sid).1.residency.residentRows =
        hub.residency.residentRows - screen.charge.rows ∧
      (hub.dropSession sid).1.residency.residentSpans =
        hub.residency.residentSpans - screen.charge.spans := by
  have hdrop : (hub.dropSession sid).1.residency = (hub.residency.dropCache screen.charge).1 := by
    unfold dropSession
    dsimp only
    rw [hfound]
    rfl
  rw [hdrop]
  obtain ⟨hnone, he⟩ | ⟨current, hcur, -, he⟩ | ⟨current, hcur, hleases, -⟩ |
    ⟨current, hcur, hleases, -⟩ := dropCache_cases hub.residency screen.charge
  · rw [he]
    simp [rows, spans, currentRows, currentSpans, pinnedRows, pinnedSpans, hnone, hpinned]
  · rw [he]
    simp [rows, spans, currentRows, currentSpans, pinnedRows, pinnedSpans, hcur, hpinned, uncharge]
  · simp [leased, hcur, Nat.pos_iff_ne_zero.mp hleases] at hleased
  · simp [leased, hcur, Nat.pos_iff_ne_zero.mp hleases] at hleased

theorem Conserved.dropSession (h : hub.Conserved)
    (hunleased : DropsUnleased hub (.dropSession sid)) :
    (hub.dropSession sid).1.Conserved := by
  have hsess : (hub.dropSession sid).1.sessions = hub.sessions.erase sid := rfl
  cases hfound : hub.sessions.lookup sid with
  | none =>
    have hres : (hub.dropSession sid).1.residency = hub.residency := by
      unfold ScreenHub.dropSession
      dsimp only
      rw [hfound]
    have hrows : total SessionScreen.rows (hub.sessions.erase sid) +
        heldBy SessionScreen.rows hub.sessions sid =
          total SessionScreen.rows hub.sessions := total_erase_add
    have hspans : total SessionScreen.spans (hub.sessions.erase sid) +
        heldBy SessionScreen.spans hub.sessions sid =
          total SessionScreen.spans hub.sessions := total_erase_add
    rw [heldBy_of_absent hfound, Nat.add_zero] at hrows hspans
    constructor
    · rw [hsess, hres, hrows]
      exact h.rows
    · rw [hsess, hres, hspans]
      exact h.spans
  | some screen =>
    obtain ⟨hleased, hpinned⟩ := hunleased screen hfound
    obtain ⟨hrows, hspans⟩ := dropSession_residency hub sid hfound hleased hpinned
    have htotalRows : total SessionScreen.rows (hub.sessions.erase sid) +
        heldBy SessionScreen.rows hub.sessions sid =
          total SessionScreen.rows hub.sessions := total_erase_add
    have htot : total SessionScreen.spans (hub.sessions.erase sid) +
        heldBy SessionScreen.spans hub.sessions sid =
          total SessionScreen.spans hub.sessions := total_erase_add
    rw [heldBy_of_lookup hfound] at htotalRows htot
    constructor
    · rw [hsess, hrows, h.rows, ← htotalRows]
      exact Nat.add_sub_cancel _ _
    · rw [hsess, hspans, h.spans, ← htot]
      exact Nat.add_sub_cancel _ _

/-- An operation that drops no leased screen conserves them. -/
theorem Conserved.next (h : hub.Conserved) {op : Op} (hunleased : DropsUnleased hub op) :
    ((machine sizes).next hub op).Conserved := by
  obtain ⟨sid, streamId, cols, rows, rfl⟩ | ⟨sid, rfl⟩ | hsteps :=
    next_cases hub op
  · exact h.expectStream sid streamId cols rows
  · exact h.dropSession hunleased
  · exact h.steps hsteps

/-- In every run that drops no session while a source needs a version of it, the pool is
empty once every session has been dropped. -/
theorem run_residencyFreed {maxRows maxSpans : Nat} {ops : List Op}
    (h : (machine sizes).Along DropsUnleased (withCaps maxRows maxSpans) ops)
    (hdropped : ∀ sid,
      ((machine sizes).run (withCaps maxRows maxSpans) ops).sessions.lookup sid = none) :
    ((machine sizes).run (withCaps maxRows maxSpans) ops).residency.usage = (0, 0) := by
  have hconserved : ((machine sizes).run (withCaps maxRows maxSpans) ops).Conserved :=
    h.invariant ⟨rfl, rfl⟩ fun _ _ hconserved hunleased => hconserved.next hunleased
  have hempty : ((machine sizes).run (withCaps maxRows maxSpans) ops).sessions = ∅ :=
    eq_empty_of_lookup hdropped
  have hrows := hconserved.rows
  have hspans := hconserved.spans
  rw [hempty, total_empty] at hrows hspans
  exact Prod.ext hrows hspans

/-- A one-row baseline on the wire. -/
def blankFull (streamId : String) (seq : UInt64) : PbCellGridFrame where
  streamId
  gridEpoch := "e"
  cols := 1
  rows := 1
  full := true
  seq
  viewportRows := [{ index := 0 }]

def blankStream : String := "3b241101-e2bb-4255-8caf-4136c566a962"

/-- A baseline is installed, leased, given back and dropped. -/
theorem run_residencyFreed_released :
    let ops : List Op :=
      [.expectStream blankSession blankStream 1 1,
        .publishFrame blankSession (blankFull blankStream 1), .acquireSourceLease blankSession 1,
        .releaseSourceLease blankSession 1, .dropSession blankSession]
    ((machine wireSizes).run (withCaps 4 4) ops).residency.usage = (0, 0) := by
  apply run_residencyFreed
  · decide +kernel
  · exact lookup_of_entries_nil (by decide +kernel)

/-- The lease on a baseline is given back after its session was dropped. -/
theorem leaks_droppedLeased :
    let ops : List Op :=
      [.expectStream blankSession blankStream 1 1,
        .publishFrame blankSession (blankFull blankStream 1), .acquireSourceLease blankSession 1,
        .dropSession blankSession, .releaseSourceLease blankSession 1]
    ((machine wireSizes).run (withCaps 4 4) ops).sessions.entries = [] ∧
      ((machine wireSizes).run (withCaps 4 4) ops).residency.usage = (1, 0) := by
  decide +kernel

end ScreenHub
end Roost.Coord
