-- SUMMARY: Checkpoints without history, and their simulation of full replicas.
import Roost.Cell.DiffGrid

/-!
# Viewport checkpoints

A checkpoint is what a replica keeps when nobody will ask it for history: the
viewport and the modes of the last frame, normalised so that it could itself be
sent as a full frame. It is folded by the same delta rules as a replica. The
shift a delta causes reads only the held viewport and the delta's own appended
lines, so nothing the checkpoint dropped is missed.
-/

namespace Roost.Cell

open Transducer

namespace CellGridFrame

/-- A reconstructed frame as a viewport-only checkpoint. -/
def normalizeCellGridFrame (frame : CellGridFrame) : CellGridFrame :=
  { frame with
    full := true
    baseSeq := 0
    scrollbackRows := []
    scrollbackAppend := []
    sbBase := frame.scrollbackTotal
    -- A full frame always states its image set, even when it has none.
    imagePlacements := some (frame.imagePlacements.getD []) }

/-- Apply a frame to a checkpoint; `none` when there is no baseline or the delta is
refused. -/
def applyViewportFrame (checkpoint : Option CellGridFrame) (frame : CellGridFrame) :
    Option CellGridFrame :=
  match checkpoint with
  | some current => (current.applyDeltaWithHistory frame false).map normalizeCellGridFrame
  | none =>
    if frame.full then some (frame.cloneWithoutRetainedHistory false).normalizeCellGridFrame
    else none

/-- A checkpoint as a machine: what arrives is applied or refused. -/
def checkpoint : Transducer (Option CellGridFrame) CellGridFrame Bool where
  step held frame :=
    match applyViewportFrame held frame with
    | some next => (some next, true)
    | none => (held, false)

/-! ## One frame -/

theorem normalize_cloneWithoutRetainedHistory (frame : CellGridFrame) (retainAppend : Bool) :
    (frame.cloneWithoutRetainedHistory retainAppend).normalizeCellGridFrame =
      frame.normalizeCellGridFrame := rfl

theorem continues_normalize (base delta : CellGridFrame) :
    base.normalizeCellGridFrame.continues delta = base.continues delta := rfl

theorem normalize_folded (base delta : CellGridFrame) :
    (folded base.normalizeCellGridFrame delta false).normalizeCellGridFrame =
      (folded base delta true).normalizeCellGridFrame := by
  have himages : (delta.imagePlacements.or (some (base.imagePlacements.getD []))).getD [] =
      (delta.imagePlacements.or base.imagePlacements).getD [] := by
    cases delta.imagePlacements with
    | some | none => rfl
  unfold normalizeCellGridFrame folded
  simp only [himages]
  rfl

theorem applyViewportFrame_normalize (base frame : CellGridFrame) :
    applyViewportFrame (some base.normalizeCellGridFrame) frame =
      (base.applyDelta frame).map normalizeCellGridFrame := by
  unfold applyViewportFrame applyDelta applyDeltaWithHistory
  cases frame.full with
  | true => rfl
  | false =>
    have hrows : base.normalizeCellGridFrame.viewportRows = base.viewportRows := rfl
    simp only [Bool.false_eq_true, if_false, continues_normalize, hrows]
    cases hcont : base.continues frame with
    | false => simp
    | true =>
      cases hclaim : Slots.claim slot (List.replicate base.viewportRows.length false)
        frame.viewportRows with
      | none => simp
      | some => simp [normalize_folded]

/-! ## Runs -/

/-- A checkpoint stands for a replica when it is that replica normalised. -/
def StandsFor (held : Option CellGridFrame) (full : CellGridFrame) : Prop :=
  held = some full.normalizeCellGridFrame

variable {held : Option CellGridFrame}

/-- One frame moves checkpoint and replica alike. -/
theorem StandsFor.step {full : CellGridFrame}
    (h : StandsFor held full) (frame : CellGridFrame) :
    checkpoint.answer held frame = replica.answer full frame ∧
      StandsFor (checkpoint.next held frame) (replica.next full frame) := by
  subst h
  unfold answer next checkpoint replica
  simp only [applyViewportFrame_normalize]
  cases full.applyDelta frame with
  | none | some => exact ⟨rfl, rfl⟩

/-- A full frame starts checkpoint and replica alike. -/
theorem checkpoint_baseline {baseline : CellGridFrame} (hfull : baseline.full = true) :
    checkpoint.answer none baseline = true ∧ StandsFor (checkpoint.next none baseline) baseline := by
  have happly : applyViewportFrame none baseline = some baseline.normalizeCellGridFrame := by
    simp only [applyViewportFrame, hfull, if_true, normalize_cloneWithoutRetainedHistory]
  unfold answer next checkpoint StandsFor
  simp only [happly, and_self]

theorem replica_refused {held frame : CellGridFrame} (h : replica.answer held frame = false) :
    replica.next held frame = held := by
  unfold answer next replica at *
  cases happly : held.applyDelta frame with
  | none => simp only [happly]
  | some => simp [happly] at h

theorem checkpoint_refused {frame : CellGridFrame}
    (h : checkpoint.answer held frame = false) : checkpoint.next held frame = held := by
  unfold answer next checkpoint at *
  cases happly : applyViewportFrame held frame with
  | none => simp only [happly]
  | some => simp [happly] at h

/-- From a full frame on, a checkpoint accepts and refuses what the full replica
does, equals the replica normalised after every frame, and like it is left alone
by a refused frame. -/
theorem checkpoint_refines_replica (baseline : CellGridFrame) (hfull : baseline.full = true)
    (frames : List CellGridFrame) :
    checkpoint.answers none (baseline :: frames) = true :: replica.answers baseline frames ∧
      (∀ past, past <+: frames → checkpoint.run none (baseline :: past) =
          some (replica.run baseline past).normalizeCellGridFrame) ∧
      ∀ past frame, past ++ [frame] <+: frames →
        replica.answer (replica.run baseline past) frame = false →
        checkpoint.run none (baseline :: (past ++ [frame])) = checkpoint.run none (baseline :: past) ∧
          replica.run baseline (past ++ [frame]) = replica.run baseline past := by
  obtain ⟨hacc, hstart⟩ := checkpoint_baseline hfull
  have hstands : ∀ past, StandsFor (checkpoint.run none (baseline :: past))
      (replica.run baseline past) := by
    intro past
    exact run_of_simulation (fun _ _ frame h => h.step frame) hstart past
  refine ⟨?_, fun past _ => hstands past, ?_⟩
  · rw [answers_cons, hacc]
    congr 1
    exact answers_of_simulation (fun _ _ frame h => h.step frame) hstart frames
  intro past frame _ href
  have hboth := ((hstands past).step frame).1.trans href
  rw [← List.cons_append, run_concat, run_concat]
  exact ⟨checkpoint_refused hboth, replica_refused href⟩

/-- A two-row baseline, a delta for its top row, and that delta again. -/
theorem checkpoint_refines_replica_prompt :
    checkpoint.answers none [twoRowHeld 0 1, promptDelta, promptDelta] =
      true :: replica.answers (twoRowHeld 0 1) [promptDelta, promptDelta] :=
  (checkpoint_refines_replica (twoRowHeld 0 1) rfl [promptDelta, promptDelta]).1

end CellGridFrame

end Roost.Cell
