-- SUMMARY: One replica's challenge, and what keeps it under a deadline.
import Roost.Client.ReplicaSafety

/-!
# A challenge under a deadline

A replica whose challenge is outstanding is guarded while its probe or its proof is
armed. Every operation keeps it guarded, except a chunk part of the challenged
stream, which clears the proof and arms nothing in its place.
-/

namespace Roost.Client

open Roost.Cell

/-- An outstanding challenge has a deadline. -/
def ForegroundLiveness.Guarded (liveness : ForegroundLiveness) : Prop :=
  liveness.challenge.isSome = true →
    liveness.quietDueMs.isSome = true ∨ liveness.proofDueMs.isSome = true

namespace ForegroundLiveness

variable {liveness : ForegroundLiveness}

theorem guarded_of_quiet (h : liveness.quietDueMs.isSome = true) : liveness.Guarded :=
  fun _ => .inl h

theorem guarded_of_none (h : liveness.challenge = none) : liveness.Guarded := by
  intro hchallenge
  rw [h] at hchallenge
  cases hchallenge

theorem Guarded.armed (h : liveness.Guarded) {owner : TerminalToken}
    (hpend : liveness.hasPendingChallenge owner = true) :
    liveness.quietDueMs.isSome = true ∨ liveness.proofDueMs.isSome = true := by
  obtain ⟨_, hchallenge, -⟩ := (Option.any_eq_true _ _).mp hpend
  exact h (by rw [hchallenge]; rfl)

theorem Guarded.rearmProof (h : liveness.Guarded) (nowMs : Nat) :
    (liveness.rearmProof nowMs).Guarded := by
  unfold ForegroundLiveness.rearmProof
  split
  · exact h
  · exact fun _ => .inr rfl

end ForegroundLiveness

open ForegroundLiveness

def Admission.Accepts (admission : Admission) : Prop :=
  admission = .baselineReplaced ∨ admission = .deltaApplied

/-! ## One replica -/

namespace TerminalSession

variable {session : TerminalSession} {token : TerminalToken} {nowMs : Nat}

theorem armQuietProbe_armed (hbound : session.generation = some token)
    (hready : session.baselineReady = true) (hshown : session.foregroundView.isSome = true) :
    (session.armQuietProbe token nowMs).liveness.quietDueMs.isSome = true := by
  unfold armQuietProbe
  have hwat : ¬(session.generation ≠ some token ∨ (!session.baselineReady) = true ∨
      session.foregroundView.isNone = true) := by
    simp [hbound, hready, Option.isSome_iff_ne_none.mp hshown]
  rw [if_neg hwat]
  rfl

theorem armQuietProbe_guarded (h : session.liveness.Guarded) :
    (session.armQuietProbe token nowMs).liveness.Guarded := by
  unfold armQuietProbe
  split
  · exact h
  · exact guarded_of_quiet rfl

theorem noteAcceptedFrame_guarded (h : session.liveness.Guarded) :
    (session.noteAcceptedFrame token nowMs).liveness.Guarded := by
  unfold noteAcceptedFrame
  split
  · exact h
  split
  · exact h
  apply armQuietProbe_guarded
  dsimp only
  split
  · exact guarded_of_none rfl
  · split <;> exact h

theorem noteAcceptedFrame_armed (hbound : session.generation = some token)
    (hready : session.baselineReady = true) {frame : CellGridFrame}
    (hframe : session.canonical = some frame) (hshown : session.foregroundView.isSome = true) :
    (session.noteAcceptedFrame token nowMs).liveness.quietDueMs.isSome = true := by
  unfold noteAcceptedFrame
  have hheard : ¬(session.generation ≠ some token ∨ (!session.baselineReady) = true) := by
    simp [hbound, hready]
  rw [if_neg hheard, hframe]
  apply armQuietProbe_armed
  · exact hbound
  · exact hready
  · exact hshown

theorem refuse_liveness (reason : String) :
    (session.refuse reason token nowMs).1.liveness = session.liveness := by
  unfold refuse
  dsimp only
  split <;> rfl

theorem refuse_not_accepts (reason : String) : ¬(session.refuse reason token nowMs).2.Accepts := by
  unfold refuse
  dsimp only
  split <;> rintro (href | href) <;> cases href

theorem admitDecoded_guarded (h : session.liveness.Guarded) (decoded : CellGridFrame) :
    (session.admitDecoded decoded token nowMs).1.liveness.Guarded := by
  unfold admitDecoded
  dsimp only
  split
  · rw [refuse_liveness]
    exact h
  · apply noteAcceptedFrame_guarded
    exact h
  · apply noteAcceptedFrame_guarded
    exact h

theorem admitDecoded_armed (hbound : session.generation = some token)
    (hshown : session.foregroundView.isSome = true) {decoded : CellGridFrame}
    (hacc : (session.admitDecoded decoded token nowMs).2.Accepts) :
    (session.admitDecoded decoded token nowMs).1.liveness.quietDueMs.isSome = true := by
  unfold admitDecoded at hacc ⊢
  dsimp only at hacc ⊢
  rcases FoldTarget.fold_cases { session.target with
      canonicalChunkInFlight := session.assembler.inFlight.isSome } decoded with
    ⟨reason, hfold⟩ | ⟨-, -, hfold⟩ | ⟨base, grid, hfollows, hfold⟩
  · simp only [hfold] at hacc
    exact absurd hacc (refuse_not_accepts _)
  · simp only [hfold]
    apply noteAcceptedFrame_armed
    · exact hbound
    · rfl
    · rfl
    · exact hshown
  simp only [hfold]
  apply noteAcceptedFrame_armed
  · exact hbound
  · exact hfollows.ready
  · rfl
  · exact hshown

section Reached

variable {own : Prop} {held : TerminalSession} {offer : Option CellGridFrame}
  {result : TerminalSession × Admission}

theorem Reaches.guarded (h : Reaches own held offer token nowMs result)
    (hguarded : held.liveness.Guarded) : result.1.liveness.Guarded := by
  cases h with
  | foreign | pending => exact hguarded
  | refused =>
    rw [refuse_liveness]
    exact hguarded
  | folded => exact admitDecoded_guarded hguarded _

theorem Reaches.armed (h : Reaches own held offer token nowMs result)
    (hbound : held.generation = some token) (hshown : held.foregroundView.isSome = true)
    (hacc : result.2.Accepts) : result.1.liveness.quietDueMs.isSome = true := by
  cases h with
  | foreign | pending => rcases hacc with hacc | hacc <;> cases hacc
  | refused => exact absurd hacc (refuse_not_accepts _)
  | folded => exact admitDecoded_armed hbound hshown hacc

end Reached

variable (sizes : Sizes) {chunk : PbCellGridChunk}

/-- A part a pending challenge is waiting on is admitted while a probe is armed, or it is
the last of a baseline that is accepted for a pane that is shown. -/
def Steady (sizes : Sizes) (session : TerminalSession) : SessionOp → Prop
  | .admitChunk chunk token nowMs =>
    ∀ part, session.generation = some token → chunk.part = some part →
      part.sessionId = session.sessionId → some part.streamId = session.target.expectedStreamId →
      session.liveness.chunkArrives token part.streamId part.seq = true →
      session.liveness.quietDueMs.isSome = true ∨ (session.foregroundView.isSome = true ∧
          (session.admitChunk sizes chunk token nowMs).2.Accepts)
  | _ => True

theorem admitChunk_guarded (h : session.liveness.Guarded)
    (hsteady : session.Steady sizes (.admitChunk chunk token nowMs)) :
    (session.admitChunk sizes chunk token nowMs).1.liveness.Guarded := by
  obtain ⟨held, hnoted, hlive, hreach⟩ := admitChunk_reaches session token sizes nowMs chunk
  rcases hlive with hsame | ⟨part, hbound, hpart, hsess, hstr, hlive⟩
  · exact hreach.guarded (hsame ▸ h)
  have hcase := hsteady part hbound hpart hsess hstr
  unfold noteChunkProgress at hlive
  rw [if_neg (not_not.mpr hbound)] at hlive
  split at hlive
  · rename_i harr
    rcases hcase harr with hquiet | ⟨hshown, hacc⟩
    · exact hreach.guarded (guarded_of_quiet (by rw [hlive]; exact hquiet))
    · refine guarded_of_quiet (hreach.armed (hnoted.generation.trans hbound) ?_ hacc)
      rw [foregroundView, orderedViews, hnoted.views]
      exact hshown
  · exact hreach.guarded (hlive ▸ h)

theorem admitFrame_guarded (h : session.liveness.Guarded) (frame : PbCellGridFrame)
    (assembled : Bool) : (session.admitFrame sizes frame assembled token nowMs).1.liveness.Guarded := by
  obtain ⟨_, -, hlive, hreach⟩ := admitFrame_reaches session token sizes nowMs frame assembled
  exact hreach.guarded (hlive ▸ h)

theorem beginScopedRepair_guarded (h : session.liveness.Guarded) :
    (session.beginScopedRepair token nowMs).liveness.Guarded := by
  unfold beginScopedRepair
  split
  · exact h
  split
  · exact h
  dsimp only
  split
  · exact h.rearmProof nowMs
  · exact fun _ => .inr rfl

theorem installExpectedStream_liveness (stream : String) (cols rows : UInt32) :
    (session.installExpectedStream stream cols rows).liveness = session.liveness := by
  unfold installExpectedStream
  dsimp only
  split
  · rfl
  · split <;> rfl

theorem sweep_liveness (nowMs : Nat) : (session.sweep nowMs).1.liveness = session.liveness := by
  unfold sweep
  dsimp only
  split
  · rfl
  split
  · rw [refuse_liveness]
    rfl
  · rfl

/-- A steady operation keeps the challenge under a deadline. -/
theorem next_guarded (h : session.liveness.Guarded) {op : SessionOp}
    (hsteady : session.Steady sizes op) : ((machine sizes).next session op).liveness.Guarded := by
  cases op with
  | admitFrame frame assembled => exact admitFrame_guarded sizes h frame assembled
  | admitChunk => exact admitChunk_guarded sizes h hsteady
  | installExpectedStream stream cols rows =>
    change (session.installExpectedStream stream cols rows).liveness.Guarded
    rw [installExpectedStream_liveness]
    exact h
  | sweep nowMs =>
    change (session.sweep nowMs).1.liveness.Guarded
    rw [sweep_liveness]
    exact h
  | applyViewState result nowMs =>
    obtain ⟨_, hafter⟩ := applyViewState_eq session result nowMs
    change (session.applyViewState result nowMs).1.liveness.Guarded
    rw [hafter]
    exact h
  | openView viewId cols rows =>
    obtain ⟨_, hafter⟩ := openView_eq session viewId cols rows
    change (session.openView viewId cols rows).liveness.Guarded
    rw [hafter]
    exact h
  | beginScopedRepair => exact beginScopedRepair_guarded h
  | retireLiveness => exact guarded_of_none rfl
  | bindGeneration | releaseGeneration | markRepairSent | resizeView | hideView | closeView
  | markViewPublished => exact h

end TerminalSession

end Roost.Client
