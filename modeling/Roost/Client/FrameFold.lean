-- SUMMARY: Which decoded frames extend a replica, and what a replica is a fold of.
import Roost.Cell.ChunkAssembler
import Roost.Cell.ViewportCheckpoint

/-!
# Folding frames

A replica is fenced to a stream and a geometry. A complete full for them replaces
what it holds unless that would move it backwards; a delta extends it only as the
exact successor of what it holds. Everything else leaves it as it was.
-/

namespace Roost.Client

open Roost.Cell

/-- The state a frame is folded against: what the replica expects, and what it holds. -/
structure FoldTarget where
  /-- The stream the replica is fenced to. -/
  expectedStreamId : Option String
  effectiveCols : UInt32
  effectiveRows : UInt32
  canonical : Option CellGridFrame
  /-- A complete full for the current stream is installed. -/
  baselineReady : Bool
  /-- A chunked baseline is partially assembled. -/
  canonicalChunkInFlight : Bool

/-- A target with no expectation and nothing to paint. -/
def FoldTarget.empty : FoldTarget where
  expectedStreamId := none
  effectiveCols := 0
  effectiveRows := 0
  canonical := none
  baselineReady := false
  canonicalChunkInFlight := false

/-- Why a frame was refused. -/
inductive FrameFoldFailure where
  | invalidFull
  | fullConflict
  | deltaUnfollowed
  | deltaFoldRejected

def FrameFoldFailure.wireName : FrameFoldFailure → String
  | invalidFull => "invalid_full"
  | fullConflict => "full_conflict"
  | deltaUnfollowed => "delta_unfollowed"
  | deltaFoldRejected => "delta_fold_rejected"

inductive FrameFoldOutcome where
  | full
  | delta (delta : CellGridFrame)
  | invalid (reason : FrameFoldFailure)

def decodeWireFrame (sizes : Sizes) (frame : PbCellGridFrame) (assembled : Bool) :
    Except String CellGridFrame :=
  if !assembled ∧ sizes.frameLen frame > cellGridPartMaxBytes then
    .error "terminal frame exceeded the encoded part ceiling"
  else (protoToCellFrame frame).mapError ProtocolError.message

/-- Decode a chunked baseline the assembler handed over whole. -/
def decodeAssembledFrame (frame : PbCellGridFrame) : Except String CellGridFrame :=
  (protoToCellFrame frame).mapError ProtocolError.message

def decodeChunkPart (chunk : PbCellGridChunk) : Option PbCellGridFrame := chunk.part

namespace FoldTarget

/-- The history loop of `validFull`: contiguous from `historyIndex`, below the total, and
where it ends. -/
def historyEnd (scrollbackTotal : UInt64) : Nat → List CellRow → Option Nat
  | historyIndex, [] => some historyIndex
  | historyIndex, row :: rows =>
    if row.index.toNat ≠ historyIndex ∨ row.index.toNat ≥ scrollbackTotal.toNat then none
    else historyEnd scrollbackTotal (historyIndex + 1) rows

/-- Whether a frame is a complete baseline for the current expectation. -/
def validFull (target : FoldTarget) (frame : CellGridFrame) : Bool :=
  if !frame.full ∨ frame.baseSeq ≠ 0 ∨ frame.viewportRows.length ≠ frame.rows.toNat ∨
      !frame.scrollbackAppend.isEmpty then
    false
  else
    match target.expectedStreamId with
    -- With no expectation there is no grid this frame can be complete for.
    | none => false
    | some expected =>
      if frame.streamId ≠ expected ∨ frame.cols ≠ target.effectiveCols ∨
          frame.rows ≠ target.effectiveRows then
        false
      else if frame.viewportRows.zipIdx.any fun entry => decide (entry.1.index.toNat ≠ entry.2) then
        false
      else
        historyEnd frame.scrollbackTotal frame.sbBase.toNat frame.scrollbackRows ==
          some frame.scrollbackTotal.toNat

end FoldTarget

/-- Whether a full may replace the installed frame: it never moves the sequence back, and
restates a sequence only with the same epoch, geometry and screen. -/
def fullFollowsCanonical (canonical : Option CellGridFrame) (frame : CellGridFrame) : Bool :=
  match canonical with
  | none => true
  | some canonical =>
    decide (canonical.streamId ≠ frame.streamId ∨ frame.seq > canonical.seq ∨
      (frame.seq = canonical.seq ∧ frame.gridEpoch = canonical.gridEpoch ∧
        frame.cols = canonical.cols ∧ frame.rows = canonical.rows ∧
        frame.altScreen = canonical.altScreen))

namespace FoldTarget

variable (target : FoldTarget)

def foldFull (frame : CellGridFrame) : FoldTarget × FrameFoldOutcome :=
  if !target.validFull frame then (target, .invalid .invalidFull)
  else if !fullFollowsCanonical target.canonical frame then (target, .invalid .fullConflict)
  else
    ({ target with canonical := some frame.normalizeCellGridFrame, baselineReady := true }, .full)

/-- The fences a delta has to pass against the frame it extends. -/
def refusals (base delta : CellGridFrame) : List Bool :=
  [!target.baselineReady, target.canonicalChunkInFlight,
    decide (some delta.streamId ≠ target.expectedStreamId),
    decide (some base.streamId ≠ target.expectedStreamId),
    decide (delta.gridEpoch ≠ base.gridEpoch),
    decide (delta.cols ≠ target.effectiveCols ∨ delta.rows ≠ target.effectiveRows),
    decide (delta.baseSeq ≠ base.seq),
    decide (delta.baseSeq.toNat + 1 ≠ delta.seq.toNat)]

def foldDelta (delta : CellGridFrame) : FoldTarget × FrameFoldOutcome :=
  match target.canonical with
  | none => (target, .invalid .deltaUnfollowed)
  | some base =>
    if (target.refusals base delta).any id then (target, .invalid .deltaUnfollowed)
    else
      match base.applyDelta delta with
      | none => (target, .invalid .deltaFoldRejected)
      | some grid => ({ target with canonical := some grid.normalizeCellGridFrame }, .delta delta)

def fold (frame : CellGridFrame) : FoldTarget × FrameFoldOutcome :=
  if frame.full then target.foldFull frame else target.foldDelta frame

/-! ## What one fold can do -/

theorem validFull_expected {target : FoldTarget} {frame : CellGridFrame}
    (h : target.validFull frame = true) :
    target.expectedStreamId = some frame.streamId ∧ frame.cols = target.effectiveCols ∧
      frame.rows = target.effectiveRows := by
  unfold validFull at h
  split at h
  · cases h
  split at h
  · cases h
  rename_i hexpect
  split at h
  · cases h
  · rename_i hsame
    simp only [not_or, not_not] at hsame
    exact ⟨hexpect.trans (congrArg some hsame.1.symm), hsame.2.1, hsame.2.2⟩

/-- A delta the target accepts: the exact successor of what it holds, on the stream and
the geometry it expects. -/
structure Follows (base delta grid : CellGridFrame) : Prop where
  holds : target.canonical = some base
  ready : target.baselineReady = true
  expected : target.expectedStreamId = some delta.streamId
  cols : delta.cols = target.effectiveCols
  rows : delta.rows = target.effectiveRows
  part : delta.full = false
  applies : base.applyDelta delta = some grid

theorem fold_cases (frame : CellGridFrame) :
    (∃ reason, target.fold frame = (target, .invalid reason)) ∨
      (target.validFull frame = true ∧ fullFollowsCanonical target.canonical frame = true ∧
        target.fold frame =
          ({ target with canonical := some frame.normalizeCellGridFrame, baselineReady := true },
            .full)) ∨
      ∃ base grid, target.Follows base frame grid ∧ target.fold frame =
          ({ target with canonical := some grid.normalizeCellGridFrame }, .delta frame) := by
  unfold fold
  split
  · unfold foldFull
    split
    · exact .inl ⟨_, rfl⟩
    rename_i hvalid
    split
    · exact .inl ⟨_, rfl⟩
    rename_i hfollows
    refine .inr (.inl ⟨?_, ?_, rfl⟩)
    · simpa using hvalid
    · simpa using hfollows
  rename_i hpart
  unfold foldDelta
  split
  · exact .inl ⟨_, rfl⟩
  rename_i base hbase
  split
  · exact .inl ⟨_, rfl⟩
  rename_i hfences
  split
  · exact .inl ⟨_, rfl⟩
  rename_i grid hgrid
  simp only [refusals, List.any_cons, List.any_nil, id_eq, Bool.or_false, Bool.or_eq_true,
    not_or, Bool.not_eq_true, Bool.not_eq_false', decide_eq_false_iff_not, not_not]
    at hfences
  obtain ⟨hready, -, hexpect, -, -, ⟨hcols, hrows⟩, -⟩ := hfences
  refine .inr (.inr ⟨base, grid, ?_, rfl⟩)
  exact ⟨hbase, hready, hexpect.symm, hcols, hrows, by simpa using hpart, hgrid⟩

end FoldTarget

/-! ## What a replica is a fold of -/

/-- Fold a delta onto a replica that keeps no history. -/
def extend (held delta : CellGridFrame) : Option CellGridFrame :=
  (held.applyDelta delta).map CellGridFrame.normalizeCellGridFrame

/-- A frame is the fold of a full and the deltas after it, all on one stream, epoch and
geometry, and numbered one after the other. -/
structure FoldsTo (full : CellGridFrame) (deltas : List CellGridFrame) (frame : CellGridFrame) :
    Prop where
  fold : deltas.foldlM extend full.normalizeCellGridFrame = some frame
  parts : ∀ delta ∈ deltas, delta.full = false ∧ delta.streamId = full.streamId ∧
    delta.gridEpoch = full.gridEpoch ∧ delta.cols = full.cols ∧ delta.rows = full.rows
  successors : ∀ (i : Nat) (delta : CellGridFrame), deltas[i]? = some delta →
    delta.baseSeq.toNat = full.seq.toNat + i ∧ delta.seq.toNat = full.seq.toNat + i + 1
  streamId : frame.streamId = full.streamId
  gridEpoch : frame.gridEpoch = full.gridEpoch
  cols : frame.cols = full.cols
  rows : frame.rows = full.rows
  seq : frame.seq.toNat = full.seq.toNat + deltas.length

namespace FoldsTo

theorem baseline (full : CellGridFrame) : FoldsTo full [] full.normalizeCellGridFrame where
  fold := rfl
  parts := List.forall_mem_nil _
  successors := by
    intro i delta h
    cases h
  streamId := rfl
  gridEpoch := rfl
  cols := rfl
  rows := rfl
  seq := rfl

theorem applied {base delta grid : CellGridFrame} (hpart : delta.full = false)
    (happly : base.applyDelta delta = some grid) :
    base.continues delta = true ∧ grid.streamId = delta.streamId ∧
      grid.gridEpoch = delta.gridEpoch ∧ grid.cols = delta.cols ∧ grid.rows = delta.rows ∧
      grid.seq = delta.seq := by
  obtain ⟨hcont, -, rfl⟩ := (CellGridFrame.applyDelta_eq_some hpart).mp happly
  exact ⟨hcont, rfl, rfl, rfl, rfl, rfl⟩

theorem delta {full base next grid : CellGridFrame} {deltas : List CellGridFrame}
    (h : FoldsTo full deltas base) (hpart : next.full = false)
    (happly : base.applyDelta next = some grid) :
    FoldsTo full (deltas ++ [next]) grid.normalizeCellGridFrame := by
  obtain ⟨hcont, hstr, hepoch, hcols, hrows, hseq⟩ := applied hpart happly
  simp only [CellGridFrame.continues, decide_eq_true_eq] at hcont
  obtain ⟨hnext, hnextBase, hnextSeq, hnextEp, hnextCols, hnextRows, -⟩ := hcont
  have hbase : next.baseSeq.toNat = full.seq.toNat + deltas.length := by
    rw [hnextBase, h.seq]
  refine ⟨?_, ?_, ?_, ?_, ?_, ?_, ?_, ?_⟩
  · simp [List.foldlM_append, h.fold, extend, happly]
  · intro delta hmem
    rcases List.mem_append.mp hmem with hold | hnew
    · exact h.parts delta hold
    rw [List.mem_singleton] at hnew
    subst hnew
    exact ⟨hpart, hnext.trans h.streamId, hnextEp.trans h.gridEpoch,
      hnextCols.trans h.cols, hnextRows.trans h.rows⟩
  · intro i delta hdelta
    rcases Nat.lt_trichotomy i deltas.length with hlt | heq | hgt
    · rw [List.getElem?_append_left hlt] at hdelta
      exact h.successors i delta hdelta
    · subst heq
      rw [List.getElem?_append_right (Nat.le_refl _), Nat.sub_self] at hdelta
      cases hdelta
      exact ⟨hbase, by omega⟩
    have hend : (deltas ++ [next]).length ≤ i := by
      rw [List.length_append]
      exact hgt
    rw [List.getElem?_eq_none hend] at hdelta
    cases hdelta
  · exact hstr.trans (hnext.trans h.streamId)
  · exact hepoch.trans (hnextEp.trans h.gridEpoch)
  · exact hcols.trans (hnextCols.trans h.cols)
  · exact hrows.trans (hnextRows.trans h.rows)
  · rw [List.length_append, List.length_singleton]
    change grid.seq.toNat = _
    rw [hseq]
    omega

end FoldsTo

end Roost.Client
