-- SUMMARY: The plain sums of the cell contract, and the inputs that overflow them.
import Roost.Cell.Columns
import Roost.Cell.Proto

/-!
# Checked sums

The identity check and the column walk, with each plain sum of the source evaluated only where it
fits its type. Nothing is the overflow.
-/

namespace Roost.Cell

open List

/-- A `u64` sum where it fits. -/
def checkedAdd64 (a b : UInt64) : Option UInt64 :=
  if a.toNat + b.toNat < 2 ^ 64 then some (a + b) else none

/-- A `u32` sum where it fits. -/
def checkedAdd32 (a b : UInt32) : Option UInt32 :=
  if a.toNat + b.toNat < 2 ^ 32 then some (a + b) else none

/-- The frames the identity check gets as far as its sum with: earlier refusals and a full frame
return before. -/
def comparesSeq (frame : PbCellGridFrame) : Bool :=
  isTerminalUuid frame.streamId && !frame.gridEpoch.isEmpty && !decide (frame.seq < 1) &&
    !frame.full

def checkedFrameSequence (frame : PbCellGridFrame) : Option (ProtocolResult Unit) :=
  if comparesSeq frame then
    (checkedAdd64 frame.baseSeq 1).map fun next =>
      if frame.seq ≠ next then
        .error { field := "cell.seq"
                 reason := "cell delta seq " ++ toString frame.seq ++
                  " does not follow base_seq " ++ toString frame.baseSeq }
      else .ok ()
  else some (assertFrameSequence frame)

def checkedColumnsFrom (offset : Nat) : Nat → UInt32 → List CellSpan → Option (UInt32 × UInt32)
  | _, col, [] => some (col, col)
  | at_, col, span :: spans =>
    if offset = at_ then some (col, col)
    else
      let next := at_ + scalarCount span
      if offset < next then
        if spanIsAtomic span then (checkedAdd32 col span.columns).map fun last => (col, last)
        else
          (checkedAdd32 col (UInt32.ofNat (offset - at_))).map fun inside => (inside, inside)
      else checkedColumnsFrom offset next (saturatingAdd32 col span.columns) spans

def checkedColumnsAtOffset (spans : List CellSpan) (offset : Nat) : Option (UInt32 × UInt32) :=
  checkedColumnsFrom offset 0 0 spans

theorem checkedFrameSequence_eq {frame : PbCellGridFrame} {result : ProtocolResult Unit}
    (h : checkedFrameSequence frame = some result) : result = assertFrameSequence frame := by
  unfold checkedFrameSequence checkedAdd64 at h
  split at h
  · rename_i hreach
    simp only [comparesSeq, Bool.and_eq_true, Bool.not_eq_true', decide_eq_false_iff_not] at hreach
    split at h
    · simp [assertFrameSequence, assertFrameIdentity, hreach, ← Option.some.inj h]
    · cases h
  · exact (Option.some.inj h).symm

theorem checkedColumnsFrom_eq {offset at_ : Nat} {col : UInt32} {spans : List CellSpan}
    {columns : UInt32 × UInt32} (h : checkedColumnsFrom offset at_ col spans = some columns) :
    columns = columnsFrom offset at_ col spans := by
  induction spans generalizing at_ col with
  | nil => exact (Option.some.inj h).symm
  | cons span spans ih =>
    unfold checkedColumnsFrom checkedAdd32 at h
    rw [columnsFrom]
    dsimp only at h ⊢
    split_ifs at h ⊢
    all_goals first | exact ih h | exact (Option.some.inj h).symm | cases h

def scalars (spans : List CellSpan) : Nat := (spans.map scalarCount).sum

/-- An offset falls inside a span whose end, or whose column there, is past the largest `u32`; the
columns before the span stop at it. -/
def PassesMax (spans : List CellSpan) (col : Nat) (offset : Nat) : Prop :=
  ∃ before span after, spans = before ++ span :: after ∧ scalars before < offset ∧
    offset < scalars before + scalarCount span ∧
    2 ^ 32 ≤ min (col + width before) (2 ^ 32 - 1) +
      if spanIsAtomic span then span.columns.toNat else offset - scalars before

theorem checkedAdd32_eq_none {a b : UInt32} :
    checkedAdd32 a b = none ↔ 2 ^ 32 ≤ a.toNat + b.toNat := by
  rw [checkedAdd32, ite_eq_right_iff]
  simp

theorem passesMax_cons {span : CellSpan} {spans : List CellSpan} {col offset : Nat} :
    PassesMax (span :: spans) col offset ↔
      (0 < offset ∧ offset < scalarCount span ∧ 2 ^ 32 ≤ min col (2 ^ 32 - 1) +
        if spanIsAtomic span then span.columns.toNat else offset) ∨
      (scalarCount span ≤ offset ∧
        PassesMax spans (col + span.columns.toNat) (offset - scalarCount span)) := by
  constructor
  · rintro ⟨before, inner, after, heq, hpre, hafter, hmax⟩
    cases before with
    | nil =>
      obtain ⟨rfl, rfl⟩ := cons.inj heq
      have hhere := And.intro hpre (And.intro hafter hmax)
      exact .inl (by simpa [scalars, width] using hhere)
    | cons first before =>
      obtain ⟨rfl, rfl⟩ := cons.inj heq
      simp only [scalars, width, map_cons, sum_cons, ← Nat.add_assoc] at hpre hafter hmax
      refine .inr ⟨by omega, before, inner, after, rfl, ?_, ?_, ?_⟩
      all_goals simp only [scalars, width, Nat.sub_sub]; omega
  · rintro (⟨hpre, hafter, hmax⟩ | ⟨hle, before, inner, after, rfl, hpre, hafter, hmax⟩)
    · have hhere := And.intro hpre (And.intro hafter hmax)
      exact ⟨[], span, spans, rfl, by simpa [scalars, width] using hhere⟩
    · refine ⟨span :: before, inner, after, rfl, ?_⟩
      simp only [scalars, width, map_cons, sum_cons, Nat.sub_sub] at hpre hafter hmax ⊢
      omega

theorem checkedColumnsFrom_eq_none {at_ inside : Nat} {col : UInt32} {spans : List CellSpan}
    {before : Nat} (hcol : col.toNat = min before (2 ^ 32 - 1)) :
    checkedColumnsFrom (at_ + inside) at_ col spans = none ↔ PassesMax spans before inside := by
  induction spans generalizing at_ col inside before with
  | nil =>
    refine iff_of_false nofun ?_
    rintro ⟨before, span, after, heq, -⟩
    simp at heq
  | cons span spans ih =>
    rw [checkedColumnsFrom, passesMax_cons]
    dsimp only
    by_cases hstart : inside = 0
    · refine iff_of_false (by simp [hstart]) ?_
      rintro (⟨hpos, -⟩ | ⟨hempty, _, _, _, -, hpos, -⟩) <;> omega
    by_cases hinside : inside < scalarCount span
    · rw [if_neg (by omega), if_pos (by omega)]
      cases hatomic : spanIsAtomic span with
      | true =>
        simp only [if_true, Option.map_eq_none_iff, checkedAdd32_eq_none, hcol]
        omega
      | false =>
        have hrun := run_columns hatomic
        have hmax := span.columns.toNat_lt
        simp only [Bool.false_eq_true, if_false, Option.map_eq_none_iff, checkedAdd32_eq_none,
          hcol, UInt32.toNat_ofNat', Nat.add_sub_cancel_left]
        omega
    · have hnext : (saturatingAdd32 col span.columns).toNat =
          min (before + span.columns.toNat) (2 ^ 32 - 1) := by
        rw [saturatingAdd32_toNat]
        omega
      have hrest := @ih (at_ + scalarCount span) (inside - scalarCount span) _ _ hnext
      rw [show at_ + scalarCount span + (inside - scalarCount span) = at_ + inside by omega] at hrest
      rw [if_neg (by omega), if_neg (by omega), hrest]
      simp [hinside]
      omega

/-- The identity check overflows on a delta from the largest base sequence it gets to compare, and
a column walk where a span passes the largest column, and nowhere else. -/
theorem sums_overflow_iff (frame : PbCellGridFrame) (spans : List CellSpan) (offset : Nat) :
    (checkedFrameSequence frame = some (assertFrameSequence frame) ↔
        ¬(comparesSeq frame = true ∧ frame.baseSeq.toNat = 2 ^ 64 - 1)) ∧
      (checkedColumnsAtOffset spans offset = some (columnsAtOffset spans offset) ↔
        ¬PassesMax spans 0 offset) := by
  constructor
  · have hmax := frame.baseSeq.toNat_lt
    have hone : (1 : UInt64).toNat = 1 := rfl
    constructor
    · rintro h ⟨hreach, hbase⟩
      rw [checkedFrameSequence, if_pos hreach, checkedAdd64, if_neg (by omega)] at h
      cases h
    intro h
    cases hcheck : checkedFrameSequence frame with
    | some => rw [checkedFrameSequence_eq hcheck]
    | none =>
      simp only [checkedFrameSequence, checkedAdd64] at hcheck
      split at hcheck
      · split at hcheck
        · cases hcheck
        · exact absurd ⟨‹_›, by omega⟩ h
      · cases hcheck
  · have hnone := @checkedColumnsFrom_eq_none 0 offset 0 spans 0 rfl
    rw [Nat.zero_add] at hnone
    rw [← hnone, checkedColumnsAtOffset]
    cases hcheck : checkedColumnsFrom offset 0 0 spans with
    | some => simp [columnsAtOffset, checkedColumnsFrom_eq hcheck]
    | none => simp

/-- A delta from base sequence 2^64 - 1, and a history row whose second span is a run. -/
theorem wire_sums_overflow :
    let frame : PbCellGridFrame := { streamId := "00000000-0000-4000-8000-000000000001"
                                     gridEpoch := "epoch", baseSeq := 0xffffffffffffffff, seq := 1 }
    let row : PbCellRow := { spans := [{ text := "a", columns := 0xffffffff },
                                       { text := "bc", columns := 2 }] }
    checkedFrameSequence frame = none ∧ ((cellRowFromProtoBounded row 0).toOption.map fun row =>
        checkedColumnsAtOffset row.spans 2) = some none := by
  decide +kernel

end Roost.Cell
