-- SUMMARY: The columns a range of a row's scalars covers, and the cells behind it.
import Mathlib.Algebra.Ring.Nat
import Roost.Cell.Types

/-!
# Text and columns

A row is read as text and pointed at by grid columns. An atomic span is one cell whose text is
painted whole, so an offset inside it starts at its first column and ends past all of them.
-/

namespace Roost.Cell

def scalarCount (span : CellSpan) : Nat := span.text.toList.length

/-- A scalar that combines with its neighbours, or lies beyond the plain ones. -/
def joinsGrapheme (character : Char) : Bool :=
  let scalar := character.toNat
  decide (0xffff < scalar) ||
    decide (0x0300 ≤ scalar ∧ scalar ≤ 0x036f) ||
    decide (0x1ab0 ≤ scalar ∧ scalar ≤ 0x1aff) ||
    decide (0x1dc0 ≤ scalar ∧ scalar ≤ 0x1dff) ||
    decide (0x20d0 ≤ scalar ∧ scalar ≤ 0x20ff) ||
    decide (0xfe00 ≤ scalar ∧ scalar ≤ 0xfe0f) ||
    decide (0xfe20 ≤ scalar ∧ scalar ≤ 0xfe2f) ||
    decide (0xe0100 ≤ scalar ∧ scalar ≤ 0xe01ef) ||
    decide (0x1f1e6 ≤ scalar ∧ scalar ≤ 0x1f1ff) ||
    decide (0x200c ≤ scalar ∧ scalar ≤ 0x200d) ||
    decide (0x1f3fb ≤ scalar ∧ scalar ≤ 0x1f3ff)

/-- Whether the span is one grid cell whose text must be painted and selected whole. -/
def spanIsAtomic (span : CellSpan) : Bool :=
  if span.columns.toNat ≠ scalarCount span then true
  else span.text.toList.any joinsGrapheme

/-- Row text as painted: continuation columns contribute nothing. -/
def spansText (spans : List CellSpan) : String := String.join (spans.map (·.text))

/-- A `u32` sum that stops at the largest value. -/
def saturatingAdd32 (a b : UInt32) : UInt32 :=
  if a.toNat + b.toNat < 2 ^ 32 then a + b else 0xffffffff

def columnsFrom (offset : Nat) : Nat → UInt32 → List CellSpan → UInt32 × UInt32
  | _, col, [] => (col, col)
  | at_, col, span :: spans =>
    if offset = at_ then (col, col)
    else
      let next := at_ + scalarCount span
      if offset < next then
        if spanIsAtomic span then (col, col + span.columns)
        else
          let inside := col + UInt32.ofNat (offset - at_)
          (inside, inside)
      else columnsFrom offset next (saturatingAdd32 col span.columns) spans

variable (spans : List CellSpan)

/-- The start and exclusive-end columns of one scalar offset, from one walk. -/
def columnsAtOffset (offset : Nat) : UInt32 × UInt32 :=
  columnsFrom offset 0 0 spans

def textOffsetToColumn (offset : Nat) : UInt32 :=
  (columnsAtOffset spans offset).1

/-- One past the last column a range ending at a scalar offset covers. -/
def textOffsetToColumnEnd (offset : Nat) : UInt32 :=
  (columnsAtOffset spans offset).2

structure ColumnRange where
  col : UInt32
  columns : UInt32

def textRangeToColumns (offset length : Nat) : ColumnRange :=
  let col := textOffsetToColumn spans offset
  if length = 0 then { col, columns := 0 }
  else
    let last := textOffsetToColumnEnd spans (offset + length)
    { col, columns := max (if last < col then 0 else last - col) 1 }

def columnSpanFrom (col : Int) : Int → List CellSpan → Option (CellSpan × UInt32)
  | _, [] => none
  | at_, span :: spans =>
    let next := at_ + span.columns.toNat
    if col < next then some (span, UInt32.ofNat (col - at_).toNat)
    else columnSpanFrom col next spans

/-- The span painted at a grid column with the column's offset inside it. -/
def columnSpan (spans : List CellSpan) (col : Int) : Option (CellSpan × UInt32) :=
  if col < 0 then none else columnSpanFrom col 0 spans

/-- Text painted at a grid column: the whole glyph for an atomic span, one character of a run. -/
def columnText (spans : List CellSpan) (col : Int) : String :=
  match columnSpan spans col with
  | none => ""
  | some (span, offset) =>
    if spanIsAtomic span then span.text
    else
      match span.text.toList[offset.toNat]? with
      | some character => String.singleton character
      | none => ""

/-! ## Painted cells -/

/-- The cell that paints a scalar: the scalar's span, and the columns the cell takes. -/
structure PaintedCell where
  span : CellSpan
  scalar : Char
  col : Nat
  columns : Nat
  deriving DecidableEq

def PaintedCell.stop (cell : PaintedCell) : Nat := cell.col + cell.columns

/-- For each scalar of a row from a column on, the cell that paints it: the span's own cell if it
is atomic, one column of a run otherwise. -/
def paintedCells : Nat → List CellSpan → List PaintedCell
  | _, [] => []
  | col, span :: spans =>
    span.text.toList.mapIdx (fun inside scalar =>
      { span, scalar
        col := if spanIsAtomic span then col else col + inside
        columns := if spanIsAtomic span then span.columns.toNat else 1 }) ++
    paintedCells (col + span.columns.toNat) spans

/-- What the decoder admits of a row: every span has text and a column. -/
def Painted (spans : List CellSpan) : Prop :=
  ∀ span ∈ spans, span.text ≠ "" ∧ 1 ≤ span.columns

def width (spans : List CellSpan) : Nat := (spans.map fun span => span.columns.toNat).sum

variable {span : CellSpan} {spans : List CellSpan} {cell : PaintedCell} {at_ col inside : Nat}

theorem run_columns (h : spanIsAtomic span = false) : span.columns.toNat = scalarCount span := by
  unfold spanIsAtomic at h
  split at h
  · cases h
  · rename_i heq
    exact not_not.mp heq

theorem paintedCells_scalars (col : Nat) (spans : List CellSpan) :
    (paintedCells col spans).map PaintedCell.scalar =
      (spans.map fun span => span.text.toList).flatten := by
  induction spans generalizing col with
  | nil => rfl
  | cons span spans ih =>
    rw [paintedCells, List.map_append, ih, List.map_cons, List.flatten_cons]
    congr 1
    refine List.ext_getElem? fun i => ?_
    cases hscalar : span.text.toList[i]? <;> simp [hscalar]

theorem paintedCells_cons (h : (paintedCells col (span :: spans))[inside]? = some cell) :
    inside < scalarCount span ∧ span.text.toList[inside]? = some cell.scalar ∧ cell.span = span ∧
        cell.col = (if spanIsAtomic span then col else col + inside) ∧
        cell.columns = (if spanIsAtomic span then span.columns.toNat else 1) ∨
      scalarCount span ≤ inside ∧
        (paintedCells (col + span.columns.toNat) spans)[inside - scalarCount span]? =
          some cell := by
  rw [paintedCells, List.getElem?_append, List.length_mapIdx] at h
  split at h
  · rename_i hinside
    rw [List.getElem?_mapIdx] at h
    obtain ⟨_, hscalar, rfl⟩ := Option.map_eq_some_iff.mp h
    exact .inl ⟨hinside, hscalar, rfl, rfl, rfl⟩
  · rename_i hpast
    exact .inr ⟨Nat.le_of_not_lt hpast, h⟩

theorem saturatingAdd32_toNat (a b : UInt32) :
    (saturatingAdd32 a b).toNat = min (a.toNat + b.toNat) (2 ^ 32 - 1) := by
  unfold saturatingAdd32
  split
  · rw [UInt32.toNat_add]
    omega
  · rw [show (0xffffffff : UInt32).toNat = 2 ^ 32 - 1 from rfl]
    omega

theorem max_one {a : UInt32} (h : 1 ≤ a) : max a 1 = a := by
  change (if a ≤ 1 then 1 else a) = a
  split
  · exact UInt32.le_antisymm h ‹_›
  · rfl

theorem scalarCount_pos (h : span.text ≠ "") : 0 < scalarCount span :=
  List.length_pos_of_ne_nil fun hnil => h (String.toList_eq_nil_iff.mp hnil)

section Walk

variable {start : UInt32} (hpainted : Painted spans) (hfits : start.toNat + width spans < 2 ^ 32)
include hpainted hfits

theorem columnsFrom_start (hcell : (paintedCells start.toNat spans)[inside]? = some cell) :
    (columnsFrom (at_ + inside) at_ start spans).1.toNat = cell.col := by
  induction spans generalizing at_ start inside with
  | nil => cases hcell
  | cons span spans ih =>
    have hspan := hpainted span List.mem_cons_self
    have hcount := scalarCount_pos hspan.1
    simp only [width, List.map_cons, List.sum_cons] at hfits ih
    have hnext : (saturatingAdd32 start span.columns).toNat = start.toNat + span.columns.toNat := by
      rw [saturatingAdd32_toNat]
      omega
    rw [columnsFrom]
    rcases paintedCells_cons hcell with ⟨hinside, -, -, hcol, -⟩ | ⟨hpast, hlater⟩
    · rw [hcol]
      split
      · rw [show inside = 0 by omega, Nat.add_zero, ite_self]
      dsimp only
      rw [if_pos (by omega)]
      cases hatomic : spanIsAtomic span with
      | true => rfl
      | false =>
        have hrun := run_columns hatomic
        simp only [Bool.false_eq_true, if_false, UInt32.toNat_add, UInt32.toNat_ofNat',
          Nat.add_sub_cancel_left]
        omega
    · rw [if_neg (by omega)]
      dsimp only
      rw [if_neg (by omega), ← @ih (at_ + scalarCount span) _ _
        (fun other hmem => hpainted other (List.mem_cons_of_mem _ hmem)) (by omega) (hnext ▸ hlater)]
      congr 3
      omega

theorem columnsFrom_stop (hcell : (paintedCells start.toNat spans)[inside]? = some cell) :
    (columnsFrom (at_ + inside + 1) at_ start spans).2.toNat = cell.stop := by
  induction spans generalizing at_ start inside with
  | nil => cases hcell
  | cons span spans ih =>
    have hspan := hpainted span List.mem_cons_self
    have hcount := scalarCount_pos hspan.1
    simp only [width, List.map_cons, List.sum_cons] at hfits ih
    have hnext : (saturatingAdd32 start span.columns).toNat = start.toNat + span.columns.toNat := by
      rw [saturatingAdd32_toNat]
      omega
    rw [columnsFrom, if_neg (by omega)]
    dsimp only
    rcases paintedCells_cons hcell with ⟨hinside, -, -, hcol, hcolumns⟩ | ⟨hpast, hlater⟩
    · rw [PaintedCell.stop, hcol, hcolumns]
      have hrun := @run_columns span
      split
      · cases hatomic : spanIsAtomic span with
        | true =>
          simp only [if_true, UInt32.toNat_add]
          omega
        | false =>
          simp only [Bool.false_eq_true, if_false, UInt32.toNat_add, UInt32.toNat_ofNat']
          have := hrun hatomic
          omega
      -- The span's last scalar: the next span starts where it ends.
      have hlast : at_ + inside + 1 = at_ + scalarCount span := by omega
      have hend : (columnsFrom (at_ + inside + 1) (at_ + scalarCount span)
          (saturatingAdd32 start span.columns) spans).2 = saturatingAdd32 start span.columns := by
        cases spans with
        | nil => rfl
        | cons => rw [columnsFrom, if_pos hlast]
      rw [hend, hnext]
      cases hatomic : spanIsAtomic span with
      | true => rfl
      | false =>
        have := hrun hatomic
        simp only [Bool.false_eq_true, if_false]
        omega
    · rw [if_neg (by omega), ← @ih (at_ + scalarCount span) _ _
        (fun other hmem => hpainted other (List.mem_cons_of_mem _ hmem)) (by omega) (hnext ▸ hlater)]
      congr 3
      omega

end Walk

section

variable (hpainted : Painted spans)
include hpainted

theorem paintedCells_bounds (h : (paintedCells col spans)[inside]? = some cell) :
    col ≤ cell.col ∧ cell.col < cell.stop := by
  induction spans generalizing col inside with
  | nil => cases h
  | cons span spans ih =>
    have hcolumns : 0 < span.columns.toNat := (hpainted span List.mem_cons_self).2
    rcases paintedCells_cons h with ⟨-, -, -, hcol, hwidth⟩ | ⟨-, hlater⟩
    · rw [PaintedCell.stop, hcol, hwidth]
      split <;> omega
    · have hbounds := ih (fun other hmem => hpainted other (List.mem_cons_of_mem _ hmem)) hlater
      exact ⟨(Nat.le_add_right _ _).trans hbounds.1, hbounds.2⟩

theorem paintedCells_first (h : (paintedCells col spans)[0]? = some cell) : cell.col = col := by
  cases spans with
  | nil => cases h
  | cons span spans =>
    have hcount := scalarCount_pos (hpainted span List.mem_cons_self).1
    rcases paintedCells_cons h with ⟨-, -, -, hcol, -⟩ | ⟨hpast, -⟩
    · rw [hcol, Nat.add_zero, ite_self]
    · omega

theorem columnSpanFrom_cell (h : (paintedCells col spans)[inside]? = some cell) :
    ∃ offset, columnSpanFrom cell.col col spans = some (cell.span, offset) ∧
      cell.scalar ∈ cell.span.text.toList ∧ (spanIsAtomic cell.span = false →
        cell.span.text.toList[offset.toNat]? = some cell.scalar) := by
  induction spans generalizing col inside with
  | nil => cases h
  | cons span spans ih =>
    have hcolumns : 0 < span.columns.toNat := (hpainted span List.mem_cons_self).2
    have hmax := span.columns.toNat_lt
    rw [columnSpanFrom]
    rcases paintedCells_cons h with ⟨hinside, hscalar, hspan, hcol, -⟩ | ⟨-, hlater⟩
    · have hmem := List.mem_of_getElem? hscalar
      rw [hspan, hcol]
      cases hatomic : spanIsAtomic span with
      | true =>
        simp only [if_true]
        rw [if_pos (by omega)]
        exact ⟨_, rfl, hmem, nofun⟩
      | false =>
        have hrun := run_columns hatomic
        simp only [Bool.false_eq_true, if_false]
        rw [if_pos (by omega)]
        refine ⟨_, rfl, hmem, fun _ => ?_⟩
        rw [UInt32.toNat_ofNat', ← hscalar]
        congr 1
        omega
    · have hrest : Painted spans := fun other hmem => hpainted other (List.mem_cons_of_mem _ hmem)
      have hle := (paintedCells_bounds hrest hlater).1
      rw [if_neg (by omega)]
      exact_mod_cast ih hrest hlater

theorem columnText_cell (h : (paintedCells 0 spans)[inside]? = some cell) :
    columnText spans cell.col =
        (if spanIsAtomic cell.span then cell.span.text else String.singleton cell.scalar) ∧
      cell.scalar ∈ (columnText spans cell.col).toList := by
  obtain ⟨offset, hspan, hmem, hscalar⟩ := columnSpanFrom_cell hpainted h
  rw [columnText, columnSpan, if_neg (by omega)]
  change columnSpanFrom cell.col 0 spans = _ at hspan
  rw [hspan]
  cases hatomic : spanIsAtomic cell.span with
  | true => simpa [hatomic] using hmem
  | false => simp [hatomic, hscalar hatomic]

end

/-! ## Ranges -/

/-- The second cell is the first, as an atomic span's next scalar has it, or starts where it ends. -/
def Adjoins (first second : PaintedCell) : Prop :=
  second.col = first.col ∧ second.columns = first.columns ∨ second.col = first.stop

theorem paintedCells_adjoin {next : PaintedCell} (hpainted : Painted spans)
    (h : (paintedCells col spans)[inside]? = some cell)
    (hnext : (paintedCells col spans)[inside + 1]? = some next) : Adjoins cell next := by
  induction spans generalizing col inside with
  | nil => cases h
  | cons span spans ih =>
    have hrun := @run_columns span
    rcases paintedCells_cons hnext with ⟨hinside, -, -, hcol, hcolumns⟩ | ⟨hpast, hlater⟩
    · rcases paintedCells_cons h with ⟨-, -, -, hcol', hcolumns'⟩ | ⟨hpast, -⟩
      · rw [Adjoins, PaintedCell.stop, hcol, hcolumns, hcol', hcolumns']
        split
        · exact .inl ⟨rfl, rfl⟩
        · exact .inr (Nat.add_assoc _ _ _).symm
      · omega
    rcases paintedCells_cons h with ⟨hinside, -, -, hcol', hcolumns'⟩ | ⟨hpast', hlater'⟩
    · -- The last cell of a span, and the first one of the next.
      rw [show inside + 1 - scalarCount span = 0 by omega] at hlater
      refine .inr ?_
      rw [paintedCells_first (fun other hmem => hpainted other (List.mem_cons_of_mem _ hmem))
        hlater, PaintedCell.stop, hcol', hcolumns']
      cases hatomic : spanIsAtomic span with
      | true => rfl
      | false =>
        have := hrun hatomic
        simp only [Bool.false_eq_true, if_false]
        omega
    · rw [show inside + 1 - scalarCount span = inside - scalarCount span + 1 by omega] at hlater
      exact ih (fun other hmem => hpainted other (List.mem_cons_of_mem _ hmem)) hlater' hlater

theorem paintedCells_range {offset count : Nat} {first last : PaintedCell}
    (hpainted : Painted spans) (hfirst : (paintedCells col spans)[offset]? = some first)
    (hlast : (paintedCells col spans)[offset + count]? = some last) :
    first.col ≤ last.col ∧ ∀ column, (first.col ≤ column ∧ column < last.stop) ↔
      ∃ scalar cell, offset ≤ scalar ∧ scalar ≤ offset + count ∧
        (paintedCells col spans)[scalar]? = some cell ∧ cell.col ≤ column ∧ column < cell.stop := by
  induction count generalizing last with
  | zero =>
    obtain rfl := Option.some.inj (hfirst.symm.trans hlast)
    refine ⟨le_rfl, fun column => ⟨fun h => ⟨offset, first, le_rfl, le_rfl, hfirst, h⟩, ?_⟩⟩
    rintro ⟨scalar, cell, hle, hge, hcell, h⟩
    obtain rfl : scalar = offset := by omega
    rwa [Option.some.inj (hfirst.symm.trans hcell)]
  | succ count ih =>
    have hsome : offset + count < (paintedCells col spans).length := by
      have := (List.getElem?_eq_some_iff.mp hlast).1
      omega
    have hmiddle := List.getElem?_eq_getElem hsome
    have hadjoin := paintedCells_adjoin hpainted hmiddle hlast
    have hpre := ih hmiddle
    have hbounds := (paintedCells_bounds hpainted hmiddle).2
    generalize (paintedCells col spans)[offset + count] = middle at hmiddle hadjoin hpre hbounds
    obtain ⟨hle, hcover⟩ := hpre
    have hlastBounds := (paintedCells_bounds hpainted hlast).2
    unfold Adjoins PaintedCell.stop at *
    refine ⟨by omega, fun column => ⟨fun h => ?_, ?_⟩⟩
    · by_cases hearlier : column < middle.col + middle.columns
      · obtain ⟨scalar, cell, hge, hscalar, hcell⟩ := (hcover column).mp ⟨h.1, hearlier⟩
        exact ⟨scalar, cell, hge, by omega, hcell⟩
      · exact ⟨_, last, by omega, le_rfl, hlast, by omega⟩
    rintro ⟨scalar, cell, hge, hscalar, hcell, hin⟩
    by_cases hearlier : scalar ≤ offset + count
    · have := (hcover column).mpr ⟨scalar, cell, hge, hearlier, hcell, hin⟩
      omega
    · rw [show scalar = offset + (count + 1) by omega, hlast] at hcell
      cases hcell
      omega

/-- Ranges cover exactly the columns of the cells that paint them, and the text at a scalar's
column is its glyph, or the scalar itself in a run. -/
theorem column_mapping_exact (hpainted : Painted spans) (hfits : width spans < 2 ^ 32) :
    (paintedCells 0 spans).map PaintedCell.scalar =
        (spans.map fun span => span.text.toList).flatten ∧
      (∀ offset length, 1 ≤ length → offset + length ≤ (paintedCells 0 spans).length →
        ∀ column, ((textRangeToColumns spans offset length).col.toNat ≤ column ∧
            column < (textRangeToColumns spans offset length).col.toNat +
              (textRangeToColumns spans offset length).columns.toNat) ↔
          ∃ scalar cell, offset ≤ scalar ∧ scalar < offset + length ∧
            (paintedCells 0 spans)[scalar]? = some cell ∧ cell.col ≤ column ∧ column < cell.stop) ∧
      ∀ scalar cell, (paintedCells 0 spans)[scalar]? = some cell →
        columnText spans (textOffsetToColumn spans scalar).toNat =
            (if spanIsAtomic cell.span then cell.span.text else String.singleton cell.scalar) ∧
          cell.scalar ∈ (columnText spans (textOffsetToColumn spans scalar).toNat).toList := by
  have hstart : (0 : UInt32).toNat + width spans < 2 ^ 32 := by simpa using hfits
  have hcol : ∀ {scalar cell}, (paintedCells 0 spans)[scalar]? = some cell →
      (textOffsetToColumn spans scalar).toNat = cell.col := fun {scalar cell} hcell => by
    have := @columnsFrom_start spans cell 0 scalar 0 hpainted hstart hcell
    rwa [Nat.zero_add] at this
  refine ⟨paintedCells_scalars 0 spans, fun offset length hlength hend column => ?_,
    fun scalar cell hcell => ?_⟩
  · obtain ⟨count, rfl⟩ : ∃ count, length = count + 1 := ⟨length - 1, by omega⟩
    obtain ⟨first, hfirst⟩ : ∃ first, (paintedCells 0 spans)[offset]? = some first :=
      ⟨_, List.getElem?_eq_getElem (by omega)⟩
    obtain ⟨last, hlast⟩ : ∃ last, (paintedCells 0 spans)[offset + count]? = some last :=
      ⟨_, List.getElem?_eq_getElem (by omega)⟩
    obtain ⟨hle, hcover⟩ := paintedCells_range hpainted hfirst hlast
    have hbounds := (paintedCells_bounds hpainted hlast).2
    have hstop := @columnsFrom_stop spans last 0 (offset + count) 0 hpainted hstart hlast
    rw [Nat.zero_add] at hstop
    have hrange : (textRangeToColumns spans offset (count + 1)).col.toNat = first.col ∧
        (textRangeToColumns spans offset (count + 1)).columns.toNat = last.stop - first.col := by
      rw [textRangeToColumns, if_neg (Nat.succ_ne_zero count)]
      refine ⟨hcol hfirst, ?_⟩
      have hlt : textOffsetToColumn spans offset ≤
          textOffsetToColumnEnd spans (offset + (count + 1)) := by
        rw [UInt32.le_iff_toNat_le, hcol hfirst]
        exact hstop ▸ (hle.trans_lt hbounds).le
      have hsub := UInt32.toNat_sub_of_le _ _ hlt
      rw [hcol hfirst, show (textOffsetToColumnEnd spans (offset + (count + 1))).toNat = last.stop
        from hstop] at hsub
      dsimp only
      have hpos : 1 ≤ textOffsetToColumnEnd spans (offset + (count + 1)) -
          textOffsetToColumn spans offset := by
        rw [UInt32.le_iff_toNat_le, hsub]
        exact Nat.sub_pos_of_lt (hle.trans_lt hbounds)
      rw [if_neg (UInt32.not_lt.mpr hlt), max_one hpos, hsub]
    rw [hrange.1, hrange.2, Nat.add_sub_cancel' (hle.trans hbounds.le), hcover]
    simp only [Nat.lt_succ_iff, ← Nat.add_assoc]
  · rw [hcol hcell]
    exact columnText_cell hpainted hcell

/-- A span with no colours and no link. -/
def plainSpan (text : String) (columns : UInt32) : CellSpan where
  text
  fg := 0
  bg := 0
  flags := 0
  fgRgb := none
  bgRgb := none
  columns
  linkUri := none
  linkKey := none

theorem column_mapping_exact_wide :
    let row := [plainSpan "ab" 2, plainSpan "中" 2]
    columnText row (textOffsetToColumn row 2).toNat = "中" :=
  ((column_mapping_exact (by unfold Painted; decide +kernel) (by decide)).2.2 2
    ⟨plainSpan "中" 2, '中', 2, 2⟩ (by decide +kernel)).1

end Roost.Cell
