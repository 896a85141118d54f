-- SUMMARY: Absolute history intervals, and the rows one scrollback demand asks for.
import Mathlib.Data.List.Sort

/-!
# History ranges

A renderer owns the painted rows. From their indices and the history total these functions say
which absolute rows are missing, so that a pager asks for exactly those. One wave fetches a page of
a missing interval, above the floor the worker has proven and on one side of the painted base. Row
numbers stay a page below the largest `u32`, so no sum wraps.
-/

namespace Roost.Client

open List

/-- A half-open absolute interval `[start, stop)` of history rows. -/
structure HistoryRange where
  start : Nat
  stop : Nat

def HistoryRange.Holds (range : HistoryRange) (row : Nat) : Prop :=
  range.start ≤ row ∧ row < range.stop

def isHistoryRange (total start stop : Nat) : Bool := decide (start < stop) && decide (stop ≤ total)

/-- The loop of `hasSortedHistoryRows`, behind the row read last. -/
def sortedAfter (total : Nat) : Option Nat → List Nat → Bool
  | _, [] => true
  | previous, row :: rows =>
    if total ≤ row then false
    else if previous.any fun value => decide (row ≤ value) then false
    else sortedAfter total (some row) rows

def hasSortedHistoryRows (rows : List Nat) (total : Nat) : Bool := sortedAfter total none rows

def insertionLoop (rows : List Nat) (index low high : Nat) (bound : high ≤ rows.length) : Nat :=
  if h : low < high then
    have hmiddle : low + (high - low) / 2 < rows.length := by omega
    if rows[low + (high - low) / 2] < index then
      insertionLoop rows index (low + (high - low) / 2 + 1) high bound
    else insertionLoop rows index low (low + (high - low) / 2) hmiddle.le
  else low
termination_by high - low

/-- Lower-bound position for one absolute row in sorted painted history. -/
def insertionIndex (rows : List Nat) (index : Nat) : Nat :=
  insertionLoop rows index 0 rows.length le_rfl

/-- The missing half-open interval containing a row, or nothing when it is painted. -/
def missingRangeAt (rows : List Nat) (total row : Nat) : Option HistoryRange :=
  if total ≤ row then none
  else
    let insertion := insertionIndex rows row
    if rows[insertion]? = some row then none
    else
      -- The index before the first row wraps, and no row stands there.
      let before := if insertion = 0 then none else rows[insertion - 1]?
      let start := before.elim 0 fun value => value + 1
      let stop := rows[insertion]?.getD total
      if start < stop then some { start, stop } else none

def hasHistoryRange (rows : List Nat) (total start stop : Nat) : Bool :=
  isHistoryRange total start stop &&
    (range (stop - start)).all fun offset =>
      decide (rows[insertionIndex rows start + offset]? = some (start + offset))

/-- The loop of `missingRanges` over the painted rows from the cursor's position on. -/
def missingFrom (stop : Nat) : Nat → List Nat → List HistoryRange
  | cursor, [] => if cursor < stop then [{ start := cursor, stop }] else []
  | cursor, painted :: rows =>
    if cursor < stop then
      if painted < stop then
        if cursor < painted then
          { start := cursor, stop := painted } :: missingFrom stop (painted + 1) rows
        else missingFrom stop (painted + 1) rows
      else [{ start := cursor, stop }]
    else []

def missingRanges (rows : List Nat) (total start stop : Nat) : List HistoryRange :=
  if isHistoryRange total start stop then
    missingFrom stop start (rows.drop (insertionIndex rows start))
  else []

/-! ## The search -/

variable {rows : List Nat} {total start stop row index : Nat}

theorem sortedAfter_iff {previous : Option Nat} : sortedAfter total previous rows = true ↔
      (∀ row ∈ rows, row < total ∧ ∀ value ∈ previous, value < row) ∧ rows.Pairwise (· < ·) := by
  induction rows generalizing previous with
  | nil => simp [sortedAfter]
  | cons row rows ih =>
    simp only [sortedAfter, Option.any_eq_true, decide_eq_true_eq, Bool.if_false_left,
      Bool.and_eq_true, Bool.not_eq_true', decide_eq_false_iff_not, ih, forall_mem_cons,
      pairwise_cons, Option.mem_def]
    constructor
    · rintro ⟨hinside, hafter, hrest, hsorted⟩
      refine ⟨⟨⟨by omega, fun value hvalue => ?_⟩, fun other hmem => ?_⟩,
        fun other hmem => (hrest other hmem).2 row rfl, hsorted⟩
      · exact Nat.not_le.mp fun hle => hafter ⟨value, hvalue, hle⟩
      · refine ⟨(hrest other hmem).1, fun value hvalue => ?_⟩
        exact (Nat.not_le.mp fun hle => hafter ⟨value, hvalue, hle⟩).trans
          ((hrest other hmem).2 row rfl)
    · rintro ⟨⟨⟨hinside, hafter⟩, hrest⟩, habove, hsorted⟩
      refine ⟨by omega, ?_, fun other hmem => ⟨(hrest other hmem).1, ?_⟩, hsorted⟩
      · rintro ⟨value, hvalue, hle⟩
        exact absurd (hafter value hvalue) (Nat.not_lt.mpr hle)
      · rintro value ⟨⟩
        exact habove other hmem

section

variable (hsorted : rows.Pairwise (· < ·))
include hsorted

theorem insertionLoop_splits {low high : Nat} (bound : high ≤ rows.length)
    (hbelow : ∀ row ∈ rows.take low, row < index) (habove : ∀ row ∈ rows.drop high, index ≤ row)
    (hle : low ≤ high) : insertionLoop rows index low high bound ≤ rows.length ∧
      (∀ row ∈ rows.take (insertionLoop rows index low high bound), row < index) ∧
      ∀ row ∈ rows.drop (insertionLoop rows index low high bound), index ≤ row := by
  induction hspan : high - low using Nat.strong_induction_on generalizing low high with
  | h span ih =>
    rw [insertionLoop]
    split
    · rename_i hlt
      have hmiddle : low + (high - low) / 2 < rows.length := by omega
      dsimp only
      split
      · rename_i hsmall
        refine ih _ (by omega) bound (fun row hmem => ?_) habove (by omega) rfl
        obtain ⟨place, hplace, rfl⟩ := mem_take_iff_getElem.mp hmem
        rcases Nat.lt_or_eq_of_le (show place ≤ low + (high - low) / 2 by omega) with hlt | rfl
        · exact (pairwise_iff_getElem.mp hsorted _ _ _ hmiddle hlt).trans hsmall
        · exact hsmall
      rename_i hlarge
      refine ih _ (by omega) hmiddle.le hbelow (fun row hmem => ?_) (by omega) rfl
      obtain ⟨place, hplace, rfl⟩ := mem_drop_iff_getElem.mp hmem
      rcases Nat.eq_zero_or_pos place with rfl | hpos
      · exact Nat.not_lt.mp hlarge
      · exact (Nat.not_lt.mp hlarge).trans
          (pairwise_iff_getElem.mp hsorted _ _ hmiddle _ (by omega)).le
    · rename_i hdone
      obtain rfl : low = high := by omega
      exact ⟨bound, hbelow, habove⟩

theorem insertionIndex_splits (index : Nat) : insertionIndex rows index ≤ rows.length ∧
      (∀ row ∈ rows.take (insertionIndex rows index), row < index) ∧
      ∀ row ∈ rows.drop (insertionIndex rows index), index ≤ row :=
  insertionLoop_splits hsorted le_rfl (by simp) (by simp) (Nat.zero_le _)

theorem insertionIndex_eq (index : Nat) :
    insertionIndex rows index = (rows.filter fun row => decide (row < index)).length := by
  obtain ⟨hle, hbelow, habove⟩ := insertionIndex_splits hsorted index
  conv_rhs => rw [← take_append_drop (insertionIndex rows index) rows]
  rw [filter_append, filter_eq_self.mpr fun row hmem => decide_eq_true (hbelow row hmem),
    filter_eq_nil_iff.mpr fun row hmem => by simpa using habove row hmem]
  simp [hle]

theorem mem_drop_insertionIndex (hle : index ≤ row) :
    row ∈ rows.drop (insertionIndex rows index) ↔ row ∈ rows := by
  refine ⟨mem_of_mem_drop, fun hmem => ?_⟩
  rw [← take_append_drop (insertionIndex rows index) rows, mem_append] at hmem
  rcases hmem with hmem | hmem
  · exact absurd ((insertionIndex_splits hsorted index).2.1 row hmem) (Nat.not_lt.mpr hle)
  · exact hmem

end

/-! ## The missing intervals -/

/-- The painted rows a walk still has ahead: ascending, none before its cursor. -/
structure Ahead (cursor : Nat) (rows : List Nat) : Prop where
  sorted : rows.Pairwise (· < ·)
  from_cursor : ∀ row ∈ rows, cursor ≤ row

variable {cursor : Nat}

theorem Ahead.tail {painted : Nat} (h : Ahead cursor (painted :: rows)) :
    Ahead (painted + 1) rows where
  sorted := (pairwise_cons.mp h.sorted).2
  from_cursor := (pairwise_cons.mp h.sorted).1

theorem missingFrom_inside (h : Ahead cursor rows) :
    ∀ range ∈ missingFrom stop cursor rows,
      cursor ≤ range.start ∧ range.start < range.stop ∧ range.stop ≤ stop := by
  induction rows generalizing cursor with
  | nil => grind [missingFrom]
  | cons painted rows ih =>
    have hpainted := h.from_cursor painted mem_cons_self
    have hrest := ih h.tail
    grind [missingFrom]

theorem missingFrom_apart (h : Ahead cursor rows) :
    (missingFrom stop cursor rows).Pairwise fun earlier later => earlier.stop < later.start := by
  induction rows generalizing cursor with
  | nil => grind [missingFrom]
  | cons painted rows ih =>
    have hrest := ih h.tail
    have hinside := @missingFrom_inside rows stop _ h.tail
    grind [missingFrom, pairwise_cons]

theorem missingFrom_holds (h : Ahead cursor rows) :
    (∃ range ∈ missingFrom stop cursor rows, range.Holds row) ↔
      cursor ≤ row ∧ row < stop ∧ row ∉ rows := by
  induction rows generalizing cursor with
  | nil =>
    unfold missingFrom
    split
    · simp [HistoryRange.Holds]
    · simp only [not_mem_nil, false_and, exists_false, not_false_eq_true, and_true, false_iff]
      omega
  | cons painted rows ih =>
    have hpainted := h.from_cursor painted mem_cons_self
    have hafter : row ∈ rows → painted < row := (pairwise_cons.mp h.sorted).1 row
    have hstart : ∀ r ∈ painted :: rows, painted ≤ r := fun r hmem =>
      (mem_cons.mp hmem).elim Eq.ge fun hmem => ((pairwise_cons.mp h.sorted).1 r hmem).le
    unfold missingFrom
    split
    · split
      · rw [mem_cons]
        split
        · rw [exists_mem_cons_iff, ih h.tail]
          constructor
          · rintro (⟨hge, hlt⟩ | hrest)
            · dsimp only at hge hlt
              exact ⟨hge, by omega, fun hmem => hmem.elim (by omega) fun hmem =>
                absurd (hafter hmem) (by omega)⟩
            · exact ⟨by omega, hrest.2.1, fun hmem => hmem.elim (by omega) hrest.2.2⟩
          rintro ⟨hge, hlt, hunpainted⟩
          rw [not_or] at hunpainted
          by_cases hrow : row < painted
          · exact .inl ⟨hge, hrow⟩
          · exact .inr ⟨by omega, hlt, hunpainted.2⟩
        · rw [ih h.tail]
          constructor
          · exact fun hrest => ⟨by omega, hrest.2.1, fun hmem => hmem.elim (by omega) hrest.2.2⟩
          · rintro ⟨hge, hlt, hunpainted⟩
            rw [not_or] at hunpainted
            exact ⟨by omega, hlt, hunpainted.2⟩
      · simp only [mem_singleton, exists_eq_left, HistoryRange.Holds]
        refine ⟨fun hrow => ⟨hrow.1, hrow.2, fun hmem => ?_⟩, fun hrow => ⟨hrow.1, hrow.2.1⟩⟩
        have := hstart row hmem
        omega
    · simp only [not_mem_nil, false_and, exists_false, false_iff]
      omega

theorem ahead_insertionIndex (hsorted : rows.Pairwise (· < ·)) (start : Nat) :
    Ahead start (rows.drop (insertionIndex rows start)) where
  sorted := hsorted.sublist (drop_sublist _ _)
  from_cursor := (insertionIndex_splits hsorted start).2.2

theorem missingRanges_eq (hstart : start < stop) (hstop : stop ≤ total) :
    missingRanges rows total start stop =
      missingFrom stop start (rows.drop (insertionIndex rows start)) := by
  simp [missingRanges, isHistoryRange, hstart, hstop]

/-- The ranges hold exactly the missing rows. -/
theorem missingRanges_holds (hsorted : rows.Pairwise (· < ·)) (hstart : start < stop)
    (hstop : stop ≤ total) : (∃ range ∈ missingRanges rows total start stop, range.Holds row) ↔
      start ≤ row ∧ row < stop ∧ row ∉ rows := by
  rw [missingRanges_eq hstart hstop, missingFrom_holds (ahead_insertionIndex hsorted start)]
  refine and_congr_right fun hge => and_congr_right fun _ => not_congr ?_
  exact mem_drop_insertionIndex hsorted hge

/-! ## The interval around one row -/

structure HistoryRange.GreatestAt (range : HistoryRange) (rows : List Nat) (total row : Nat) :
    Prop where
  around : range.Holds row
  inside : range.stop ≤ total
  unpainted : ∀ other, range.Holds other → other ∉ rows
  greatest : ∀ wider : HistoryRange, wider.Holds row → wider.stop ≤ total →
    (∀ other, wider.Holds other → other ∉ rows) →
    range.start ≤ wider.start ∧ wider.stop ≤ range.stop

theorem start_after {before after : List Nat} (hsorted : (before ++ after).Pairwise (· < ·)) :
    let place := if before.length = 0 then none else (before ++ after)[before.length - 1]?
    let start := place.elim 0 fun value => value + 1
    (∀ row ∈ before, row < start) ∧ (start = 0 ∨ ∃ value ∈ before, start = value + 1) := by
  rcases before.eq_nil_or_concat with rfl | ⟨init, value, rfl⟩
  · simp
  rw [concat_eq_append] at hsorted ⊢
  have hinit : ∀ row ∈ init, row < value := fun row hmem =>
    (pairwise_append.mp (pairwise_append.mp hsorted).1).2.2 row hmem value mem_cons_self
  have hlast : (init ++ [value] ++ after)[init.length]? = some value := by simp
  simp only [length_append, length_singleton, Nat.add_sub_cancel, Nat.succ_ne_zero,
    if_false, hlast, Option.elim_some]
  refine ⟨fun row hmem => ?_, .inr ⟨value, by simp, rfl⟩⟩
  rcases mem_append.mp hmem with hmem | hmem
  · exact (hinit row hmem).trans (Nat.lt_succ_self _)
  · exact (mem_singleton.mp hmem) ▸ Nat.lt_succ_self _

theorem stop_before {before after : List Nat} (hsorted : after.Pairwise (· < ·)) :
    let stop := (before ++ after)[before.length]?.getD total
    (∀ row ∈ after, stop ≤ row) ∧ (stop = total ∧ after = [] ∨ stop ∈ after) := by
  cases after with
  | nil => simp
  | cons =>
    refine ⟨?_, .inr ?_⟩
    · intro other hmem
      rcases mem_cons.mp hmem with rfl | hmem
      · simp
      · simpa using ((pairwise_cons.mp hsorted).1 other hmem).le
    · simp

theorem missingRangeAt_cases (hsorted : rows.Pairwise (· < ·)) (hinside : ∀ row ∈ rows, row < total)
    (hrow : row < total) (hunpainted : row ∉ rows) :
    ∃ range, missingRangeAt rows total row = some range ∧ range.GreatestAt rows total row := by
  obtain ⟨hle, hbelow, habove⟩ := insertionIndex_splits hsorted row
  obtain ⟨before, after, rfl, hpre, hafter⟩ : ∃ before after, rows = before ++ after ∧
      rows.take (insertionIndex rows row) = before ∧ rows.drop (insertionIndex rows row) = after :=
    ⟨_, _, (take_append_drop _ _).symm, rfl, rfl⟩
  have hplace : insertionIndex (before ++ after) row = before.length := by
    rw [← congrArg length hpre, length_take, Nat.min_eq_left hle]
  rw [hpre] at hbelow
  rw [hafter] at habove
  have hstart := start_after hsorted
  have hstop := @stop_before total before after (pairwise_append.mp hsorted).2.1
  have hne : (before ++ after)[before.length]? ≠ some row := fun hget =>
    hunpainted (mem_of_getElem? hget)
  unfold missingRangeAt
  rw [if_neg (by omega)]
  dsimp only at hstart hstop ⊢
  rw [hplace, if_neg hne]
  generalize Option.elim _ _ _ = start at hstart ⊢
  generalize Option.getD _ _ = stop at hstop ⊢
  have hstartRow : start ≤ row := by
    rcases hstart.2 with rfl | ⟨value, hmem, rfl⟩
    · exact Nat.zero_le _
    · exact hbelow value hmem
  have hrowStands : row < stop := by
    rcases hstop.2 with ⟨rfl, _⟩ | hmem
    · exact hrow
    · refine Nat.lt_of_le_of_ne (habove stop hmem) ?_
      rintro rfl
      exact hunpainted (mem_append_right _ hmem)
  rw [if_pos (by omega)]
  refine ⟨_, rfl, ⟨hstartRow, hrowStands⟩, ?_, ?_, ?_⟩
  · rcases hstop.2 with ⟨rfl, _⟩ | hmem
    · exact le_rfl
    · exact (hinside stop (mem_append_right _ hmem)).le
  · intro other hholds hmem
    rcases mem_append.mp hmem with hmem | hmem
    · exact absurd hholds.1 (Nat.not_le.mpr (hstart.1 other hmem))
    · exact absurd hholds.2 (Nat.not_lt.mpr (hstop.1 other hmem))
  intro wider hholds hwider hclear
  constructor
  · rcases hstart.2 with rfl | ⟨value, hmem, rfl⟩
    · exact Nat.zero_le _
    have hvalue := hbelow value hmem
    by_contra hlt
    dsimp only at hlt
    exact hclear value ⟨by omega, hvalue.trans hholds.2⟩ (mem_append_left _ hmem)
  · rcases hstop.2 with ⟨rfl, _⟩ | hmem
    · exact hwider
    · by_contra hlt
      exact hclear stop ⟨hholds.1.trans hrowStands.le, Nat.not_le.mp hlt⟩ (mem_append_right _ hmem)

theorem missingRangeAt_isSome (hsorted : rows.Pairwise (· < ·))
    (hinside : ∀ row ∈ rows, row < total) :
    (missingRangeAt rows total row).isSome = true ↔ row < total ∧ row ∉ rows := by
  constructor
  · intro hsome
    unfold missingRangeAt at hsome
    split at hsome
    · cases hsome
    rename_i hrow
    refine ⟨Nat.not_le.mp hrow, fun hmem => ?_⟩
    obtain ⟨_, _, habove⟩ := insertionIndex_splits hsorted row
    have hahead := (mem_drop_insertionIndex hsorted le_rfl).mpr hmem
    have hplace : rows[insertionIndex rows row]? = some row := by
      have hdrop := hsorted.sublist (drop_sublist (insertionIndex rows row) rows)
      rw [← Nat.add_zero (insertionIndex rows row), ← getElem?_drop]
      cases hrest : rows.drop (insertionIndex rows row) with
      | nil => rw [hrest] at hahead; cases hahead
      | cons first =>
        rw [hrest] at hahead habove hdrop
        rcases mem_cons.mp hahead with rfl | hmem
        · rfl
        · exact absurd ((pairwise_cons.mp hdrop).1 row hmem)
            (Nat.not_lt.mpr (habove first mem_cons_self))
    rw [if_pos hplace] at hsome
    cases hsome
  · rintro ⟨hrow, hunpainted⟩
    obtain ⟨_, hrange, _⟩ := missingRangeAt_cases hsorted hinside hrow hunpainted
    rw [hrange]
    rfl

/-! ## A covered range -/

theorem consecutive_of_mem {length start : Nat} (h : Ahead start rows)
    (hall : ∀ row, start ≤ row → row < start + length → row ∈ rows) :
    ∀ offset < length, rows[offset]? = some (start + offset) := by
  induction length generalizing start rows with
  | zero => exact fun _ hlt => absurd hlt (Nat.not_lt_zero _)
  | succ length ih =>
    cases rows with
    | nil => exact absurd (hall start le_rfl (by omega)) not_mem_nil
    | cons first rows =>
      have hfirst : first = start := by
        rcases mem_cons.mp (hall start le_rfl (by omega)) with heq | hmem
        · exact heq.symm
        · have hlt := (pairwise_cons.mp h.sorted).1 start hmem
          exact absurd (h.from_cursor first mem_cons_self) (Nat.not_le.mpr hlt)
      subst hfirst
      intro offset hlt
      cases offset with
      | zero => rfl
      | succ offset =>
        rw [getElem?_cons_succ, ih h.tail (fun row hge hlt => ?_) offset (by omega)]
        · congr 1
          omega
        · rcases mem_cons.mp (hall row (by omega) (by omega)) with rfl | hmem
          · omega
          · exact hmem

theorem hasHistoryRange_iff (hsorted : rows.Pairwise (· < ·)) (hstart : start < stop)
    (hstop : stop ≤ total) :
    hasHistoryRange rows total start stop = true ↔ ∀ row, start ≤ row → row < stop → row ∈ rows := by
  simp only [hasHistoryRange, isHistoryRange, hstart, hstop, decide_true, Bool.and_self,
    Bool.true_and, all_eq_true, mem_range, decide_eq_true_eq]
  constructor
  · intro hall row hge hlt
    have hget := hall (row - start) (by omega)
    rw [Nat.add_sub_cancel' hge] at hget
    exact mem_of_getElem? hget
  intro hall offset hlt
  rw [← getElem?_drop]
  refine consecutive_of_mem (ahead_insertionIndex hsorted start) (fun row hge hlt => ?_) offset hlt
  exact (mem_drop_insertionIndex hsorted hge).mpr (hall row hge (by omega))

theorem hasHistoryRange_iff_missingRanges (hsorted : rows.Pairwise (· < ·)) (hstart : start < stop)
    (hstop : stop ≤ total) :
    hasHistoryRange rows total start stop = true ↔ missingRanges rows total start stop = [] := by
  rw [hasHistoryRange_iff hsorted hstart hstop]
  constructor
  · intro hall
    rw [eq_nil_iff_forall_not_mem]
    intro range hmem
    have hrange := missingFrom_inside (ahead_insertionIndex hsorted start) range
      (missingRanges_eq hstart hstop ▸ hmem)
    have hholds := (missingRanges_holds hsorted hstart hstop).mp ⟨range, hmem, le_rfl, hrange.2.1⟩
    exact hholds.2.2 (hall range.start hholds.1 hholds.2.1)
  · intro hnone row hge hlt
    by_contra hunpainted
    obtain ⟨_, hmem, _⟩ := (missingRanges_holds hsorted hstart hstop).mpr ⟨hge, hlt, hunpainted⟩
    rw [hnone] at hmem
    cases hmem

/-- The interval queries agree with the painted rows, whatever rows are painted. -/
theorem history_intervals_exact (hrows : hasSortedHistoryRows rows total = true)
    (hstart : start < stop) (hstop : stop ≤ total) :
    ((∀ range ∈ missingRanges rows total start stop, range.start < range.stop) ∧
      (missingRanges rows total start stop).Pairwise
        (fun earlier later => earlier.stop < later.start) ∧
      ∀ row, (∃ range ∈ missingRanges rows total start stop, range.Holds row) ↔
        start ≤ row ∧ row < stop ∧ row ∉ rows) ∧
    (∀ row, ((missingRangeAt rows total row).isSome = true ↔ row < total ∧ row ∉ rows) ∧
      ∀ range, missingRangeAt rows total row = some range → range.GreatestAt rows total row) ∧
    (hasHistoryRange rows total start stop = true ↔ missingRanges rows total start stop = []) ∧
    ∀ index, insertionIndex rows index = (rows.filter fun row => decide (row < index)).length := by
  obtain ⟨hinside, hsorted⟩ : (∀ row ∈ rows, row < total) ∧ rows.Pairwise (· < ·) := by
    simpa [hasSortedHistoryRows, sortedAfter_iff] using hrows
  refine ⟨⟨?_, ?_, fun row => missingRanges_holds hsorted hstart hstop⟩, fun row => ⟨?_, ?_⟩,
    hasHistoryRange_iff_missingRanges hsorted hstart hstop, insertionIndex_eq hsorted⟩
  · rw [missingRanges_eq hstart hstop]
    exact fun range hmem => (missingFrom_inside (ahead_insertionIndex hsorted start) range hmem).2.1
  · rw [missingRanges_eq hstart hstop]
    exact missingFrom_apart (ahead_insertionIndex hsorted start)
  · exact missingRangeAt_isSome hsorted hinside
  intro range hrange
  have hmiss := (missingRangeAt_isSome hsorted hinside).mp (Option.isSome_of_eq_some hrange)
  obtain ⟨_, hfound, hgreat⟩ :=
    missingRangeAt_cases hsorted hinside hmiss.1 hmiss.2
  exact Option.some.inj (hfound.symm.trans hrange) ▸ hgreat

theorem three_painted_intervals : (missingRangeAt [1, 2, 5] 8 3).isSome = true ∧
      (hasHistoryRange [1, 2, 5] 8 0 6 = true ↔ missingRanges [1, 2, 5] 8 0 6 = []) := by
  have hrows : hasSortedHistoryRows [1, 2, 5] 8 = true := by decide
  have h := history_intervals_exact hrows (show 0 < 6 by decide) (show 6 ≤ 8 by decide)
  exact ⟨(h.2.1 3).1.mpr ⟨by decide, by decide⟩, h.2.2.1⟩

/-! ## Demand bounds -/

def backfillFetchRows : Nat := 250

/-- The missing interval a reader's own scroll position exposes. -/
structure HistoryScrollTarget where
  /-- The whole missing interval. -/
  missing : HistoryRange
  /-- The part inside the window the pager asked about. -/
  inWindow : HistoryRange
  focusRow : Nat

/-- The window shows part of the missing interval, and the reader looks at its first row. -/
structure HistoryScrollTarget.WellPlaced (target : HistoryScrollTarget) : Prop where
  start_le : target.missing.start ≤ target.inWindow.start
  nonempty : target.inWindow.start < target.inWindow.stop
  stop_le : target.inWindow.stop ≤ target.missing.stop
  focus_first : target.focusRow = target.inWindow.start

/-- One demand's half-open absolute row range, and the row it must end painted. -/
structure DemandBounds where
  focus : Nat
  start : Nat
  stop : Nat
  deriving DecidableEq

/-- The page the reader's exposed gap demands, or nothing when the pager owes nothing. -/
def scrollDemandBounds (target : HistoryScrollTarget) (retainedFloor paintedBase : Nat) :
    Option DemandBounds :=
  let lower := max target.missing.start retainedFloor
  -- The side of the painted base that holds the newest exposed row wins.
  let exposed := max lower (target.inWindow.stop - 1)
  let aboveBase := decide (paintedBase ≤ exposed)
  let floorRow := if aboveBase then max lower paintedBase else lower
  let ceilRow := if aboveBase then target.missing.stop else min target.missing.stop paintedBase
  let stop := min ceilRow (max target.inWindow.stop (floorRow + backfillFetchRows))
  let start := max floorRow (stop - backfillFetchRows)
  if start < stop then some { focus := max start target.focusRow, start, stop } else none

/-- The page a find match demands, or nothing when the pager owes nothing. -/
def findDemandBounds (gap : HistoryRange) (focus retainedFloor paintedBase : Nat) :
    Option DemandBounds :=
  let lower := max gap.start retainedFloor
  let aboveBase := decide (paintedBase ≤ focus)
  let floorRow := if aboveBase then max lower paintedBase else lower
  let ceilRow := if aboveBase then gap.stop else min gap.stop paintedBase
  let start := if focus - floorRow < backfillFetchRows then floorRow else focus
  let stop := min ceilRow (start + backfillFetchRows)
  if start < stop then some { focus, start, stop } else none

/-- A page of the missing interval that holds the row it owes: above the floor, no longer than
one wave, on one side of the painted base. -/
structure DemandBounds.Serves (bounds : DemandBounds) (missing : HistoryRange)
    (retainedFloor paintedBase : Nat) : Prop where
  focus_inside : bounds.start ≤ bounds.focus ∧ bounds.focus < bounds.stop
  missing_inside : missing.start ≤ bounds.start ∧ bounds.stop ≤ missing.stop
  floor_le : retainedFloor ≤ bounds.start
  one_wave : bounds.stop - bounds.start ≤ backfillFetchRows
  one_side : bounds.stop ≤ paintedBase ∨ paintedBase ≤ bounds.start

variable {retainedFloor paintedBase : Nat}

theorem scrollDemandBounds_serves {target : HistoryScrollTarget} {bounds : DemandBounds}
    (hplaced : target.WellPlaced)
    (h : scrollDemandBounds target retainedFloor paintedBase = some bounds) :
    bounds.Serves target.missing retainedFloor paintedBase := by
  simp only [scrollDemandBounds, Option.ite_none_right_eq_some, Option.some.injEq,
    decide_eq_true_eq] at h
  obtain ⟨hlt, rfl⟩ := h
  obtain ⟨hstart, hwindow, hstop, hfocus⟩ := hplaced
  -- Either side of the base the window ends within the page, and so does its first row.
  constructor <;> dsimp only [backfillFetchRows] at * <;> grind

/-- A find serves exactly above the floor. -/
theorem findDemandBounds_serves_iff {gap : HistoryRange} {focus : Nat} (hfocus : gap.Holds focus) :
    (∀ bounds, findDemandBounds gap focus retainedFloor paintedBase = some bounds →
        bounds.Serves gap retainedFloor paintedBase) ↔
      retainedFloor ≤ focus ∨
        (if paintedBase ≤ focus then gap.stop else min gap.stop paintedBase) ≤ retainedFloor := by
  obtain ⟨hstart, hstop⟩ := hfocus
  simp only [findDemandBounds, Option.ite_none_right_eq_some, Option.some.injEq,
    decide_eq_true_eq, and_imp, forall_apply_eq_imp_iff]
  constructor
  · intro hserves
    by_contra hbelow
    have hinside := fun hlt => (hserves hlt).focus_inside
    dsimp only [backfillFetchRows] at *
    grind
  · intro hfloor hlt
    constructor <;> dsimp only [backfillFetchRows] at * <;> grind

/-- Scrolling asks for what is missing; finding does so from the floor up. -/
theorem demand_bounds_serve (retainedFloor paintedBase : Nat) :
    (∀ target bounds, target.WellPlaced →
      scrollDemandBounds target retainedFloor paintedBase = some bounds →
        bounds.Serves target.missing retainedFloor paintedBase) ∧
    ∀ (gap : HistoryRange) (focus : Nat), gap.Holds focus →
      ((∀ bounds, findDemandBounds gap focus retainedFloor paintedBase = some bounds →
          bounds.Serves gap retainedFloor paintedBase) ↔
        retainedFloor ≤ focus ∨
          (if paintedBase ≤ focus then gap.stop else min gap.stop paintedBase) ≤ retainedFloor) :=
  ⟨fun _ _ => scrollDemandBounds_serves, fun _ _ => findDemandBounds_serves_iff⟩

theorem demand_bounds_serve_above_floor :
    findDemandBounds ⟨0, 1000⟩ 600 500 2000 = some ⟨600, 500, 750⟩ ∧
      DemandBounds.Serves ⟨600, 500, 750⟩ ⟨0, 1000⟩ 500 2000 :=
  ⟨by decide, ((demand_bounds_serve 500 2000).2 ⟨0, 1000⟩ 600 ⟨by decide, by decide⟩).mpr
    (.inl (by decide)) ⟨600, 500, 750⟩ (by decide)⟩

/-- A match below the floor is owed by a page that starts at the floor. -/
theorem match_below_floor_is_missed : HistoryRange.Holds ⟨0, 1000⟩ 100 ∧
      findDemandBounds ⟨0, 1000⟩ 100 500 2000 = some ⟨100, 500, 750⟩ ∧
      ¬DemandBounds.Serves ⟨100, 500, 750⟩ ⟨0, 1000⟩ 500 2000 :=
  ⟨⟨by decide, by decide⟩, by decide, fun h => absurd h.focus_inside.1 (by decide)⟩

end Roost.Client
