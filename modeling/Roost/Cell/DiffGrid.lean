-- SUMMARY: Folding frames into a held replica, row by row.
import Mathlib.Data.List.Rotate
import Roost.Base.Slots
import Roost.Base.Transducer
import Roost.Cell.Proto

/-!
# Replicas

A replica holds one frame and applies what arrives: a full frame replaces it, a
delta is checked against it and then overwrites the rows it carries. Rows are
addressed by position, so a replica is only right while the row at position `i`
is the row with index `i`. Decoding checks that every index occurs once and
keeps the order of the wire.
-/

namespace Roost.Cell

open Slots

namespace CellGridFrame

def cloneWithoutRetainedHistory (frame : CellGridFrame) (retainAppend : Bool) : CellGridFrame :=
  { frame with
    scrollbackRows := []
    scrollbackAppend := if retainAppend then frame.scrollbackAppend else [] }

/-- How many held rows a global viewport shift moves. A shift is only used when the
delta supplies the complete viewport and its first appended line is the held top row. -/
def deltaViewportShift (base delta : CellGridFrame) : Nat :=
  if delta.viewportRows.length ≠ base.rows.toNat then 0
  else
    let shift := min (min delta.scrollbackAppend.length (2 ^ 32 - 1)) base.rows.toNat
    if shift = 0 then 0
    else
      match base.viewportRows.head?, delta.scrollbackAppend.head? with
      | some held, some appended => if held.spans = appended.spans then shift else 0
      | _, _ => 0

def slot (row : CellRow) : Nat := row.index.toNat

def renumber (count : Nat) (rows : List CellRow) : List CellRow :=
  rows.mapIdx fun position row =>
    if position < count then { row with index := UInt32.ofNat position } else row

/-- The held rows a shift leaves behind: rotated, the surviving ones renumbered. -/
def shiftRows (base : CellGridFrame) (scrolled : Nat) : List CellRow :=
  if scrolled > 0 then
    renumber (base.rows.toNat - scrolled) (base.viewportRows.rotate scrolled)
  else base.viewportRows

def continues (base delta : CellGridFrame) : Bool :=
  decide (delta.streamId = base.streamId ∧ delta.baseSeq = base.seq ∧
    delta.baseSeq.toNat + 1 = delta.seq.toNat ∧ delta.gridEpoch = base.gridEpoch ∧
    delta.cols = base.cols ∧ delta.rows = base.rows ∧ delta.altScreen = base.altScreen ∧
    base.viewportRows.length = base.rows.toNat ∧ delta.scrollbackRows = [])

def folded (base delta : CellGridFrame) (retainHistory : Bool) : CellGridFrame :=
  { streamId := delta.streamId
    gridEpoch := delta.gridEpoch
    cols := delta.cols
    rows := delta.rows
    cursorRow := delta.cursorRow
    cursorCol := delta.cursorCol
    cursorVisible := delta.cursorVisible
    altScreen := delta.altScreen
    cursorKeysApp := delta.cursorKeysApp
    bracketedPaste := delta.bracketedPaste
    mouseTracking := delta.mouseTracking
    mouseSgr := delta.mouseSgr
    focusEvents := delta.focusEvents
    kittyKeyboardFlags := delta.kittyKeyboardFlags
    full := true
    viewportRows := fill slot id (shiftRows base (deltaViewportShift base delta))
      delta.viewportRows
    scrollbackRows :=
      if retainHistory then base.scrollbackRows ++ delta.scrollbackAppend else base.scrollbackRows
    scrollbackAppend := []
    scrollbackTotal := delta.scrollbackTotal
    sbBase := base.sbBase
    baseSeq := 0
    seq := delta.seq
    imagePlacements := delta.imagePlacements.or base.imagePlacements }

/-- Apply a frame onto a held one; `none` leaves the held frame as it is. -/
def applyDeltaWithHistory (base delta : CellGridFrame) (retainHistory : Bool) :
    Option CellGridFrame :=
  if delta.full then
    some (if retainHistory then delta else delta.cloneWithoutRetainedHistory false)
  else if !continues base delta then none
  else
    match claim slot (List.replicate base.viewportRows.length false) delta.viewportRows with
    | none => none
    | some _ => some (folded base delta retainHistory)

def applyDelta (base delta : CellGridFrame) : Option CellGridFrame :=
  applyDeltaWithHistory base delta true

/-- A replica as a machine: what arrives is applied or refused. -/
def replica : Transducer CellGridFrame CellGridFrame Bool where
  step held frame :=
    match applyDelta held frame with
    | some next => (next, true)
    | none => (held, false)

/-! ## Canonical frames -/

/-- Exactly `rows` viewport rows, and the row at position `i` has index `i`. -/
structure Canonical (frame : CellGridFrame) : Prop where
  count : frame.viewportRows.length = frame.rows.toNat
  position : ∀ (i : Nat) (row : CellRow), frame.viewportRows[i]? = some row → row.index.toNat = i

def rowAt (frame : CellGridFrame) (i : Nat) : Option CellRow := at? slot frame.viewportRows i

variable {frame held : CellGridFrame}

theorem canonical_iff :
    frame.Canonical ↔ frame.viewportRows.map slot = List.range frame.rows.toNat := by
  constructor
  · rintro ⟨hcount, hposition⟩
    apply List.ext_getElem?
    intro i
    rw [List.getElem?_map]
    cases hrow : frame.viewportRows[i]? with
    | none =>
      have hlen := List.getElem?_eq_none_iff.mp hrow
      rw [List.getElem?_eq_none (by simpa [hcount] using hlen)]
      rfl
    | some row =>
      have hi : i < frame.rows.toNat := hcount ▸ (List.getElem?_eq_some_iff.mp hrow).1
      rw [List.getElem?_range hi, Option.map_some, slot, hposition i row hrow]
  · intro h
    refine ⟨by simpa using congrArg List.length h, ?_⟩
    intro i row hrow
    have hslot : (frame.viewportRows.map slot)[i]? = some row.index.toNat := by
      rw [List.getElem?_map, hrow]
      rfl
    rw [h] at hslot
    obtain ⟨_, heq⟩ := List.getElem?_eq_some_iff.mp hslot
    simpa using heq.symm

theorem Canonical.nodup (h : frame.Canonical) : (frame.viewportRows.map slot).Nodup := by
  rw [canonical_iff.mp h]
  exact List.nodup_range

theorem Canonical.rowAt_eq (h : frame.Canonical) (i : Nat) :
    frame.rowAt i = frame.viewportRows[i]? := by
  cases hrow : frame.viewportRows[i]? with
  | none =>
    rw [rowAt, at?_eq_none_iff, canonical_iff.mp h, List.mem_range, ← h.count, Nat.not_lt]
    exact List.getElem?_eq_none_iff.mp hrow
  | some row =>
    rw [rowAt, at?_eq_some_iff h.nodup]
    exact ⟨List.mem_of_getElem? hrow, h.position i row hrow⟩

/-! ## What an accepted delta does to the rows -/

variable {base delta after : CellGridFrame}

theorem applyDelta_eq_some (hdelta : delta.full = false) : applyDelta base delta = some after ↔
      base.continues delta = true ∧
        ((∀ row ∈ delta.viewportRows, slot row < base.viewportRows.length) ∧
          (delta.viewportRows.map slot).Nodup) ∧
        folded base delta true = after := by
  rw [← claim_replicate_eq_some]
  simp only [applyDelta, applyDeltaWithHistory, hdelta, Bool.false_eq_true, if_false]
  cases hcont : base.continues delta with
  | false => simp
  | true =>
    cases hclaim : claim slot (List.replicate base.viewportRows.length false)
      delta.viewportRows <;> simp

theorem shiftRows_length (base : CellGridFrame) (scrolled : Nat) :
    (shiftRows base scrolled).length = base.viewportRows.length := by
  unfold shiftRows renumber
  split
  · simp
  · rfl

theorem deltaViewportShift_pos (h : 0 < deltaViewportShift base delta) :
    delta.viewportRows.length = base.rows.toNat := by
  unfold deltaViewportShift at h
  split at h
  · exact absurd h (Nat.lt_irrefl 0)
  · rename_i hlen
    exact not_not.mp hlen

theorem folded_getElem? (hlen : base.viewportRows.length = base.rows.toNat)
    (hlt : ∀ row ∈ delta.viewportRows, slot row < base.viewportRows.length)
    (hnd : (delta.viewportRows.map slot).Nodup) {i : Nat} (hi : i < base.rows.toNat) :
    (folded base delta true).viewportRows[i]? = (delta.rowAt i).or base.viewportRows[i]? := by
  have hread : (folded base delta true).viewportRows[i]? =
      (delta.rowAt i).or (shiftRows base (deltaViewportShift base delta))[i]? := by
    have hroom : i < (shiftRows base (deltaViewportShift base delta)).length := by
      rw [shiftRows_length, hlen]
      exact hi
    simpa [folded, rowAt] using fill_getElem? id _ hnd hroom
  rw [hread]
  cases Nat.eq_zero_or_pos (deltaViewportShift base delta) with
  | inl hzero => simp [hzero, shiftRows]
  | inr hpos =>
    obtain ⟨row, hmem, hslot⟩ := exists_key_of_full hlt hnd
      ((deltaViewportShift_pos hpos).trans hlen.symm) (hlen ▸ hi)
    have hcarries : delta.rowAt i = some row := (at?_eq_some_iff hnd).mpr ⟨hmem, hslot⟩
    simp [hcarries]

theorem Canonical.applyDelta (hbase : base.Canonical) (hdelta : delta.full = false)
    (h : base.applyDelta delta = some after) :
    after.Canonical ∧ ∀ i, after.rowAt i = (delta.rowAt i).or (base.rowAt i) := by
  obtain ⟨hcont, ⟨hlt, hnd⟩, rfl⟩ := (applyDelta_eq_some hdelta).mp h
  have hrows : delta.rows = base.rows := (of_decide_eq_true hcont).2.2.2.2.2.1
  have hread := fun i => folded_getElem? (i := i) hbase.count hlt hnd
  have hcan : (folded base delta true).Canonical := by
    refine ⟨?_, ?_⟩
    · simp [folded, shiftRows_length, hbase.count, hrows]
    intro i row hrow
    have hi : i < base.rows.toNat := by
      have := (List.getElem?_eq_some_iff.mp hrow).1
      simpa [folded, shiftRows_length, hbase.count] using this
    rw [hread i hi, Option.or_eq_some_iff] at hrow
    rcases hrow with hcarries | ⟨-, hheld⟩
    · exact ((at?_eq_some_iff hnd).mp hcarries).2
    · exact hbase.position i row hheld
  refine ⟨hcan, ?_⟩
  intro i
  rw [hcan.rowAt_eq, hbase.rowAt_eq]
  rcases Nat.lt_or_ge i base.rows.toNat with hi | hi
  · exact hread i hi
  -- Past the grid neither frame holds a row, and the delta carries none.
  have hdelt : delta.rowAt i = none := by
    rw [rowAt, at?_eq_none_iff]
    intro hmem
    obtain ⟨row, hrow, rfl⟩ := List.mem_map.mp hmem
    exact absurd (hbase.count ▸ hlt row hrow) (Nat.not_lt.mpr hi)
  have hbas : base.viewportRows[i]? = none :=
    List.getElem?_eq_none (hbase.count ▸ hi)
  have haft : (folded base delta true).viewportRows[i]? = none :=
    List.getElem?_eq_none (by rw [hcan.count]; exact hrows ▸ hi)
  rw [hdelt, hbas, haft]
  rfl

theorem applyDelta_full (hdelta : delta.full = true) : base.applyDelta delta = some delta := by
  simp [applyDelta, applyDeltaWithHistory, hdelta]

/-! ## Runs -/

theorem replica_next (held frame : CellGridFrame) :
    replica.next held frame = (held.applyDelta frame).getD held := by
  unfold Transducer.next replica
  cases h : held.applyDelta frame <;> simp [h]

/-- What a replica promises over a run: every frame it holds is canonical, and an
accepted delta changes exactly the rows it carries. -/
structure Faithful (held : CellGridFrame) (frames : List CellGridFrame) : Prop where
  canonical : ∀ past, past <+: frames → (replica.run held past).Canonical
  rows : ∀ past delta after, past ++ [delta] <+: frames → delta.full = false →
    (replica.run held past).applyDelta delta = some after →
    ∀ i, after.rowAt i = (delta.rowAt i).or ((replica.run held past).rowAt i)

/-- A frame taken in leaves each row at its index. -/
theorem Canonical.next (hheld : held.Canonical)
    (hframe : frame.full = true → frame.Canonical) : (replica.next held frame).Canonical := by
  rw [replica_next]
  cases hfull : frame.full with
  | true =>
    rw [applyDelta_full hfull]
    exact hframe hfull
  | false =>
    cases hafter : held.applyDelta frame with
    | none => exact hheld
    | some => exact (hheld.applyDelta hfull hafter).1

variable {frames : List CellGridFrame}

theorem Canonical.run (hheld : held.Canonical)
    (hframes : ∀ frame ∈ frames, frame.full = true → frame.Canonical) :
    (replica.run held frames).Canonical := by
  induction frames generalizing held with
  | nil => exact hheld
  | cons frame frames ih =>
    rw [Transducer.run_cons]
    apply ih (hheld.next (hframes frame List.mem_cons_self))
    intro other hmem
    exact hframes other (List.mem_cons_of_mem _ hmem)

theorem faithful_iff : Faithful held frames ↔
      held.Canonical ∧ ∀ frame ∈ frames, frame.full = true → frame.Canonical := by
  constructor
  · intro h
    refine ⟨h.canonical [] List.nil_prefix, ?_⟩
    intro frame hmem hfull
    obtain ⟨past, rest, rfl⟩ := List.append_of_mem hmem
    have hpast : past ++ [frame] <+: past ++ frame :: rest := ⟨rest, by simp⟩
    have hcan := h.canonical _ hpast
    rw [Transducer.run_concat, replica_next, applyDelta_full hfull] at hcan
    exact hcan
  rintro ⟨hheld, hframes⟩
  have hrun : ∀ past, past <+: frames → (replica.run held past).Canonical := by
    intro past hpast
    apply hheld.run
    intro frame hmem
    exact hframes frame (hpast.subset hmem)
  refine ⟨hrun, ?_⟩
  intro past delta after hpast hdelta hafter
  have hcan := hrun past ((List.prefix_append past [delta]).trans hpast)
  exact (hcan.applyDelta hdelta hafter).2

end CellGridFrame

/-- The wire carried the row with index `i` at position `i`. -/
def InOrder (rows : List PbCellRow) : Prop :=
  ∀ (i : Nat) (row : PbCellRow), rows[i]? = some row → row.index.toNat = i

variable {wire : PbCellGridFrame}

theorem canonical_decoded_iff {held : CellGridFrame}
    (hdecode : protoToCellFrame wire = .ok held) (hfull : wire.full = true) :
    held.Canonical ↔ InOrder wire.viewportRows := by
  obtain ⟨hindex, hcount⟩ := protoToCellFrame_full hdecode hfull
  have hread : ∀ i : Nat, held.viewportRows[i]?.map CellRow.index =
      wire.viewportRows[i]?.map PbCellRow.index := by
    intro i
    rw [← List.getElem?_map, ← List.getElem?_map, hindex]
  constructor
  · intro h i row hrow
    have hi := hread i
    rw [hrow, Option.map_some, Option.map_eq_some_iff] at hi
    obtain ⟨value, hvalue, heq⟩ := hi
    rw [← heq]
    exact h.position i value hvalue
  intro h
  refine ⟨hcount, ?_⟩
  intro i value hvalue
  have hi := hread i
  rw [hvalue, Option.map_some, eq_comm, Option.map_eq_some_iff] at hi
  obtain ⟨row, hrow, heq⟩ := hi
  rw [← heq]
  exact h i row hrow

/-- A replica started from a decoded full frame keeps its promise over a run of
frames exactly when the wire carried the full frame's rows in index order, and
every full frame of the run holds its rows in index order. -/
theorem faithful_decoded_iff {held : CellGridFrame}
    (hdecode : protoToCellFrame wire = .ok held) (hfull : wire.full = true)
    (frames : List CellGridFrame) : held.Faithful frames ↔
      InOrder wire.viewportRows ∧ ∀ frame ∈ frames, frame.full = true → frame.Canonical := by
  rw [CellGridFrame.faithful_iff, canonical_decoded_iff hdecode hfull]

def twoRowWire (first second : UInt32) : PbCellGridFrame where
  streamId := "00000000-0000-4000-8000-000000000001"
  gridEpoch := "epoch"
  cols := 1
  rows := 2
  full := true
  seq := 1
  viewportRows := [{ index := first }, { index := second }]

def twoRowHeld (first second : UInt32) : CellGridFrame where
  streamId := "00000000-0000-4000-8000-000000000001"
  gridEpoch := "epoch"
  cols := 1
  rows := 2
  cursorRow := 0
  cursorCol := 0
  cursorVisible := false
  altScreen := false
  cursorKeysApp := false
  bracketedPaste := false
  mouseTracking := .none
  mouseSgr := false
  focusEvents := false
  kittyKeyboardFlags := 0
  full := true
  viewportRows := [{ index := first, spans := [], mark := 0 }, { index := second, spans := [], mark := 0 }]
  scrollbackRows := []
  scrollbackAppend := []
  scrollbackTotal := 0
  sbBase := 0
  baseSeq := 0
  seq := 1
  imagePlacements := some []

/-- The delta that follows `twoRowHeld` and marks row 0 as a prompt. -/
def promptDelta : CellGridFrame :=
  { twoRowHeld 0 1 with
    full := false
    viewportRows := [{ index := 0, spans := [], mark := 1 }]
    baseSeq := 1
    seq := 2
    imagePlacements := none }

theorem faithful_decoded_iff_twoRow : (twoRowHeld 0 1).Faithful [promptDelta] ↔
      InOrder (twoRowWire 0 1).viewportRows ∧
        ∀ frame ∈ [promptDelta], frame.full = true → frame.Canonical :=
  faithful_decoded_iff (by decide +kernel) rfl [promptDelta]

/-- A full frame whose two rows arrive swapped is accepted, and the first delta for
row 0 overwrites row 1: index 0 is then held twice and index 1 not at all. -/
theorem replica_swapped_rows : protoToCellFrame (twoRowWire 1 0) = .ok (twoRowHeld 1 0) ∧
      ((CellGridFrame.replica.run (twoRowHeld 1 0) [promptDelta]).viewportRows.map CellRow.index =
        [0, 0]) ∧
      ¬(twoRowHeld 1 0).Faithful [promptDelta] := by
  refine ⟨by decide +kernel, by decide +kernel, ?_⟩
  intro h
  have hfirst := (h.canonical [] List.nil_prefix).position 0 _ rfl
  exact absurd hfirst (by decide)

end Roost.Cell
