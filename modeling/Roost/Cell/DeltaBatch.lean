-- SUMMARY: Folding a batch of deltas for one paint, against the sequential fold.
import Roost.Cell.DiffGrid

/-!
# Delta batches

A front end that paints less often than deltas arrive folds a run of them at
once. The fold yields the successor frame, the lines that went into history, how
far the viewport moved, and the rows to patch. Dirty marks travel with the
viewport: a shift moves them before the rows of the shifting delta are marked.
-/

namespace Roost.Cell

open CellGridFrame Slots

/-- The result of folding a run of sparse deltas onto one starting frame. -/
structure CellDeltaBatch where
  /-- The successor after every delta; its history holds only what the batch appended. -/
  frame : CellGridFrame
  /-- Rows to patch in the successor's final viewport coordinates. -/
  dirtyRows : List CellRow
  scrollbackAppend : List CellRow
  viewportShift : UInt32

/-- Delta history is append-only: the new total counts the appended lines, and they
are numbered from the held total on. -/
def hasContiguousScrollbackAppend (base delta : CellGridFrame) : Bool :=
  let appended := base.scrollbackTotal.toNat + min delta.scrollbackAppend.length (2 ^ 64 - 1)
  if appended ≥ 2 ^ 64 then false
  else if delta.scrollbackTotal.toNat ≠ appended then false
  else
    delta.scrollbackAppend.zipIdx.all fun (row, offset) =>
      row.index.toNat == base.scrollbackTotal.toNat + offset

/-- What the batch loop carries from delta to delta. -/
structure BatchFold where
  folded : CellGridFrame
  /-- One mark per viewport row, set when the row has to be patched. -/
  dirtyMarks : List Bool
  scrollbackAppend : List CellRow
  viewportShift : UInt32

def BatchFold.start (base : CellGridFrame) : BatchFold where
  folded := base.cloneWithoutRetainedHistory true
  dirtyMarks := List.replicate base.rows.toNat false
  scrollbackAppend := []
  viewportShift := 0

/-- The marks moved up by `shift`: copied within the list, then the rows that came in
at the bottom cleared. -/
def shiftMarks (rows shift : Nat) (marks : List Bool) : List Bool :=
  let copied := marks.drop shift ++ marks.drop (marks.length - shift)
  copied.mapIdx fun position mark => if position < rows - shift then mark else false

/-- What the loop carries on with once a delta that moves the viewport by `shift` is
folded in. -/
def BatchFold.advance (self : BatchFold) (delta folded : CellGridFrame) (shift : Nat) : BatchFold :=
  let moved :=
    if shift > 0 then shiftMarks folded.rows.toNat shift self.dirtyMarks else self.dirtyMarks
  let changed := delta.viewportRows.map CellRow.index
  { folded
    dirtyMarks := fill UInt32.toNat (fun _ => true) moved changed
    scrollbackAppend := self.scrollbackAppend ++ delta.scrollbackAppend
    -- The sum is a 32-bit one.
    viewportShift := min folded.rows (self.viewportShift + UInt32.ofNat shift) }

/-- One pass of the batch loop. The shift is read before the delta is folded in. -/
def BatchFold.foldDelta (self : BatchFold) (delta : CellGridFrame) : Option BatchFold :=
  if delta.full || !hasContiguousScrollbackAppend self.folded delta then none
  else
    let shift := deltaViewportShift self.folded delta
    match self.folded.applyDelta delta with
    | none => none
    | some folded => some (self.advance delta folded shift)

def markedRows (marks : List Bool) (rows : List CellRow) : List CellRow :=
  (rows.zipIdx.filter fun (_, index) => marks[index]? = some true).map Prod.fst

def BatchFold.finish (self : BatchFold) : CellDeltaBatch where
  frame := self.folded
  dirtyRows :=
    if self.viewportShift = self.folded.rows then self.folded.viewportRows
    else markedRows self.dirtyMarks self.folded.viewportRows
  scrollbackAppend := self.scrollbackAppend
  viewportShift := self.viewportShift

/-- Fold contiguous sparse deltas into one frame; `none` for an invalid chain. -/
def foldCellDeltaBatch (base : CellGridFrame) (deltas : List CellGridFrame) :
    Option CellDeltaBatch :=
  if deltas.isEmpty then none
  else (deltas.foldlM BatchFold.foldDelta (BatchFold.start base)).map BatchFold.finish

/-! ## The sequential fold -/

/-- The delta's history continues the held frame's without a gap. -/
def ContinuesScrollback (base delta : CellGridFrame) : Prop :=
  delta.scrollbackTotal.toNat = base.scrollbackTotal.toNat + delta.scrollbackAppend.length ∧
    ∀ (i : Nat) (row : CellRow), delta.scrollbackAppend[i]? = some row →
      row.index.toNat = base.scrollbackTotal.toNat + i

/-- What a delta has to be, against the replica it finds, to be part of a batch. -/
def Batchable (held delta : CellGridFrame) : Prop :=
  delta.full = false ∧ ContinuesScrollback held delta ∧ replica.answer held delta = true

variable {base delta : CellGridFrame} {i : Nat} {held : CellGridFrame} {self : BatchFold}

theorem ContinuesScrollback.length_le
    (h : ∀ (i : Nat) (row : CellRow), delta.scrollbackAppend[i]? = some row →
      row.index.toNat = base.scrollbackTotal.toNat + i) :
    delta.scrollbackAppend.length ≤ 2 ^ 32 := by
  by_contra hlong
  obtain ⟨row, hrow⟩ : ∃ row, delta.scrollbackAppend[2 ^ 32]? = some row :=
    ⟨_, List.getElem?_eq_getElem (Nat.lt_of_not_le hlong)⟩
  have hnumber := h _ row hrow
  have hlt := row.index.toNat_lt
  omega

theorem hasContiguousScrollbackAppend_iff :
    hasContiguousScrollbackAppend base delta = true ↔ ContinuesScrollback base delta := by
  have hbound := delta.scrollbackTotal.toNat_lt
  have hall : (delta.scrollbackAppend.zipIdx.all fun (row, offset) =>
      row.index.toNat == base.scrollbackTotal.toNat + offset) = true ↔
        ∀ (i : Nat) (row : CellRow), delta.scrollbackAppend[i]? = some row →
          row.index.toNat = base.scrollbackTotal.toNat + i := by
    simp only [List.all_eq_true, Prod.forall, List.mk_mem_zipIdx_iff_getElem?, beq_iff_eq]
    exact forall_comm
  unfold hasContiguousScrollbackAppend
  dsimp only
  constructor
  · intro h
    split at h
    · cases h
    split at h
    · cases h
    have hnumber := hall.mp h
    have hlen := ContinuesScrollback.length_le hnumber
    exact ⟨by omega, hnumber⟩
  · rintro ⟨htotal, hnumber⟩
    rw [if_neg (by omega), if_neg (by omega)]
    exact hall.mpr hnumber

/-! ## Marks -/

@[simp] theorem shiftMarks_length {rows shift : Nat} {marks : List Bool}
    (h : shift ≤ marks.length) : (shiftMarks rows shift marks).length = marks.length := by
  simp only [shiftMarks, List.length_mapIdx, List.length_append, List.length_drop]
  omega

theorem fill_true_getElem? {marks : List Bool} {changed : List UInt32}
    (h : (fill UInt32.toNat (fun _ => true) marks changed)[i]? = some false) :
    marks[i]? = some false ∧ i ∉ changed.map UInt32.toNat := by
  induction changed generalizing marks with
  | nil => exact ⟨h, by simp⟩
  | cons index changed ih =>
    rw [fill_cons] at h
    obtain ⟨hclear, hrest⟩ := ih h
    have hne : index.toNat ≠ i := by
      intro heq
      rw [heq, List.getElem?_set] at hclear
      simp at hclear
    rw [List.getElem?_set_ne hne] at hclear
    refine ⟨hclear, ?_⟩
    rw [List.map_cons, List.mem_cons, not_or]
    exact ⟨Ne.symm hne, hrest⟩

theorem markedRows_sublist (marks : List Bool) (rows : List CellRow) :
    (markedRows marks rows).Sublist rows := by
  have hfilter := (List.filter_sublist (l := rows.zipIdx)
    (p := fun (_, index) => marks[index]? = some true)).map Prod.fst
  rwa [List.zipIdx_map_fst] at hfilter

variable {frame : CellGridFrame}

theorem at?_markedRows (h : frame.Canonical) (marks : List Bool) (i : Nat) :
    at? slot (markedRows marks frame.viewportRows) i =
      if marks[i]? = some true then frame.viewportRows[i]? else none := by
  have hmem : ∀ row, row ∈ markedRows marks frame.viewportRows ↔
      ∃ j : Nat, frame.viewportRows[j]? = some row ∧ marks[j]? = some true := by
    intro row
    simp [markedRows, List.mk_mem_zipIdx_iff_getElem?]
  have hnd : ((markedRows marks frame.viewportRows).map slot).Nodup := by
    exact h.nodup.sublist ((markedRows_sublist marks _).map slot)
  split
  · rename_i hmark
    cases hrow : frame.viewportRows[i]? with
    | none =>
      rw [at?_eq_none_iff]
      intro hslot
      obtain ⟨row, hmarked, hkey⟩ := List.mem_map.mp hslot
      obtain ⟨j, hj, -⟩ := (hmem row).mp hmarked
      have hji : j = i := (h.position j row hj).symm.trans hkey
      rw [hji, hrow] at hj
      cases hj
    | some row =>
      rw [at?_eq_some_iff hnd, hmem]
      exact ⟨⟨i, hrow, hmark⟩, h.position i row hrow⟩
  · rename_i hmark
    rw [at?_eq_none_iff]
    intro hslot
    obtain ⟨row, hmarked, hkey⟩ := List.mem_map.mp hslot
    obtain ⟨j, hj, hset⟩ := (hmem row).mp hmarked
    have hji : j = i := (h.position j row hj).symm.trans hkey
    exact hmark (hji ▸ hset)

/-! ## The loop -/

def withHistory (frame : CellGridFrame) (history : List CellRow) : CellGridFrame :=
  { frame with scrollbackRows := history }

theorem applyDelta_withHistory (hdelta : delta.full = false) (history : List CellRow) :
    (withHistory base history).applyDelta delta = (base.applyDelta delta).map fun after =>
        withHistory after (history ++ delta.scrollbackAppend) := by
  have hcont : (withHistory base history).continues delta = base.continues delta := rfl
  have hrows : (withHistory base history).viewportRows = base.viewportRows := rfl
  unfold applyDelta applyDeltaWithHistory
  simp only [hdelta, Bool.false_eq_true, if_false, hcont, hrows]
  cases hcase : base.continues delta with
  | false => simp
  | true =>
    cases hclaim : claim slot (List.replicate base.viewportRows.length false)
      delta.viewportRows with
    | none => simp
    | some => rfl

theorem replica_answer_iff : replica.answer held frame = true ↔
      held.applyDelta frame = some (replica.next held frame) := by
  unfold Transducer.answer Transducer.next replica
  cases happly : held.applyDelta frame <;> simp [happly]

def appendedBy (deltas : List CellGridFrame) : List CellRow :=
  deltas.flatMap scrollbackAppend

theorem BatchFold.foldDelta_eq_some {next : BatchFold} : self.foldDelta delta = some next ↔
      delta.full = false ∧ ContinuesScrollback self.folded delta ∧
        ∃ folded, self.folded.applyDelta delta = some folded ∧
          self.advance delta folded (deltaViewportShift self.folded delta) = next := by
  rw [← hasContiguousScrollbackAppend_iff]
  unfold foldDelta
  cases delta.full with
  | true => simp
  | false =>
    cases hasContiguousScrollbackAppend self.folded delta with
    | false => simp
    | true => cases self.folded.applyDelta delta <;> simp

variable {history : List CellRow}

theorem BatchFold.foldDelta_follows (delta : CellGridFrame)
    (hfolded : self.folded = withHistory held history) :
    ((∃ next, self.foldDelta delta = some next) ↔ Batchable held delta) ∧
      ∀ next, self.foldDelta delta = some next →
        next.folded =
          withHistory (replica.next held delta) (history ++ delta.scrollbackAppend) := by
  have hscr : ContinuesScrollback self.folded delta ↔ ContinuesScrollback held delta := by
    rw [hfolded]
    rfl
  refine ⟨?_, ?_⟩
  · constructor
    · rintro ⟨next, hnext⟩
      obtain ⟨hdelta, hcont, _, happly, -⟩ := foldDelta_eq_some.mp hnext
      rw [hfolded, applyDelta_withHistory hdelta, Option.map_eq_some_iff] at happly
      obtain ⟨_, hafter, -⟩ := happly
      refine ⟨hdelta, hscr.mp hcont, ?_⟩
      rw [replica_answer_iff, replica_next, hafter]
      rfl
    · rintro ⟨hdelta, hcont, hacc⟩
      have happly : self.folded.applyDelta delta = some
          (withHistory (replica.next held delta) (history ++ delta.scrollbackAppend)) := by
        rw [hfolded, applyDelta_withHistory hdelta, replica_answer_iff.mp hacc]
        rfl
      exact ⟨_, foldDelta_eq_some.mpr ⟨hdelta, hscr.mpr hcont, _, happly, rfl⟩⟩
  · intro next hnext
    obtain ⟨hdelta, -, _, happly, rfl⟩ := foldDelta_eq_some.mp hnext
    rw [hfolded, applyDelta_withHistory hdelta, Option.map_eq_some_iff] at happly
    obtain ⟨_, hafter, hfold⟩ := happly
    rw [replica_next, hafter]
    exact hfold.symm

/-- Folding a batch is applying its deltas in turn. -/
theorem BatchFold.foldlM_follows
    (hfolded : self.folded = withHistory held history) (deltas : List CellGridFrame) :
    ((∃ final, deltas.foldlM foldDelta self = some final) ↔ replica.Along Batchable held deltas) ∧
      ∀ final, deltas.foldlM foldDelta self = some final →
        final.folded = withHistory (replica.run held deltas) (history ++ appendedBy deltas) ∧
          final.scrollbackAppend = self.scrollbackAppend ++ appendedBy deltas := by
  induction deltas generalizing self held history with
  | nil =>
    refine ⟨by simp [Transducer.Along], ?_⟩
    intro final hfinal
    cases hfinal
    simp [appendedBy, hfolded]
  | cons delta deltas ih =>
    obtain ⟨hstep, hnext⟩ := foldDelta_follows delta hfolded
    rw [List.foldlM_cons, Transducer.Along, ← hstep]
    cases hpass : self.foldDelta delta with
    | none => simp
    | some next =>
      obtain ⟨hiff, hrun⟩ := ih (hnext next hpass)
      refine ⟨by simpa using hiff, ?_⟩
      intro final hfinal
      obtain ⟨-, -, _, -, rfl⟩ := foldDelta_eq_some.mp hpass
      obtain ⟨hframe, hlines⟩ := hrun final hfinal
      refine ⟨?_, ?_⟩
      · simpa [appendedBy, List.append_assoc] using hframe
      · simpa [appendedBy, advance, List.append_assoc] using hlines

/-! ## The patch list -/

/-- The marks say enough: a clear mark stands over a row that is still the base's,
and there is none once the viewport has moved. -/
structure BatchFold.Marked (fold : BatchFold) (base : CellGridFrame) : Prop where
  canonical : fold.folded.Canonical
  length : fold.dirtyMarks.length = fold.folded.rows.toNat
  clear : ∀ i : Nat, fold.dirtyMarks[i]? = some false →
    fold.viewportShift = 0 ∧ fold.folded.viewportRows[i]? = base.viewportRows[i]?

theorem deltaViewportShift_le (base delta : CellGridFrame) :
    deltaViewportShift base delta ≤ base.rows.toNat := by
  unfold deltaViewportShift
  dsimp only
  split
  · exact Nat.zero_le _
  split
  · exact Nat.zero_le _
  split
  · split
    · exact Nat.min_le_right _ _
    · exact Nat.zero_le _
  · exact Nat.zero_le _

theorem BatchFold.Marked.start (h : base.Canonical) : (BatchFold.start base).Marked base where
  canonical := ⟨h.count, h.position⟩
  length := List.length_replicate
  clear := fun _ _ => ⟨rfl, rfl⟩

theorem BatchFold.Marked.advance_length (h : self.Marked base) (delta : CellGridFrame)
    {after : CellGridFrame} (hsame : after.rows = self.folded.rows) :
    (self.advance delta after (deltaViewportShift self.folded delta)).dirtyMarks.length =
      after.rows.toNat := by
  have hle := deltaViewportShift_le self.folded delta
  simp only [advance, fill_length]
  split
  · rw [shiftMarks_length (by rw [h.length]; exact hle), h.length, hsame]
  · rw [h.length, hsame]

theorem rowAt_isSome_of_shift (hcan : base.Canonical)
    (hlt : ∀ row ∈ delta.viewportRows, slot row < base.viewportRows.length)
    (hnd : (delta.viewportRows.map slot).Nodup) (hpos : 0 < deltaViewportShift base delta) (hi : i < base.rows.toNat) : delta.rowAt i ≠ none := by
  intro hcarries
  obtain ⟨row, hmem, hslot⟩ := exists_key_of_full hlt hnd
    ((deltaViewportShift_pos hpos).trans hcan.count.symm) (hcan.count ▸ hi)
  rw [rowAt, at?_eq_none_iff] at hcarries
  exact hcarries (List.mem_map.mpr ⟨row, hmem, hslot⟩)

theorem BatchFold.Marked.foldDelta {next : BatchFold}
    (h : self.Marked base) (hnext : self.foldDelta delta = some next) : next.Marked base := by
  obtain ⟨hdelta, -, after, happly, rfl⟩ := foldDelta_eq_some.mp hnext
  obtain ⟨hcan, hrows⟩ := h.canonical.applyDelta hdelta happly
  obtain ⟨hcont, ⟨hlt, hnd⟩, hfolded⟩ := (applyDelta_eq_some hdelta).mp happly
  have hsame : after.rows = self.folded.rows := by
    rw [← hfolded]
    exact (of_decide_eq_true hcont).2.2.2.2.2.1
  have hmarks := h.advance_length delta hsame
  refine ⟨hcan, hmarks, ?_⟩
  intro i hclear
  obtain ⟨hpre, hunnamed⟩ := fill_true_getElem? hclear
  have hcarries : delta.rowAt i = none := by
    rw [rowAt, at?_eq_none_iff]
    simpa [slot, Function.comp_def] using hunnamed
  have hi : i < self.folded.rows.toNat := by
    have hlt := (List.getElem?_eq_some_iff.mp hclear).1
    rw [hmarks, hsame] at hlt
    exact hlt
  cases Nat.eq_zero_or_pos (deltaViewportShift self.folded delta) with
  | inl hzero =>
    rw [hzero] at hpre
    obtain ⟨hshift, hrow⟩ := h.clear i (by simpa using hpre)
    have hstill : min after.rows 0 = 0 := by
      change (if after.rows ≤ 0 then after.rows else 0) = 0
      split
      · exact UInt32.le_antisymm ‹_› UInt32.zero_le
      · rfl
    refine ⟨by simpa [advance, hzero, hshift] using hstill, ?_⟩
    have hread := hrows i
    rw [hcarries, Option.none_or, hcan.rowAt_eq, h.canonical.rowAt_eq] at hread
    exact hread.trans hrow
  | inr hpos => exact absurd hcarries (rowAt_isSome_of_shift h.canonical hlt hnd hpos hi)

variable {deltas : List CellGridFrame}

theorem BatchFold.Marked.foldlM {final : BatchFold}
    (h : self.Marked base)
    (hfinal : deltas.foldlM BatchFold.foldDelta self = some final) : final.Marked base := by
  induction deltas generalizing self with
  | nil =>
    cases hfinal
    exact h
  | cons delta deltas ih =>
    obtain ⟨_, hnext, hrest⟩ := Option.bind_eq_some_iff.mp hfinal
    exact ih (h.foldDelta hnext) hrest

theorem BatchFold.Marked.at?_dirtyRows (h : self.Marked base) (hi : i < self.folded.rows.toNat) :
    (at? slot self.finish.dirtyRows i).or
        (base.viewportRows.rotate self.viewportShift.toNat)[i]? = self.folded.viewportRows[i]? := by
  obtain ⟨row, hrow⟩ : ∃ row, self.folded.viewportRows[i]? = some row :=
    ⟨_, List.getElem?_eq_getElem (h.canonical.count ▸ hi)⟩
  simp only [finish]
  split
  · have hfound := h.canonical.rowAt_eq i
    rw [rowAt, hrow] at hfound
    rw [hfound, hrow]
    rfl
  rw [at?_markedRows h.canonical]
  cases hmark : self.dirtyMarks[i]? with
  | none =>
    have hout := List.getElem?_eq_none_iff.mp hmark
    rw [h.length] at hout
    exact absurd hi (Nat.not_lt.mpr hout)
  | some mark =>
    cases mark with
    | true => simp [hrow]
    | false =>
      obtain ⟨hshift, hsame⟩ := h.clear i hmark
      simp [hshift, hsame]

theorem BatchFold.Marked.nodup_dirtyRows
    (h : self.Marked base) : (self.finish.dirtyRows.map slot).Nodup := by
  simp only [finish]
  split
  · exact h.canonical.nodup
  · exact h.canonical.nodup.sublist ((markedRows_sublist _ _).map slot)

theorem BatchFold.Marked.patch (h : self.Marked base)
    (hbase : base.viewportRows.length = self.folded.rows.toNat) :
    fill slot id (base.viewportRows.rotate self.viewportShift.toNat) self.finish.dirtyRows =
      self.folded.viewportRows := by
  apply List.ext_getElem?
  intro i
  rcases Nat.lt_or_ge i self.folded.rows.toNat with hi | hi
  · have hroom : i < (base.viewportRows.rotate self.viewportShift.toNat).length := by
      rw [List.length_rotate, hbase]
      exact hi
    rw [fill_getElem? id _ h.nodup_dirtyRows hroom, Option.map_id, id, h.at?_dirtyRows hi]
  · rw [List.getElem?_eq_none (by simpa [hbase] using hi),
      List.getElem?_eq_none (by rw [h.canonical.count]; exact hi)]

/-! ## The batch -/

/-- Batchable deltas keep the number of rows. -/
theorem rows_run
    (h : replica.Along Batchable base deltas) : (replica.run base deltas).rows = base.rows := by
  refine Transducer.Along.invariant (P := fun held => held.rows = base.rows) rfl ?_ h
  rintro held delta hheld ⟨hdelta, _, hacc⟩
  obtain ⟨hcont, -, hfolded⟩ :=
    (applyDelta_eq_some hdelta).mp (replica_answer_iff.mp hacc)
  rw [← hfolded, ← hheld]
  exact (of_decide_eq_true hcont).2.2.2.2.2.1

theorem count_of_batchable (h : Batchable base delta) :
    base.viewportRows.length = base.rows.toNat := by
  obtain ⟨hdelta, -, hacc⟩ := h
  obtain ⟨hcont, -, -⟩ := (applyDelta_eq_some hdelta).mp (replica_answer_iff.mp hacc)
  exact (of_decide_eq_true hcont).2.2.2.2.2.2.2.1

/-- A batch of deltas over a base whose rows stand where their index says folds
exactly when each delta in its turn is sparse, continues the history and is
accepted. The successor is the sequential one with the appended lines as its
history, and the base's viewport, moved by the shift and patched at the dirty
rows, is the successor's. -/
theorem foldCellDeltaBatch_sequential (base : CellGridFrame)
    (hbase : ∀ (i : Nat) (row : CellRow), base.viewportRows[i]? = some row → row.index.toNat = i)
    (deltas : List CellGridFrame) (hne : deltas ≠ []) :
    ((∃ batch, foldCellDeltaBatch base deltas = some batch) ↔ replica.Along Batchable base deltas) ∧
      ∀ batch, foldCellDeltaBatch base deltas = some batch → batch.frame =
            { replica.run base deltas with
              scrollbackRows := deltas.flatMap scrollbackAppend } ∧
          batch.scrollbackAppend = deltas.flatMap scrollbackAppend ∧
          fill slot id (base.viewportRows.rotate batch.viewportShift.toNat)
            batch.dirtyRows = batch.frame.viewportRows ∧
          (batch.viewportShift = batch.frame.rows →
            batch.dirtyRows = batch.frame.viewportRows) := by
  have hstart : (BatchFold.start base).folded = withHistory base [] := rfl
  obtain ⟨hiff, hres⟩ := BatchFold.foldlM_follows hstart deltas
  have hloop : ∀ batch, foldCellDeltaBatch base deltas = some batch ↔
      ∃ final, deltas.foldlM BatchFold.foldDelta (BatchFold.start base) = some final ∧
        final.finish = batch := by
    intro batch
    rw [foldCellDeltaBatch, List.isEmpty_eq_false_iff.mpr hne]
    exact Option.map_eq_some_iff
  refine ⟨?_, ?_⟩
  · rw [← hiff]
    constructor
    · rintro ⟨batch, hbatch⟩
      obtain ⟨final, hfinal, -⟩ := (hloop batch).mp hbatch
      exact ⟨final, hfinal⟩
    · rintro ⟨final, hfinal⟩
      exact ⟨_, (hloop _).mpr ⟨final, hfinal, rfl⟩⟩
  intro batch hbatch
  obtain ⟨final, hfinal, rfl⟩ := (hloop batch).mp hbatch
  have halong := hiff.mp ⟨final, hfinal⟩
  obtain ⟨hframe, hlines⟩ := hres final hfinal
  have hcount : base.viewportRows.length = base.rows.toNat := by
    cases deltas with
    | nil => exact absurd rfl hne
    | cons => exact count_of_batchable halong.1
  have hmarked := (BatchFold.Marked.start ⟨hcount, hbase⟩).foldlM hfinal
  have hrows : final.folded.rows = base.rows := by
    rw [hframe]
    exact rows_run halong
  refine ⟨hframe, hlines, hmarked.patch (by rw [hcount, hrows]), ?_⟩
  intro hshift
  exact if_pos hshift

/-- Two deltas for the top row of a two-row grid, as one batch. -/
theorem foldCellDeltaBatch_sequential_prompt : (∃ batch, foldCellDeltaBatch (twoRowHeld 0 1)
        [promptDelta, { promptDelta with baseSeq := 2, seq := 3 }] = some batch) ∧
      replica.Along Batchable (twoRowHeld 0 1)
        [promptDelta, { promptDelta with baseSeq := 2, seq := 3 }] := by
  have hbatch : (foldCellDeltaBatch (twoRowHeld 0 1)
      [promptDelta, { promptDelta with baseSeq := 2, seq := 3 }]).isSome := by decide +kernel
  have hsome := Option.isSome_iff_exists.mp hbatch
  refine ⟨hsome, (foldCellDeltaBatch_sequential (twoRowHeld 0 1) ?_ _ (by simp)).1.mp hsome⟩
  intro i row hrow
  match i, hrow with
  | 0, hrow => cases hrow; rfl
  | 1, hrow => cases hrow; rfl

end Roost.Cell
