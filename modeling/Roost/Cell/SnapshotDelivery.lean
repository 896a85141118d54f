-- SUMMARY: A planned snapshot delivered: the parts complete to the frame.
import Mathlib.Algebra.Order.BigOperators.Group.List
import Mathlib.Algebra.Order.Group.Nat
import Roost.Cell.ChunkRoundTrip
import Roost.Cell.Encode

/-!
# Delivering a snapshot

One source is planned with the widest fan-out stamp. Every recipient's copy carries the
stamp of its own send, so a delivered part is never larger than the planned one, and what
the parts are put together to is a valid snapshot again.
-/

namespace Roost.Cell

open UInt32 (not_le ofNat size toNat_ofNat_of_lt')
open Except (bind_eq_ok mapM_accepts mapM_eq_ok ok)

open List

open CellGridFrame CellGridSnapshotSource PbCellRow

/-! ## Valid snapshots decode -/

theorem markSeen_accepts {rows : UInt32} {seen : List Bool} {seenCount : Nat}
    {list : List PbCellRow} (hlt : ∀ row ∈ list, row.index < rows) (hnd : (list.map index).Nodup)
    (hfresh : ∀ row ∈ list, seen[row.index.toNat]?.getD false = false) :
    markSeen rows seen seenCount list = .ok (seenCount + list.length) := by
  induction list generalizing seen seenCount with
  | nil => rfl
  | cons row rest ih =>
    rw [map_cons, nodup_cons] at hnd
    have hrange : ¬row.index ≥ rows := not_le.mpr (hlt row mem_cons_self)
    have hnew : ¬(seen[row.index.toNat]?.getD false = true) := by
      simp [hfresh row mem_cons_self]
    have hrest : ∀ other ∈ rest,
        (seen.set row.index.toNat true)[other.index.toNat]?.getD false = false := by
      intro other hmem
      have hne : row.index.toNat ≠ other.index.toNat := by
        intro heq
        exact hnd.1 (mem_map.mpr ⟨other, hmem, (UInt32.toNat_inj.mp heq).symm⟩)
      rw [getElem?_set_ne hne]
      exact hfresh other (mem_cons_of_mem _ hmem)
    have htail : markSeen rows (seen.set row.index.toNat true) (seenCount + 1) rest =
        .ok (seenCount + 1 + rest.length) :=
      ih (fun other hmem => hlt other (mem_cons_of_mem _ hmem)) hnd.2 hrest
    rw [markSeen, if_neg hrange, if_neg hnew, htail, length_cons]
    congr 1
    omega

theorem assertHistoryOrder_accepts {sbBase : UInt64} {offset : Nat} {rows : List PbCellRow}
    (h : rows.map (fun row => row.index.toNat) = range' (sbBase.toNat + offset) rows.length) :
    assertHistoryOrder sbBase offset rows = .ok () := by
  induction rows generalizing offset with
  | nil => rfl
  | cons row rest ih =>
    rw [length_cons, range'_succ, map_cons, cons.injEq] at h
    rw [assertHistoryOrder, if_neg (not_not.mpr h.1)]
    exact ih h.2

section Valid

variable {frame : PbCellGridFrame} (h : ValidSnapshot frame)
include h

theorem ValidSnapshot.fields :
    (frame.full = true ∧ frame.baseSeq = 0 ∧ frame.scrollbackAppend = []) ∧
      assertFrameSequence frame = .ok () := by
  have hscalar := h.scalars
  simp only [assertSnapshotScalars, ite_reject_eq_ok, Bool.or_eq_true, Bool.not_eq_true',
    bne_iff_ne, ne_eq, not_or, not_not, Bool.not_eq_false, List.isEmpty_iff] at hscalar
  obtain ⟨⟨hfull, hbase⟩, huuid, hepoch, -, hseq, happend, -⟩ := hscalar
  refine ⟨⟨hfull, hbase, happend⟩, ?_⟩
  simp [assertFrameSequence, assertFrameIdentity, hfull, hbase, huuid, hepoch, hseq]

theorem ValidSnapshot.frameStructure : assertFrameStructure frame = .ok () := by
  obtain ⟨⟨hfull, -, happend⟩, -⟩ := h.fields
  have hgeom := assertSnapshotScalars_geometry h.scalars
  have hseen : markSeen frame.rows (replicate frame.rows.toNat false) 0 frame.viewportRows =
      .ok frame.rows.toNat := by
    rw [markSeen_accepts h.viewport.index h.viewport.nodup, Nat.zero_add, h.rowCount]
    intro row _
    cases hflag : (replicate frame.rows.toNat false)[row.index.toNat]? with
    | none => rfl
    | some => exact eq_of_mem_replicate (mem_of_getElem? hflag)
  have hend := h.historyEnd
  have hbase : ¬(frame.sbBase > frame.scrollbackTotal ∨
      frame.scrollbackRows.length ≠ frame.scrollbackTotal.toNat - frame.sbBase.toNat) := by
    rw [gt_iff_lt, UInt64.lt_iff_toNat_lt]
    omega
  have horder : assertHistoryOrder frame.sbBase 0 frame.scrollbackRows = .ok () :=
    assertHistoryOrder_accepts h.history.index
  simp only [assertFrameStructure, assertTerminalGeometry, hgeom, if_true,
    bind_eq_ok, Except.mapError_eq_ok, hseen, ok.injEq, exists_eq_left', hfull,
    Bool.not_true, Bool.false_eq_true, if_false, Except.ite_error_eq_ok, happend]
  exact ⟨not_not.mpr rfl, by simp, hbase, horder⟩

theorem ValidSnapshot.decodes {placements : Option (List ImagePlacement)}
    (hplace : placementsFromProto frame = .ok placements) :
    ∃ value, protoToCellFrame frame = .ok value := by
  obtain ⟨⟨-, -, happend⟩, hsequence⟩ := h.fields
  obtain ⟨viewport, hport⟩ := mapM_accepts h.viewport.spans
  obtain ⟨history, hhistory⟩ := mapM_accepts h.history.spans
  have happ : decodeRows frame.scrollbackAppend 0 = .ok [] := by
    rw [happend]
    rfl
  have hdecode : ∃ value, protoToCellFrame frame = .ok value := by
    simp only [protoToCellFrame, bind_eq_ok]
    exact ⟨_, (), hsequence, (), h.frameStructure, viewport, hport, history, hhistory, [],
      happ, placements, hplace, rfl⟩
  exact hdecode

end Valid

/-! ## A decoded snapshot is encoded to a valid one -/

def DecodesTo (maxColumns : UInt32) : List PbCellRow → List CellRow → Prop :=
  List.Forall₂ fun wire row => cellRowFromProtoBounded wire maxColumns = .ok row

theorem spanLink?_reencoded {wire : PbCellSpan} {pos : Nat} {span : CellSpan}
    (h : spanFromProto wire pos = .ok span) : spanLink? (spanToProto span) = spanLink? wire := by
  simp only [spanFromProto, bind_eq_ok, ok.injEq] at h
  obtain ⟨_, -, _, -, _, -, rfl⟩ := h
  rfl

theorem cellRow_reencoded {wire : PbCellRow} {maxColumns : UInt32} {row : CellRow}
    (h : cellRowFromProtoBounded wire maxColumns = .ok row) :
    (cellRowToProto row).spans.length = wire.spans.length ∧
      (cellRowToProto row).spans.filterMap spanLink? = wire.spans.filterMap spanLink? := by
  simp only [cellRowFromProtoBounded, checkedRow, bind_eq_ok, ok.injEq] at h
  obtain ⟨spans, hspans, _, -, rfl⟩ := h
  have hall := mapM_eq_ok.mp hspans
  have hlen : wire.spans.length = spans.length := by simpa using hall.length_eq
  have hlinks : ∀ (list : List PbCellSpan) (start : Nat) (dec : List CellSpan),
      List.Forall₂ (fun (entry : PbCellSpan × Nat) span => spanFromProto entry.1 entry.2 = .ok span)
        (list.zipIdx start) dec →
      (dec.map spanToProto).filterMap spanLink? = list.filterMap spanLink? := by
    intro list
    induction list with
    | nil =>
      intro start dec hdec
      cases hdec
      rfl
    | cons span list ih =>
      intro start dec hdec
      cases hdec with
      | cons hspan hrest =>
        rw [map_cons, filterMap_cons, filterMap_cons, spanLink?_reencoded hspan, ih _ _ hrest]
  refine ⟨?_, hlinks _ 0 _ hall⟩
  simp [cellRowToProto, CellRow.withMark, hlen]

section Reencoded

variable {maxColumns : UInt32} {wires : List PbCellRow} {rows : List CellRow}
  (h : DecodesTo maxColumns wires rows)
include h

theorem DecodesTo.index : (rows.map cellRowToProto).map index = wires.map index := by
  have hindex := decodeRows_index (mapM_eq_ok.mpr h)
  rw [← hindex, map_map]
  rfl

theorem DecodesTo.rowOk : ∀ row ∈ rows.map cellRowToProto, RowOk row maxColumns := by
  intro row hmem
  obtain ⟨_, hvalue, rfl⟩ := mem_map.mp hmem
  obtain ⟨i, hi, rfl⟩ := getElem_of_mem hvalue
  have hdec := List.Forall₂.get h (h.length_eq.symm ▸ hi) hi
  exact ⟨rows[i], (cellRowFromProtoBounded_decoded hdec).roundTrip⟩

theorem DecodesTo.charges : spanTotal (rows.map cellRowToProto) = spanTotal wires ∧
    rowLinks (rows.map cellRowToProto) = rowLinks wires := by
  induction h with
  | nil => exact ⟨rfl, rfl⟩
  | cons hrow _ ih =>
    obtain ⟨hspans, hlinks⟩ := cellRow_reencoded hrow
    unfold spanTotal rowLinks at ih ⊢
    simp only [map_cons, sum_cons, flatMap_cons]
    rw [hspans, hlinks, ih.1, ih.2]
    exact ⟨rfl, rfl⟩

end Reencoded

theorem ValidSnapshot.reencoded {wire : PbCellGridFrame} {frame : CellGridFrame}
    (h : ValidSnapshot wire) (hdecode : protoToCellFrame wire = .ok frame) (sid : String) :
    ValidSnapshot (frameToProto frame.normalizeCellGridFrame sid) ∧ (∃ placements,
        placementsFromProto (frameToProto frame.normalizeCellGridFrame sid) = .ok placements) ∧
      (frameToProto frame.normalizeCellGridFrame sid).viewportRows.map index =
        wire.viewportRows.map index := by
  simp only [protoToCellFrame, bind_eq_ok, ok.injEq] at hdecode
  obtain ⟨_, -, _, -, viewport, hport, _, -, _, -, _, hplace, rfl⟩ := hdecode
  have hrows : DecodesTo wire.cols wire.viewportRows viewport := mapM_eq_ok.mp hport
  have hindex := hrows.index
  have hlen := congrArg length hindex
  simp only [length_map] at hlen
  have hacc := h.account.mono (sublist_append_left _ _).subperm
  obtain ⟨hspans, hlinks⟩ := hrows.charges
  have hscalar := h.scalars
  simp only [assertSnapshotScalars, ite_reject_eq_ok] at hscalar
  obtain ⟨_, huuid, hepoch, hgeom, hseq, -, -, -⟩ := hscalar
  refine ⟨⟨?_, ⟨?_, hrows.rowOk, ?_, by simp⟩, ?_, ?_, ?_, ?_⟩, ?_, hindex⟩
  · simp only [assertSnapshotScalars, ite_reject_eq_ok]
    exact ⟨by simp [frameToProto, normalizeCellGridFrame], huuid, hepoch, hgeom,
      hseq, by simp [frameToProto, normalizeCellGridFrame],
      by simp [frameToProto, normalizeCellGridFrame], trivial⟩
  · intro row hmem
    have hin : row.index ∈ wire.viewportRows.map index := by
      rw [← hindex]
      exact mem_map_of_mem hmem
    obtain ⟨other, hother, heq⟩ := mem_map.mp hin
    exact heq ▸ h.viewport.index other hother
  · exact hindex ▸ h.viewport.nodup
  · exact (length_map _).trans (hlen.trans h.rowCount)
  · exact ⟨rfl, by simp [frameToProto, normalizeCellGridFrame],
      by simp [frameToProto, normalizeCellGridFrame]⟩
  · rfl
  · change Accountable (viewport.map cellRowToProto ++ [])
    rw [append_nil]
    exact ⟨hspans ▸ hacc.spans, hlinks ▸ hacc.links⟩
  · exact ⟨_, placementsFromProto_encoded hplace rfl rfl⟩

/-! ## Every part of a plan is materialised -/

variable {sizes : Sizes} {frame : PbCellGridFrame} {snapshotId : String}

def PlanBudget.Fits (sizes : Sizes) (budget : PlanBudget) (encodedPartBytes : Nat) : Prop :=
  sizes.encodedChunkBytes budget.largestHeaderBytes budget.tagBytes encodedPartBytes ≤
    cellGridPartMaxBytes

/-- What the planner has closed fits, and so does what it is filling. -/
structure PlanFits (sizes : Sizes) (budget : PlanBudget) (state : PlanState) : Prop where
  closed : ∀ part ∈ state.parts, budget.Fits sizes part.encodedPartBytes
  filling : state.entries ≠ [] → budget.Fits sizes state.encodedPartBytes

/-- A planned row keeps every part within the limit. -/
theorem PlanFits.step {budget : PlanBudget} {state state' : PlanState} {entry : SnapshotEntry}
    (h : PlanFits sizes budget state) (hok : planEntry sizes frame budget state entry = .ok state') :
    PlanFits sizes budget state' := by
  simp only [planEntry, bind_eq_ok, SnapshotEntry.row_eq_ok] at hok
  obtain ⟨_, -, hok⟩ := hok
  split at hok
  · rename_i hfits
    cases hok
    exact ⟨h.closed, fun _ => hfits⟩
  simp only [ite_reject_eq_ok, ok.injEq, Nat.not_lt] at hok
  obtain ⟨hopen, hfits, rfl⟩ := hok
  refine ⟨?_, fun _ => hfits⟩
  intro part hmem
  rcases mem_append.mp hmem with hmem | hmem
  · exact h.closed part hmem
  · obtain rfl := mem_singleton.mp hmem
    exact h.filling (by simpa using hopen)

variable {parts : List PlannedSnapshotPart}

theorem planSnapshotParts_fits
    (h : planSnapshotParts sizes frame = .ok parts) :
    ∀ part ∈ parts, (planBudget sizes frame).Fits sizes part.encodedPartBytes := by
  simp only [planSnapshotParts, bind_eq_ok, ite_reject_eq_ok, ok.injEq] at h
  obtain ⟨state, hstate, -, -, rfl⟩ := h
  have hfits : PlanFits sizes (planBudget sizes frame) state :=
    Except.foldlM_keeps (R := fun _ state => PlanFits sizes (planBudget sizes frame) state)
      (fun _ _ _ _ h hok => h.step hok) ⟨by simp, by simp⟩ hstate
  intro part hmem
  unfold PlanState.close at hmem
  split at hmem
  · exact hfits.closed part hmem
  rename_i hopen
  rcases mem_append.mp hmem with hmem | hmem
  · exact hfits.closed part hmem
  · obtain rfl := mem_singleton.mp hmem
    exact hfits.filling (by simpa using hopen)

theorem PlannedFor.rows_eq_ok {part : PlannedSnapshotPart} (h : PlannedFor sizes frame part) :
    ∃ rows, part.rows frame = .ok rows := by
  refine mapM_accepts ?_
  intro entry hmem
  obtain ⟨row, hrow⟩ := h.charges.found entry hmem
  refine ⟨(entry.history, row), ?_⟩
  simp only [bind_eq_ok, SnapshotEntry.row_eq_ok, hrow]
  exact ⟨row, rfl, rfl⟩

section Planned

variable (hadd : sizes.Additive) (hgrows : sizes.Grows)
  (hid : isTerminalUuid snapshotId = true) {parts : List PlannedSnapshotPart}
  (hplan : planSnapshotParts sizes frame = .ok parts)
include hadd hgrows hid hplan

variable {part : PlannedSnapshotPart}

theorem plannedChunk_le {index : Nat}
    (hpart : parts[index]? = some part) :
    sizes.chunkLen (plannedChunk frame snapshotId parts.length part index) ≤
      cellGridPartMaxBytes := by
  obtain ⟨-, hparts, -, hcount, -⟩ := planSnapshotParts_eq_ok hplan
  have hmem := List.mem_of_getElem? hpart
  have hfits := planSnapshotParts_fits hplan part hmem
  obtain ⟨hlt, -⟩ := List.getElem?_eq_some_iff.mp hpart
  have hmax : cellGridSnapshotMaxChunks.toNat = 256 := rfl
  have hlast : (cellGridSnapshotMaxChunks - 1).toNat = 255 := rfl
  have hsize : (256 : Nat) < size := by decide
  have hheader : sizes.chunkHeaderBytes planningSnapshotId (ofNat index)
      (ofNat parts.length) ≤ (planBudget sizes frame).largestHeaderBytes := by
    refine hgrows.header planningSnapshotId ?_ ?_
    · rw [UInt32.le_iff_toNat_le, toNat_ofNat_of_lt' (by omega), hlast]
      omega
    · rw [UInt32.le_iff_toNat_le, toNat_ofNat_of_lt' (by omega)]
      exact hcount
  rw [plannedChunk_bytes hadd hid (hparts part hmem)]
  refine Nat.le_trans ?_ hfits
  unfold Sizes.encodedChunkBytes
  omega

theorem materialize_planned {index : Nat}
    (hpart : parts[index]? = some part) : CellGridSnapshotCursor.materialize sizes
      { source := { frame, parts := some parts }, snapshotId
        partCount := ofNat parts.length } (ofNat index) =
      .ok (.chunk (plannedChunk frame snapshotId parts.length part index)) := by
  obtain ⟨-, hparts, -, hcount, -⟩ := planSnapshotParts_eq_ok hplan
  obtain ⟨rows, hrows⟩ := (hparts part (List.mem_of_getElem? hpart)).rows_eq_ok
  have hbytes := plannedChunk_le hadd hgrows hid hplan hpart
  obtain ⟨hlt, -⟩ := List.getElem?_eq_some_iff.mp hpart
  have hmax : cellGridSnapshotMaxChunks.toNat = 256 := rfl
  have hsize : (256 : Nat) < size := by decide
  have hindex : (ofNat index).toNat = index := toNat_ofNat_of_lt' (by omega)
  have hinside : ¬ofNat index ≥ ofNat parts.length := by
    rw [ge_iff_le, not_le, UInt32.lt_iff_toNat_lt, hindex, toNat_ofNat_of_lt' (by omega)]
    exact hlt
  simp only [CellGridSnapshotCursor.materialize, ite_reject_eq_ok, bind_eq_ok, hindex,
    hpart, Option.getD_some]
  refine ⟨hinside, rows, hrows, ?_⟩
  rw [familyRows_of_rows hrows, familyRows_of_rows hrows]
  exact ⟨Nat.not_lt.mpr hbytes, rfl⟩

end Planned

/-! ## The stamp of a send -/

def PbCellGridChunk.stamped (chunk : PbCellGridChunk) (fanoutMs : UInt64) : PbCellGridChunk :=
  { chunk with part := chunk.part.map fun part => { part with coordFanoutMs := fanoutMs } }

/-- A part as it goes on the wire for one recipient. -/
def CellGridSnapshotPart.outboundCopy (fanoutMs : UInt64) :
    CellGridSnapshotPart → CellGridSnapshotPart
  | .frame grid => .frame { grid with coordFanoutMs := fanoutMs }
  | .chunk piece => .chunk (piece.stamped fanoutMs)

/-- The parts one socket sends of a source: under its own snapshot id, all with the stamp of
the snapshot. -/
def CellGridSnapshotSource.outbound (sizes : Sizes) (source : CellGridSnapshotSource)
    (snapshotId : String) (fanoutMs : UInt64) : ChunkResult (List CellGridSnapshotPart) := do
  let cursor ← source.createCursor snapshotId
  (range cursor.partCount.toNat).mapM fun partIndex => do
    let part ← cursor.materialize sizes (ofNat partIndex)
    .ok (part.outboundCopy fanoutMs)

theorem outbound_whole (frame : PbCellGridFrame) (snap : String) (fanoutMs : UInt64) :
    ({ frame, parts := none } : CellGridSnapshotSource).outbound sizes snap fanoutMs =
      .ok [.frame { frame with coordFanoutMs := fanoutMs }] := rfl

theorem outbound_planned (hadd : sizes.Additive) (hgrows : sizes.Grows)
    (hid : isTerminalUuid snapshotId = true)
    (hplan : planSnapshotParts sizes frame = .ok parts) (fanoutMs : UInt64) :
    ({ frame, parts := some parts } : CellGridSnapshotSource).outbound sizes snapshotId fanoutMs =
      .ok ((plannedChunks frame snapshotId parts).map fun chunk => .chunk (chunk.stamped fanoutMs)) := by
  obtain ⟨-, -, -, hcount, -⟩ := planSnapshotParts_eq_ok hplan
  have hmax : cellGridSnapshotMaxChunks.toNat = 256 := rfl
  have hpartCount : min parts.length (2 ^ 32 - 1) = parts.length := by omega
  have hrange : (ofNat parts.length).toNat = parts.length :=
    toNat_ofNat_of_lt' (by rw [size]; omega)
  simp only [outbound, createCursor,
    partCount, hid, Option.isSome_some, Bool.not_true, Bool.and_false,
    Bool.false_eq_true, if_false, bind_eq_ok, ok.injEq, exists_eq_left', hpartCount,
    hrange]
  rw [mapM_eq_ok, forall₂_iff_get]
  refine ⟨by simp [plannedChunks], ?_⟩
  intro i hi hi'
  rw [length_range] at hi
  have hpart : parts[i]? = some parts[i] := getElem?_eq_getElem hi
  have hpart' := materialize_planned hadd hgrows hid hplan hpart
  simp only [get_eq_getElem, getElem_range, bind_eq_ok, hpart', ok.injEq,
    exists_eq_left', getElem_map, plannedChunks, getElem_zipIdx, Nat.zero_add]
  rfl

section Stamped

variable (hadd : sizes.Additive) (hgrows : sizes.Grows) {fanoutMs : UInt64}
include hadd hgrows

theorem chunkLen_stamped {chunk : PbCellGridChunk} {part : PbCellGridFrame}
    (hpart : chunk.part = some part) (hle : fanoutMs ≤ part.coordFanoutMs) :
    sizes.chunkLen (chunk.stamped fanoutMs) ≤ sizes.chunkLen chunk := by
  obtain ⟨tag, htag⟩ := hadd.chunk
  have hframe : sizes.frameLen { part with coordFanoutMs := fanoutMs } ≤ sizes.frameLen part :=
    hgrows.coordFanoutMs part hle
  have hvarint := hgrows.varintLen hframe
  have hstamp : (chunk.stamped fanoutMs).part = some { part with coordFanoutMs := fanoutMs } := by
    simp [PbCellGridChunk.stamped, hpart]
  have hrest : { chunk.stamped fanoutMs with part := none } = { chunk with part := none } := rfl
  rw [htag chunk part hpart, htag _ _ hstamp, hrest]
  omega

theorem Cuts.stamped {chunks : List PbCellGridChunk} (h : Cuts sizes frame snapshotId chunks)
    (hle : fanoutMs ≤ frame.coordFanoutMs) :
    Cuts sizes { frame with coordFanoutMs := fanoutMs } snapshotId
      (chunks.map fun chunk => chunk.stamped fanoutMs) := by
  have hshr : ∀ chunk ∈ chunks, sizes.chunkLen (chunk.stamped fanoutMs) ≤ sizes.chunkLen chunk := by
    intro chunk hmem
    obtain ⟨i, hi⟩ := mem_iff_getElem?.mp hmem
    obtain ⟨rows, scrollbackRows, -, hchunk, -⟩ := h.parts i chunk hi
    have hpart : chunk.part = some (createCellGridFramePart frame rows scrollbackRows) := by
      rw [hchunk]
    exact chunkLen_stamped hadd hgrows hpart hle
  have hrows : ∀ family : PbCellGridFrame → List PbCellRow,
      (∀ part, family { part with coordFanoutMs := fanoutMs } = family part) →
      (chunks.map fun chunk => chunk.stamped fanoutMs).flatMap
          (fun chunk => (chunk.part.map family).getD []) =
        chunks.flatMap fun chunk => (chunk.part.map family).getD [] := by
    intro family hfamily
    rw [flatMap_map]
    congr 1
    funext chunk
    cases hpart : chunk.part with
    | none => simp [PbCellGridChunk.stamped, hpart]
    | some => simp [PbCellGridChunk.stamped, hpart, hfamily]
  refine ⟨?_, ?_, ?_, ?_, ?_, ?_⟩
  · simpa using h.nonempty
  · simpa using h.count
  · intro i stamped hstamp
    rw [getElem?_map, Option.map_eq_some_iff] at hstamp
    obtain ⟨chunk, hchunk, rfl⟩ := hstamp
    have hshrink := hshr chunk (mem_of_getElem? hchunk)
    obtain ⟨rows, scrollbackRows, hnon, heq, hbytes⟩ := h.parts i chunk hchunk
    refine ⟨rows, scrollbackRows, hnon, ?_, Nat.le_trans hshrink hbytes⟩
    rw [heq, length_map]
    rfl
  · rw [map_map]
    exact Nat.le_trans (sum_le_sum hshr) h.bytes
  · have hport := hrows PbCellGridFrame.viewportRows fun _ => rfl
    unfold viewportOf
    rw [hport]
    exact h.viewport
  · have hhistory := hrows PbCellGridFrame.scrollbackRows fun _ => rfl
    unfold historyOf
    rw [hhistory]
    exact h.history

end Stamped

theorem ValidSnapshot.stamped (h : ValidSnapshot frame) (recvMs fanoutMs : UInt64) :
    ValidSnapshot { frame with coordRecvMs := recvMs, coordFanoutMs := fanoutMs } where
  scalars := h.scalars
  viewport := ViewportFits.congr (a := frame) rfl rfl h.viewport
  rowCount := h.rowCount
  history := HistoryFits.congr (a := frame) rfl h.history
  historyEnd := h.historyEnd
  account := h.account

theorem ValidSnapshot.received (h : ValidSnapshot frame) :
    ValidSnapshot (receivedFrame frame) ∧ InOrder (receivedFrame frame).viewportRows := by
  have hlt := h.viewport.slot_lt
  have hnd := h.viewport.slot_nodup
  have hcoll := Slots.collect_eq_mergeSort hlt hnd h.rowCount
  have hrows : (receivedFrame frame).viewportRows =
      Slots.collect rowSlot frame.rows.toNat frame.viewportRows := hcoll.symm
  have hperm : (receivedFrame frame).viewportRows.Perm frame.viewportRows := by
    rw [hrows]
    exact Slots.collect_perm hlt hnd h.rowCount
  refine ⟨⟨?_, ?_, ?_, ?_, h.historyEnd, ?_⟩, ?_⟩
  · exact h.scalars
  · exact ViewportFits.congr (a := frame) rfl rfl (h.viewport.perm hperm)
  · exact hperm.length_eq.trans h.rowCount
  · exact HistoryFits.congr (a := frame) rfl h.history
  · exact h.account.mono (hperm.append_right _).subperm
  intro i row hrow
  have hkeys := Slots.collect_map_key hlt hnd h.rowCount
  rw [← hrows] at hkeys
  have hi := congrArg (fun list => list[i]?) hkeys
  simp only [List.getElem?_map, hrow, Option.map_some] at hi
  obtain ⟨_, heq⟩ := List.getElem?_eq_some_iff.mp hi.symm
  rw [List.getElem_range] at heq
  exact heq.symm

end Roost.Cell
