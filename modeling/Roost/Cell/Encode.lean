-- SUMMARY: Rows and placements encoded for the wire decode to what they were.
import Roost.Cell.ViewportCheckpoint

/-!
# The encoder

The identity of a frame is checked before it is encoded and its structure on what was
built, so a frame that cannot be painted is never handed on. A row or a placement a decoder
accepted is encoded to one that decodes to it again.
-/

namespace Roost.Cell

open Except (bind_eq_ok ite_error_eq_ok mapM_eq_ok ok)

/-- One internal span as the wire spells it. -/
def spanToProto (span : CellSpan) : PbCellSpan :=
  { text := span.text, fg := span.fg.toUInt32, bg := span.bg.toUInt32
    flags := span.flags.toUInt32, fgRgb := span.fgRgb, bgRgb := span.bgRgb
    columns := span.columns, linkUri := span.linkUri, linkKey := span.linkKey }

/-- One internal row as the wire spells it. -/
def cellRowToProto (row : CellRow) : PbCellRow :=
  { index := row.index, spans := row.spans.map spanToProto
    mark := (row.mark &&& knownMarks).toUInt32 }

def MouseTracking.toRaw : MouseTracking → UInt32
  | .none => 0
  | .pressRelease => 1000
  | .buttonMotion => 1002
  | .unknown raw => raw

def placementToProto (placement : ImagePlacement) : PbImagePlacement :=
  { imageKey := placement.imageKey, row := placement.row, col := placement.col.toUInt32
    columns := placement.columns.toUInt32, rows := placement.rows.toUInt32
    sourceX := placement.sourceX, sourceY := placement.sourceY
    sourceWidth := placement.sourceWidth, sourceHeight := placement.sourceHeight
    imageWidth := placement.imageWidth, imageHeight := placement.imageHeight
    offsetXPx := placement.offsetXPx.toUInt32, offsetYPx := placement.offsetYPx.toUInt32
    zIndex := placement.zIndex }

/-- The frame's placements as the wire spells them, with the presence flag. -/
def placementsToProto : Option (List ImagePlacement) → List PbImagePlacement × Bool
  | none => ([], false)
  | some placements => (placements.map placementToProto, true)

/-- A frame as the wire spells it, before its structure is checked. -/
def frameToProto (frame : CellGridFrame) (sessionId : String) : PbCellGridFrame :=
  { sessionId
    streamId := frame.streamId
    gridEpoch := frame.gridEpoch
    cols := frame.cols
    rows := frame.rows
    cursorRow := frame.cursorRow
    cursorCol := frame.cursorCol
    cursorVisible := frame.cursorVisible
    altScreen := frame.altScreen
    full := frame.full
    viewportRows := frame.viewportRows.map cellRowToProto
    scrollbackRows := frame.scrollbackRows.map cellRowToProto
    scrollbackAppend := frame.scrollbackAppend.map cellRowToProto
    scrollbackTotal := frame.scrollbackTotal
    seq := frame.seq
    sbBase := frame.sbBase
    cursorKeysApp := frame.cursorKeysApp
    bracketedPaste := frame.bracketedPaste
    mouseTracking := frame.mouseTracking.toRaw
    mouseSgr := frame.mouseSgr
    kittyKeyboardFlags := frame.kittyKeyboardFlags.toUInt32
    focusEvents := frame.focusEvents
    baseSeq := frame.baseSeq
    imagePlacements := (placementsToProto frame.imagePlacements).1
    imagePlacementsPresent := (placementsToProto frame.imagePlacements).2 }

/-- One whole frame out to the wire. -/
def cellFrameToProto (frame : CellGridFrame) (sessionId : String) :
    ProtocolResult PbCellGridFrame := do
  assertFrameIdentity frame.streamId frame.gridEpoch frame.full frame.baseSeq frame.seq
  let proto := frameToProto frame sessionId
  assertFrameStructure proto
  .ok proto

/-! ## Decoding what was encoded -/

theorem narrowSpanField_toUInt32 (pos : Nat) (name : String) (value : UInt16) :
    narrowSpanField pos name value.toUInt32 = .ok value := by
  simpa [narrowSpanField] using value.toNat_lt

theorem narrowPlacementField_toUInt32 (pos : Nat) (name : String) (value : UInt16) :
    narrowPlacementField pos name value.toUInt32 = .ok value := by
  simpa [narrowPlacementField] using value.toNat_lt

structure CellRow.Decoded (row : CellRow) (maxColumns : UInt32) : Prop where
  mark : row.mark &&& knownMarks = row.mark
  spans : assertCellRowSpans row maxColumns = .ok ()

theorem cellRowFromProtoBounded_decoded {wire : PbCellRow} {maxColumns : UInt32} {row : CellRow}
    (h : cellRowFromProtoBounded wire maxColumns = .ok row) : row.Decoded maxColumns := by
  simp only [cellRowFromProtoBounded, checkedRow, bind_eq_ok, ok.injEq] at h
  obtain ⟨_, -, _, hspans, rfl⟩ := h
  refine ⟨?_, hspans⟩
  simp only [CellRow.withMark, UInt8.and_assoc, UInt8.and_self]

theorem CellRow.Decoded.roundTrip {row : CellRow} {maxColumns : UInt32} (h : row.Decoded maxColumns)
    : cellRowFromProtoBounded (cellRowToProto row) maxColumns = .ok row := by
  have hspans : (row.spans.map spanToProto).zipIdx.mapM
      (fun span => spanFromProto span.1 span.2) = .ok row.spans := by
    rw [mapM_eq_ok, List.forall₂_iff_get]
    refine ⟨by simp, ?_⟩
    intro i hi hi'
    simp [spanFromProto, spanToProto, narrowSpanField_toUInt32, bind_eq_ok]
  have hrow : CellRow.withMark row.index row.spans (row.mark &&& knownMarks).toUInt32.toUInt8 =
      row := by
    simp only [CellRow.withMark, h.mark, UInt8.toUInt8_toUInt32]
  simp only [cellRowFromProtoBounded, checkedRow, bind_eq_ok, ok.injEq]
  refine ⟨row.spans, hspans, (), ?_, hrow⟩
  change assertCellRowSpans
    (CellRow.withMark row.index row.spans (row.mark &&& knownMarks).toUInt32.toUInt8) maxColumns = _
  rw [hrow]
  exact h.spans

variable {placement : ImagePlacement}

theorem placementFromProto_columns {wire : PbImagePlacement} {pos : Nat}
    (h : placementFromProto pos wire = .ok placement) :
    ¬(placement.columns = 0 ∨ placement.rows = 0) := by
  simp only [placementFromProto, bind_eq_ok, ite_error_eq_ok, ok.injEq] at h
  obtain ⟨_, -, _, -, hcells, _, -, _, -, _, -, rfl⟩ := h
  exact hcells

theorem placementFromProto_placementToProto
    (h : ¬(placement.columns = 0 ∨ placement.rows = 0)) (pos : Nat) :
    placementFromProto pos (placementToProto placement) = .ok placement := by
  simp only [placementFromProto, placementToProto, narrowPlacementField_toUInt32,
    bind_eq_ok, ite_error_eq_ok, ok.injEq, exists_eq_left']
  exact ⟨h, trivial⟩

theorem placementsFromProto_encoded {wire : PbCellGridFrame} {dec : Option (List ImagePlacement)}
    (h : placementsFromProto wire = .ok dec) {proto : PbCellGridFrame}
    (hplace : proto.imagePlacements = (dec.getD []).map placementToProto)
    (hpresent : proto.imagePlacementsPresent = true) :
    placementsFromProto proto = .ok (some (dec.getD [])) := by
  have hbound : (dec.getD []).length ≤ maxImagePlacements ∧
      ∀ placement ∈ dec.getD [], ¬(placement.columns = 0 ∨ placement.rows = 0) := by
    unfold placementsFromProto at h
    split at h
    · cases h
      cases wire.full <;> simp
    simp only [ite_error_eq_ok, bind_eq_ok, ok.injEq, Nat.not_lt] at h
    obtain ⟨hlen, _, hmap, rfl⟩ := h
    have hall := mapM_eq_ok.mp hmap
    refine ⟨?_, ?_⟩
    · have hsame := hall.length_eq
      rw [List.length_zipIdx] at hsame
      exact hsame ▸ hlen
    intro placement hmem
    obtain ⟨_, hi, rfl⟩ := List.getElem_of_mem hmem
    have hstep := hall.get (by rw [hall.length_eq]; exact hi) hi
    exact placementFromProto_columns hstep
  have hmap : proto.imagePlacements.zipIdx.mapM
      (fun placement => placementFromProto placement.2 placement.1) =
        .ok (dec.getD []) := by
    rw [hplace, mapM_eq_ok, List.forall₂_iff_get]
    refine ⟨by simp, ?_⟩
    intro i hi hi'
    simp only [List.get_eq_getElem, List.getElem_zipIdx, List.getElem_map]
    exact placementFromProto_placementToProto (hbound.2 _ (List.getElem_mem hi')) _
  simp only [placementsFromProto, hpresent, Bool.not_true, Bool.false_eq_true, if_false,
    ite_error_eq_ok, bind_eq_ok, ok.injEq]
  refine ⟨?_, _, hmap, rfl⟩
  rw [hplace, List.length_map]
  exact Nat.not_lt.mpr hbound.1

end Roost.Cell
