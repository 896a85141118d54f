-- SUMMARY: The cell messages on the wire, decoded into the value model.
import Mathlib.Algebra.Ring.Nat
import Mathlib.Data.List.Perm.Basic
import Mathlib.Tactic.Common
import Roost.Cell.Types

/-!
# The wire boundary

Fields a decoder does not know are kept beside the known ones as the bytes they arrived in. A
frame is decoded in this order: its stream and sequence identity, what its rows claim against its
geometry and history, then every row. Rows keep the order the wire carried them in.
-/

namespace Roost.Cell

structure PbCellSpan where
  text : String := ""
  fg : UInt32 := 0
  bg : UInt32 := 0
  flags : UInt32 := 0
  fgRgb : Option UInt32 := none
  bgRgb : Option UInt32 := none
  columns : UInt32 := 0
  linkUri : Option String := none
  linkKey : Option String := none
  unknownFields : List UInt8 := []
  deriving DecidableEq

structure PbCellRow where
  index : UInt32 := 0
  spans : List PbCellSpan := []
  mark : UInt32 := 0
  unknownFields : List UInt8 := []
  deriving DecidableEq

structure PbImagePlacement where
  imageKey : UInt64 := 0
  row : UInt64 := 0
  col : UInt32 := 0
  columns : UInt32 := 0
  rows : UInt32 := 0
  sourceX : UInt32 := 0
  sourceY : UInt32 := 0
  sourceWidth : UInt32 := 0
  sourceHeight : UInt32 := 0
  imageWidth : UInt32 := 0
  imageHeight : UInt32 := 0
  offsetXPx : UInt32 := 0
  offsetYPx : UInt32 := 0
  zIndex : Int32 := 0
  unknownFields : List UInt8 := []
  deriving DecidableEq

structure PbCellGridFrame where
  sessionId : String := ""
  cols : UInt32 := 0
  rows : UInt32 := 0
  cursorRow : UInt32 := 0
  cursorCol : UInt32 := 0
  cursorVisible : Bool := false
  altScreen : Bool := false
  full : Bool := false
  viewportRows : List PbCellRow := []
  scrollbackRows : List PbCellRow := []
  scrollbackAppend : List PbCellRow := []
  scrollbackTotal : UInt64 := 0
  seq : UInt64 := 0
  sbBase : UInt64 := 0
  cursorKeysApp : Bool := false
  bracketedPaste : Bool := false
  ptyOutMs : UInt64 := 0
  workerEmitMs : UInt64 := 0
  coordRecvMs : UInt64 := 0
  coordFanoutMs : UInt64 := 0
  gridEpoch : String := ""
  mouseTracking : UInt32 := 0
  mouseSgr : Bool := false
  focusEvents : Bool := false
  streamId : String := ""
  baseSeq : UInt64 := 0
  kittyKeyboardFlags : UInt32 := 0
  imagePlacements : List PbImagePlacement := []
  imagePlacementsPresent : Bool := false
  unknownFields : List UInt8 := []
  deriving DecidableEq

/-- One whole-row part of an oversized full snapshot. -/
structure PbCellGridChunk where
  snapshotId : String := ""
  chunkIndex : UInt32 := 0
  chunkCount : UInt32 := 0
  part : Option PbCellGridFrame := none
  unknownFields : List UInt8 := []
  deriving DecidableEq

/-! ## Rows -/

/-- A span's wire value the value model cannot hold is refused with its path. -/
def narrowSpanField (position : Nat) (name : String) (value : UInt32) : ProtocolResult UInt16 :=
  if value.toNat < 2 ^ 16 then .ok value.toUInt16
  else .error
    { field := "cell_row.spans[" ++ toString position ++ "]." ++ name
      reason := toString value ++ " is outside the 16-bit palette and flag range" }

/-- One wire span into the value model. -/
def spanFromProto (span : PbCellSpan) (position : Nat) : ProtocolResult CellSpan := do
  let fg ← narrowSpanField position "fg" span.fg
  let bg ← narrowSpanField position "bg" span.bg
  let flags ← narrowSpanField position "flags" span.flags
  .ok
    { text := span.text, fg, bg, flags, fgRgb := span.fgRgb, bgRgb := span.bgRgb
      columns := span.columns, linkUri := span.linkUri, linkKey := span.linkKey }

def checkedRow (index mark : UInt32) (spans : List CellSpan) (maxColumns : UInt32) :
    ProtocolResult CellRow := do
  let value := CellRow.withMark index spans mark.toUInt8
  assertCellRowSpans value maxColumns
  .ok value

/-- One wire row into the value model, checked against `maxColumns`. -/
def cellRowFromProtoBounded (row : PbCellRow) (maxColumns : UInt32) : ProtocolResult CellRow := do
  let spans ← row.spans.zipIdx.mapM fun (span, position) => spanFromProto span position
  checkedRow row.index row.mark spans maxColumns

/-- The rows of one family, in wire order. -/
def decodeRows (rows : List PbCellRow) (maxColumns : UInt32) : ProtocolResult (List CellRow) :=
  rows.mapM fun row => cellRowFromProtoBounded row maxColumns

/-! ## Identity and structure -/

/-- The stream and sequence identity every frame carries: a full baseline names
base sequence 0, a delta continues its predecessor by one. -/
def assertFrameIdentity (streamId gridEpoch : String) (full : Bool) (baseSeq seq : UInt64) :
    ProtocolResult Unit :=
  if !isTerminalUuid streamId then
    .error { field := "cell.stream_id"
             reason := "cell stream_id is not a UUID: " ++ debugQuoted streamId }
  else if gridEpoch.isEmpty then
    .error { field := "cell.grid_epoch", reason := "cell grid_epoch is empty" }
  else if seq < 1 then
    .error { field := "cell.seq"
             reason := "cell sequence " ++ toString baseSeq ++ "->" ++ toString seq ++
              " is outside the safe positive range" }
  else if full then
    if baseSeq ≠ 0 then
      .error { field := "cell.base_seq"
               reason := "full cell frame has nonzero base_seq " ++ toString baseSeq }
    else .ok ()
  else if seq ≠ baseSeq + 1 then
    .error { field := "cell.seq"
             reason := "cell delta seq " ++ toString seq ++ " does not follow base_seq " ++
              toString baseSeq }
  else .ok ()

/-- The sequence half of the identity rules, for a frame that arrived on the wire. -/
def assertFrameSequence (frame : PbCellGridFrame) : ProtocolResult Unit :=
  assertFrameIdentity frame.streamId frame.gridEpoch frame.full frame.baseSeq frame.seq

/-- The flag loop of `assertFrameStructure`: every viewport index in range and at
most once. -/
def markSeen (rows : UInt32) : List Bool → Nat → List PbCellRow → ProtocolResult Nat
  | _, seenCount, [] => .ok seenCount
  | seen, seenCount, row :: rest =>
    let field := "cell_frame.viewport_rows[" ++ toString row.index ++ "].index"
    if row.index ≥ rows then
      .error { field
               reason := "cell viewport row " ++ toString row.index ++ " is outside 0.." ++
                toString (rows - 1) }
    else if seen[row.index.toNat]?.getD false then
      .error { field
               reason := "cell viewport row " ++ toString row.index ++ " occurs more than once" }
    else markSeen rows (seen.set row.index.toNat true) (seenCount + 1) rest

def assertHistoryOrder (sbBase : UInt64) : Nat → List PbCellRow → ProtocolResult Unit
  | _, [] => .ok ()
  | offset, row :: rest =>
    let expected := sbBase.toNat + offset
    if row.index.toNat ≠ expected then
      .error
        { field := "cell_frame.scrollback_rows[" ++ toString offset ++ "].index"
          reason := "full cell frame history row " ++ toString expected ++
            " is missing or out of order" }
    else assertHistoryOrder sbBase (offset + 1) rest

/-- Refuse a frame whose rows do not match the geometry and history it names. -/
def assertFrameStructure (frame : PbCellGridFrame) : ProtocolResult Unit := do
  let _ ← (assertTerminalGeometry { cols := frame.cols, rows := frame.rows }).mapError
    fun error => error.within "cell_frame"
  let seenCount ← markSeen frame.rows (List.replicate frame.rows.toNat false) 0 frame.viewportRows
  if !frame.full then
    if !frame.scrollbackRows.isEmpty then
      .error { field := "cell_frame.scrollback_rows"
               reason := "cell delta cannot carry scrollback_rows" }
    else .ok ()
  else if seenCount ≠ frame.rows.toNat then
    .error { field := "cell_frame.viewport_rows"
             reason := "full cell frame has " ++ toString seenCount ++ " of " ++
              toString frame.rows ++ " required viewport rows" }
  else if !frame.scrollbackAppend.isEmpty then
    .error { field := "cell_frame.scrollback_append"
             reason := "full cell frame cannot carry scrollback_append" }
  else if frame.sbBase > frame.scrollbackTotal ∨
      frame.scrollbackRows.length ≠ frame.scrollbackTotal.toNat - frame.sbBase.toNat then
    .error { field := "cell_frame.scrollback_rows"
             reason := "full cell frame history does not cover [" ++ toString frame.sbBase ++
              ", " ++ toString frame.scrollbackTotal ++ ") exactly" }
  else assertHistoryOrder frame.sbBase 0 frame.scrollbackRows

/-! ## Placements and the whole frame -/

def narrowPlacementField (position : Nat) (name : String) (value : UInt32) :
    ProtocolResult UInt16 :=
  if value.toNat < 2 ^ 16 then .ok value.toUInt16
  else .error
    { field := "cell_frame.image_placements[" ++ toString position ++ "]." ++ name
      reason := toString value ++ " is outside the 16-bit cell range" }

def placementFromProto (position : Nat) (placement : PbImagePlacement) :
    ProtocolResult ImagePlacement := do
  let columns ← narrowPlacementField position "columns" placement.columns
  let rows ← narrowPlacementField position "rows" placement.rows
  if columns = 0 ∨ rows = 0 then
    .error { field := "cell_frame.image_placements[" ++ toString position ++ "]"
             reason := "a placement spans at least one cell in each direction" }
  else do
    let col ← narrowPlacementField position "col" placement.col
    let offsetXPx ← narrowPlacementField position "offset_x_px" placement.offsetXPx
    let offsetYPx ← narrowPlacementField position "offset_y_px" placement.offsetYPx
    .ok
      { imageKey := placement.imageKey, row := placement.row, col, columns, rows
        sourceX := placement.sourceX, sourceY := placement.sourceY
        sourceWidth := placement.sourceWidth, sourceHeight := placement.sourceHeight
        imageWidth := placement.imageWidth, imageHeight := placement.imageHeight
        offsetXPx, offsetYPx, zIndex := placement.zIndex }

/-- A wire frame's placements, absent when a delta did not carry a set. -/
def placementsFromProto (frame : PbCellGridFrame) : ProtocolResult (Option (List ImagePlacement)) :=
  if !frame.imagePlacementsPresent then .ok (if frame.full then some [] else none)
  else if frame.imagePlacements.length > maxImagePlacements then
    .error { field := "cell_frame.image_placements"
             reason := toString frame.imagePlacements.length ++ " placements exceed the " ++
              toString maxImagePlacements ++ " a frame may carry" }
  else do
    let decoded ← frame.imagePlacements.zipIdx.mapM fun (placement, position) =>
      placementFromProto position placement
    .ok (some decoded)

private def narrowKeyboardFlags (raw : UInt32) : UInt8 :=
  (if raw.toNat < 256 then raw.toUInt8 else 0) &&& 0x1f

/-- One wire frame into the value model. -/
def protoToCellFrame (frame : PbCellGridFrame) : ProtocolResult CellGridFrame := do
  assertFrameSequence frame
  assertFrameStructure frame
  let viewportRows ← decodeRows frame.viewportRows frame.cols
  let scrollbackRows ← decodeRows frame.scrollbackRows 0
  let scrollbackAppend ← decodeRows frame.scrollbackAppend 0
  let imagePlacements ← placementsFromProto frame
  .ok
    { streamId := frame.streamId
      gridEpoch := frame.gridEpoch
      cols := frame.cols
      rows := frame.rows
      cursorRow := frame.cursorRow
      cursorCol := frame.cursorCol
      cursorVisible := frame.cursorVisible
      altScreen := frame.altScreen
      cursorKeysApp := frame.cursorKeysApp
      bracketedPaste := frame.bracketedPaste
      mouseTracking := asMouseTracking frame.mouseTracking
      mouseSgr := frame.mouseSgr
      focusEvents := frame.focusEvents
      kittyKeyboardFlags := narrowKeyboardFlags frame.kittyKeyboardFlags
      full := frame.full
      viewportRows
      scrollbackRows
      scrollbackAppend
      scrollbackTotal := frame.scrollbackTotal
      sbBase := frame.sbBase
      baseSeq := frame.baseSeq
      seq := frame.seq
      imagePlacements }

/-! ## What decoding keeps -/

theorem cellRowFromProtoBounded_index {row : PbCellRow} {maxColumns : UInt32} {value : CellRow}
    (h : cellRowFromProtoBounded row maxColumns = .ok value) : value.index = row.index := by
  simp only [cellRowFromProtoBounded, checkedRow, Except.bind_eq_ok, Except.ok.injEq] at h
  obtain ⟨_, -, _, -, rfl⟩ := h
  rfl

theorem decodeRows_index {rows : List PbCellRow} {maxColumns : UInt32} {values : List CellRow}
    (h : decodeRows rows maxColumns = .ok values) :
    values.map CellRow.index = rows.map PbCellRow.index := by
  induction Except.mapM_eq_ok.mp h with
  | nil => rfl
  | cons hrow _ ih => simp [cellRowFromProtoBounded_index hrow, ih (Except.mapM_eq_ok.mpr ‹_›)]

theorem markSeen_count {rows : UInt32} {seen : List Bool} {seenCount out : Nat}
    {list : List PbCellRow} (h : markSeen rows seen seenCount list = .ok out) :
    out = seenCount + list.length := by
  induction list generalizing seen seenCount with
  | nil =>
    cases h
    rfl
  | cons row rest ih =>
    simp only [markSeen, Except.ite_error_eq_ok] at h
    rw [ih h.2.2, List.length_cons]
    omega

theorem assertFrameStructure_count {frame : PbCellGridFrame}
    (h : assertFrameStructure frame = .ok ()) (hfull : frame.full = true) :
    frame.viewportRows.length = frame.rows.toNat := by
  simp only [assertFrameStructure, Except.bind_eq_ok, hfull, Bool.not_true, Bool.false_eq_true,
    if_false, Except.ite_error_eq_ok, not_not] at h
  obtain ⟨_, -, _, hseen, hcount, -⟩ := h
  rw [← hcount, markSeen_count hseen, Nat.zero_add]

theorem protoToCellFrame_full {frame : PbCellGridFrame} {value : CellGridFrame}
    (h : protoToCellFrame frame = .ok value) (hfull : frame.full = true) :
    value.viewportRows.map CellRow.index = frame.viewportRows.map PbCellRow.index ∧
      value.viewportRows.length = value.rows.toNat := by
  simp only [protoToCellFrame, Except.bind_eq_ok, Except.ok.injEq] at h
  obtain ⟨_, -, _, hstr, viewport, hport, _, -, _, -, _, -, rfl⟩ := h
  have hindex := decodeRows_index hport
  refine ⟨hindex, ?_⟩
  have hlen : viewport.length = frame.viewportRows.length := by
    simpa using congrArg List.length hindex
  exact hlen.trans (assertFrameStructure_count hstr hfull)

end Roost.Cell
