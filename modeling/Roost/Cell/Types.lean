-- SUMMARY: The cell-grid value model, and the span contract of one row.
import Roost.Protocol.Viewport

/-!
# Cells, rows and frames

The worker owns the one emulator and ships rendered cells; every front end
paints frames of these types. A full frame carries every viewport row, a delta
the changed ones and the lines that were pushed into history.
-/

namespace Roost.Cell

/-- Wire bound on one span's link URI, in UTF-8 bytes. -/
def maxLinkUriBytes : Nat := 2048

/-- The most placements one frame carries; a decoder refuses more. -/
def maxImagePlacements : Nat := 256

/-- All row mark bits this version understands. -/
def knownMarks : UInt8 := 1 ||| 2 ||| 4 ||| 8

/-- A run of consecutive cells sharing one style. -/
structure CellSpan where
  text : String
  fg : UInt16
  bg : UInt16
  flags : UInt16
  fgRgb : Option UInt32
  bgRgb : Option UInt32
  /-- Terminal columns this span occupies. -/
  columns : UInt32
  linkUri : Option String
  linkKey : Option String
  deriving DecidableEq

/-- One painted row: a viewport row is numbered within the current grid, a
scrollback row by absolute line. -/
structure CellRow where
  index : UInt32
  spans : List CellSpan
  mark : UInt8
  deriving DecidableEq

/-- A row with its marks folded into one value; unknown bits are dropped. -/
def CellRow.withMark (index : UInt32) (spans : List CellSpan) (mark : UInt8) : CellRow :=
  { index, spans, mark := mark &&& knownMarks }

/-- Mouse reporting the foreground application requested. -/
inductive MouseTracking where
  | none
  | pressRelease
  | buttonMotion
  | unknown (raw : UInt32)
  deriving DecidableEq

def MouseTracking.ofRaw (raw : UInt32) : MouseTracking :=
  if raw = 0 then .none
  else if raw = 1000 then .pressRelease
  else if raw = 1002 then .buttonMotion
  else .unknown raw

/-- Narrow a wire integer; an unknown value reads as no tracking requested. -/
def asMouseTracking (raw : UInt32) : MouseTracking :=
  match MouseTracking.ofRaw raw with
  | .unknown _ => .none
  | mode => mode

/-- One image placed on the grid. -/
structure ImagePlacement where
  imageKey : UInt64
  row : UInt64
  col : UInt16
  columns : UInt16
  rows : UInt16
  sourceX : UInt32
  sourceY : UInt32
  sourceWidth : UInt32
  sourceHeight : UInt32
  imageWidth : UInt32
  imageHeight : UInt32
  offsetXPx : UInt16
  offsetYPx : UInt16
  zIndex : Int32
  deriving DecidableEq

/-- One terminal grid as the worker renders it. -/
structure CellGridFrame where
  streamId : String
  gridEpoch : String
  cols : UInt32
  rows : UInt32
  cursorRow : UInt32
  cursorCol : UInt32
  cursorVisible : Bool
  altScreen : Bool
  cursorKeysApp : Bool
  bracketedPaste : Bool
  mouseTracking : MouseTracking
  mouseSgr : Bool
  focusEvents : Bool
  kittyKeyboardFlags : UInt8
  full : Bool
  viewportRows : List CellRow
  scrollbackRows : List CellRow
  scrollbackAppend : List CellRow
  scrollbackTotal : UInt64
  sbBase : UInt64
  baseSeq : UInt64
  seq : UInt64
  /-- A full frame always carries a set; a delta only when it changed. -/
  imagePlacements : Option (List ImagePlacement)
  deriving DecidableEq

/-! ## The span contract -/

private def withinCapLoop (bytes : Nat) : List Char → Bool
  | [] => true
  | character :: rest =>
    let bytes := bytes + character.utf8Size
    if bytes > maxLinkUriBytes then false else withinCapLoop bytes rest

/-- Whether a URI fits the cap once UTF-8 encoded. -/
def linkUriWithinCap (uri : String) : Bool :=
  if uri.utf8ByteSize > maxLinkUriBytes then false
  else if uri.utf8ByteSize * 3 ≤ maxLinkUriBytes then true
  else withinCapLoop 0 uri.toList

/-- The link identity of one span: a URI and a run key, or neither. -/
def assertSpanLink (spanPath : String) (columns : Nat) (span : CellSpan) : ProtocolResult Unit :=
  let at_ := "span at column " ++ toString columns ++ " carries "
  match span.linkUri with
  | some uri =>
    if uri.isEmpty then
      .error { field := spanPath ++ ".link_uri", reason := at_ ++ "an empty link_uri" }
    else if !linkUriWithinCap uri then
      .error { field := spanPath ++ ".link_uri"
               reason := at_ ++ "a link_uri over " ++ toString maxLinkUriBytes ++ " bytes" }
    else if !(span.linkKey.any fun key => !key.isEmpty) then
      .error { field := spanPath ++ ".link_key", reason := at_ ++ "link_uri with no link_key" }
    else .ok ()
  | none =>
    if span.linkKey.isSome then
      .error { field := spanPath ++ ".link_key", reason := at_ ++ "link_key with no link_uri" }
    else .ok ()

/-- The loop of `assertCellRowSpans`: the columns of the spans from `position` on,
added to `columns`. -/
def assertSpans (path : String) : Nat → Nat → List CellSpan → ProtocolResult Nat
  | _, columns, [] => .ok columns
  | position, columns, span :: spans => do
    let spanPath := path ++ ".spans[" ++ toString position ++ "]"
    if span.columns < 1 then
      .error { field := spanPath ++ ".columns"
               reason := "span " ++ quoted span.text ++ " claims " ++ toString span.columns ++
                " columns" }
    else if span.text.isEmpty then
      .error { field := spanPath ++ ".text"
               reason := "span at column " ++ toString columns ++ " carries no text" }
    else do
      assertSpanLink spanPath columns span
      assertSpans path (position + 1) (columns + span.columns.toNat) spans

/-- Every span claims a column and carries text, its link identity is whole, and the
row claims no more columns than the grid has. `maxColumns = 0` skips the width
bound: a retained line keeps its write-time width. -/
def assertCellRowSpans (row : CellRow) (maxColumns : UInt32) : ProtocolResult Unit := do
  let path := "cell_row[" ++ toString row.index ++ "]"
  let columns ← assertSpans path 0 0 row.spans
  if maxColumns > 0 ∧ columns > maxColumns.toNat then
    .error { field := path ++ ".spans"
             reason := "spans occupy " ++ toString columns ++ " columns of a " ++
              toString maxColumns ++ "-column grid" }
  else .ok ()

end Roost.Cell
