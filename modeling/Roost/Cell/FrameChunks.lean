-- SUMMARY: Planning, sizing and materialising the bounded parts of a snapshot.
import Roost.Cell.ChunkValidation

/-!
# Frame chunks

A full snapshot is split into whole-row parts. The plan fills parts greedily, in
part order: retained history first, then the viewport by index. Rows are looked
up by index and never by position.

Every size is the encoder's own encoded length. The encoder is not part of the
source, so the lengths it reports are a parameter, `Sizes`.
-/

namespace Roost.Cell

/-- The encoded lengths the encoder reports, and the length of a varint. -/
structure Sizes where
  frameLen : PbCellGridFrame → Nat
  rowLen : PbCellRow → Nat
  chunkLen : PbCellGridChunk → Nat
  varintLen : Nat → Nat

/-- What the planner relies on: a nested message costs its tag, its length prefix and
its body, and a string its length only. These are the rules of the wire format. -/
structure Sizes.Additive (sizes : Sizes) : Prop where
  frame : ∀ frame : PbCellGridFrame, sizes.frameLen frame =
      sizes.frameLen { frame with viewportRows := [], scrollbackRows := [] } +
        (frame.viewportRows.map fun row =>
          1 + sizes.varintLen (sizes.rowLen row) + sizes.rowLen row).sum +
        (frame.scrollbackRows.map fun row =>
          1 + sizes.varintLen (sizes.rowLen row) + sizes.rowLen row).sum
  chunk : ∃ tag, ∀ (chunk : PbCellGridChunk) (part : PbCellGridFrame), chunk.part = some part →
    sizes.chunkLen chunk =
      sizes.chunkLen { chunk with part := none } + tag + sizes.varintLen (sizes.frameLen part) +
        sizes.frameLen part
  snapshotId : ∀ (chunk : PbCellGridChunk) (id : String),
    id.utf8ByteSize = chunk.snapshotId.utf8ByteSize →
      sizes.chunkLen { chunk with snapshotId := id } = sizes.chunkLen chunk

/-- A varint grows with its value, and with it every message that carries one; a stamp is
one varint behind its tag. These are the rules of the wire format too. -/
structure Sizes.Grows (sizes : Sizes) : Prop where
  varintLen : ∀ {a b : Nat}, a ≤ b → sizes.varintLen a ≤ sizes.varintLen b
  coordFanoutMs : ∀ (frame : PbCellGridFrame) {a b : UInt64}, a ≤ b →
    sizes.frameLen { frame with coordFanoutMs := a } ≤
      sizes.frameLen { frame with coordFanoutMs := b }
  fanoutStamp : ∀ (frame : PbCellGridFrame) (stamp : UInt64),
    sizes.frameLen { frame with coordFanoutMs := stamp } ≤
      sizes.frameLen frame + cellGridCoordFanoutStampMaxEncodedBytes
  header : ∀ (snapshotId : String) {i j m n : UInt32}, i ≤ j → m ≤ n →
    sizes.chunkLen { snapshotId, chunkIndex := i, chunkCount := m } ≤
      sizes.chunkLen { snapshotId, chunkIndex := j, chunkCount := n }

/-- One part: the source frame's scalars and exactly the rows this part owns, with
unknown fields dropped. -/
def createCellGridFramePart (frame : PbCellGridFrame) (rows scrollbackRows : List PbCellRow) :
    PbCellGridFrame :=
  { frame with
    viewportRows := rows
    scrollbackRows := scrollbackRows
    scrollbackAppend := []
    unknownFields := [] }

/-! ## The plan -/

/-- The identity the planner measures against: a UUID is always 36 bytes. -/
def planningSnapshotId : String := "00000000-0000-4000-8000-000000000000"

def rowFieldTagBytes : Nat := 1

/-- One row of a plan: its family and the grid index it answers to. -/
structure SnapshotEntry where
  history : Bool
  index : UInt32

structure PlannedSnapshotPart where
  entries : List SnapshotEntry
  encodedPartBytes : Nat

namespace SnapshotEntry

def family (entry : SnapshotEntry) : String := if entry.history then "history" else "viewport"

def found (frame : PbCellGridFrame) (entry : SnapshotEntry) : Option PbCellRow :=
  (if entry.history then frame.scrollbackRows else frame.viewportRows).find? fun row =>
    row.index == entry.index

def row (entry : SnapshotEntry) (frame : PbCellGridFrame) : ChunkResult PbCellRow :=
  match entry.found frame with
  | some row => .ok row
  | none => reject .missingRow
      ("validated cell snapshot " ++ entry.family ++ " row " ++ toString entry.index ++
        " changed during planning")

end SnapshotEntry

/-- The frame's rows in part order: retained history first, then the viewport. -/
def snapshotEntries (frame : PbCellGridFrame) : List SnapshotEntry :=
  ((List.range frame.scrollbackRows.length).map fun offset =>
      { history := true, index := UInt32.ofNat (min (frame.sbBase.toNat + offset) (2 ^ 32 - 1)) }) ++
    (List.range frame.rows.toNat).map fun index =>
      { history := false, index := UInt32.ofNat index }

namespace Sizes

variable (sizes : Sizes)

/-- One row's whole cost inside a part: its tag, its length prefix, its bytes. -/
def rowEntryBytes (row : PbCellRow) : Nat :=
  rowFieldTagBytes + sizes.varintLen (sizes.rowLen row) + sizes.rowLen row

/-- The scalar part every chunk repeats. -/
def chunkHeaderBytes (snapshotId : String) (chunkIndex chunkCount : UInt32) : Nat :=
  sizes.chunkLen { snapshotId, chunkIndex, chunkCount }

/-- The part field's tag, measured: a chunk holding the empty part, less its header, its
length prefix and its bytes. -/
def partFieldTagBytes (emptyPart : PbCellGridFrame) (emptyBytes header : Nat) : Nat :=
  sizes.chunkLen
      { snapshotId := planningSnapshotId
        chunkIndex := cellGridSnapshotMaxChunks - 1
        chunkCount := cellGridSnapshotMaxChunks
        part := some emptyPart } - header - sizes.varintLen emptyBytes - emptyBytes

def encodedChunkBytes (headerByt partTagBytes encodedPartBytes : Nat) : Nat :=
  headerByt + partTagBytes + sizes.varintLen encodedPartBytes + encodedPartBytes

end Sizes

/-- Why one row cannot share a part, and so cannot be split either. -/
def rowOversizeReason (entry : SnapshotEntry) : String :=
  "cell snapshot " ++ entry.family ++ " row " ++ toString entry.index ++ " cannot fit in " ++
    toString cellGridPartMaxBytes ++ " bytes"

/-- What the planner has closed and what it is filling. -/
structure PlanState where
  parts : List PlannedSnapshotPart
  entries : List SnapshotEntry
  encodedPartBytes : Nat

/-- The planner's measurements of what does not depend on the rows. -/
structure PlanBudget where
  basePartBytes : Nat
  largestHeaderBytes : Nat
  tagBytes : Nat

def planBudget (sizes : Sizes) (frame : PbCellGridFrame) : PlanBudget :=
  let emptyPart := createCellGridFramePart frame [] []
  let basePartBytes := sizes.frameLen emptyPart
  let largestHeaderBytes := sizes.chunkHeaderBytes planningSnapshotId
    (cellGridSnapshotMaxChunks - 1) cellGridSnapshotMaxChunks
  { basePartBytes
    largestHeaderBytes
    tagBytes := sizes.partFieldTagBytes emptyPart basePartBytes largestHeaderBytes }

/-- Place one row: into the part being filled, or into a fresh one behind it. -/
def planEntry (sizes : Sizes) (frame : PbCellGridFrame) (budget : PlanBudget) (state : PlanState)
    (entry : SnapshotEntry) : ChunkResult PlanState := do
  let row ← entry.row frame
  let contribution := sizes.rowEntryBytes row
  let nextPartBytes := state.encodedPartBytes + contribution
  let nextBytes := sizes.encodedChunkBytes budget.largestHeaderBytes budget.tagBytes nextPartBytes
  if nextBytes ≤ cellGridPartMaxBytes then
    .ok { state with entries := state.entries ++ [entry], encodedPartBytes := nextPartBytes }
  else if state.entries.isEmpty then
    reject .singleRowOversize (rowOversizeReason entry)
  else
    let encodedPartBytes := budget.basePartBytes + contribution
    let rowBytes :=
      sizes.encodedChunkBytes budget.largestHeaderBytes budget.tagBytes encodedPartBytes
    if rowBytes > cellGridPartMaxBytes then
      reject .singleRowOversize (rowOversizeReason entry)
    else
      let closed : PlannedSnapshotPart :=
        { entries := state.entries, encodedPartBytes := state.encodedPartBytes }
      .ok { parts := state.parts ++ [closed], entries := [entry], encodedPartBytes }

/-- The last part joins the closed ones, unless nothing was planned. -/
def PlanState.close (state : PlanState) : List PlannedSnapshotPart :=
  if state.entries.isEmpty then state.parts
  else state.parts ++ [{ entries := state.entries, encodedPartBytes := state.encodedPartBytes }]

def planTotalBytes (sizes : Sizes) (budget : PlanBudget) (parts : List PlannedSnapshotPart) : Nat :=
  let chunkCount := UInt32.ofNat parts.length
  (parts.zipIdx.map fun (part, index) =>
    sizes.encodedChunkBytes
      (sizes.chunkHeaderBytes planningSnapshotId (UInt32.ofNat index) chunkCount)
      budget.tagBytes part.encodedPartBytes).sum

/-- Greedily fill parts with whole rows, never splitting one. -/
def planSnapshotParts (sizes : Sizes) (frame : PbCellGridFrame) :
    ChunkResult (List PlannedSnapshotPart) := do
  let budget := planBudget sizes frame
  let state ← (snapshotEntries frame).foldlM (planEntry sizes frame budget)
    { parts := [], entries := [], encodedPartBytes := budget.basePartBytes }
  let parts := state.close
  if parts.isEmpty ∨ parts.length > cellGridSnapshotMaxChunks.toNat then
    reject .chunkCount
      ("cell snapshot requires " ++ toString parts.length ++ " chunks; maximum is " ++
        toString cellGridSnapshotMaxChunks)
  else
    let totalBytes := planTotalBytes sizes budget parts
    if totalBytes > cellGridSnapshotMaxBytes then
      reject .snapshotSize
        ("cell snapshot is " ++ toString totalBytes ++ " encoded bytes; maximum is " ++
          toString cellGridSnapshotMaxBytes)
    else .ok parts

/-! ## Sources, cursors and chunks -/

/-- One validated full and its part plan; no plan when the frame fits inside one part. -/
structure CellGridSnapshotSource where
  frame : PbCellGridFrame
  parts : Option (List PlannedSnapshotPart)

/-- What a cursor hands back for one index. -/
inductive CellGridSnapshotPart where
  | frame (frame : PbCellGridFrame)
  | chunk (chunk : PbCellGridChunk)

/-- One recipient's cursor: the same plan, stamped with one snapshot UUID. -/
structure CellGridSnapshotCursor where
  source : CellGridSnapshotSource
  snapshotId : String
  partCount : UInt32

def CellGridSnapshotSource.partCount (source : CellGridSnapshotSource) : UInt32 :=
  match source.parts with
  | some parts => UInt32.ofNat (min parts.length (2 ^ 32 - 1))
  | none => 1

def CellGridSnapshotSource.createCursor (source : CellGridSnapshotSource) (snapshotId : String) :
    ChunkResult CellGridSnapshotCursor :=
  if source.parts.isSome && !isTerminalUuid snapshotId then
    reject .invalidSnapshotId ("cell snapshot_id is not a UUID: " ++ quoted snapshotId)
  else .ok { source, snapshotId, partCount := source.partCount }

def PlannedSnapshotPart.rows (part : PlannedSnapshotPart) (frame : PbCellGridFrame) :
    ChunkResult (List (Bool × PbCellRow)) :=
  part.entries.mapM fun entry => do
    let row ← entry.row frame
    .ok (entry.history, row)

def familyRows (history : Bool) (rows : List (Bool × PbCellRow)) : List PbCellRow :=
  (rows.filter fun row => row.1 == history).map Prod.snd

def CellGridSnapshotCursor.materialize (sizes : Sizes) (cursor : CellGridSnapshotCursor)
    (partIndex : UInt32) : ChunkResult CellGridSnapshotPart :=
  if partIndex ≥ cursor.partCount then
    reject .chunkIndex
      ("cell snapshot part index " ++ toString partIndex ++ " is outside 0.." ++
        toString (cursor.partCount - 1))
  else
    match cursor.source.parts with
    | none => .ok (.frame cursor.source.frame)
    | some parts => do
      let planned := (parts[partIndex.toNat]?).getD { entries := [], encodedPartBytes := 0 }
      let rows ← planned.rows cursor.source.frame
      let chunk : PbCellGridChunk :=
        { snapshotId := cursor.snapshotId
          chunkIndex := partIndex
          chunkCount := cursor.partCount
          part := some
            (createCellGridFramePart cursor.source.frame (familyRows false rows)
              (familyRows true rows)) }
      let encodedBytes := sizes.chunkLen chunk
      if encodedBytes > cellGridPartMaxBytes then
        reject .chunkSize
          ("cell snapshot chunk " ++ toString partIndex ++ " is " ++ toString encodedBytes ++
            " bytes")
      else .ok (.chunk chunk)

/-- Validate once and plan once; a small full stays one frame unless chunking is forced. -/
def createCellGridSnapshotSource (sizes : Sizes) (frame : PbCellGridFrame) (forceChunking : Bool) :
    ChunkResult CellGridSnapshotSource := do
  let _ ← assertCellGridSnapshot frame
  if !forceChunking && decide (sizes.frameLen frame ≤ cellGridPartMaxBytes) then
    .ok { frame, parts := none }
  else do
    let parts ← planSnapshotParts sizes frame
    .ok { frame, parts := some parts }

/-- Deterministically split a complete full into whole-row bounded chunks. -/
def chunkCellGridFrame (sizes : Sizes) (frame : PbCellGridFrame) (snapshotId : String) :
    ChunkResult (List PbCellGridChunk) := do
  let source ← createCellGridSnapshotSource sizes frame true
  let cursor ← source.createCursor snapshotId
  (List.range cursor.partCount.toNat).mapM fun partIndex => do
    match ← cursor.materialize sizes (UInt32.ofNat partIndex) with
    | .chunk chunk => .ok chunk
    | .frame _ => reject .chunkCount "a forced cell snapshot chunk was not chunked"

end Roost.Cell
