-- SUMMARY: The assembler of snapshot parts: its state, its checks, and its runs.
import Roost.Base.Slots
import Roost.Base.Transducer
import Roost.Cell.FrameChunks

/-!
# The chunk assembler

At most one snapshot is in flight. Parts are admitted in order; a frame is handed
back once every viewport row has occurred exactly once and history has reached its
end. A part that breaks several rules reports the earliest one, and every
rejection drops what is in flight. The clock is a parameter.
-/

namespace Roost.Cell

/-- What one accepted part did to the snapshot in flight. -/
inductive CellGridChunkAssembly where
  | pending (snapshotId : String) (nextChunkIndex : Nat)
  | complete (snapshotId : String) (frame : PbCellGridFrame)
  deriving DecidableEq

def rowSlot (row : PbCellRow) : Nat := row.index.toNat

structure PartialSnapshot where
  snapshotId : String
  streamId : String
  chunkCount : UInt32
  nextChunkIndex : Nat
  totalBytes : Nat
  lastChunkAtMs : Nat
  /-- The first part's scalars: every later part must match them. -/
  metadata : PbCellGridFrame
  /-- Viewport row slots, filled as their index arrives. -/
  rows : List (Option PbCellRow)
  historyRows : List PbCellRow
  nextHistoryIndex : Nat
  seenRows : Finset UInt32
  links : LinkMap
  spans : Nat

namespace PartialSnapshot

/-- The state a first part establishes. -/
def new (chunk : PbCellGridChunk) (part : PbCellGridFrame) (nowMs : Nat) : PartialSnapshot where
  snapshotId := chunk.snapshotId
  streamId := part.streamId
  chunkCount := chunk.chunkCount
  nextChunkIndex := 0
  totalBytes := 0
  lastChunkAtMs := nowMs
  metadata := createCellGridFramePart part [] []
  rows := List.replicate part.rows.toNat none
  historyRows := []
  nextHistoryIndex := part.sbBase.toNat
  seenRows := ∅
  links := ∅
  spans := 0

def account (snapshot : PartialSnapshot) : Account :=
  { spans := snapshot.spans, links := snapshot.links }

/-- The snapshot with one more part, whose rows have been added to the given account. -/
def withPart (snapshot : PartialSnapshot) (part : PbCellGridFrame) (nextHistoryIndex : Nat)
    (seenRows : Finset UInt32) (account : Account) (encodedBytes nowMs : Nat) : PartialSnapshot :=
  { snapshot with
    spans := account.spans
    links := account.links
    nextHistoryIndex
    historyRows := snapshot.historyRows ++ part.scrollbackRows
    seenRows
    rows := Slots.fill rowSlot some snapshot.rows part.viewportRows
    totalBytes := snapshot.totalBytes + encodedBytes
    nextChunkIndex := snapshot.nextChunkIndex + 1
    lastChunkAtMs := nowMs }

end PartialSnapshot

/-- The row loop of `completedFrame`. -/
def requireRows : Nat → List (Option PbCellRow) → ChunkResult (List PbCellRow)
  | _, [] => .ok []
  | index, none :: _ =>
    reject .missingRow ("cell snapshot is missing viewport row " ++ toString index)
  | index, some row :: rows => do
    let rest ← requireRows (index + 1) rows
    .ok (row :: rest)

/-- The last part arrived: the snapshot must be whole before it is handed back. -/
def completedFrame (snapshot : PartialSnapshot) : ChunkResult PbCellGridFrame :=
  if snapshot.seenRows.card ≠ snapshot.rows.length then
    reject .missingRow
      ("cell snapshot has " ++ toString snapshot.seenRows.card ++ " of " ++
        toString snapshot.rows.length ++ " required viewport rows")
  else if snapshot.nextHistoryIndex ≠ snapshot.metadata.scrollbackTotal.toNat then
    reject .missingRow "cell snapshot history does not reach scrollback_total"
  else do
    let rows ← requireRows 0 snapshot.rows
    .ok (createCellGridFramePart snapshot.metadata rows snapshot.historyRows)

/-- Everything that needs the partial to exist: agreement with the first part, order,
the byte budget, and then the rows, history before viewport. -/
def admitPart (snapshot : PartialSnapshot) (chunk : PbCellGridChunk) (part : PbCellGridFrame)
    (encodedBytes nowMs : Nat) : ChunkResult (PartialSnapshot × CellGridChunkAssembly) :=
  if chunk.chunkCount ≠ snapshot.chunkCount then
    reject .chunkCount "cell snapshot chunk_count changed during assembly"
  else if !hasSameSnapshotMetadata snapshot.metadata part then
    reject .metadataMismatch "cell snapshot scalar metadata changed between chunks"
  else if chunk.chunkIndex.toNat ≠ snapshot.nextChunkIndex then
    reject .chunkOrder
      ("cell snapshot expected chunk_index=" ++ toString snapshot.nextChunkIndex)
  else if snapshot.totalBytes + encodedBytes > cellGridSnapshotMaxBytes then
    reject .snapshotSize
      ("cell snapshot exceeds " ++ toString cellGridSnapshotMaxBytes ++ " encoded bytes")
  else do
    let (nextHistoryIndex, account) ← addSnapshotHistoryRows part part.scrollbackRows
      snapshot.nextHistoryIndex snapshot.account
    let (seenRows, account) ← addSnapshotRows part part.viewportRows snapshot.seenRows account
    let snapshot :=
      snapshot.withPart part nextHistoryIndex seenRows account encodedBytes nowMs
    if snapshot.nextChunkIndex < snapshot.chunkCount.toNat then
      .ok (snapshot, .pending snapshot.snapshotId snapshot.nextChunkIndex)
    else do
      let frame ← completedFrame snapshot
      .ok (snapshot, .complete snapshot.snapshotId frame)

/-- One bounded, in-order, atomically completing snapshot assembly. -/
structure CellGridChunkAssembler where
  inFlight : Option PartialSnapshot

namespace CellGridChunkAssembler

def new : CellGridChunkAssembler := { inFlight := none }

/-- Abandon whatever is in flight. -/
def reset (_assembler : CellGridChunkAssembler) : CellGridChunkAssembler := { inFlight := none }

/-- Whether the snapshot in flight has waited past the stall boundary. -/
def stalled (snapshot : PartialSnapshot) (nowMs : Nat) : Prop :=
  nowMs - snapshot.lastChunkAtMs ≥ cellGridChunkStallMs
  deriving Decidable

/-- Drop a partial at the stall boundary, and say whether one was dropped. -/
def expire (assembler : CellGridChunkAssembler) (nowMs : Nat) : CellGridChunkAssembler × Bool :=
  match assembler.inFlight with
  | none => (assembler, false)
  | some snapshot => if stalled snapshot nowMs then (assembler.reset, true) else (assembler, false)

def checkPart (sizes : Sizes) (chunk : PbCellGridChunk) : ChunkResult PbCellGridFrame :=
  if !isTerminalUuid chunk.snapshotId then
    reject .invalidSnapshotId ("cell snapshot_id is not a UUID: " ++ quoted chunk.snapshotId)
  else if chunk.chunkCount < 1 ∨ chunk.chunkCount > cellGridSnapshotMaxChunks then
    reject .chunkCount
      ("cell snapshot chunk_count " ++ toString chunk.chunkCount ++ " is outside 1.." ++
        toString cellGridSnapshotMaxChunks)
  else if chunk.chunkIndex ≥ chunk.chunkCount then
    reject .chunkIndex
      ("cell snapshot chunk_index " ++ toString chunk.chunkIndex ++ " is outside its chunk_count")
  else
    match chunk.part with
    | none => reject .missingPart "cell snapshot chunk has no part"
    | some part => do
      assertSnapshotScalars part
      if part.viewportRows.isEmpty && part.scrollbackRows.isEmpty then
        reject .missingRow "cell snapshot chunk carries no row"
      else if sizes.chunkLen chunk > cellGridPartMaxBytes then
        reject .chunkSize
          ("cell snapshot chunk is " ++ toString (sizes.chunkLen chunk) ++ " bytes; max " ++
            toString cellGridPartMaxBytes)
      else .ok part

/-- The snapshot a checked part goes to: the one in flight, or a new one it starts. -/
def target (assembler : CellGridChunkAssembler) (chunk : PbCellGridChunk) (part : PbCellGridFrame)
    (nowMs : Nat) : ChunkResult PartialSnapshot :=
  let start : ChunkResult PartialSnapshot :=
    if chunk.chunkIndex ≠ 0 then
      reject .chunkOrder "cell snapshot must start at chunk_index=0"
    else .ok (PartialSnapshot.new chunk part nowMs)
  match assembler.inFlight with
  | none => start
  | some snapshot =>
    if stalled snapshot nowMs then
      reject .snapshotStalled
        ("cell snapshot " ++ snapshot.snapshotId ++ " stalled between chunks")
    else if snapshot.snapshotId ≠ chunk.snapshotId then
      if chunk.chunkIndex ≠ 0 then
        reject .chunkOrder "a replacement cell snapshot must start at chunk_index=0"
      else if snapshot.streamId ≠ part.streamId then
        reject .metadataMismatch "a partial snapshot can only be replaced within the same stream"
      else start
    else .ok snapshot

/-- The rejection order, one rule at a time. -/
def pushChecked (sizes : Sizes) (assembler : CellGridChunkAssembler) (chunk : PbCellGridChunk)
    (nowMs : Nat) : ChunkResult (CellGridChunkAssembler × CellGridChunkAssembly) := do
  let part ← checkPart sizes chunk
  let snapshot ← target assembler chunk part nowMs
  let (snapshot, assembly) ← admitPart snapshot chunk part (sizes.chunkLen chunk) nowMs
  match assembly with
  | .complete .. => .ok ({ inFlight := none }, assembly)
  | .pending .. => .ok ({ inFlight := some snapshot }, assembly)

/-- Admit one part; a rejection drops what is in flight. -/
def push (sizes : Sizes) (assembler : CellGridChunkAssembler) (chunk : PbCellGridChunk)
    (nowMs : Nat) : CellGridChunkAssembler × ChunkResult CellGridChunkAssembly :=
  match pushChecked sizes assembler chunk nowMs with
  | .ok (assembler, assembly) => (assembler, .ok assembly)
  | .error error => (assembler.reset, .error error)

/-- A caller's operations on an assembler. -/
inductive Op where
  | push (chunk : PbCellGridChunk) (nowMs : Nat)
  | reset
  | expire (nowMs : Nat)

inductive Reply where
  | pushed (result : ChunkResult CellGridChunkAssembly)
  | done
  | expired (dropped : Bool)
  deriving DecidableEq

def machine (sizes : Sizes) : Transducer CellGridChunkAssembler Op Reply where
  step
    | assembler, .push chunk nowMs =>
      let (assembler, result) := assembler.push sizes chunk nowMs
      (assembler, .pushed result)
    | assembler, .reset => (assembler.reset, .done)
    | assembler, .expire nowMs =>
      let (assembler, dropped) := assembler.expire nowMs
      (assembler, .expired dropped)

end CellGridChunkAssembler

end Roost.Cell
