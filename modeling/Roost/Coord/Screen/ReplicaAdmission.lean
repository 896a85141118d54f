-- SUMMARY: Admission of baselines and deltas to a screen replica.
import Roost.Coord.Screen.SnapshotController

/-!
# Replica admission

A baseline is validated, normalised and installed, and every watcher is seeded from it. A
delta is folded into the current replica and fanned out. Every refusal fails closed and asks
for a repair.
-/

namespace Roost.Coord

open Roost.Cell

def capacityExceeded : String := "coordinator terminal cache capacity exceeded"

def viewportSpans (frame : CellGridFrame) : Nat :=
  (frame.viewportRows.map fun row => row.spans.length).sum

def validatedFull (sizes : Sizes) (proto : PbCellGridFrame) (expected : ExpectedStream)
    (assembled : Bool) : Except String (CellGridFrame × Nat) :=
  if !assembled ∧ sizes.frameLen proto > cellGridPartMaxBytes then
    .error "unchunked terminal full exceeds part limit"
  else do
    let _ ← (assertCellGridSnapshot proto).mapError CellGridChunkError.reason
    if proto.cols ≠ expected.cols ∨ proto.rows ≠ expected.rows then
      .error "terminal baseline geometry does not match expected stream"
    else do
      let frame ← (protoToCellFrame proto).mapError ProtocolError.message
      let frame := frame.normalizeCellGridFrame
      .ok (frame, viewportSpans frame)

/-- The successor of a sequence; the last one is its own. -/
def saturatingSucc (seq : UInt64) : UInt64 := if seq = cellGridCoordFanoutStampMax then seq else seq + 1

def foldedDelta (sizes : Sizes) (proto : PbCellGridFrame) (cache : ResidentCache)
    (expected : ExpectedStream) : Except String CellGridFrame :=
  if proto.full ∨ proto.baseSeq ≠ cache.frame.seq ∨ proto.seq ≠ saturatingSucc proto.baseSeq ∨
      proto.gridEpoch ≠ cache.frame.gridEpoch ∨ proto.cols ≠ expected.cols ∨
      proto.rows ≠ expected.rows then
    .error "terminal delta does not follow the canonical baseline"
  else if sizes.frameLen proto > cellGridPartMaxBytes - cellGridCoordFanoutStampMaxEncodedBytes then
    .error "terminal delta leaves no fanout stamp headroom"
  else do
    let delta ← (protoToCellFrame proto).mapError fun _ =>
      "terminal delta cannot be folded into baseline"
    match cache.frame.applyDelta delta with
    | none => .error "terminal delta cannot be folded into baseline"
    | some folded =>
      let folded := folded.normalizeCellGridFrame
      if viewportSpans folded > cellGridSnapshotMaxSpans then
        .error "terminal cache span limit exceeded"
      else .ok folded

namespace ScreenTurn

variable (sizes : Sizes) (turn : ScreenTurn) (sessionId : SessionId) (watchers : List Watcher)

def seedWatchers (streamId : String) : ScreenTurn :=
  if watchers.isEmpty then turn
  else
    match turn.seedSource sizes sessionId with
    | (turn, none) => turn
    | (turn, some source) =>
      { turn with
        effects := turn.effects ++
          watchers.map fun watcher => .seed watcher sessionId streamId source }

/-- Install a validated baseline and seed every watcher from it. -/
def installCache (frame : CellGridFrame) (spans : Nat) (coordRecvMs : UInt64) : ScreenTurn :=
  let rows := frame.rows.toNat
  if !turn.residency.canReplace turn.screen.charge rows spans then
    -- What is resident is dropped rather than a frame admitted that the pool cannot pay for.
    turn.dropCache.emit (.unavailable sessionId capacityExceeded)
  else
    match turn.residency.replace turn.screen.charge frame coordRecvMs rows spans with
    | (residency, charge, false) =>
      { turn with residency, screen := { turn.screen with charge } }
    | (residency, charge, true) =>
      let turn : ScreenTurn :=
        { turn with
          residency
          screen := { turn.screen with charge, source := none, resyncLatched := false } }
      match turn.screen.expected with
      | none => turn
      | some expected =>
        (turn.emit (.fullAccepted sessionId expected.streamId)).seedWatchers sizes sessionId
          watchers expected.streamId

/-- Admit a complete authoritative baseline. -/
def acceptFull (proto : PbCellGridFrame) (assembled : Bool) : ScreenTurn :=
  match turn.screen.expected with
  | none => turn
  | some expected =>
    if proto.streamId ≠ expected.streamId then turn
    else
      match validatedFull sizes proto expected assembled with
      | .ok (frame, spans) =>
        turn.completeRepair.installCache sizes sessionId watchers frame spans proto.coordRecvMs
      | .error reason => turn.retry sessionId reason

/-- A delta that failed leaves a replica that is known to be wrong. -/
def refuseDelta (reason : String) : ScreenTurn := turn.markInvalid.latch sessionId reason

/-- Replace the replica by the folded one, as the version the fan-out names. -/
def replaceFolded (folded : CellGridFrame) (coordRecvMs : UInt64) : ScreenTurn × Option Nat :=
  let rows := folded.rows.toNat
  let spans := viewportSpans folded
  if !turn.residency.canReplace turn.screen.charge rows spans then (turn, none)
  else
    let (residency, charge, replaced) :=
      turn.residency.replace turn.screen.charge folded coordRecvMs rows spans
    ({ turn with residency, screen := { turn.screen with charge } },
      if replaced then charge.current.map ResidentCache.generation else none)

/-- Fold one delta into the current replica and fan it out. -/
def acceptDelta (proto : PbCellGridFrame) : ScreenTurn :=
  match turn.screen.expected with
  | none => turn
  | some expected =>
    if proto.streamId ≠ expected.streamId then turn
    else
      match turn.screen.charge.current.filter ResidentCache.valid with
      | none => turn.latch sessionId "terminal delta arrived before a complete baseline"
      | some cache =>
        match foldedDelta sizes proto cache expected with
        | .error reason => turn.refuseDelta sessionId reason
        | .ok folded =>
          match turn.replaceFolded folded proto.coordRecvMs with
          | (turn, none) => turn.refuseDelta sessionId capacityExceeded
          | (turn, some generation) =>
            { turn with
              screen := { turn.screen with source := none, resyncLatched := false }
              effects := turn.effects ++ watchers.map fun watcher =>
                  .delta watcher sessionId expected.streamId proto generation }

/-- The loop of `replayHeldDeltas`: a held delta whose base no longer matches is skipped,
and the first failure ends the replay. -/
def replayDeltas : ScreenTurn → List PbCellGridFrame → ScreenTurn
  | turn, [] => turn
  | turn, delta :: rest =>
    if !(turn.screen.hasValidCache && !turn.screen.resyncLatched) then turn
    else if turn.screen.charge.current.map (fun cache => cache.frame.seq) = some delta.baseSeq then
      replayDeltas (turn.acceptDelta sizes sessionId watchers delta) rest
    else replayDeltas turn rest

/-- Fold the deltas held while a chunked baseline assembled into the baseline just
installed. -/
def replayHeldDeltas : ScreenTurn :=
  let (hold, deltas) := turn.screen.hold.drain
  replayDeltas sizes sessionId watchers { turn with screen := { turn.screen with hold } } deltas

end ScreenTurn

end Roost.Coord
