-- SUMMARY: One session's client replica: its views, admissions, and operations.
import Roost.Client.FrameFold
import Roost.Client.Liveness

/-!
# A session's replica

The replica owns what it expects, what it holds, the chunk assembler, the repair
latch and the views that hold leases. A frame is admitted against the generation
the replica is bound to, then against its stream, then by the fold. Sizes of
encoded messages and clocks are parameters.
-/

namespace Roost.Client

open Roost.Cell

/-! ## Views -/

/-- What a view wants the authority to do for it. -/
inductive ViewIntent where
  | publish (cols rows : UInt32)
  | park
  | unpublish
  deriving DecidableEq

/-- The authority's last generation-matched answer to a view. -/
structure ViewAnswer where
  revision : Nat
  accepted : Bool
  deriving DecidableEq

/-- What the authority said about a view. -/
structure ViewStateResult where
  sessionId : String
  viewId : String
  generation : UInt64
  revision : Nat
  accepted : Bool
  streamId : Option String
  effectiveCols : UInt32
  effectiveRows : UInt32

/-- One pane's view record. -/
structure TerminalView where
  viewId : String
  wireViewId : String
  cols : UInt32
  rows : UInt32
  intent : ViewIntent
  revision : Nat
  /-- The generation whose command is still unacknowledged. -/
  unacknowledged : Option UInt64
  publishedAtMs : Nat
  acknowledgedAtMs : Nat
  /-- The view is counted by the authority's geometry right now. -/
  counted : Bool
  answer : Option ViewAnswer
  deriving DecidableEq

namespace TerminalView

/-- A newly opened view; it has published nothing yet. -/
def opened (viewId : String) (cols rows : UInt32) : TerminalView where
  viewId := viewId
  wireViewId := viewId
  cols := cols
  rows := rows
  intent := .publish cols rows
  revision := 1
  unacknowledged := none
  publishedAtMs := 0
  acknowledgedAtMs := 0
  counted := false
  answer := none

variable (view : TerminalView)

def resize (cols rows : UInt32) : TerminalView :=
  if view.cols = cols ∧ view.rows = rows then view
  else { view with cols, rows, intent := .publish cols rows, revision := view.revision + 1 }

def park : TerminalView :=
  if view.intent ≠ .park then
    { view with intent := .park, revision := view.revision + 1, counted := false }
  else { view with counted := false }

def markPublished (generation : UInt64) (nowMs : Nat) : TerminalView :=
  { view with unacknowledged := some generation, publishedAtMs := nowMs }

def acknowledge (generation : UInt64) (nowMs : Nat) : TerminalView × Bool :=
  if view.unacknowledged ≠ some generation then (view, false)
  else
    ({ view with unacknowledged := none, acknowledgedAtMs := nowMs, counted := true }, true)

end TerminalView

inductive ViewStateAdmission where
  | stale
  | refused
  | accepted (streamId : Option String)
  deriving DecidableEq

/-! ## Deliveries and counts -/

/-- Sparse deltas one batch may fold. -/
def maxPendingDeltaFrames : Nat := 64

/-- History rows one batch may append. -/
def maxPendingScrollbackRows : Nat := 250

/-- Spans one batch may carry. -/
def maxPendingDeltaSpans : Nat := 65536

/-- Spans a delta carries, viewport and appended history alike. -/
def deltaSpans (delta : CellGridFrame) : Nat :=
  ((delta.viewportRows ++ delta.scrollbackAppend).map fun row => row.spans.length).sum

/-- The replica's revision counter and its retained delta suffix. -/
structure RendererDeliveries where
  /-- How many frames have been applied to the replica. -/
  revision : Nat
  /-- The revision whose canonical the first delta extends. -/
  baseRevision : Nat
  deltas : List CellGridFrame
  appendedRows : Nat
  spans : Nat

namespace RendererDeliveries

def new : RendererDeliveries where
  revision := 0
  baseRevision := 0
  deltas := []
  appendedRows := 0
  spans := 0

variable (deliveries : RendererDeliveries)

def clear : RendererDeliveries :=
  { deliveries with
    baseRevision := deliveries.revision
    deltas := []
    appendedRows := 0
    spans := 0 }

/-- A full replaced the replica: no delta reaches back across it. -/
def noteFull : RendererDeliveries :=
  clear { deliveries with revision := deliveries.revision + 1 }

/-- Drop the oldest deltas until the rest is one batch. -/
def evict (deltas : List CellGridFrame) (baseRevision appendedRows spans : Nat) :
    List CellGridFrame × Nat × Nat × Nat :=
  match deltas with
  | [] => ([], baseRevision, appendedRows, spans)
  | oldest :: rest =>
    if rest.length + 1 > maxPendingDeltaFrames ∨ appendedRows > maxPendingScrollbackRows ∨
        spans > maxPendingDeltaSpans then
      evict rest (baseRevision + 1) (appendedRows - oldest.scrollbackAppend.length)
        (spans - deltaSpans oldest)
    else (oldest :: rest, baseRevision, appendedRows, spans)

/-- A delta extended the replica. -/
def noteDelta (delta : CellGridFrame) : RendererDeliveries :=
  let deliveries := { deliveries with revision := deliveries.revision + 1 }
  let rows := delta.scrollbackAppend.length
  let spans := deltaSpans delta
  if rows > maxPendingScrollbackRows ∨ spans > maxPendingDeltaSpans then deliveries.clear
  else
    let (deltas, baseRevision, appendedRows, spans) :=
      evict (deliveries.deltas ++ [delta]) deliveries.baseRevision (deliveries.appendedRows + rows)
        (deliveries.spans + spans)
    { deliveries with deltas, baseRevision, appendedRows, spans }

end RendererDeliveries

/-- Decoded frames by kind. -/
structure FrameCounts where
  frames : Nat
  fullFrames : Nat
  lastFullScrollbackRows : Option Nat
  gridEpoch : String

def FrameCounts.noteDecoded (counts : FrameCounts) (frame : CellGridFrame) : FrameCounts :=
  let counts := { counts with frames := counts.frames + 1, gridEpoch := frame.gridEpoch }
  if frame.full then
    { counts with
      fullFrames := counts.fullFrames + 1
      lastFullScrollbackRows := some frame.scrollbackRows.length }
  else counts

/-! ## The replica -/

/-- What admitting one frame did. -/
inductive Admission where
  | refused (reason : String) (latched : Bool)
  | baselineReplaced
  | deltaApplied
  | chunkPending
  deriving DecidableEq

/-- A frame this replica is not the destination of: it never latches. -/
def Admission.unbound (fence bound frameStream : String) : Admission :=
  .refused (fence ++ " " ++ bound ++ " is not current for frame stream " ++ frameStream) false

/-- One session's canonical replica and everything fenced to it. -/
structure TerminalSession where
  sessionId : String
  workerFp : String
  target : FoldTarget
  assembler : CellGridChunkAssembler
  latch : RepairLatch
  generation : Option TerminalToken
  views : Table String TerminalView
  /-- The last stream, epoch and sequence seen on the wire, whatever their fate. -/
  wireStreamId : Option String
  wireGridEpoch : Option String
  wireSeq : Option UInt64
  frameCounts : FrameCounts
  deliveries : RendererDeliveries
  liveness : ForegroundLiveness

namespace TerminalSession

/-- A session with no expectation installed and nothing to paint. -/
def new (sessionId workerFp : String) : TerminalSession where
  sessionId := sessionId
  workerFp := workerFp
  target := .empty
  assembler := .new
  latch := .new
  generation := none
  views := ∅
  wireStreamId := none
  wireGridEpoch := none
  wireSeq := none
  frameCounts := { frames := 0, fullFrames := 0, lastFullScrollbackRows := none, gridEpoch := "" }
  deliveries := .new
  liveness := .new

variable (session : TerminalSession)

def canonical : Option CellGridFrame := session.target.canonical

def baselineReady : Bool := session.target.baselineReady

def expectedStreamId : Option String := session.target.expectedStreamId

/-- How many frames have been applied to this replica. -/
def frameRevision : Nat := session.deliveries.revision

def repairLatched : Bool := session.latch.latched

/-! ## Its views -/

/-- The views in the order their map walks them. -/
def orderedViews : List TerminalView :=
  (session.views.entries.insertionSort fun a b => a.1 ≤ b.1).map fun entry => entry.2

/-- The view whose liveness this replica owes: the first still asking to be shown. -/
def foregroundView : Option TerminalView :=
  session.orderedViews.find? fun view =>
    match view.intent with
    | .publish .. => true
    | _ => false

/-- The view a resync should name: the first still counted, or the first at all. -/
def repairView : Option TerminalView :=
  (session.orderedViews.find? fun view => view.counted).or session.orderedViews.head?

variable (viewId : String)

/-- A pane attached, or asked to be republished; an identical intent is a renewal. -/
def openView (cols rows : UInt32) : TerminalSession :=
  let view := TerminalView.opened viewId cols rows
  match session.views.lookup viewId with
  | none => { session with views := session.views.insert viewId view }
  | some previous =>
    if previous.intent = view.intent then session
    else
      { session with
        views := session.views.insert viewId { view with revision := previous.revision + 1 } }

def resizeView (cols rows : UInt32) :
    TerminalSession :=
  { session with views := session.views.modify viewId fun view => view.resize cols rows }

def hideView : TerminalSession :=
  { session with views := session.views.modify viewId TerminalView.park }

def closeView : TerminalSession :=
  { session with views := session.views.erase viewId }

def markViewPublished (generation : UInt64)
    (nowMs : Nat) : TerminalSession :=
  { session with
    views := session.views.modify viewId fun view => view.markPublished generation nowMs }

/-- Apply a generation-matched view-state result: the answer to an awaited command, or a
broadcast for the view's current revision over the replica's own generation. -/
def applyViewState (result : ViewStateResult) (nowMs : Nat) :
    TerminalSession × ViewStateAdmission :=
  if result.sessionId ≠ session.sessionId then (session, .stale)
  else
    let ownGeneration := session.generation.map TerminalToken.viewAnswerGeneration
    match session.views.lookup result.viewId with
    | none => (session, .stale)
    | some view =>
      let (view, awaited) := view.acknowledge result.generation nowMs
      let broadcast :=
        !awaited && decide (result.revision = view.revision) &&
          decide (ownGeneration = some result.generation)
      if !awaited && !broadcast then (session, .stale)
      else
        let view := { view with answer := some ⟨view.revision, result.accepted⟩ }
        ({ session with views := session.views.insert result.viewId view },
          if result.accepted then .accepted result.streamId else .refused)

/-! ## Its expectation -/

variable (token : TerminalToken)

def bindGeneration : TerminalSession :=
  { session with generation := some token }

/-- Unbind the replica from its carrier generation. The grid stays. -/
def releaseGeneration : TerminalSession :=
  { session with generation := none }

/-- Install an expectation. A new stream needs a fresh baseline and drops a transfer in
flight and an outstanding gap; a new geometry alone is only compared. -/
def installExpectedStream (streamId : String) (cols rows : UInt32) :
    TerminalSession :=
  let streamChanged := decide (session.target.expectedStreamId ≠ some streamId)
  if !streamChanged ∧ session.target.effectiveCols = cols ∧ session.target.effectiveRows = rows then
    session
  else
    let target := { session.target with
      expectedStreamId := some streamId
      effectiveCols := cols
      effectiveRows := rows }
    if streamChanged then
      { session with
        target := { target with baselineReady := false }
        assembler := session.assembler.reset
        latch := session.latch.clear }
    else
      { session with
        target := { target with
          baselineReady := session.target.canonical.any fun frame =>
            decide (frame.streamId = streamId ∧ frame.cols = cols ∧ frame.rows = rows) } }

/-! ## Its liveness hooks -/

def armQuietProbe (nowMs : Nat) :
    TerminalSession :=
  if session.generation ≠ some token ∨ !session.baselineReady ∨ session.foregroundView.isNone then
    session
  else { session with liveness := session.liveness.armQuiet token nowMs }

/-- A frame was accepted: note it, discharge any challenge it proves, and re-anchor the
quiet probe. -/
def noteAcceptedFrame (nowMs : Nat) :
    TerminalSession :=
  if session.generation ≠ some token ∨ !session.baselineReady then session
  else
    match session.canonical with
    | none => session
    | some frame =>
      let liveness :=
        if session.liveness.proves token frame.streamId frame.seq then session.liveness.noteProved
        else if !session.liveness.hasPendingChallenge token then session.liveness.noteOutput
        else session.liveness
      { session with liveness }.armQuietProbe token nowMs

/-- A chunk part for this replica arrived: the gap between two parts is not silence. -/
def noteChunkProgress (streamId : String)
    (seq : UInt64) : TerminalSession :=
  if session.generation ≠ some token then session
  else if session.liveness.chunkArrives token streamId seq then
    { session with liveness := session.liveness.clearProof }
  else session

/-- A scoped repair went out on this replica's behalf, so it owes a proof. -/
def beginScopedRepair (owner : TerminalToken) (nowMs : Nat) :
    TerminalSession :=
  if session.generation ≠ some owner then session
  else
    match session.expectedStreamId with
    | none => session
    | some streamId =>
      let seq :=
        match session.canonical with
        | some frame => if frame.streamId = streamId then frame.seq else 0
        | none => 0
      if session.liveness.hasPendingChallenge owner then
        { session with liveness := session.liveness.rearmProof nowMs }
      else
        { session with liveness := session.liveness.beginChallenge owner streamId seq nowMs }

/-- Retire every deadline this replica holds. -/
def retireLiveness (outcome : RepairOutcome) : TerminalSession :=
  { session with liveness := session.liveness.retire outcome }

/-! ## Admission -/

/-- Refuse, latching one repair per gap. -/
def refuse (reason : String) (token : TerminalToken) (nowMs : Nat) :
    TerminalSession × Admission :=
  let (latch, latched) := session.latch.latch reason token nowMs
  let session := { session with latch }
  if latched then
    ({ session with
        assembler := session.assembler.reset
        target := { session.target with canonicalChunkInFlight := false } },
      .refused reason latched)
  else (session, .refused reason latched)

/-- Record one frame or chunk part that reached this replica. -/
def noteWire (streamId gridEpoch : String) (seq : UInt64) :
    TerminalSession :=
  { session with
    wireStreamId := some streamId
    wireGridEpoch := some gridEpoch
    wireSeq := some seq }

/-- Fold a decoded frame, with the assembler's own answer to whether one is in flight. -/
def admitDecoded (decoded : CellGridFrame) (token : TerminalToken)
    (nowMs : Nat) : TerminalSession × Admission :=
  let session := { session with
    frameCounts := session.frameCounts.noteDecoded decoded
    target := { session.target with
      canonicalChunkInFlight := session.assembler.inFlight.isSome } }
  let (target, outcome) := session.target.fold decoded
  let session := { session with target }
  match outcome with
  | .invalid reason => session.refuse reason.wireName token nowMs
  | .full =>
    let session := { session with
      latch := session.latch.clear
      assembler := session.assembler.reset
      target := { session.target with canonicalChunkInFlight := false }
      deliveries := session.deliveries.noteFull }
    (session.noteAcceptedFrame token nowMs, .baselineReplaced)
  | .delta delta =>
    let session := { session with deliveries := session.deliveries.noteDelta delta }
    (session.noteAcceptedFrame token nowMs, .deltaApplied)

/-- The epoch a replica reports when a frame is not of its generation. -/
def boundEpoch : String :=
  (session.generation.map TerminalToken.processEpoch).getD ""

def admitFrame (sizes : Sizes) (session : TerminalSession) (frame : PbCellGridFrame)
    (assembled : Bool) (token : TerminalToken) (nowMs : Nat) : TerminalSession × Admission :=
  if session.generation ≠ some token then
    (session, .unbound "generation" session.boundEpoch frame.streamId)
  else if frame.sessionId ≠ session.sessionId then
    session.refuse "terminal frame session mismatch" token nowMs
  else if some frame.streamId ≠ session.target.expectedStreamId then
    -- Not this replica's frame: a repair would ask for a baseline already sent.
    (session, .unbound "stream" (session.target.expectedStreamId.getD "") frame.streamId)
  else
    let session := session.noteWire frame.streamId frame.gridEpoch frame.seq
    match decodeWireFrame sizes frame assembled with
    | .ok decoded => session.admitDecoded decoded token nowMs
    | .error reason => session.refuse reason token nowMs

/-- The flag a push leaves behind. -/
def withChunkInFlight (inFlight : Bool) : TerminalSession :=
  { session with target := { session.target with canonicalChunkInFlight := inFlight } }

/-- Hand a part that is this replica's to the assembler. -/
def assemble (sizes : Sizes) (session : TerminalSession) (chunk : PbCellGridChunk)
    (token : TerminalToken) (nowMs : Nat) : TerminalSession × Admission :=
  let (assembler, result) := session.assembler.push sizes chunk nowMs
  let session := { session with assembler }
  match result with
  | .ok (.pending ..) => (session.withChunkInFlight true, .chunkPending)
  | .ok (.complete _ frame) =>
    let session := session.withChunkInFlight false
    match decodeAssembledFrame frame with
    | .ok decoded => session.admitDecoded decoded token nowMs
    | .error reason => session.refuse reason token nowMs
  | .error error => (session.withChunkInFlight false).refuse error.code.wireName token nowMs

def admitChunk (sizes : Sizes) (session : TerminalSession) (chunk : PbCellGridChunk)
    (token : TerminalToken) (nowMs : Nat) : TerminalSession × Admission :=
  if session.generation ≠ some token then
    (session, .unbound "generation" session.boundEpoch "")
  else
    match decodeChunkPart chunk with
    | none => session.refuse "missing-part" token nowMs
    | some part =>
      if part.sessionId ≠ session.sessionId then
        session.refuse "terminal frame session mismatch" token nowMs
      else if some part.streamId ≠ session.target.expectedStreamId then
        (session, .unbound "stream" (session.target.expectedStreamId.getD "") part.streamId)
      else
        ((session.noteChunkProgress token part.streamId part.seq).noteWire part.streamId
          part.gridEpoch part.seq).assemble sizes chunk token nowMs

/-- Drop a stalled partial, and say whether one was dropped. -/
def sweep (nowMs : Nat) : TerminalSession × Bool :=
  let (assembler, dropped) := session.assembler.expire nowMs
  let session := { session with assembler }
  if !dropped then (session, false)
  else
    let session := session.withChunkInFlight false
    match session.latch.token with
    | some token => ((session.refuse "snapshot-stalled" token nowMs).1, true)
    | none => ({ session with assembler := session.assembler.reset }, true)

def repairDue (token : TerminalToken) (nowMs : Nat) : Bool :=
  session.latch.shouldSend (some token) nowMs

/-- Record that a repair request went out. -/
def markRepairSent (token : TerminalToken) (nowMs : Nat) :
    TerminalSession :=
  { session with latch := session.latch.recordSent token nowMs }

end TerminalSession

end Roost.Client
