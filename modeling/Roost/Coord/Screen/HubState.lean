-- SUMMARY: The screen hub's state: screens, sockets, and what is owed them.
import Roost.Cell.ChunkAssembler
import Roost.Cell.Encode
import Roost.Coord.Screen.Residency
import Roost.Coord.TerminalViewHub

/-!
# Screen hub state

A session's screen is the stream it expects, its charge against the residency pool, the
chunked baseline in flight, the repair ladder's books, and the deltas held while a baseline
assembles. A deadline is never cancelled: it carries the token and the repair generation it
was armed with and finds out when it fires whether they still stand.
-/

namespace Roost.Coord

open Roost.Cell

/-- The stream a replica currently expects, whether or not it holds a baseline. -/
structure ExpectedStream where
  streamId : String
  cols : UInt32
  rows : UInt32
  deriving DecidableEq

/-- A browser's last applied frame, as a resync names it. -/
structure ScreenCheckpoint where
  gridEpoch : String
  seq : UInt64

def terminalScreenAssemblyHoldMaxFrames : Nat := 512
def terminalScreenAssemblyHoldMaxBytes : Nat := 4 * 1024 * 1024

/-- Bounded parking for ordinary deltas that arrive while a chunked baseline assembles. -/
structure TerminalAssemblyHold where
  frames : List PbCellGridFrame := []
  bytes : Nat := 0

namespace TerminalAssemblyHold

/-- Park one delta, or refuse it when the hold is full. -/
def push (sizes : Sizes) (hold : TerminalAssemblyHold) (frame : PbCellGridFrame) :
    TerminalAssemblyHold × Bool :=
  let bytes := sizes.frameLen frame
  if hold.frames.length + 1 > terminalScreenAssemblyHoldMaxFrames ∨
      hold.bytes + bytes > terminalScreenAssemblyHoldMaxBytes then (hold, false)
  else ({ frames := hold.frames ++ [frame], bytes := hold.bytes + bytes }, true)

def clear (_hold : TerminalAssemblyHold) : TerminalAssemblyHold := {}

/-- Empty the hold, in arrival order. -/
def drain (hold : TerminalAssemblyHold) : TerminalAssemblyHold × List PbCellGridFrame :=
  ({}, hold.frames)

end TerminalAssemblyHold

/-- The chunked baseline in flight and the stall deadline that guards it. -/
structure ChunkState where
  assembler : CellGridChunkAssembler := .new
  /-- The armed stall deadline's token. -/
  timer : Option Nat := none
  /-- The repair generation that deadline was armed under. -/
  timerGeneration : Option Nat := none
  /-- First receipt time for the active chunked snapshot. -/
  snapshotCoordRecvMs : Option UInt64 := none

/-- The identity of the snapshot in flight. -/
def ChunkState.activeSnapshotId (chunks : ChunkState) : Option String :=
  chunks.assembler.inFlight.map PartialSnapshot.snapshotId

/-- The repair ladder's bookkeeping for one session. -/
structure SnapshotRepairState where
  /-- Advanced on every stream change. -/
  generation : Nat := 0
  /-- How many snapshot requests this repair has sent. -/
  requestAttempt : Nat := 0
  /-- The outstanding request's first-byte deadline. -/
  requestTimer : Option Nat := none
  /-- The first-byte deadline of a newly expected stream. -/
  baselineTimer : Option Nat := none

/-- One immutable cache version, planned once and walked by any number of sockets. -/
structure ResidentSnapshotSource where
  sessionId : SessionId
  generation : Nat
  plan : CellGridSnapshotSource

structure SessionScreen where
  expected : Option ExpectedStream := none
  charge : SessionCharge := {}
  chunks : ChunkState := {}
  /-- True once a delta or baseline failed and no baseline has repaired it. -/
  resyncLatched : Bool := false
  repair : SnapshotRepairState := {}
  hold : TerminalAssemblyHold := {}
  /-- The current cache's planned snapshot. -/
  source : Option ResidentSnapshotSource := none

namespace SessionScreen

variable (screen : SessionScreen)

def assembling : Bool := screen.chunks.activeSnapshotId.isSome

def hasValidCache : Bool := screen.charge.current.any ResidentCache.valid

def expectedStreamId : Option String := screen.expected.map ExpectedStream.streamId

end SessionScreen

/-- A deadline handed to the timers, with what it was armed with. -/
inductive Deadline where
  | baseline (sessionId : SessionId) (token generation : Nat) (streamId : String)
  | chunk (sessionId : SessionId) (token generation : Nat)
  | request (sessionId : SessionId) (token generation : Nat) (streamId : String) (attempt : Nat)
      (reason : String)

/-! ## Sockets and watchers -/

/-- One socket's registration: what it watches, and the token that tells it from a later
registration under the same id. -/
structure SocketRegistration where
  watched : Finset SessionId := ∅
  token : Nat

/-- A watching socket, as a fan-out reaches it. -/
structure Watcher where
  socketId : String
  token : Nat

/-- Registered sockets and the reverse index from a session to its watchers. -/
structure SocketIndex where
  sockets : Table String SocketRegistration := ∅
  watchers : Index SessionId String := ∅

namespace SocketIndex

variable (index : SocketIndex) (socketId : String) (sessionId : SessionId)

/-- Start watching; false when the socket is unknown or already watched the session. -/
def attach : SocketIndex × Bool :=
  match index.sockets.lookup socketId with
  | none => (index, false)
  | some socket =>
    if sessionId ∈ socket.watched then (index, false)
    else
      ({ sockets := index.sockets.insert socketId
           { socket with watched := insert sessionId socket.watched }
         watchers := index.watchers.add sessionId socketId }, true)

/-- Stop watching; false when the socket did not watch the session. -/
def detach : SocketIndex × Bool :=
  match index.sockets.lookup socketId with
  | none => (index, false)
  | some socket =>
    if sessionId ∉ socket.watched then (index, false)
    else
      ({ sockets := index.sockets.insert socketId
           { socket with watched := socket.watched.erase sessionId }
         watchers := index.watchers.drop sessionId socketId }, true)

def detachSocket : SocketIndex × List SessionId :=
  match index.sockets.lookup socketId with
  | none => (index, [])
  | some socket =>
    let watched := Index.ascending socket.watched
    ({ sockets := index.sockets.erase socketId
       watchers := watched.foldl (fun watchers sessionId => watchers.drop sessionId socketId)
         index.watchers }, watched)

def detachSession : SocketIndex × List String :=
  let socketIds := Index.ascending (index.watchers.under sessionId)
  let watching := socketIds.filter fun socketId =>
    (index.sockets.lookup socketId).any fun socket => decide (sessionId ∈ socket.watched)
  ({ sockets := watching.foldl (fun sockets socketId =>
       sockets.modify socketId fun socket =>
         { socket with watched := socket.watched.erase sessionId }) index.sockets
     watchers := index.watchers.erase sessionId }, watching)

/-- One socket, if it is registered and watching the session. -/
def watcher : Option Watcher :=
  match index.sockets.lookup socketId with
  | none => none
  | some socket =>
    if sessionId ∈ socket.watched then some { socketId, token := socket.token } else none

/-- The sockets currently watching a session. -/
def watchersOf : List Watcher :=
  (Index.ascending (index.watchers.under sessionId)).filterMap fun socketId =>
    index.watcher socketId sessionId

def stillWatching (watcher : Watcher) : Bool :=
  (index.watcher watcher.socketId sessionId).any fun current => current.token == watcher.token

end SocketIndex

/-! ## Receipts, checkpoints and effects -/

/-- Stamp a chunk part with the first coordinator receipt of its snapshot: every part must
carry the same wire metadata. -/
def stampTerminalSnapshotReceipt (chunks : ChunkState) (chunk : PbCellGridChunk)
    (receivedAtMs : UInt64) : ChunkState × PbCellGridChunk :=
  match chunk.part with
  | none => (chunks, chunk)
  | some part =>
    let chunks :=
      if chunks.activeSnapshotId ≠ some chunk.snapshotId ∨ chunks.snapshotCoordRecvMs.isNone then
        { chunks with snapshotCoordRecvMs := some receivedAtMs }
      else chunks
    (chunks, { chunk with
        part := some
          { part with coordRecvMs := chunks.snapshotCoordRecvMs.getD receivedAtMs } })

/-- Whether a resident baseline already carries everything the browser's checkpoint is
missing. -/
def residentCacheSupersedesCheckpoint (cache : ResidentCache) : Option ScreenCheckpoint → Bool
  | none => true
  | some checkpoint =>
    (checkpoint.gridEpoch.isEmpty && checkpoint.seq == 0) ||
      (!checkpoint.gridEpoch.isEmpty && checkpoint.gridEpoch == cache.frame.gridEpoch &&
        decide (cache.frame.seq > checkpoint.seq))

/-- One thing an admission owes the outside world, performed after the hub's locks are
released. -/
inductive ScreenEffect where
  | begin (watcher : Watcher) (sessionId : SessionId) (streamId : String)
  | seed (watcher : Watcher) (sessionId : SessionId) (streamId : String)
      (source : ResidentSnapshotSource)
  | delta (watcher : Watcher) (sessionId : SessionId) (streamId : String)
      (frame : PbCellGridFrame) (generation : Nat)
  | requestSnapshot (sessionId : SessionId) (streamId : String)
  | requestFreshStream (sessionId : SessionId) (streamId reason : String)
  | unavailable (sessionId : SessionId) (reason : String)
  | fullAccepted (sessionId : SessionId) (streamId : String)

end Roost.Coord
