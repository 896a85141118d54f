-- SUMMARY: The repair ladder: deadlines, requests, and escalation.
import Roost.Coord.Screen.HubState

/-!
# The repair ladder

A newly expected stream has a first-byte deadline; a chunked baseline in flight has a stall
deadline; a repair sends at most two snapshot requests, each with its own deadline, and then
asks for a fresh stream. At most one of them is armed for the first byte.
-/

namespace Roost.Coord

open Roost.Cell

/-- Snapshot requests one repair may send before it asks for a fresh stream. -/
def snapshotRequestAttempts : Nat := 2

/-- One session's screen while a call holds the hub's locks, with what the call has drawn
from the hub and what it owes. -/
structure ScreenTurn where
  screen : SessionScreen
  residency : TerminalScreenResidency
  /-- The next deadline token. -/
  tokens : Nat
  scheduled : List Deadline := []
  effects : List ScreenEffect := []

namespace ScreenTurn

variable (turn : ScreenTurn) (sessionId : SessionId)

def emit (effect : ScreenEffect) : ScreenTurn := { turn with effects := turn.effects ++ [effect] }

/-- Hand a deadline to the timers under a token of its own. -/
def schedule (deadline : Deadline) : ScreenTurn :=
  { turn with tokens := turn.tokens + 1, scheduled := turn.scheduled ++ [deadline] }

def withRepair (repair : SnapshotRepairState) : ScreenTurn :=
  { turn with screen := { turn.screen with repair } }

def clearHold : ScreenTurn :=
  { turn with screen := { turn.screen with hold := turn.screen.hold.clear } }

/-- The current cache is known to be wrong. -/
def markInvalid : ScreenTurn :=
  { turn with
    screen :=
      { turn.screen with
        charge :=
          { turn.screen.charge with
            current := turn.screen.charge.current.map fun cache =>
              { cache with valid := false } } } }

/-- Un-charge the current cache. Whether the pool could is not looked at. -/
def dropCache : ScreenTurn :=
  let (residency, charge, _) := turn.residency.dropCache turn.screen.charge
  { turn with residency, screen := { turn.screen with charge, source := none } }

def resetChunks : ScreenTurn :=
  { turn with
    screen :=
      { turn.screen with
        chunks :=
          { assembler := turn.screen.chunks.assembler.reset, timer := none
            timerGeneration := none, snapshotCoordRecvMs := none } } }

def cancelRequestTimer (resetAttempt : Bool) : ScreenTurn :=
  turn.withRepair
    { turn.screen.repair with
      requestTimer := none
      requestAttempt := if resetAttempt then 0 else turn.screen.repair.requestAttempt }

def cancelBaselineTimer : ScreenTurn :=
  turn.withRepair { turn.screen.repair with baselineTimer := none }

/-- A baseline landed: every deadline of this repair is done. -/
def completeRepair : ScreenTurn :=
  (turn.cancelRequestTimer true).cancelBaselineTimer.resetChunks

/-- Forget every deadline, and on a stream change advance the generation. -/
def resetRepair (advanceGeneration : Bool) : ScreenTurn :=
  let turn := turn.completeRepair
  if advanceGeneration then
    turn.withRepair { turn.screen.repair with generation := turn.screen.repair.generation + 1 }
  else turn

/-- Arm the first-byte deadline of a newly expected stream. -/
def armBaselineTimer : ScreenTurn :=
  let turn := turn.cancelBaselineTimer
  match turn.screen.expected with
  | none => turn
  | some expected =>
    let token := turn.tokens
    let repair := turn.screen.repair
    (turn.withRepair { repair with baselineTimer := some token }).schedule
      (.baseline sessionId token repair.generation expected.streamId)

/-- Arm the stall deadline of a chunked baseline, which replaces the first-byte deadline. -/
def armChunkTimer : ScreenTurn :=
  let turn := turn.cancelBaselineTimer
  let token := turn.tokens
  let generation := turn.screen.repair.generation
  { turn with
    screen :=
      { turn.screen with
        chunks :=
          { turn.screen.chunks with timer := some token, timerGeneration := some generation } }
    : ScreenTurn }.schedule (.chunk sessionId token generation)

/-- Send the next snapshot request, unless one is outstanding or both were sent. -/
def startSnapshotRequest (reason : String) : ScreenTurn :=
  match turn.screen.expected with
  | none => turn
  | some expected =>
    let repair := turn.screen.repair
    if repair.requestTimer.isSome ∨ repair.requestAttempt ≥ snapshotRequestAttempts then turn
    else
      let attempt := repair.requestAttempt + 1
      let token := turn.tokens
      let turn := (turn.withRepair
        { repair with requestAttempt := attempt, requestTimer := some token }).cancelBaselineTimer
      (turn.schedule
        (.request sessionId token repair.generation expected.streamId attempt reason)).emit
          (.requestSnapshot sessionId expected.streamId)

def requestResync (reason : String) (retry : Bool) : ScreenTurn :=
  match turn.screen.expected with
  | none => turn
  | some _ =>
    if !retry && turn.screen.resyncLatched then turn
    else
      { turn with screen := { turn.screen with resyncLatched := true } : ScreenTurn
        }.startSnapshotRequest sessionId reason

/-- Latch one repair; a replica already latched asks for nothing more. -/
def latch (reason : String) : ScreenTurn := turn.requestResync sessionId reason false

/-- Ask for a repair even when latched, unless a chunked baseline is already on its way. -/
def retry (reason : String) : ScreenTurn :=
  if turn.screen.assembling then turn else turn.requestResync sessionId reason true

/-! ## Deadlines -/

def onRequestDeadline (token generation : Nat) (streamId : String) (attempt : Nat)
    (reason : String) : ScreenTurn :=
  if turn.screen.repair.requestTimer ≠ some token then turn
  else
    let turn := turn.withRepair { turn.screen.repair with requestTimer := none }
    if turn.screen.repair.generation ≠ generation ∨
        turn.screen.expectedStreamId ≠ some streamId then turn
    else if attempt = 1 then
      turn.startSnapshotRequest sessionId "terminal snapshot request produced no bytes"
    else
      turn.emit (.requestFreshStream sessionId streamId
        ("terminal snapshot repair timed out: " ++ reason))

def onBaselineDeadline (token generation : Nat) (streamId : String) : ScreenTurn :=
  if turn.screen.repair.baselineTimer ≠ some token then turn
  else
    let turn := turn.withRepair { turn.screen.repair with baselineTimer := none }
    if turn.screen.repair.generation ≠ generation ∨
        turn.screen.expectedStreamId ≠ some streamId ∨ turn.screen.hasValidCache = true ∨
        turn.screen.assembling = true then turn
    else turn.latch sessionId "terminal stream baseline never arrived"

def onChunkDeadline (token generation nowMs : Nat) : ScreenTurn :=
  if turn.screen.chunks.timer ≠ some token ∨
      turn.screen.chunks.timerGeneration ≠ some generation then turn
  else
    let chunks := { turn.screen.chunks with timer := none, timerGeneration := none }
    let (assembler, expired) := chunks.assembler.expire nowMs
    if !expired then
      { turn with screen := { turn.screen with chunks := { chunks with assembler } } }
    else
      let screen :=
        { turn.screen with
          chunks := { chunks with assembler, snapshotCoordRecvMs := none }
          hold := turn.screen.hold.clear }
      { turn with screen : ScreenTurn }.retry sessionId
        "terminal snapshot chunk transfer stalled"

/-- What a deadline does when it fires, at a clock reading. -/
def fire (nowMs : Nat) : Deadline → ScreenTurn
  | .baseline sessionId token generation streamId =>
    turn.onBaselineDeadline sessionId token generation streamId
  | .chunk sessionId token generation => turn.onChunkDeadline sessionId token generation nowMs
  | .request sessionId token generation streamId attempt reason =>
    turn.onRequestDeadline sessionId token generation streamId attempt reason

end ScreenTurn

def Deadline.sessionId : Deadline → SessionId
  | .baseline sessionId .. => sessionId
  | .chunk sessionId .. => sessionId
  | .request sessionId .. => sessionId

/-! ## The planned source -/

/-- A refused snapshot part as it is printed. -/
def chunkErrorMessage (error : CellGridChunkError) : String :=
  error.code.wireName ++ ": " ++ error.reason

/-- The widest stamp a fan-out can write. -/
def cellGridCoordFanoutStampMax : UInt64 := UInt64.ofNat (2 ^ 64 - 1)

/-- Plan a cache for fan-out, reserving the widest stamp a recipient's egress can write. -/
def ResidentSnapshotSource.planCache (sizes : Sizes) (sessionId : SessionId) (cache : ResidentCache) :
    Except String ResidentSnapshotSource := do
  let proto ← (cellFrameToProto cache.frame sessionId.value).mapError ProtocolError.message
  let stamped :=
    { proto with coordRecvMs := cache.coordRecvMs, coordFanoutMs := cellGridCoordFanoutStampMax }
  let plan ← (createCellGridSnapshotSource sizes stamped false).mapError chunkErrorMessage
  .ok { sessionId, generation := cache.generation, plan }

/-- The planned source for the session's current cache, planned once per cache version. A
cache that cannot be planned is reported unavailable. -/
def ScreenTurn.seedSource (sizes : Sizes) (turn : ScreenTurn) (sessionId : SessionId) :
    ScreenTurn × Option ResidentSnapshotSource :=
  match turn.screen.charge.current with
  | none => (turn, none)
  | some cache =>
    match turn.screen.source.filter fun source => source.generation == cache.generation with
    | some source => (turn, some source)
    | none =>
      match ResidentSnapshotSource.planCache sizes sessionId cache with
      | .ok source => ({ turn with screen := { turn.screen with source := some source } }, some source)
      | .error reason => (turn.emit (.unavailable sessionId reason), none)

end Roost.Coord
