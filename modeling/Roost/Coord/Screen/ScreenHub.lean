-- SUMMARY: The screen hub: entry points, fan-out, and the machine of its calls.
import Roost.Coord.Screen.ReplicaAdmission

/-!
# The screen hub

Every entry point runs under the hub's locks and returns what it owes; that is performed
once the locks are released, one piece at a time and in any order between callers. The
machine keeps what is owed and the deadlines handed to the timers in its state, so its runs
are the interleavings of callers, performed work and firing deadlines.
-/

namespace Roost.Coord

open Roost.Cell

/-- What a call owes once it has released the hub. -/
inductive HubTask where
  | effect (effect : ScreenEffect)
  /-- The deltas held during an assembly, folded once its baseline's seeds went out. -/
  | replay (sessionId : SessionId)

/-- What the hub asks of one socket, or of the owner of the replica. -/
inductive SinkCall where
  | beginTerminalStream (socketId : String) (sessionId : SessionId) (streamId : String)
  | replaceTerminalSnapshot (socketId : String) (sessionId : SessionId) (streamId : String)
      (source : ResidentSnapshotSource)
  | enqueueTerminalDelta (socketId : String) (sessionId : SessionId) (streamId : String)
      (frame : PbCellGridFrame)
  | dropTerminalSession (socketId : String) (sessionId : SessionId)
  | requestSnapshot (sessionId : SessionId) (streamId : String)
  | requestFreshStream (sessionId : SessionId) (streamId reason : String)
  | unavailable (sessionId : SessionId) (reason : String)
  | fullAccepted (sessionId : SessionId) (streamId : String)

/-- What a socket asking for a rebaseline must do on its own lane. -/
structure RebaselinePlan where
  /-- The stream the replica expects. -/
  streamId : String
  /-- A resident full to install. -/
  source : Option ResidentSnapshotSource

/-- What a call answers, and what it did outside the hub before it answered. -/
structure HubReply where
  /-- What the call decided under the locks. -/
  effects : List ScreenEffect := []
  calls : List SinkCall := []
  plan : Option RebaselinePlan := none
  answer : Bool := true

/-- The replicas, the sockets watching them, the residency pool, and what is under way. -/
structure ScreenHub where
  sessions : Table SessionId SessionScreen := ∅
  sockets : SocketIndex := {}
  residency : TerminalScreenResidency
  /-- The next token of a deadline or a registration. -/
  tokens : Nat := 1
  scheduled : List Deadline := []
  pending : List HubTask := []

namespace ScreenHub

/-- A hub over a budget's two ceilings. -/
def withCaps (maxResidentRows maxResidentSpans : Nat) : ScreenHub :=
  { residency := .new maxResidentRows maxResidentSpans }

variable (sizes : Sizes) (hub : ScreenHub) (sessionId : SessionId)

/-- Take the hub's locks for one session's screen. -/
def turn (screen : SessionScreen) : ScreenTurn :=
  { screen, residency := hub.residency, tokens := hub.tokens }

/-- Release the locks: the screen is kept, and what the turn owes is pending. -/
def commit (turn : ScreenTurn) : ScreenHub :=
  { hub with
    sessions := hub.sessions.insert sessionId turn.screen
    residency := turn.residency
    tokens := turn.tokens
    scheduled := hub.scheduled ++ turn.scheduled
    pending := hub.pending ++ turn.effects.map .effect }

def within (screen : SessionScreen) (body : ScreenTurn → ScreenTurn) : ScreenHub × HubReply :=
  let turn := body (hub.turn screen)
  (hub.commit sessionId turn, { effects := turn.effects })

/-! ## The replica's entry points -/

def expectedStreamId : Option String := (hub.sessions.lookup sessionId).bind (·.expectedStreamId)

/-- Declare the stream this session's replica will serve. -/
def expectStream (streamId : String) (cols rows : UInt32) : ScreenHub × HubReply :=
  let screen := (hub.sessions.lookup sessionId).getD {}
  let expected : ExpectedStream := { streamId, cols, rows }
  if screen.expected = some expected then
    ({ hub with sessions := hub.sessions.insert sessionId screen }, {})
  else
    hub.within sessionId screen fun turn =>
      let turn := turn.resetRepair true
      let turn := { turn with
        effects := turn.effects ++ (hub.sockets.watchersOf sessionId).map fun watcher =>
          .begin watcher sessionId streamId : ScreenTurn }
      let turn := turn.dropCache.clearHold
      { turn with screen := { turn.screen with expected := some expected, resyncLatched := false }
        : ScreenTurn }.armBaselineTimer sessionId

/-- A baseline or delta failed against this session's replica. -/
def invalidate (reason : String) : ScreenHub × HubReply :=
  match hub.sessions.lookup sessionId with
  | none => (hub, {})
  | some screen =>
    if screen.expected.isNone then (hub, {})
    else
      hub.within sessionId screen fun turn =>
        turn.resetChunks.clearHold.markInvalid.retry sessionId reason

/-- Forget a session entirely: its watchers lose their lanes and its bytes go back to the
pool. A watch its own drop callbacks made is cleared with it. -/
def dropSession : ScreenHub × HubReply :=
  let (sockets, detached) := hub.sockets.detachSession sessionId
  let residency :=
    match hub.sessions.lookup sessionId with
    | none => hub.residency
    | some screen => ((hub.turn screen).resetRepair true).dropCache.residency
  ({ hub with
      sockets := (sockets.detachSession sessionId).1
      sessions := hub.sessions.erase sessionId
      residency },
    { calls := detached.map fun socketId => .dropTerminalSession socketId sessionId })

/-- What `publishFrame` does under the locks. -/
def admitFrame (frame : PbCellGridFrame) (expected : ExpectedStream) (watchers : List Watcher)
    (turn : ScreenTurn) : ScreenTurn :=
  if turn.screen.assembling then
    let interrupts := !frame.full || frame.streamId != expected.streamId
    let (hold, held) := if frame.full then (turn.screen.hold, false)
      else turn.screen.hold.push sizes frame
    if held then { turn with screen := { turn.screen with hold } }
    else
      let turn := turn.clearHold.resetChunks
      let turn :=
        if interrupts then turn.retry sessionId "ordinary frame interrupted chunk assembly"
        else turn
      if frame.full then turn.acceptFull sizes sessionId watchers frame false else turn
  else if frame.full then turn.acceptFull sizes sessionId watchers frame false
  else turn.acceptDelta sizes sessionId watchers frame

/-- Feed one whole cell frame into a session's replica. -/
def publishFrame (frame : PbCellGridFrame) : ScreenHub × HubReply :=
  match hub.sessions.lookup sessionId with
  | none => (hub, { answer := false })
  | some screen =>
    match screen.expected with
    | none => (hub, { answer := false })
    | some expected =>
      let frame := { frame with sessionId := sessionId.value }
      hub.within sessionId screen
        (admitFrame sizes sessionId frame expected (hub.sockets.watchersOf sessionId))

/-- What `publishChunk` does under the locks with a part of the expected stream, and whether
the part completed a baseline. -/
def admitChunk (chunk : PbCellGridChunk) (receivedAtMs : UInt64) (nowMs : Nat)
    (watchers : List Watcher) (turn : ScreenTurn) : ScreenTurn × Bool :=
  let (chunks, chunk) := stampTerminalSnapshotReceipt turn.screen.chunks chunk receivedAtMs
  let firstChunk := !turn.screen.assembling
  let (assembler, pushed) := chunks.assembler.push sizes chunk nowMs
  let turn : ScreenTurn :=
    { turn with screen := { turn.screen with chunks := { chunks with assembler } } }
  match pushed with
  | .error error => (turn.clearHold.resetChunks.retry sessionId error.reason, false)
  | .ok assembly =>
    let turn := if firstChunk then turn.cancelRequestTimer true else turn
    let turn := turn.armChunkTimer sessionId
    match assembly with
    | .pending .. => (turn, false)
    | .complete _ frame => (turn.resetChunks.acceptFull sizes sessionId watchers frame true, true)

/-- Feed one part of a chunked baseline into a session's replica. -/
def publishChunk (chunk : PbCellGridChunk) (receivedAtMs : Int64) (nowMs : Nat) :
    ScreenHub × HubReply :=
  match hub.sessions.lookup sessionId with
  | none => (hub, { answer := false })
  | some screen =>
    match screen.expected, chunk.part with
    | some expected, some part =>
      if part.streamId ≠ expected.streamId then (hub, { answer := false })
      else
        let chunk := { chunk with part := some { part with sessionId := sessionId.value } }
        let (turn, completed) := admitChunk sizes sessionId chunk
          (UInt64.ofNat receivedAtMs.toNatClampNeg) nowMs (hub.sockets.watchersOf sessionId)
          (hub.turn screen)
        let hub := hub.commit sessionId turn
        ({ hub with pending := hub.pending ++ if completed then [.replay sessionId] else [] },
          { effects := turn.effects })
    | _, _ => (hub, { answer := false })

/-- Take a residency lease on one cache version for a snapshot cursor. -/
def acquireSourceLease (generation : Nat) : ScreenHub × HubReply :=
  match hub.sessions.lookup sessionId with
  | none => (hub, { answer := false })
  | some screen =>
    let (residency, charge, answer) := hub.residency.acquireSourceLease screen.charge generation
    ({ hub with residency, sessions := hub.sessions.insert sessionId { screen with charge } },
      { answer })

/-- Give a cursor's lease back. -/
def releaseSourceLease (generation : Nat) : ScreenHub × HubReply :=
  match hub.sessions.lookup sessionId with
  | none => (hub, {})
  | some screen =>
    let (residency, charge) := hub.residency.releaseSourceLease screen.charge generation
    ({ hub with residency, sessions := hub.sessions.insert sessionId { screen with charge } }, {})

def replayHeldDeltas : ScreenHub × HubReply :=
  match hub.sessions.lookup sessionId with
  | none => (hub, {})
  | some screen =>
    hub.within sessionId screen fun turn =>
      turn.replayHeldDeltas sizes sessionId (hub.sockets.watchersOf sessionId)

/-! ## The sockets -/

variable (socketId : String)

/-- A socket is gone: every session it watched loses its lane on it. -/
def unregisterSocket : ScreenHub × HubReply :=
  let (sockets, watched) := hub.sockets.detachSocket socketId
  ({ hub with sockets },
    { calls := watched.map fun sessionId => .dropTerminalSession socketId sessionId })

def registerSocket : ScreenHub × HubReply :=
  let (hub, reply) := hub.unregisterSocket socketId
  let token := hub.tokens
  let hub := { hub with tokens := token + 1 }
  -- A drop callback may have registered the id anew; that registration wins.
  if (hub.sockets.sockets.lookup socketId).isSome then (hub, reply)
  else
    ({ hub with
        sockets :=
          { hub.sockets with
            sockets := hub.sockets.sockets.insert socketId { token : SocketRegistration } } },
      reply)

def setWatching (watching : Bool) : ScreenHub × HubReply :=
  if watching then
    match hub.sockets.attach socketId sessionId with
    | (_, false) => (hub, {})
    | (sockets, true) =>
      ({ hub with sockets },
        match hub.expectedStreamId sessionId, sockets.watcher socketId sessionId with
        | some streamId, some _ => { calls := [.beginTerminalStream socketId sessionId streamId] }
        | _, _ => {})
  else
    match hub.sockets.detach socketId sessionId with
    | (_, false) => (hub, {})
    | (sockets, true) =>
      ({ hub with sockets }, { calls := [.dropTerminalSession socketId sessionId] })

/-- Serve a watching socket the replica's current baseline. Whether the socket took it is
the socket's answer. -/
def seedSocket : ScreenHub × HubReply :=
  match hub.sockets.watcher socketId sessionId, hub.sessions.lookup sessionId with
  | some watcher, some screen =>
    match screen.expectedStreamId with
    | none => (hub, { answer := false })
    | some streamId =>
      if !screen.hasValidCache then (hub, { answer := false })
      else
        let (turn, source) := (hub.turn screen).seedSource sizes sessionId
        (hub.commit sessionId turn,
          { effects := turn.effects
            answer := source.isSome
            calls := source.toList.map fun source =>
              .replaceTerminalSnapshot watcher.socketId sessionId streamId source })
  | _, _ => (hub, { answer := false })

/-- Decide a resync without touching the socket. -/
def rebaselinePlan (checkpoint : Option ScreenCheckpoint) :
    ScreenHub × HubReply :=
  match hub.sockets.watcher socketId sessionId, hub.sessions.lookup sessionId with
  | some _, some screen =>
    match screen.expectedStreamId with
    | none => (hub, { answer := false })
    | some streamId =>
      let servable := !screen.resyncLatched && screen.charge.current.any fun cache =>
        cache.valid && residentCacheSupersedesCheckpoint cache checkpoint
      let (turn, source) :=
        if servable then (hub.turn screen).seedSource sizes sessionId
        else ((hub.turn screen).retry sessionId "browser checkpoint requires source baseline", none)
      (hub.commit sessionId turn,
        { effects := turn.effects, plan := some { streamId, source } })
  | _, _ => (hub, { answer := false })

def resyncSocket (checkpoint : Option ScreenCheckpoint) :
    ScreenHub × HubReply :=
  let (hub, reply) := hub.rebaselinePlan sizes sessionId socketId checkpoint
  match reply.plan with
  | none => (hub, { reply with answer := false })
  | some plan =>
    (hub, { reply with
        answer := plan.source.isSome
        calls := .beginTerminalStream socketId sessionId plan.streamId ::
          plan.source.toList.map fun source =>
            .replaceTerminalSnapshot socketId sessionId plan.streamId source })

/-- A socket dropped a delta and nothing is on its way: seed it from the cache that delta
produced, if that registration still watches and that version is still current. -/
def reseedAfterRefusedDelta (watcher : Watcher) (streamId : String) (generation : Nat) :
    ScreenHub × HubReply :=
  match hub.sessions.lookup sessionId with
  | none => (hub, {})
  | some screen =>
    if hub.sockets.stillWatching sessionId watcher ∧
        screen.charge.current.map ResidentCache.generation = some generation then
      let (turn, source) := (hub.turn screen).seedSource sizes sessionId
      (hub.commit sessionId turn,
        { effects := turn.effects
          calls := source.toList.map fun source =>
            .replaceTerminalSnapshot watcher.socketId sessionId streamId source })
    else (hub, {})

/-- Carry out one effect; a socket effect reaches its watcher only while that registration
still watches. `needsSnapshot` is the socket's answer to a delta. -/
def runEffect (needsSnapshot : Bool) : ScreenEffect → ScreenHub × HubReply
  | .begin watcher sessionId streamId =>
    if hub.sockets.stillWatching sessionId watcher then
      (hub, { calls := [.beginTerminalStream watcher.socketId sessionId streamId] })
    else (hub, {})
  | .seed watcher sessionId streamId source =>
    if hub.sockets.stillWatching sessionId watcher then
      (hub, { calls := [.replaceTerminalSnapshot watcher.socketId sessionId streamId source] })
    else (hub, {})
  | .delta watcher sessionId streamId frame generation =>
    if hub.sockets.stillWatching sessionId watcher then
      let call := .enqueueTerminalDelta watcher.socketId sessionId streamId frame
      if needsSnapshot then
        let (hub, reply) :=
          hub.reseedAfterRefusedDelta sizes sessionId watcher streamId generation
        (hub, { reply with calls := call :: reply.calls })
      else (hub, { calls := [call] })
    else (hub, {})
  | .requestSnapshot sessionId streamId => (hub, { calls := [.requestSnapshot sessionId streamId] })
  | .requestFreshStream sessionId streamId reason =>
    (hub, { calls := [.requestFreshStream sessionId streamId reason] })
  | .unavailable sessionId reason => (hub, { calls := [.unavailable sessionId reason] })
  | .fullAccepted sessionId streamId => (hub, { calls := [.fullAccepted sessionId streamId] })

/-- Perform one piece of what is owed. -/
def perform (needsSnapshot : Bool) : HubTask → ScreenHub × HubReply
  | .effect effect => hub.runEffect sizes needsSnapshot effect
  | .replay sessionId => hub.replayHeldDeltas sizes sessionId

/-- A deadline fires; for a session that is gone it does nothing. -/
def fire (deadline : Deadline) (nowMs : Nat) : ScreenHub × HubReply :=
  match hub.sessions.lookup deadline.sessionId with
  | none => (hub, {})
  | some screen => hub.within deadline.sessionId screen fun turn => turn.fire nowMs deadline

/-! ## The machine -/

/-- What can happen next: a caller's call, a piece of pending work, or a deadline. -/
inductive Op where
  | expectStream (sessionId : SessionId) (streamId : String) (cols rows : UInt32)
  | invalidate (sessionId : SessionId) (reason : String)
  | dropSession (sessionId : SessionId)
  | publishFrame (sessionId : SessionId) (frame : PbCellGridFrame)
  | publishChunk (sessionId : SessionId) (chunk : PbCellGridChunk) (receivedAtMs : Int64)
      (nowMs : Nat)
  | acquireSourceLease (sessionId : SessionId) (generation : Nat)
  | releaseSourceLease (sessionId : SessionId) (generation : Nat)
  | registerSocket (socketId : String)
  | unregisterSocket (socketId : String)
  | setWatching (socketId : String) (sessionId : SessionId) (watching : Bool)
  | seedSocket (socketId : String) (sessionId : SessionId)
  | resyncSocket (socketId : String) (sessionId : SessionId) (checkpoint : Option ScreenCheckpoint)
  | rebaselinePlan (socketId : String) (sessionId : SessionId)
      (checkpoint : Option ScreenCheckpoint)
  | perform (index : Nat) (needsSnapshot : Bool)
  | fire (index : Nat) (nowMs : Nat)

/-- The hub over everything that can happen to it. A piece of work is performed once and a
deadline fires once. -/
def machine : Transducer ScreenHub Op HubReply where
  step hub
    | .expectStream sessionId streamId cols rows => hub.expectStream sessionId streamId cols rows
    | .invalidate sessionId reason => hub.invalidate sessionId reason
    | .dropSession sessionId => hub.dropSession sessionId
    | .publishFrame sessionId frame => hub.publishFrame sizes sessionId frame
    | .publishChunk sessionId chunk receivedAtMs nowMs =>
      hub.publishChunk sizes sessionId chunk receivedAtMs nowMs
    | .acquireSourceLease sessionId generation => hub.acquireSourceLease sessionId generation
    | .releaseSourceLease sessionId generation => hub.releaseSourceLease sessionId generation
    | .registerSocket socketId => hub.registerSocket socketId
    | .unregisterSocket socketId => hub.unregisterSocket socketId
    | .setWatching socketId sessionId watching => hub.setWatching sessionId socketId watching
    | .seedSocket socketId sessionId => hub.seedSocket sizes sessionId socketId
    | .resyncSocket socketId sessionId checkpoint =>
      hub.resyncSocket sizes sessionId socketId checkpoint
    | .rebaselinePlan socketId sessionId checkpoint =>
      hub.rebaselinePlan sizes sessionId socketId checkpoint
    | .perform index needsSnapshot =>
      match hub.pending[index]? with
      | none => (hub, {})
      | some task =>
        { hub with pending := hub.pending.eraseIdx index : ScreenHub }.perform sizes needsSnapshot
          task
    | .fire index nowMs =>
      match hub.scheduled[index]? with
      | none => (hub, {})
      | some deadline =>
        { hub with scheduled := hub.scheduled.eraseIdx index : ScreenHub }.fire deadline nowMs

end ScreenHub

end Roost.Coord
