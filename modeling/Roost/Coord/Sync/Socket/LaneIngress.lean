-- SUMMARY: What inbound terminal material may join a session's lane.
import Roost.Coord.Sync.Socket.ReadyRing

/-!
# Lane ingress

One session's baseline is never interleaved with its own deltas. Under pressure the session
rebaselines: it drops what it has not sent, keeps a baseline that is part-way out, and takes
no delta until a fresh baseline is installed.
-/

namespace Roost.Coord.Sync

variable {β : Type}

/-- What the view hub's delta sink must do next. -/
inductive TerminalDeltaOutcome where
  | queued
  /-- Dropped, with a rebaseline already on its way. -/
  | handled
  /-- Dropped, and nothing is on its way. -/
  | needsSnapshot

namespace SyncV2Session

variable (session : SyncV2Session β) (sessionId : String)

/-- Throw away what this lane has not sent; of a baseline part-way out, only the deltas. -/
def discardUnsentMaterialization : SyncV2Session β :=
  if ((session.terminalLane sessionId).bind TerminalLane.cursor).any SnapshotCursor.isMidBaseline then
    session.withLane sessionId TerminalLane.releaseDeltaTail
  else
    (session.removeTerminalQueued sessionId false).withLane sessionId TerminalLane.releaseCursor

/-- Record that this session owes a canonical full, discarding whatever it had not sent. -/
def requestScopedRebaseline : SyncV2Session β :=
  let session := session.modifyLane sessionId fun lane => { lane with rebaselinePending := true }
  (session.discardUnsentMaterialization sessionId).markTerminalLaneReady sessionId

variable (sizes : FrameSizes β)

variable (streamId : String)

def beginTerminalStream : SyncV2Session β × Bool :=
  if (session.terminalLane sessionId).any fun lane => decide (lane.streamId = streamId) then
    (session, false)
  else
    let session :=
      if (session.terminalLane sessionId).isNone then
        { session with
          terminalSessions := session.terminalSessions.insert sessionId (.new streamId true) }
      else
        let session := session.dropFromReadyRing sessionId
        let session := session.removeTerminalQueued sessionId false
        session.withLane sessionId fun lane session =>
          let (lane, session) := { lane with ready := false : TerminalLane β }.releaseCursor session
          ({ lane with streamId, rebaselinePending := false, attachPriorityPending := true },
            session)
    if (session.terminalLane sessionId).any fun lane =>
        !lane.pendingStates.isEmpty && !lane.stateQueued then
      ((session.markTerminalLaneReady sessionId).pumpTerminalLane sessionId sizes 0 false, true)
    else (session, true)

/-- Answer a view-state for one session; one that does not fit closes the socket. -/
def enqueueTerminalState (frame : FirehoseFrame β) (nowMs : Nat)
    (granted : Bool) : SyncV2Session β × Option SessionClose :=
  let session :=
    if (session.terminalLane sessionId).isNone then
      { session with terminalSessions := session.terminalSessions.insert sessionId (.new "" false) }
    else session
  let (session, retained) :=
    match session.retainTerminalFrame sessionId sizes frame nowMs with
    | some (session, retained) => (session, some retained)
    | none =>
      let session := session.requestScopedRebaseline sessionId
      match session.retainTerminalFrame sessionId sizes frame nowMs with
      | some (session, retained) => (session, some retained)
      | none => (session, none)
  match retained with
  | none =>
    (session.fault, some (.backpressure .byteLimit (session.window.stats nowMs)))
  | some retained =>
    let session := session.modifyLane sessionId fun lane =>
      { lane with pendingStates := lane.pendingStates ++ [retained] }
    ((session.markTerminalLaneReady sessionId).pumpTerminalLane sessionId sizes nowMs granted, none)

/-- Install a canonical full for one session, replacing any baseline not started. `source` is
what the hub's source made of the snapshot id. -/
def replaceTerminalSnapshot
    (source : Option (TerminalSnapshotCursor β)) (nowMs : Nat) (granted : Bool) :
    SyncV2Session β × Bool :=
  match session.terminalLane sessionId with
  | none => (session, false)
  | some lane =>
    if lane.streamId ≠ streamId then (session, false)
    else if lane.cursor.any SnapshotCursor.isMidBaseline then
      ((session.modifyLane sessionId fun lane =>
        { lane with rebaselinePending := true }).markTerminalLaneReady sessionId, false)
    else
      match source with
      | none => (session, false)
      | some source =>
        if source.partCount = 0 then (session, false)
        else
          let session := session.discardUnsentMaterialization sessionId
          let session := session.modifyLane sessionId fun lane =>
            { lane with cursor := some (.ofSnapshot streamId source), rebaselinePending := false }
          ((session.markTerminalLaneReady sessionId).pumpTerminalLane sessionId sizes nowMs granted,
            true)

/-- Buffer one delta in its lane. -/
def admitTerminalDelta (frame : FirehoseFrame β)
    (nowMs : Nat) (granted : Bool) : SyncV2Session β × Bool :=
  if !(session.terminalLane sessionId).any fun lane =>
      decide (lane.streamId = streamId) && !lane.rebaselinePending then (session, false)
  else
    -- A delta for a stream with no baseline yet opens a delta-only cursor.
    let session :=
      if ((session.terminalLane sessionId).bind TerminalLane.cursor).isNone then
        session.modifyLane sessionId fun lane => { lane with cursor := some (.ofStream streamId) }
      else session
    let cursor := (session.terminalLane sessionId).bind TerminalLane.cursor
    if cursor.any fun cursor =>
        decide (cursor.bufferedDeltaFrames + 1 > terminalLaneMaxDeltaFrames) then
      (session.requestScopedRebaseline sessionId, false)
    else
      match session.retainTerminalFrame sessionId sizes frame nowMs with
      | none => (session.requestScopedRebaseline sessionId, false)
      | some (session, retained) =>
        if cursor.any fun cursor =>
            decide (cursor.deltaBytes + retained.estimatedBytes > terminalLaneMaxDeltaBytes) then
          ((session.releaseCharge retained).requestScopedRebaseline sessionId, false)
        else
          let session := session.modifyCursor sessionId fun cursor =>
            { cursor with
              deltaTail := cursor.deltaTail ++ [retained]
              deltaBytes := cursor.deltaBytes + retained.estimatedBytes }
          ((session.markTerminalLaneReady sessionId).pumpTerminalLane sessionId sizes nowMs granted,
            true)

/-- Whether this session's lane owes a canonical full for this stream. -/
def terminalRebaselinePending : Bool :=
  (session.terminalLane sessionId).any fun lane =>
    decide (lane.streamId = streamId) && lane.rebaselinePending

/-- Buffer one delta for a session, or rebaseline the session instead. -/
def enqueueTerminalDelta (frame : FirehoseFrame β)
    (nowMs : Nat) (granted : Bool) : SyncV2Session β × TerminalDeltaOutcome :=
  let generation := session.domainGeneration .terminal
  match session.admitTerminalDelta sessionId sizes streamId frame nowMs granted with
  | (session, true) => (session, .queued)
  | (session, false) =>
    if session.terminalRebaselinePending sessionId streamId then (session, .handled)
    else if session.pressureClosing || decide (session.domainGeneration .terminal ≠ generation) then
      (session, .handled)
    else (session, .needsSnapshot)

/-- Forget a session's terminal lane and everything it still holds. -/
def dropTerminalSession : SyncV2Session β := session.deleteTerminalSession sessionId

end SyncV2Session

end Roost.Coord.Sync
