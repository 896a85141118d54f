-- SUMMARY: The ring of terminal lanes with something to send.
import Roost.Coord.Sync.Socket.Admission

/-!
# The terminal ready ring

A lane offers one frame at a time: its oldest view-state, else the next part of its baseline,
else its oldest delta. What it offered stays in flight until the socket took it; a lane that
could not queue anything goes to the back of the ring.

The screen hub is asked for a baseline when a lane that owes one runs dry; its answer is the
environment's.
-/

namespace Roost.Coord.Sync

variable {β : Type}

inductive CursorPump where
  | queued
  | blocked
  | empty

/-- What a lane would send next. -/
inductive CursorPlan where
  | baselinePart
  | delta
  | drained
  | inFlight

namespace SyncV2Session

variable (session : SyncV2Session β) (sessionId : String)

/-! ## The ring -/

def markTerminalLaneReady : SyncV2Session β :=
  match session.terminalLane sessionId with
  | none => session
  | some lane =>
    if lane.ready then session
    else
      let session := session.modifyLane sessionId fun lane => { lane with ready := true }
      if sessionId ∈ session.terminalReadySessions then session
      else { session with terminalReadySessions := session.terminalReadySessions ++ [sessionId] }

def takeReadyLane (preferred : Option String) : SyncV2Session β × Option String :=
  let chosen :=
    match preferred with
    | some preferred =>
      if (session.terminalLane preferred).any TerminalLane.ready then some preferred else none
    | none => session.terminalReadySessions.head?
  match chosen with
  | none => (session, none)
  | some sessionId =>
    let session := session.dropFromReadyRing sessionId
    match session.terminalLane sessionId with
    | none => (session, none)
    | some _ =>
      (session.modifyLane sessionId fun lane => { lane with ready := false }, some sessionId)

/-! ## What a lane holds -/

variable (sizes : FrameSizes β)

def retainTerminalFrame (frame : FirehoseFrame β) (nowMs : Nat) :
    Option (SyncV2Session β × RetainedFrame β) :=
  let owned := OwnedFrame.ofCopy frame .terminal (session.domainGeneration .terminal)
  (session.tryCharge sizes owned).map fun charged =>
    (charged.1, .new owned (.cell sessionId) nowMs charged.2)

/-- Charge one materialized baseline part to a lane's cursor. -/
def retainCursorPart (cell : SharedCellFrame β) (nowMs : Nat) :
    Option (SyncV2Session β × RetainedFrame β) :=
  let owned := OwnedFrame.ofSharedCell cell (session.domainGeneration .terminal)
  (session.tryCharge sizes owned).map fun charged =>
    (charged.1, .new owned (.cell sessionId) nowMs charged.2)

variable (nowMs : Nat)

/-- Materialize and charge the lane's next baseline part. -/
def materializeCursorPart :
    Option (SyncV2Session β × RetainedFrame β) :=
  match session.terminalLane sessionId with
  | none => none
  | some lane =>
    match lane.cursor with
    | none => none
    | some cursor =>
      match cursor.source with
      | none => none
      | some source =>
        match source.materialize cursor.index with
        | none => none
        | some cell => session.retainCursorPart sessionId sizes cell nowMs

def takeCursorMaterialization : Option (SyncV2Session β × RetainedFrame β) :=
  match session.terminalLane sessionId with
  | none => none
  | some lane =>
    match lane.cursor with
    | none => none
    | some cursor =>
      match cursor.materialized with
      | none => none
      | some part =>
        some (session.modifyCursor sessionId fun cursor => { cursor with materialized := none },
          part)

def restoreCursorMaterialization (part : RetainedFrame β) : SyncV2Session β :=
  session.modifyCursor sessionId fun cursor => { cursor with materialized := some part }

def takePendingState : Option (SyncV2Session β × String × RetainedFrame β) :=
  match session.terminalLane sessionId with
  | none => none
  | some lane =>
    match lane.pendingStates with
    | [] => none
    | state :: rest =>
      some (session.modifyLane sessionId fun lane => { lane with pendingStates := rest },
        lane.streamId, state)

def restorePendingState (state : RetainedFrame β) : SyncV2Session β :=
  session.modifyLane sessionId fun lane =>
    { lane with pendingStates := state :: lane.pendingStates }

def takeDeltaTailHead : Option (SyncV2Session β × RetainedFrame β) :=
  match session.terminalLane sessionId with
  | none => none
  | some lane =>
    match lane.cursor with
    | none => none
    | some cursor =>
      match cursor.deltaTail with
      | [] => none
      | delta :: rest =>
        some (session.modifyCursor sessionId fun cursor => { cursor with deltaTail := rest }, delta)

def restoreDeltaTailHead (delta : RetainedFrame β) : SyncV2Session β :=
  session.modifyCursor sessionId fun cursor => { cursor with deltaTail := delta :: cursor.deltaTail }

def markCursorQueued (deltaBytes : Option Nat) : SyncV2Session β :=
  session.modifyCursor sessionId fun cursor =>
    { cursor with queued := true, inFlightDeltaBytes := deltaBytes }

/-- Drop a cursor whose baseline and delta tail are both empty. -/
def releaseDrainedCursor : SyncV2Session β :=
  session.withLane sessionId TerminalLane.releaseCursor

/-! ## The pumps -/

def planCursor : Option CursorPlan :=
  match session.terminalLane sessionId with
  | none => none
  | some lane =>
    match lane.cursor with
    | none => none
    | some cursor =>
      if lane.streamId ≠ cursor.streamId then none
      else if cursor.queued then some .inFlight
      else if cursor.index < cursor.partCount then some .baselinePart
      else if cursor.deltaTail.isEmpty then some .drained
      else some .delta

/-- The metadata a queued frame of a lane's cursor carries. -/
def cursorMeta (streamId : String) (index : Nat) (attachSnapshot : Bool) : SyncFrameMeta :=
  { domain := some .terminal, lane := .cell, sessionId := some sessionId,
    terminalStreamId := some streamId, terminalCursorIndex := some index, attachSnapshot }

/-- Queue this session's oldest view-state. -/
def pumpState : SyncV2Session β × Bool :=
  match session.takePendingState sessionId with
  | none => (session, false)
  | some (session, streamId, state) =>
    let frameMeta : SyncFrameMeta :=
      { domain := some .terminal, lane := .cell, sessionId := some sessionId,
        terminalStreamId := some streamId, terminalState := true }
    match session.tryEnqueueLaneFrame state frameMeta nowMs with
    | some session => (session.modifyLane sessionId fun lane => { lane with stateQueued := true }, true)
    | none => (session.restorePendingState sessionId state, false)

/-- Materialize and queue the lane's next baseline part. A part an earlier turn could not queue
is used again. -/
def pumpBaselinePart : SyncV2Session β × CursorPump :=
  let attachPriority := (session.terminalLane sessionId).any TerminalLane.attachPriorityPending
  match (session.takeCursorMaterialization sessionId).or
      (session.materializeCursorPart sessionId sizes nowMs) with
  | none => (session, .blocked)
  | some (session, part) =>
    let (streamId, index) :=
      match (session.terminalLane sessionId).bind TerminalLane.cursor with
      | none => ("", 0)
      | some cursor => (cursor.streamId, cursor.index)
    let attachSnapshot := attachPriority && part.frame.isSnapshot
    match session.tryEnqueueLaneFrame part (cursorMeta sessionId streamId index attachSnapshot)
        nowMs with
    | some session => (session.markCursorQueued sessionId none, .queued)
    | none => (session.restoreCursorMaterialization sessionId part, .blocked)

/-- Queue the lane's oldest buffered delta. -/
def pumpDelta : SyncV2Session β × CursorPump :=
  match (session.terminalLane sessionId).bind TerminalLane.cursor with
  | none => (session, .blocked)
  | some cursor =>
    match session.takeDeltaTailHead sessionId with
    | none => (session, .blocked)
    | some (session, delta) =>
      match session.tryEnqueueLaneFrame delta
          (cursorMeta sessionId cursor.streamId cursor.partCount false) nowMs with
      | some session => (session.markCursorQueued sessionId (some delta.estimatedBytes), .queued)
      | none => (session.restoreDeltaTailHead sessionId delta, .blocked)

/-- Queue this session's next baseline part, or its oldest buffered delta. -/
def pumpCursor : SyncV2Session β × CursorPump :=
  match session.planCursor sessionId with
  | none => (session.releaseDrainedCursor sessionId, .empty)
  | some .drained => (session.releaseDrainedCursor sessionId, .empty)
  | some .inFlight => (session, .blocked)
  | some .baselinePart => session.pumpBaselinePart sessionId sizes nowMs
  | some .delta => session.pumpDelta sessionId nowMs

/-- One turn of a lane; `granted` is the hub's answer should the lane ask it. -/
def pumpLane (granted : Bool) : SyncV2Session β :=
  match session.terminalLane sessionId with
  | none => session
  | some lane =>
    if lane.stateQueued then session
    else if !lane.pendingStates.isEmpty then
      match session.pumpState sessionId nowMs with
      | (session, true) => session
      | (session, false) => session.markTerminalLaneReady sessionId
    else
      match session.pumpCursor sessionId sizes nowMs with
      | (session, .queued) => session
      | (session, .blocked) => session.markTerminalLaneReady sessionId
      | (session, .empty) =>
        if (session.terminalLane sessionId).any TerminalLane.rebaselinePending && !granted then
          session.markTerminalLaneReady sessionId
        else session

def pumpNextReadyLane (granted : Bool) : SyncV2Session β :=
  match session.takeReadyLane none with
  | (session, none) => session
  | (session, some sessionId) => session.pumpLane sessionId sizes nowMs granted

def pumpTerminalLane (granted : Bool) : SyncV2Session β :=
  match session.takeReadyLane (some sessionId) with
  | (session, none) => session
  | (session, some sessionId) => session.pumpLane sessionId sizes nowMs granted

end SyncV2Session

/-! ## Deliveries -/

/-- Advance a lane by one delivered frame of its cursor. A delivery that does not match the
cursor is ignored. -/
def TerminalLane.advanceCursor (lane : TerminalLane β) (frameMeta : SyncFrameMeta) :
    TerminalLane β :=
  match frameMeta.terminalCursorIndex, lane.cursor with
  | some sentIndex, some cursor =>
    if cursor.streamId ≠ frameMeta.terminalStreamId.getD "" then lane
    else
      let expected := if cursor.index < cursor.partCount then cursor.index else cursor.partCount
      if sentIndex ≠ expected then lane
      else
        let attachPriorityPending := lane.attachPriorityPending && !frameMeta.attachSnapshot
        let delivered := { cursor with queued := false }
        let advanced :=
          if cursor.index < cursor.partCount then
            { delivered with
              index := cursor.index + 1
              -- The last part is away: the canonical plan is let go.
              source := if cursor.index + 1 = cursor.partCount then none else cursor.source }
          else
            { delivered with
              deltaBytes := cursor.deltaBytes - cursor.inFlightDeltaBytes.getD 0
              inFlightDeltaBytes := none }
        { lane with attachPriorityPending, cursor := some advanced }
  | _, _ => lane

namespace SyncV2Session

variable (session : SyncV2Session β)

/-- Advance the lane whose frame the socket just accepted, then put it back in the ring. -/
def onTerminalFrameDelivered (frameMeta : SyncFrameMeta) : SyncV2Session β :=
  match frameMeta.sessionId with
  | none => session
  | some sessionId =>
    match session.terminalLane sessionId with
    | none => session
    | some lane =>
      if frameMeta.terminalState then
        if !lane.stateQueued then session
        else
          (session.modifyLane sessionId fun lane =>
            { lane with stateQueued := false }).markTerminalLaneReady sessionId
      else
        (session.modifyLane sessionId fun lane => lane.advanceCursor frameMeta).markTerminalLaneReady
          sessionId

end SyncV2Session

end Roost.Coord.Sync
