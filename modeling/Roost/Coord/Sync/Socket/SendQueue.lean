-- SUMMARY: Which queued frame goes next, and the removals.
import Roost.Coord.Sync.Socket.Session

/-!
# The send queue

Every ready domain offers its first eligible frame. A cell is eligible once its session's
announcement was delivered and acknowledged. Among the heads an overdue frame goes first, then
the weighted lanes take turns.
-/

namespace Roost.Coord.Sync

variable {β : Type}

/-- One frame the scheduler has chosen, by where it sits. -/
structure Candidate where
  slot : SyncDomain
  index : Nat

/-- How a candidate was chosen. -/
inductive SelectionRule where
  | agedOut
  | weightedLane
  | oldest

structure Selection where
  candidate : Candidate
  rule : SelectionRule

/-- The frame one domain offers. -/
structure Head where
  candidate : Candidate
  lane : FeedLane
  queuedAtMs : Nat

/-- Whether a queued frame may go out yet. -/
def isEligible (item : RetainedFrame β) (announced : Finset String) (pending : Table String Nat)
    (ackSeq : Nat) : Bool :=
  if item.frameMeta.lane ≠ .cell then true
  else if item.frame.isViewState then true
  else
    match item.frameMeta.sessionId with
    | none => false
    | some sessionId =>
      if sessionId ∉ announced then false
      else
        match pending.lookup sessionId with
        | none => true
        | some announcedAt => decide (ackSeq ≥ announcedAt)

/-- Where a fresh baseline or a view-state may be inserted: past this session's own frames and
past every snapshot, before everything else. -/
def terminalPriorityInsertIndex (queue : List (RetainedFrame β)) (sessionId : Option String) : Nat :=
  queue.length -
    (queue.reverse.takeWhile fun item =>
      !(item.frameMeta.sessionId.isSome && decide (item.frameMeta.sessionId = sessionId)) &&
        !item.frame.isSnapshot).length

def retainedSupersedesBuffered (retained buffered : OwnedFrame β) : Bool :=
  match retained.agentStatus, buffered.agentStatus with
  | some (retainedSession, retainedRevision), some (bufferedSession, bufferedRevision) =>
    decide (retainedSession = bufferedSession) && decide (retainedRevision ≥ bufferedRevision)
  | _, _ => false

def oldestHead (heads : List Head) : Option Head := heads.argmin Head.queuedAtMs

/-- The next lane in turn that some head is in, and where the turn stands after it. -/
def pickWeighted (heads : List Head) : (remaining laneCursor : Nat) → Nat × Option Head
  | 0, laneCursor => (laneCursor, none)
  | remaining + 1, laneCursor =>
    let lane := weightedLanes.getD laneCursor .control
    let next := (laneCursor + 1) % weightedLanes.length
    match oldestHead (heads.filter fun head => decide (head.lane = lane)) with
    | some head => (next, some head)
    | none => pickWeighted heads remaining next

namespace SyncV2Session

variable (session : SyncV2Session β)

/-- Whether the fence of this socket lets a queued frame out. -/
def eligible (ackSeq : Nat) (item : RetainedFrame β) : Bool :=
  isEligible item session.announcedSessions session.pendingSessionAnnouncements ackSeq

/-- The first eligible frame of a ready domain. -/
def headOf (ackSeq : Nat) (domain : SyncDomain) : Option Head :=
  let state := session.domains domain
  if !state.subscribed || !state.ready then none
  else
    match state.queue.zipIdx.find? fun entry => session.eligible ackSeq entry.1 with
    | none => none
    | some (item, index) =>
      some { candidate := { slot := domain, index }, lane := item.frameMeta.lane,
             queuedAtMs := item.queuedAtMs }

/-- The next frame to send, if one is eligible. -/
def selectCandidate (nowMs ackSeq : Nat) : SyncV2Session β × Option Selection :=
  let heads := SyncDomain.all.filterMap (session.headOf ackSeq)
  if heads.isEmpty then (session, none)
  else
    match oldestHead (heads.filter fun head =>
      decide (head.lane ≠ .cell) && decide (nowMs - head.queuedAtMs ≥ lowLaneMaxAgeMs)) with
    | some overdue => (session, some { candidate := overdue.candidate, rule := .agedOut })
    | none =>
      match pickWeighted heads weightedLanes.length session.laneCursor with
      | (laneCursor, some head) =>
        ({ session with laneCursor },
          some { candidate := head.candidate, rule := .weightedLane })
      | (laneCursor, none) =>
        ({ session with laneCursor },
          (oldestHead heads).map fun head => { candidate := head.candidate, rule := .oldest })

/-- Remove the frame a selection named, returning its charge to the budget. -/
def takeSelected (candidate : Candidate) : Option (SyncV2Session β × RetainedFrame β) :=
  match (session.domains candidate.slot).queue[candidate.index]? with
  | none => none
  | some item =>
    some ((session.modifyDomain candidate.slot fun state =>
      { state with
        queue := state.queue.eraseIdx candidate.index
        seedInsertIndex :=
          if candidate.index < state.seedInsertIndex then state.seedInsertIndex - 1
          else state.seedInsertIndex
        queuedBytes := state.queuedBytes - item.estimatedBytes }).releaseCharge item,
      item.takeCharge.1)

/-- Empty the terminal queue of everything a test selects. -/
def drainTerminalQueue (shouldDrop : RetainedFrame β → Bool) : SyncV2Session β :=
  let dropped := (session.domains .terminal).queue.filter shouldDrop
  (session.modifyDomain .terminal fun state =>
    { state with
      queue := state.queue.filter fun item => !shouldDrop item
      queuedBytes := state.queuedBytes - (dropped.map RetainedFrame.estimatedBytes).sum
      seedInsertIndex := state.seedInsertIndex - dropped.length }).releaseCharges dropped

def removeQueuedCells (sessionIds : List String) : SyncV2Session β :=
  if sessionIds.isEmpty then session
  else session.drainTerminalQueue fun item =>
    decide (item.frameMeta.lane = .cell) &&
      item.frameMeta.sessionId.any fun sessionId => decide (sessionId ∈ sessionIds)

def removeTerminalQueued (sessionId : String) (includeSemantic : Bool) : SyncV2Session β :=
  session.drainTerminalQueue fun item =>
    decide (item.frameMeta.sessionId = some sessionId) && decide (item.frameMeta.lane = .cell) &&
      (includeSemantic || item.frame.isCellMaterial)

def dropFromReadyRing (sessionId : String) : SyncV2Session β :=
  { session with
    terminalReadySessions :=
      session.terminalReadySessions.filter fun ready => decide (ready ≠ sessionId) }

/-- Forget one session's lane, dropping its queued frames with it. -/
def deleteTerminalSession (sessionId : String) : SyncV2Session β :=
  if (session.terminalLane sessionId).isNone then session
  else
    let session := session.removeTerminalQueued sessionId true
    let session :=
      match session.terminalSessions.lookup sessionId with
      | none => session
      | some lane =>
        (lane.releaseAll
          { session with terminalSessions := session.terminalSessions.erase sessionId }).2
    session.dropFromReadyRing sessionId

end SyncV2Session

end Roost.Coord.Sync
