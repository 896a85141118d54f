-- SUMMARY: The flush turn of one socket, and the socket as a machine.
import Roost.Coord.Sync.Socket.LaneIngress

/-!
# Egress

One turn selects a frame, pumps a deferred lane when nothing is eligible, checks the window,
removes the frame, applies what it asserts and advances its lane. A frame the turn returns was
sent.
-/

namespace Roost.Coord.Sync

variable {β : Type}

/-- One frame, stamped, ready for the wire. -/
structure SendableFrame (β : Type) where
  /-- The sequence this frame carries; zero without flow control. -/
  deliverySeq : Nat
  frame : OwnedFrame β
  fanoutMs : Nat
  /-- The queue entry it was, its charge given back. -/
  delivered : RetainedFrame β

/-- What one flush turn produced. -/
inductive FlushStep (β : Type) where
  | send (sendable : SendableFrame β)
  | idle
  /-- The unacknowledged window is full. -/
  | stalled

namespace SyncV2Session

variable (session : SyncV2Session β)

def applyDeliveredLifecycle (delivered : RetainedFrame β) (deliverySeq : Nat) : SyncV2Session β :=
  let session := delivered.frameMeta.announces.foldl (fun session sessionId =>
    { session with
      announcedSessions := insert sessionId session.announcedSessions
      pendingSessionAnnouncements :=
        session.pendingSessionAnnouncements.insert sessionId deliverySeq }) session
  if delivered.frameMeta.closes.isEmpty then session
  else
    let session := delivered.frameMeta.closes.foldl (fun session sessionId =>
      ({ session with
        announcedSessions := session.announcedSessions.erase sessionId
        pendingSessionAnnouncements := session.pendingSessionAnnouncements.erase sessionId } :
          SyncV2Session β).deleteTerminalSession sessionId) session
    session.removeQueuedCells delivered.frameMeta.closes

/-- The fan-out stamp for one frame, taken once for a whole baseline. -/
def snapshotFanoutStamp (frameMeta : SyncFrameMeta) (nowMs : Nat) : SyncV2Session β × Nat :=
  match frameMeta.sessionId, frameMeta.terminalCursorIndex with
  | some sessionId, some sentIndex =>
    match (session.terminalLane sessionId).bind TerminalLane.cursor with
    | none => (session, nowMs)
    | some cursor =>
      if cursor.source.isSome && decide (cursor.index = sentIndex) &&
          decide (some cursor.streamId = frameMeta.terminalStreamId) then
        let snapshotMs := cursor.fanoutMs.getD nowMs
        (session.modifyCursor sessionId fun cursor => { cursor with fanoutMs := some snapshotMs },
          snapshotMs)
      else (session, nowMs)
  | _, _ => (session, nowMs)

/-- The frame of a selection leaves: it is charged to the window and its lane advances. -/
def sendSelected (candidate : Candidate) (encodedLen fanoutMs nowMs : Nat) :
    SyncV2Session β × FlushStep β :=
  match session.takeSelected candidate with
  | none => (session, .idle)
  | some (session, delivered) =>
    let (window, deliverySeq) := session.window.recordSent encodedLen nowMs
    let session := { session with window }
    let session := session.applyDeliveredLifecycle delivered deliverySeq
    (session.onTerminalFrameDelivered delivered.frameMeta,
      .send { deliverySeq, frame := delivered.frame, fanoutMs, delivered })

/-- A selected frame is stamped and sent while the window has room for it. -/
def trySend (sizes : FrameSizes β) (candidate : Candidate) (nowMs : Nat) :
    SyncV2Session β × FlushStep β :=
  match (session.domains candidate.slot).queue[candidate.index]? with
  | none => (session, .idle)
  | some item =>
    let terminal := decide (candidate.slot = .terminal)
    if terminal && !session.windowHasRoom item.estimatedBytes then (session, .stalled)
    else
      let (session, fanoutMs) := session.snapshotFanoutStamp item.frameMeta nowMs
      let encodedLen := item.frame.outboundLen sizes session.nextDeliverySeq fanoutMs
      if !terminal && !session.windowHasRoom encodedLen then (session, .stalled)
      else session.sendSelected candidate encodedLen fanoutMs nowMs

/-- The next frame this socket may send, or why it may send nothing. The hub answers the lane
pumped before the selection and the one pumped after the send. -/
def takeNextSendable (sizes : FrameSizes β) (nowMs : Nat) (grantedBefore grantedAfter : Bool) :
    SyncV2Session β × FlushStep β :=
  if session.pressureClosing then (session, .idle)
  else
    let ackSeq := session.acknowledgedSequence
    let (session, selection) :=
      match session.selectCandidate nowMs ackSeq with
      | (session, some selection) => (session, some selection)
      | (session, none) =>
        (session.pumpNextReadyLane sizes nowMs grantedBefore).selectCandidate nowMs ackSeq
    match selection with
    | none => (session, .idle)
    | some selection =>
      match session.trySend sizes selection.candidate nowMs with
      | (session, .send sendable) =>
        (session.pumpNextReadyLane sizes nowMs grantedAfter, .send sendable)
      | (session, .idle) => (session, .idle)
      | (session, .stalled) => (session, .stalled)

/-! ## Client commands -/

/-- An acknowledgement of the client; one above the last sent sequence faults the socket. -/
def onAck (ackSeq : Nat) : SyncV2Session β :=
  if ackSeq > 0 then
    match session.applyAck ackSeq with
    | .ok (session, _) => session
    | .error _ => session.fault
  else session

/-- The client closed the snapshot gap of a domain. The terminal domain needs the sessions a
one-time token covers and the socket may observe; without a valid token it is reset. -/
def handleDomainReady (domain : SyncDomain) (generation : Nat)
    (admitted : Option (Finset String)) : SyncV2Session β :=
  let state := session.domains domain
  if !state.subscribed || decide (generation ≠ state.generation) || state.ready then session
  else if domain = .terminal then
    match admitted with
    | none => (session.resetDomain .terminal "snapshot_token_invalid").1
    | some admitted =>
      ({ session with
        pendingSessionAnnouncements := ∅, announcedSessions := admitted } :
          SyncV2Session β).modifyDomain domain fun state => { state with ready := true }
  else session.modifyDomain domain fun state => { state with ready := true }

def setLazyDomainSubscription (domain : SyncDomain) (generation : Nat) (subscribe : Bool) :
    SyncV2Session β :=
  let state := session.domains domain
  if !isLazyDomain domain || decide (generation ≠ state.generation) then session
  else if subscribe then
    if state.subscribed then session
    else session.modifyDomain domain fun state => { state with subscribed := true, ready := false }
  else if !state.subscribed then session
  else
    let session := session.clearDomainQueue domain
    let generation := session.generations + 1
    { session with generations := generation : SyncV2Session β }.modifyDomain domain fun state =>
      { state with subscribed := false, ready := false, generation }

end SyncV2Session

/-! ## The socket as a machine -/

/-- What can happen to a socket. The hub's answers, the token's sessions and the clock are the
environment's. -/
inductive SocketOp (β : Type) where
  | feed (frame : FirehoseFrame β) (nowMs : Nat)
  /-- A retained seed of a domain, placed before its live segment. -/
  | seed (frame : FirehoseFrame β) (domain : SyncDomain) (sessionId : Option String) (nowMs : Nat)
  /-- A durable frame of the recovery, prepared under a generation it checked. -/
  | recovery (frame : FirehoseFrame β) (nowMs : Nat)
  | beginStream (sessionId streamId : String)
  | replaceSnapshot (sessionId streamId : String) (source : Option (TerminalSnapshotCursor β))
      (nowMs : Nat) (granted : Bool)
  | delta (sessionId streamId : String) (frame : FirehoseFrame β) (nowMs : Nat) (granted : Bool)
  | state (sessionId : String) (frame : FirehoseFrame β) (nowMs : Nat) (granted : Bool)
  | dropSession (sessionId : String)
  | flush (nowMs : Nat) (grantedBefore grantedAfter : Bool)
  | ack (ackSeq : Nat)
  | domainReady (domain : SyncDomain) (generation : Nat) (admitted : Option (Finset String))
  | subscription (domain : SyncDomain) (generation : Nat) (subscribe : Bool)
  | reset (domain : SyncDomain) (reason : String)
  /-- Other sockets drew generations from the process's source. -/
  | drawn (count : Nat)
  | retire
  /-- Release everything and stay open. -/
  | clear

inductive SocketAnswer (β : Type) where
  | enqueued (outcome : EnqueueOutcome)
  | accepted (accepted : Bool)
  | delta (outcome : TerminalDeltaOutcome)
  | closed (close : Option SessionClose)
  | flushed (step : FlushStep β)
  | done

/-- The routing of a retained seed. -/
def retainedMeta (domain : SyncDomain) (sessionId : Option String) : SyncFrameMeta :=
  { domain := some domain, lane := .retained, sessionId, beforeBuffered := true }

namespace SyncV2Session

/-- The recovery offers a durable frame under the terminal domain's generation. -/
def offerRecovery (session : SyncV2Session β) (sizes : FrameSizes β) (frame : FirehoseFrame β)
    (nowMs : Nat) : SyncV2Session β × Bool :=
  let owned := OwnedFrame.ofCopy frame .terminal (session.domainGeneration .terminal)
  session.enqueueRecoveryFrame sizes owned (frameMetaFor frame.frame)
    (owned.conservativeBytes sizes) nowMs

end SyncV2Session

def socketMachine (sizes : FrameSizes β) :
    Transducer (SyncV2Session β) (SocketOp β) (SocketAnswer β) where
  step
    | session, .feed frame nowMs =>
      (session.enqueueFrame sizes frame (frameMetaFor frame.frame) nowMs).map id .enqueued
    | session, .seed frame domain sessionId nowMs =>
      (session.enqueueFrame sizes frame (retainedMeta domain sessionId) nowMs).map id .enqueued
    | session, .recovery frame nowMs =>
      (session.offerRecovery sizes frame nowMs).map id .accepted
    | session, .beginStream sessionId streamId =>
      (session.beginTerminalStream sessionId sizes streamId).map id .accepted
    | session, .replaceSnapshot sessionId streamId source nowMs granted =>
      (session.replaceTerminalSnapshot sessionId sizes streamId source nowMs granted).map id .accepted
    | session, .delta sessionId streamId frame nowMs granted =>
      (session.enqueueTerminalDelta sessionId sizes streamId frame nowMs granted).map id .delta
    | session, .state sessionId frame nowMs granted =>
      (session.enqueueTerminalState sessionId sizes frame nowMs granted).map id .closed
    | session, .dropSession sessionId => (session.dropTerminalSession sessionId, .done)
    | session, .flush nowMs grantedBefore grantedAfter =>
      (session.takeNextSendable sizes nowMs grantedBefore grantedAfter).map id .flushed
    | session, .ack ackSeq => (session.onAck ackSeq, .done)
    | session, .domainReady domain generation admitted =>
      (session.handleDomainReady domain generation admitted, .done)
    | session, .subscription domain generation subscribe =>
      (session.setLazyDomainSubscription domain generation subscribe, .done)
    | session, .reset domain reason => ((session.resetDomain domain reason).1, .done)
    | session, .drawn count =>
      ({ session with generations := session.generations + count }, .done)
    | session, .retire => (session.retire, .done)
    | session, .clear => (session.clear, .done)

end Roost.Coord.Sync
