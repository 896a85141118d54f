-- SUMMARY: The state of one second-version socket.
import Roost.Coord.Sync.Socket.AckWindow
import Roost.Coord.Sync.Socket.RetainedFrame

/-!
# One Sync socket

A socket has one queue for each domain, one lane for each session it carries terminal
traffic for, and one retention budget for all of them. A frame is charged when the socket
takes it and gives its charge back when it leaves, wherever it was in between.
-/

namespace Roost.Coord.Sync

variable {β : Type}

/-! ## Limits -/

/-- Frames one domain may hold before admission resets it. -/
def domainMaxQueuedFrames : Nat := 512

/-- Bytes one domain may hold before admission resets it. -/
def domainMaxQueuedBytes : Nat := 4 * 1024 * 1024

def terminalMaxRetainedFrames : Nat := 512

def terminalMaxRetainedBytes : Nat := 4 * 1024 * 1024

/-- Frames the other half of one socket may retain. -/
def nonterminalMaxRetainedFrames : Nat := 512

/-- Bytes the other half of one socket may retain. -/
def nonterminalMaxRetainedBytes : Nat := 4 * 1024 * 1024

/-- The whole budget, the sum of the two halves. -/
def aggregateMaxRetainedFrames : Nat := terminalMaxRetainedFrames + nonterminalMaxRetainedFrames

def aggregateMaxRetainedBytes : Nat := terminalMaxRetainedBytes + nonterminalMaxRetainedBytes

/-- Frames one terminal lane may hold past its baseline before it rebaselines. -/
def terminalLaneMaxDeltaFrames : Nat := 32

/-- Bytes one terminal lane may hold past its baseline before it rebaselines. -/
def terminalLaneMaxDeltaBytes : Nat := 4 * 1024 * 1024

def terminalReliableReserveFrames : Nat := 64

def terminalReliableReserveBytes : Nat := 256 * 1024

def terminalCellMaxRetainedFrames : Nat := terminalMaxRetainedFrames - terminalReliableReserveFrames

def terminalCellMaxRetainedBytes : Nat := terminalMaxRetainedBytes - terminalReliableReserveBytes

/-- How long a frame may sit at a domain's head before it outranks every cell. -/
def lowLaneMaxAgeMs : Nat := 100

/-! ## The budget -/

/-- What one socket retains, in frames and charged bytes. -/
structure Retention where
  queuedFrames : Nat
  queuedBytes : Nat
  terminalRetainedFrames : Nat
  terminalRetainedBytes : Nat
  terminalCellRetainedFrames : Nat
  terminalCellRetainedBytes : Nat

namespace Retention

def zero : Retention := ⟨0, 0, 0, 0, 0, 0⟩

variable (retention : Retention)

/-- The half of the budget a frame of a domain is charged to is full. -/
def overHalf (terminal : Bool) (estimatedBytes : Nat) : Prop :=
  if terminal then
    retention.terminalRetainedFrames + 1 > terminalMaxRetainedFrames ∨
      retention.terminalRetainedBytes + estimatedBytes > terminalMaxRetainedBytes
  else
    retention.queuedFrames - retention.terminalRetainedFrames + 1 > nonterminalMaxRetainedFrames ∨
      retention.queuedBytes - retention.terminalRetainedBytes + estimatedBytes >
        nonterminalMaxRetainedBytes
  deriving Decidable

/-- The cell sub-budget is full. -/
def overCells (terminalCell : Bool) (estimatedBytes : Nat) : Prop :=
  terminalCell = true ∧ (retention.terminalCellRetainedFrames + 1 > terminalCellMaxRetainedFrames ∨
      retention.terminalCellRetainedBytes + estimatedBytes > terminalCellMaxRetainedBytes)
  deriving Decidable

/-- The whole budget is full. -/
def overSocket (estimatedBytes : Nat) : Prop :=
  retention.queuedFrames + 1 > aggregateMaxRetainedFrames ∨
    retention.queuedBytes + estimatedBytes > aggregateMaxRetainedBytes
  deriving Decidable

/-- Some limit refuses one more frame. -/
def refuses (terminal terminalCell : Bool) (estimatedBytes : Nat) : Prop :=
  retention.overHalf terminal estimatedBytes ∨ retention.overCells terminalCell estimatedBytes ∨
    retention.overSocket estimatedBytes
  deriving Decidable

/-- Count one more charge. -/
def add (charge : AggregateCharge) : Retention where
  queuedFrames := retention.queuedFrames + 1
  queuedBytes := retention.queuedBytes + charge.estimatedBytes
  terminalRetainedFrames := retention.terminalRetainedFrames + if charge.terminal then 1 else 0
  terminalRetainedBytes :=
    retention.terminalRetainedBytes + if charge.terminal then charge.estimatedBytes else 0
  terminalCellRetainedFrames :=
    retention.terminalCellRetainedFrames + if charge.terminalCell then 1 else 0
  terminalCellRetainedBytes :=
    retention.terminalCellRetainedBytes + if charge.terminalCell then charge.estimatedBytes else 0

/-- Give one charge back. -/
def sub (charge : AggregateCharge) : Retention where
  queuedFrames := retention.queuedFrames - 1
  queuedBytes := retention.queuedBytes - charge.estimatedBytes
  terminalRetainedFrames := retention.terminalRetainedFrames - if charge.terminal then 1 else 0
  terminalRetainedBytes :=
    retention.terminalRetainedBytes - if charge.terminal then charge.estimatedBytes else 0
  terminalCellRetainedFrames :=
    retention.terminalCellRetainedFrames - if charge.terminalCell then 1 else 0
  terminalCellRetainedBytes :=
    retention.terminalCellRetainedBytes - if charge.terminalCell then charge.estimatedBytes else 0

end Retention

/-! ## Terminal lanes -/

/-- One recipient's walk over a canonical full. -/
structure TerminalSnapshotCursor (β : Type) where
  partCount : Nat
  materialize : Nat → Option (SharedCellFrame β)

/-- One session's walk over a canonical full, and the deltas that arrived behind it. -/
structure SnapshotCursor (β : Type) where
  streamId : String
  source : Option (TerminalSnapshotCursor β)
  /-- The next part to send. -/
  index : Nat
  fanoutMs : Option Nat
  /-- The part or delta at the front is in flight. -/
  queued : Bool
  /-- The one part charged to this cursor and not yet queued. -/
  materialized : Option (RetainedFrame β)
  deltaTail : List (RetainedFrame β)
  /-- The tail's charged bytes, including the delta in flight. -/
  deltaBytes : Nat
  inFlightDeltaBytes : Option Nat

namespace SnapshotCursor

def ofStream (streamId : String) : SnapshotCursor β where
  streamId := streamId
  source := none
  index := 0
  fanoutMs := none
  queued := false
  materialized := none
  deltaTail := []
  deltaBytes := 0
  inFlightDeltaBytes := none

/-- A cursor at the start of a baseline. -/
def ofSnapshot (streamId : String) (source : TerminalSnapshotCursor β) : SnapshotCursor β :=
  { ofStream streamId with source := some source }

variable (cursor : SnapshotCursor β)

/-- How many parts the baseline has. -/
def partCount : Nat := cursor.source.elim 0 TerminalSnapshotCursor.partCount

/-- Whether a baseline is part-way through and must not be abandoned. -/
def isMidBaseline : Bool :=
  cursor.source.isSome && decide (0 < cursor.index) && decide (cursor.index < cursor.partCount)

/-- The deltas this cursor still answers for. -/
def bufferedDeltaFrames : Nat :=
  cursor.deltaTail.length + if cursor.inFlightDeltaBytes.isSome then 1 else 0

end SnapshotCursor

structure TerminalLane (β : Type) where
  streamId : String
  cursor : Option (SnapshotCursor β)
  /-- View-states waiting for this session's turn, oldest first. -/
  pendingStates : List (RetainedFrame β)
  /-- One of them is in flight. -/
  stateQueued : Bool
  /-- This lane is in the socket's ready ring. -/
  ready : Bool
  /-- A canonical full is owed once the current cursor can release. -/
  rebaselinePending : Bool
  /-- The next baseline part may pass other sessions' deltas once. -/
  attachPriorityPending : Bool

def TerminalLane.new (streamId : String) (attachPriorityPending : Bool) : TerminalLane β where
  streamId := streamId
  cursor := none
  pendingStates := []
  stateQueued := false
  ready := false
  rebaselinePending := false
  attachPriorityPending := attachPriorityPending

/-! ## The socket -/

/-- One domain's generation, subscription, queue and snapshot cutover. -/
structure DomainState (β : Type) where
  generation : Nat
  subscribed : Bool
  ready : Bool
  queue : List (RetainedFrame β)
  queuedBytes : Nat
  seedInsertIndex : Nat

/-- One second-version socket's scheduling state. -/
structure SyncV2Session (β : Type) where
  socketId : String
  /-- The last generation drawn from the process's source. -/
  generations : Nat
  domains : SyncDomain → DomainState β
  announcedSessions : Finset String
  /-- The sequence each announcement went out under, until it is acknowledged. -/
  pendingSessionAnnouncements : Table String Nat
  terminalSessions : Table String (TerminalLane β)
  /-- Lanes with work, in the order they became eligible. -/
  terminalReadySessions : List String
  retention : Retention
  /-- The charges taken so far. -/
  charges : Nat
  laneCursor : Nat
  pressureClosing : Bool
  window : AckWindow

/-- Why a socket cannot stay open. -/
inductive SessionClose where
  | backpressure (reason : BackpressureReason) (stats : WindowStats)
  | invalidAck

def SessionClose.ofWindow : WindowClose → SessionClose
  | .backpressure reason stats => .backpressure reason stats
  | .invalidAck => .invalidAck

namespace SyncV2Session

/-- A socket's state, with one fresh generation for each domain. -/
def new (socketId : String) (generations : Nat) (flowControl : Bool) : SyncV2Session β where
  socketId := socketId
  generations := generations + SyncDomain.all.length
  domains domain :=
    { generation := generations + domainSlot domain + 1
      subscribed := !isLazyDomain domain
      ready := false
      queue := []
      queuedBytes := 0
      seedInsertIndex := 0 }
  announcedSessions := ∅
  pendingSessionAnnouncements := ∅
  terminalSessions := ∅
  terminalReadySessions := []
  retention := .zero
  charges := 0
  laneCursor := 0
  pressureClosing := false
  window := .new flowControl

variable (session : SyncV2Session β)

/-- Record that this socket cannot stay open. -/
def fault : SyncV2Session β := { session with pressureClosing := true }

def acknowledgedSequence : Nat := session.window.acknowledged

/-- The sequence the next application frame will carry; zero without flow control. -/
def nextDeliverySeq : Nat := if !session.window.enabled then 0 else session.window.nextSequence

def windowHasRoom (encodedBytes : Nat) : Bool := session.window.hasRoom encodedBytes

def domainGeneration (domain : SyncDomain) : Nat := (session.domains domain).generation

def terminalDomainReady : Bool := (session.domains .terminal).ready

def modifyDomain (domain : SyncDomain) (f : DomainState β → DomainState β) : SyncV2Session β :=
  { session with
    domains := Function.update session.domains domain (f (session.domains domain)) }

def terminalLane (sessionId : String) : Option (TerminalLane β) :=
  session.terminalSessions.lookup sessionId

/-- Change a lane in place. -/
def modifyLane (sessionId : String) (f : TerminalLane β → TerminalLane β) : SyncV2Session β :=
  { session with terminalSessions := session.terminalSessions.modify sessionId f }

/-- Change the cursor of a lane in place. -/
def modifyCursor (sessionId : String) (f : SnapshotCursor β → SnapshotCursor β) : SyncV2Session β :=
  session.modifyLane sessionId fun lane => { lane with cursor := lane.cursor.map f }

/-- Take a lane out, change it together with the socket, and put it back. -/
def withLane (sessionId : String)
    (f : TerminalLane β → SyncV2Session β → TerminalLane β × SyncV2Session β) :
    SyncV2Session β :=
  match session.terminalSessions.lookup sessionId with
  | none => session
  | some lane =>
    let (lane, session) :=
      f lane { session with terminalSessions := session.terminalSessions.erase sessionId }
    { session with terminalSessions := session.terminalSessions.insert sessionId lane }

/-! ## Charges -/

def tryCharge (sizes : FrameSizes β) (frame : OwnedFrame β) :
    Option (SyncV2Session β × AggregateCharge) :=
  let estimatedBytes := frame.conservativeBytes sizes
  let terminal := decide (frame.domain = .terminal)
  let terminalCell := terminal && frame.isCellMaterial
  if session.retention.refuses terminal terminalCell estimatedBytes then none
  else
    let charge := { serial := session.charges, estimatedBytes, terminal, terminalCell }
    some ({ session with
      retention := session.retention.add charge, charges := session.charges + 1 }, charge)

def releaseCharge (retained : RetainedFrame β) : SyncV2Session β :=
  match retained.takeCharge.2 with
  | none => session
  | some charge => { session with retention := session.retention.sub charge }

def releaseCharges (frames : List (RetainedFrame β)) : SyncV2Session β :=
  frames.foldl releaseCharge session

end SyncV2Session

/-! ## What a lane gives back -/

def SnapshotCursor.releaseDeltaTail (cursor : SnapshotCursor β) (session : SyncV2Session β) :
    SnapshotCursor β × SyncV2Session β :=
  ({ cursor with deltaTail := [], deltaBytes := 0, inFlightDeltaBytes := none },
    session.releaseCharges cursor.deltaTail)

namespace TerminalLane

variable (lane : TerminalLane β) (session : SyncV2Session β)

def releaseCursor : TerminalLane β × SyncV2Session β :=
  match lane.cursor with
  | none => (lane, session)
  | some cursor =>
    let session := session.releaseCharges cursor.materialized.toList
    ({ lane with cursor := none }, (cursor.releaseDeltaTail session).2)

/-- Release the buffered deltas, keeping the baseline cursor. -/
def releaseDeltaTail : TerminalLane β × SyncV2Session β :=
  match lane.cursor with
  | none => (lane, session)
  | some cursor =>
    let (cursor, session) := cursor.releaseDeltaTail session
    ({ lane with cursor := some cursor }, session)

def releaseAll : TerminalLane β × SyncV2Session β :=
  let session := session.releaseCharges lane.pendingStates
  let lane :=
    { lane with
      pendingStates := [], stateQueued := false, ready := false, rebaselinePending := false }
  lane.releaseCursor session

end TerminalLane

namespace SyncV2Session

variable (session : SyncV2Session β)

/-- Empty one domain's queue, releasing every charge it holds. -/
def clearDomainQueue (domain : SyncDomain) : SyncV2Session β :=
  (session.modifyDomain domain fun state =>
    { state with queue := [], queuedBytes := 0, seedInsertIndex := 0 }).releaseCharges
      (session.domains domain).queue

def clearTerminalSessions : SyncV2Session β :=
  let lanes := session.terminalSessions.entries.map fun entry => entry.2
  let session := { session with terminalSessions := ∅ }
  let session := lanes.foldl (fun session lane => (lane.releaseAll session).2) session
  { session with terminalReadySessions := [] }

/-- What `clear` does before it sets the counters. -/
def releaseEverything : SyncV2Session β :=
  let session := SyncDomain.all.foldl (fun session domain =>
    (session.clearDomainQueue domain).modifyDomain domain fun state =>
      { state with ready := false }) session
  let session := session.clearTerminalSessions
  { session with announcedSessions := ∅, pendingSessionAnnouncements := ∅ }

/-- Release every retained frame and empty every queue. -/
def clear : SyncV2Session β :=
  let session := session.releaseEverything
  { session with retention := .zero, window := session.window.clear }

/-- Mark this socket as closing and release everything. -/
def retire : SyncV2Session β := ({ session with pressureClosing := true } : SyncV2Session β).clear

/-- Apply a cumulative acknowledgement, releasing the announcements it covers. -/
def applyAck (ackSeq : Nat) : Except SessionClose (SyncV2Session β × Nat) :=
  match session.window.applyAck ackSeq with
  | .error close => .error (.ofWindow close)
  | .ok (window, released) =>
    .ok ({ session with
      window
      pendingSessionAnnouncements :=
        session.pendingSessionAnnouncements.retain fun _ announcedAt =>
          decide (announcedAt > ackSeq) }, released)

end SyncV2Session

end Roost.Coord.Sync
