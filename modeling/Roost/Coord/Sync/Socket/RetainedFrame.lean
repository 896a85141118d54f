-- SUMMARY: One frame as a socket owns it: its class and the charge it holds.
import Mathlib.Tactic.Common
import Roost.Protocol.TerminalView.Record

/-!
# Retained frames

Every frame the feed carries is classified once: its domain, the lane that orders it, its
session, and the lifecycle it asserts. A frame no domain owns is a control. It is kept here as
far as the scheduler reads it; the rest of the message is a parameter.

A socket holds a frame as its own copy or as a share of a canonical terminal full, with the
charge that was taken for it. Charges are numbered in the order they are taken, so that two of
them can be told apart; the source moves a charge with its frame and needs no number.
-/

namespace Roost.Coord.Sync

/-- The domains of a Sync socket. The wire's zero value is no frame's domain. -/
inductive SyncDomain where
  | terminal
  | workers
  | workspaces
  | tasks
  | mcp
  | pair
  | audit
  | agent
  deriving DecidableEq

/-- The domains in the order of the socket's table. -/
def SyncDomain.all : List SyncDomain :=
  [.terminal, .workers, .workspaces, .tasks, .mcp, .pair, .audit, .agent]

theorem SyncDomain.mem_all (domain : SyncDomain) : domain ∈ SyncDomain.all := by
  cases domain <;> decide

def domainSlot : SyncDomain → Nat
  | .terminal => 0
  | .workers => 1
  | .workspaces => 2
  | .tasks => 3
  | .mcp => 4
  | .pair => 5
  | .audit => 6
  | .agent => 7

/-- Whether a domain is hydrated only when the client asks for it. -/
def isLazyDomain (domain : SyncDomain) : Bool := decide (domain = .audit)

/-- The ordering classes of a frame on one socket. -/
inductive FeedLane where
  | cell
  | session
  | retained
  | nonterminal
  | control
  deriving DecidableEq

def weightedLanes : List FeedLane :=
  List.replicate 8 .cell ++ List.replicate 4 .session ++ List.replicate 2 .retained ++
    [.nonterminal]

/-- What the scheduler needs to know about a frame besides the frame itself. -/
structure SyncFrameMeta where
  domain : Option SyncDomain := none
  lane : FeedLane := .control
  sessionId : Option String := none
  /-- Sessions this frame announces. -/
  announces : List String := []
  /-- Sessions this frame closes. -/
  closes : List String := []
  /-- A retained seed that precedes the live segment. -/
  beforeBuffered : Bool := false
  terminalStreamId : Option String := none
  terminalCursorIndex : Option Nat := none
  terminalState : Bool := false
  /-- The baseline of a freshly attached session. -/
  attachSnapshot : Bool := false

namespace SyncFrameMeta

def control : SyncFrameMeta := {}

def cell (sessionId : String) : SyncFrameMeta :=
  { domain := some .terminal, lane := .cell, sessionId := some sessionId }

end SyncFrameMeta

inductive SessionEventKind where
  | opened (sessionId : String)
  | closed (sessionId : String)
  | snapshot (sessionIds : List String)
  | other (sessionId : String)

/-- The case of a frame, with what its classification reads. -/
inductive Frame where
  | cellGrid (sessionId : String) (full : Bool)
  /-- The session of the part it carries, if it carries one. -/
  | cellGridChunk (sessionId : Option String)
  | terminalViewState (sessionId : String)
  /-- A legacy session event: its session and its kind, where its text has a session. -/
  | sessions (payload : Option (String × Option String))
  | sessionEvent (kind : Option SessionEventKind)
  /-- Presence, title, clipboard, command, bell, signals and activity of one session. -/
  | sessionKeyed (sessionId : String)
  | agentStatus (sessionId : String) (revision : Nat)
  | owned (domain : SyncDomain)
  | control

def domainMeta (domain : SyncDomain) : SyncFrameMeta :=
  { domain := some domain, lane := .nonterminal }

def sessionKeyedMeta (sessionId : Option String) : SyncFrameMeta :=
  { domain := some .terminal, lane := .session, sessionId }

def sessionEventMeta : SessionEventKind → SyncFrameMeta
  | .opened sessionId => { sessionKeyedMeta (some sessionId) with announces := [sessionId] }
  | .closed sessionId => { sessionKeyedMeta (some sessionId) with closes := [sessionId] }
  | .snapshot sessionIds => { sessionKeyedMeta none with announces := sessionIds }
  | .other sessionId => sessionKeyedMeta (some sessionId)

def readLegacySessionPayload (payload : Option (String × Option String))
    (frameMeta : SyncFrameMeta) : SyncFrameMeta :=
  match payload with
  | none => frameMeta
  | some (sessionId, kind) =>
    let read := { frameMeta with sessionId := some sessionId }
    if kind = some "opened" then { read with announces := read.announces ++ [sessionId] }
    else if kind = some "closed" then { read with closes := read.closes ++ [sessionId] }
    else read

/-- Classify one outbound frame. -/
def frameMetaFor : Frame → SyncFrameMeta
  | .cellGrid sessionId _ => .cell sessionId
  | .cellGridChunk sessionId => { domain := some .terminal, lane := .cell, sessionId }
  | .terminalViewState sessionId => .cell sessionId
  | .sessions payload => readLegacySessionPayload payload (sessionKeyedMeta none)
  | .sessionEvent none => .control
  | .sessionEvent (some kind) => sessionEventMeta kind
  | .sessionKeyed sessionId => sessionKeyedMeta (some sessionId)
  | .agentStatus sessionId _ => sessionKeyedMeta (some sessionId)
  | .owned domain => domainMeta domain
  | .control => .control

variable {β : Type}

/-- A frame of the feed: its case, and the rest of the message. -/
structure FirehoseFrame (β : Type) where
  frame : Frame
  body : β

/-- The terminal cell payload several sockets read from one canonical source. -/
inductive SharedCellFrame (β : Type) where
  | full (body : β)
  | chunk (body : β)

inductive OwnedPayload (β : Type) where
  /-- A frame this socket owns outright. -/
  | copy (frame : FirehoseFrame β)
  /-- A share of the canonical terminal full. -/
  | shared (cell : SharedCellFrame β)

/-- One frame as this socket holds it, with the domain and generation it was admitted for. -/
structure OwnedFrame (β : Type) where
  payload : OwnedPayload β
  domain : SyncDomain
  generation : Nat

/-- The encoded lengths of a frame under its envelope scalars. -/
structure FrameSizes (β : Type) where
  copyLen : FirehoseFrame β → (domain : SyncDomain) → (generation deliverySeq : Nat) → Nat
  sharedLen : SharedCellFrame β → (generation deliverySeq fanoutMs : Nat) → Nat

/-- The bytes a delivery sequence can add to a frame measured without one. -/
def deliveryScalarHeadroomBytes : Nat := 12

namespace OwnedFrame

/-- A private copy for one socket. -/
def ofCopy (frame : FirehoseFrame β) (domain : SyncDomain) (generation : Nat) : OwnedFrame β :=
  { payload := .copy frame, domain, generation }

/-- A share of a canonical terminal full. -/
def ofSharedCell (cell : SharedCellFrame β) (generation : Nat) : OwnedFrame β :=
  { payload := .shared cell, domain := .terminal, generation }

variable (owned : OwnedFrame β)

def isViewState : Bool :=
  match owned.payload with
  | .shared _ => false
  | .copy frame =>
    match frame.frame with
    | .terminalViewState _ => true
    | _ => false

def agentStatus : Option (String × Nat) :=
  match owned.payload with
  | .shared _ => none
  | .copy frame =>
    match frame.frame with
    | .agentStatus sessionId revision => some (sessionId, revision)
    | _ => none

/-- A whole grid or one chunk part. -/
def isCellMaterial : Bool :=
  match owned.payload with
  | .shared _ => true
  | .copy frame =>
    match frame.frame with
    | .cellGrid _ _ => true
    | .cellGridChunk _ => true
    | _ => false

/-- A chunk part, or a grid marked full. -/
def isSnapshot : Bool :=
  match owned.payload with
  | .shared _ => true
  | .copy frame =>
    match frame.frame with
    | .cellGridChunk _ => true
    | .cellGrid _ full => full
    | _ => false

variable (sizes : FrameSizes β)

/-- The bytes this frame is charged, with the widest scalars a recipient can be stamped with. -/
def conservativeBytes : Nat :=
  match owned.payload with
  | .copy frame => sizes.copyLen frame owned.domain owned.generation 0 + deliveryScalarHeadroomBytes
  | .shared cell => sizes.sharedLen cell owned.generation 0 u64Max

/-- The encoded length of the frame as it goes on the wire for one recipient. -/
def outboundLen (deliverySeq fanoutMs : Nat) : Nat :=
  match owned.payload with
  | .copy frame => sizes.copyLen frame owned.domain owned.generation deliverySeq
  | .shared cell => sizes.sharedLen cell owned.generation deliverySeq fanoutMs

end OwnedFrame

/-- What a socket's retention budget has been charged for one frame. -/
structure AggregateCharge where
  /-- The number of this charge among all of the socket. -/
  serial : Nat
  estimatedBytes : Nat
  terminal : Bool
  terminalCell : Bool

/-- One frame sitting in a socket's queues. -/
structure RetainedFrame (β : Type) where
  frame : OwnedFrame β
  frameMeta : SyncFrameMeta
  queuedAtMs : Nat
  chargedBytes : Nat
  charge : Option AggregateCharge

namespace RetainedFrame

/-- Queue a frame with its charge taken. -/
def new (frame : OwnedFrame β) (frameMeta : SyncFrameMeta) (queuedAtMs : Nat)
    (charge : AggregateCharge) : RetainedFrame β :=
  { frame, frameMeta, queuedAtMs, chargedBytes := charge.estimatedBytes, charge := some charge }

def estimatedBytes (retained : RetainedFrame β) : Nat := retained.chargedBytes

def takeCharge (retained : RetainedFrame β) : RetainedFrame β × Option AggregateCharge :=
  ({ retained with charge := none }, retained.charge)

end RetainedFrame

end Roost.Coord.Sync
