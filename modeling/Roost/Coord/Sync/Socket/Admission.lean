-- SUMMARY: Bounded admission to a socket's queues, and the reset of a domain.
import Roost.Coord.Sync.Socket.SendQueue

/-!
# Queue admission

A frame joins its domain's queue while the queue and the budget have room. A full projection
domain is reset, a full terminal cell asks for a fresh baseline, a full terminal state closes
the socket.
-/

namespace Roost.Coord.Sync

variable {β : Type}

/-- The announcement of a domain reset. -/
structure ResetNotice where
  domain : SyncDomain
  generation : Nat
  reason : String
  subscribed : Bool
  terminalSessionsDropped : Bool

/-- What one admission attempt did. -/
inductive EnqueueOutcome where
  | queued
  /-- Send it unsequenced, do not queue it. -/
  | control
  | dropped
  | reset (notice : ResetNotice)
  | fault (close : SessionClose)

/-- Why one frame cannot join a domain's queue right now. -/
inductive QueueRefusal where
  | closing
  | notSubscribed
  | staleGeneration
  | overflow (rebaseline : Bool)
  | terminalSemanticOverflow

/-- Which recovery a full queue gets. -/
def classifyOverflow (domain : SyncDomain) (terminalCell : Bool) : QueueRefusal :=
  if domain ≠ .terminal then .overflow false
  else if terminalCell then .overflow true
  else .terminalSemanticOverflow

/-- One more frame does not fit a domain's queue. -/
def DomainState.exceeds (state : DomainState β) (estimatedBytes : Nat) : Prop :=
  state.queue.length + 1 > domainMaxQueuedFrames ∨
    state.queuedBytes + estimatedBytes > domainMaxQueuedBytes
  deriving Decidable

namespace SyncV2Session

variable (session : SyncV2Session β)

/-- Whether this frame may join its domain's queue, and if not, why. The budget is not checked
for a frame the lane already charged. -/
def queueRefusal (frame : OwnedFrame β) (frameMeta : SyncFrameMeta) (estimatedBytes : Nat)
    (checkBudget : Bool) : Option QueueRefusal :=
  if session.pressureClosing then some .closing
  else
    match frameMeta.domain with
    | none => some .notSubscribed
    | some domain =>
      if frameMeta.lane = .control then some .notSubscribed
      else
        let state := session.domains domain
        if !state.subscribed then some .notSubscribed
        else if !checkBudget && decide (frame.generation ≠ state.generation) then
          some .staleGeneration
        else
          let terminal := decide (domain = .terminal)
          let terminalCell := terminal && frame.isCellMaterial
          if state.exceeds estimatedBytes then some (classifyOverflow domain terminalCell)
          else if checkBudget = true ∧
              session.retention.refuses terminal terminalCell estimatedBytes then
            some (classifyOverflow domain terminalCell)
          else none

/-- Put a charged frame in its domain's queue, where its metadata demands. -/
def insertQueued (item : RetainedFrame β) (frameMeta : SyncFrameMeta) (estimatedBytes : Nat) :
    SyncV2Session β :=
  match frameMeta.domain with
  | none => session
  | some domain =>
    session.modifyDomain domain fun state =>
      if frameMeta.beforeBuffered then
        { state with
          queue := state.queue.insertIdx state.seedInsertIndex item
          seedInsertIndex := state.seedInsertIndex + 1
          queuedBytes := state.queuedBytes + estimatedBytes }
      else if frameMeta.attachSnapshot || frameMeta.terminalState then
        let insertIndex := terminalPriorityInsertIndex state.queue frameMeta.sessionId
        { state with
          queue := state.queue.insertIdx insertIndex item
          seedInsertIndex :=
            if insertIndex < state.seedInsertIndex then state.seedInsertIndex + 1
            else state.seedInsertIndex
          queuedBytes := state.queuedBytes + estimatedBytes }
      else
        { state with
          queue := state.queue ++ [item]
          queuedBytes := state.queuedBytes + estimatedBytes }

/-- Charge a frame and put it in its domain's queue. -/
def admitFrame (sizes : FrameSizes β) (frame : OwnedFrame β) (frameMeta : SyncFrameMeta)
    (estimatedBytes nowMs : Nat) : SyncV2Session β × EnqueueOutcome :=
  match session.tryCharge sizes frame with
  | none => (session, .dropped)
  | some (session, charge) =>
    (session.insertQueued (.new frame frameMeta nowMs charge) frameMeta estimatedBytes, .queued)

/-- Drop the buffered frames a retained seed supersedes, behind the cutover only. -/
def coalesceBuffered (domain : SyncDomain) (retained : OwnedFrame β) : SyncV2Session β :=
  let seed := (session.domains domain).seedInsertIndex
  let queue := (session.domains domain).queue
  let superseded := (queue.drop seed).filter fun item =>
    retainedSupersedesBuffered retained item.frame
  (session.modifyDomain domain fun state =>
    { state with
      queue := queue.take seed ++ (queue.drop seed).filter fun item =>
        !retainedSupersedesBuffered retained item.frame
      queuedBytes := state.queuedBytes - (superseded.map RetainedFrame.estimatedBytes).sum
    }).releaseCharges superseded

/-- Reset one domain: clear its queue and draw a generation. The terminal domain takes its
lanes and its announcements with it. -/
def resetDomain (domain : SyncDomain) (reason : String) : SyncV2Session β × ResetNotice :=
  let subscribed := (session.domains domain).subscribed
  let session := session.clearDomainQueue domain
  let terminalSessionsDropped := decide (domain = .terminal)
  let session :=
    if terminalSessionsDropped then
      ({ session with
        announcedSessions := ∅, pendingSessionAnnouncements := ∅ } :
          SyncV2Session β).clearTerminalSessions
    else session
  let generation := session.generations + 1
  ({ session with generations := generation : SyncV2Session β }.modifyDomain domain fun state =>
      { state with generation, ready := false },
    { domain, generation, reason, subscribed, terminalSessionsDropped })

/-- What a refused frame means for the socket, from the feed's side. -/
def actOnRefusal (refusal : QueueRefusal) (frameMeta : SyncFrameMeta) (nowMs : Nat) :
    SyncV2Session β × EnqueueOutcome :=
  match refusal with
  | .closing => (session, .dropped)
  | .notSubscribed => (session, .dropped)
  | .staleGeneration => (session, .dropped)
  -- The hub is asked for a canonical full of the session.
  | .overflow true => (session, .dropped)
  | .overflow false =>
    match frameMeta.domain with
    | none => (session, .dropped)
    | some domain =>
      let (session, notice) := session.resetDomain domain "queue_overflow"
      (session, .reset notice)
  | .terminalSemanticOverflow =>
    (session.fault, .fault (.backpressure .byteLimit (session.window.stats nowMs)))

/-- Admit one frame from the feed, or say why not. -/
def enqueueFrame (sizes : FrameSizes β) (frame : FirehoseFrame β) (frameMeta : SyncFrameMeta)
    (nowMs : Nat) : SyncV2Session β × EnqueueOutcome :=
  if session.pressureClosing then (session, .dropped)
  else
    match frameMeta.domain with
    | none => (session, .control)
    | some domain =>
      if frameMeta.lane = .control then (session, .control)
      else
        let owned := OwnedFrame.ofCopy frame domain (session.domainGeneration domain)
        let session :=
          if frameMeta.beforeBuffered then session.coalesceBuffered domain owned else session
        let estimatedBytes := owned.conservativeBytes sizes
        match session.queueRefusal owned frameMeta estimatedBytes true with
        | some refusal => session.actOnRefusal refusal frameMeta nowMs
        | none => session.admitFrame sizes owned frameMeta estimatedBytes nowMs

/-- Admit one durable frame once the terminal domain is ready; a refused one stays with the
recovery. -/
def enqueueRecoveryFrame (sizes : FrameSizes β) (frame : OwnedFrame β)
    (frameMeta : SyncFrameMeta) (estimatedBytes nowMs : Nat) : SyncV2Session β × Bool :=
  if !session.terminalDomainReady ||
      (session.queueRefusal frame frameMeta estimatedBytes true).isSome then (session, false)
  else ((session.admitFrame sizes frame frameMeta estimatedBytes nowMs).1, true)

/-- Queue a frame the terminal lane already charged, or hand it back. -/
def tryEnqueueLaneFrame (retained : RetainedFrame β) (frameMeta : SyncFrameMeta) (nowMs : Nat) :
    Option (SyncV2Session β) :=
  match session.queueRefusal retained.frame frameMeta retained.estimatedBytes false with
  | some _ => none
  | none =>
    some (session.insertQueued { retained with frameMeta, queuedAtMs := nowMs } frameMeta
      retained.estimatedBytes)

end SyncV2Session

end Roost.Coord.Sync
