-- SUMMARY: The worker's coordinator link: rows, snapshot, and writes.
import Roost.Worker.Journal
import Roost.Worker.LinkBarrier
import Roost.Worker.LinkLanes

/-!
# The coordinator link

The link offers the rows of the durable outbox to the barrier, oldest first, and keeps a mirror of
the barrier's queue for the writer. The snapshot is numbered by the outbox before it is written.
What goes on the socket is chosen from the pong, the authorised write, and the lanes. An operation is
what the link does between two waits, so other tasks append rows, move claims and queue cells between
any two of them.
-/

namespace Roost.Worker.Link

/-- How many durable events may sit between the pump and the writer. -/
def durableMirrorCap : Nat := 256

/-- How many acknowledgements may be waiting to be applied. -/
def pendingAcksCap : Nat := 256

/-- A durable event the writer holds for the barrier. -/
structure DurableWrite where
  bytes : List UInt8
  seq : Option Nat

/-- A write the barrier has authorised and that is not yet on the wire. -/
inductive Authorised where
  | durable (seq : Nat)
  | snapshot (bytes : List UInt8)

/-- Why the mirror took no durable event. -/
inductive MirrorRefusal where
  | tooManyPending (pending cap : Nat)
  | tooManyBytes (bytes cap : Nat)
  deriving DecidableEq

/-- Why a durable event was not offered to the barrier. -/
inductive OutboxRefusal where
  | unencodable (reason : String)
  | mirror (refusal : MirrorRefusal)
  /-- The barrier refused the outbox's sequence. -/
  | unusableSequence (reason : String)
  deriving DecidableEq

/-- A row that was offered, and how that went. -/
structure Offer where
  clientSeq : Nat
  refusal : Option OutboxRefusal
  deriving DecidableEq

/-- One write the writer is about to make. -/
inductive NextWrite where
  | durable (seq : Nat)
  | snapshot (bytes : List UInt8)
  | queued (frame : Pending)
  | agentStatus (bytes : List UInt8)
  | repair (frames : List Pending)

inductive Handed where
  /-- The head of the mirror, for the sequence that was released. -/
  | durable (seq : Nat) (frame : DurableWrite)
  | snapshot (bytes : List UInt8)
  | queued (frame : Pending)
  | agentStatus (bytes : List UInt8)
  | repair (frames : List Pending)
  /-- The mirror holds nothing for the released sequence; the link ends. -/
  | lostHead (seq : Nat)

structure LinkLoop where
  journal : Journal
  pump : Pump
  /-- The writer's copy of the durable queue. -/
  durable : List DurableWrite
  durableBytes : Nat
  authorised : Option Authorised
  /-- Acknowledgements recorded and not yet applied to the outbox. -/
  pendingAcks : List Nat
  /-- The store holds something the link has not read. -/
  storeChanged : Bool
  /-- The newest row already offered to the pump. -/
  durableOfferedThrough : Nat
  durableResync : Bool
  /-- The barrier asked for the snapshot, and its sequence is still to be drawn. -/
  snapshotWanted : Bool
  /-- Boot holds the snapshot back. -/
  snapshotHeld : Bool
  outbox : Outbox
  cellSink : CellSink

namespace LinkLoop

/-- A link over an outbox, with nothing offered yet. -/
def new (journal : Journal) (held : Bool) : LinkLoop :=
  ⟨journal, .new, [], 0, none, [], false, 0, true, false, held, .new, .new⟩

variable (link : LinkLoop)

/-- A socket is up. -/
def connected : Bool := decide (link.pump.barrier ≠ .idle)

/-! ## The durable path -/

/-- Act on what the barrier asked for. -/
def applyTo : Action → LinkLoop
  | .writeDurable seq =>
    match link.durable with
    | [] => link
    | frame :: rest =>
      { link with
        durable := { frame with seq := some seq } :: rest
        authorised := some (.durable seq) }
  | .writeSnapshot => { link with snapshotWanted := true }
  | .sendHello | .ignoredAck _ | .wait => link

/-- Move the pump, and act on what it asks for. -/
def pumped (result : Pump × Action) : LinkLoop :=
  { link with pump := result.1 }.applyTo result.2

def mirrorRefusal (incoming : Nat) : Option MirrorRefusal :=
  if durableMirrorCap ≤ link.durable.length then
    some (.tooManyPending link.durable.length durableMirrorCap)
  else if pendingBytesCap < link.durableBytes + incoming then
    some (.tooManyBytes link.durableBytes pendingBytesCap)
  else none

/-- Offer a durable event the outbox has numbered: the mirror, the pump, the action. -/
def enqueueDurableAt (clientSeq : Nat) (bytes : List UInt8) : LinkLoop × Option OutboxRefusal :=
  match link.mirrorRefusal bytes.length with
  | some refusal => (link, some (.mirror refusal))
  | none =>
    let mirrored := { link with
      durableBytes := link.durableBytes + bytes.length
      durable := link.durable ++ [⟨bytes, some clientSeq⟩] }
    match link.pump.enqueueDurableAt clientSeq bytes with
    | .error refusal => (mirrored, some (.unusableSequence refusal.text))
    | .ok result =>
      ({ mirrored with
          durableOfferedThrough := max link.durableOfferedThrough clientSeq }.pumped result,
        none)

/-- With the snapshot not yet in flight, a durable change sends the barrier back to replay. -/
def reopenReplayBeforeUnsentSnapshot : LinkLoop :=
  if link.snapshotWanted ∧ link.pump.barrier = .snapshot then
    { link with snapshotWanted := false, pump := link.pump.abandonSnapshot }
  else link

/-- Retire the rows whose acknowledgement was recorded, except those whose delete fails. -/
def applyDurableAcks (failing : List Nat) : LinkLoop :=
  let retired := link.pendingAcks.filter fun seq => decide (seq ∉ failing)
  { link with
    pendingAcks := []
    journal := { link.journal with
      file := retired.foldl (fun file seq => (file.acknowledge seq).1) link.journal.file } }

/-- Whether a claim for a coming event holds the snapshot back, as the outbox answers it. -/
def refreshSnapshotBlocking (now : Int) (readable : Bool) : LinkLoop :=
  if readable then
    let blocked := decide (0 < (link.journal.file.claimCounts now).2)
    let link := if blocked then link.reopenReplayBeforeUnsentSnapshot else link
    link.pumped (link.pump.setSnapshotBlocked blocked)
  else { link with durableResync := true }

/-- The end of a resumed replay: the barrier moves on. -/
def noteDurableAppeared : LinkLoop := link.pumped link.pump.noteDurableAppeared

def helloAcknowledged (terminalMetadataNegotiated : Bool) : LinkLoop :=
  let outbox :=
    if terminalMetadataNegotiated then link.outbox.discard .rawMetadata else link.outbox
  { link with outbox := outbox }.pumped link.pump.onHelloAck

/-- Drop the mirror's head once the pump accepted its acknowledgement. -/
def releaseAcknowledgedMirrorHead (clientSeq : Nat) : LinkLoop :=
  match link.durable with
  | head :: rest =>
    if head.seq = some clientSeq then
      { link with durable := rest, durableBytes := link.durableBytes - head.bytes.length }
    else link
  | [] => link

/-- Record that the coordinator acknowledged a sequence. -/
def noteDurableAck (clientSeq : Nat) : LinkLoop :=
  if pendingAcksCap ≤ link.pendingAcks.length then link
  else { link with pendingAcks := link.pendingAcks ++ [clientSeq] }

/-- One sequence space: the pump knows which acknowledgement it waits for. -/
def eventAcknowledged (clientSeq : Nat) : LinkLoop :=
  match link.pump.onEventAck clientSeq with
  | (pump, .ignoredAck _) =>
    ({ link with pump := pump }.noteDurableAck clientSeq).pumped (pump.onSnapshotAck clientSeq)
  | result =>
    ((link.releaseAcknowledgedMirrorHead clientSeq).noteDurableAck clientSeq).pumped result

/-! ## Offering and numbering -/

section Encoding

-- How an event is framed under a sequence, or why it is not.
variable (encode : JournalEvent → Nat → Except String (List UInt8))

def offerRow (row : PendingRow) : LinkLoop × Option OutboxRefusal :=
  match encode row.event row.clientSeq with
  | .error reason => (link, some (.unencodable reason))
  | .ok bytes => link.enqueueDurableAt row.clientSeq bytes

/-- Offer every row beyond what the pump has; a refused row stops the pass. -/
def offerNewRows (link : LinkLoop) : List PendingRow → LinkLoop × List Offer
  | [] => (link, [])
  | row :: rows =>
    if row.clientSeq ≤ link.durableOfferedThrough then offerNewRows link rows
    else
      match link.reopenReplayBeforeUnsentSnapshot.offerRow encode row with
      | (link, none) =>
        let (link, offers) := offerNewRows link rows
        (link, ⟨row.clientSeq, none⟩ :: offers)
      | (link, some refusal) =>
        ({ link with durableResync := true }, [⟨row.clientSeq, some refusal⟩])

/-- The first half of a pass over the outbox: its rows are read and offered. -/
def syncDurableRows (readable : Bool) : LinkLoop × List Offer :=
  let changed := link.storeChanged
  let link := { link with storeChanged := false }
  if changed ∨ link.durableResync then
    if readable then { link with durableResync := false }.offerNewRows encode link.journal.file.pending
    else ({ link with durableResync := true }, [])
  else (link, [])

/-- Number the snapshot the barrier asked for, and authorise its write. When a row beat the draw,
replay resumes. -/
def authoriseSnapshot (provided : Except String JournalEvent) (readable : Bool)
    (fault : Option Interruption) : LinkLoop :=
  if link.snapshotWanted = false ∨ link.pump.barrier ≠ .snapshot then
    { link with snapshotWanted := false }
  else if link.snapshotHeld then link
  else
    let link := { link with snapshotWanted := false }
    match provided with
    | .error _ => link
    | .ok event =>
      let (journal, answer) :=
        if readable then
          link.journal.step (.snapshotSequence link.durableOfferedThrough fault)
        else (link.journal, .failed (.query "snapshot sequence" ""))
      match answer with
      | .drawn (some seq) =>
        let pump := link.pump.reassignSnapshotSequence seq
        let numbered := { link with journal := journal, pump := pump }
        match pump.snapshotSeq with
        | none => numbered
        | some clientSeq =>
          match encode event clientSeq with
          | .ok bytes => { numbered with authorised := some (.snapshot bytes) }
          | .error _ => numbered
      | .drawn none =>
        { link with
          journal := journal
          pump := link.pump.abandonSnapshot
          durableResync := true }
      | _ => { link with journal := journal, snapshotWanted := true }

end Encoding

/-! ## The life of a socket -/

/-- The socket came up, and the hello was written. -/
def onOpen : LinkLoop := { link with pump := link.pump.onOpen.1 }

/-- The socket is gone, and its lanes with it. -/
def detachLink : LinkLoop :=
  { link with
    pump := link.pump.onDisconnect.1
    authorised := none
    snapshotWanted := false
    outbox := (((link.outbox.discard .liveness).discard .control).discard .terminal).discard
      .rawMetadata }

/-- The process is replaced, and the next one opens the outbox. -/
def restart (now : Int) (held : Bool) : LinkLoop :=
  new ((link.journal.step .crash).1.step (.openFile now)).1 held

/-! ## What goes on the socket -/

def queueCells (now : Nat) (frames : List (List UInt8 × String)) : LinkLoop :=
  { link with
    cellSink := frames.foldl (fun sink frame => sink.enqueue frame.1 frame.2 now) link.cellSink }

def moveCellFramesInto (now : Nat) : LinkLoop :=
  let (cellSink, outbox) := link.cellSink.drainInto link.outbox now
  { link with cellSink := cellSink, outbox := outbox }

/-- Tell a sink that refused a frame that there is room, once no durable event is left to write and
the terminal lane is empty; `repair` is what the session layer queues when told. -/
def notifyWritable (now : Nat) (repair : List (List UInt8 × String)) :
    LinkLoop × Option NextWrite :=
  if link.durable ≠ [] ∨ link.outbox.lanes .terminal ≠ [] then (link, none)
  else
    let told := { link with cellSink := { link.cellSink with writableOwed := false } }
    let queued := told.queueCells now repair
    let (cellSink, frames) := queued.cellSink.drainInto .new now
    ({ queued with cellSink := cellSink }, some (.repair (frames.lanes .terminal)))

/-- What goes on the socket next: the pong, the authorised write, and on a live link the cells a
refused sink is owed room for, an agent status, the lanes. -/
def nextWrite (now : Nat) (notified : Bool) (status : Option (List UInt8))
    (repair : List (List UInt8 × String)) : LinkLoop × Option NextWrite :=
  match link.outbox.takeFrom .liveness with
  | (outbox, some pong) => ({ link with outbox := outbox }, some (.queued pong))
  | (_, none) =>
    match link.authorised with
    | some (.durable seq) => ({ link with authorised := none }, some (.durable seq))
    | some (.snapshot bytes) => ({ link with authorised := none }, some (.snapshot bytes))
    | none =>
      if link.pump.barrier.allowsLiveTraffic = false then (link, none)
      else if link.cellSink.writableOwed then
        match link.outbox.takeFrom .terminal with
        | (outbox, some cells) => ({ link with outbox := outbox }, some (.queued cells))
        | (_, none) => if notified then (link, none) else link.notifyWritable now repair
      else
        match status with
        | some bytes => (link, some (.agentStatus bytes))
        | none =>
          let (outbox, frame) := link.outbox.drainOne now
          ({ link with outbox := outbox }, frame.map .queued)

/-- Hand the next write to the socket. -/
def write (now : Nat) (notified : Bool) (status : Option (List UInt8))
    (repair : List (List UInt8 × String)) : LinkLoop × Option Handed :=
  match link.nextWrite now notified status repair with
  | (link, none) => (link, none)
  | (link, some (.durable seq)) =>
    match link.durable with
    | frame :: _ => (link, some (.durable seq frame))
    | [] => (link, some (.lostHead seq))
  | (link, some (.snapshot bytes)) => (link, some (.snapshot bytes))
  | (link, some (.queued frame)) => (link, some (.queued frame))
  | (link, some (.agentStatus bytes)) => (link, some (.agentStatus bytes))
  | (link, some (.repair frames)) => (link, some (.repair frames))

/-- Admit a frame the uplink carried, or an answer, to its lane; one that does not fit is lost. -/
def admitToLane (frame : Pending) : LinkLoop :=
  match link.outbox.admitFrame frame with
  | .ok outbox => { link with outbox := outbox }
  | .error _ => link

end LinkLoop

/-! ## Runs -/

/-- The calls that sessions make on the outbox. -/
def ofSessions : JournalOp → Bool
  | .append _ _ _ | .reserve _ _ _ _ | .reserveNext _ | .hold _ | .release _ => true
  | _ => false

inductive LinkOp where
  /-- The process is replaced; the next one may hold its snapshot back. -/
  | restart (now : Int) (held : Bool)
  /-- A session's task calls the outbox. -/
  | session (op : JournalOp)
  | noteStoreChanged
  /-- Boot lets the snapshot go. -/
  | activate
  | onOpen
  | detachLink
  | helloAcknowledged (terminalMetadataNegotiated : Bool)
  | eventAcknowledged (clientSeq : Nat)
  | applyDurableAcks (failing : List Nat)
  | syncDurableRows (readable : Bool)
  | refreshSnapshotBlocking (now : Int) (readable : Bool)
  | authoriseSnapshot (provided : Except String JournalEvent) (readable : Bool)
      (fault : Option Interruption)
  | noteDurableAppeared
  | queueCells (now : Nat) (frames : List (List UInt8 × String))
  /-- The session layer attaches or suspends the cell sink. -/
  | setAttached (attached : Bool)
  | discardQueued
  | moveCellFramesInto (now : Nat)
  | admitToLane (lane : Lane) (bytes : List UInt8) (label : String) (now : Nat)
  | write (now : Nat) (notified : Bool) (status : Option (List UInt8))
      (repair : List (List UInt8 × String))

inductive LinkAnswer where
  | outbox (answer : JournalAnswer)
  | offered (offers : List Offer)
  | handed (handed : Option Handed)
  | done

section Runs

variable (encode : JournalEvent → Nat → Except String (List UInt8))

/-- What the link does while its socket is up. -/
def LinkLoop.serve (link : LinkLoop) : LinkOp → LinkLoop × LinkAnswer
  | .detachLink => (link.detachLink, .done)
  | .helloAcknowledged negotiated => (link.helloAcknowledged negotiated, .done)
  | .eventAcknowledged clientSeq => (link.eventAcknowledged clientSeq, .done)
  | .applyDurableAcks failing => (link.applyDurableAcks failing, .done)
  | .syncDurableRows readable =>
    let (link, offers) := link.syncDurableRows encode readable
    (link, .offered offers)
  | .refreshSnapshotBlocking now readable => (link.refreshSnapshotBlocking now readable, .done)
  | .authoriseSnapshot provided readable fault =>
    (link.authoriseSnapshot encode provided readable fault, .done)
  | .noteDurableAppeared => (link.noteDurableAppeared, .done)
  | .moveCellFramesInto now => (link.moveCellFramesInto now, .done)
  | .admitToLane lane bytes label now =>
    if lane = .durable ∨ lane = .terminal then (link, .done)
    else (link.admitToLane ⟨lane, bytes, now, label⟩, .done)
  | .write now notified status repair =>
    let (link, handed) := link.write now notified status repair
    (link, .handed handed)
  | _ => (link, .done)

def LinkLoop.step (link : LinkLoop) (op : LinkOp) : LinkLoop × LinkAnswer :=
  match op with
  | .restart now held => (link.restart now held, .done)
  | .session call =>
    if ofSessions call then
      let (journal, answer) := link.journal.step call
      ({ link with journal := journal }, .outbox answer)
    else (link, .done)
  | .noteStoreChanged => ({ link with storeChanged := true }, .done)
  | .activate => ({ link with snapshotHeld := false }, .done)
  | .queueCells now frames => (link.queueCells now frames, .done)
  | .setAttached attached =>
    ({ link with cellSink := { link.cellSink with attached := attached } }, .done)
  | .discardQueued => ({ link with cellSink := link.cellSink.discardQueued }, .done)
  | .onOpen =>
    if link.pump.barrier = .idle ∧ link.journal.window.isSome then (link.onOpen, .done)
    else (link, .done)
  | op => if link.connected then link.serve encode op else (link, .done)

def linkCalls : Transducer LinkLoop LinkOp LinkAnswer := ⟨LinkLoop.step encode⟩

end Runs

/-- A worker that has not started. -/
def LinkLoop.absent : LinkLoop := .new .absent false

end Roost.Worker.Link
