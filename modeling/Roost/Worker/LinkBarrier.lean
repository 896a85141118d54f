-- SUMMARY: The coordinator link's application barrier.
import Roost.Base.Transducer
import Roost.Protocol.TerminalView.Record

/-!
# The link barrier

A link replays its durable events one at a time, then writes a snapshot, and carries live traffic
once that snapshot is acknowledged. An event that appears while the snapshot is out sends the link
back to replay. Durable events and snapshots draw from one sequence space; the counter wraps, as an
unsigned 64-bit value of a release build does.
-/

namespace Roost.Worker.Link

/-- Where a link is in its lifecycle. -/
inductive Barrier where
  | idle
  /-- The socket is up, and only the hello may be written. -/
  | opened
  | hello
  /-- Replaying durable events, one in flight. -/
  | replay
  | snapshot
  | live
  deriving DecidableEq

def Barrier.allowsLiveTraffic (barrier : Barrier) : Bool := decide (barrier = .live)

/-- What the pump should do after an event. -/
inductive Action where
  | wait
  | sendHello
  | writeDurable (seq : Nat)
  | writeSnapshot
  /-- The coordinator acknowledged something the machine was not waiting for. -/
  | ignoredAck (seq : Nat)

/-- A durable event waiting to be written. -/
structure PendingEvent where
  seq : Nat
  bytes : List UInt8

/-- Why a barrier refused a durable sequence the caller chose. -/
inductive DurableRefusal where
  | unusableSequence (seq : Nat)
  | alreadyPassed (seq nextSeq : Nat)

def DurableRefusal.text : DurableRefusal → String
  | .unusableSequence seq => s!"client sequence {seq} is not a positive number"
  | .alreadyPassed seq nextSeq =>
    s!"client sequence {seq} is behind this barrier's {nextSeq}, so it is a repeat"

/-- The barrier and the bookkeeping that enforces it. -/
structure Pump where
  barrier : Barrier
  /-- Durable events not yet acknowledged, oldest first. -/
  durable : List PendingEvent
  /-- The durable event that awaits its acknowledgement. -/
  inFlight : Option Nat
  /-- A durable event or claim appeared while a snapshot was in flight. -/
  replayAgain : Bool
  /-- The sequence the snapshot will be acknowledged under. -/
  snapshotSeq : Option Nat
  /-- A claim for an event that does not exist yet: replay may not end. -/
  snapshotBlocked : Bool
  nextSeq : Nat
  acked : Nat

/-- The sequence after this one. -/
def wrappingSucc (seq : Nat) : Nat := (seq + 1) % 2 ^ 64

namespace Pump

def new : Pump := ⟨.idle, [], none, false, none, false, 1, 0⟩

variable (pump : Pump)

/-- Choose the next thing to write, given where the barrier is. -/
def advance : Pump × Action :=
  match pump.barrier with
  | .opened | .hello | .idle => (pump, .wait)
  | .live =>
    match pump.inFlight, pump.durable with
    | none, event :: _ => ({ pump with inFlight := some event.seq }, .writeDurable event.seq)
    | _, _ => (pump, .wait)
  | .replay =>
    match pump.inFlight, pump.durable with
    | none, event :: _ => ({ pump with inFlight := some event.seq }, .writeDurable event.seq)
    | _, durable =>
      if durable.isEmpty ∧ pump.snapshotBlocked = false then
        ({ pump with
            barrier := .snapshot
            snapshotSeq := some pump.nextSeq
            nextSeq := wrappingSucc pump.nextSeq },
          .writeSnapshot)
      else (pump, .wait)
  | .snapshot => (pump, .wait)

/-- What arrives during a snapshot makes the snapshot stale. -/
def markStale : Pump :=
  if pump.barrier = .snapshot then { pump with replayAgain := true } else pump

/-- Append an event under a sequence, and move the counter past it. -/
def push (seq : Nat) (bytes : List UInt8) : Pump :=
  { pump with nextSeq := wrappingSucc seq, durable := pump.durable ++ [⟨seq, bytes⟩] }

/-- Queue a durable event under a sequence the caller chose. -/
def enqueueDurableAt (seq : Nat) (bytes : List UInt8) : Except DurableRefusal (Pump × Action) :=
  if seq = 0 then .error (.unusableSequence seq)
  else if seq < pump.nextSeq then .error (.alreadyPassed seq pump.nextSeq)
  else .ok (pump.push seq bytes).markStale.advance

/-- The socket came up. -/
def onOpen : Pump × Action :=
  ({ pump with barrier := .opened, inFlight := none, snapshotSeq := none }, .sendHello)

/-- Queue a durable event under the barrier's own sequence. -/
def enqueueDurable (bytes : List UInt8) : Pump × Action :=
  (pump.push pump.nextSeq bytes).markStale.advance

/-- A durable event or claim appeared, without bytes of its own. -/
def noteDurableAppeared : Pump × Action := pump.markStale.advance

/-- Whether a claim for a coming event holds the snapshot back. -/
def setSnapshotBlocked (blocked : Bool) : Pump × Action :=
  let moved := { pump with snapshotBlocked := blocked }
  match pump.snapshotBlocked, blocked with
  | false, true => moved.noteDurableAppeared
  | true, false => moved.advance
  | _, _ => (moved, .wait)

/-- Put the snapshot under the sequence the durable outbox drew for it. -/
def reassignSnapshotSequence (seq : Nat) : Pump :=
  if pump.barrier = .snapshot ∧ pump.snapshotSeq.isSome then
    { pump with
      snapshotSeq := some seq
      nextSeq := max pump.nextSeq (saturatingAdd seq 1) }
  else pump

/-- Nothing was written at the snapshot stage: replay resumes, and the last draw is given back. -/
def abandonSnapshot : Pump :=
  if pump.barrier = .snapshot then
    { pump with
      barrier := .replay
      snapshotSeq := none
      nextSeq :=
        match pump.snapshotSeq with
        | some drawn => if saturatingAdd drawn 1 = pump.nextSeq then drawn else pump.nextSeq
        | none => pump.nextSeq
      replayAgain := false }
  else pump

/-- The coordinator acknowledged the hello. -/
def onHelloAck : Pump × Action := { pump with barrier := .replay }.advance

/-- The coordinator acknowledged a durable event; only the one in flight counts. -/
def onEventAck (seq : Nat) : Pump × Action :=
  if pump.inFlight = some seq then
    { pump with
      inFlight := none
      durable := pump.durable.tail
      acked := max pump.acked seq }.advance
  else (pump, .ignoredAck seq)

/-- The coordinator acknowledged the snapshot; a stale one goes back to replay. -/
def onSnapshotAck (seq : Nat) : Pump × Action :=
  if pump.snapshotSeq = some seq then
    if pump.replayAgain then
      { pump with snapshotSeq := none, replayAgain := false, barrier := .replay }.advance
    else { pump with snapshotSeq := none, barrier := .live }.advance
  else (pump, .ignoredAck seq)

/-- The socket ended. Durable rows stay. -/
def onDisconnect : Pump × Barrier :=
  ({ pump with barrier := .idle, inFlight := none, snapshotSeq := none, replayAgain := false },
    pump.barrier)

end Pump

inductive PumpOp where
  | onOpen
  | onHelloAck
  | enqueueDurable (bytes : List UInt8)
  | enqueueDurableAt (seq : Nat) (bytes : List UInt8)
  | noteDurableAppeared
  | setSnapshotBlocked (blocked : Bool)
  | reassignSnapshotSequence (seq : Nat)
  | abandonSnapshot
  | onEventAck (seq : Nat)
  | onSnapshotAck (seq : Nat)
  | onDisconnect

/-- What a call on the pump answers. -/
inductive PumpAnswer where
  | action (action : Action)
  | refused (refusal : DurableRefusal)
  | disconnected (previous : Barrier)
  | done

def acting (result : Pump × Action) : Pump × PumpAnswer := (result.1, .action result.2)

def Pump.step (pump : Pump) : PumpOp → Pump × PumpAnswer
  | .onOpen => acting pump.onOpen
  | .onHelloAck => acting pump.onHelloAck
  | .enqueueDurable bytes => acting (pump.enqueueDurable bytes)
  | .enqueueDurableAt seq bytes =>
    match pump.enqueueDurableAt seq bytes with
    | .ok result => acting result
    | .error refusal => (pump, .refused refusal)
  | .noteDurableAppeared => acting pump.noteDurableAppeared
  | .setSnapshotBlocked blocked => acting (pump.setSnapshotBlocked blocked)
  | .reassignSnapshotSequence seq => (pump.reassignSnapshotSequence seq, .done)
  | .abandonSnapshot => (pump.abandonSnapshot, .done)
  | .onEventAck seq => acting (pump.onEventAck seq)
  | .onSnapshotAck seq => acting (pump.onSnapshotAck seq)
  | .onDisconnect => (pump.onDisconnect.1, .disconnected pump.onDisconnect.2)

def pumpCalls : Transducer Pump PumpOp PumpAnswer := ⟨Pump.step⟩

end Roost.Worker.Link
