-- SUMMARY: A channel's input lane, in every interleaving.
import Roost.Base.Transducer
import Roost.Keeper.Payloads

/-!
# Input lanes

Each channel has one FIFO of input batches, shared by the legacy and the
acknowledged frames, and one thread that writes it to the PTY. The dispatcher
queues, connections come and go, the child may exit and the lane may be dropped,
all between any two steps of the thread. What a batch's writer met, and what a
descriptor did with the bytes it was offered, are inputs of a step.
-/

namespace Roost.Keeper

/-- Queued plus in-flight batches one channel may hold. -/
def keeperInputQueueMaxCommands : Nat := 200

/-- Queued plus in-flight bytes one channel may hold. -/
def keeperInputQueueMaxBytes : Nat := 256 * 1024

/-! ## The connection results go to -/

/-- The connection acknowledged input answers on, by the generation of its attach. -/
structure InputRoute where
  attached : Option UInt64
  generations : UInt64

namespace InputRoute

def new : InputRoute where
  attached := none
  generations := 0

/-- Route results to a new connection. -/
def attach (route : InputRoute) : InputRoute :=
  let generation := route.generations + 1
  { attached := some generation, generations := generation }

/-- The connection is gone. -/
def detach (route : InputRoute) : InputRoute := { route with attached := none }

/-- The generation results currently go to, if any connection is attached. -/
def current (route : InputRoute) : Option UInt64 := route.attached

def deliver (route : InputRoute) (generation : UInt64) (frame : MuxFrame) :
    Option (UInt64 × MuxFrame) :=
  if route.attached = some generation then some (generation, frame) else none

end InputRoute

/-- Who a batch's result is owed to. -/
inductive InputReply where
  /-- Legacy `PtyIn`: nothing is owed and nothing is dropped with a connection. -/
  | unacknowledged
  /-- `PtyInRequest`: one result frame, to the connection generation that asked. -/
  | acknowledged (inputSeq : Nat) (generation : Option UInt64)

structure Batch where
  bytes : List UInt8
  reply : InputReply

/-! ## The queue -/

/-- One channel's input FIFO, as the dispatcher and the writer thread share it. -/
structure InputLane where
  channelId : UInt16
  queue : List Batch
  /-- Queued plus in-flight bytes, released only once a batch has settled. -/
  heldBytes : Nat
  writing : Bool
  closed : Bool
  exited : Bool

open InputLane

namespace InputLane

def start (channelId : UInt16) : InputLane where
  channelId := channelId
  queue := []
  heldBytes := 0
  writing := false
  closed := false
  exited := false

variable (lane : InputLane)

/-- A batch behind every earlier one. -/
def push (batch : Batch) : InputLane :=
  { lane with
    heldBytes := lane.heldBytes + batch.bytes.length
    queue := lane.queue ++ [batch] }

/-- Queue one batch, or refuse it when the channel's budget is spent. -/
def enqueue (bytes : List UInt8) (reply : InputReply) : Option InputLane :=
  let commands := lane.queue.length + lane.writing.toNat
  if commands ≥ keeperInputQueueMaxCommands ∨
      lane.heldBytes + bytes.length > keeperInputQueueMaxBytes then none
  else some (lane.push { bytes, reply })

/-- The child has exited: every batch not yet written is refused. -/
def markExited : InputLane := { lane with exited := true }

/-- The owner dropped the lane. -/
def close : InputLane := { lane with closed := true }

/-- Take the oldest batch in flight. -/
def nextBatch : Option (Batch × InputLane) :=
  match lane.queue with
  | [] => none
  | batch :: queue => some (batch, { lane with queue, writing := true })

/-- Give back what a settled batch held. -/
def release (batch : Batch) : InputLane :=
  { lane with heldBytes := lane.heldBytes - batch.bytes.length, writing := false }

end InputLane

/-! ## Writing a batch -/

/-- What one `write` call came back with. -/
inductive WriteResult where
  | accepted (count : Nat)
  | interrupted
  | failed

/-- What the PTY's descriptor does while one batch is written: the results of the
`write` calls in order, and whether the flush succeeds. A descriptor with no result
left refuses. -/
structure Descriptor where
  writes : List WriteResult
  flushed : Bool

inductive WriteOutcome where
  | complete (written : Nat)
  /-- Nothing reached the PTY, so a retry cannot duplicate. -/
  | rejected (reason : PtyInRejectReason)
  /-- Some bytes reached it, so a retry would duplicate. -/
  | partially (written : Nat) (reason : PtyInRejectReason)
  deriving DecidableEq

def stalled (written : Nat) : WriteOutcome :=
  if written = 0 then .rejected .noReader else .partially (written % 2 ^ 32) .partialWrite

/-- The loop of `writeBatch`: how many of `length` bytes were taken, and whether the
loop ran to its end. A call never takes more than it is offered. -/
def writeLoop (length : Nat) : Nat → List WriteResult → Nat × Bool
  | written, [] => (written, decide (length ≤ written))
  | written, result :: results =>
    if length ≤ written then (written, true)
    else
      match result with
      | .accepted 0 => (written, false)
      | .accepted count => writeLoop length (written + min count (length - written)) results
      | .interrupted => writeLoop length written results
      | .failed => (written, false)

def writeBatch (pty : Descriptor) (bytes : List UInt8) : WriteOutcome × List UInt8 :=
  if bytes.isEmpty then (.complete 0, [])
  else
    let (written, whole) := writeLoop bytes.length 0 pty.writes
    if whole ∧ pty.flushed then (.complete (written % 2 ^ 32), bytes.take written)
    else (stalled written, bytes.take written)

/-- The bytes each `write` call of the loop took, in order. -/
def piecesTaken (bytes : List UInt8) : Nat → List WriteResult → List (List UInt8)
  | _, [] => []
  | written, result :: results =>
    if bytes.length ≤ written then []
    else
      match result with
      | .accepted 0 => []
      | .accepted count =>
        (bytes.drop written).take count ::
          piecesTaken bytes (written + min count (bytes.length - written)) results
      | .interrupted => piecesTaken bytes written results
      | .failed => []

/-- The bytes the writer accepted while one batch was written. -/
def Descriptor.accepted (pty : Descriptor) (bytes : List UInt8) : List UInt8 :=
  (piecesTaken bytes 0 pty.writes).flatten

def acknowledgedResult (inputSeq : Nat) : WriteOutcome → MuxFrameType × PtyInResult
  | .complete written => (.ptyInAck, .ack inputSeq written)
  | .rejected reason => (.ptyInReject, .reject inputSeq reason)
  -- A partial write is the case a client must not retry.
  | .partially written reason => (.ptyInAmbiguous, .ambiguous inputSeq written reason)

/-- What settling one batch did: the bytes that reached the PTY, and the result frame
with the connection generation it was handed to. -/
structure Settlement where
  written : List UInt8
  delivered : Option (UInt64 × MuxFrame)

/-- The batch was queued by a connection that is no longer the attached one. -/
def Batch.departed (batch : Batch) (route : InputRoute) : Bool :=
  match batch.reply with
  | .acknowledged _ (some generation) => route.current ≠ some generation
  | _ => false

/-- The result frame owed for a batch, handed to its connection. -/
def deliverResult (channelId : UInt16) (route : InputRoute) (reply : InputReply)
    (outcome : WriteOutcome) : Option (UInt64 × MuxFrame) :=
  match reply with
  | .unacknowledged => none
  | .acknowledged inputSeq generation =>
    let (tag, result) := acknowledgedResult inputSeq outcome
    match generation, resultFrame tag channelId result with
    | some generation, .ok frame => route.deliver generation frame
    | none, .ok _ => none
    | _, .error _ => none

/-- Write a batch to a child that may be gone. -/
def InputLane.attempt (lane : InputLane) (pty : Descriptor) (bytes : List UInt8) :
    WriteOutcome × List UInt8 :=
  if lane.closed || lane.exited then (.rejected .childExited, []) else writeBatch pty bytes

/-- Settle one batch. Input from a departed connection is dropped unwritten: nobody is
left to be told. -/
def settleBatch (lane : InputLane) (route : InputRoute) (pty : Descriptor) (batch : Batch) :
    Settlement :=
  if batch.departed route then { written := [], delivered := none }
  else
    let attempt := lane.attempt pty batch.bytes
    { written := attempt.2
      delivered := deliverResult lane.channelId route batch.reply attempt.1 }

/-! ## The machine -/

/-- One lane, its writer thread and the route its results take. -/
structure InputSystem where
  route : InputRoute
  lane : InputLane
  /-- The batch the thread holds. -/
  inFlight : Option Batch
  /-- The thread has returned. -/
  stopped : Bool

open InputSystem

/-- The atomic steps of the dispatcher, the connections and the writer thread. -/
inductive LaneOp where
  | attach
  | detach
  /-- Legacy input carries no sequence. -/
  | enqueue (bytes : List UInt8) (inputSeq : Option Nat)
  | nextBatch
  | settle (pty : Descriptor)
  | markExited
  | drop

inductive LaneAnswer where
  | done
  | queued (batch : Batch)
  | refused
  | settled (settlement : Settlement)

namespace InputSystem

def start (channelId : UInt16) : InputSystem where
  route := .new
  lane := .start channelId
  inFlight := none
  stopped := false

/-- The reply owed for a batch queued now. -/
def replyFor (system : InputSystem) : Option Nat → InputReply
  | none => .unacknowledged
  | some inputSeq => .acknowledged inputSeq system.route.current

/-- The thread between two batches: take one, wait for one, or return. -/
def takeNext (system : InputSystem) : InputSystem :=
  if system.inFlight.isSome || system.stopped then system
  else
    match system.lane.nextBatch with
    | some (batch, lane) => { system with lane, inFlight := some batch }
    | none => { system with stopped := system.lane.closed }

def step (system : InputSystem) : LaneOp → InputSystem × LaneAnswer
  | .attach => ({ system with route := system.route.attach }, .done)
  | .detach => ({ system with route := system.route.detach }, .done)
  | .enqueue bytes inputSeq =>
    let reply := system.replyFor inputSeq
    match system.lane.enqueue bytes reply with
    | some lane => ({ system with lane }, .queued { bytes, reply })
    | none => (system, .refused)
  | .nextBatch => (system.takeNext, .done)
  | .settle pty =>
    match system.inFlight with
    | none => (system, .done)
    | some batch =>
      ({ system with lane := system.lane.release batch, inFlight := none },
        .settled (settleBatch system.lane system.route pty batch))
  | .markExited => ({ system with lane := system.lane.markExited }, .done)
  | .drop => ({ system with lane := system.lane.close }, .done)

end InputSystem

/-- The system as a machine over the atomic steps. -/
def inputSystem : Transducer InputSystem LaneOp LaneAnswer where
  step := step

/-! ## One batch -/

theorem InputLane.enqueue_eq_some {lane next : InputLane} {bytes : List UInt8}
    {reply : InputReply} : lane.enqueue bytes reply = some next ↔
      lane.queue.length + lane.writing.toNat < keeperInputQueueMaxCommands ∧
        lane.heldBytes + bytes.length ≤ keeperInputQueueMaxBytes ∧
        lane.push ⟨bytes, reply⟩ = next := by
  unfold enqueue
  dsimp only
  split
  · rename_i hfull
    constructor
    · intro h
      cases h
    · rintro ⟨hcommits, hbytes, _⟩
      exact absurd hfull (not_or.mpr ⟨Nat.not_le.mpr hcommits, Nat.not_lt.mpr hbytes⟩)
  · rename_i hroom
    rw [not_or, Nat.not_le, Nat.not_lt] at hroom
    simp [hroom]

theorem writeBatch_prefix (pty : Descriptor) (bytes : List UInt8) :
    (writeBatch pty bytes).2 <+: bytes := by
  unfold writeBatch
  split
  · exact List.nil_prefix
  dsimp only
  split <;> exact List.take_prefix _ _

theorem writeLoop_eq (bytes : List UInt8) (results : List WriteResult) {written : Nat}
    (hle : written ≤ bytes.length) :
    ∃ taken, (piecesTaken bytes written results).flatten = (bytes.drop written).take taken ∧
      written + taken ≤ bytes.length ∧ writeLoop bytes.length written results =
        (written + taken, decide (bytes.length ≤ written + taken)) := by
  induction results generalizing written with
  | nil => exact ⟨0, by simp [piecesTaken, writeLoop, hle]⟩
  | cons result results ih =>
    by_cases hdone : bytes.length ≤ written
    · exact ⟨0, by simp [piecesTaken, writeLoop, hle, hdone]⟩
    match result with
    | .accepted 0 => exact ⟨0, by simp [piecesTaken, writeLoop, hle, hdone]⟩
    | .accepted (count + 1) =>
      obtain ⟨taken, hpieces, hbound, hloop⟩ :=
        ih (show written + min (count + 1) (bytes.length - written) ≤ bytes.length by omega)
      refine ⟨min (count + 1) (bytes.length - written) + taken, ?_, by omega, ?_⟩
      · have hpiece : (bytes.drop written).take (count + 1) =
            (bytes.drop written).take (min (count + 1) (bytes.length - written)) := by
          rw [List.take_eq_take_iff]
          simp
        rw [piecesTaken, if_neg hdone, List.flatten_cons, hpieces, hpiece, ← List.drop_drop,
          List.take_add]
        exact Nat.succ_ne_zero count
      · rw [writeLoop, if_neg hdone, hloop, Nat.add_assoc]
        exact Nat.succ_ne_zero count
    | .interrupted =>
      simp only [piecesTaken, writeLoop, hdone, if_false]
      exact ih hle
    | .failed => exact ⟨0, by simp [piecesTaken, writeLoop, hle, hdone]⟩

theorem writeBatch_eq (pty : Descriptor) (bytes : List UInt8) : pty.accepted bytes <+: bytes ∧
      writeBatch pty bytes = (if bytes = [] then .complete 0
          else if pty.accepted bytes = bytes ∧ pty.flushed = true then
            .complete ((pty.accepted bytes).length % 2 ^ 32)
          else stalled (pty.accepted bytes).length, pty.accepted bytes) := by
  obtain ⟨taken, hpieces, hbound, hloop⟩ := writeLoop_eq bytes pty.writes (Nat.zero_le _)
  rw [Nat.zero_add] at hbound hloop
  have hacc : pty.accepted bytes = bytes.take taken := hpieces
  have hlen : (bytes.take taken).length = taken := by simpa using hbound
  have hwhole : bytes.take taken = bytes ↔ bytes.length ≤ taken :=
    ⟨fun h => by rw [← h, hlen], List.take_of_length_le⟩
  refine ⟨hacc ▸ List.take_prefix _ _, ?_⟩
  rw [hacc, hlen]
  unfold writeBatch
  by_cases hempty : bytes = []
  · simp [hempty]
  · simp only [List.isEmpty_iff, hempty, if_false, hloop, decide_eq_true_eq, hwhole]
    split <;> rfl

/-- What the writer took decides how a batch ends, for every batch the queue admits: complete only
where it is the whole batch, rejected only where it is nothing. An empty batch never reaches the
writer, and is complete with no flush. -/
theorem write_outcome_exact (pty : Descriptor) (bytes : List UInt8)
    (hadmitted : bytes.length ≤ keeperInputQueueMaxBytes) :
    pty.accepted bytes <+: bytes ∧ (writeBatch pty bytes).2 = pty.accepted bytes ∧
      match (writeBatch pty bytes).1 with
      | .complete written =>
        pty.accepted bytes = bytes ∧ (bytes = [] ∨ pty.flushed = true) ∧ written = bytes.length
      | .rejected _ => pty.accepted bytes = [] ∧ bytes ≠ []
      | .partially written _ =>
        written = (pty.accepted bytes).length ∧ pty.accepted bytes ≠ [] ∧
          ¬(pty.accepted bytes = bytes ∧ pty.flushed = true) := by
  obtain ⟨htaken, hbatch⟩ := writeBatch_eq pty bytes
  have hsmall : (pty.accepted bytes).length % 2 ^ 32 = (pty.accepted bytes).length := by
    have := htaken.length_le
    unfold keeperInputQueueMaxBytes at hadmitted
    omega
  refine ⟨htaken, by rw [hbatch], ?_⟩
  rw [hbatch, hsmall]
  by_cases hempty : bytes = []
  · subst hempty
    simpa using htaken
  rw [if_neg hempty]
  by_cases hwhole : pty.accepted bytes = bytes ∧ pty.flushed = true
  · rw [if_pos hwhole]
    exact ⟨hwhole.1, .inr hwhole.2, congrArg List.length hwhole.1⟩
  rw [if_neg hwhole, stalled, hsmall]
  by_cases hnone : (pty.accepted bytes).length = 0
  · rw [if_pos hnone]
    exact ⟨List.length_eq_zero_iff.mp hnone, hempty⟩
  · rw [if_neg hnone]
    exact ⟨rfl, fun h => hnone (List.length_eq_zero_iff.mpr h), hwhole⟩

theorem write_outcome_exact_short :
    writeBatch ⟨[.accepted 1, .interrupted, .failed], true⟩ [7, 8] = (.partially 1 .partialWrite, [7]) ∧
      Descriptor.accepted ⟨[.accepted 1, .interrupted, .failed], true⟩ [7, 8] <+: [7, 8] :=
  ⟨by decide, (write_outcome_exact _ _ (by decide)).1⟩

/-- An empty batch is complete although the flush would fail. -/
theorem empty_batch_skips_flush : writeBatch ⟨[], false⟩ [] = (.complete 0, []) := by decide

theorem settleBatch_written (lane : InputLane) (route : InputRoute) (pty : Descriptor)
    (batch : Batch) : (settleBatch lane route pty batch).written <+: batch.bytes := by
  unfold settleBatch
  split
  · exact List.nil_prefix
  unfold attempt
  split
  · exact List.nil_prefix
  · exact writeBatch_prefix pty batch.bytes

theorem acknowledgedResult_inputSeq (inputSeq : Nat) (outcome : WriteOutcome) :
    (acknowledgedResult inputSeq outcome).2.inputSeq = inputSeq := by
  cases outcome <;> rfl

/-- A result frame answers under the batch's own sequence. -/
def ResultOf (channelId : UInt16) (inputSeq : Nat) (frame : MuxFrame) : Prop :=
  ∃ outcome, frame = ⟨(acknowledgedResult inputSeq outcome).1, channelId,
      (acknowledgedResult inputSeq outcome).2.encode⟩

theorem deliverResult_eq_some {chan : UInt16} {route : InputRoute} {reply : InputReply}
    {outcome : WriteOutcome} {gen : UInt64} {frame : MuxFrame}
    (h : deliverResult chan route reply outcome = some (gen, frame)) :
    ∃ seq, reply = .acknowledged seq (some gen) ∧ ResultOf chan seq frame := by
  cases reply with
  | unacknowledged => cases h
  | acknowledged seq owner =>
    simp only [deliverResult, resultFrame_eq] at h
    cases owner with
    | none => cases h
    | some =>
      simp only [InputRoute.deliver] at h
      split at h
      · cases h
        exact ⟨seq, rfl, outcome, rfl⟩
      · cases h

/-- What settling a batch may do: write a prefix of it, and hand one result under its
sequence to the generation that queued it. -/
structure Settles (channelId : UInt16) (batch : Batch) (settlement : Settlement) : Prop where
  written : settlement.written <+: batch.bytes
  delivered : ∀ generation frame, settlement.delivered = some (generation, frame) →
    ∃ inputSeq, batch.reply = .acknowledged inputSeq (some generation) ∧
      ResultOf channelId inputSeq frame

/-- A batch settles once, with what its writer met. -/
theorem settles_settleBatch (lane : InputLane) (route : InputRoute) (pty : Descriptor)
    (batch : Batch) : Settles lane.channelId batch (settleBatch lane route pty batch) := by
  refine ⟨settleBatch_written lane route pty batch, ?_⟩
  intro gen frame hdel
  unfold settleBatch at hdel
  split at hdel
  · cases hdel
  · exact deliverResult_eq_some hdel

/-! ## Runs -/

variable (past : List (LaneOp × LaneAnswer))

def acceptedBatches : List Batch :=
  past.filterMap fun entry =>
    match entry.2 with
    | .queued batch => some batch
    | _ => none

/-- What a run settled, in order. -/
def settlements : List Settlement :=
  past.filterMap fun entry =>
    match entry.2 with
    | .settled settlement => some settlement
    | _ => none

/-- Every byte a run wrote to the PTY. -/
def ptyBytes : List UInt8 :=
  (settlements past).flatMap Settlement.written

/-- The batches a lane answers for: the one in flight, then the queue. -/
def InputSystem.held (system : InputSystem) : List Batch :=
  system.inFlight.toList ++ system.lane.queue

def batchBytes (batches : List Batch) : Nat := (batches.map fun batch => batch.bytes.length).sum

@[simp] theorem batchBytes_cons (batch : Batch) (batches : List Batch) :
    batchBytes (batch :: batches) = batch.bytes.length + batchBytes batches := rfl

@[simp] theorem batchBytes_append (batches batches' : List Batch) :
    batchBytes (batches ++ batches') = batchBytes batches + batchBytes batches' := by
  simp [batchBytes]

/-- The budget of a lane: what it counts is what it holds, and both bounds are kept. -/
structure InputSystem.Within (system : InputSystem) : Prop where
  heldBytes : system.lane.heldBytes = batchBytes system.held
  writing : system.lane.writing = system.inFlight.isSome
  bytes_le : batchBytes system.held ≤ keeperInputQueueMaxBytes
  commands_le : system.held.length ≤ keeperInputQueueMaxCommands

/-- The past of a lane: the accepted batches are the settled ones, each with its
settlement, and behind them those still held. -/
structure InputSystem.Recalls (channelId : UInt16) (past : List (LaneOp × LaneAnswer))
    (system : InputSystem) : Prop where
  serves : system.lane.channelId = channelId
  within : system.Within
  order : ∃ settled, acceptedBatches past = settled ++ system.held ∧
    List.Forall₂ (Settles channelId) settled (settlements past)

theorem InputSystem.recalls_start (chan : UInt16) : (start chan).Recalls chan [] :=
  ⟨rfl, ⟨rfl, rfl, Nat.zero_le _, Nat.zero_le _⟩, [], rfl, .nil⟩

@[simp] theorem acceptedBatches_concat (op : LaneOp)
    (answer : LaneAnswer) : acceptedBatches (past ++ [(op, answer)]) =
      acceptedBatches past ++ (match answer with | .queued batch => [batch] | _ => []) := by
  cases answer <;> simp [acceptedBatches]

@[simp] theorem settlements_concat (op : LaneOp)
    (answer : LaneAnswer) : settlements (past ++ [(op, answer)]) =
      settlements past ++ (match answer with | .settled settlement => [settlement] | _ => []) := by
  cases answer <;> simp [settlements]

namespace InputSystem

variable {chan : UInt16} {past : List (LaneOp × LaneAnswer)} {system next : InputSystem}

/-- A step that moves no batch: the lane holds and counts what it did. -/
structure Unmoved (system next : InputSystem) : Prop where
  held : next.held = system.held
  heldBytes : next.lane.heldBytes = system.lane.heldBytes
  writing : next.lane.writing = next.inFlight.isSome
  channelId : next.lane.channelId = system.lane.channelId

section

variable (h : system.Recalls chan past)
include h

theorem Recalls.unmoved (hstep : Unmoved system next) (op : LaneOp) {answer : LaneAnswer}
    (hanswer : answer = .done ∨ answer = .refused) : next.Recalls chan (past ++ [(op, answer)]) := by
  obtain ⟨hid, hwithin, settled, horder, hsettled⟩ := h
  obtain ⟨hheld, hbytes, hwrit, hchannel⟩ := hstep
  refine ⟨hchannel.trans hid, ⟨?_, hwrit, ?_, ?_⟩, settled, ?_, ?_⟩
  · rw [hbytes, hheld, hwithin.heldBytes]
  · rw [hheld]
    exact hwithin.bytes_le
  · rw [hheld]
    exact hwithin.commands_le
  · rcases hanswer with rfl | rfl <;> simpa [hheld] using horder
  · rcases hanswer with rfl | rfl <;> simpa using hsettled

theorem Recalls.enqueue {bytes : List UInt8} {reply : InputReply}
    {lane : InputLane} (hlane : system.lane.enqueue bytes reply = some lane) (op : LaneOp) :
    ({ system with lane } : InputSystem).Recalls chan (past ++ [(op, .queued ⟨bytes, reply⟩)]) := by
  obtain ⟨hid, hwithin, settled, horder, hsettled⟩ := h
  obtain ⟨hcommits, hbytes, rfl⟩ := enqueue_eq_some.mp hlane
  have hheld : held ⟨system.route, system.lane.push ⟨bytes, reply⟩, system.inFlight,
      system.stopped⟩ = system.held ++ [⟨bytes, reply⟩] := by
    simp [held, push]
  have hcount : system.held.length = system.lane.queue.length + system.lane.writing.toNat := by
    rw [hwithin.writing]
    cases hfly : system.inFlight <;> simp [held, hfly]
  refine ⟨hid, ⟨?_, hwithin.writing, ?_, ?_⟩, settled, ?_, by simpa using hsettled⟩
  · rw [hheld, batchBytes_append, ← hwithin.heldBytes]
    rfl
  · rw [hheld, batchBytes_append, ← hwithin.heldBytes]
    exact hbytes
  · rw [hheld, List.length_append, hcount]
    exact hcommits
  · rw [hheld, acceptedBatches_concat, horder, List.append_assoc]

theorem Recalls.takeNext (op : LaneOp) : system.takeNext.Recalls chan (past ++ [(op, .done)]) := by
  unfold InputSystem.takeNext
  split
  · exact h.unmoved ⟨rfl, rfl, h.within.writing, rfl⟩ op (.inl rfl)
  rename_i hidle
  have hfly : system.inFlight = none := by
    cases hcase : system.inFlight with
    | none => rfl
    | some => simp [hcase] at hidle
  unfold InputLane.nextBatch
  cases hqueue : system.lane.queue with
  | nil =>
    refine h.unmoved ?_ op (.inl rfl)
    exact ⟨rfl, rfl, h.within.writing, rfl⟩
  | cons batch queue =>
    have hheld : system.held = batch :: queue := by simp [held, hfly, hqueue]
    refine h.unmoved ?_ op (.inl rfl)
    exact ⟨hheld.symm, rfl, rfl, rfl⟩

theorem Recalls.settle {batch : Batch}
    (hfly : system.inFlight = some batch) (pty : Descriptor) (op : LaneOp) :
    ({ system with lane := system.lane.release batch, inFlight := none } : InputSystem).Recalls chan
      (past ++ [(op, .settled (settleBatch system.lane system.route pty batch))]) := by
  obtain ⟨hid, hwithin, settled, horder, hsettled⟩ := h
  have hheld : system.held = batch :: system.lane.queue := by simp [held, hfly]
  have hafter : ({ system with lane := system.lane.release batch, inFlight := none } :
      InputSystem).held = system.lane.queue := rfl
  have hbytes : system.lane.heldBytes = batch.bytes.length + batchBytes system.lane.queue := by
    rw [hwithin.heldBytes, hheld, batchBytes_cons]
  refine ⟨hid, ⟨?_, rfl, ?_, ?_⟩, settled ++ [batch], ?_, ?_⟩
  · rw [hafter, release, hbytes]
    exact Nat.add_sub_cancel_left _ _
  · rw [hafter]
    have hle := hwithin.bytes_le
    rw [hheld, batchBytes_cons] at hle
    exact Nat.le_trans (Nat.le_add_left _ _) hle
  · rw [hafter]
    have hle := hwithin.commands_le
    rw [hheld] at hle
    exact Nat.le_trans (Nat.le_succ _) hle
  · rw [hafter, acceptedBatches_concat, horder, hheld]
    simp
  · rw [settlements_concat]
    exact List.rel_append hsettled (.cons (hid ▸ settles_settleBatch _ _ _ _) .nil)

/-- A step settles in the order of acceptance. -/
theorem Recalls.step (op : LaneOp) :
    (inputSystem.next system op).Recalls chan (past ++ [(op, inputSystem.answer system op)]) := by
  change (system.step op).1.Recalls chan (past ++ [(op, (system.step op).2)])
  cases op with
  | attach | detach | markExited | drop =>
    refine h.unmoved ?_ _ (.inl rfl)
    exact ⟨rfl, rfl, h.within.writing, rfl⟩
  | enqueue bytes seq =>
    simp only [InputSystem.step]
    cases hlane : system.lane.enqueue bytes (system.replyFor seq) with
    | none => exact h.unmoved ⟨rfl, rfl, h.within.writing, rfl⟩ _ (.inr rfl)
    | some => exact h.enqueue hlane _
  | nextBatch => exact h.takeNext _
  | settle pty =>
    simp only [InputSystem.step]
    cases hfly : system.inFlight with
    | none => exact h.unmoved ⟨rfl, rfl, h.within.writing, rfl⟩ _ (.inl rfl)
    | some => exact h.settle hfly pty _

end

/-- In every run batches settle in the order of acceptance. -/
theorem recalls_run (chan : UInt16) (ops : List LaneOp) :
    (inputSystem.run (start chan) ops).Recalls chan (inputSystem.trace (start chan) ops) :=
  Transducer.Along.traced (P := fun past system => system.Recalls chan past)
    (recalls_start chan) (fun _ _ op h _ => h.step op)
    (Transducer.along_true (start chan) ops)

theorem queued_reply {bytes : List UInt8} {seq : Option Nat} {batch : Batch}
    (h : inputSystem.answer system (.enqueue bytes seq) = .queued batch) :
    batch = ⟨bytes, system.replyFor seq⟩ := by
  change (system.step (.enqueue bytes seq)).2 = _ at h
  unfold step at h
  cases hlane : system.lane.enqueue bytes (system.replyFor seq) with
  | none => simp [hlane] at h
  | some =>
    simp only [hlane, LaneAnswer.queued.injEq] at h
    exact h.symm

theorem next_of_refused {op : LaneOp} (h : inputSystem.answer system op = .refused) :
    inputSystem.next system op = system := by
  change (system.step op).2 = _ at h
  change (system.step op).1 = system
  cases op with
  | enqueue bytes seq =>
    unfold step at h ⊢
    cases hlane : system.lane.enqueue bytes (system.replyFor seq) with
    | none => simp only [hlane]
    | some => simp [hlane] at h
  | settle =>
    unfold step at h
    cases hfly : system.inFlight <;> simp [hfly] at h
  | attach | detach | nextBatch | markExited | drop => cases h

/-- In every interleaving: what reached the PTY is, batch by batch in the order they
were queued, a prefix of each accepted batch; a batch's result is handed out at most
once, under its sequence and to the generation attached when it was queued; a refused
batch changes nothing; and the lane counts what it holds within both budgets. -/
theorem run_fifo (channelId : UInt16) (ops : List LaneOp) : (∃ pieces : List (List UInt8),
        ptyBytes (inputSystem.trace (start channelId) ops) = pieces.flatten ∧
        List.Forall₂ (fun batch piece => piece <+: batch.bytes)
          ((acceptedBatches (inputSystem.trace (start channelId) ops)).take pieces.length)
          pieces) ∧
      List.Forall₂ (fun batch settlement => ∀ generation frame,
          settlement.delivered = some (generation, frame) →
          ∃ inputSeq, batch.reply = .acknowledged inputSeq (some generation) ∧
            ResultOf channelId inputSeq frame)
        ((acceptedBatches (inputSystem.trace (start channelId) ops)).take
          (settlements (inputSystem.trace (start channelId) ops)).length)
        (settlements (inputSystem.trace (start channelId) ops)) ∧
      (∀ earlier bytes inputSeq batch, earlier ++ [.enqueue bytes (some inputSeq)] <+: ops →
        inputSystem.answer (inputSystem.run (start channelId) earlier)
          (.enqueue bytes (some inputSeq)) = .queued batch →
        batch = ⟨bytes, .acknowledged inputSeq
          (inputSystem.run (start channelId) earlier).route.current⟩) ∧
      (∀ earlier op, earlier ++ [op] <+: ops →
        inputSystem.answer (inputSystem.run (start channelId) earlier) op = .refused →
        inputSystem.run (start channelId) (earlier ++ [op]) =
          inputSystem.run (start channelId) earlier) ∧
      (inputSystem.run (start channelId) ops).lane.heldBytes =
        batchBytes (inputSystem.run (start channelId) ops).held ∧
      (inputSystem.run (start channelId) ops).lane.heldBytes ≤ keeperInputQueueMaxBytes ∧
      (inputSystem.run (start channelId) ops).held.length ≤ keeperInputQueueMaxCommands := by
  obtain ⟨-, hwithin, settled, horder, hsettled⟩ := recalls_run channelId ops
  have htake : (acceptedBatches (inputSystem.trace (start channelId) ops)).take
      (settlements (inputSystem.trace (start channelId) ops)).length = settled := by
    rw [horder, ← hsettled.length_eq, List.take_left]
  refine ⟨⟨(settlements (inputSystem.trace (start channelId) ops)).map Settlement.written, ?_, ?_⟩,
    ?_, ?_, ?_, hwithin.heldBytes, ?_, hwithin.commands_le⟩
  · exact List.flatMap_def
  · rw [List.length_map, htake, List.forall₂_map_right_iff]
    exact hsettled.imp fun _ _ h => h.written
  · rw [htake]
    exact hsettled.imp fun _ _ h => h.delivered
  · intro earlier bytes inputSeq batch _ hqueue
    exact queued_reply hqueue
  · intro earlier op _ href
    rw [Transducer.run_concat]
    exact next_of_refused href
  · rw [hwithin.heldBytes]
    exact hwithin.bytes_le

end InputSystem

end Roost.Keeper
