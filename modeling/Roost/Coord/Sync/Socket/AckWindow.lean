-- SUMMARY: The cumulative acknowledgement window of one socket.
import Roost.Base.Transducer
import Roost.Protocol.TerminalView.Record

/-!
# The acknowledgement window

The window bounds the frames a socket was sent and the client has not confirmed. A frame is
recorded under the next sequence; an acknowledgement releases every record up to its own.
A socket without flow control sequences nothing and never stalls.
-/

namespace Roost.Coord.Sync

/-- Application frames that may be sent but not yet acknowledged. -/
def maxUnackedFrames : Nat := 512

/-- Encoded bytes that may be sent but not yet acknowledged. -/
def maxUnackedBytes : Nat := 4 * 1024 * 1024

/-- How long the oldest unacknowledged frame may wait. -/
def ackTimeoutMs : Nat := 10000

/-- Why a socket was closed for backpressure. -/
inductive BackpressureReason where
  | highWater
  | timeout
  | frameLimit
  | byteLimit
  | ageLimit

/-- The window's state at the moment it closed. -/
structure WindowStats where
  unackedFrames : Nat
  unackedBytes : Nat
  oldestAgeMs : Nat

/-- One in-flight record, metadata only. -/
structure DeliveryRecord where
  seq : Nat
  encodedBytes : Nat
  sentAtMs : Nat

inductive WindowClose where
  | backpressure (reason : BackpressureReason) (stats : WindowStats)
  | invalidAck

/-- One socket's cumulative acknowledgement window. -/
structure AckWindow where
  records : List DeliveryRecord
  unackedBytes : Nat
  lastSentSeq : Nat
  highestAckSeq : Nat
  enabled : Bool

namespace AckWindow

/-- A window for a socket, with flow control on or off. -/
def new (enabled : Bool) : AckWindow where
  records := []
  unackedBytes := 0
  lastSentSeq := 0
  highestAckSeq := 0
  enabled := enabled

variable (window : AckWindow)

def nextSequence : Nat := saturatingAdd window.lastSentSeq 1

def acknowledged : Nat := window.highestAckSeq

/-- Whether one more frame fits the count and byte bounds. -/
def hasRoom (encodedBytes : Nat) : Bool :=
  !window.enabled ||
    (decide (window.records.length < maxUnackedFrames) &&
      decide (saturatingAdd window.unackedBytes encodedBytes ≤ maxUnackedBytes))

def oldestAge (nowMs : Nat) : Nat :=
  window.records.head?.elim 0 fun oldest => nowMs - oldest.sentAtMs

def stats (nowMs : Nat) : WindowStats where
  unackedFrames := window.records.length
  unackedBytes := window.unackedBytes
  oldestAgeMs := window.oldestAge nowMs

def maySend (encodedBytes nowMs : Nat) : Except WindowClose Unit :=
  if !window.enabled then .ok ()
  else if window.records.length + 1 > maxUnackedFrames then
    .error (.backpressure .frameLimit (window.stats nowMs))
  else if saturatingAdd window.unackedBytes encodedBytes > maxUnackedBytes then
    .error (.backpressure .byteLimit (window.stats nowMs))
  else if window.oldestAge nowMs ≥ ackTimeoutMs then
    .error (.backpressure .ageLimit (window.stats nowMs))
  else .ok ()

/-- Record a frame the socket accepted, under the sequence it is given. -/
def recordSent (encodedBytes nowMs : Nat) : AckWindow × Nat :=
  if !window.enabled then (window, 0)
  else
    ({ window with
        lastSentSeq := window.nextSequence
        unackedBytes := saturatingAdd window.unackedBytes encodedBytes
        records := window.records ++ [⟨window.nextSequence, encodedBytes, nowMs⟩] },
      window.nextSequence)

/-- Apply a cumulative acknowledgement. A stale one releases nothing. -/
def applyAck (ackSeq : Nat) : Except WindowClose (AckWindow × Nat) :=
  if !window.enabled then .ok (window, 0)
  else if ackSeq > window.lastSentSeq then .error .invalidAck
  else if ackSeq ≤ window.highestAckSeq then .ok (window, 0)
  else
    let released := window.records.takeWhile fun record => decide (record.seq ≤ ackSeq)
    .ok ({ window with
        unackedBytes := released.foldl (fun bytes record => bytes - record.encodedBytes)
          window.unackedBytes
        records := window.records.drop released.length
        highestAckSeq := ackSeq }, released.length)

/-- Release everything, for a socket teardown. -/
def clear : AckWindow :=
  { window with records := [], unackedBytes := 0, lastSentSeq := 0, highestAckSeq := 0 }

/-! ## Runs -/

/-- The calls a socket makes on its window. -/
inductive WindowOp where
  | recordSent (encodedBytes nowMs : Nat)
  | applyAck (ackSeq nowMs : Nat)
  | clear

def machine : Transducer AckWindow WindowOp (Option WindowClose) where
  step
    | window, .recordSent encodedBytes nowMs => ((window.recordSent encodedBytes nowMs).1, none)
    | window, .applyAck ackSeq _ =>
      match window.applyAck ackSeq with
      | .ok (window, _) => (window, none)
      | .error close => (window, some close)
    | window, .clear => (window.clear, none)

/-- A frame is recorded after the window said there is room for it. -/
def Admits : WindowOp → Prop
  | .recordSent encodedBytes _ => window.hasRoom encodedBytes = true ∨
      ∃ nowMs, window.maySend encodedBytes nowMs = .ok ()
  | _ => True

/-- A sequence is left for the next frame. -/
def Numbers : WindowOp → Prop
  | .recordSent _ _ => window.lastSentSeq < u64Max
  | _ => True

/-- The records are the sequences after the acknowledged one, and the counters are theirs. -/
structure Accounted : Prop where
  contiguous : window.records.map DeliveryRecord.seq =
    List.range' (window.highestAckSeq + 1) (window.lastSentSeq - window.highestAckSeq)
  reached : window.highestAckSeq ≤ window.lastSentSeq
  bytes : window.unackedBytes = (window.records.map DeliveryRecord.encodedBytes).sum
  frames : window.records.length ≤ maxUnackedFrames
  limit : window.unackedBytes ≤ maxUnackedBytes

variable {window} {ackSeq : Nat}

theorem new_accounted (enabled : Bool) : (new enabled).Accounted :=
  ⟨rfl, le_rfl, rfl, Nat.zero_le _, Nat.zero_le _⟩

variable {encodedBytes : Nat}

theorem hasRoom_iff (henabled : window.enabled = true) :
    window.hasRoom encodedBytes = true ↔ window.records.length < maxUnackedFrames ∧
      window.unackedBytes + encodedBytes ≤ maxUnackedBytes := by
  have hlimit : maxUnackedBytes < u64Max := by
    unfold u64Max
    decide
  simp only [hasRoom, henabled, Bool.not_true, Bool.false_or, Bool.and_eq_true, decide_eq_true_eq,
    saturatingAdd, min_le_iff]
  omega

theorem hasRoom_of_admits {nowMs : Nat}
    (h : window.Admits (.recordSent encodedBytes nowMs)) : window.hasRoom encodedBytes = true := by
  rcases h with hroom | ⟨at_, hsend⟩
  · exact hroom
  unfold maySend at hsend
  split_ifs at hsend with henabled hframes hbytes
  · rw [hasRoom, henabled, Bool.true_or]
  · rw [hasRoom, decide_eq_true (Nat.lt_of_succ_le (Nat.le_of_not_lt hframes)),
      decide_eq_true (Nat.le_of_not_lt hbytes), Bool.true_and, Bool.or_true]

theorem Accounted.recordSent (h : window.Accounted) {nowMs : Nat}
    (hroom : window.hasRoom encodedBytes = true) (hlast : window.lastSentSeq < u64Max) :
    (window.recordSent encodedBytes nowMs).1.Accounted := by
  unfold AckWindow.recordSent
  split
  · exact h
  rename_i henabled
  obtain ⟨hframes, hbytes⟩ := (hasRoom_iff (by simpa using henabled)).mp hroom
  have hnext : window.nextSequence = window.lastSentSeq + 1 := by
    rw [nextSequence, saturatingAdd, Nat.min_eq_left hlast]
  have hsum : saturatingAdd window.unackedBytes encodedBytes =
      window.unackedBytes + encodedBytes := by
    have hlimit : maxUnackedBytes < u64Max := by
      unfold u64Max
      decide
    rw [saturatingAdd]
    omega
  have hreached := h.reached
  refine ⟨?_, ?_, ?_, ?_, ?_⟩
  · dsimp only
    rw [List.map_append, h.contiguous, hnext, Nat.sub_add_comm hreached, List.range'_1_concat,
      show window.highestAckSeq + 1 + (window.lastSentSeq - window.highestAckSeq) =
        window.lastSentSeq + 1 by omega]
    rfl
  · exact hnext ▸ hreached.trans (Nat.le_succ _)
  · dsimp only
    rw [hsum, h.bytes, List.map_append, List.sum_append, List.map_singleton, List.sum_singleton]
  · rw [List.length_append]
    exact hframes
  · exact hsum ▸ hbytes

theorem released_length {records : List DeliveryRecord} {acknowledged count : Nat}
    (hseq : records.map DeliveryRecord.seq = List.range' (acknowledged + 1) count)
    (hack : acknowledged ≤ ackSeq) (hsent : ackSeq ≤ acknowledged + count) :
    (records.takeWhile fun record => decide (record.seq ≤ ackSeq)).length =
      ackSeq - acknowledged := by
  induction records generalizing acknowledged count with
  | nil =>
    have hcount : count = 0 := by simpa using congrArg List.length hseq.symm
    simp only [List.takeWhile_nil, List.length_nil]
    omega
  | cons record records ih =>
    cases count with
    | zero => cases hseq
    | succ count =>
      rw [List.map_cons, List.range'_succ] at hseq
      obtain ⟨hfirst, hrest⟩ := List.cons.inj hseq
      rw [List.takeWhile_cons, hfirst]
      split
      · rename_i hle
        have hle : acknowledged + 1 ≤ ackSeq := by simpa using hle
        rw [List.length_cons, ih hrest hle (by omega)]
        omega
      rename_i hgt
      have hgt : ¬acknowledged + 1 ≤ ackSeq := by simpa using hgt
      rw [List.length_nil]
      omega

theorem foldl_sub (records : List DeliveryRecord) (bytes : Nat) :
    records.foldl (fun bytes record => bytes - record.encodedBytes) bytes =
      bytes - (records.map DeliveryRecord.encodedBytes).sum := by
  induction records generalizing bytes with
  | nil => rfl
  | cons record records ih => rw [List.foldl_cons, ih, List.map_cons, List.sum_cons, Nat.sub_sub]

theorem Accounted.applyAck (h : window.Accounted) {next : AckWindow} {count : Nat}
    (hack : window.applyAck ackSeq = .ok (next, count)) : next.Accounted := by
  unfold AckWindow.applyAck at hack
  split_ifs at hack with henabled hsent hstale
  · cases hack
    exact h
  · cases hack
    exact h
  have hlen := released_length h.contiguous (Nat.le_of_not_le hstale)
    (by have := h.reached; omega)
  obtain ⟨rfl, -⟩ := Prod.mk.inj (Except.ok.inj hack)
  have htake : (window.records.takeWhile fun record => decide (record.seq ≤ ackSeq)) =
      window.records.take (ackSeq - window.highestAckSeq) := by
    rw [← hlen]
    exact List.prefix_iff_eq_take.mp (List.takeWhile_prefix _)
  have hsplit := congrArg List.sum (congrArg (List.map DeliveryRecord.encodedBytes)
    (List.take_append_drop (ackSeq - window.highestAckSeq) window.records))
  rw [List.map_append, List.sum_append, ← h.bytes] at hsplit
  have hbytes : (window.records.takeWhile fun record => decide (record.seq ≤ ackSeq)).foldl
      (fun bytes record => bytes - record.encodedBytes) window.unackedBytes =
        ((window.records.drop (ackSeq - window.highestAckSeq)).map
          DeliveryRecord.encodedBytes).sum := by
    rw [foldl_sub, htake]
    omega
  refine ⟨?_, Nat.le_of_not_lt hsent, ?_, ?_, ?_⟩
  · dsimp only
    rw [hlen, List.map_drop, h.contiguous, List.drop_range']
    congr 1 <;> omega
  · dsimp only
    rw [hlen, hbytes]
  · exact (List.drop_sublist _ _).length_le.trans h.frames
  · dsimp only
    rw [hbytes]
    exact le_trans (by omega) h.limit

/-- A step keeps what is outstanding accounted for. -/
theorem Accounted.step (h : window.Accounted) (op : WindowOp) (hadmits : window.Admits op)
    (hnumber : window.Numbers op) : (machine.next window op).Accounted := by
  cases op with
  | recordSent => exact h.recordSent (hasRoom_of_admits hadmits) hnumber
  | applyAck ackSeq =>
    simp only [Transducer.next, machine]
    cases hack : window.applyAck ackSeq with
    | error => exact h
    | ok => exact h.applyAck hack
  | clear => exact ⟨rfl, le_rfl, rfl, Nat.zero_le _, Nat.zero_le _⟩

/-- The window's books after every run that records what it was told to have room for. -/
theorem ack_window_exact (enabled : Bool) (ops : List WindowOp)
    (h : machine.Along (fun window op => window.Admits op ∧ window.Numbers op) (new enabled) ops) :
    (machine.run (new enabled) ops).Accounted ∧
      ∀ ackSeq nowMs, (machine.run (new enabled) ops).enabled = true →
        (ackSeq ≤ (machine.run (new enabled) ops).acknowledged →
          machine.step (machine.run (new enabled) ops) (.applyAck ackSeq nowMs) =
            (machine.run (new enabled) ops, none)) ∧
        ((machine.run (new enabled) ops).lastSentSeq < ackSeq →
          machine.step (machine.run (new enabled) ops) (.applyAck ackSeq nowMs) =
            (machine.run (new enabled) ops, some .invalidAck)) := by
  have hbooks := h.invariant (P := Accounted) (new_accounted enabled) fun _ op hbooks hop =>
    hbooks.step op hop.1 hop.2
  generalize machine.run (new enabled) ops = window at hbooks
  have hreached := hbooks.reached
  refine ⟨hbooks, fun ackSeq nowMs henabled => ⟨fun hstale => ?_, fun hsent => ?_⟩⟩
  · rw [acknowledged] at hstale
    simp only [machine, AckWindow.applyAck, henabled]
    rw [if_neg (by simp), if_neg (by omega), if_pos hstale]
  · simp only [machine, AckWindow.applyAck, henabled]
    rw [if_neg (by simp), if_pos hsent]

theorem ack_window_exact_partial :
    (machine.run (new true) [.recordSent 10 0, .recordSent 20 1, .applyAck 1 2]).Accounted :=
  (ack_window_exact true [.recordSent 10 0, .recordSent 20 1, .applyAck 1 2] ⟨⟨.inl (by decide +kernel), by unfold Numbers u64Max; decide +kernel⟩,
    ⟨.inl (by decide +kernel), by unfold Numbers u64Max; decide +kernel⟩, ⟨trivial, trivial⟩, trivial⟩).1

/-- A frame sent and acknowledged at once, again and again. -/
def rounds : Nat → List WindowOp
  | 0 => []
  | count + 1 => rounds count ++ [.recordSent 0 0, .applyAck (count + 1) 0]

theorem rounds_run {count : Nat} (h : count ≤ u64Max) :
    machine.Along Admits (new true) (rounds count) ∧ machine.run (new true) (rounds count) =
        { new true with lastSentSeq := count, highestAckSeq := count } := by
  induction count with
  | zero => exact ⟨trivial, rfl⟩
  | succ count ih =>
    obtain ⟨halong, hrun⟩ := ih (Nat.le_of_succ_le h)
    rw [rounds, Transducer.along_append, Transducer.run_append, hrun]
    refine ⟨⟨halong, .inl rfl, trivial, trivial⟩, ?_⟩
    simp [machine, Transducer.run, Transducer.next, AckWindow.recordSent, AckWindow.applyAck, new,
      nextSequence, saturatingAdd, Nat.min_eq_left h]

/-- The largest sequence is given out twice. -/
theorem last_sequence_repeats :
    ∃ ops, machine.Along Admits (new true) ops ∧ ¬(machine.run (new true) ops).Accounted := by
  obtain ⟨halong, hrun⟩ := rounds_run (le_refl u64Max)
  refine ⟨rounds u64Max ++ [.recordSent 0 0], Transducer.along_concat.mpr ⟨halong, ?_⟩, ?_⟩
  · rw [hrun]
    exact .inl rfl
  rw [Transducer.run_concat, hrun]
  intro h
  have hseq := h.contiguous
  simp [machine, Transducer.next, AckWindow.recordSent, new, nextSequence, saturatingAdd] at hseq

end AckWindow

end Roost.Coord.Sync
