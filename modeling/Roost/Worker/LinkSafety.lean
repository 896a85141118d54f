-- SUMMARY: What the link barrier guarantees over any sequence of calls.
import Roost.Worker.LinkBarrier

/-!
# Safety of the link barrier

The event in flight is the head of the queue, and only its own acknowledgement takes it out. The
link turns live only when the snapshot it chose is acknowledged with nothing queued and nothing
blocking since. The queue is in sequence order as long as the numbers it is told are fresh.
-/

namespace Roost.Worker.Link

open PumpAnswer

variable {pump : Pump}

namespace Pump

/-! ## One choice -/

/-- Everything `advance` can do. -/
inductive Advances (pump : Pump) : Pump × Action → Prop where
  | wait (stuck : pump.barrier = .replay → pump.durable ≠ [] ∨ pump.snapshotBlocked = true) :
      Advances pump (pump, .wait)
  | event {event : PendingEvent} {rest : List PendingEvent}
      (flows : pump.barrier = .live ∨ pump.barrier = .replay) (clear : pump.inFlight = none)
      (head : pump.durable = event :: rest) :
      Advances pump ({ pump with inFlight := some event.seq }, .writeDurable event.seq)
  | snapshot (replaying : pump.barrier = .replay) (empty : pump.durable = [])
      (unblocked : pump.snapshotBlocked = false) :
      Advances pump
        ({ pump with
            barrier := .snapshot
            snapshotSeq := some pump.nextSeq
            nextSeq := wrappingSucc pump.nextSeq },
          .writeSnapshot)

theorem advances (pump : Pump) : Advances pump pump.advance := by
  unfold advance
  split
  · exact .wait (by simp_all)
  · exact .wait (by simp_all)
  · exact .wait (by simp_all)
  · rename_i hlive
    split
    · rename_i hclear hhead
      exact .event (.inl hlive) hclear hhead
    · exact .wait (by simp [hlive])
  · rename_i hreplay
    split
    · rename_i hclear hhead
      exact .event (.inr hreplay) hclear hhead
    split
    · rename_i hopen
      exact .snapshot hreplay (by simpa using hopen.1) hopen.2
    rename_i hshut
    refine .wait fun _ => ?_
    rw [not_and_or] at hshut
    simpa using hshut
  · exact .wait (by simp_all)

@[simp] theorem advance_durable (pump : Pump) : pump.advance.1.durable = pump.durable := by
  cases h : pump.advance with
  | mk =>
    have hstep := pump.advances
    rw [h] at hstep
    cases hstep <;> rfl

@[simp] theorem markStale_durable (pump : Pump) : pump.markStale.durable = pump.durable := by
  unfold markStale
  split <;> rfl

@[simp] theorem markStale_inFlight (pump : Pump) : pump.markStale.inFlight = pump.inFlight := by
  unfold markStale
  split <;> rfl

/-! ## What leaves the queue -/

/-- The queue grows at its end, or loses its acknowledged head. -/
theorem durable_step (pump : Pump) (op : PumpOp) :
    (∃ added, (pump.step op).1.durable = pump.durable ++ added) ∨
      ∃ seq, op = .onEventAck seq ∧ pump.inFlight = some seq ∧
        (pump.step op).1.durable = pump.durable.tail := by
  have hkept : ∀ {next : Pump}, next.durable = pump.durable →
      ∃ added, next.durable = pump.durable ++ added := by
    intro next h
    exact ⟨[], by rw [h, List.append_nil]⟩
  cases op with
  | onOpen | onDisconnect => exact .inl (hkept rfl)
  | onHelloAck => exact .inl (hkept (by simp [step, acting, onHelloAck]))
  | enqueueDurable bytes =>
    exact .inl ⟨[⟨pump.nextSeq, bytes⟩], by simp [step, acting, enqueueDurable, push]⟩
  | enqueueDurableAt seq bytes =>
    simp only [step, enqueueDurableAt]
    split_ifs
    · exact .inl (hkept rfl)
    · exact .inl (hkept rfl)
    · exact .inl ⟨[⟨seq, bytes⟩], by simp [acting, push]⟩
  | noteDurableAppeared => exact .inl (hkept (by simp [step, acting, noteDurableAppeared]))
  | setSnapshotBlocked =>
    refine .inl (hkept ?_)
    simp only [step, acting, setSnapshotBlocked, noteDurableAppeared]
    split <;> simp
  | reassignSnapshotSequence =>
    refine .inl (hkept ?_)
    simp only [step, reassignSnapshotSequence]
    split <;> rfl
  | abandonSnapshot =>
    refine .inl (hkept ?_)
    simp only [step, abandonSnapshot]
    split <;> rfl
  | onEventAck seq =>
    simp only [step, acting, onEventAck]
    split
    · rename_i hfly
      exact .inr ⟨seq, rfl, hfly, by simp⟩
    · exact .inl (hkept rfl)
  | onSnapshotAck =>
    refine .inl (hkept ?_)
    simp only [step, acting, onSnapshotAck]
    split_ifs <;> simp

/-! ## The event in flight -/

/-- The event in flight is the head of the queue. -/
def Aimed (pump : Pump) : Prop :=
  ∀ seq, pump.inFlight = some seq → pump.durable.head?.map (·.seq) = some seq

theorem Aimed.advance (h : pump.Aimed) : pump.advance.1.Aimed := by
  cases hadv : pump.advance with
  | mk =>
    have hstep := pump.advances
    rw [hadv] at hstep
    cases hstep with
    | wait => exact h
    | event flows clear head =>
      intro seq hseq
      simp only [Option.some.injEq] at hseq
      simp [head, hseq]
    | snapshot => exact h

theorem aimed_of_clear (h : pump.inFlight = none) : pump.Aimed := by
  intro seq hseq
  rw [h] at hseq
  cases hseq

theorem Aimed.push (h : pump.Aimed) (seq : Nat) (bytes : List UInt8) :
    (pump.push seq bytes).Aimed := by
  intro flying hflying
  obtain ⟨event, rest, hdurable⟩ : ∃ event rest, pump.durable = event :: rest := by
    cases hdurable : pump.durable with
    | nil => simpa [hdurable] using h flying hflying
    | cons event rest => exact ⟨event, rest, rfl⟩
  simpa [Pump.push, hdurable] using h flying hflying

theorem Aimed.of_eq {next : Pump} (h : pump.Aimed) (hfly : next.inFlight = pump.inFlight)
    (hdurable : next.durable = pump.durable) : next.Aimed := by
  intro seq hseq
  rw [hdurable]
  exact h seq (hfly ▸ hseq)

theorem Aimed.markStale (h : pump.Aimed) : pump.markStale.Aimed := h.of_eq (by simp) (by simp)

theorem Aimed.step (h : pump.Aimed) (op : PumpOp) : (pump.step op).1.Aimed := by
  cases op with
  | onOpen | onDisconnect => exact aimed_of_clear rfl
  | onHelloAck => exact Aimed.advance (h.of_eq rfl rfl)
  | enqueueDurable => exact (h.push _ _).markStale.advance
  | enqueueDurableAt =>
    simp only [Pump.step, enqueueDurableAt]
    split_ifs
    · exact h
    · exact h
    · exact (h.push _ _).markStale.advance
  | noteDurableAppeared => exact h.markStale.advance
  | setSnapshotBlocked blocked =>
    have hmoved : Aimed { pump with snapshotBlocked := blocked } := h.of_eq rfl rfl
    simp only [Pump.step, acting, setSnapshotBlocked]
    split
    · exact hmoved.markStale.advance
    · exact hmoved.advance
    · exact hmoved
  | reassignSnapshotSequence =>
    simp only [Pump.step, reassignSnapshotSequence]
    split
    · exact h.of_eq rfl rfl
    · exact h
  | abandonSnapshot =>
    simp only [Pump.step, abandonSnapshot]
    split
    · exact h.of_eq rfl rfl
    · exact h
  | onEventAck =>
    simp only [Pump.step, acting, onEventAck]
    split
    · exact Aimed.advance (aimed_of_clear rfl)
    · exact h
  | onSnapshotAck =>
    simp only [Pump.step, acting, onSnapshotAck]
    split_ifs
    · exact Aimed.advance (h.of_eq rfl rfl)
    · exact Aimed.advance (h.of_eq rfl rfl)
    · exact h

theorem advance_release {seq : Nat} (h : pump.advance.2 = .writeDurable seq) :
    pump.inFlight = none ∧ pump.advance.1.inFlight = some seq := by
  cases hadv : pump.advance with
  | mk =>
    have hstep := pump.advances
    rw [hadv] at hstep h
    cases hstep with
    | wait => cases h
    | event flows clear =>
      cases h
      exact ⟨clear, rfl⟩
    | snapshot => cases h

/-- A row is released only while nothing is in flight. -/
theorem release_step (pump : Pump) (op : PumpOp) {seq : Nat}
    (h : (pump.step op).2 = .action (.writeDurable seq)) :
    (pump.inFlight = none ∨ ∃ flying, op = .onEventAck flying ∧ pump.inFlight = some flying) ∧
      (pump.step op).1.inFlight = some seq := by
  have hrel : ∀ {mid : Pump}, action mid.advance.2 = .action (.writeDurable seq) →
      mid.inFlight = pump.inFlight →
      pump.inFlight = none ∧ mid.advance.1.inFlight = some seq := by
    intro mid haction hsame
    obtain ⟨hclear, hfly⟩ := advance_release (action.inj haction)
    exact ⟨hsame.symm.trans hclear, hfly⟩
  cases op with
  | onOpen => cases h
  | onHelloAck => exact (hrel h rfl).imp_left .inl
  | enqueueDurable | noteDurableAppeared => exact (hrel h (markStale_inFlight _)).imp_left .inl
  | enqueueDurableAt =>
    revert h
    simp only [step, enqueueDurableAt]
    split_ifs <;> intro h
    · cases h
    · cases h
    · exact (hrel h (markStale_inFlight _)).imp_left .inl
  | setSnapshotBlocked =>
    revert h
    simp only [step, acting, setSnapshotBlocked]
    split <;> intro h
    · exact (hrel h (markStale_inFlight _)).imp_left .inl
    · exact (hrel h rfl).imp_left .inl
    · cases h
  | reassignSnapshotSequence | abandonSnapshot => cases h
  | onEventAck flying =>
    revert h
    simp only [step, acting, onEventAck]
    split <;> intro h
    · rename_i hfly
      exact ⟨.inr ⟨flying, rfl, hfly⟩, (advance_release (action.inj h)).2⟩
    · cases h
  | onSnapshotAck =>
    revert h
    simp only [step, acting, onSnapshotAck]
    split_ifs <;> intro h
    · exact (hrel h rfl).imp_left .inl
    · exact (hrel h rfl).imp_left .inl
    · cases h
  | onDisconnect => cases h

/-! ## The snapshot stage -/

/-- Nothing queued and nothing blocking. -/
def Clear (pump : Pump) : Prop := pump.durable = [] ∧ pump.snapshotBlocked = false

/-- A snapshot is outstanding, and still describes the state. -/
structure Undisturbed (pump : Pump) : Prop where
  staged : pump.barrier = .snapshot
  numbered : pump.snapshotSeq.isSome
  empty : pump.durable = []
  unblocked : pump.snapshotBlocked = false

/-- What holds between calls. An outstanding snapshot that went stale is remembered as stale, also
after a second hello acknowledgement took the barrier back to replay. -/
structure Staged (pump : Pump) : Prop where
  numbered : pump.barrier = .snapshot → pump.snapshotSeq.isSome
  outstanding : pump.snapshotSeq.isSome → pump.barrier = .snapshot ∨
    (pump.barrier = .replay ∧ pump.replayAgain = true)
  fresh : pump.barrier = .snapshot → pump.replayAgain = false → pump.Clear

/-- What suffices before a choice: a snapshot that did not go stale is replaced at once. -/
structure Settling (pump : Pump) : Prop where
  numbered : pump.barrier = .snapshot → pump.snapshotSeq.isSome
  outstanding : pump.snapshotSeq.isSome → pump.barrier = .snapshot ∨
    (pump.barrier = .replay ∧ (pump.replayAgain = true ∨ pump.Clear))
  fresh : pump.barrier = .snapshot → pump.replayAgain = false → pump.Clear

theorem Staged.settling (h : pump.Staged) : pump.Settling where
  numbered := h.numbered
  outstanding hsome := (h.outstanding hsome).imp_right fun ⟨hreplay, hagain⟩ =>
    ⟨hreplay, .inl hagain⟩
  fresh := h.fresh

theorem Settling.advance (h : pump.Settling) : pump.advance.1.Staged := by
  cases hadv : pump.advance with
  | mk =>
    have hstep := pump.advances
    rw [hadv] at hstep
    cases hstep with
    | wait stuck =>
      refine ⟨h.numbered, fun hsome => ?_, h.fresh⟩
      refine (h.outstanding hsome).imp_right fun ⟨hreplay, hkept⟩ => ⟨hreplay, ?_⟩
      rcases hkept with hagain | hclear
      · exact hagain
      · rcases stuck hreplay with hqueue | hblock
        · exact absurd hclear.1 hqueue
        · exact absurd hblock (by simp [hclear.2])
    | event flows clear head =>
      refine ⟨h.numbered, fun hsome => ?_, h.fresh⟩
      refine (h.outstanding hsome).imp_right fun ⟨hreplay, hkept⟩ => ⟨hreplay, ?_⟩
      refine hkept.resolve_right fun hclear => ?_
      exact absurd (hclear.1.symm.trans head) (by simp)
    | snapshot replaying empty unblocked =>
      exact ⟨fun _ => rfl, fun _ => .inl rfl, fun _ _ => ⟨empty, unblocked⟩⟩

theorem settling_of_unnumbered (hbarrier : pump.barrier ≠ .snapshot)
    (hseq : pump.snapshotSeq = none) : pump.Settling :=
  ⟨fun h => absurd h hbarrier, fun h => by simp [hseq] at h, fun h => absurd h hbarrier⟩

theorem Staged.markStale {next : Pump} (h : pump.Staged) (hbarrier : next.barrier = pump.barrier)
    (hseq : next.snapshotSeq = pump.snapshotSeq) (hagain : next.replayAgain = pump.replayAgain) :
    next.markStale.Settling := by
  unfold Pump.markStale
  split
  · rename_i hsnapshot
    exact ⟨fun _ => hseq ▸ h.numbered (hbarrier ▸ hsnapshot), fun _ => .inl hsnapshot,
      fun _ hfresh => absurd hfresh (by simp)⟩
  rename_i hsnapshot
  refine ⟨fun hcontra => absurd hcontra hsnapshot, fun hsome => ?_, fun hcontra => absurd hcontra hsnapshot⟩
  rcases h.outstanding (hseq ▸ hsome) with hcontra | ⟨hreplay, hstale⟩
  · exact absurd (hbarrier.trans hcontra) hsnapshot
  · exact .inr ⟨hbarrier.trans hreplay, .inl (hagain.trans hstale)⟩

theorem Clear.acknowledged (h : pump.Clear) (seq : Nat) :
    Clear { pump with inFlight := none, durable := pump.durable.tail, acked := seq } :=
  ⟨by simp [h.1], h.2⟩

theorem Staged.step (h : pump.Staged) (op : PumpOp) : (pump.step op).1.Staged := by
  have hpushed : ∀ seq bytes, (pump.push seq bytes).markStale.Settling := fun _ _ =>
    h.markStale rfl rfl rfl
  cases op with
  | onOpen =>
    refine ⟨fun hcontra => ?_, fun hcontra => ?_, fun hcontra => ?_⟩ <;>
      simp [Pump.step, acting, onOpen] at hcontra
  | onHelloAck =>
    refine Settling.advance ⟨fun hcontra => ?_, fun hsome => .inr ⟨rfl, ?_⟩, fun hcontra => ?_⟩
    · cases hcontra
    · rcases h.outstanding hsome with hsnapshot | ⟨-, hagain⟩
      · cases hagain : pump.replayAgain with
        | true => exact .inl rfl
        | false => exact .inr (h.fresh hsnapshot hagain)
      · exact .inl hagain
    · cases hcontra
  | enqueueDurable => exact (hpushed _ _).advance
  | enqueueDurableAt =>
    simp only [Pump.step, enqueueDurableAt]
    split_ifs
    · exact h
    · exact h
    · exact (hpushed _ _).advance
  | noteDurableAppeared =>
    have hmarked : pump.markStale.Settling := h.markStale rfl rfl rfl
    exact hmarked.advance
  | setSnapshotBlocked blocked =>
    have hmarked : Settling { pump with snapshotBlocked := blocked }.markStale :=
      h.markStale rfl rfl rfl
    simp only [Pump.step, acting, setSnapshotBlocked]
    split
    · exact hmarked.advance
    · refine Settling.advance ⟨h.numbered, fun hsome => ?_, fun hsnapshot hagain => ?_⟩
      · exact (h.outstanding hsome).imp_right fun ⟨hreplay, hagain⟩ => ⟨hreplay, .inl hagain⟩
      · exact ⟨(h.fresh hsnapshot hagain).1, rfl⟩
    rename_i _ _ hraised _
    refine ⟨h.numbered, h.outstanding, fun hsnapshot hagain => ?_⟩
    have hclear := h.fresh hsnapshot hagain
    exact ⟨hclear.1, Bool.eq_false_iff.mpr fun hblock => hraised hclear.2 hblock⟩
  | reassignSnapshotSequence seq =>
    simp only [Pump.step, reassignSnapshotSequence]
    split
    · rename_i hput
      exact ⟨fun _ => rfl, fun _ => .inl hput.1, h.fresh⟩
    · exact h
  | abandonSnapshot =>
    simp only [Pump.step, abandonSnapshot]
    split
    · refine ⟨fun hcontra => ?_, fun hcontra => ?_, fun hcontra => ?_⟩ <;> cases hcontra
    · exact h
  | onEventAck =>
    simp only [Pump.step, acting, onEventAck]
    split
    · refine Settling.advance ⟨h.numbered, fun hsome => ?_, fun hsnapshot hagain => ?_⟩
      · refine (h.settling.outstanding hsome).imp_right fun ⟨hreplay, hkept⟩ => ⟨hreplay, ?_⟩
        exact hkept.imp_right fun hclear => hclear.acknowledged _
      · exact (h.fresh hsnapshot hagain).acknowledged _
    · exact h
  | onSnapshotAck =>
    simp only [Pump.step, acting, onSnapshotAck]
    split_ifs
    · exact (settling_of_unnumbered (by simp) rfl).advance
    · exact (settling_of_unnumbered (by simp) rfl).advance
    · exact h
  | onDisconnect =>
    refine ⟨fun hcontra => ?_, fun hcontra => ?_, fun hcontra => ?_⟩ <;> cases hcontra

/-! ## The order of the queue -/

/-- The queue is in sequence order below the counter, and the snapshot's number is its own. -/
structure Ordered (pump : Pump) : Prop where
  increasing : (pump.durable.map (·.seq)).Pairwise (· < ·)
  below : ∀ event ∈ pump.durable, event.seq < pump.nextSeq
  drawn : ∀ seq, pump.snapshotSeq = some seq →
    seq < pump.nextSeq ∧ ∀ event ∈ pump.durable, event.seq ≠ seq

/-- The numbers a call brings are fresh: the counter does not wrap, and the sequence a snapshot is
put under is not one of a queued event. -/
def Fits (pump : Pump) (op : PumpOp) : Prop :=
  pump.nextSeq < u64Max ∧
    match op with
    | .enqueueDurableAt seq _ => seq < u64Max
    | .reassignSnapshotSequence seq => seq < u64Max ∧ ∀ event ∈ pump.durable, event.seq ≠ seq
    | _ => True

end Pump

open Pump

theorem wrappingSucc_of_lt {seq : Nat} (h : seq < u64Max) : wrappingSucc seq = seq + 1 := by
  rw [u64Max] at h
  exact Nat.mod_eq_of_lt (by omega)

theorem saturatingSucc_of_lt {seq : Nat} (h : seq < u64Max) : saturatingAdd seq 1 = seq + 1 :=
  Nat.min_eq_left h

namespace Pump

theorem Ordered.of_eq {next : Pump} (h : pump.Ordered) (hdurable : next.durable = pump.durable)
    (hnext : next.nextSeq = pump.nextSeq)
    (hseq : next.snapshotSeq = pump.snapshotSeq ∨ next.snapshotSeq = none) : next.Ordered := by
  refine ⟨hdurable ▸ h.increasing, hdurable ▸ hnext ▸ h.below, fun seq hsome => ?_⟩
  rcases hseq with hseq | hseq
  · exact hdurable ▸ hnext ▸ h.drawn seq (hseq ▸ hsome)
  · rw [hseq] at hsome
    cases hsome

section

variable (h : pump.Ordered)
include h

theorem Ordered.advance (hroom : pump.durable = [] → pump.nextSeq < u64Max) :
    pump.advance.1.Ordered := by
  cases hadv : pump.advance with
  | mk =>
    have hstep := pump.advances
    rw [hadv] at hstep
    cases hstep with
    | wait => exact h
    | event => exact h.of_eq rfl rfl (.inl rfl)
    | snapshot replaying empty =>
      refine ⟨h.increasing, fun event hevent => ?_, fun seq hseq => ?_⟩
      · simp [empty] at hevent
      · cases hseq
        simp [empty, wrappingSucc_of_lt (hroom empty)]

theorem Ordered.markStale : pump.markStale.Ordered := by
  unfold Pump.markStale
  split
  · exact h.of_eq rfl rfl (.inl rfl)
  · exact h

variable {seq : Nat}

theorem Ordered.push (hseq : seq < u64Max)
    (hfresh : pump.nextSeq ≤ seq) (bytes : List UInt8) : (pump.push seq bytes).Ordered := by
  have hbelow : ∀ event ∈ pump.durable, event.seq < seq := fun event hevent =>
    (h.below event hevent).trans_le hfresh
  refine ⟨?_, fun event hevent => ?_, fun drawn hdrawn => ?_⟩
  · simp only [Pump.push, List.map_append, List.map_cons, List.map_nil, List.pairwise_append]
    refine ⟨h.increasing, List.pairwise_singleton _ _, ?_⟩
    simpa using hbelow
  · simp only [Pump.push, List.mem_append, List.mem_singleton] at hevent
    simp only [Pump.push, wrappingSucc_of_lt hseq]
    rcases hevent with hevent | rfl
    · exact (hbelow event hevent).trans (Nat.lt_succ_self seq)
    · exact Nat.lt_succ_self seq
  have hold := h.drawn drawn hdrawn
  have hlt : drawn < seq := hold.1.trans_le hfresh
  simp only [Pump.push, wrappingSucc_of_lt hseq, List.mem_append, List.mem_singleton]
  refine ⟨hlt.trans (Nat.lt_succ_self seq), ?_⟩
  rintro event (hevent | rfl)
  · exact hold.2 event hevent
  · exact hlt.ne'

theorem Ordered.enqueued (hseq : seq < u64Max) (hfresh : pump.nextSeq ≤ seq)
    (bytes : List UInt8) : (pump.push seq bytes).markStale.advance.1.Ordered :=
  (h.push hseq hfresh bytes).markStale.advance fun hempty => absurd hempty (by simp [Pump.push])

theorem Ordered.tail (acked : Nat) : Ordered
    { pump with inFlight := none, durable := pump.durable.tail, acked := acked } := by
  have hsub : pump.durable.tail.Sublist pump.durable := List.tail_sublist _
  refine ⟨h.increasing.sublist (hsub.map _), fun event hevent => h.below event (hsub.subset hevent),
    fun seq hseq => ?_⟩
  exact ⟨(h.drawn seq hseq).1, fun event hevent => (h.drawn seq hseq).2 event (hsub.subset hevent)⟩

theorem Ordered.reassign (hseq : seq < u64Max)
    (hfresh : ∀ event ∈ pump.durable, event.seq ≠ seq) :
    (pump.reassignSnapshotSequence seq).Ordered := by
  unfold reassignSnapshotSequence
  split
  · rw [saturatingSucc_of_lt hseq]
    refine ⟨h.increasing, fun event hevent => ?_, fun drawn hdrawn => ?_⟩
    · exact (h.below event hevent).trans_le (le_max_left _ _)
    · cases hdrawn
      exact ⟨(Nat.lt_succ_self seq).trans_le (le_max_right _ _), hfresh⟩
  · exact h

theorem Ordered.abandon (hroom : pump.nextSeq < u64Max) : pump.abandonSnapshot.Ordered := by
  unfold abandonSnapshot
  split
  · refine ⟨h.increasing, fun event hevent => ?_, fun seq hseq => by cases hseq⟩
    have hbelow := h.below event hevent
    dsimp only
    split
    · rename_i drawn hdrawn
      obtain ⟨hlt, hown⟩ := h.drawn drawn hdrawn
      rw [saturatingSucc_of_lt (hlt.trans hroom)]
      split
      · rename_i hlast
        have hne := hown event hevent
        omega
      · exact hbelow
    · exact hbelow
  · exact h

theorem Ordered.step {op : PumpOp} (hfits : pump.Fits op) : (pump.step op).1.Ordered := by
  have hroom : pump.durable = [] → pump.nextSeq < u64Max := fun _ => hfits.1
  cases op with
  | onOpen | onDisconnect => exact h.of_eq rfl rfl (.inr rfl)
  | onHelloAck => exact Ordered.advance (h.of_eq rfl rfl (.inl rfl)) hroom
  | enqueueDurable bytes => exact h.enqueued hfits.1 le_rfl bytes
  | enqueueDurableAt seq bytes =>
    simp only [Pump.step, enqueueDurableAt]
    split_ifs with hzero hpassed
    · exact h
    · exact h
    · exact h.enqueued hfits.2 (Nat.le_of_not_lt hpassed) bytes
  | noteDurableAppeared =>
    refine h.markStale.advance fun hempty => ?_
    unfold Pump.markStale
    split <;> exact hfits.1
  | setSnapshotBlocked blocked =>
    have hmoved : Ordered { pump with snapshotBlocked := blocked } := h.of_eq rfl rfl (.inl rfl)
    simp only [Pump.step, acting, setSnapshotBlocked]
    split
    · refine hmoved.markStale.advance fun hempty => ?_
      unfold Pump.markStale
      split <;> exact hfits.1
    · exact hmoved.advance hroom
    · exact hmoved
  | reassignSnapshotSequence => exact h.reassign hfits.2.1 hfits.2.2
  | abandonSnapshot => exact h.abandon hfits.1
  | onEventAck =>
    simp only [Pump.step, acting, onEventAck]
    split
    · exact (h.tail _).advance fun _ => hfits.1
    · exact h
  | onSnapshotAck =>
    simp only [Pump.step, acting, onSnapshotAck]
    split_ifs
    · exact Ordered.advance (h.of_eq rfl rfl (.inr rfl)) hroom
    · exact Ordered.advance (h.of_eq rfl rfl (.inr rfl)) hroom
    · exact h

end

/-! ## From the choice of a snapshot to its acknowledgement -/

theorem advance_snapshot (h : pump.advance.1.barrier = .snapshot) :
    pump.advance.2 = .writeSnapshot ∨ pump.advance.1 = pump := by
  cases hadv : pump.advance with
  | mk next action =>
    have hstep := pump.advances
    rw [hadv] at hstep h
    cases hstep with
    | wait => exact .inr rfl
    | event flows =>
      have hsnapshot : pump.barrier = .snapshot := h
      rcases flows with hlive | hreplay
      · exact absurd (hlive.symm.trans hsnapshot) (by decide)
      · exact absurd (hreplay.symm.trans hsnapshot) (by decide)
    | snapshot => exact .inl rfl

theorem advance_live (h : pump.advance.1.barrier = .live) : pump.barrier = .live := by
  cases hadv : pump.advance with
  | mk =>
    have hstep := pump.advances
    rw [hadv] at hstep h
    cases hstep with
    | wait | event => exact h
    | snapshot => cases h

theorem markStale_barrier (pump : Pump) : pump.markStale.barrier = pump.barrier := by
  unfold markStale
  split <;> rfl

theorem markStale_advance_fresh (hstage : pump.markStale.advance.1.barrier = .snapshot)
    (hfresh : pump.markStale.advance.1.replayAgain = false) :
    pump.markStale.advance.2 = .writeSnapshot := by
  refine (advance_snapshot hstage).resolve_right fun hsame => ?_
  rw [hsame] at hstage hfresh
  rw [markStale_barrier] at hstage
  simp [markStale, hstage] at hfresh

/-- A link in its snapshot stage just chose the snapshot or waited for it. -/
theorem snapshot_step (pump : Pump) (op : PumpOp) (hstage : (pump.step op).1.barrier = .snapshot)
    (hfresh : (pump.step op).1.replayAgain = false) : (pump.step op).2 = .action .writeSnapshot ∨
      (pump.barrier = .snapshot ∧ pump.replayAgain = false ∧ op ≠ .onOpen ∧
        op ≠ .onDisconnect) := by
  have hchosen : ∀ {mid : Pump}, mid.advance.1.barrier = .snapshot →
      mid.advance.1.replayAgain = false →
      (action mid.advance.2 = .action .writeSnapshot) ∨
        (mid.barrier = .snapshot ∧ mid.replayAgain = false) := by
    intro mid hbarrier hagain
    rcases advance_snapshot hbarrier with hwrite | hsame
    · exact .inl (congrArg _ hwrite)
    · rw [hsame] at hbarrier hagain
      exact .inr ⟨hbarrier, hagain⟩
  cases op with
  | onOpen | onDisconnect => cases hstage
  | onHelloAck =>
    refine (hchosen hstage hfresh).imp_right fun ⟨hcontra, _⟩ => ?_
    cases hcontra
  | enqueueDurable | noteDurableAppeared =>
    exact .inl (congrArg _ (markStale_advance_fresh hstage hfresh))
  | enqueueDurableAt =>
    simp only [step, enqueueDurableAt] at hstage hfresh ⊢
    split_ifs at hstage hfresh ⊢ with hzero hpassed
    · exact .inr ⟨hstage, hfresh, by simp, by simp⟩
    · exact .inr ⟨hstage, hfresh, by simp, by simp⟩
    · exact .inl (congrArg _ (markStale_advance_fresh hstage hfresh))
  | setSnapshotBlocked =>
    revert hstage hfresh
    simp only [step, acting, setSnapshotBlocked]
    split <;> intro hstage hfresh
    · exact .inl (congrArg _ (markStale_advance_fresh hstage hfresh))
    · exact (hchosen hstage hfresh).imp_right fun h => ⟨h.1, h.2, by simp, by simp⟩
    · exact .inr ⟨hstage, hfresh, by simp, by simp⟩
  | reassignSnapshotSequence =>
    simp only [step, reassignSnapshotSequence] at hstage hfresh
    refine .inr ⟨?_, ?_, by simp, by simp⟩
    · split at hstage <;> exact hstage
    · split at hfresh <;> exact hfresh
  | abandonSnapshot =>
    simp only [step, abandonSnapshot] at hstage
    split at hstage
    · cases hstage
    · rename_i hcontra
      exact absurd hstage hcontra
  | onEventAck seq =>
    simp only [step, acting, onEventAck] at hstage hfresh ⊢
    split at hstage
    · rename_i hfly
      rw [if_pos hfly] at hfresh ⊢
      exact (hchosen hstage hfresh).imp_right fun h => ⟨h.1, h.2, by simp, by simp⟩
    · rename_i hfly
      rw [if_neg hfly] at hfresh
      exact .inr ⟨hstage, hfresh, by simp, by simp⟩
  | onSnapshotAck =>
    simp only [step, acting, onSnapshotAck] at hstage hfresh ⊢
    split_ifs at hstage hfresh ⊢
    · refine (hchosen hstage hfresh).imp_right fun ⟨hcontra, _⟩ => ?_
      cases hcontra
    · refine (hchosen hstage hfresh).imp_right fun ⟨hcontra, _⟩ => ?_
      cases hcontra
    · exact .inr ⟨hstage, hfresh, by simp, by simp⟩

/-- A link turns live on its own snapshot's acknowledgement. -/
theorem live_step (h : pump.Staged) (op : PumpOp) (hlive : (pump.step op).1.barrier = .live)
    (hpre : pump.barrier ≠ .live) :
    ∃ seq, op = .onSnapshotAck seq ∧ pump.snapshotSeq = some seq ∧ pump.barrier = .snapshot ∧
      pump.replayAgain = false := by
  have hmarked : ∀ {mid : Pump}, mid.markStale.advance.1.barrier = .live → mid.barrier = .live :=
    fun hcontra => (markStale_barrier _).symm.trans (advance_live hcontra)
  cases op with
  | onOpen | onDisconnect => cases hlive
  | onHelloAck => exact absurd (advance_live hlive) (by simp)
  | enqueueDurable | noteDurableAppeared => exact absurd (hmarked hlive) hpre
  | enqueueDurableAt =>
    simp only [step, enqueueDurableAt] at hlive
    split_ifs at hlive
    · exact absurd hlive hpre
    · exact absurd hlive hpre
    · exact absurd (hmarked hlive) hpre
  | setSnapshotBlocked =>
    simp only [step, acting, setSnapshotBlocked] at hlive
    split at hlive
    · exact absurd (hmarked hlive) hpre
    · exact absurd (advance_live hlive) hpre
    · exact absurd hlive hpre
  | reassignSnapshotSequence =>
    simp only [step, reassignSnapshotSequence] at hlive
    split at hlive <;> exact absurd hlive hpre
  | abandonSnapshot =>
    simp only [step, abandonSnapshot] at hlive
    split at hlive
    · cases hlive
    · exact absurd hlive hpre
  | onEventAck =>
    simp only [step, acting, onEventAck] at hlive
    split at hlive
    · exact absurd (advance_live hlive) hpre
    · exact absurd hlive hpre
  | onSnapshotAck seq =>
    simp only [step, acting, onSnapshotAck] at hlive
    split_ifs at hlive with hseq hagain
    · exact absurd (advance_live hlive) (by simp)
    · have hfresh : pump.replayAgain = false := by simpa using hagain
      refine ⟨seq, rfl, hseq, ?_, hfresh⟩
      refine (h.outstanding (by simp [hseq])).resolve_right fun hstale => ?_
      exact absurd (hstale.2.symm.trans hfresh) (by simp)
    · exact absurd hlive hpre

end Pump

section Runs

variable (ops : List PumpOp)

def after : Pump := pumpCalls.run new ops

/-- Some call of the connection chose the snapshot, and nothing came in its way since. -/
def ChoseSnapshot : Prop :=
  ∃ early chosen since, ops = early ++ chosen :: since ∧
    pumpCalls.answer (after early) chosen = .action .writeSnapshot ∧
    (∀ op ∈ since, op ≠ .onOpen ∧ op ≠ .onDisconnect) ∧
    ∀ mid, mid <+: since → (after (early ++ chosen :: mid)).Undisturbed

theorem staged_after : (after ops).Staged := by
  refine pumpCalls.invariant (P := Pump.Staged) ?_ (fun _ op h => h.step op) ops
  exact ⟨by simp [new], by simp [new], by simp [new]⟩

theorem aimed_after : (after ops).Aimed :=
  pumpCalls.invariant (P := Pump.Aimed) (aimed_of_clear rfl) (fun _ op h => h.step op) ops

theorem ordered_after {ops : List PumpOp} (h : pumpCalls.Along Pump.Fits new ops) :
    (after ops).Ordered := by
  have hnew : new.Ordered :=
    ⟨List.Pairwise.nil, fun _ hevent => absurd hevent List.not_mem_nil, fun _ h => by cases h⟩
  refine h.invariant (P := Pump.Ordered) hnew fun pump op hord hfits => ?_
  exact hord.step hfits

theorem chose_of_fresh (hstage : (after ops).barrier = .snapshot)
    (hfresh : (after ops).replayAgain = false) : ChoseSnapshot ops := by
  -- From the right: the last call chose the snapshot, or let an earlier choice stand.
  induction ops using List.reverseRecOn with
  | nil => cases hstage
  | append_singleton ops op ih =>
    have hset := staged_after (ops ++ [op])
    have hundisturbed : (after (ops ++ [op])).Undisturbed :=
      ⟨hstage, hset.numbered hstage, (hset.fresh hstage hfresh).1, (hset.fresh hstage hfresh).2⟩
    have hrun : after (ops ++ [op]) = ((after ops).step op).1 := pumpCalls.run_concat _ _ _
    rw [hrun] at hstage hfresh
    rcases snapshot_step _ op hstage hfresh with hwrite | ⟨hpre, hagain, hopen, hend⟩
    · refine ⟨ops, op, [], rfl, hwrite, by simp, fun mid hmid => ?_⟩
      rw [List.prefix_nil.mp hmid]
      exact hundisturbed
    obtain ⟨early, chosen, since, rfl, hanswer, hconn, hquiet⟩ := ih hpre hagain
    refine ⟨early, chosen, since ++ [op], by simp, hanswer, ?_, fun mid hmid => ?_⟩
    · simp only [List.mem_append, List.mem_singleton]
      rintro other (hother | rfl)
      · exact hconn other hother
      · exact ⟨hopen, hend⟩
    · rcases List.prefix_concat_iff.mp hmid with rfl | hearlier
      · simpa using hundisturbed
      · exact hquiet mid hearlier

/-- The link barrier is safe. In every run, whatever numbers the calls bring: the one event in
flight is the head of the queue, and another is released only once none is in flight or by its
acknowledgement; a call only appends to the queue, or takes the head out when it acknowledges the
very event in flight; and the link turns live only on the acknowledgement of the
outstanding snapshot, which a call of this connection chose with nothing queued and nothing
blocking from then on. Along the runs whose numbers are fresh the queue is strictly increasing. -/
theorem link_barrier_safety : (∀ seq, (after ops).inFlight = some seq →
      (after ops).durable.head?.map (·.seq) = some seq) ∧
    (∀ op seq, pumpCalls.answer (after ops) op = .action (.writeDurable seq) →
      ((after ops).inFlight = none ∨
        ∃ flying, op = .onEventAck flying ∧ (after ops).inFlight = some flying) ∧
      (after (ops ++ [op])).inFlight = some seq) ∧
    (pumpCalls.Along Pump.Fits new ops → ((after ops).durable.map (·.seq)).Pairwise (· < ·)) ∧
    (∀ op, (∃ added, (after (ops ++ [op])).durable = (after ops).durable ++ added) ∨
      ∃ seq event rest, op = .onEventAck seq ∧ (after ops).inFlight = some seq ∧
        (after ops).durable = event :: rest ∧ event.seq = seq ∧
        (after (ops ++ [op])).durable = rest) ∧
    ∀ op, (after (ops ++ [op])).barrier = .live → (after ops).barrier ≠ .live →
      ∃ seq, op = .onSnapshotAck seq ∧ (after ops).snapshotSeq = some seq ∧ ChoseSnapshot ops := by
  have hrun : ∀ op, after (ops ++ [op]) = ((after ops).step op).1 := fun op =>
    pumpCalls.run_concat _ _ _
  refine ⟨aimed_after ops, fun op seq h => ?_, fun hfits => (ordered_after hfits).increasing,
    fun op => ?_, fun op hlive hpre => ?_⟩
  · rw [hrun]
    exact release_step (after ops) op h
  · rw [hrun]
    refine (durable_step (after ops) op).imp_right ?_
    rintro ⟨seq, rfl, hfly, hrest⟩
    have hhead := aimed_after ops seq hfly
    cases hdurable : (after ops).durable with
    | nil =>
      rw [hdurable] at hhead
      cases hhead
    | cons event rest =>
      rw [hdurable] at hhead hrest
      exact ⟨seq, event, rest, rfl, hfly, rfl, Option.some.inj hhead, hrest⟩
  · rw [hrun] at hlive
    obtain ⟨seq, rfl, hseq, hstage, hfresh⟩ :=
      live_step (staged_after ops) op hlive hpre
    exact ⟨seq, rfl, hseq, chose_of_fresh ops hstage hfresh⟩

/-- A snapshot put under a queued event's sequence and then abandoned gives that sequence back, and
the next event is queued under it again. -/
theorem queue_repeats_reassigned :
    ¬ ((after [.onOpen, .onHelloAck, .enqueueDurable [], .reassignSnapshotSequence 2,
      .abandonSnapshot, .enqueueDurable []]).durable.map (·.seq)).Pairwise (· < ·) := by
  decide +kernel

end Runs

end Roost.Worker.Link
