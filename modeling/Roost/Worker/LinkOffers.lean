-- SUMMARY: Which rows the barrier takes, and the mirror of its queue.
import Roost.Worker.JournalSequences
import Roost.Worker.LinkLoop
import Roost.Worker.LinkSafety

/-!
# Offering rows

The barrier draws a number for the snapshot before the outbox does. While that draw stands, no row
may carry it; where the snapshot stage ends without handing it back, the row that does is refused,
and the mirror keeps what the barrier does not hold. As long as every draw is handed back or was
passed, the barrier takes every row, and the mirror is the barrier's queue.
-/

namespace Roost.Worker.Link

open Pump

variable {link next : LinkLoop} {pump : Pump} {bound : Nat}

theorem Pump.Aimed.head {seq : Nat} (h : pump.Aimed) (hfly : pump.inFlight = some seq) :
    ∃ event rest, pump.durable = event :: rest ∧ event.seq = seq := by
  have hhead := h seq hfly
  cases hdurable : pump.durable with
  | nil => simp [hdurable] at hhead
  | cons event rest =>
    rw [hdurable] at hhead
    exact ⟨event, rest, rfl, Option.some.inj hhead⟩

namespace LinkLoop

/-! ## Numbers left free -/

/-- No number below the bound is still to be offered: the outbox is past it, and so is every row
not yet offered. -/
def ClearsFrom (link : LinkLoop) (bound : Nat) : Prop :=
  bound ≤ link.journal.upcoming ∧
    ∀ seq ∈ link.journal.file.events.keys, link.durableOfferedThrough < seq → bound ≤ seq
  deriving Decidable

/-- A call that ends the snapshot stage and does not hand the barrier's draw back: the link drops,
a second hello is acknowledged, the provider fails, or the draw itself is acknowledged. -/
def dropsDraw (link : LinkLoop) : LinkOp → Bool
  | .detachLink | .helloAcknowledged _ => true
  | .authoriseSnapshot (.error _) _ _ => !link.snapshotHeld
  | .eventAcknowledged clientSeq =>
    decide (link.pump.inFlight ≠ some clientSeq ∧ link.pump.snapshotSeq = some clientSeq)
  | _ => false

/-- The draw of a snapshot that was not numbered is dropped only where no row is to carry it. -/
def KeepsDraw (link : LinkLoop) (op : LinkOp) : Prop :=
  link.snapshotWanted = true → link.pump.barrier = .snapshot → link.dropsDraw op = true →
    link.ClearsFrom link.pump.nextSeq
  deriving Decidable

/-- The barrier's next number, once a draw that still stands is handed back. -/
def floor (link : LinkLoop) : Nat := link.reopenReplayBeforeUnsentSnapshot.pump.nextSeq

theorem floor_eq (h : link.snapshotWanted = false ∨ link.pump.barrier ≠ .snapshot) :
    link.floor = link.pump.nextSeq := by
  unfold floor reopenReplayBeforeUnsentSnapshot
  rw [if_neg (by rcases h with h | h <;> simp [h])]

theorem nextSeq_le_floor (link : LinkLoop) : link.pump.nextSeq ≤ link.floor + 1 := by
  unfold floor reopenReplayBeforeUnsentSnapshot
  split
  · rename_i hstage
    dsimp only [abandonSnapshot]
    rw [if_pos hstage.2]
    split
    · split
      · rename_i hlast
        rw [← hlast]
        exact min_le_left _ _
      · exact Nat.le_succ _
    · exact Nat.le_succ _
  · exact Nat.le_succ _

theorem ClearsFrom.onwards (h : link.ClearsFrom bound) {drawn : Option Nat}
    (hjournal : Journal.Onwards link.journal next.journal drawn)
    (hoff : next.durableOfferedThrough = link.durableOfferedThrough) : next.ClearsFrom bound := by
  refine ⟨h.1.trans hjournal.onwards, fun seq hseq hunoffered => ?_⟩
  rcases hjournal.keys seq hseq with hstored | hnew
  · exact h.2 seq hstored (hoff ▸ hunoffered)
  · exact h.1.trans hnew

theorem ClearsFrom.congr (h : link.ClearsFrom bound) (hjournal : next.journal = link.journal)
    (hoff : next.durableOfferedThrough = link.durableOfferedThrough) : next.ClearsFrom bound := by
  unfold ClearsFrom
  rw [hjournal, hoff]
  exact h

/-! ## The invariant -/

/-- What holds between calls: the mirror is the barrier's queue, and the barrier is behind every
number that is still to be offered. -/
structure Sound (link : LinkLoop) : Prop where
  numbered : link.journal.Numbered
  aimed : link.pump.Aimed
  mirrored : link.durable.map (·.seq) = link.pump.durable.map fun event => some event.seq
  counted : link.durableBytes = (link.durable.map (·.bytes.length)).sum
  clear : link.ClearsFrom link.floor

/-- Nothing the durable path reads has changed. -/
structure SameDurable (link next : LinkLoop) : Prop where
  journal : next.journal = link.journal
  pump : next.pump = link.pump
  durable : next.durable = link.durable
  durableBytes : next.durableBytes = link.durableBytes
  offeredThrough : next.durableOfferedThrough = link.durableOfferedThrough
  wanted : next.snapshotWanted = link.snapshotWanted

theorem floor_congr (hbarrier : next.pump.barrier = link.pump.barrier)
    (hnext : next.pump.nextSeq = link.pump.nextSeq)
    (hdrawn : next.pump.snapshotSeq = link.pump.snapshotSeq)
    (hwanted : next.snapshotWanted = link.snapshotWanted) : next.floor = link.floor := by
  simp only [floor, reopenReplayBeforeUnsentSnapshot, hbarrier, hwanted]
  split
  · rename_i hstage
    simp [abandonSnapshot, hbarrier, hdrawn, hnext, hstage.2]
  · exact hnext

theorem SameDurable.floor (h : SameDurable link next) : next.floor = link.floor :=
  floor_congr (by rw [h.pump]) (by rw [h.pump]) (by rw [h.pump]) h.wanted

theorem Sound.frame (h : link.Sound) (hsame : SameDurable link next) : next.Sound where
  numbered := hsame.journal ▸ h.numbered
  aimed := hsame.pump ▸ h.aimed
  mirrored := by rw [hsame.durable, hsame.pump]; exact h.mirrored
  counted := by rw [hsame.durableBytes, hsame.durable]; exact h.counted
  clear := by rw [hsame.floor]; exact h.clear.congr hsame.journal hsame.offeredThrough

variable {journal : Journal} {seq : Nat}

theorem upcoming_bounded (h : journal.Numbered) : journal.upcoming ≤ maxSequence + 1 :=
  h.upcoming_le.trans (Nat.succ_le_succ h.bounded)

theorem Sound.nextSeq_lt (h : link.Sound) : link.pump.nextSeq < u64Max := by
  have hfloor := link.nextSeq_le_floor
  have hupcoming := h.clear.1.trans (upcoming_bounded h.numbered)
  have hroom : maxSequence + 2 < u64Max := by decide +kernel
  omega

theorem Sound.pumped (h : Sound { link with pump := pump }) : (link.pumped pump.advance).Sound := by
  have haimed := Pump.Aimed.advance h.aimed
  have hlt : pump.nextSeq < u64Max := h.nextSeq_lt
  have hclear : pump.barrier ≠ .snapshot → { link with pump := pump }.ClearsFrom pump.nextSeq := by
    intro hbarrier
    have hfloor : { link with pump := pump }.floor = pump.nextSeq := floor_eq (.inr hbarrier)
    exact hfloor ▸ h.clear
  cases hadv : pump.advance with
  | mk =>
    have hstep := pump.advances
    rw [hadv] at hstep haimed
    cases hstep with
    | wait => exact h
    | @event event rest flows clear head =>
      have hbarrier : pump.barrier ≠ .snapshot := by
        rcases flows with hlive | hreplay
        · simp [hlive]
        · simp [hreplay]
      have hmirrors := h.mirrored
      cases hdurable : link.durable with
      | nil => simp [hdurable, head] at hmirrors
      | cons =>
        simp only [hdurable, head, List.map_cons, List.cons.injEq] at hmirrors
        have hcount := h.counted
        simp only [hdurable, List.map_cons] at hcount
        simp only [LinkLoop.pumped, applyTo, hdurable]
        refine ⟨h.numbered, haimed, ?_, ?_, ?_⟩
        · simp only [head, List.map_cons, hmirrors.2]
        · simpa only [List.map_cons] using hcount
        · rw [floor_eq (.inr hbarrier)]
          exact (hclear hbarrier).congr rfl rfl
    | snapshot replaying =>
      have hbarrier : pump.barrier ≠ .snapshot := by simp [replaying]
      refine ⟨h.numbered, haimed, h.mirrored, h.counted, ?_⟩
      -- The new draw stands until it is numbered, so it counts as handed back.
      simp only [LinkLoop.pumped, applyTo, floor, reopenReplayBeforeUnsentSnapshot,
        abandonSnapshot, and_self, if_true, saturatingSucc_of_lt hlt,
        wrappingSucc_of_lt hlt]
      exact (hclear hbarrier).congr rfl rfl

section

variable (h : link.Sound)
include h

theorem Sound.turned (hclear : link.ClearsFrom link.pump.nextSeq) (haimed : pump.Aimed)
    (hdurable : pump.durable = link.pump.durable) (hnext : pump.nextSeq = link.pump.nextSeq)
    (hbarrier : pump.barrier ≠ .snapshot ∨ link.snapshotWanted = false) :
    Sound { link with pump := pump } := by
  refine ⟨h.numbered, haimed, hdurable ▸ h.mirrored, h.counted, ?_⟩
  rw [floor_eq hbarrier.symm]
  exact hnext ▸ hclear.congr rfl rfl

theorem Sound.clear_of (op : LinkOp) (hkeeps : link.KeepsDraw op)
    (hdrops : link.dropsDraw op = true) : link.ClearsFrom link.pump.nextSeq := by
  by_cases hstands : link.snapshotWanted = true ∧ link.pump.barrier = .snapshot
  · exact hkeeps hstands.1 hstands.2 hdrops
  have hfloor : link.floor = link.pump.nextSeq := by
    refine floor_eq ?_
    rw [not_and_or, Bool.not_eq_true] at hstands
    exact hstands
  exact hfloor ▸ h.clear

/-! ## Every call -/

theorem Sound.ofJournal {drawn : Option Nat} (hjournal : Journal.Onwards link.journal journal drawn) :
    Sound { link with journal := journal } := by
  have hfloor : { link with journal := journal }.floor = link.floor :=
    floor_congr rfl rfl rfl rfl
  refine ⟨hjournal.numbered, h.aimed, h.mirrored, h.counted, ?_⟩
  rw [hfloor]
  exact h.clear.onwards hjournal rfl

theorem Sound.reopened : link.reopenReplayBeforeUnsentSnapshot.Sound := by
  have hclear := h.clear
  unfold floor at hclear
  unfold reopenReplayBeforeUnsentSnapshot at hclear ⊢
  split
  · rename_i hstage
    rw [if_pos hstage] at hclear
    refine ⟨h.numbered, ?_, ?_, h.counted, ?_⟩
    · exact h.aimed.step .abandonSnapshot
    · simpa [abandonSnapshot, hstage.2] using h.mirrored
    · rw [floor_eq (.inl rfl)]
      exact hclear.congr rfl rfl
  · exact h

theorem reopened_clear : link.reopenReplayBeforeUnsentSnapshot.ClearsFrom
      link.reopenReplayBeforeUnsentSnapshot.pump.nextSeq := by
  refine h.clear.congr ?_ ?_
  · unfold reopenReplayBeforeUnsentSnapshot
    split <;> rfl
  · unfold reopenReplayBeforeUnsentSnapshot
    split <;> rfl

theorem Sound.marked : Sound { link with pump := link.pump.markStale } := by
  have hfloor : { link with pump := link.pump.markStale }.floor = link.floor := by
    unfold markStale
    split
    · exact floor_congr rfl rfl rfl rfl
    · rfl
  refine ⟨h.numbered, h.aimed.markStale, ?_, h.counted, ?_⟩
  · rw [markStale_durable]
    exact h.mirrored
  · rw [hfloor]
    exact h.clear.congr rfl rfl

theorem Sound.noteDurableAppeared : link.noteDurableAppeared.Sound :=
  h.marked.pumped

end

theorem enqueueDurableAt_cases (hclear : link.ClearsFrom link.pump.nextSeq)
    (hstored : seq ∈ link.journal.file.events.keys) (hunoffered : link.durableOfferedThrough < seq)
    (bytes : List UInt8) :
    (∃ refusal, link.enqueueDurableAt seq bytes = (link, some (.mirror refusal))) ∨
      link.enqueueDurableAt seq bytes = (LinkLoop.pumped { link with
        durable := link.durable ++ [⟨bytes, some seq⟩]
        durableBytes := link.durableBytes + bytes.length
        durableOfferedThrough := max link.durableOfferedThrough seq }
        (link.pump.push seq bytes).markStale.advance, none) := by
  unfold LinkLoop.enqueueDurableAt
  split
  · exact .inl ⟨_, rfl⟩
  have hpos : seq ≠ 0 := Nat.ne_zero_of_lt hunoffered
  have hpassed : ¬ seq < link.pump.nextSeq := Nat.not_lt.mpr (hclear.2 seq hstored hunoffered)
  have htaken : link.pump.enqueueDurableAt seq bytes =
      .ok (link.pump.push seq bytes).markStale.advance := by
    unfold Pump.enqueueDurableAt
    rw [if_neg hpos, if_neg hpassed]
  rw [htaken]
  exact .inr rfl

theorem Sound.enqueued (h : link.Sound)
    (hstands : link.snapshotWanted = false ∨ link.pump.barrier ≠ .snapshot)
    (hstored : seq ∈ link.journal.file.events.keys) (bytes : List UInt8) : Sound { link with
      pump := (link.pump.push seq bytes).markStale
      durable := link.durable ++ [⟨bytes, some seq⟩]
      durableBytes := link.durableBytes + bytes.length
      durableOfferedThrough := max link.durableOfferedThrough seq } := by
  have hseq : seq < u64Max := by
    have hbounded := (h.numbered.passed seq hstored).trans_le (upcoming_bounded h.numbered)
    have hroom : maxSequence + 2 < u64Max := by decide +kernel
    omega
  have hpushed : Sound { link with
      pump := link.pump.push seq bytes
      durable := link.durable ++ [⟨bytes, some seq⟩]
      durableBytes := link.durableBytes + bytes.length
      durableOfferedThrough := max link.durableOfferedThrough seq } := by
    refine ⟨h.numbered, h.aimed.push _ _, ?_, ?_, ?_⟩
    · simp [push, h.mirrored]
    · simp [h.counted]
    rw [floor_eq (by exact hstands)]
    refine ⟨?_, fun other hother hbeyond => ?_⟩
    · simp only [push, wrappingSucc_of_lt hseq]
      exact h.numbered.passed seq hstored
    · simp only [push, wrappingSucc_of_lt hseq]
      exact (le_max_right _ _).trans_lt hbeyond
  exact hpushed.marked

theorem Sound.enqueueDurableAt (h : link.Sound) (hclear : link.ClearsFrom link.pump.nextSeq)
    (hstands : link.snapshotWanted = false ∨ link.pump.barrier ≠ .snapshot)
    (hstored : seq ∈ link.journal.file.events.keys) (hunoffered : link.durableOfferedThrough < seq)
    (bytes : List UInt8) : (link.enqueueDurableAt seq bytes).1.Sound ∧
      ∀ reason, (link.enqueueDurableAt seq bytes).2 ≠ some (.unusableSequence reason) := by
  rcases enqueueDurableAt_cases hclear hstored hunoffered bytes with ⟨refusal, hres⟩ | hres
  · rw [hres]
    exact ⟨h, by simp⟩
  · rw [hres]
    exact ⟨Sound.pumped (h.enqueued hstands hstored bytes), by simp⟩

theorem reopened_durable (link : LinkLoop) :
    link.reopenReplayBeforeUnsentSnapshot.journal = link.journal ∧
      link.reopenReplayBeforeUnsentSnapshot.durableOfferedThrough = link.durableOfferedThrough ∧
      (link.reopenReplayBeforeUnsentSnapshot.snapshotWanted = false ∨
        link.reopenReplayBeforeUnsentSnapshot.pump.barrier ≠ .snapshot) := by
  unfold reopenReplayBeforeUnsentSnapshot
  split
  · exact ⟨rfl, rfl, .inl rfl⟩
  · rename_i hstage
    rw [not_and_or, Bool.not_eq_true] at hstage
    exact ⟨rfl, rfl, hstage⟩

variable (encode : JournalEvent → Nat → Except String (List UInt8))

@[simp] theorem applyTo_journal (link : LinkLoop) (action : Action) :
    (link.applyTo action).journal = link.journal := by
  unfold applyTo
  split
  · split <;> rfl
  all_goals rfl

theorem offerRow_journal (link : LinkLoop) (row : PendingRow) :
    (link.offerRow encode row).1.journal = link.journal := by
  unfold offerRow LinkLoop.enqueueDurableAt
  split
  · rfl
  split
  · rfl
  · split
    · rfl
    · exact applyTo_journal _ _

section

variable (h : link.Sound)
include h

theorem Sound.offerNewRows {rows : List PendingRow}
    (hrows : ∀ row ∈ rows, row.clientSeq ∈ link.journal.file.events.keys) :
    (link.offerNewRows encode rows).1.Sound ∧ ∀ offer ∈ (link.offerNewRows encode rows).2, ∀ reason,
        offer.refusal ≠ some (.unusableSequence reason) := by
  induction rows generalizing link with
  | nil => exact ⟨h, fun offer hoffer => absurd hoffer List.not_mem_nil⟩
  | cons row rows ih =>
    have hlater : ∀ other ∈ rows, other.clientSeq ∈ link.journal.file.events.keys :=
      fun other hother => hrows other (List.mem_cons_of_mem _ hother)
    unfold LinkLoop.offerNewRows
    split
    · exact ih h hlater
    rename_i hunoffered
    obtain ⟨hjournal, hoff, hstands⟩ := link.reopened_durable
    have hoffer : (link.reopenReplayBeforeUnsentSnapshot.offerRow encode row).1.Sound ∧
        ∀ reason, (link.reopenReplayBeforeUnsentSnapshot.offerRow encode row).2 ≠
          some (.unusableSequence reason) := by
      unfold offerRow
      split
      · exact ⟨h.reopened, fun reason hcontra => by cases hcontra⟩
      · refine h.reopened.enqueueDurableAt (reopened_clear h) hstands ?_ ?_ _
        · exact hjournal ▸ hrows row List.mem_cons_self
        · exact hoff ▸ Nat.lt_of_not_le hunoffered
    have hkept := link.reopenReplayBeforeUnsentSnapshot.offerRow_journal encode row
    split
    · rename_i hres
      rw [hres] at hoffer hkept
      obtain ⟨hsound, hnone⟩ := ih hoffer.1
        (fun other hother => by rw [hkept, hjournal]; exact hlater other hother)
      refine ⟨hsound, fun offer hmem reason => ?_⟩
      rcases List.mem_cons.mp hmem with rfl | hmem
      · simp
      · exact hnone offer hmem reason
    · rename_i hres
      rw [hres] at hoffer
      refine ⟨hoffer.1.frame ⟨rfl, rfl, rfl, rfl, rfl, rfl⟩, fun offer hmem reason => ?_⟩
      rw [List.mem_singleton.mp hmem]
      exact hoffer.2 reason

theorem Sound.syncDurableRows (readable : Bool) : (link.syncDurableRows encode readable).1.Sound ∧
      ∀ offer ∈ (link.syncDurableRows encode readable).2, ∀ reason,
        offer.refusal ≠ some (.unusableSequence reason) := by
  have hframe : ∀ changed resync, Sound { link with
      storeChanged := changed
      durableResync := resync } :=
    fun _ _ => h.frame ⟨rfl, rfl, rfl, rfl, rfl, rfl⟩
  unfold LinkLoop.syncDurableRows
  dsimp only
  split
  · split
    · refine (hframe false false).offerNewRows encode fun row hrow => ?_
      obtain ⟨_, hentry, rfl⟩ := List.mem_map.mp hrow
      exact List.mem_map_of_mem hentry
    · exact ⟨hframe _ _, fun offer hoffer => absurd hoffer List.not_mem_nil⟩
  · exact ⟨hframe _ _, fun offer hoffer => absurd hoffer List.not_mem_nil⟩

theorem Sound.setBlocked (blocked : Bool) :
    Sound { link with pump := { link.pump with snapshotBlocked := blocked } } := by
  have hfloor : { link with pump := { link.pump with snapshotBlocked := blocked } }.floor =
      link.floor := floor_congr rfl rfl rfl rfl
  refine ⟨h.numbered, h.aimed.of_eq rfl rfl, h.mirrored, h.counted, ?_⟩
  rw [hfloor]
  exact h.clear.congr rfl rfl

theorem Sound.refreshSnapshotBlocking (now : Int) (readable : Bool) :
    (link.refreshSnapshotBlocking now readable).Sound := by
  have hset : ∀ {link : LinkLoop} (blocked : Bool), link.Sound →
      (link.pumped (link.pump.setSnapshotBlocked blocked)).Sound := by
    intro link blocked hlink
    have hmoved := hlink.setBlocked blocked
    unfold setSnapshotBlocked
    split
    · exact Sound.pumped hmoved.marked
    · exact Sound.pumped hmoved
    · exact hmoved
  unfold LinkLoop.refreshSnapshotBlocking
  split
  · dsimp only
    split
    · exact hset _ h.reopened
    · exact hset _ h
  · exact h.frame ⟨rfl, rfl, rfl, rfl, rfl, rfl⟩

theorem Sound.helloTurned {negotiated : Bool}
    (hkeeps : link.KeepsDraw (.helloAcknowledged negotiated)) :
    Sound { link with pump := { link.pump with barrier := .replay } } :=
  h.turned (h.clear_of _ hkeeps rfl) (h.aimed.of_eq rfl rfl) rfl rfl (.inl (by simp))

theorem Sound.helloAcknowledged (negotiated : Bool)
    (hkeeps : link.KeepsDraw (.helloAcknowledged negotiated)) :
    (link.helloAcknowledged negotiated).Sound := by
  have hturned := h.helloTurned hkeeps
  unfold LinkLoop.helloAcknowledged
  exact Sound.pumped (hturned.frame ⟨rfl, rfl, rfl, rfl, rfl, rfl⟩)

theorem Sound.onOpen (hidle : link.pump.barrier = .idle) : link.onOpen.Sound := by
  have hclear : link.ClearsFrom link.pump.nextSeq := by
    have hfloor : link.floor = link.pump.nextSeq := floor_eq (.inr (by simp [hidle]))
    exact hfloor ▸ h.clear
  exact h.turned hclear (Pump.aimed_of_clear rfl) rfl rfl (.inl (by simp [Pump.onOpen]))

theorem Sound.detachLink (hkeeps : link.KeepsDraw .detachLink) : link.detachLink.Sound := by
  have hclear := h.clear_of _ hkeeps rfl
  refine ⟨h.numbered, aimed_of_clear rfl, h.mirrored, h.counted, ?_⟩
  rw [floor_eq (.inl rfl)]
  exact hclear.congr rfl rfl

theorem Sound.restart (now : Int) (held : Bool) : (link.restart now held).Sound := by
  have hcrash := (h.numbered.step .crash).numbered
  have hopen := (hcrash.step (.openFile now)).numbered
  refine ⟨hopen, aimed_of_clear rfl, rfl, rfl, ?_⟩
  rw [floor_eq (.inl rfl)]
  refine ⟨?_, fun seq hseq hunoffered => hunoffered⟩
  unfold Journal.upcoming SequenceWindow.upcoming
  split
  · split <;> exact Nat.le_add_left _ _
  · exact Nat.le_add_left _ _

end

theorem acknowledge_file (file : OutboxFile) (seqs : List Nat) :
    (seqs.foldl (fun file seq => (file.acknowledge seq).1) file).reservedThrough =
        file.reservedThrough ∧
      ∀ seq ∈ (seqs.foldl (fun file seq => (file.acknowledge seq).1) file).events.keys,
        seq ∈ file.events.keys := by
  induction seqs generalizing file with
  | nil => exact ⟨rfl, fun _ hseq => hseq⟩
  | cons seq seqs ih =>
    have hone : (file.acknowledge seq).1.reservedThrough = file.reservedThrough ∧
        ∀ other ∈ (file.acknowledge seq).1.events.keys, other ∈ file.events.keys := by
      unfold OutboxFile.acknowledge
      split
      · exact ⟨rfl, fun _ hother => hother⟩
      · exact ⟨rfl, fun _ hother => OrderedMap.mem_keys_retain hother⟩
    obtain ⟨hreserved, hkeys⟩ := ih (file.acknowledge seq).1
    exact ⟨hreserved.trans hone.1, fun other hother => hone.2 other (hkeys other hother)⟩

theorem Sound.applyDurableAcks (h : link.Sound) (failing : List Nat) :
    (link.applyDurableAcks failing).Sound := by
  obtain ⟨hreserved, hkeys⟩ := acknowledge_file link.journal.file
    (link.pendingAcks.filter fun seq => decide (seq ∉ failing))
  have hjournal : Journal.Onwards link.journal (link.applyDurableAcks failing).journal none :=
    h.numbered.quiet hreserved hkeys (.inl rfl)
  exact (h.ofJournal hjournal).frame ⟨rfl, rfl, rfl, rfl, rfl, rfl⟩

theorem onEventAck_ignored {ignored : Nat} {acked : Pump}
    (h : pump.onEventAck seq = (acked, .ignoredAck ignored)) :
    acked = pump ∧ pump.inFlight ≠ some seq := by
  unfold onEventAck at h
  split at h
  · have hadv := advances { pump with
      inFlight := none
      durable := pump.durable.tail
      acked := max pump.acked seq }
    rw [h] at hadv
    cases hadv
  · rename_i hfly
    exact ⟨(congrArg Prod.fst h).symm, hfly⟩

theorem onEventAck_released
    (h : ∀ acked ignored, pump.onEventAck seq = (acked, .ignoredAck ignored) → False) :
    pump.inFlight = some seq ∧ pump.onEventAck seq = advance { pump with
      inFlight := none
      durable := pump.durable.tail
      acked := max pump.acked seq } := by
  unfold onEventAck at h ⊢
  split
  · rename_i hfly
    exact ⟨hfly, rfl⟩
  · rename_i hfly
    rw [if_neg hfly] at h
    exact absurd rfl (h pump seq)

/-- What an acknowledgement does: it retires the head, ends the snapshot stage, or is only noted. -/
inductive Acknowledges (link : LinkLoop) (seq : Nat) : LinkLoop → Prop where
  | released {queued : PendingEvent} {rest : List PendingEvent} {frame : DurableWrite}
      {frames : List DurableWrite} (head : link.pump.durable = queued :: rest)
      (number : queued.seq = seq) (mirror : link.durable = frame :: frames) :
      Acknowledges link seq ((LinkLoop.noteDurableAck { link with
        durable := frames
        durableBytes := link.durableBytes - frame.bytes.length } seq).pumped
          (advance { link.pump with
            inFlight := none
            durable := link.pump.durable.tail
            acked := max link.pump.acked seq }))
  | turned {pump : Pump} (unflown : link.pump.inFlight ≠ some seq)
      (drawn : link.pump.snapshotSeq = some seq) (durable : pump.durable = link.pump.durable)
      (inFlight : pump.inFlight = link.pump.inFlight) (nextSeq : pump.nextSeq = link.pump.nextSeq)
      (barrier : pump.barrier ≠ .snapshot) :
      Acknowledges link seq ((link.noteDurableAck seq).pumped pump.advance)
  | ignored : Acknowledges link seq (link.noteDurableAck seq)

theorem Sound.acknowledges (h : link.Sound) (seq : Nat) :
    Acknowledges link seq (link.eventAcknowledged seq) := by
  unfold LinkLoop.eventAcknowledged
  split
  · rename_i pump ignored hignored
    obtain ⟨rfl, hfly⟩ := onEventAck_ignored hignored
    unfold onSnapshotAck
    split
    · rename_i hdrawn
      split <;> exact .turned hfly hdrawn rfl rfl rfl (by simp)
    have hsame : LinkLoop.pumped (link.noteDurableAck seq) (link.pump, .ignoredAck seq) =
        link.noteDurableAck seq := by
      unfold LinkLoop.noteDurableAck
      split <;> rfl
    rw [hsame]
    exact .ignored
  rename_i hrel
  obtain ⟨hfly, hres⟩ := onEventAck_released hrel
  obtain ⟨_, _, hhead, hseq⟩ := h.aimed.head hfly
  rw [hres]
  have hmirrors := h.mirrored
  cases hdurable : link.durable with
  | nil => simp [hdurable, hhead] at hmirrors
  | cons frame frames =>
    simp only [hdurable, hhead, List.map_cons, List.cons.injEq] at hmirrors
    have hframe : frame.seq = some seq := hmirrors.1.trans (congrArg some hseq)
    have hmirror : link.releaseAcknowledgedMirrorHead seq = { link with
        durable := frames
        durableBytes := link.durableBytes - frame.bytes.length } := by
      simp only [releaseAcknowledgedMirrorHead, hdurable, hframe, if_true]
    rw [hmirror]
    exact .released hhead hseq hdurable

theorem noteDurableAck_same (link : LinkLoop) (seq : Nat) :
    { link.noteDurableAck seq with pump := link.pump } = link.noteDurableAck seq := by
  unfold noteDurableAck
  split <;> rfl

theorem Sound.noted (h : Sound { link with pump := pump }) (seq : Nat) :
    Sound { link.noteDurableAck seq with pump := pump } := by
  refine h.frame ?_
  unfold noteDurableAck
  split <;> exact ⟨rfl, rfl, rfl, rfl, rfl, rfl⟩

theorem Sound.headReleased (h : link.Sound) {queued : PendingEvent} {rest : List PendingEvent}
    {frame : DurableWrite} {frames : List DurableWrite} (head : link.pump.durable = queued :: rest)
    (mirror : link.durable = frame :: frames) (seq : Nat) : Sound { link with
      durable := frames
      durableBytes := link.durableBytes - frame.bytes.length
      pump := { link.pump with
        inFlight := none
        durable := link.pump.durable.tail
        acked := max link.pump.acked seq } } := by
  have hmirrors := h.mirrored
  have hcount := h.counted
  simp only [mirror, head, List.map_cons, List.cons.injEq, List.sum_cons] at hmirrors hcount
  have hfloor : LinkLoop.floor { link with
      durable := frames
      durableBytes := link.durableBytes - frame.bytes.length
      pump := { link.pump with
        inFlight := none
        durable := link.pump.durable.tail
        acked := max link.pump.acked seq } } = link.floor :=
    floor_congr rfl rfl rfl rfl
  refine ⟨h.numbered, aimed_of_clear rfl, ?_, ?_, ?_⟩
  · simpa only [head, List.tail_cons] using hmirrors.2
  · dsimp only
    omega
  · rw [hfloor]
    exact h.clear.congr rfl rfl

theorem Sound.drawAcknowledged (h : link.Sound)
    (hkeeps : link.KeepsDraw (.eventAcknowledged seq)) (hfly : link.pump.inFlight ≠ some seq)
    (hdrawn : link.pump.snapshotSeq = some seq) (hdurable : pump.durable = link.pump.durable)
    (hsame : pump.inFlight = link.pump.inFlight) (hnext : pump.nextSeq = link.pump.nextSeq)
    (hbarrier : pump.barrier ≠ .snapshot) : Sound { link with pump := pump } :=
  h.turned (h.clear_of _ hkeeps (by simp [dropsDraw, hfly, hdrawn]))
    (h.aimed.of_eq hsame hdurable) hdurable hnext (.inl hbarrier)

theorem Sound.eventAcknowledged (h : link.Sound) (seq : Nat)
    (hkeeps : link.KeepsDraw (.eventAcknowledged seq)) : (link.eventAcknowledged seq).Sound := by
  have hcalled := h.acknowledges seq
  generalize link.eventAcknowledged seq = next at hcalled ⊢
  cases hcalled with
  | released head number mirror => exact Sound.pumped (Sound.noted (h.headReleased head mirror seq) seq)
  | turned unflown drawn durable inFlight nextSeq barrier =>
    have hturned := h.drawAcknowledged hkeeps unflown drawn durable inFlight nextSeq barrier
    exact Sound.pumped (hturned.noted seq)
  | ignored =>
    rw [← noteDurableAck_same]
    exact Sound.noted h seq

theorem drawn_offered {drawn : Journal} {offeredThrough : Nat}
    {fault : Option Interruption} (h : journal.Numbered)
    (hdrawn : journal.step (.snapshotSequence offeredThrough fault) = (drawn, .drawn (some seq))) :
    ∀ key ∈ drawn.file.events.keys, key ≤ offeredThrough := by
  unfold Journal.step at hdrawn
  split at hdrawn
  · rename_i window hwindow
    have hclaim := (claimSequenceIn_spec (h.within window hwindow) fault).events
    simp only [Journal.call, snapshotSequence] at hdrawn
    split at hdrawn
    · rename_i hsnapshot
      split at hsnapshot
      · cases hsnapshot
        cases hdrawn
      rename_i hoff
      split at hsnapshot
      · rename_i hclaimed
        rw [hclaimed] at hclaim
        cases hsnapshot
        cases hdrawn
        intro key hkey
        rw [List.any_eq_true, not_exists] at hoff
        have hbelow := hoff key
        rw [hclaim] at hkey
        simpa [hkey] using hbelow
      · cases hsnapshot
    · cases hdrawn
  · cases hdrawn

theorem Sound.reassigned (h : link.Sound) (hstage : link.pump.barrier = .snapshot) (hjournal : Journal.Onwards link.journal journal (some seq))
    (hoff : ∀ key ∈ journal.file.events.keys, key ≤ link.durableOfferedThrough) : Sound { link with
      snapshotWanted := false
      journal := journal
      pump := link.pump.reassignSnapshotSequence seq } := by
  obtain ⟨hfrom, hbelow⟩ := hjournal.fresh seq rfl
  have hnext := link.nextSeq_le_floor
  have hfloor := h.clear.1
  have hroom : seq < u64Max := by
    have hbounded := upcoming_bounded hjournal.numbered
    have hlarge : maxSequence + 2 < u64Max := by decide +kernel
    omega
  have hunoffered : ∀ bound, bound ≤ journal.upcoming → LinkLoop.ClearsFrom { link with
      snapshotWanted := false
      journal := journal
      pump := link.pump.reassignSnapshotSequence seq } bound := by
    refine fun bound hbound => ⟨hbound, fun key hkey hbeyond => ?_⟩
    exact absurd (hoff key hkey) (Nat.not_le.mpr hbeyond)
  refine ⟨hjournal.numbered, h.aimed.step (.reassignSnapshotSequence seq), ?_, h.counted, ?_⟩
  · unfold reassignSnapshotSequence
    split <;> exact h.mirrored
  rw [floor_eq (.inl rfl)]
  refine hunoffered _ ?_
  unfold reassignSnapshotSequence
  split
  · rw [saturatingSucc_of_lt hroom]
    exact max_le (by omega) hbelow
  rename_i hnone
  have hdrawn : link.pump.snapshotSeq = none := by simpa [hstage] using hnone
  have hkept : link.floor = link.pump.nextSeq := by
    unfold floor reopenReplayBeforeUnsentSnapshot
    split
    · simp [abandonSnapshot, hstage, hdrawn]
    · rfl
  exact (hkept ▸ hfloor).trans hjournal.onwards

theorem Sound.authoriseSnapshot (h : link.Sound) (provided : Except String JournalEvent)
    (readable : Bool) (fault : Option Interruption)
    (hkeeps : link.KeepsDraw (.authoriseSnapshot provided readable fault)) :
    (link.authoriseSnapshot encode provided readable fault).Sound := by
  unfold LinkLoop.authoriseSnapshot
  split
  · rename_i hidle
    refine ⟨h.numbered, h.aimed, h.mirrored, h.counted, ?_⟩
    rw [floor_eq (.inl rfl)]
    exact (floor_eq hidle ▸ h.clear).congr rfl rfl
  rename_i hstage
  rw [not_or, not_not, Bool.not_eq_false] at hstage
  split
  · exact h
  rename_i hrel
  dsimp only
  split
  · have hclear := h.clear_of _ hkeeps (by simpa [dropsDraw] using hrel)
    refine ⟨h.numbered, h.aimed, h.mirrored, h.counted, ?_⟩
    rw [floor_eq (.inl rfl)]
    exact hclear.congr rfl rfl
  rename_i event
  have hasked : Journal.Onwards link.journal (if readable then
        link.journal.step (.snapshotSequence link.durableOfferedThrough fault)
        else (link.journal, .failed (.query "snapshot sequence" ""))).1
      (if readable then
        link.journal.step (.snapshotSequence link.durableOfferedThrough fault)
        else (link.journal, .failed (.query "snapshot sequence" ""))).2.sequence := by
    split
    · exact h.numbered.step _
    · exact h.numbered.quiet rfl (fun _ hseq => hseq) (.inl rfl)
  have hdrawn : ∀ drawn seq, (if readable then
        link.journal.step (.snapshotSequence link.durableOfferedThrough fault)
        else (link.journal, .failed (.query "snapshot sequence" ""))) = (drawn, .drawn (some seq)) →
      ∀ key ∈ drawn.file.events.keys, key ≤ link.durableOfferedThrough := by
    intro drawn seq hdrawn
    split at hdrawn
    · exact drawn_offered h.numbered hdrawn
    · cases hdrawn
  generalize (if readable then
    link.journal.step (.snapshotSequence link.durableOfferedThrough fault)
    else (link.journal, .failed (.query "snapshot sequence" ""))) = asked at hasked hdrawn ⊢
  obtain ⟨journal, _⟩ := asked
  dsimp only at hasked ⊢
  split
  · rename_i seq
    have hnumber := h.reassigned hstage.2 hasked (hdrawn journal seq rfl)
    split
    · exact hnumber
    · split
      · exact hnumber.frame ⟨rfl, rfl, rfl, rfl, rfl, rfl⟩
      · exact hnumber
  · have hreopen := h.reopened
    simp only [reopenReplayBeforeUnsentSnapshot, hstage, and_self, if_true] at hreopen
    exact (hreopen.ofJournal hasked).frame ⟨rfl, rfl, rfl, rfl, rfl, rfl⟩
  · exact (h.ofJournal hasked).frame ⟨rfl, rfl, rfl, rfl, rfl, hstage.1.symm⟩

theorem sameDurable_write (link : LinkLoop) (now : Nat) (notified : Bool)
    (status : Option (List UInt8)) (repair : List (List UInt8 × String)) :
    SameDurable link (link.write now notified status repair).1 := by
  have hnext : SameDurable link (link.nextWrite now notified status repair).1 := by
    unfold nextWrite notifyWritable
    repeat' split
    all_goals exact ⟨rfl, rfl, rfl, rfl, rfl, rfl⟩
  unfold LinkLoop.write
  split
  all_goals rename_i hres
  all_goals rw [hres] at hnext
  all_goals try exact hnext
  split <;> exact hnext

theorem Sound.serve (h : link.Sound) (op : LinkOp) (hkeeps : link.KeepsDraw op) :
    (link.serve encode op).1.Sound := by
  cases op with
  | detachLink => exact h.detachLink hkeeps
  | helloAcknowledged negotiated => exact h.helloAcknowledged negotiated hkeeps
  | eventAcknowledged clientSeq => exact h.eventAcknowledged clientSeq hkeeps
  | applyDurableAcks failing => exact h.applyDurableAcks failing
  | syncDurableRows readable => exact (h.syncDurableRows encode readable).1
  | refreshSnapshotBlocking now readable => exact h.refreshSnapshotBlocking now readable
  | authoriseSnapshot provided readable fault =>
    exact h.authoriseSnapshot encode provided readable fault hkeeps
  | noteDurableAppeared => exact h.noteDurableAppeared
  | moveCellFramesInto => exact h.frame ⟨rfl, rfl, rfl, rfl, rfl, rfl⟩
  | admitToLane =>
    simp only [LinkLoop.serve, admitToLane]
    split
    · exact h
    · split
      · exact h.frame ⟨rfl, rfl, rfl, rfl, rfl, rfl⟩
      · exact h
  | write now notified status repair =>
    exact h.frame (link.sameDurable_write now notified status repair)
  | _ => exact h

/-- A step that keeps its draw keeps the mirror the queue. -/
theorem Sound.step (h : link.Sound) (op : LinkOp) (hkeeps : link.KeepsDraw op) :
    (link.step encode op).1.Sound := by
  have hserved : Sound (if link.connected then link.serve encode op else (link, .done)).1 := by
    split
    · exact h.serve encode op hkeeps
    · exact h
  cases op with
  | restart now held => exact h.restart now held
  | session call =>
    simp only [LinkLoop.step]
    split
    · exact h.ofJournal (h.numbered.step call)
    · exact h
  | noteStoreChanged | activate | queueCells | setAttached =>
    exact h.frame ⟨rfl, rfl, rfl, rfl, rfl, rfl⟩
  | discardQueued => exact h.frame ⟨rfl, rfl, rfl, rfl, rfl, rfl⟩
  | onOpen =>
    simp only [LinkLoop.step]
    split
    · rename_i hidle
      exact h.onOpen hidle.1
    · exact h
  | _ => exact hserved

/-- The offers a call made. -/
def offersOf : LinkAnswer → List Offer
  | .offered offers => offers
  | _ => []

theorem Sound.offers (h : link.Sound) (op : LinkOp) {offer : Offer}
    (hoffer : offer ∈ offersOf (link.step encode op).2) (reason : String) :
    offer.refusal ≠ some (.unusableSequence reason) := by
  cases op with
  | syncDurableRows readable =>
    simp only [LinkLoop.step] at hoffer
    split at hoffer
    · exact (h.syncDurableRows encode readable).2 offer hoffer reason
    · exact absurd hoffer List.not_mem_nil
  | session | onOpen =>
    simp only [LinkLoop.step] at hoffer
    split at hoffer <;> exact absurd hoffer List.not_mem_nil
  | admitToLane lane bytes label now =>
    simp only [LinkLoop.step, LinkLoop.serve] at hoffer
    repeat' split at hoffer
    all_goals exact absurd hoffer List.not_mem_nil
  | detachLink | helloAcknowledged _ | eventAcknowledged _ | applyDurableAcks _
  | refreshSnapshotBlocking _ _ | authoriseSnapshot _ _ _ | noteDurableAppeared
  | moveCellFramesInto _ | write _ _ _ _ =>
    simp only [LinkLoop.step, LinkLoop.serve] at hoffer
    split at hoffer <;> exact absurd hoffer List.not_mem_nil
  | restart _ _ | noteStoreChanged | activate | queueCells _ _ | setAttached _ | discardQueued =>
    exact absurd hoffer List.not_mem_nil

theorem sound_absent : absent.Sound where
  numbered := numbered_absent
  aimed := aimed_of_clear rfl
  mirrored := rfl
  counted := rfl
  clear := by decide +kernel

theorem sound_run {ops : List LinkOp}
    (h : (linkCalls encode).Along KeepsDraw absent ops) : ((linkCalls encode).run absent ops).Sound := by
  refine h.invariant (P := Sound) sound_absent ?_
  intro link op hlink hkeeps
  exact hlink.step encode op hkeeps

end LinkLoop

/-! ## Every run -/

variable (encode : JournalEvent → Nat → Except String (List UInt8))

def linkAfter (ops : List LinkOp) : LinkLoop := (linkCalls encode).run .absent ops

/-- The barrier takes every row. In every run that drops the barrier's own draw only where no row is
to carry its number: no row is refused by the barrier, the mirror holds the sequences the barrier
waits for, in its order, and the bytes of the mirror are counted exactly. -/
theorem offered_rows_taken {ops : List LinkOp}
    (h : (linkCalls encode).Along LinkLoop.KeepsDraw .absent ops) :
    (∀ op, ∀ offer ∈ LinkLoop.offersOf ((linkCalls encode).answer (linkAfter encode ops) op),
      ∀ reason, offer.refusal ≠ some (.unusableSequence reason)) ∧
    (linkAfter encode ops).durable.map (·.seq) =
      (linkAfter encode ops).pump.durable.map (fun event => some event.seq) ∧
    (linkAfter encode ops).durableBytes =
      ((linkAfter encode ops).durable.map (·.bytes.length)).sum := by
  have hsound := LinkLoop.sound_run encode h
  exact ⟨fun op offer hoffer reason => hsound.offers encode op hoffer reason, hsound.mirrored,
    hsound.counted⟩

/-- The outbox issues the snapshot's number and rolls back, so the draw the first socket drops is
free of rows; a session opens, and the second socket is offered its row. -/
def carried : List LinkOp :=
  [.restart 0 false, .onOpen, .helloAcknowledged false,
    .authoriseSnapshot (.ok ⟨"snapshot", "", ""⟩) true (some .numbered), .detachLink,
    .session (.append ⟨"opened", "s", "null"⟩ none none), .noteStoreChanged, .onOpen,
    .helloAcknowledged false, .syncDurableRows true]

theorem offered_rows_taken_redial :
    let link := linkAfter (fun _ _ => .ok [0]) carried
    (∀ op, ∀ offer ∈ LinkLoop.offersOf ((linkCalls fun _ _ => .ok [0]).answer link op),
      ∀ reason, offer.refusal ≠ some (.unusableSequence reason)) ∧
    link.durable.map (·.seq) = link.pump.durable.map (fun event => some event.seq) ∧
    link.durableBytes = (link.durable.map (·.bytes.length)).sum := by
  have hkeeps : (linkCalls fun _ _ => .ok [0]).Along LinkLoop.KeepsDraw .absent carried := by
    decide +kernel
  exact offered_rows_taken _ hkeeps

/-- The link drops at the snapshot stage, and a session opens before the next hello is answered. -/
def redialled : List LinkOp :=
  [.restart 0 true, .onOpen, .helloAcknowledged false, .detachLink,
    .session (.append ⟨"opened", "s", "null"⟩ none none), .noteStoreChanged, .onOpen,
    .helloAcknowledged false]

/-- The draw of the first socket is kept, so the first row of the outbox is a repeat to the barrier;
the mirror holds the row the barrier refused. -/
theorem redialled_link_refuses_row : LinkLoop.offersOf ((linkCalls fun _ _ => .ok [0]).answer
        (linkAfter (fun _ _ => .ok [0]) redialled) (.syncDurableRows true)) =
      [⟨1, some (.unusableSequence
        "client sequence 1 is behind this barrier's 2, so it is a repeat")⟩] ∧
    (linkAfter (fun _ _ => .ok [0]) (redialled ++ [.syncDurableRows true])).durable.map (·.seq) ≠
      (linkAfter (fun _ _ => .ok [0]) (redialled ++ [.syncDurableRows true])).pump.durable.map
        (fun event => some event.seq) := by
  decide +kernel

end Roost.Worker.Link
