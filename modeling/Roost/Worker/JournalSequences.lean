-- SUMMARY: Client sequences are never reused, across crashes and reopenings.
import Roost.Worker.Journal

/-!
# Client sequences

The outbox hands out its numbers in increasing order, whatever call ends early and however often
the process dies. The next number exceeds every number drawn and every row stored, and a row never
passes the persisted watermark.
-/

namespace Roost.Worker

open OrderedMap OutboxFile SequenceWindow

/-- The number an open outbox hands out next. -/
def SequenceWindow.upcoming (window : SequenceWindow) (file : OutboxFile) : Nat :=
  if window.issued < window.reservedThrough then window.issued + 1 else file.reservedThrough + 1

/-- A window stays below the watermark. -/
structure SequenceWindow.Within (window : SequenceWindow) (file : OutboxFile) : Prop where
  issued : window.issued ≤ file.reservedThrough
  reserved : window.reservedThrough ≤ file.reservedThrough

structure Draws (file : OutboxFile) (window : SequenceWindow) (file' : OutboxFile)
    (window' : SequenceWindow) (drawn : Option Nat) : Prop where
  events : file'.events = file.events
  claims : file'.claims = file.claims
  watermark : file.reservedThrough ≤ file'.reservedThrough
  bounded : file.reservedThrough ≤ maxSequence → file'.reservedThrough ≤ maxSequence
  within : window'.Within file'
  onwards : window.upcoming file ≤ window'.upcoming file'
  fresh : ∀ seq, drawn = some seq →
    window.upcoming file ≤ seq ∧ seq < window'.upcoming file' ∧ seq ≤ file'.reservedThrough

section Drawing

variable {file : OutboxFile} {win : SequenceWindow}

theorem Draws.refl (h : win.Within file) : Draws file win file win none where
  events := rfl
  claims := rfl
  watermark := le_rfl
  bounded := id
  within := h
  onwards := le_rfl
  fresh := fun _ hseq => by cases hseq

theorem Draws.issue {base : OutboxFile} {old : SequenceWindow}
    (h : Draws base old file win none) (hopen : win.issued < win.reservedThrough) :
    Draws base old file { win with issued := win.issued + 1 } (some (win.issued + 1)) := by
  have hnext : win.upcoming file = win.issued + 1 := if_pos hopen
  have hle := h.within.reserved
  have hafter : win.issued + 1 < upcoming { win with issued := win.issued + 1 } file := by
    unfold upcoming
    dsimp only
    split <;> omega
  refine ⟨h.events, h.claims, h.watermark, h.bounded, ⟨by dsimp only; omega, hle⟩, ?_,
    fun seq hseq => ?_⟩
  · exact (h.onwards.trans hnext.le).trans hafter.le
  · cases hseq
    exact ⟨h.onwards.trans hnext.le, hafter, by omega⟩

theorem reserveBlock_spec (h : win.Within file) (hspent : win.reservedThrough ≤ win.issued)
    (fault : Option Interruption) :
    Draws file win (reserveBlock file win fault).1 (reserveBlock file win fault).2.1 none ∧
      ((reserveBlock file win fault).2.2 = .ok () → (reserveBlock file win fault).2.1.issued <
          (reserveBlock file win fault).2.1.reservedThrough) := by
  have hfloor : max win.issued file.reservedThrough = file.reservedThrough :=
    max_eq_right h.issued
  have hupcoming : ∀ file, win.upcoming file = file.reservedThrough + 1 := fun _ =>
    if_neg (Nat.not_lt.mpr hspent)
  simp only [reserveBlock, hfloor]
  split_ifs with hroom
  · exact ⟨.refl h, fun hcontra => by cases hcontra⟩
  · refine ⟨⟨rfl, rfl, Nat.le_add_right _ _, fun _ => hroom, ⟨?_, ?_⟩, ?_,
      fun _ hseq => by cases hseq⟩,
      fun hcontra => by cases hcontra⟩
    · exact h.issued.trans (Nat.le_add_right _ _)
    · exact h.reserved.trans (Nat.le_add_right _ _)
    · rw [hupcoming, hupcoming]
      exact Nat.succ_le_succ (Nat.le_add_right _ _)
  · have hlt : file.reservedThrough < file.reservedThrough + sequenceBlockSize :=
      Nat.lt_add_of_pos_right (by decide)
    refine ⟨⟨rfl, rfl, hlt.le, fun _ => hroom, ⟨hlt.le, le_rfl⟩, ?_,
      fun _ hseq => by cases hseq⟩, fun _ => hlt⟩
    rw [hupcoming, upcoming, if_pos hlt]
  · exact ⟨.refl h, fun hcontra => by cases hcontra⟩

/-- The number a call was given, if any. -/
def drawnBy : Except JournalError Nat → Option Nat
  | .ok seq => some seq
  | .error _ => none

theorem claimSequenceIn_spec (h : win.Within file) (fault : Option Interruption) :
    Draws file win (claimSequenceIn file win fault).1 (claimSequenceIn file win fault).2.1
      (drawnBy (claimSequenceIn file win fault).2.2) := by
  unfold claimSequenceIn
  split
  · rename_i hspent
    obtain ⟨hdraws, hopen⟩ := reserveBlock_spec h hspent fault
    split
    · rename_i hres
      rw [hres] at hdraws hopen
      exact hdraws.issue (hopen rfl)
    · rename_i hfailed
      rw [hfailed] at hdraws
      exact hdraws
  · rename_i hopen
    exact (Draws.refl h).issue (Nat.lt_of_not_le hopen)

theorem snapshotSequence_spec (h : win.Within file) (offeredThrough : Nat)
    (fault : Option Interruption) :
    ∃ drawn, Draws file win (snapshotSequence file win offeredThrough fault).1
        (snapshotSequence file win offeredThrough fault).2.1 drawn ∧
      ∀ seq, (snapshotSequence file win offeredThrough fault).2.2 = .ok (some seq) →
        drawn = some seq := by
  unfold snapshotSequence
  split
  · exact ⟨none, .refl h, fun seq hseq => by cases hseq⟩
  have hdraws := claimSequenceIn_spec h fault
  split
  · rename_i seq hclaim
    rw [hclaim] at hdraws
    refine ⟨some seq, hdraws, fun other hother => ?_⟩
    cases hother
    rfl
  · rename_i hfailed
    rw [hfailed] at hdraws
    exact ⟨none, hdraws, fun seq hseq => by cases hseq⟩

variable {file' : OutboxFile}

theorem insertRow_ok {clientSeq : Nat} {event : JournalEvent} {claim : Option Reservation}
    {row : PendingRow}
    (h : insertRow file clientSeq event claim = .ok (file', row)) :
    file'.events = file.events.insert clientSeq ⟨event, event.payloadBytes⟩ ∧
      file'.reservedThrough = file.reservedThrough ∧
      row = ⟨clientSeq, event, event.payloadBytes⟩ := by
  cases claim with
  | none =>
    obtain ⟨-, rfl, hrow⟩ := addRow_ok h
    exact ⟨rfl, rfl, hrow⟩
  | some claim =>
    unfold insertRow at h
    dsimp only at h
    split at h
    · rename_i hret
      obtain ⟨-, rfl⟩ := retireClaim_ok hret
      obtain ⟨-, rfl, hrow⟩ := addRow_ok h
      exact ⟨rfl, rfl, hrow⟩
    · cases h

/-- What an append does: it may draw a number, and a row it commits carries that number. -/
structure Appends (file : OutboxFile) (window : SequenceWindow) (file' : OutboxFile)
    (window' : SequenceWindow) (row : Option PendingRow) : Prop where
  watermark : file.reservedThrough ≤ file'.reservedThrough
  bounded : file.reservedThrough ≤ maxSequence → file'.reservedThrough ≤ maxSequence
  within : window'.Within file'
  onwards : window.upcoming file ≤ window'.upcoming file'
  keys : ∀ seq ∈ file'.events.keys, seq ∈ file.events.keys ∨
    (window.upcoming file ≤ seq ∧ seq < window'.upcoming file' ∧ seq ≤ file'.reservedThrough)
  fresh : ∀ pending, row = some pending →
    window.upcoming file ≤ pending.clientSeq ∧ pending.clientSeq < window'.upcoming file'

def appendedBy : Except JournalError PendingRow → Option PendingRow
  | .ok row => some row
  | .error _ => none

theorem Draws.appends {window' : SequenceWindow} {drawn : Option Nat}
    (h : Draws file win file' window' drawn) : Appends file win file' window' none where
  watermark := h.watermark
  bounded := h.bounded
  within := h.within
  onwards := h.onwards
  keys := fun seq hseq => .inl (h.events ▸ hseq)
  fresh := fun _ hrow => by cases hrow

theorem SequenceWindow.upcoming_congr (win : SequenceWindow) {file : OutboxFile}
    (h : file'.reservedThrough = file.reservedThrough) :
    win.upcoming file' = win.upcoming file := by
  unfold upcoming
  rw [h]

theorem SequenceWindow.Within.congr {file : OutboxFile} (h : win.Within file)
    (heq : file'.reservedThrough = file.reservedThrough) : win.Within file' :=
  ⟨heq ▸ h.issued, heq ▸ h.reserved⟩

theorem appendWithin_spec (h : win.Within file) (event : JournalEvent) (claim : Option Reservation)
    (fault : Option Interruption) : Appends file win (appendWithin file win event claim fault).1
      (appendWithin file win event claim fault).2.1
      (appendedBy (appendWithin file win event claim fault).2.2) := by
  unfold appendWithin
  split
  · exact (Draws.refl h).appends
  have hdraws := claimSequenceIn_spec h fault
  split
  · rename_i hfailed
    rw [hfailed] at hdraws
    exact hdraws.appends
  rename_i drawnWindow clientSeq hclaim
  rw [hclaim] at hdraws
  obtain ⟨hfrom, hbelow, hwat⟩ := hdraws.fresh clientSeq rfl
  split
  · exact hdraws.appends
  split
  · exact hdraws.appends
  rename_i done _ hins
  obtain ⟨hevents, hkept, rfl⟩ := insertRow_ok hins
  have hupcoming := drawnWindow.upcoming_congr hkept
  have hcommit : ∀ answered, (∀ pend, answered = some pend →
      pend = ⟨clientSeq, event, event.payloadBytes⟩) →
      Appends file win done drawnWindow answered := by
    intro answered hanswered
    refine ⟨hdraws.watermark.trans hkept.ge, fun hbound => hkept ▸ hdraws.bounded hbound,
      hdraws.within.congr hkept, hupcoming ▸ hdraws.onwards, fun seq hseq => ?_,
      fun pend hpend => ?_⟩
    · rw [hevents] at hseq
      rcases mem_keys_insert hseq with rfl | hseq
      · exact .inr ⟨hfrom, hupcoming ▸ hbelow, hkept ▸ hwat⟩
      · exact .inl (hdraws.events ▸ hseq)
    · rw [hanswered pend hpend]
      exact ⟨hfrom, hupcoming ▸ hbelow⟩
  split
  · exact hcommit none fun _ hpend => by cases hpend
  · exact hcommit _ fun _ hpend => (Option.some.inj hpend).symm

end Drawing

/-! ## Every call -/

/-- The number an answer hands to its caller. -/
def JournalAnswer.sequence : JournalAnswer → Option Nat
  | .appended row => some row.clientSeq
  | .drawn seq => seq
  | _ => none

namespace Journal

/-- The number the outbox hands out next, once it is open. -/
def upcoming (journal : Journal) : Nat :=
  match journal.window with
  | some window => window.upcoming journal.file
  | none => journal.file.reservedThrough + 1

/-- Every row stored is behind the watermark and behind the next number. -/
structure Numbered (journal : Journal) : Prop where
  within : ∀ window, journal.window = some window → window.Within journal.file
  bounded : journal.file.reservedThrough ≤ maxSequence
  stored : ∀ seq ∈ journal.file.events.keys, seq ≤ journal.file.reservedThrough
  passed : ∀ seq ∈ journal.file.events.keys, seq < journal.upcoming

/-- What one call does to the numbering. -/
structure Onwards (journal next : Journal) (drawn : Option Nat) : Prop where
  numbered : next.Numbered
  onwards : journal.upcoming ≤ next.upcoming
  keys : ∀ seq ∈ next.file.events.keys, seq ∈ journal.file.events.keys ∨ journal.upcoming ≤ seq
  fresh : ∀ seq, drawn = some seq → journal.upcoming ≤ seq ∧ seq < next.upcoming

variable {jrnl next : Journal}

theorem Numbered.upcoming_le (h : jrnl.Numbered) :
    jrnl.upcoming ≤ jrnl.file.reservedThrough + 1 := by
  unfold upcoming
  split
  · rename_i win hwindow
    have hissued := (h.within win hwindow).reserved
    unfold SequenceWindow.upcoming
    split <;> omega
  · exact le_rfl

theorem Numbered.quiet (h : jrnl.Numbered)
    (hwat : next.file.reservedThrough = jrnl.file.reservedThrough)
    (hkeys : ∀ seq ∈ next.file.events.keys, seq ∈ jrnl.file.events.keys)
    (hwindow : next.window = jrnl.window ∨ ∀ win, next.window = some win →
      win.Within next.file ∧ win.reservedThrough ≤ win.issued) : Onwards jrnl next none := by
  have honward : jrnl.upcoming ≤ next.upcoming := by
    rcases hwindow with hsame | hspent
    · unfold upcoming
      rw [hsame]
      split
      · exact (upcoming_congr _ hwat).ge
      · rw [hwat]
    have hnext : next.upcoming = next.file.reservedThrough + 1 := by
      unfold upcoming
      split
      · rename_i win hopen
        exact if_neg (Nat.not_lt.mpr (hspent win hopen).2)
      · rfl
    rw [hnext, hwat]
    exact h.upcoming_le
  refine ⟨⟨fun win hopen => ?_, hwat ▸ h.bounded, fun seq hseq => ?_,
    fun seq hseq => ?_⟩, honward, fun seq hseq => .inl (hkeys seq hseq),
    fun seq hseq => by cases hseq⟩
  · rcases hwindow with hsame | hspent
    · exact (h.within win (hsame ▸ hopen)).congr hwat
    · exact (hspent win hopen).1
  · exact hwat ▸ h.stored seq (hkeys seq hseq)
  · exact (h.passed seq (hkeys seq hseq)).trans_le honward

theorem maxKey_le {α : Type} {table : OrderedMap Nat α} {bound : Nat}
    (h : ∀ key ∈ table.keys, key ≤ bound) : maxKey table ≤ bound := by
  unfold maxKey
  cases hlast : table.keys.getLast? with
  | none => exact Nat.zero_le _
  | some key => exact h key (List.mem_of_getLast? hlast)

theorem Numbered.openFile (h : jrnl.Numbered) (now : Int) :
    ∃ handedOver, (jrnl.openFile now).2 = .handedOver handedOver ∧
      Onwards jrnl (jrnl.openFile now).1 none := by
  have hkeys : ∀ seq ∈ (jrnl.file.discardRetiredEvents.reclaimExpired now).events.keys,
      seq ∈ jrnl.file.events.keys := fun seq hseq => mem_keys_retain hseq
  have hmax : maxKey (jrnl.file.discardRetiredEvents.reclaimExpired now).events ≤
      jrnl.file.reservedThrough := maxKey_le fun seq hseq => h.stored seq (hkeys seq hseq)
  have hopens : (jrnl.file.discardRetiredEvents.reclaimExpired now).persistedHighWater =
      .ok (maxKey (jrnl.file.discardRetiredEvents.reclaimExpired now).events) :=
    if_neg (Nat.not_lt.mpr hmax)
  unfold Journal.openFile
  dsimp only
  rw [hopens]
  refine ⟨_, rfl, h.quiet rfl hkeys (.inr fun win hwindow => ?_)⟩
  cases hwindow
  exact ⟨⟨hmax, Nat.zero_le _⟩, Nat.zero_le _⟩

theorem Numbered.kept (h : jrnl.Numbered) (hevents : next.file.events = jrnl.file.events)
    (hwat : next.file.reservedThrough = jrnl.file.reservedThrough)
    (hwindow : next.window = jrnl.window) : Onwards jrnl next none :=
  h.quiet hwat (fun _ hseq => hevents ▸ hseq) (.inl hwindow)

theorem hold_file (file : OutboxFile) (claim : Reservation) :
    (file.hold claim).1.events = file.events ∧
      (file.hold claim).1.reservedThrough = file.reservedThrough := by
  unfold hold
  repeat' split
  all_goals exact ⟨rfl, rfl⟩

theorem release_file (file : OutboxFile) (claim : Reservation) :
    (file.release claim).1.events = file.events ∧
      (file.release claim).1.reservedThrough = file.reservedThrough := by
  unfold release
  repeat' split
  all_goals exact ⟨rfl, rfl⟩

theorem reserveNext_file (jrnl : Journal) (call : Nat) :
    (jrnl.reserveNext call).1.file.events = jrnl.file.events ∧
      (jrnl.reserveNext call).1.file.reservedThrough = jrnl.file.reservedThrough ∧
      (jrnl.reserveNext call).1.window = jrnl.window ∧
      (jrnl.reserveNext call).2.sequence = none := by
  unfold Journal.reserveNext
  dsimp only
  repeat' split
  all_goals exact ⟨rfl, rfl, rfl, rfl⟩

theorem Numbered.append (h : jrnl.Numbered) {win : SequenceWindow}
    (hwindow : jrnl.window = some win) (event : JournalEvent) (claim : Option Reservation)
    (fault : Option Interruption) : Onwards jrnl (jrnl.call win (.append event claim fault)).1
      (jrnl.call win (.append event claim fault)).2.sequence := by
  have hspec := appendWithin_spec (h.within win hwindow) event claim fault
  have hupcoming : jrnl.upcoming = win.upcoming jrnl.file := by
    unfold upcoming
    rw [hwindow]
  have hcommits : ∀ {file' window' row answered}, Appends jrnl.file win file' window' row →
      (∀ seq, answered = some seq → ∃ pend, row = some pend ∧ pend.clientSeq = seq) →
      Onwards jrnl { jrnl with file := file', window := some window' } answered := by
    intro file' window' row answered happ hanswered
    have honward : jrnl.upcoming ≤ window'.upcoming file' := hupcoming ▸ happ.onwards
    refine ⟨⟨fun other hother => ?_, happ.bounded h.bounded, fun seq hseq => ?_,
      fun seq hseq => ?_⟩, honward, fun seq hseq => ?_, fun seq hseq => ?_⟩
    · cases hother
      exact happ.within
    · rcases happ.keys seq hseq with hold | hnew
      · exact (h.stored seq hold).trans happ.watermark
      · exact hnew.2.2
    · rcases happ.keys seq hseq with hold | hnew
      · exact (h.passed seq hold).trans_le honward
      · exact hnew.2.1
    · exact (happ.keys seq hseq).imp_right fun hnew => hupcoming ▸ hnew.1
    · obtain ⟨pend, hpend, rfl⟩ := hanswered seq hseq
      exact hupcoming ▸ happ.fresh pend hpend
  simp only [call]
  split
  · rename_i row hdone
    rw [hdone] at hspec
    refine hcommits hspec fun seq hseq => ⟨row, rfl, ?_⟩
    exact Option.some.inj hseq
  · rename_i hfailed
    rw [hfailed] at hspec
    exact hcommits hspec fun seq hseq => by cases hseq

theorem Numbered.draw (h : jrnl.Numbered) {win : SequenceWindow}
    (hwindow : jrnl.window = some win) (offeredThrough : Nat) (fault : Option Interruption) :
    Onwards jrnl (jrnl.call win (.snapshotSequence offeredThrough fault)).1
      (jrnl.call win (.snapshotSequence offeredThrough fault)).2.sequence := by
  obtain ⟨drawn, hdraws, hdrawn⟩ :=
    snapshotSequence_spec (h.within win hwindow) offeredThrough fault
  have hupcoming : jrnl.upcoming = win.upcoming jrnl.file := by
    unfold upcoming
    rw [hwindow]
  have hdraw : ∀ {file' window' answered}, Draws jrnl.file win file' window' drawn →
      (∀ seq, answered = some seq → drawn = some seq) →
      Onwards jrnl { jrnl with file := file', window := some window' } answered := by
    intro file' window' answered hdraws hanswered
    have honward : jrnl.upcoming ≤ window'.upcoming file' := hupcoming ▸ hdraws.onwards
    refine ⟨⟨fun other hother => ?_, hdraws.bounded h.bounded, fun seq hseq => ?_,
      fun seq hseq => ?_⟩, honward, fun seq hseq => .inl (hdraws.events ▸ hseq),
      fun seq hseq => ?_⟩
    · cases hother
      exact hdraws.within
    · exact (h.stored seq (hdraws.events ▸ hseq)).trans hdraws.watermark
    · exact (h.passed seq (hdraws.events ▸ hseq)).trans_le honward
    · obtain ⟨hfrom, hbelow, -⟩ := hdraws.fresh seq (hanswered seq hseq)
      exact ⟨hupcoming ▸ hfrom, hbelow⟩
  simp only [call]
  split
  · rename_i hdone
    rw [hdone] at hdraws hdrawn
    exact hdraw hdraws fun seq hseq => hdrawn seq (congrArg Except.ok hseq)
  · rename_i hfailed
    rw [hfailed] at hdraws
    exact hdraw hdraws fun seq hseq => by cases hseq

/-- A call draws only above every number before. -/
theorem Numbered.step (h : jrnl.Numbered) (op : JournalOp) :
    Onwards jrnl (jrnl.step op).1 (jrnl.step op).2.sequence := by
  unfold Journal.step
  split
  · rename_i win hwindow
    cases op with
    | openFile | reclaimExpired => exact h.kept rfl rfl rfl
    | crash => exact h.quiet rfl (fun _ hseq => hseq) (.inr fun _ hcontra => by cases hcontra)
    | append event claim fault => exact h.append hwindow event claim fault
    | snapshotSequence offeredThrough fault => exact h.draw hwindow offeredThrough fault
    | acknowledge =>
      refine h.quiet ?_ (fun seq hseq => ?_) (.inl rfl)
      · simp only [call, acknowledge]
        split <;> rfl
      simp only [call, acknowledge] at hseq
      split at hseq
      · exact hseq
      · exact mem_keys_retain hseq
    | reserve =>
      simp only [call]
      split
      · exact h.kept rfl rfl rfl
      · split <;> exact h.kept rfl rfl rfl
    | reserveNext name =>
      obtain ⟨hevents, hwat, hsame, hnone⟩ := reserveNext_file jrnl name
      simp only [call]
      rw [hnone]
      exact h.kept hevents hwat hsame
    | hold claim =>
      have hfile := hold_file jrnl.file claim
      simp only [call]
      split <;> exact h.kept hfile.1 hfile.2 rfl
    | release claim =>
      have hfile := release_file jrnl.file claim
      simp only [call]
      split <;> exact h.kept hfile.1 hfile.2 rfl
    | discardRetiredEvents =>
      exact h.quiet rfl (fun _ hseq => mem_keys_retain hseq) (.inl rfl)
  · split
    · rename_i now
      obtain ⟨_, hanswer, honward⟩ := h.openFile now
      rw [hanswer]
      exact honward
    · exact h.kept rfl rfl rfl
    · exact h.quiet rfl (fun _ hseq => mem_keys_retain hseq) (.inl rfl)
    · exact h.kept rfl rfl rfl

end Journal

/-! ## Every run -/

/-- The numbers a run handed out, in the order their calls committed. -/
def sequencesOf (trace : List (JournalOp × JournalAnswer)) : List Nat :=
  trace.filterMap fun entry => entry.2.sequence

theorem numbered_absent : Journal.absent.Numbered where
  within := fun _ hwindow => by cases hwindow
  bounded := Nat.zero_le _
  stored := fun _ hseq => absurd hseq List.not_mem_nil
  passed := fun _ hseq => absurd hseq List.not_mem_nil

theorem numbered_run (ops : List JournalOp) : (journalCalls.run .absent ops).Numbered :=
  journalCalls.invariant (P := Journal.Numbered) numbered_absent
    (fun _ op h => (h.step op).numbered) ops

theorem upcoming_mono {jrnl : Journal} (h : jrnl.Numbered) (ops : List JournalOp) :
    jrnl.upcoming ≤ (journalCalls.run jrnl ops).upcoming := by
  induction ops generalizing jrnl with
  | nil => exact le_rfl
  | cons op ops ih => exact (h.step op).onwards.trans (ih (h.step op).numbered)

theorem sequencesOf_concat (past : List (JournalOp × JournalAnswer)) (op : JournalOp)
    (answer : JournalAnswer) :
    sequencesOf (past ++ [(op, answer)]) = sequencesOf past ++ answer.sequence.toList := by
  rw [sequencesOf, List.filterMap_append]
  cases hseq : answer.sequence <;> simp [sequencesOf, hseq]

theorem sequencesOf_increasing (ops : List JournalOp) :
    (sequencesOf (journalCalls.trace .absent ops)).Pairwise (· < ·) ∧
      ∀ seq ∈ sequencesOf (journalCalls.trace .absent ops),
        seq < (journalCalls.run .absent ops).upcoming := by
  -- From the right: the number of the last call, if any, is past the ones before it.
  induction ops using List.reverseRecOn with
  | nil => exact ⟨.nil, fun _ hseq => absurd hseq List.not_mem_nil⟩
  | append_singleton ops op ih =>
    have hstep := (numbered_run ops).step op
    rw [Transducer.trace_concat, Transducer.run_concat, sequencesOf_concat]
    cases hseq : (journalCalls.answer (journalCalls.run .absent ops) op).sequence with
    | none =>
      rw [Option.toList_none, List.append_nil]
      exact ⟨ih.1, fun seq hmem => (ih.2 seq hmem).trans_le hstep.onwards⟩
    | some seq =>
      obtain ⟨hfrom, hbelow⟩ := hstep.fresh seq hseq
      have hpassed : ∀ earlier ∈ sequencesOf (journalCalls.trace .absent ops), earlier < seq :=
        fun earlier hmem => (ih.2 earlier hmem).trans_le hfrom
      rw [Option.toList_some, List.pairwise_append]
      refine ⟨⟨ih.1, List.pairwise_singleton _ _, by simpa using hpassed⟩, fun other hmem => ?_⟩
      rcases List.mem_append.mp hmem with hold | hnew
      · exact (hpassed other hold).trans hbelow
      · rw [List.mem_singleton.mp hnew]
        exact hbelow

/-- Client sequences are never reused. Over any run of the outbox, across any number of crashes and
reopenings: the numbers handed out are strictly increasing in the order their calls commit; no row
passes the persisted watermark, so the file always reopens; and a snapshot's number exceeds that of
every row committed before it was drawn. -/
theorem client_sequences_never_reused (ops : List JournalOp) :
    (sequencesOf (journalCalls.trace .absent ops)).Pairwise (· < ·) ∧
    (∀ seq ∈ (journalCalls.run .absent ops).file.events.keys,
      seq ≤ (journalCalls.run .absent ops).file.reservedThrough) ∧
    (∀ now, ∃ handedOverAt,
      ((journalCalls.run .absent ops).openFile now).2 = .handedOver handedOverAt) ∧
    ∀ offeredThrough fault seq,
      journalCalls.answer (journalCalls.run .absent ops) (.snapshotSequence offeredThrough fault) =
        .drawn (some seq) →
      ∀ earlier, earlier <+: ops →
        ∀ row ∈ (journalCalls.run .absent earlier).file.events.keys, row < seq := by
  have hnumbered := numbered_run ops
  refine ⟨(sequencesOf_increasing ops).1, hnumbered.stored, fun now => ?_,
    fun offeredThrough fault seq hdrawn earlier hearlier row hrow => ?_⟩
  · obtain ⟨handedOverAt, hopens, -⟩ := hnumbered.openFile now
    exact ⟨handedOverAt, hopens⟩
  obtain ⟨later, rfl⟩ := hearlier
  have hfresh := (hnumbered.step (.snapshotSequence offeredThrough fault)).fresh seq
    (congrArg JournalAnswer.sequence hdrawn)
  have hmono := upcoming_mono (numbered_run earlier) later
  rw [← Transducer.run_append] at hmono
  exact (((numbered_run earlier).passed row hrow).trans_le hmono).trans_le hfresh.1

end Roost.Worker
