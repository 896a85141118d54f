-- SUMMARY: Client input over whole runs: ordered, at most once, accounted for.
import Roost.Client.InputEdits

/-!
# The books of the input router

What a run admitted, handed to transports, settled and put back, kept beside the router. Every
sequence admitted is outstanding or settled, once; a batch is handed over once more than it was
put back at most; and what was never handed over is younger than all that was.
-/

namespace Roost.Client

open PendingInput (inputSeq unsent)

open List

/-- What a run did to batches, in the order it did it. -/
structure InputLog where
  admissions : List PendingInput
  handOffs : List PendingInput
  settled : List Nat
  putBacks : List Nat

namespace InputLog

def empty : InputLog := ⟨[], [], [], []⟩

/-- The log after one more call. -/
def record (log : InputLog) (effects : RouterEffects) : InputLog where
  admissions := log.admissions ++ effects.admitted.toList
  handOffs := log.handOffs ++ effects.handed
  settled := log.settled ++ effects.settled.map InputOutcome.inputSeq
  putBacks := log.putBacks ++ effects.putBack.toList

/-- The log of a run's calls. -/
def ofEffects (effects : List RouterEffects) : InputLog := effects.foldl record empty

variable (log : InputLog)

def admittedOn (sessionId : String) : List Nat :=
  (log.admissions.filter fun pending => decide (pending.sessionId = sessionId)).map
    inputSeq

def handedOn (sessionId : String) : List Nat :=
  (log.handOffs.filter fun pending => decide (pending.sessionId = sessionId)).map
    inputSeq

/-- How often a sequence was handed to a transport. -/
def handCount (inputSeq : Nat) : Nat := (log.handOffs.map PendingInput.inputSeq).count inputSeq

theorem record_none : log.record .none = log := by
  simp [record, RouterEffects.none]

theorem record_ofSettled (outcomes : List InputOutcome) : log.record (.ofSettled outcomes) =
      { log with settled := log.settled ++ outcomes.map InputOutcome.inputSeq } := by
  simp [record, RouterEffects.ofSettled, RouterEffects.none]

theorem mem_admittedOn {log : InputLog} {sid : String} {inputSeq : Nat} :
    inputSeq ∈ log.admittedOn sid ↔
      ∃ pend ∈ log.admissions, pend.sessionId = sid ∧ pend.inputSeq = inputSeq := by
  unfold admittedOn
  simp [and_assoc]

theorem mem_handedOn {log : InputLog} {sid : String} {inputSeq : Nat} :
    inputSeq ∈ log.handedOn sid ↔
      ∃ pend ∈ log.handOffs, pend.sessionId = sid ∧ pend.inputSeq = inputSeq := by
  unfold handedOn
  simp [and_assoc]

end InputLog

open InputRouter

/-! ## The books -/

/-- The lanes are sound and within their caps, and every batch admitted is accounted for. -/
structure Accounts (log : InputLog) (router : InputRouter) : Prop where
  sane : router.Sane
  balanced : router.Balanced
  fewBatches : ∀ sessionId, (router.outstanding sessionId).length ≤ maxPendingInputsPerSession
  fewBytes : ∀ sessionId,
    ((router.outstanding sessionId).map fun pending => pending.bytes.length).sum ≤
      maxPendingInputBytesPerSession
  /-- Batches are admitted in the order of their sequences. -/
  admitted : (log.admissions.map PendingInput.inputSeq).Pairwise (· < ·)
  admittedBound : ∀ pending ∈ log.admissions, pending.inputSeq ≤ router.nextInputSeq
  outstanding : ∀ {sessionId}, ∀ pending ∈ router.outstanding sessionId,
    pending.sessionId = sessionId ∧ pending.inputSeq ∈ log.admittedOn sessionId
  /-- What is admitted is settled once or still outstanding. -/
  accounted : ∀ sessionId, ∀ inputSeq ∈ log.admittedOn sessionId, log.settled.count inputSeq +
      ((router.outstanding sessionId).map PendingInput.inputSeq).count inputSeq = 1
  settledAdmitted : ∀ inputSeq ∈ log.settled, inputSeq ∈ log.admissions.map PendingInput.inputSeq

/-- The router's lanes agree with what the run did. -/
structure Books (log : InputLog) (router : InputRouter) : Prop extends Accounts log router where
  window : ∀ sessionId, (router.outstanding sessionId).countP (fun pending => pending.started) ≤
    maxStartedInputsPerSession
  handedAdmitted : ∀ pending ∈ log.handOffs, pending.inputSeq ∈ log.admittedOn pending.sessionId
  firsts : ∀ sessionId, (log.handedOn sessionId).eraseDups.Pairwise (· < ·)
  /-- What was never handed over is younger than all that was. -/
  fresh : ∀ {sessionId}, ∀ pending ∈ router.outstanding sessionId,
    pending.inputSeq ∉ log.handedOn sessionId →
      ∀ inputSeq ∈ log.handedOn sessionId, inputSeq < pending.inputSeq
  once : ∀ inputSeq, log.putBacks.count inputSeq ≤ log.handCount inputSeq ∧
    log.handCount inputSeq ≤ log.putBacks.count inputSeq + 1
  started : ∀ {sessionId}, ∀ pending ∈ router.outstanding sessionId,
    log.handCount pending.inputSeq =
      log.putBacks.count pending.inputSeq + if pending.started then 1 else 0

namespace Books

variable {log : InputLog} {router later : InputRouter} {seqs : List Nat} {sid : String}

variable {other : String} {inputSeq : Nat} {pend : PendingInput}
  {f : PendingInput → PendingInput}

section

variable (h : Books log router)
include h

theorem one_session (hhere : inputSeq ∈ log.admittedOn sid)
    (hthere : inputSeq ∈ log.admittedOn other) : sid = other := by
  obtain ⟨_, hpend, rfl, hseq⟩ := InputLog.mem_admittedOn.mp hhere
  obtain ⟨_, hpend', rfl, hseq'⟩ := InputLog.mem_admittedOn.mp hthere
  have hsame := inj_on_of_nodup_map (h.admitted.imp Nat.ne_of_lt) hpend hpend'
    (hseq.trans hseq'.symm)
  rw [hsame]

theorem outstanding_le (hpend : pend ∈ router.outstanding sid) :
    pend.inputSeq ≤ router.nextInputSeq := by
  obtain ⟨admitted, hadmits, -, hseq⟩ :=
    InputLog.mem_admittedOn.mp (h.outstanding pend hpend).2
  exact hseq ▸ h.admittedBound admitted hadmits

theorem handed_here (hpend : pend ∈ router.outstanding sid) :
    pend.inputSeq ∈ log.handedOn sid ↔ log.handCount pend.inputSeq ≠ 0 := by
  unfold InputLog.handCount
  rw [← Nat.pos_iff_ne_zero, count_pos_iff, InputLog.mem_handedOn, mem_map]
  refine ⟨fun ⟨handed, hhand, _, hseq⟩ => ⟨handed, hhand, hseq⟩, fun ⟨handed, hhand, hseq⟩ =>
    ⟨handed, hhand, ?_, hseq⟩⟩
  exact h.one_session (hseq ▸ h.handedAdmitted handed hhand) (h.outstanding pend hpend).2

theorem admitted_le (hseq : inputSeq ∈ log.admissions.map PendingInput.inputSeq) :
    inputSeq ≤ router.nextInputSeq := by
  obtain ⟨pend, hpend, rfl⟩ := mem_map.mp hseq
  exact h.admittedBound pend hpend

theorem handed_le (hpend : pend ∈ log.handOffs) : pend.inputSeq ≤ router.nextInputSeq := by
  obtain ⟨admitted, hadmits, -, hseq⟩ :=
    InputLog.mem_admittedOn.mp (h.handedAdmitted pend hpend)
  exact hseq ▸ h.admittedBound admitted hadmits

end

/-! ## One call -/

theorem new : Books .empty InputRouter.new where
  sane := ⟨fun _ => .nil, fun h => (by cases h)⟩
  balanced := fun _ _ h => (by cases h)
  fewBatches _ := Nat.zero_le _
  fewBytes _ := Nat.zero_le _
  window _ := Nat.zero_le _
  admitted := .nil
  admittedBound _ h := (by cases h)
  outstanding _ h := (by cases h)
  accounted _ _ h := (by cases h)
  settledAdmitted _ h := (by cases h)
  handedAdmitted _ h := (by cases h)
  firsts _ := .nil
  fresh _ h := (by cases h)
  once _ := ⟨Nat.le_refl _, Nat.zero_le _⟩
  started _ h := (by cases h)

theorem idle (h : Books log router)
    (hsame : ∀ other, later.outstanding other = router.outstanding other)
    (hnext : router.nextInputSeq ≤ later.nextInputSeq)
    (hbalance : router.Balanced → later.Balanced) : Books log later where
  sane := by
    refine ⟨fun sid => ?_, fun {sid other pend pending'} hpend hpend' => ?_⟩
    · rw [hsame]
      exact h.sane.ordered sid
    · rw [hsame] at hpend hpend'
      exact h.sane.apart hpend hpend'
  balanced := hbalance h.balanced
  fewBatches sid := hsame sid ▸ h.fewBatches sid
  fewBytes sid := hsame sid ▸ h.fewBytes sid
  window sid := hsame sid ▸ h.window sid
  admitted := h.admitted
  admittedBound pend hpend := (h.admittedBound pend hpend).trans hnext
  outstanding pend hpend := h.outstanding pend (hsame _ ▸ hpend)
  accounted sid := hsame sid ▸ h.accounted sid
  settledAdmitted := h.settledAdmitted
  handedAdmitted := h.handedAdmitted
  firsts := h.firsts
  fresh pend hpend := h.fresh pend (hsame _ ▸ hpend)
  once := h.once
  started pend hpend := h.started pend (hsame _ ▸ hpend)

theorem drops (h : Books log router) (hdrops : Drops router later seqs) :
    Books { log with settled := log.settled ++ seqs } later where
  sane := hdrops.sane h.sane
  balanced := hdrops.balanced h.balanced
  fewBatches sid := by
    rw [hdrops.outstanding]
    exact (length_filter_le _ _).trans (h.fewBatches sid)
  fewBytes sid := by
    rw [hdrops.outstanding]
    exact (List.Sublist.sum_le_sum (filter_sublist.map _) fun _ _ => Nat.zero_le _).trans
      (h.fewBytes sid)
  window sid := by
    rw [hdrops.outstanding]
    exact filter_sublist.countP_le.trans (h.window sid)
  admitted := h.admitted
  admittedBound := hdrops.next ▸ h.admittedBound
  outstanding pend hpend := by
    rw [hdrops.outstanding] at hpend
    exact h.outstanding pend (mem_of_mem_filter hpend)
  accounted sid inputSeq hseq := by
    have hbooked := h.accounted sid inputSeq hseq
    have hstays : ((later.outstanding sid).map PendingInput.inputSeq).count inputSeq =
        if inputSeq ∈ seqs then 0
        else ((router.outstanding sid).map PendingInput.inputSeq).count inputSeq := by
      rw [hdrops.outstanding]
      split
      · rename_i hgone
        rw [count_eq_zero, mem_map]
        rintro ⟨pend, hpend, rfl⟩
        exact of_decide_eq_true (mem_filter.mp hpend).2 hgone
      rename_i hkept
      have hmap : ((router.outstanding sid).filter
          fun pend => decide (pend.inputSeq ∉ seqs)).map PendingInput.inputSeq =
            ((router.outstanding sid).map PendingInput.inputSeq).filter
              fun seq => decide (seq ∉ seqs) := by
        rw [filter_map]
        rfl
      exact hmap ▸ count_filter (p := fun seq => decide (seq ∉ seqs)) (decide_eq_true hkept)
    rw [count_append, hstays]
    split
    · rename_i hgone
      -- It was outstanding on its own session, so it had not been settled before.
      obtain ⟨other, hother⟩ := hdrops.present inputSeq hgone
      obtain ⟨pend, hpend, hpendingSeq⟩ := mem_map.mp hother
      have hsess : sid = other :=
        h.one_session hseq (hpendingSeq ▸ (h.outstanding pend hpend).2)
      have hone : 0 < ((router.outstanding sid).map PendingInput.inputSeq).count inputSeq :=
        count_pos_iff.mpr (hsess ▸ hother)
      rw [count_eq_one_of_mem hdrops.nodup hgone]
      omega
    · rename_i hkept
      rw [count_eq_zero.mpr hkept, Nat.add_zero]
      exact hbooked
  settledAdmitted inputSeq hseq := by
    rcases mem_append.mp hseq with hseq | hseq
    · exact h.settledAdmitted inputSeq hseq
    obtain ⟨_, hother⟩ := hdrops.present inputSeq hseq
    obtain ⟨pend, hpend, rfl⟩ := mem_map.mp hother
    obtain ⟨admitted, hadmits, -, hsame⟩ :=
      InputLog.mem_admittedOn.mp (h.outstanding pend hpend).2
    exact mem_map.mpr ⟨admitted, hadmits, hsame⟩
  handedAdmitted := h.handedAdmitted
  firsts := h.firsts
  fresh pend hpend := by
    rw [hdrops.outstanding] at hpend
    exact h.fresh pend (mem_of_mem_filter hpend)
  once := h.once
  started pend hpend := by
    rw [hdrops.outstanding] at hpend
    exact h.started pend (mem_of_mem_filter hpend)

theorem mem_joined {held : PendingInput} (hjoins : Joins router later sid pend) : held ∈ later.outstanding other ↔
      held ∈ router.outstanding other ∨ (other = sid ∧ held = pend) := by
  rw [hjoins.outstanding]
  by_cases heq : other = sid
  · subst heq
    rw [if_pos rfl, mem_append, mem_singleton]
    simp
  · rw [if_neg heq]
    simp [heq]

theorem mem_admittedOn_joined :
    inputSeq ∈ { log with admissions := log.admissions ++ [pend] : InputLog }.admittedOn other ↔
      inputSeq ∈ log.admittedOn other ∨ (pend.sessionId = other ∧ pend.inputSeq = inputSeq) := by
  rw [InputLog.mem_admittedOn, InputLog.mem_admittedOn]
  simp [or_and_right, exists_or]

/-- A batch joins the end of its lane. -/
theorem joins (h : Books log router) (hjoins : Joins router later sid pend) :
    Books { log with admissions := log.admissions ++ [pend] } later where
  sane := by
    have hyoung : ∀ {other}, ∀ held ∈ router.outstanding other, held.inputSeq < pend.inputSeq := by
      intro other held hheld
      rw [hjoins.inputSeq]
      exact Nat.lt_succ_of_le (h.outstanding_le hheld)
    refine ⟨fun other => ?_, fun {other other' held held'} hheld hheld' hseq => ?_⟩
    · rw [hjoins.outstanding]
      split
      · rw [map_append, pairwise_append]
        refine ⟨h.sane.ordered sid, pairwise_singleton _ _, ?_⟩
        rintro _ hmem _ hnew
        obtain ⟨held, hheld, rfl⟩ := mem_map.mp hmem
        rw [map_singleton, mem_singleton] at hnew
        exact hnew ▸ hyoung held hheld
      · exact h.sane.ordered other
    · rcases (mem_joined hjoins).mp hheld with hheld | ⟨rfl, rfl⟩
      · rcases (mem_joined hjoins).mp hheld' with hheld' | ⟨rfl, rfl⟩
        · exact h.sane.apart hheld hheld' hseq
        · exact absurd hseq (Nat.ne_of_lt (hyoung held hheld))
      · rcases (mem_joined hjoins).mp hheld' with hheld' | ⟨rfl, rfl⟩
        · exact absurd hseq.symm (Nat.ne_of_lt (hyoung held' hheld'))
        · rfl
  balanced := hjoins.balanced h.balanced
  fewBatches other := by
    rw [hjoins.outstanding]
    split
    · rw [length_append]
      exact hjoins.roomForBatch
    · exact h.fewBatches other
  fewBytes other := by
    rw [hjoins.outstanding]
    split
    · rw [map_append, sum_append]
      exact hjoins.roomForBytes h.balanced
    · exact h.fewBytes other
  window other := by
    rw [hjoins.outstanding]
    split
    · rw [countP_append, countP_singleton, hjoins.unstarted]
      exact h.window sid
    · exact h.window other
  admitted := by
    rw [map_append, pairwise_append]
    refine ⟨h.admitted, pairwise_singleton _ _, ?_⟩
    intro inputSeq hmem _ hnew
    rw [map_singleton, mem_singleton] at hnew
    rw [hnew, hjoins.inputSeq]
    exact Nat.lt_succ_of_le (h.admitted_le hmem)
  admittedBound admitted hadmits := by
    rw [hjoins.next]
    rcases mem_append.mp hadmits with hadmits | hadmits
    · exact (h.admittedBound admitted hadmits).trans (Nat.le_succ _)
    · rw [mem_singleton.mp hadmits, hjoins.inputSeq]
  outstanding held hheld := by
    rw [mem_admittedOn_joined]
    rcases (mem_joined hjoins).mp hheld with hheld | ⟨rfl, rfl⟩
    · exact ⟨(h.outstanding held hheld).1, .inl (h.outstanding held hheld).2⟩
    · exact ⟨hjoins.session, .inr ⟨hjoins.session, rfl⟩⟩
  accounted other inputSeq hseq := by
    have hlater : ((later.outstanding other).map PendingInput.inputSeq).count inputSeq =
        ((router.outstanding other).map PendingInput.inputSeq).count inputSeq +
          if other = sid ∧ pend.inputSeq = inputSeq then 1 else 0 := by
      rw [hjoins.outstanding]
      by_cases heq : other = sid
      · subst heq
        simp [count_singleton]
      · simp [heq]
    rw [hlater]
    rcases mem_admittedOn_joined.mp hseq with hold | ⟨rfl, rfl⟩
    · -- An older sequence is another batch's.
      obtain ⟨admitted, hadmits, -, hadmitt⟩ := InputLog.mem_admittedOn.mp hold
      have hne : pend.inputSeq ≠ inputSeq := by
        rw [hjoins.inputSeq, ← hadmitt]
        exact Nat.ne_of_gt (Nat.lt_succ_of_le (h.admittedBound admitted hadmits))
      rw [if_neg fun hnew => hne hnew.2]
      exact h.accounted other inputSeq hold
    rw [if_pos ⟨hjoins.session, rfl⟩]
    have hset : pend.inputSeq ∉ log.settled := by
      intro hmem
      have hle := h.admitted_le (h.settledAdmitted _ hmem)
      rw [hjoins.inputSeq] at hle
      exact Nat.not_succ_le_self _ hle
    have houtstanding : pend.inputSeq ∉
        (router.outstanding pend.sessionId).map PendingInput.inputSeq := by
      intro hmem
      obtain ⟨_, hheld, hheldSeq⟩ := mem_map.mp hmem
      have hle := h.outstanding_le hheld
      rw [hheldSeq, hjoins.inputSeq] at hle
      exact Nat.not_succ_le_self _ hle
    rw [count_eq_zero.mpr hset, count_eq_zero.mpr houtstanding]
  settledAdmitted inputSeq hseq := by
    rw [map_append]
    exact mem_append_left _ (h.settledAdmitted inputSeq hseq)
  handedAdmitted handed hhand :=
    mem_admittedOn_joined.mpr (.inl (h.handedAdmitted handed hhand))
  firsts := h.firsts
  fresh held hheld hnever := by
    rcases (mem_joined hjoins).mp hheld with hheld | ⟨rfl, rfl⟩
    · exact h.fresh held hheld hnever
    intro inputSeq hmem
    obtain ⟨_, hhand, -, rfl⟩ := InputLog.mem_handedOn.mp hmem
    rw [hjoins.inputSeq]
    exact Nat.lt_succ_of_le (h.handed_le hhand)
  once := h.once
  started held hheld := by
    rcases (mem_joined hjoins).mp hheld with hheld | ⟨rfl, rfl⟩
    · exact h.started held hheld
    have hnever : log.handCount held.inputSeq = 0 := by
      refine count_eq_zero.mpr fun hmem => ?_
      obtain ⟨_, hhand, hseq⟩ := mem_map.mp hmem
      have hle := h.handed_le hhand
      rw [hseq, hjoins.inputSeq] at hle
      exact Nat.not_succ_le_self _ hle
    have hback := (h.once held.inputSeq).1
    rw [hnever] at hback
    rw [hjoins.unstarted]
    exact hnever.trans (Nat.le_zero.mp hback).symm

theorem edited (h : Accounts log router) {started : Bool} (hf : Marks f started)
    (hedits : Edits router later seqs f) (handOffs : List PendingInput) (putBacks : List Nat) :
    Accounts { log with handOffs := handOffs, putBacks := putBacks } later where
  sane := hedits.sane hf h.sane
  balanced := hedits.balanced h.balanced
  fewBatches sid := by
    rw [hedits.outstanding, length_map]
    exact h.fewBatches sid
  fewBytes sid := by
    rw [hedits.sizes hf]
    exact h.fewBytes sid
  admitted := h.admitted
  admittedBound := hedits.next ▸ h.admittedBound
  outstanding pend hpend := by
    rw [hedits.outstanding] at hpend
    obtain ⟨before, hpre, rfl⟩ := mem_map.mp hpend
    rw [hf.inputSeq_ite]
    refine ⟨?_, (h.outstanding before hpre).2⟩
    split
    · rw [hf.sessionId]
      exact (h.outstanding before hpre).1
    · exact (h.outstanding before hpre).1
  accounted sid inputSeq hseq := by
    rw [hedits.inputSeqs hf]
    exact h.accounted sid inputSeq hseq
  settledAdmitted := h.settledAdmitted

theorem eraseDups_eq_self {seqs : List Nat} (h : seqs.Nodup) : seqs.eraseDups = seqs := by
  induction seqs with
  | nil => rfl
  | cons seq rest ih =>
    rw [nodup_cons] at h
    have hrest : rest.filter (fun other => !other == seq) = rest := by
      refine filter_eq_self.mpr fun other hother => ?_
      have hne : other ≠ seq := fun heq => h.1 (heq ▸ hother)
      simpa using hne
    rw [eraseDups_cons, hrest, ih h.2]

theorem mem_startable (hpend : pend ∈ router.startable sid) :
    pend ∈ router.outstanding sid ∧ pend.started = false := by
  obtain ⟨hheld, hunsent⟩ := mem_filter.mp ((startable_sublist router sid).subset hpend)
  exact ⟨hheld, by simpa using hunsent⟩

theorem mem_startable_seqs (hsane : router.Sane) (hpend : pend ∈ router.outstanding other)
    (hseq : pend.inputSeq ∈ (router.startable sid).map PendingInput.inputSeq) :
    other = sid ∧ pend ∈ router.startable sid := by
  obtain ⟨_, hhand, hsame⟩ := mem_map.mp hseq
  obtain ⟨hheld, -⟩ := mem_startable hhand
  have hsess := hsane.apart hpend hheld hsame.symm
  exact ⟨hsess, hsane.unique (hsess ▸ hpend) hheld hsame.symm ▸ hhand⟩

theorem countP_named {batches : List PendingInput}
    (hnd : (batches.map PendingInput.inputSeq).Nodup) (seqs : List Nat) :
    batches.countP (fun pend => decide (pend.inputSeq ∈ seqs)) ≤ seqs.length := by
  rw [countP_eq_length_filter, ← length_map PendingInput.inputSeq]
  refine (subperm_of_subset (hnd.sublist (filter_sublist.map _)) ?_).length_le
  intro seq hseq
  obtain ⟨_, hpend, rfl⟩ := mem_map.mp hseq
  exact of_decide_eq_true (mem_filter.mp hpend).2

theorem window_filled (hsane : router.Sane)
    (hedits : Edits router later ((router.startable sid).map PendingInput.inputSeq) f)
    (hwindow : ∀ other, (router.outstanding other).countP (fun pend => pend.started) ≤
      maxStartedInputsPerSession) (other : String) :
    (later.outstanding other).countP (fun pend => pend.started) ≤ maxStartedInputsPerSession := by
  have hnd : ((router.outstanding other).map PendingInput.inputSeq).Nodup :=
    (hsane.ordered other).imp Nat.ne_of_lt
  rw [hedits.outstanding]
  by_cases hother : other = sid
  · -- What is started was started before or is handed over now.
    have hadded : ∀ batches : List PendingInput, (batches.map fun pend =>
          if pend.inputSeq ∈ (router.startable sid).map PendingInput.inputSeq then f pend
          else pend).countP (fun pend => pend.started) ≤
        batches.countP (fun pend => pend.started) + batches.countP fun pend => decide
            (pend.inputSeq ∈ (router.startable sid).map PendingInput.inputSeq) := by
      intro batches
      induction batches with
      | nil => exact Nat.le_refl _
      | cons first rest ih =>
        simp only [map_cons, countP_cons]
        split <;> split <;> simp_all <;> omega
    have hnamed := countP_named hnd ((router.startable sid).map PendingInput.inputSeq)
    have hroom := (startable_spec router hsane sid).2
    have hbound := hwindow sid
    have hsum := hadded (router.outstanding other)
    rw [length_map] at hnamed
    rw [hother] at hsum hnamed ⊢
    omega
  · rw [map_absent f fun pend hpend hmem =>
      hother (mem_startable_seqs hsane hpend hmem).1]
    exact hwindow other

section

variable (h : Books log router)
include h

theorem handedOn_hands (other : String) :
    InputLog.handedOn { log with handOffs := log.handOffs ++ router.startable sid } other =
      log.handedOn other ++
        if other = sid then (router.startable sid).map PendingInput.inputSeq
        else [] := by
  unfold InputLog.handedOn
  rw [filter_append, map_append]
  congr 1
  have hsess : ∀ pend ∈ router.startable sid, pend.sessionId = sid :=
    fun pend hpend => (h.outstanding pend (mem_startable hpend).1).1
  split
  · rename_i heq
    rw [filter_eq_self.mpr fun pend hpend =>
      decide_eq_true ((hsess pend hpend).trans heq.symm)]
  rename_i hne
  rw [filter_eq_nil_iff.mpr fun pend hpend => ?_, map_nil]
  rw [hsess pend hpend, decide_eq_true_eq]
  exact fun heq => hne heq.symm

theorem handCount_hands (inputSeq : Nat) :
    InputLog.handCount { log with handOffs := log.handOffs ++ router.startable sid } inputSeq =
      if inputSeq ∈ (router.startable sid).map PendingInput.inputSeq then
        log.handCount inputSeq + 1
      else log.handCount inputSeq := by
  have hnd : ((router.startable sid).map PendingInput.inputSeq).Nodup :=
    ((h.sane.ordered sid).sublist
      (((startable_sublist router sid).trans filter_sublist).map _)).imp Nat.ne_of_lt
  unfold InputLog.handCount
  rw [map_append, count_append]
  split
  · rename_i hmem
    rw [count_eq_one_of_mem hnd hmem]
  · rename_i hmem
    rw [count_eq_zero.mpr hmem, Nat.add_zero]

theorem hands (hf : Marks f true)
    (hedits : Edits router later ((router.startable sid).map PendingInput.inputSeq) f) :
    Books { log with handOffs := log.handOffs ++ router.startable sid } later where
  toAccounts := edited h.toAccounts hf hedits _ _
  window := window_filled h.sane hedits h.window
  handedAdmitted handed hhand := by
    rcases mem_append.mp hhand with hhand | hhand
    · exact h.handedAdmitted handed hhand
    · have hbatch := h.outstanding handed (mem_startable hhand).1
      exact hbatch.1.symm ▸ hbatch.2
  firsts other := by
    rw [handedOn_hands h]
    split
    · rename_i heq
      subst heq
      have hord : ((router.startable other).map PendingInput.inputSeq).Pairwise (· < ·) :=
        (h.sane.ordered other).sublist
          (((startable_sublist router other).trans filter_sublist).map _)
      -- What is handed over for the first time comes after all that was handed over before.
      have hnew := hord.sublist (filter_sublist (p := fun seq => !(log.handedOn other).elem seq))
      rw [eraseDups_append, pairwise_append]
      refine ⟨h.firsts other, ?_, ?_⟩
      · unfold removeAll
        rw [eraseDups_eq_self (hnew.imp Nat.ne_of_lt)]
        exact hnew
      intro earlier hearlier seq hseq
      rw [mem_eraseDups] at hearlier hseq
      obtain ⟨hhand, hnever⟩ := mem_filter.mp hseq
      obtain ⟨pend, hpend, rfl⟩ := mem_map.mp hhand
      exact h.fresh pend (mem_startable hpend).1 (by simpa using hnever) earlier hearlier
    · rw [append_nil]
      exact h.firsts other
  fresh held hheld hnever inputSeq hseq := by
    rw [handedOn_hands h] at hnever hseq
    rw [hedits.outstanding] at hheld
    obtain ⟨before, hpre, rfl⟩ := mem_map.mp hheld
    rw [hf.inputSeq_ite] at hnever ⊢
    rw [mem_append, not_or] at hnever
    rcases mem_append.mp hseq with hseq | hseq
    · exact h.fresh before hpre hnever.1 inputSeq hseq
    split at hseq
    · rename_i heq
      subst heq
      rw [if_pos rfl] at hnever
      obtain ⟨handed, hhand, rfl⟩ := mem_map.mp hseq
      refine (startable_spec router h.sane _).1 before hpre ?_ ?_ handed hhand
      · -- Never handed over, so never started.
        have hcount := h.started before hpre
        rw [h.handed_here hpre, Decidable.not_not] at hnever
        rw [hnever.1] at hcount
        cases hstart : before.started with
        | false => rfl
        | true =>
          rw [hstart, if_pos rfl] at hcount
          cases hcount
      · exact fun hmem => hnever.2 (mem_map_of_mem hmem)
    · cases hseq
  once inputSeq := by
    have hold := h.once inputSeq
    rw [handCount_hands h]
    split
    · rename_i hmem
      obtain ⟨handed, hhand, rfl⟩ := mem_map.mp hmem
      obtain ⟨hheld, hunsent⟩ := mem_startable hhand
      have hcount := h.started handed hheld
      rw [hunsent] at hcount
      rw [hcount]
      exact ⟨Nat.le_succ _, Nat.le_refl _⟩
    · exact hold
  started held hheld := by
    rw [hedits.outstanding] at hheld
    obtain ⟨before, hpre, rfl⟩ := mem_map.mp hheld
    have hcount := h.started before hpre
    rw [hf.inputSeq_ite, handCount_hands h]
    split
    · rename_i hmem
      have hunsent := (mem_startable (mem_startable_seqs h.sane hpre hmem).2).2
      rw [hunsent] at hcount
      rw [hf.started, hcount]
      rfl
    · exact hcount

theorem putsBack (hf : Marks f false) (hedits : Edits router later [inputSeq] f)
    (hpend : pend ∈ router.outstanding sid) (hseq : pend.inputSeq = inputSeq)
    (hstart : pend.started = true) :
    Books { log with putBacks := log.putBacks ++ [inputSeq] } later where
  toAccounts := edited h.toAccounts hf hedits _ _
  window other := by
    rw [hedits.outstanding, countP_map]
    refine (countP_mono_left fun held _ hheld => ?_).trans (h.window other)
    dsimp only [Function.comp] at hheld
    split at hheld
    · rw [hf.started] at hheld
      cases hheld
    · exact hheld
  handedAdmitted := h.handedAdmitted
  firsts := h.firsts
  fresh held hheld hnever := by
    rw [hedits.outstanding] at hheld
    obtain ⟨before, hpre, rfl⟩ := mem_map.mp hheld
    rw [hf.inputSeq_ite] at hnever ⊢
    exact h.fresh before hpre hnever
  once seq := by
    have hold := h.once seq
    rw [count_append, count_singleton]
    by_cases heq : inputSeq = seq
    · have hcount := h.started pend hpend
      rw [hseq, hstart, heq] at hcount
      have hput : InputLog.handCount { log with putBacks := log.putBacks ++ [inputSeq] } seq =
          log.putBacks.count seq + 1 := hcount
      rw [hput, if_pos (by simpa using heq)]
      exact ⟨Nat.le_refl _, Nat.le_succ _⟩
    · rw [if_neg (by simpa using heq)]
      exact hold
  started held hheld := by
    rw [hedits.outstanding] at hheld
    obtain ⟨before, hpre, rfl⟩ := mem_map.mp hheld
    have hcount := h.started before hpre
    rw [hf.inputSeq_ite]
    dsimp only
    rw [count_append, count_singleton]
    by_cases heq : before.inputSeq = inputSeq
    · -- The batch put back is the one that was started.
      have hsess := h.sane.apart hpre hpend (heq.trans hseq.symm)
      have hsame := h.sane.unique (hsess ▸ hpre) hpend (heq.trans hseq.symm)
      rw [hsame, hstart] at hcount
      rw [if_pos (mem_singleton.mpr heq), hf.started, hsame, hseq,
        if_pos (beq_self_eq_true inputSeq)]
      rw [hseq] at hcount
      exact hcount
    · rw [if_neg (fun hmem => heq (mem_singleton.mp hmem)),
        if_neg (by simpa using Ne.symm heq), Nat.add_zero]
      exact hcount

theorem settled {outcomes : List InputOutcome}
    (hdrops : Drops router later (outcomes.map InputOutcome.inputSeq)) :
    Books (log.record (.ofSettled outcomes)) later := by
  rw [InputLog.record_ofSettled]
  exact h.drops hdrops

theorem untouched (hdrops : Drops router later []) : Books (log.record .none) later :=
  have hnone : Drops router later (([] : List InputOutcome).map InputOutcome.inputSeq) := hdrops
  h.settled hnone

theorem admits (sid : String) (viewId : Option String) (bytes : List UInt8) (nowMs : Nat) :
    Books (log.record (inputRouter.answer router (.admitInput sid viewId bytes nowMs)))
      (inputRouter.next router (.admitInput sid viewId bytes nowMs)) := by
  change Books (log.record { RouterEffects.none with
      admitted := (router.admitInput sid viewId bytes nowMs).2.toOption })
    (router.admitInput sid viewId bytes nowMs).1
  cases hadmissible : (router.admitInput sid viewId bytes nowMs).2 with
  | error =>
    obtain ⟨hsame, hnext, hbalance⟩ := admitInput_error router sid viewId bytes nowMs hadmissible
    exact (InputLog.record_none log).symm ▸ h.idle hsame hnext hbalance
  | ok pend =>
    have hrec : log.record { RouterEffects.none with admitted := some pend } =
        { log with admissions := log.admissions ++ [pend] } := by
      simp [InputLog.record, RouterEffects.none]
    exact hrec ▸ h.joins (joins_admitInput router sid viewId bytes nowMs hadmissible)

theorem dispatches (sid : String) (token : TerminalToken) (nowMs : Nat) :
    Books (log.record (inputRouter.answer router (.dispatchStartable sid token nowMs)))
      (inputRouter.next router (.dispatchStartable sid token nowMs)) := by
  have hrec : log.record { RouterEffects.none with handed := router.startable sid } =
      { log with handOffs := log.handOffs ++ router.startable sid } := by
    simp [InputLog.record, RouterEffects.none]
  exact hrec ▸ h.hands (marks_handedTo token nowMs) (edits_dispatchStartable h.sane sid token nowMs)

theorem requeues (sid : String) (inputSeq : Nat) :
    Books (log.record (inputRouter.answer router (.requeueMovedSyncBatch sid inputSeq)))
      (inputRouter.next router (.requeueMovedSyncBatch sid inputSeq)) := by
  change Books (log.record { RouterEffects.none with
      putBack := if (router.requeueMovedSyncBatch sid inputSeq).2.1 then some inputSeq else none
      settled := (router.requeueMovedSyncBatch sid inputSeq).2.2 })
    (router.requeueMovedSyncBatch sid inputSeq).1
  rcases requeueMovedSyncBatch_cases h.sane sid inputSeq with hkept |
    ⟨kept, later, outcomes, pend, hmoved, hdrops, hedits, hpend, hseq, hstart⟩
  · rw [hkept]
    exact h.untouched (.refl router)
  rw [hmoved]
  have hback := (h.settled hdrops).putsBack marks_unsent hedits hpend hseq hstart
  rw [InputLog.record_ofSettled] at hback
  have hrec : log.record { RouterEffects.none with
      putBack := some inputSeq, settled := outcomes } = { log with
          settled := log.settled ++ outcomes.map InputOutcome.inputSeq
          putBacks := log.putBacks ++ [inputSeq] } := by
    simp [InputLog.record, RouterEffects.none]
  exact hrec ▸ hback

theorem settles_one {result : InputRouter × Bool} {outcome : InputOutcome}
    (hdrops : Drops router result.1 (if result.2 then [outcome.inputSeq] else [])) :
    Books (log.record (.ofSettled (if result.2 then [outcome] else []))) result.1 := by
  refine h.settled ?_
  cases hres : result.2 with
  | false | true =>
    rw [hres] at hdrops
    exact hdrops

/-- One call keeps the books. -/
theorem step (call : RouterCall) :
    Books (log.record (inputRouter.answer router call)) (inputRouter.next router call) := by
  have hsane := h.sane
  cases call with
  | admitInput sid viewId bytes nowMs => exact h.admits sid viewId bytes nowMs
  | dispatchStartable sid token nowMs => exact h.dispatches sid token nowMs
  | settle inputSeq outcome => exact h.settles_one (drops_settle hsane inputSeq outcome)
  | settleFrom sid token inputSeq outcome =>
    exact h.settles_one (drops_settleFrom hsane sid token inputSeq outcome)
  | sweepHeld nowMs => exact h.settled (drops_sweep hsane filter_sublist _ fun _ => rfl)
  | sweepUnanswered nowMs => exact h.settled (drops_sweep hsane (.refl _) _ fun _ => rfl)
  | retireToken token reason => exact h.settled (drops_retireFenced hsane _ reason)
  | retireSyncGeneration socketGeneration reason =>
    exact h.settled (drops_retireFenced hsane _ reason)
  | refuseUnstarted sid reason =>
    exact h.settled (drops_refuseUnstarted hsane sid reason)
  | setPhase sid phase => exact h.settled (drops_setPhase hsane sid phase)
  | blockRoutesOnSyncSocket => exact h.settled (drops_forgetRoutes hsane _)
  | requeueMovedSyncBatch sid inputSeq => exact h.requeues sid inputSeq
  | installRouteEpoch sid token epoch rev =>
    exact h.untouched (drops_installRouteEpoch router sid token epoch rev)
  | holdForPromotion sid attemptId token nowMs =>
    have hdrops : Drops router (router.holdForPromotion sid attemptId token nowMs) [] :=
      drops_holdLane router sid _
    exact h.untouched hdrops
  | beginFallback sid fp workerEpoch nowMs =>
    have hdrops : Drops router (router.beginFallback sid fp workerEpoch nowMs) [] :=
      drops_holdLane router sid _
    exact h.untouched hdrops
  | beginRouteClaim sid token workerEpoch attemptId nowMs =>
    exact h.untouched (drops_beginRouteClaim router sid token workerEpoch attemptId nowMs)
  | settleRouteClaim token result nowMs =>
    exact h.untouched (drops_settleRouteClaim router token result nowMs)
  | expireRouteClaims | rejectSyncClaims => exact h.untouched (drops_takeClaims hsane _)
  | releaseHeld sid => exact h.untouched (drops_releaseHeld router sid)
  | blockRoute sid => exact h.settled (drops_blockRoute hsane sid)
  | deferFallback sid nowMs => exact h.untouched (drops_deferFallback router sid nowMs)

end

/-- The books hold after every run. -/
theorem run (calls : List RouterCall) :
    Books (.ofEffects (inputRouter.answers .new calls)) (inputRouter.run .new calls) :=
  Transducer.answered (P := fun past router => Books (.ofEffects past) router) new
    (fun past router call h => by
      rw [InputLog.ofEffects, foldl_append]
      exact h.step call) calls

end Books

/-! ## Every run -/

/-- Input is first in, first out, handed over at most once unless it was put back, and settled
once. -/
theorem input_is_accounted (calls : List RouterCall) :
    let router := inputRouter.run .new calls
    let log := InputLog.ofEffects (inputRouter.answers .new calls)
    (∀ sid lane, router.lanes.lookup sid = some lane →
      lane.pendingBytes = (lane.pending.map fun pending => pending.bytes.length).sum ∧
      lane.pending.length ≤ maxPendingInputsPerSession ∧
      lane.pendingBytes ≤ maxPendingInputBytesPerSession ∧
      lane.pending.countP (fun pending => pending.started) ≤ maxStartedInputsPerSession ∧
      (lane.pending.map PendingInput.inputSeq).Pairwise (· < ·)) ∧
    (∀ sid, (log.handedOn sid).eraseDups.Sublist (log.admittedOn sid)) ∧
    (∀ inputSeq, log.putBacks.count inputSeq ≤ log.handCount inputSeq ∧
      log.handCount inputSeq ≤ log.putBacks.count inputSeq + 1) ∧
    (∀ sid, ∀ inputSeq ∈ log.admittedOn sid, log.settled.count inputSeq +
        ((router.outstanding sid).map PendingInput.inputSeq).count inputSeq = 1) ∧
    ∀ inputSeq ∈ log.settled, inputSeq ∈ log.admissions.map PendingInput.inputSeq := by
  intro router log
  have hbooks : Books log router := .run calls
  refine ⟨fun sid lane hlook => ?_, fun sid => ?_, hbooks.once, hbooks.accounted,
    hbooks.settledAdmitted⟩
  · have hheld := outstanding_of_lookup hlook
    have hbytes := hbooks.balanced hlook
    refine ⟨hbytes, hheld ▸ hbooks.fewBatches sid, ?_, hheld ▸ hbooks.window sid,
      hheld ▸ hbooks.sane.ordered sid⟩
    rw [hbytes, ← hheld]
    exact hbooks.fewBytes sid
  have hadmits : (log.admittedOn sid).Pairwise (· < ·) :=
    hbooks.admitted.sublist (filter_sublist.map _)
  have hfirsts := hbooks.firsts sid
  refine sublist_of_subperm_of_pairwise
    (subperm_of_subset (hfirsts.imp Nat.ne_of_lt) fun inputSeq hseq => ?_) hfirsts hadmits
  obtain ⟨handed, hhand, rfl, rfl⟩ := InputLog.mem_handedOn.mp (mem_eraseDups.mp hseq)
  exact hbooks.handedAdmitted handed hhand

/-! ## A batch the worker refused -/

/-- The lane's route is a direct carrier's. -/
def InputLane.routedDirect (lane : InputLane) : Bool :=
  lane.routeEpochToken.any fun token => decide (token.transport ≠ .sync)

/-- Putting a batch back keeps the lane's stream exactly when the lane holds nothing unsent, or its
route is direct and the refusal is a straggler. -/
theorem requeue_keeps_stream (calls : List RouterCall) (sid : String) (inputSeq : Nat)
    {lane : InputLane} (hlookup : (inputRouter.run .new calls).lanes.lookup sid = some lane)
    (hsending : lane.phase = .sending) (hstarted : lane.startedOnSync inputSeq = true) :
    (((inputRouter.run .new calls).requeueMovedSyncBatch sid inputSeq).1.outstanding
        sid).map (fun pending => (pending.inputSeq, pending.bytes)) =
          lane.pending.map (fun pending => (pending.inputSeq, pending.bytes)) ↔
      lane.routedDirect = true ∨ ∀ pending ∈ lane.pending, pending.started = true := by
  have hsane := (Books.run calls).sane
  generalize inputRouter.run .new calls = router at hlookup hsane
  have hheld := outstanding_of_lookup hlookup
  have hordered := hheld ▸ hsane.ordered sid
  unfold requeueMovedSyncBatch
  rw [hlookup]
  dsimp only
  split
  · rename_i hstays
    have hdirect : lane.routedDirect = true := by
      simpa [InputLane.routedDirect, hstarted, hsending] using hstays
    exact iff_of_true (by rw [hheld]) (.inl hdirect)
  rename_i hgoes
  have hdirect : ¬lane.routedDirect = true := fun hdirect => hgoes (.inl hdirect)
  have hdrops := drops_forgetRoute hsane sid
  have hleft : (router.forgetRoute sid).1.outstanding sid =
      lane.pending.filter fun pending => pending.started := by
    rw [hdrops.outstanding, inputSeq_forgetRoute hsane hlookup, hheld]
    refine filter_congr fun pending hpending => ?_
    rw [Bool.eq_iff_iff, decide_eq_true_eq]
    constructor
    · intro hkept
      by_contra hunsent
      exact hkept (mem_map_of_mem (mem_filter.mpr ⟨hpending, by simpa using hunsent⟩))
    intro hsent hmem
    obtain ⟨_, hother, hsame⟩ := mem_map.mp hmem
    obtain ⟨hother, hunsent⟩ := mem_filter.mp hother
    rw [hsane.unique (hheld ▸ hother) (hheld ▸ hpending) hsame, hsent] at hunsent
    cases hunsent
  -- The batch is put back in place, so what the lane keeps is what had been sent.
  have hkept : (((router.forgetRoute sid).1.modifyLane sid fun lane =>
      { lane with pending := modifyBatch inputSeq unsent lane.pending }).outstanding
        sid).map (fun pending => (pending.inputSeq, pending.bytes)) =
      (lane.pending.filter fun pending => pending.started).map
        fun pending => (pending.inputSeq, pending.bytes) := by
    rw [← hleft]
    unfold modifyLane
    cases hlater : (router.forgetRoute sid).1.lanes.lookup sid with
    | none => rfl
    | some =>
      have hsorted := outstanding_of_lookup hlater ▸ (hdrops.sane hsane).ordered sid
      rw [outstanding_of_lookup hlater, outstanding_setLane, if_pos rfl]
      dsimp only
      rw [InputLane.modifyBatch_eq_map hsorted, map_map]
      refine map_congr_left fun pending _ => ?_
      rw [Function.comp_apply]
      split <;> rfl
  dsimp only
  rw [hkept]
  constructor
  · intro hsame
    have hlength := congrArg length hsame
    rw [length_map, length_map, length_filter_eq_length_iff] at hlength
    exact .inr hlength
  · rintro (hcontra | hsent)
    · exact absurd hcontra hdirect
    · rw [filter_eq_self.mpr hsent]

/-- Nine batches typed at once fill the window of eight. -/
def burst : List RouterCall :=
  (List.range 9).map (fun key => .admitInput "s" none [UInt8.ofNat key] 0) ++
    [.dispatchStartable "s" (.sync 1 "epoch" 1) 0]

theorem requeue_keeps_stream_alone :
    let router := inputRouter.run .new (burst.drop 8)
    ((router.requeueMovedSyncBatch "s" 1).1.outstanding "s").map
        (fun pending => (pending.inputSeq, pending.bytes)) =
      (router.laneOrNew "s").pending.map fun pending => (pending.inputSeq, pending.bytes) :=
  (requeue_keeps_stream (burst.drop 8) "s" 1 (by decide +kernel) (by decide +kernel)
    (by decide +kernel)).mpr (.inr (by decide +kernel))

/-- The ninth batch is refused with the route. -/
theorem moved_route_drops_burst :
    let router := inputRouter.run .new burst
    (router.laneOrNew "s").phase = .sending ∧ (router.laneOrNew "s").startedOnSync 1 = true ∧
      (router.outstanding "s").map inputSeq = [1, 2, 3, 4, 5, 6, 7, 8, 9] ∧
      ((router.requeueMovedSyncBatch "s" 1).1.outstanding "s").map inputSeq =
        [1, 2, 3, 4, 5, 6, 7, 8] := by
  decide +kernel

end Roost.Client
