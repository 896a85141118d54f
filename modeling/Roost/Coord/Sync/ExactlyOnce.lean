-- SUMMARY: When a recovery hands every event over exactly once.
import Roost.Coord.Sync.RecoveryBooks

/-!
# Exactly once across the seam

Every operation of a resuming socket that meets the condition keeps its books, so every run
does. The condition is needed: a recovery abandoned with two events held loses the first.
-/

namespace Roost.Coord.Sync

open List

open RecoveryPhase SessionReplay

namespace Recovery

variable {ε : Type} (estimatedBytes : ε → Nat) {recovery : Recovery ε} {before : List Nat}

/-! ## The log's answers -/

section

variable (h : recovery.Kept)
include h

theorem Kept.abort (hphase : recovery.phase.isDone = false) : recovery.abortRecovery.Kept := by
  cases h with
  | waiting before h | abandoned h => exact h.abortRecovery
  | completed h => simp [h.done, isDone] at hphase

theorem Kept.stop (hphase : recovery.phase.isDone = false) : recovery.stopRecovery.Kept := by
  cases h with
  | waiting before h | abandoned h => exact h.stopRecovery
  | completed h => simp [h.done, isDone] at hphase

theorem Kept.cutoff (logEnd : Nat) : (recovery.onCutoff logEnd).Kept := by
  cases hphase : recovery.phase with
  | start =>
    cases h with
    | waiting before h =>
      have hstand := h.standing
      simp only [Standing, hphase] at hstand
      have hpend : ([] : List Nat) = recovery.phase.pending := by rw [hphase]; rfl
      simp only [onCutoff, hphase]
      split
      · have hrewrite : ({ recovery with phase := .rewound } : Recovery ε).Waiting before :=
          h.move hpend hstand
        split
        · exact .waiting before hrewrite
        · exact .waiting before { hrewrite with }
      · refine .waiting before (h.move hpend ⟨hstand.1, ?_⟩)
        rw [hstand.2]
        simp
    | abandoned h =>
      simp only [onCutoff, hphase]
      split
      · split
        · exact h.phase rfl
        · exact h.move rfl h.idle h.aborted h.collects
      · exact h.phase rfl
    | completed h => cases h.done.symm.trans hphase
  | _ =>
    simp only [onCutoff, hphase]
    exact h

theorem Kept.page (page : List (StoredEvent ε)) : (recovery.onPage page).Kept := by
  cases hphase : recovery.phase with
  | paging =>
    simp only [onPage, hphase]
    split
    · split
      · exact h.stop (by rw [hphase]; rfl)
      cases h with
      | waiting before h =>
        have hstand := h.standing
        simp only [Standing, hphase] at hstand
        exact .waiting before (h.move (by rw [hphase]; rfl) hstand)
      | abandoned h => exact h.phase rfl
      | completed h => cases h.done.symm.trans hphase
    · exact h
  | _ =>
    simp only [onPage, hphase]
    exact h

theorem Kept.readFailure : recovery.onReadFailure.Kept := by
  cases hphase : recovery.phase with
  | start =>
    simp only [onReadFailure, hphase]
    exact h.abort (by rw [hphase]; rfl)
  | paging =>
    simp only [onReadFailure, hphase]
    split
    · exact h.abort (by rw [hphase]; rfl)
    · exact h
  | _ =>
    simp only [onReadFailure, hphase]
    exact h

theorem Kept.refusal : recovery.onRefusal.Kept := by
  cases hphase : recovery.phase with
  | delivering | releasing =>
    simp only [onRefusal, hphase]
    exact h.stop (by rw [hphase]; rfl)
  | _ =>
    simp only [onRefusal, hphase]
    exact h

theorem Kept.close : ({ recovery with closed := true } : Recovery ε).Kept := by
  cases h with
  | waiting before h =>
    refine .waiting before { h with standing := ?_ }
    have hstand := h.standing
    unfold Standing at hstand ⊢
    cases hphase : recovery.phase with
    | stopped => rfl
    | done => simp [hphase] at hstand
    | _ => simpa only [hphase] using hstand
  | abandoned h => exact .abandoned { h with }
  | completed h => exact .completed { h with }

end

/-! ## The task's next lock -/

theorem admitRecovered_frame (replay : SessionReplay ε) (id : Nat) :
    (replay.admitRecovered id).1.recovering = replay.recovering ∧
      (replay.admitRecovered id).1.aborted = replay.aborted ∧
      (replay.admitRecovered id).1.collectingBoundary = replay.collectingBoundary ∧
      (replay.admitRecovered id).1.held = replay.held ∧
      ∀ other ∈ (replay.admitRecovered id).1.boundary, other ∈ replay.boundary := by
  unfold admitRecovered
  split
  · exact ⟨rfl, rfl, rfl, rfl, fun _ hmem => hmem⟩
  · exact ⟨rfl, rfl, rfl, rfl, fun _ hmem => Finset.mem_of_mem_erase hmem⟩

variable {row : StoredEvent ε} {rest : List (StoredEvent ε)} {cutoff : Nat}

theorem Waiting.nextRow (h : recovery.Waiting before) {cursor : Nat}
    (hphase : recovery.phase = .rows (row :: rest) cursor cutoff) :
    (recovery.nextRow row rest cursor cutoff).Kept := by
  have hstand := h.standing
  simp only [Standing, hphase] at hstand
  unfold Recovery.nextRow
  split
  · exact h.stopRecovery
  rename_i hrow
  split
  · rename_i hgone
    exact h.vanish hgone
  refine .waiting before (h.move (by rw [hphase]; rfl) ⟨hstand.1, by omega, ?_⟩)
  intro other hother
  have := (hstand.2 other hother).1
  omega

theorem Waiting.deliver (h : recovery.Waiting before)
    (hphase : recovery.phase = .delivering row rest cutoff) : ({ recovery with
        phase := .recovered row rest cutoff
        rows := recovery.rows ++ [row.id]
        handed := recovery.handed ++ [row.id] } : Recovery ε).Waiting before := by
  have hstand := h.standing
  simp only [Standing, hphase] at hstand
  obtain ⟨hnone, hcut, hrows⟩ := hstand
  have hpend : recovery.phase.pending = [] := by rw [hphase]; rfl
  refine { h with
    ascending := ?_
    taken := ?_
    split := ?_
    boundary := ?_
    known := ?_
    standing := ⟨hnone, hcut, ?_⟩ }
  · refine h.ascending_next h.known fun _ => ⟨hrows, ?_⟩
    rw [hnone]
    simp
  · intro other hmem
    rcases mem_append.mp hmem with hold | hlast
    · exact mem_append_left _ (h.taken other hold)
    · exact mem_append_right _ hlast
  · rw [h.split, hpend]
    rfl
  · have hboundary := h.boundary
    rw [hpend] at hboundary
    exact hboundary
  · intro id hmem habove
    rcases mem_append.mp hmem with hold | hlast
    · exact (h.known id hold habove).imp_left (mem_append_left _)
    · exact .inl (mem_append_right _ hlast)
  intro other hmem
  rcases mem_append.mp hmem with hold | hlast
  · exact Nat.le_of_lt (hrows other hold)
  · exact Nat.le_of_eq (mem_singleton.mp hlast)

theorem Waiting.recovered (h : recovery.Waiting before)
    (hphase : recovery.phase = .recovered row rest cutoff) : ({ recovery with
        replay := (recovery.replay.admitRecovered row.id).1
        phase := .rows rest row.id cutoff } : Recovery ε).Waiting before := by
  obtain ⟨hrec, habort, hcoll, hheld, hboundary⟩ :=
    admitRecovered_frame recovery.replay row.id
  have hstand := h.standing
  simp only [Standing, hphase] at hstand
  obtain ⟨hnone, hcut, hrows⟩ := hstand
  have hpend : recovery.phase.pending = [] := by rw [hphase]; rfl
  refine { h with
    collects := hcoll.trans h.collects
    recovering := hrec.trans h.recovering
    fresh := habort.trans h.fresh
    split := ?_
    stamps := ?_
    boundary := ?_
    standing := ⟨hnone, ?_⟩ }
  · rw [hheld, h.split, hpend]
    rfl
  · rw [hheld]
    exact h.stamps
  · intro id hmem
    have hid := h.boundary id (hboundary id hmem)
    rwa [hpend] at hid
  · intro other hmem
    have := hrows other hmem
    omega

theorem popRecoveryTail_cases (replay : SessionReplay ε) (cutoff : Nat) :
    (∃ next, replay.popRecoveryTail cutoff = (next, none) ∧ next.recovering = false ∧
        next.cutoff = cutoff ∧ next.collectingBoundary = replay.collectingBoundary ∧
        next.boundary = replay.boundary ∧
        ∀ key ∈ replay.held.keys, cutoff < key → key ∈ replay.boundary) ∨
      ∃ next dropped id message bytes, replay.popRecoveryTail cutoff = (next, some message) ∧
        next.recovering = replay.recovering ∧ next.aborted = replay.aborted ∧
        next.collectingBoundary = replay.collectingBoundary ∧
        next.boundary = insert id replay.boundary ∧
        replay.held.entries = dropped ++ (id, message, bytes) :: next.held.entries ∧
        cutoff < id ∧ ∀ entry ∈ dropped, cutoff < entry.1 → entry.1 ∈ replay.boundary := by
  rcases replay.held.popUntil_cases fun id => decide (id > cutoff ∧ id ∉ replay.boundary) with
    ⟨hpop, hall⟩ | ⟨dropped, ⟨id, message, bytes⟩, rest, hpop, hentries, hdropped, hfound⟩
  · have hstep : replay.popRecoveryTail cutoff = ({ replay with
            cutoff
            held := .empty
            heldBytes := replay.heldBytes - (replay.held.entries.map fun entry => entry.2.2).sum
            recovering := false }, none) := by
      simp only [popRecoveryTail, hpop]
    refine .inl ⟨_, hstep, rfl, rfl, rfl, rfl, ?_⟩
    intro key hkey habove
    by_contra hbound
    exact absurd (hall key hkey) (by simp [habove, hbound])
  have hstep : replay.popRecoveryTail cutoff = ({ replay with
          cutoff
          held := rest
          heldBytes := replay.heldBytes - (dropped.map fun entry => entry.2.2).sum - bytes
          boundary := insert id replay.boundary }, some message) := by
    simp only [popRecoveryTail, hpop]
  refine .inr ⟨_, dropped, id, message, bytes, hstep, rfl, rfl, rfl, rfl, hentries,
    (of_decide_eq_true hfound).1, ?_⟩
  intro entry hentry habove
  by_contra hbound
  exact absurd (hdropped entry hentry) (by simp [habove, hbound])

section

variable (h : recovery.Waiting before)
include h

theorem Waiting.dropped (hpend : recovery.phase.pending = [])
    (hrows : ∀ id ∈ recovery.replay.held.keys, recovery.since < id → id ≤ cutoff →
      id ∈ recovery.rows) {key : Nat} (hkey : key ∈ recovery.replay.held.keys)
    (hdrop : cutoff < key → key ∈ recovery.replay.boundary) (habove : recovery.since < key) :
    key ∈ recovery.handed := by
  refine h.taken key (hrows key hkey habove (Nat.le_of_not_lt fun hlt => ?_))
  have hbound := h.boundary key (hdrop hlt)
  rw [hpend, append_nil] at hbound
  exact absurd (h.before_lt hbound hkey) (Nat.lt_irrefl _)

theorem Waiting.nextHeld (hphase : recovery.phase = .tail cutoff)
    (hrows : ¬recovery.gone → ∀ id ∈ recovery.replay.held.keys, recovery.since < id →
      id ≤ cutoff → id ∈ recovery.rows) : (recovery.nextHeld cutoff).Kept := by
  have hstand := h.standing
  simp only [Standing, hphase] at hstand
  have hpend : recovery.phase.pending = [] := by rw [hphase]; rfl
  have hsplit := h.split
  rw [hpend, append_nil] at hsplit
  have hboundary := h.boundary
  rw [hpend, append_nil] at hboundary
  unfold Recovery.nextHeld
  split
  · rename_i hgone
    exact h.vanish hgone
  rename_i hpresent
  -- Either the tail is empty, or its first owed id is handed over.
  rcases popRecoveryTail_cases recovery.replay cutoff with
    ⟨next, hpop, hidle, hends, hcoll, hbound, hall⟩ |
    ⟨next, dropped, id, message, bytes, hpop, hrec, habort, hcoll, hbound, hentries, hcut, hdropped⟩
  · rw [hpop]
    refine .completed ⟨⟨hcoll.trans h.collects, h.ascending, h.taken⟩, hidle, rfl,
      fun row hrow => hends.symm ▸ hstand.1 row hrow, ?_, ?_, ?_⟩
    · intro id hmem habove
      exact (h.known id hmem habove).imp_right h.live
    · intro id hmem habove
      rw [hsplit] at hmem
      rcases mem_append.mp hmem with hpre | hkey
      · exact hstand.2 id hpre habove
      · exact h.dropped hpend (hrows hpresent) hkey (hall id hkey) habove
    · intro id hmem
      dsimp only at hmem
      rw [hbound] at hmem
      exact h.live (hboundary id hmem)
  have hkeys : recovery.replay.held.keys = dropped.map Prod.fst ++ id :: next.held.keys := by
    simp [OrderedMap.keys, hentries]
  have hstamp : message.stamp = id :=
    h.stamps (id, message, bytes) (by simp [hentries])
  rw [hpop]
  dsimp only [emitSessionFrame]
  refine .waiting (before ++ dropped.map Prod.fst) { h with
    collects := hcoll.trans h.collects
    recovering := hrec.trans h.recovering
    fresh := habort.trans h.fresh
    split := ?_
    stamps := ?_
    boundary := ?_
    known := ?_
    standing := ⟨?_, hstand.1, ?_⟩ }
  · dsimp only [pending]
    rw [hsplit, hkeys, hstamp]
    simp
  · intro entry hmem
    refine h.stamps entry ?_
    rw [hentries]
    exact mem_append_right _ (mem_cons_of_mem _ hmem)
  · intro other hmem
    dsimp only [pending] at hmem ⊢
    rw [hbound] at hmem
    rw [hstamp]
    rcases Finset.mem_insert.mp hmem with rfl | hold
    · exact mem_append_right _ (mem_singleton.mpr rfl)
    · exact mem_append_left _ (mem_append_left _ (hboundary other hold))
  · intro other hmem habove
    exact (h.known other hmem habove).imp_right (mem_append_left _)
  · rw [hstamp]
    exact hcut
  intro other hmem habove
  rcases mem_append.mp hmem with hpre | hdrop
  · exact hstand.2 other hpre habove
  obtain ⟨entry, hentry, rfl⟩ := mem_map.mp hdrop
  have hkey : entry.1 ∈ recovery.replay.held.keys := by
    rw [hkeys]
    exact mem_append_left _ hdrop
  exact h.dropped hpend (hrows hpresent) hkey (hdropped entry hentry) habove

theorem Waiting.release {message : SessionBusMessage ε} (hphase : recovery.phase = .releasing message cutoff) :
    ({ recovery with
        phase := .tail cutoff
        handed := recovery.handed ++ [message.stamp] } : Recovery ε).Waiting
      (before ++ [message.stamp]) := by
  have hstand := h.standing
  simp only [Standing, hphase] at hstand
  obtain ⟨hcut, hrows, hhand⟩ := hstand
  have hpend : recovery.phase.pending = [message.stamp] := by rw [hphase]; rfl
  have hpre : ∀ other ∈ before, other < message.stamp := by
    intro other hmem
    have horder := h.inOrder
    rw [h.split, hpend] at horder
    exact (pairwise_append.mp (pairwise_append.mp horder).1).2.2 other hmem _
      (mem_singleton.mpr rfl)
  refine { h with
    ascending := ?_
    taken := ?_
    split := ?_
    boundary := ?_
    known := ?_
    standing := ⟨hrows, ?_⟩ }
  · refine h.ascending_next h.known fun _ => ⟨fun row hrow => ?_, hpre⟩
    exact Nat.lt_of_le_of_lt (hrows row hrow) hcut
  · intro row hrow
    exact mem_append_left _ (h.taken row hrow)
  · rw [h.split, hpend]
    simp [pending]
  · have hboundary := h.boundary
    rw [hpend] at hboundary
    simpa [pending] using hboundary
  · intro id hmem habove
    rcases mem_append.mp hmem with hold | hlast
    · exact (h.known id hold habove).imp_right (mem_append_left _)
    · exact .inr (mem_append_right _ hlast)
  intro id hmem habove
  rcases mem_append.mp hmem with hold | hlast
  · exact mem_append_left _ (hhand id hold habove)
  · exact mem_append_right _ hlast

theorem Waiting.advance
    (hmeets : recovery.Meets estimatedBytes .advance) : recovery.advance.1.Kept := by
  have hstand := h.standing
  cases hphase : recovery.phase with
  | start | done | stopped =>
    simp only [Recovery.advance, hphase]
    exact .waiting before h
  | rewound =>
    simp only [Recovery.advance, hphase]
    exact h.stopRecovery
  | paging =>
    simp only [Standing, hphase] at hstand
    simp only [Recovery.advance, hphase]
    split
    · exact .waiting before h
    refine .waiting before (h.move (by rw [hphase]; rfl) ⟨fun row hrow => ?_, ?_⟩)
    · exact (hstand.2 row hrow).2
    · rw [hstand.1]
      simp
  | rows rows =>
    simp only [Standing, hphase] at hstand
    cases rows with
    | nil =>
      simp only [Recovery.advance, hphase]
      exact .waiting before (h.move (by rw [hphase]; rfl) hstand)
    | cons =>
      simp only [Recovery.advance, hphase]
      exact h.nextRow hphase
  | delivering =>
    simp only [Recovery.advance, hphase]
    split
    · exact h.stopRecovery
    · exact .waiting before (h.deliver hphase)
  | recovered =>
    simp only [Recovery.advance, hphase]
    exact .waiting before (h.recovered hphase)
  | tail =>
    simp only [Meets, hphase] at hmeets
    simp only [Recovery.advance, hphase]
    exact h.nextHeld hphase hmeets
  | releasing =>
    simp only [Recovery.advance, hphase]
    split
    · exact h.stopRecovery
    · exact .waiting _ (h.release hphase)

end

theorem Abandoned.advance (h : recovery.Abandoned) : recovery.advance.1.Kept := by
  cases hphase : recovery.phase with
  | rewound =>
    simp only [Recovery.advance, hphase]
    exact h.stopRecovery
  | paging =>
    simp only [Recovery.advance, hphase]
    split
    · exact .abandoned h
    · exact h.phase rfl
  | rows rows =>
    cases rows with
    | nil =>
      simp only [Recovery.advance, hphase]
      exact h.phase rfl
    | cons =>
      simp only [Recovery.advance, hphase, nextRow, if_pos h.gone]
      split
      · exact h.stopRecovery
      · exact h.phase rfl
  | delivering | releasing =>
    simp only [Recovery.advance, hphase, if_pos h.gone]
    exact h.stopRecovery
  | recovered row =>
    obtain ⟨hrec, habort, hcoll, -⟩ := admitRecovered_frame recovery.replay row.id
    simp only [Recovery.advance, hphase]
    exact h.move rfl (hrec.trans h.idle) (habort.trans h.aborted) (hcoll.trans h.collects)
  | tail =>
    simp only [Recovery.advance, hphase, nextHeld, if_pos h.gone]
    exact h.phase rfl
  | _ =>
    simp only [Recovery.advance, hphase]
    exact .abandoned h

theorem Kept.advance (h : recovery.Kept) (hmeets : recovery.Meets estimatedBytes .advance) :
    recovery.advance.1.Kept := by
  cases h with
  | waiting before h => exact h.advance estimatedBytes hmeets
  | abandoned h => exact h.advance
  | completed h =>
    simp only [Recovery.advance, h.done]
    exact .completed h

/-! ## Runs -/

/-- An operation that meets its condition keeps the books. -/
theorem Kept.next (h : recovery.Kept) {op : Op ε} (hnext : recovery.Ascending op)
    (hmeets : recovery.Meets estimatedBytes op) :
    ((machine estimatedBytes).next recovery op).Kept := by
  cases op with
  | live => exact h.live hnext hmeets
  | readCutoff logEnd => exact h.cutoff logEnd
  | readPage page => exact h.page page
  | readFails => exact h.readFailure
  | advance => exact h.advance estimatedBytes hmeets
  | refuse => exact h.refusal
  | close => exact h.close

/-- The condition on a run: the feed is in order, and every step meets `Meets`. -/
def Fits (since : Nat) (ops : List (Op ε)) : Prop :=
  (machine estimatedBytes).Along (fun recovery op => recovery.Ascending op ∧
    recovery.Meets estimatedBytes op) (.new since) ops
  deriving Decidable

variable {ops : List (Op ε)} {since : Nat}

/-- The books hold along every run that fits. -/
theorem run_kept (hsince : 0 < since)
    (h : Fits estimatedBytes since ops) : ((machine estimatedBytes).run (.new since) ops).Kept :=
  Transducer.Along.invariant (Kept.new hsince)
    (fun _ _ hkept hstep => hkept.next estimatedBytes hstep.1 hstep.2) h

theorem next_since (recovery : Recovery ε) (op : Op ε) :
    ((machine estimatedBytes).next recovery op).since = recovery.since := by
  cases op with
  | live message =>
    change (recovery.onLive estimatedBytes message).1.since = _
    unfold onLive
    split <;> rfl
  | readCutoff logEnd =>
    change (recovery.onCutoff logEnd).since = _
    unfold onCutoff
    split
    · split <;> rfl
    · rfl
  | readPage page =>
    change (recovery.onPage page).since = _
    unfold onPage
    split
    · split
      · split <;> rfl
      · rfl
    · rfl
  | readFails =>
    change recovery.onReadFailure.since = _
    unfold onReadFailure
    split
    · rfl
    · split <;> rfl
    · rfl
  | advance =>
    change recovery.advance.1.since = _
    unfold advance nextRow nextHeld
    split <;> (try split) <;> (try split) <;> (try split) <;> rfl
  | refuse =>
    change recovery.onRefusal.since = _
    unfold onRefusal
    split <;> rfl
  | close => rfl

theorem run_since :
    ((machine estimatedBytes).run (.new since) ops).since = since :=
  (machine estimatedBytes).invariant (P := fun recovery => recovery.since = since) rfl
    (fun recovery op h => (next_since estimatedBytes recovery op).trans h) ops

def frameIds (recovery : Recovery ε) (message : SessionBusMessage ε) : List Nat :=
  ((recovery.onLive estimatedBytes message).2.map SessionBusMessage.stamp).toList

/-- An abort releases what is owed exactly under its condition. -/
theorem Kept.releases_iff (h : recovery.Kept) {message : SessionBusMessage ε}
    (hnext : recovery.Ascending (.live message)) (haborts : recovery.Aborts estimatedBytes message) :
    recovery.Releases message (frameIds estimatedBytes recovery message) ↔
      recovery.AbortFits message := by
  rw [frameIds, onLive_open haborts.1]
  cases h with
  | waiting before h => exact h.releases_iff hnext haborts
  | abandoned h | completed h => exact absurd haborts.2.1 (by simp [h.idle])

def ReleasesOwed (recovery : Recovery ε) : Op ε → Prop
  | .live message =>
    recovery.Aborts estimatedBytes message →
      recovery.Releases message (frameIds estimatedBytes recovery message)
  | _ => True

instance (recovery : Recovery ε) (op : Op ε) : Decidable (ReleasesOwed estimatedBytes recovery op) := by
  apply @Op.casesOn _ _ op <;> intros <;> dsimp only [ReleasesOwed] <;> infer_instance

/-- In a run that meets the condition every id above the cursor is handed over at most once
and in order, all of them when the recovery completes, and an abandoned recovery releases
what it owes. -/
theorem run_exactlyOnce (hsince : 0 < since)
    (h : Fits estimatedBytes since ops) :
    let final := (machine estimatedBytes).run (.new since) ops
    (final.handed.filter fun id => decide (since < id)).Pairwise (· < ·) ∧
      (final.phase.isDone = true →
        ∀ id ∈ final.live ++ final.rows, since < id → id ∈ final.handed) ∧
      (machine estimatedBytes).Along (ReleasesOwed estimatedBytes) (.new since) ops := by
  have hkept := run_kept estimatedBytes hsince h
  have hsame : ((machine estimatedBytes).run (.new since) ops).since = since :=
    run_since estimatedBytes
  refine ⟨?_, ?_, ?_⟩
  · have hascends := hkept.books.ascending
    rw [hsame] at hascends
    exact hascends
  · intro hdone id hmem habove
    rcases mem_append.mp hmem with hlive | hrow
    · cases hkept with
      | waiting before hkept | abandoned hkept => exact absurd hdone (by simp [hkept.unfinished])
      | completed hkept => exact hkept.complete id hlive (by rwa [hsame])
    · exact hkept.books.taken id hrow
  refine Transducer.Along.strengthen (Kept.new hsince)
    (fun _ _ hkept hstep => hkept.next estimatedBytes hstep.1 hstep.2) ?_ h
  intro recovery op hkept hstep
  cases op with
  | live =>
    intro haborts
    have hmeets := hstep.2 haborts.1
    rw [if_pos haborts.2.1] at hmeets
    exact (hkept.releases_iff estimatedBytes hstep.1 haborts).mpr (hmeets haborts)
  | _ => trivial

/-- A recovery at cursor 10 that completes: events 12 and 14 come live while rows 11 to 13 are
read, event 12 is a row too, and event 15 follows the end. -/
def completes : List (Op Unit) :=
  [.live (.committed () 12), .readCutoff 13, .readPage [⟨11, ()⟩, ⟨12, ()⟩, ⟨13, ()⟩],
    .advance, .advance, .advance, .live (.committed () 14), .advance, .advance, .advance,
    .advance, .advance, .advance, .advance, .advance, .advance, .advance, .advance,
    .live (.committed () 15)]

/-- A recovery that is abandoned with row 11 handed over and event 12 held. -/
def abandons : List (Op Unit) :=
  [.live (.committed () 12), .readCutoff 13, .readPage [⟨11, ()⟩], .advance, .advance, .advance,
    .live { event := (), eventId := none }]

/-- One recovery completes; the other is abandoned and owes one frame. -/
theorem run_exactlyOnce_completes :
    (let final := (machine fun _ => 0).run (.new 10) completes
     (final.handed.filter fun id => decide (10 < id)).Pairwise (· < ·) ∧
        (final.phase.isDone = true →
          ∀ id ∈ final.live ++ final.rows, 10 < id → id ∈ final.handed) ∧
        (machine fun _ => 0).Along (ReleasesOwed fun _ => 0) (.new 10) completes) ∧
      (machine fun _ => 0).Along (ReleasesOwed fun _ => 0) (.new 10) abandons ∧
        ((machine fun _ => 0).run (.new 10) abandons).handed = [11, 12] :=
  ⟨run_exactlyOnce (fun _ => 0) (by decide) (by decide +kernel),
    (run_exactlyOnce (fun _ => 0) (by decide) (by decide +kernel)).2.2, by decide +kernel⟩

/-- Two held events and an unstamped one: only the second of the held is handed over. -/
theorem held_lost : ¬∀ (since : Nat) (ops : List (Op Unit)), 0 < since →
      (machine fun _ => 0).Along (fun recovery op => recovery.Ascending op) (.new since) ops →
      let final := (machine fun _ => 0).run (.new since) ops
      (final.handed.filter fun id => decide (since < id)).Pairwise (· < ·) ∧
        (final.phase.isDone = true →
          ∀ id ∈ final.live ++ final.rows, since < id → id ∈ final.handed) ∧
        (machine fun _ => 0).Along (ReleasesOwed fun _ => 0) (.new since) ops := by
  intro h
  have hclaim := h 10 [.live (.committed () 11), .live (.committed () 12),
    .live { event := (), eventId := none }] (by decide) (by decide +kernel)
  exact absurd hclaim.2.2 (by decide +kernel)

end Recovery

end Roost.Coord.Sync
