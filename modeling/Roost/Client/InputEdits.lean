-- SUMMARY: What one call of the input router does to the batches of its lanes.
import Mathlib.Algebra.Order.BigOperators.Group.List
import Mathlib.Data.List.Flatten
import Roost.Client.InputRouter

/-!
# Edits of the lanes

Every call either drops batches, each with an outcome, or marks batches as started or unsent, or
adds one at the end of a lane. The lanes share no batch and hold their batches in the order of
admission, so an edit that names a sequence changes one batch of one lane.
-/

namespace Roost.Client

open Option (bind_eq_some_iff elim map_eq_some_iff)

open List

open OrderedMap
open PendingInput (handedTo unsent)

variable {lane lane' : InputLane} {inputSeq : Nat} {seqs : List Nat}

/-! ## One lane -/

namespace InputLane

/-- The byte count is the batches' bytes. -/
def Balanced (lane : InputLane) : Prop :=
  lane.pendingBytes = (lane.pending.map fun pending => pending.bytes.length).sum

/-- The batches are in the order of their sequences. -/
def Ordered (lane : InputLane) : Prop :=
  (lane.pending.map PendingInput.inputSeq).Pairwise (· < ·)

/-- Some batches leave the lane, and nothing else about its batches changes. -/
structure Drops (lane later : InputLane) (seqs : List Nat) : Prop where
  pending : later.pending = lane.pending.filter fun pending => decide (pending.inputSeq ∉ seqs)
  present : ∀ seq ∈ seqs, seq ∈ lane.pending.map PendingInput.inputSeq
  nodup : seqs.Nodup
  balanced : lane.Balanced → later.Balanced

theorem Drops.of_same (hpend : lane'.pending = lane.pending)
    (hbytes : lane'.pendingBytes = lane.pendingBytes) : Drops lane lane' [] where
  pending := by simp [hpend]
  present seq h := by cases h
  nodup := .nil
  balanced h := by
    unfold Balanced
    rw [hbytes, hpend]
    exact h

theorem Drops.refl (lane : InputLane) : Drops lane lane [] := .of_same rfl rfl

theorem Drops.ordered (h : Drops lane lane' seqs) (hord : lane.Ordered) : lane'.Ordered := by
  unfold Ordered
  rw [h.pending]
  exact hord.sublist (filter_sublist.map _)

theorem Drops.trans {lane'' : InputLane} {more : List Nat} (h : Drops lane lane' seqs)
    (h' : Drops lane' lane'' more) : Drops lane lane'' (seqs ++ more) where
  pending := by
    rw [h'.pending, h.pending, filter_filter]
    refine filter_congr fun pend _ => ?_
    simp [Bool.and_comm]
  present := by
    intro seq hseq
    rcases mem_append.mp hseq with hseq | hseq
    · exact h.present seq hseq
    · have hlater := h'.present seq hseq
      rw [h.pending] at hlater
      exact (filter_sublist.map _).subset hlater
  nodup := by
    refine nodup_append.mpr ⟨h.nodup, h'.nodup, ?_⟩
    rintro seq hseq _ hmore rfl
    obtain ⟨_, hpend, rfl⟩ := mem_map.mp (h'.present seq hmore)
    rw [h.pending, mem_filter] at hpend
    exact absurd hseq (of_decide_eq_true hpend.2)
  balanced hbalance := h'.balanced (h.balanced hbalance)

variable {pend : List PendingInput}

theorem eraseP_eq_filter
    (h : (pend.map PendingInput.inputSeq).Pairwise (· < ·)) (inputSeq : Nat) :
    pend.eraseP (fun pend => decide (pend.inputSeq = inputSeq)) =
      pend.filter fun pend => decide (pend.inputSeq ∉ [inputSeq]) := by
  induction pend with
  | nil => rfl
  | cons first rest ih =>
    rw [map_cons, pairwise_cons] at h
    by_cases heq : first.inputSeq = inputSeq
    · have hrest : ∀ other ∈ rest, other.inputSeq ∉ [inputSeq] := by
        intro other hother hmem
        have hlt := h.1 _ (mem_map_of_mem hother)
        rw [heq, mem_singleton.mp hmem] at hlt
        exact Nat.lt_irrefl _ hlt
      rw [eraseP_cons_of_pos (by simpa using heq), filter_cons_of_neg (by simpa using heq)]
      exact (filter_eq_self.mpr fun other hother => decide_eq_true (hrest other hother)).symm
    · rw [eraseP_cons_of_neg (by simpa using heq), filter_cons_of_pos (by simpa using heq), ih h.2]

theorem sum_eraseP {found : PendingInput}
    (h : pend.find? (fun pend => decide (pend.inputSeq = inputSeq)) = some found) :
    ((pend.eraseP fun pend => decide (pend.inputSeq = inputSeq)).map
        fun pend => pend.bytes.length).sum =
      (pend.map fun pend => pend.bytes.length).sum - found.bytes.length := by
  induction pend with
  | nil => cases h
  | cons first rest ih =>
    by_cases heq : first.inputSeq = inputSeq
    · rw [find?_cons_of_pos (by simpa using heq), Option.some.injEq] at h
      rw [eraseP_cons_of_pos (by simpa using heq), map_cons, sum_cons, h, Nat.add_sub_cancel_left]
    rw [find?_cons_of_neg (by simpa using heq)] at h
    have hle : found.bytes.length ≤ (rest.map fun pend => pend.bytes.length).sum :=
      le_sum_of_mem (mem_map_of_mem (mem_of_find?_eq_some h))
    rw [eraseP_cons_of_neg (by simpa using heq), map_cons, map_cons, sum_cons,
      sum_cons, ih h, Nat.add_sub_assoc hle]

theorem drops_settleIn (hord : lane.Ordered) (h : lane.settleIn inputSeq = some lane') :
    Drops lane lane' [inputSeq] := by
  obtain ⟨found, hfound, rfl⟩ := map_eq_some_iff.mp h
  refine ⟨eraseP_eq_filter hord inputSeq, ?_, nodup_singleton _, fun hbalance => ?_⟩
  · intro seq hseq
    have hkey : found.inputSeq = inputSeq := by simpa using find?_some hfound
    rw [mem_singleton.mp hseq, ← hkey]
    exact mem_map_of_mem (mem_of_find?_eq_some hfound)
  · unfold Balanced at hbalance ⊢
    rw [sum_eraseP hfound, hbalance]

theorem settleIn_isSome_iff :
    (lane.settleIn inputSeq).isSome ↔ inputSeq ∈ lane.pending.map PendingInput.inputSeq := by
  unfold settleIn
  rw [Option.isSome_map, find?_isSome]
  simp

theorem drops_settleEach (hord : lane.Ordered) (hnd : seqs.Nodup)
    (hpresent : ∀ seq ∈ seqs, seq ∈ lane.pending.map PendingInput.inputSeq) :
    (lane.settleEach seqs).2 = seqs ∧ Drops lane (lane.settleEach seqs).1 seqs := by
  induction seqs generalizing lane with
  | nil => exact ⟨rfl, .refl lane⟩
  | cons seq rest ih =>
    rw [nodup_cons] at hnd
    obtain ⟨next, hnext⟩ :=
      Option.isSome_iff_exists.mp (settleIn_isSome_iff.mpr (hpresent seq mem_cons_self))
    have hdrop := drops_settleIn hord hnext
    have hrest : ∀ other ∈ rest, other ∈ next.pending.map PendingInput.inputSeq := by
      intro other hother
      obtain ⟨_, hpend, rfl⟩ := mem_map.mp (hpresent other (mem_cons_of_mem _ hother))
      rw [hdrop.pending]
      refine mem_map_of_mem (mem_filter.mpr ⟨hpend, decide_eq_true ?_⟩)
      rw [mem_singleton]
      rintro rfl
      exact hnd.1 hother
    obtain ⟨hset, hdrops⟩ := ih (hdrop.ordered hord) hnd.2 hrest
    unfold settleEach
    rw [hnext]
    exact ⟨congrArg (seq :: ·) hset, hdrop.trans hdrops⟩

theorem nodup_filter (hord : lane.Ordered) (p : PendingInput → Bool) :
    ((lane.pending.filter p).map PendingInput.inputSeq).Nodup :=
  (hord.sublist (filter_sublist.map _)).imp Nat.ne_of_lt

theorem present_filter (p : PendingInput → Bool) :
    ∀ seq ∈ (lane.pending.filter p).map PendingInput.inputSeq,
      seq ∈ lane.pending.map PendingInput.inputSeq :=
  fun _ hseq => (filter_sublist.map _).subset hseq

section

variable (hord : lane.Ordered)
include hord

theorem inputSeq_refuseUnstarted (reason : String) :
    (lane.refuseUnstarted reason).2.map InputOutcome.inputSeq =
      (lane.pending.filter fun pending => !pending.started).map PendingInput.inputSeq := by
  have hset := (drops_settleEach hord
    (nodup_filter hord fun pending => !pending.started) (present_filter _)).1
  unfold refuseUnstarted
  dsimp only
  rw [hset, map_map, map_map]
  rfl

theorem drops_refuseUnstarted (reason : String) : Drops lane (lane.refuseUnstarted reason).1
      ((lane.refuseUnstarted reason).2.map InputOutcome.inputSeq) := by
  rw [inputSeq_refuseUnstarted hord]
  exact (drops_settleEach hord (nodup_filter hord _) (present_filter _)).2

theorem drops_retireEach {outcomes : List InputOutcome}
    (hnd : (outcomes.map InputOutcome.inputSeq).Nodup)
    (hpresent : ∀ seq ∈ outcomes.map InputOutcome.inputSeq,
      seq ∈ lane.pending.map PendingInput.inputSeq) : (lane.retireEach outcomes).2 = outcomes ∧
      Drops lane (lane.retireEach outcomes).1 (outcomes.map InputOutcome.inputSeq) := by
  induction outcomes generalizing lane with
  | nil => exact ⟨rfl, .refl lane⟩
  | cons outcome rest ih =>
    rw [map_cons, nodup_cons] at hnd
    obtain ⟨next, hnext⟩ := Option.isSome_iff_exists.mp
      (settleIn_isSome_iff.mpr (hpresent outcome.inputSeq mem_cons_self))
    have hdrop := drops_settleIn hord hnext
    -- Noting an ambiguous batch touches neither batches nor bytes.
    let noted : InputLane :=
      if outcome.isAmbiguous then { next with ambiguous := next.ambiguous ++ [outcome.inputSeq] }
      else next
    have hnoted : Drops lane noted [outcome.inputSeq] := by
      have hsame : noted.pending = next.pending ∧ noted.pendingBytes = next.pendingBytes := by
        dsimp only [noted]
        split <;> exact ⟨rfl, rfl⟩
      exact hdrop.trans (.of_same hsame.1 hsame.2)
    have hrest : ∀ other ∈ rest.map InputOutcome.inputSeq,
        other ∈ noted.pending.map PendingInput.inputSeq := by
      intro other hother
      obtain ⟨_, hpend, rfl⟩ := mem_map.mp (hpresent other (mem_cons_of_mem _ hother))
      rw [hnoted.pending]
      refine mem_map_of_mem (mem_filter.mpr ⟨hpend, decide_eq_true ?_⟩)
      rw [mem_singleton]
      intro heq
      exact hnd.1 (heq ▸ hother)
    obtain ⟨hset, hdrops⟩ := ih (hnoted.ordered hord) hnd.2 hrest
    unfold retireEach
    rw [hnext]
    exact ⟨congrArg (outcome :: ·) hset, hnoted.trans hdrops⟩

theorem drops_retired (retired : TerminalToken → Bool) (reason : String) :
    (lane.retireFenced retired reason).2.map InputOutcome.inputSeq =
        (lane.pending.filter fun pend => pend.fencedOn retired).map PendingInput.inputSeq ∧
      Drops lane (lane.retireFenced retired reason).1
        ((lane.pending.filter fun pend => pend.fencedOn retired).map PendingInput.inputSeq) := by
  have hseqs : ((lane.pending.filter fun pend => pend.fencedOn retired).map
      (retiredOutcome reason)).map InputOutcome.inputSeq =
        (lane.pending.filter fun pend => pend.fencedOn retired).map PendingInput.inputSeq := by
    rw [map_map]
    refine map_congr_left fun pend _ => ?_
    rw [Function.comp_apply, retiredOutcome]
    split <;> rfl
  obtain ⟨hset, hdrops⟩ := drops_retireEach hord
    (hseqs ▸ nodup_filter hord _) (hseqs ▸ present_filter _)
  unfold retireFenced
  rw [hset, hseqs] at *
  exact ⟨rfl, hdrops⟩

theorem drops_retireFenced (retired : TerminalToken → Bool)
    (reason : String) : Drops lane (lane.retireFenced retired reason).1
      ((lane.retireFenced retired reason).2.map InputOutcome.inputSeq) := by
  obtain ⟨hseqs, _⟩ := drops_retired hord retired reason
  rwa [hseqs]

/-- What went out on the generations that retired is gone. -/
theorem fencedOn_retireFenced {retired : TerminalToken → Bool}
    {reason : String} {pend : PendingInput}
    (h : pend ∈ (lane.retireFenced retired reason).1.pending) : pend.fencedOn retired = false := by
  rw [(drops_retired hord retired reason).2.pending, mem_filter, decide_eq_true_eq] at h
  by_contra hfenced
  rw [Bool.not_eq_false] at hfenced
  exact h.2 (mem_map_of_mem (mem_filter.mpr ⟨h.1, hfenced⟩))

end

theorem modifyBatch_eq_map {pending : List PendingInput}
    (h : (pending.map PendingInput.inputSeq).Pairwise (· < ·)) (inputSeq : Nat)
    (f : PendingInput → PendingInput) : modifyBatch inputSeq f pending =
      pending.map fun pending => if pending.inputSeq = inputSeq then f pending else pending := by
  induction pending with
  | nil => rfl
  | cons first rest ih =>
    rw [map_cons, pairwise_cons] at h
    unfold modifyBatch
    rw [map_cons]
    split
    · rename_i heq
      have hrest : ∀ other ∈ rest, (if other.inputSeq = inputSeq then f other else other) = other := by
        intro other hother
        have hlt := h.1 _ (mem_map_of_mem hother)
        exact if_neg fun hother => Nat.lt_irrefl _ (heq ▸ hother ▸ hlt)
      rw [map_congr_left hrest, map_id']
    · rw [ih h.2]

end InputLane

/-! ## All lanes -/

namespace InputRouter

variable {rtr later : InputRouter} {sid : String}

theorem outstanding_of_lookup (h : rtr.lanes.lookup sid = some lane) :
    rtr.outstanding sid = lane.pending := by
  unfold outstanding
  rw [h]
  rfl

theorem outstanding_laneOrNew (rtr : InputRouter) (sid : String) :
    rtr.outstanding sid = (rtr.laneOrNew sid).pending := by
  unfold outstanding laneOrNew
  cases rtr.lanes.lookup sid <;> rfl

theorem outstanding_setLane (rtr : InputRouter) (sid other : String) (lane : InputLane) :
    (rtr.setLane sid lane).outstanding other =
      if other = sid then lane.pending else rtr.outstanding other := by
  unfold outstanding setLane
  rw [lookup_insert]
  split <;> rfl

/-- Each lane holds its batches in order, and no two lanes share one. -/
structure Sane (router : InputRouter) : Prop where
  ordered : ∀ sessionId, ((router.outstanding sessionId).map PendingInput.inputSeq).Pairwise (· < ·)
  apart : ∀ {sessionId other pending pending'}, pending ∈ router.outstanding sessionId →
    pending' ∈ router.outstanding other → pending.inputSeq = pending'.inputSeq → sessionId = other

/-- Every lane's byte count is its batches' bytes. -/
def Balanced (router : InputRouter) : Prop :=
  ∀ ⦃sessionId lane⦄, router.lanes.lookup sessionId = some lane → lane.Balanced

theorem Balanced.laneOrNew (h : rtr.Balanced) (sid : String) : (rtr.laneOrNew sid).Balanced := by
  unfold InputRouter.laneOrNew
  cases hlook : rtr.lanes.lookup sid with
  | none => rfl
  | some => exact h hlook

theorem Balanced.setLane (h : rtr.Balanced) (hlane : lane.Balanced) :
    (rtr.setLane sid lane).Balanced := by
  intro other found hfound
  unfold InputRouter.setLane at hfound
  rw [lookup_insert] at hfound
  split at hfound
  · cases hfound
    exact hlane
  · exact h hfound

/-- Some batches leave their lanes; the others stay as they are. -/
structure Drops (router later : InputRouter) (seqs : List Nat) : Prop where
  next : later.nextInputSeq = router.nextInputSeq
  outstanding : ∀ sessionId, later.outstanding sessionId =
    (router.outstanding sessionId).filter fun pending => decide (pending.inputSeq ∉ seqs)
  present : ∀ seq ∈ seqs, ∃ sessionId,
    seq ∈ (router.outstanding sessionId).map PendingInput.inputSeq
  nodup : seqs.Nodup
  balanced : router.Balanced → later.Balanced

theorem Drops.refl (rtr : InputRouter) : Drops rtr rtr [] where
  next := rfl
  outstanding sessionId := by simp
  present seq h := by cases h
  nodup := .nil
  balanced h := h

theorem Drops.sane (h : Drops rtr later seqs) (hsane : rtr.Sane) : later.Sane where
  ordered sid := by
    rw [h.outstanding]
    exact (hsane.ordered sid).sublist (filter_sublist.map _)
  apart := by
    intro sid other pending pending' hpend hpend' heq
    rw [h.outstanding] at hpend hpend'
    exact hsane.apart (mem_of_mem_filter hpend) (mem_of_mem_filter hpend') heq

theorem Drops.trans {last : InputRouter} {more : List Nat} (h : Drops rtr later seqs)
    (h' : Drops later last more) : Drops rtr last (seqs ++ more) where
  next := h'.next.trans h.next
  outstanding sessionId := by
    rw [h'.outstanding, h.outstanding, filter_filter]
    refine filter_congr fun pend _ => ?_
    simp [Bool.and_comm]
  present := by
    intro seq hseq
    rcases mem_append.mp hseq with hseq | hseq
    · exact h.present seq hseq
    · obtain ⟨sid, hlater⟩ := h'.present seq hseq
      rw [h.outstanding] at hlater
      exact ⟨sid, (filter_sublist.map _).subset hlater⟩
  nodup := by
    refine nodup_append.mpr ⟨h.nodup, h'.nodup, ?_⟩
    rintro seq hseq _ hmore rfl
    obtain ⟨_, hlater⟩ := h'.present seq hmore
    obtain ⟨_, hpend, rfl⟩ := mem_map.mp hlater
    rw [h.outstanding, mem_filter] at hpend
    exact absurd hseq (of_decide_eq_true hpend.2)
  balanced hbalance := h'.balanced (h.balanced hbalance)

theorem Drops.setLane (hsane : rtr.Sane) (h : (rtr.laneOrNew sid).Drops lane seqs) :
    Drops rtr (rtr.setLane sid lane) seqs where
  next := rfl
  outstanding other := by
    rw [outstanding_setLane]
    split
    · rename_i heq
      rw [h.pending, heq, outstanding_laneOrNew]
    rename_i hne
    refine (filter_eq_self.mpr fun pend hpend => ?_).symm
    rw [decide_eq_true_eq]
    intro hmem
    refine hne ?_
    obtain ⟨_, hheld, hseq⟩ := mem_map.mp (h.present _ hmem)
    exact hsane.apart hpend (outstanding_laneOrNew rtr sid ▸ hheld) hseq.symm
  present seq hseq := ⟨sid, by
    rw [outstanding_laneOrNew]
    exact h.present seq hseq⟩
  nodup := h.nodup
  balanced hbalance := hbalance.setLane (h.balanced (hbalance.laneOrNew sid))

theorem ordered_laneOrNew (hsane : rtr.Sane) (sid : String) : (rtr.laneOrNew sid).Ordered := by
  unfold InputLane.Ordered
  rw [← outstanding_laneOrNew]
  exact hsane.ordered sid

theorem laneOrNew_of_lookup (h : rtr.lanes.lookup sid = some lane) :
    rtr.laneOrNew sid = lane := by
  unfold laneOrNew
  rw [h]
  rfl

theorem Drops.setLane_same (rtr : InputRouter) (sid : String) {lane : InputLane}
    (hpend : lane.pending = (rtr.laneOrNew sid).pending)
    (hbytes : lane.pendingBytes = (rtr.laneOrNew sid).pendingBytes) :
    Drops rtr (rtr.setLane sid lane) [] where
  next := rfl
  outstanding other := by
    rw [outstanding_setLane]
    split
    · rename_i heq
      rw [hpend, heq, ← outstanding_laneOrNew]
      simp
    · simp
  present seq h := by cases h
  nodup := .nil
  balanced hbalance :=
    hbalance.setLane ((InputLane.Drops.of_same hpend hbytes).balanced (hbalance.laneOrNew sid))

theorem Drops.ofClaimId {claimId : Nat}
    (h : Drops { rtr with nextClaimId := claimId } later seqs) : Drops rtr later seqs :=
  ⟨h.next, h.outstanding, h.present, h.nodup, fun hbalance => h.balanced hbalance⟩

theorem Drops.setLane_there {lane' : InputLane} (hlook : rtr.lanes.lookup sid = some lane)
    (hpend : lane'.pending = lane.pending) (hbytes : lane'.pendingBytes = lane.pendingBytes) :
    Drops rtr (rtr.setLane sid lane') [] := by
  have hlane := laneOrNew_of_lookup hlook
  exact .setLane_same rtr sid (by rw [hlane, hpend]) (by rw [hlane, hbytes])

theorem editLane_cases (rtr : InputRouter) (edit : InputLane → Option InputLane) :
    (rtr.editLane edit = none ∧ ∀ sid lane, rtr.lanes.lookup sid = some lane → edit lane = none) ∨
      ∃ sid lane lane', rtr.lanes.lookup sid = some lane ∧ edit lane = some lane' ∧
        rtr.editLane edit = some (rtr.setLane sid lane') := by
  unfold editLane
  cases hfound : rtr.lanes.entries.findSome? fun entry =>
      (edit entry.2).map fun lane => (entry.1, lane) with
  | none =>
    refine .inl ⟨rfl, fun sid lane hlook => ?_⟩
    have hmiss := findSome?_eq_none_iff.mp hfound _ (lookup_eq_some_iff.mp hlook)
    exact Option.map_eq_none_iff.mp hmiss
  | some =>
    obtain ⟨entry, hentry, hedit⟩ := exists_of_findSome?_eq_some hfound
    obtain ⟨lane', hlane', rfl⟩ := map_eq_some_iff.mp hedit
    exact .inr ⟨entry.1, entry.2, lane', lookup_eq_some_iff.mpr hentry, hlane', rfl⟩

/-! ## Settlement -/

theorem drops_settle (hsane : rtr.Sane) (inputSeq : Nat) (outcome : InputOutcome) :
    Drops rtr (rtr.settle inputSeq outcome).1
      (if (rtr.settle inputSeq outcome).2 then [outcome.inputSeq] else []) := by
  unfold settle
  split
  · exact .refl rtr
  rename_i hseq
  have heq : outcome.inputSeq = inputSeq := by simpa using hseq
  rcases editLane_cases rtr fun lane => lane.settleIn inputSeq with ⟨hnone, -⟩ |
    ⟨sid, lane, lane', hlook, hsettle, hsome⟩
  · rw [hnone]
    exact .refl rtr
  rw [hsome, heq]
  have hlane := laneOrNew_of_lookup hlook
  exact .setLane hsane (hlane ▸ InputLane.drops_settleIn
    (hlane ▸ ordered_laneOrNew hsane sid) hsettle)

theorem settle_of_present (hpresent : inputSeq ∈ (rtr.outstanding sid).map
    PendingInput.inputSeq) {outcome : InputOutcome} (houtcome : outcome.inputSeq = inputSeq) :
    (rtr.settle inputSeq outcome).2 = true := by
  unfold settle
  rw [if_neg (not_not_intro houtcome)]
  rcases editLane_cases rtr fun lane => lane.settleIn inputSeq with ⟨-, hmiss⟩ |
    ⟨_, _, _, -, -, hsome⟩
  · cases hlook : rtr.lanes.lookup sid with
    | none =>
      unfold outstanding at hpresent
      rw [hlook] at hpresent
      cases hpresent
    | some lane =>
      rw [outstanding_of_lookup hlook] at hpresent
      have hsettled := InputLane.settleIn_isSome_iff.mpr hpresent
      rw [hmiss sid lane hlook] at hsettled
      cases hsettled
  · rw [hsome]

section

variable (hsane : rtr.Sane)
include hsane

theorem drops_settleAll {outcomes : List InputOutcome}
    (hnd : (outcomes.map InputOutcome.inputSeq).Nodup)
    (hpresent : ∀ seq ∈ outcomes.map InputOutcome.inputSeq, ∃ sid,
      seq ∈ (rtr.outstanding sid).map PendingInput.inputSeq) :
    Drops rtr (rtr.settleAll outcomes) (outcomes.map InputOutcome.inputSeq) := by
  induction outcomes generalizing rtr with
  | nil => exact .refl rtr
  | cons outcome rest ih =>
    rw [map_cons, nodup_cons] at hnd
    obtain ⟨sid, hhere⟩ := hpresent outcome.inputSeq mem_cons_self
    have hdrop := drops_settle hsane outcome.inputSeq outcome
    rw [settle_of_present hhere rfl, if_pos rfl] at hdrop
    have hrest : ∀ seq ∈ rest.map InputOutcome.inputSeq, ∃ sid,
        seq ∈ ((rtr.settle outcome.inputSeq outcome).1.outstanding sid).map
          PendingInput.inputSeq := by
      intro seq hseq
      obtain ⟨other, hother⟩ := hpresent seq (mem_cons_of_mem _ hseq)
      obtain ⟨_, hpend, rfl⟩ := mem_map.mp hother
      refine ⟨other, ?_⟩
      rw [hdrop.outstanding]
      refine mem_map_of_mem (mem_filter.mpr ⟨hpend, decide_eq_true ?_⟩)
      rw [mem_singleton]
      intro heq
      exact hnd.1 (heq ▸ hseq)
    exact hdrop.trans (ih (hdrop.sane hsane) hnd.2 hrest)

variable {g : InputLane → List Nat}

theorem Sane.distinct
    (hpresent : ∀ lane : InputLane, lane.Ordered → ∀ seq ∈ g lane,
      seq ∈ lane.pending.map PendingInput.inputSeq)
    (hnd : ∀ lane : InputLane, lane.Ordered → (g lane).Nodup) :
    (rtr.lanes.values.flatMap g).Nodup := by
  have hheld : ∀ entry ∈ rtr.lanes.entries,
      rtr.outstanding entry.1 = entry.2.pending ∧ entry.2.Ordered := by
    intro entry hentry
    have houtstanding := outstanding_of_lookup (lookup_eq_some_iff.mpr hentry)
    refine ⟨houtstanding, ?_⟩
    unfold InputLane.Ordered
    rw [← houtstanding]
    exact hsane.ordered entry.1
  unfold values
  rw [flatMap_map, nodup_flatMap]
  refine ⟨fun entry hentry => hnd entry.2 (hheld entry hentry).2, ?_⟩
  refine (pairwise_map.mp rtr.lanes.sorted).imp_of_mem ?_
  intro entry other hentry hother hlt seq hseq hseq'
  obtain ⟨_, hpend, hkey⟩ :=
    mem_map.mp (hpresent entry.2 (hheld entry hentry).2 seq hseq)
  obtain ⟨_, hpend', hkey'⟩ :=
    mem_map.mp (hpresent other.2 (hheld other hother).2 seq hseq')
  have hsame := hsane.apart ((hheld entry hentry).1.symm ▸ hpend)
    ((hheld other hother).1.symm ▸ hpend') (hkey.trans hkey'.symm)
  rw [hsame] at hlt
  exact lt_irrefl _ hlt

theorem Drops.mapValues {f : InputLane → InputLane}
    (h : ∀ lane : InputLane, lane.Ordered → lane.Drops (f lane) (g lane)) :
    Drops rtr { rtr with lanes := rtr.lanes.mapValues fun _ => f }
      (rtr.lanes.values.flatMap g) where
  next := rfl
  outstanding sid := by
    unfold InputRouter.outstanding
    rw [lookup_mapValues]
    cases hlook : rtr.lanes.lookup sid with
    | none => rfl
    | some lane =>
      have hlane := laneOrNew_of_lookup hlook ▸ ordered_laneOrNew hsane sid
      change (f lane).pending = lane.pending.filter _
      rw [(h lane hlane).pending]
      refine filter_congr fun pending hpend => ?_
      rw [decide_eq_decide, not_iff_not]
      constructor
      · intro hseq
        exact mem_flatMap.mpr ⟨lane, mem_map.mpr ⟨_, lookup_eq_some_iff.mp hlook, rfl⟩, hseq⟩
      intro hseq
      obtain ⟨_, hother, hseq⟩ := mem_flatMap.mp hseq
      obtain ⟨entry, hentry, rfl⟩ := mem_map.mp hother
      have hfound := lookup_eq_some_iff.mpr hentry
      have hord := laneOrNew_of_lookup hfound ▸ ordered_laneOrNew hsane entry.1
      obtain ⟨_, hheld, hkey⟩ := mem_map.mp ((h entry.2 hord).present _ hseq)
      have hsame := hsane.apart (outstanding_of_lookup hlook ▸ hpend)
        (outstanding_of_lookup hfound ▸ hheld) hkey.symm
      rw [← hsame, hlook, Option.some.injEq] at hfound
      exact hfound ▸ hseq
  present seq hseq := by
    obtain ⟨_, hlane, hseq⟩ := mem_flatMap.mp hseq
    obtain ⟨entry, hentry, rfl⟩ := mem_map.mp hlane
    have hfound := lookup_eq_some_iff.mpr hentry
    have hord := laneOrNew_of_lookup hfound ▸ ordered_laneOrNew hsane entry.1
    refine ⟨entry.1, ?_⟩
    rw [outstanding_of_lookup hfound]
    exact (h entry.2 hord).present seq hseq
  nodup := hsane.distinct (fun lane hlane => (h lane hlane).present)
    fun lane hlane => (h lane hlane).nodup
  balanced := by
    intro hbalance sid lane hlook
    rw [lookup_mapValues] at hlook
    obtain ⟨before, hpre, rfl⟩ := map_eq_some_iff.mp hlook
    exact (h before (laneOrNew_of_lookup hpre ▸ ordered_laneOrNew hsane sid)).balanced
      (hbalance hpre)

theorem drops_retireFenced (retired : TerminalToken → Bool) (reason : String) :
    Drops rtr (rtr.retireFenced retired reason).1
      ((rtr.retireFenced retired reason).2.map InputOutcome.inputSeq) := by
  have hdrops := Drops.mapValues hsane (f := fun lane => (lane.retireFenced retired reason).1)
    (g := fun lane => (lane.retireFenced retired reason).2.map InputOutcome.inputSeq)
    fun lane hlane => InputLane.drops_retireFenced hlane retired reason
  unfold InputRouter.retireFenced
  rw [map_flatMap]
  exact hdrops

theorem fencedOn_retireFenced {retired : TerminalToken → Bool} {reason : String}
    {pend : PendingInput} (h : pend ∈ (rtr.retireFenced retired reason).1.outstanding sid) :
    pend.fencedOn retired = false := by
  unfold outstanding retireFenced at h
  rw [lookup_mapValues] at h
  cases hlook : rtr.lanes.lookup sid with
  | none =>
    rw [hlook] at h
    cases h
  | some =>
    rw [hlook] at h
    exact InputLane.fencedOn_retireFenced
      (laneOrNew_of_lookup hlook ▸ ordered_laneOrNew hsane sid) h

theorem drops_sweep {lanes : List InputLane} (hlanes : lanes.Sublist rtr.lanes.values)
    (p : PendingInput → Bool) {outcome : PendingInput → InputOutcome}
    (houtcome : ∀ pend, (outcome pend).inputSeq = pend.inputSeq) : Drops rtr
      (rtr.settleAll (((lanes.flatMap InputLane.pending).filter p).map outcome))
      ((((lanes.flatMap InputLane.pending).filter p).map outcome).map InputOutcome.inputSeq) := by
  have hseqs : (((lanes.flatMap InputLane.pending).filter p).map outcome).map
      InputOutcome.inputSeq = ((lanes.flatMap InputLane.pending).filter p).map
        PendingInput.inputSeq := by
    rw [map_map]
    exact map_congr_left fun pend _ => houtcome pend
  have hall : (rtr.lanes.values.flatMap fun lane =>
      lane.pending.map PendingInput.inputSeq).Nodup :=
    hsane.distinct (fun _ _ _ hseq => hseq) fun lane hlane => hlane.imp Nat.ne_of_lt
  refine drops_settleAll hsane ?_ ?_
  · rw [hseqs]
    refine hall.sublist ?_
    rw [← map_flatMap]
    exact (filter_sublist.trans (hlanes.flatMap _)).map _
  rw [hseqs]
  intro seq hseq
  obtain ⟨_, hpend, rfl⟩ := mem_map.mp hseq
  obtain ⟨_, hlane, hheld⟩ := mem_flatMap.mp (mem_of_mem_filter hpend)
  obtain ⟨entry, hentry, rfl⟩ := mem_map.mp (hlanes.subset hlane)
  refine ⟨entry.1, mem_map_of_mem ?_⟩
  rw [outstanding_of_lookup (lookup_eq_some_iff.mpr hentry)]
  exact hheld

theorem drops_settleFrom (sid : String) (token : TerminalToken) (inputSeq : Nat)
    (outcome : InputOutcome) : Drops rtr (rtr.settleFrom sid token inputSeq outcome).1
      (if (rtr.settleFrom sid token inputSeq outcome).2 then [outcome.inputSeq] else []) := by
  unfold settleFrom
  split
  · exact .refl rtr
  rename_i hseq
  have heq : outcome.inputSeq = inputSeq := by simpa using hseq
  generalize hset : Option.bind (rtr.lanes.lookup sid) _ = settled
  cases settled with
  | none => exact .refl rtr
  | some =>
    obtain ⟨_, hlook, hfound⟩ := bind_eq_some_iff.mp hset
    obtain ⟨_, -, hcarrier⟩ := bind_eq_some_iff.mp hfound
    split at hcarrier
    · have hlane := laneOrNew_of_lookup hlook
      rw [heq]
      exact .setLane hsane (hlane ▸ InputLane.drops_settleIn
        (hlane ▸ ordered_laneOrNew hsane sid) hcarrier)
    · cases hcarrier

/-! ## Phases and claims -/

theorem drops_refuseUnstarted (sid reason : String) : Drops rtr (rtr.refuseUnstarted sid reason).1
      ((rtr.refuseUnstarted sid reason).2.map InputOutcome.inputSeq) := by
  unfold refuseUnstarted
  split
  · exact .refl rtr
  rename_i hlook
  have hlane := laneOrNew_of_lookup hlook
  exact .setLane hsane (hlane ▸ InputLane.drops_refuseUnstarted
    (hlane ▸ ordered_laneOrNew hsane sid) reason)

theorem drops_setPhase (sid : String) (phase : InputPhase) : Drops rtr (rtr.setPhase sid phase).1
      ((rtr.setPhase sid phase).2.map InputOutcome.inputSeq) := by
  have hmoved : Drops rtr (rtr.setLane sid { rtr.laneOrNew sid with phase }) [] :=
    .setLane_same rtr sid rfl rfl
  cases phase with
  | closed | blocked => exact hmoved.trans (drops_refuseUnstarted (hmoved.sane hsane) sid _)
  | sending | holding | claiming => exact hmoved

end

theorem drops_modifyLane_same (rtr : InputRouter) (sid : String)
    {f : InputLane → InputLane} (hpend : ∀ lane, (f lane).pending = lane.pending)
    (hbytes : ∀ lane, (f lane).pendingBytes = lane.pendingBytes) :
    Drops rtr (rtr.modifyLane sid f) [] := by
  unfold modifyLane
  split
  · exact .refl rtr
  · rename_i lane hlook
    exact .setLane_there hlook (hpend lane) (hbytes lane)

theorem drops_forgetRoute (hsane : rtr.Sane) (sid : String) : Drops rtr (rtr.forgetRoute sid).1
      ((rtr.forgetRoute sid).2.map InputOutcome.inputSeq) := by
  have hforgot : Drops rtr (rtr.modifyLane sid fun lane =>
      { lane with routeEpoch := "", routeEpochToken := none }) [] :=
    drops_modifyLane_same rtr sid (fun _ => rfl) fun _ => rfl
  exact hforgot.trans (drops_setPhase (hforgot.sane hsane) sid .blocked)

theorem drops_forgetRoutes (hsane : rtr.Sane) (sessions : List String) :
    Drops rtr (rtr.forgetRoutes sessions).1
      ((rtr.forgetRoutes sessions).2.map InputOutcome.inputSeq) := by
  induction sessions generalizing rtr with
  | nil => exact .refl rtr
  | cons sid rest ih =>
    have hone := drops_forgetRoute hsane sid
    have hrest := ih (hone.sane hsane)
    unfold forgetRoutes
    rw [map_append]
    exact hone.trans hrest

theorem drops_blockRoute (hsane : rtr.Sane) (sid : String) : Drops rtr (rtr.blockRoute sid).1
      ((rtr.blockRoute sid).2.map InputOutcome.inputSeq) := by
  unfold blockRoute
  split
  · exact .refl rtr
  rename_i lane hlook
  split
  · exact .refl rtr
  · have hclear : Drops rtr (rtr.setLane sid (withoutClaims lane)) [] :=
      .setLane_there hlook rfl rfl
    exact hclear.trans (drops_setPhase (hclear.sane hsane) sid .blocked)

theorem drops_holdLane (rtr : InputRouter) (sid : String)
    (f : RouteClaimState → RouteClaimState) : Drops rtr (rtr.holdLane sid f) [] := by
  unfold holdLane
  dsimp only
  split <;> exact .setLane_same rtr sid rfl rfl

theorem drops_beginRouteClaim (rtr : InputRouter) (sid : String) (token : TerminalToken)
    (workerEpoch : String) (attemptId : Option Nat) (nowMs : Nat) :
    Drops rtr (rtr.beginRouteClaim sid token workerEpoch attemptId nowMs).1 [] := by
  unfold beginRouteClaim
  dsimp only
  split <;> exact .ofClaimId (.setLane_same _ sid rfl rfl)

theorem drops_settleRouteClaim (rtr : InputRouter) (token : TerminalToken)
    (result : InputRouteResult) (nowMs : Nat) :
    Drops rtr (rtr.settleRouteClaim token result nowMs).1 [] := by
  unfold settleRouteClaim
  dsimp only
  split
  · exact .refl rtr
  rename_i hfound
  obtain ⟨_, hlook, hclaim⟩ := bind_eq_some_iff.mp hfound
  obtain ⟨_, -, heq⟩ := map_eq_some_iff.mp hclaim
  cases heq
  split
  · exact .setLane_there hlook rfl rfl
  split
  · exact .setLane_there hlook rfl rfl
  · split
    · exact .setLane_there hlook rfl rfl
    · exact .ofClaimId (.setLane_there hlook rfl rfl)

theorem drops_takeClaims (hsane : rtr.Sane) (ended : InputClaim → Bool) :
    Drops rtr (rtr.takeClaims ended).1 [] := by
  have hdrops := Drops.mapValues hsane
    (f := fun lane => if lane.claims.inFlight.any ended then endClaim lane else lane)
    (g := fun _ => []) fun lane _ => by
      split
      · exact .of_same rfl rfl
      · exact .refl lane
  rw [flatMap_eq_nil_iff.mpr fun _ _ => rfl] at hdrops
  exact hdrops

theorem drops_releaseHeld (rtr : InputRouter) (sid : String) :
    Drops rtr (rtr.releaseHeld sid).1 [] := by
  unfold releaseHeld
  split
  · exact .refl rtr
  rename_i hlook
  split
  · exact .refl rtr
  · exact .setLane_there hlook rfl rfl

theorem drops_deferFallback (rtr : InputRouter) (sid : String) (nowMs : Nat) :
    Drops rtr (rtr.deferFallback sid nowMs).1 [] := by
  unfold deferFallback
  split
  · exact .refl rtr
  rename_i lane fallback hfound
  obtain ⟨held, hlook, hfallback⟩ := bind_eq_some_iff.mp hfound
  obtain ⟨_, -, heq⟩ := map_eq_some_iff.mp hfallback
  cases heq
  dsimp only
  split <;> exact .setLane_there hlook rfl rfl

theorem drops_installRouteEpoch (rtr : InputRouter) (sid : String) (token : TerminalToken)
    (epoch : String) (rev : Nat) : Drops rtr (rtr.installRouteEpoch sid token epoch rev).1 [] := by
  unfold installRouteEpoch
  split
  · exact .refl rtr
  dsimp only
  split <;> exact .setLane_same rtr sid rfl rfl

/-! ## Hand-offs -/

/-- An edit of a batch that keeps what it is and decides whether it is started. -/
structure Marks (f : PendingInput → PendingInput) (started : Bool) : Prop where
  inputSeq : ∀ pending, (f pending).inputSeq = pending.inputSeq
  sessionId : ∀ pending, (f pending).sessionId = pending.sessionId
  bytes : ∀ pending, (f pending).bytes = pending.bytes
  started : ∀ pending, (f pending).started = started

/-- Some batches are edited where they are. -/
structure Edits (router later : InputRouter) (seqs : List Nat) (f : PendingInput → PendingInput) :
    Prop where
  next : later.nextInputSeq = router.nextInputSeq
  outstanding : ∀ sessionId, later.outstanding sessionId =
    (router.outstanding sessionId).map fun pending =>
      if pending.inputSeq ∈ seqs then f pending else pending
  balanced : router.Balanced → later.Balanced

variable {f : PendingInput → PendingInput} {started : Bool}

theorem Marks.inputSeq_ite (hf : Marks f started) (seqs : List Nat) (pend : PendingInput) :
    (if pend.inputSeq ∈ seqs then f pend else pend).inputSeq = pend.inputSeq := by
  split
  · exact hf.inputSeq pend
  · rfl

theorem Edits.refl (rtr : InputRouter) (f : PendingInput → PendingInput) : Edits rtr rtr [] f where
  next := rfl
  outstanding sessionId := by simp
  balanced h := h

section

variable (h : Edits rtr later seqs f)
include h

theorem Edits.inputSeqs (hf : Marks f started) (sid : String) :
    (later.outstanding sid).map PendingInput.inputSeq =
      (rtr.outstanding sid).map PendingInput.inputSeq := by
  rw [h.outstanding, map_map]
  exact map_congr_left fun pend _ => hf.inputSeq_ite seqs pend

theorem Edits.sane (hf : Marks f started) (hsane : rtr.Sane) : later.Sane where
  ordered sid := by
    rw [h.inputSeqs hf]
    exact hsane.ordered sid
  apart := by
    intro sid other pending pending' hpend hpend' heq
    rw [h.outstanding] at hpend hpend'
    obtain ⟨_, hpre, rfl⟩ := mem_map.mp hpend
    obtain ⟨_, hpre', rfl⟩ := mem_map.mp hpend'
    rw [hf.inputSeq_ite, hf.inputSeq_ite] at heq
    exact hsane.apart hpre hpre' heq

theorem Edits.trans {last : InputRouter} {more : List Nat}
    (h' : Edits later last more f) (hf : Marks f started)
    (hdisj : ∀ seq ∈ seqs, seq ∉ more) : Edits rtr last (seqs ++ more) f where
  next := h'.next.trans h.next
  outstanding sessionId := by
    rw [h'.outstanding, h.outstanding, map_map]
    refine map_congr_left fun pend _ => ?_
    dsimp only [Function.comp]
    rw [hf.inputSeq_ite]
    by_cases hseq : pend.inputSeq ∈ seqs
    · rw [if_neg (hdisj _ hseq), if_pos hseq, if_pos (mem_append_left more hseq)]
    · simp [hseq]
  balanced hbalance := h'.balanced (h.balanced hbalance)

theorem Edits.sizes (hf : Marks f started) (sid : String) :
    (later.outstanding sid).map (fun pend => pend.bytes.length) =
      (rtr.outstanding sid).map fun pend => pend.bytes.length := by
  rw [h.outstanding, map_map]
  refine map_congr_left fun pend _ => ?_
  dsimp only [Function.comp]
  split
  · rw [hf.bytes]
  · rfl

end

variable {batches : List PendingInput}

theorem map_absent (f : PendingInput → PendingInput)
    (h : ∀ pend ∈ batches, pend.inputSeq ∉ seqs) :
    (batches.map fun pend => if pend.inputSeq ∈ seqs then f pend else pend) = batches := by
  rw [map_congr_left fun pend hpend => if_neg (h pend hpend), map_id']

theorem Edits.modifyBatch (hsane : rtr.Sane) (hf : Marks f started)
    (hlook : rtr.lanes.lookup sid = some lane)
    (hpresent : inputSeq ∈ lane.pending.map PendingInput.inputSeq) : Edits rtr (rtr.setLane sid
      { lane with pending := modifyBatch inputSeq f lane.pending }) [inputSeq] f where
  next := rfl
  outstanding other := by
    have hord := laneOrNew_of_lookup hlook ▸ ordered_laneOrNew hsane sid
    rw [outstanding_setLane]
    split
    · rename_i heq
      rw [heq, outstanding_of_lookup hlook]
      rw [InputLane.modifyBatch_eq_map hord]
      simp
    rename_i hne
    refine (map_absent f fun pending hpend hmem => hne ?_).symm
    obtain ⟨_, hheld, hseq⟩ := mem_map.mp hpresent
    refine hsane.apart hpend (outstanding_of_lookup hlook ▸ hheld) ?_
    rw [hseq, mem_singleton.mp hmem]
  balanced hbalance := by
    refine hbalance.setLane ?_
    have hord := laneOrNew_of_lookup hlook ▸ ordered_laneOrNew hsane sid
    unfold InputLane.Balanced
    rw [hbalance hlook, InputLane.modifyBatch_eq_map hord, map_map]
    refine congrArg sum (map_congr_left fun pending _ => ?_)
    dsimp only [Function.comp]
    split
    · rw [hf.bytes]
    · rfl

theorem marks_handedTo (token : TerminalToken) (nowMs : Nat) : Marks (handedTo token nowMs) true :=
  ⟨fun _ => rfl, fun _ => rfl, fun _ => rfl, fun _ => rfl⟩

theorem marks_unsent : Marks unsent false :=
  ⟨fun _ => rfl, fun _ => rfl, fun _ => rfl, fun _ => rfl⟩

theorem edits_markStarted (hsane : rtr.Sane) (inputSeq : Nat) (token : TerminalToken)
    (nowMs : Nat) : Edits rtr (rtr.markStarted inputSeq token nowMs) [inputSeq]
      (handedTo token nowMs) := by
  unfold markStarted
  rcases editLane_cases rtr fun lane =>
      if lane.pending.any fun pend => decide (pend.inputSeq = inputSeq) then
        some (lane.markStarted inputSeq token nowMs)
      else none with ⟨hnone, habsent⟩ | ⟨sid, lane, lane', hlook, hedit, hsome⟩
  · rw [hnone, Option.getD_none]
    refine ⟨rfl, fun sid => (map_absent _ fun pend hpend hmem => ?_).symm, id⟩
    unfold outstanding at hpend
    cases hlook : rtr.lanes.lookup sid with
    | none =>
      rw [hlook] at hpend
      cases hpend
    | some lane =>
      rw [hlook] at hpend
      have hmiss := habsent sid lane hlook
      have hany : (lane.pending.any fun pend => decide (pend.inputSeq = inputSeq)) = true :=
        any_eq_true.mpr ⟨pend, hpend, decide_eq_true (mem_singleton.mp hmem)⟩
      rw [if_pos hany] at hmiss
      cases hmiss
  · rw [hsome]
    split at hedit
    · rename_i hany
      cases hedit
      obtain ⟨_, hpend, hseq⟩ := any_eq_true.mp hany
      exact .modifyBatch hsane (marks_handedTo token nowMs) hlook
        (of_decide_eq_true hseq ▸ mem_map_of_mem hpend)
    · cases hedit

theorem edits_markAll (hsane : rtr.Sane) (token : TerminalToken) (nowMs : Nat)
    (hnd : (batches.map PendingInput.inputSeq).Nodup) : Edits rtr
      (batches.foldl (fun rtr pend => rtr.markStarted pend.inputSeq token nowMs) rtr)
      (batches.map PendingInput.inputSeq) (handedTo token nowMs) := by
  induction batches generalizing rtr with
  | nil => exact .refl rtr _
  | cons pend rest ih =>
    rw [map_cons, nodup_cons] at hnd
    have hmarks := marks_handedTo token nowMs
    have hone := edits_markStarted hsane pend.inputSeq token nowMs
    refine hone.trans (ih (hone.sane hmarks hsane) hnd.2) hmarks fun seq hseq => ?_
    rw [mem_singleton.mp hseq]
    exact hnd.1

theorem startable_sublist (rtr : InputRouter) (sid : String) :
    (rtr.startable sid).Sublist
      ((rtr.outstanding sid).filter fun pending => !pending.started) := by
  unfold startable outstanding
  cases rtr.lanes.lookup sid with
  | none => exact .slnil
  | some =>
    dsimp only [elim]
    unfold InputLane.startable
    split
    · exact nil_sublist _
    · exact take_sublist _ _

theorem edits_dispatchStartable (hsane : rtr.Sane) (sid : String) (token : TerminalToken)
    (nowMs : Nat) : Edits rtr (rtr.dispatchStartable sid token nowMs).1
      ((rtr.startable sid).map PendingInput.inputSeq) (handedTo token nowMs) := by
  refine edits_markAll hsane token nowMs ?_
  exact ((hsane.ordered sid).sublist
    (((startable_sublist rtr sid).trans filter_sublist).map _)).imp Nat.ne_of_lt

theorem startable_spec (rtr : InputRouter) (hsane : rtr.Sane) (sid : String) :
    (∀ pending ∈ rtr.outstanding sid, pending.started = false →
        pending ∉ rtr.startable sid →
        ∀ handed ∈ rtr.startable sid, handed.inputSeq < pending.inputSeq) ∧
      (rtr.startable sid).length ≤ maxStartedInputsPerSession -
        (rtr.outstanding sid).countP fun pending => pending.started := by
  have hord := hsane.ordered sid
  unfold startable outstanding at *
  cases hlook : rtr.lanes.lookup sid with
  | none =>
    refine ⟨fun pending hpend => (by cases hpend), Nat.zero_le _⟩
  | some lane =>
    rw [hlook] at hord
    dsimp only [elim] at hord ⊢
    unfold InputLane.startable
    split
    · exact ⟨fun _ _ _ _ _ h => (by cases h), Nat.zero_le _⟩
    dsimp only
    refine ⟨fun pending hpend hunsent hleft handed hhand => ?_, ?_⟩
    · -- The unsent batches are in order, so what is left comes after what is taken.
      have hunsentOrder : ((lane.pending.filter fun pending => !pending.started).map
          PendingInput.inputSeq).Pairwise (· < ·) :=
        hord.sublist (filter_sublist.map _)
      rw [pairwise_map, ← take_append_drop (maxStartedInputsPerSession -
        lane.pending.countP fun pending => pending.started)
        (lane.pending.filter fun pending => !pending.started)] at hunsentOrder
      have hmem : pending ∈ lane.pending.filter fun pending => !pending.started :=
        mem_filter.mpr ⟨hpend, by simp [hunsent]⟩
      rw [← take_append_drop (maxStartedInputsPerSession -
        lane.pending.countP fun pending => pending.started)
        (lane.pending.filter fun pending => !pending.started), mem_append] at hmem
      exact (pairwise_append.mp hunsentOrder).2.2 handed hhand pending (hmem.resolve_left hleft)
    · exact length_take_le _ _

/-! ## Batches put back -/

theorem Sane.unique (hsane : rtr.Sane) {pend pending' : PendingInput}
    (h : pend ∈ rtr.outstanding sid) (h' : pending' ∈ rtr.outstanding sid)
    (hseq : pend.inputSeq = pending'.inputSeq) : pend = pending' :=
  inj_on_of_nodup_map ((hsane.ordered sid).imp Nat.ne_of_lt) h h' hseq

theorem inputSeq_forgetRoute (hsane : rtr.Sane) (hlook : rtr.lanes.lookup sid = some lane) :
    (rtr.forgetRoute sid).2.map InputOutcome.inputSeq =
      (lane.pending.filter fun pending => !pending.started).map PendingInput.inputSeq := by
  unfold forgetRoute modifyLane setPhase refuseUnstarted
  rw [hlook]
  unfold setLane laneOrNew
  dsimp only
  rw [lookup_insert, if_pos rfl, lookup_insert, if_pos rfl]
  refine InputLane.inputSeq_refuseUnstarted ?_ _
  have hord := laneOrNew_of_lookup hlook ▸ ordered_laneOrNew hsane sid
  exact hord

theorem requeueMovedSyncBatch_cases (hsane : rtr.Sane) (sid : String) (inputSeq : Nat) :
    rtr.requeueMovedSyncBatch sid inputSeq = (rtr, false, []) ∨
      ∃ kept later outcomes pending,
        rtr.requeueMovedSyncBatch sid inputSeq = (later, true, outcomes) ∧
          Drops rtr kept (outcomes.map InputOutcome.inputSeq) ∧
          Edits kept later [inputSeq] unsent ∧
          pending ∈ kept.outstanding sid ∧ pending.inputSeq = inputSeq ∧
          pending.started = true := by
  unfold requeueMovedSyncBatch
  cases hlook : rtr.lanes.lookup sid with
  | none => exact .inl rfl
  | some lane =>
    dsimp only
    split
    · exact .inl rfl
    rename_i hmoved
    simp only [not_or, Bool.not_eq_true', Bool.not_eq_false] at hmoved
    obtain ⟨pending, hpend, hbatch⟩ := any_eq_true.mp hmoved.2.1
    simp only [Bool.and_eq_true, decide_eq_true_eq] at hbatch
    obtain ⟨⟨hseq, hstart⟩, -⟩ := hbatch
    generalize hkept : (if lane.phase = .sending then rtr.forgetRoute sid
      else (rtr, [])) = kept
    have hdrops : Drops rtr kept.1 (kept.2.map InputOutcome.inputSeq) := by
      rw [← hkept]
      split
      · exact drops_forgetRoute hsane sid
      · exact .refl rtr
    -- What is refused has not started, so the batch to put back is still there.
    have hstays : pending.inputSeq ∉ kept.2.map InputOutcome.inputSeq := by
      rw [← hkept]
      split
      · rw [inputSeq_forgetRoute hsane hlook]
        intro hmem
        obtain ⟨_, hother, hsame⟩ := mem_map.mp hmem
        obtain ⟨hother, hunsent⟩ := mem_filter.mp hother
        have hheld := outstanding_of_lookup hlook
        rw [hsane.unique (hheld ▸ hother) (hheld ▸ hpend) hsame, hstart] at hunsent
        cases hunsent
      · exact not_mem_nil
    have hmem : pending ∈ kept.1.outstanding sid := by
      rw [hdrops.outstanding, outstanding_of_lookup hlook]
      exact mem_filter.mpr ⟨hpend, decide_eq_true hstays⟩
    refine .inr ⟨kept.1, _, kept.2, pending, rfl, hdrops, ?_, hmem, hseq, hstart⟩
    cases hlook' : kept.1.lanes.lookup sid with
    | none =>
      unfold outstanding at hmem
      rw [hlook'] at hmem
      cases hmem
    | some lane' =>
      have hlater : kept.1.modifyLane sid (fun lane =>
          { lane with pending := Client.modifyBatch inputSeq unsent lane.pending }) =
            kept.1.setLane sid
              { lane' with pending :=
                Client.modifyBatch inputSeq unsent lane'.pending } := by
        unfold modifyLane
        rw [hlook']
      rw [hlater]
      refine .modifyBatch (hdrops.sane hsane) marks_unsent hlook' ?_
      rw [← hseq, ← outstanding_of_lookup hlook']
      exact mem_map_of_mem hmem

/-! ## Admission -/

theorem admitInput_error (rtr : InputRouter) (sid : String) (viewId : Option String)
    (bytes : List UInt8) (nowMs : Nat) {reason : String}
    (h : (rtr.admitInput sid viewId bytes nowMs).2 = .error reason) :
    (∀ other, (rtr.admitInput sid viewId bytes nowMs).1.outstanding other = rtr.outstanding other) ∧
      rtr.nextInputSeq ≤ (rtr.admitInput sid viewId bytes nowMs).1.nextInputSeq ∧
      (rtr.Balanced → (rtr.admitInput sid viewId bytes nowMs).1.Balanced) := by
  have hsame : Drops rtr (rtr.setLane sid (rtr.laneOrNew sid)) [] :=
    .setLane_same rtr sid rfl rfl
  have houtstanding : ∀ other, (rtr.setLane sid (rtr.laneOrNew sid)).outstanding
      other = rtr.outstanding other := by
    intro other
    rw [hsame.outstanding]
    simp
  unfold admitInput at h ⊢
  dsimp only at h ⊢
  split
  · exact ⟨houtstanding, Nat.le_refl _, hsame.balanced⟩
  split
  · exact ⟨houtstanding, Nat.le_refl _, hsame.balanced⟩
  split
  · exact ⟨houtstanding, Nat.le_refl _, hsame.balanced⟩
  split
  · exact ⟨houtstanding, Nat.le_succ _, hsame.balanced⟩
  · split
    · exact ⟨houtstanding, Nat.le_succ _, hsame.balanced⟩
    · simp_all

/-- One batch joins the end of a lane. -/
structure Joins (router later : InputRouter) (sessionId : String) (pending : PendingInput) :
    Prop where
  inputSeq : pending.inputSeq = router.nextInputSeq + 1
  next : later.nextInputSeq = router.nextInputSeq + 1
  session : pending.sessionId = sessionId
  unstarted : pending.started = false
  outstanding : ∀ other, later.outstanding other =
    if other = sessionId then router.outstanding sessionId ++ [pending]
    else router.outstanding other
  roomForBatch : (router.outstanding sessionId).length < maxPendingInputsPerSession
  roomForBytes : router.Balanced →
    ((router.outstanding sessionId).map fun pending => pending.bytes.length).sum +
      pending.bytes.length ≤ maxPendingInputBytesPerSession
  balanced : router.Balanced → later.Balanced

theorem joins_admitInput (rtr : InputRouter) (sid : String) (viewId : Option String)
    (bytes : List UInt8) (nowMs : Nat) {pending : PendingInput}
    (h : (rtr.admitInput sid viewId bytes nowMs).2 = .ok pending) :
    Joins rtr (rtr.admitInput sid viewId bytes nowMs).1 sid pending := by
  have hsame : Drops rtr (rtr.setLane sid (rtr.laneOrNew sid)) [] :=
    .setLane_same rtr sid rfl rfl
  unfold admitInput at h ⊢
  dsimp only at h ⊢
  split at h
  · cases h
  rename_i hopen
  rw [if_neg hopen]
  split at h
  · cases h
  rename_i hunbl
  rw [if_neg hunbl]
  split at h
  · cases h
  rename_i hsmall
  rw [if_neg hsmall]
  split at h
  · cases h
  rename_i hbytes
  rw [if_neg hbytes]
  split at h
  · cases h
  rename_i hroom
  rw [if_neg hroom]
  rw [not_or, Nat.not_le, Nat.not_lt] at hroom
  cases h
  rw [← outstanding_laneOrNew] at hroom
  refine ⟨rfl, rfl, rfl, rfl, fun other => ?_, hroom.1, fun hbalance => ?_, fun hbalance => ?_⟩
  · rw [outstanding_setLane]
    split
    · dsimp only
      rw [outstanding_laneOrNew]
    · refine (hsame.outstanding other).trans ?_
      simp
  · have hlane := hbalance.laneOrNew sid
    rw [outstanding_laneOrNew, ← hlane]
    exact hroom.2
  · have hlane := hbalance.laneOrNew sid
    refine Balanced.setLane (hsame.balanced hbalance) ?_
    unfold InputLane.Balanced at hlane ⊢
    rw [hlane, map_append, sum_append]
    rfl

end InputRouter

end Roost.Client
