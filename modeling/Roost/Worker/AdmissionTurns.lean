-- SUMMARY: One holder at a time, in the order of admission, with no stall.
import Roost.Worker.KeeperAdmission

/-!
# Turns of the admission lane

Tickets are named in the order they were admitted. The queue holds, in that order, exactly the
tickets that were sent nothing yet; the lane is held by the one ticket it is the turn of; and a
turn passes over a ticket only when the ticket was withdrawn.
-/

namespace Roost.Worker

open List

open AdmissionTicket

/-! ## Tickets -/

/-- There is such a ticket, and it is as asked. -/
def Issued (tickets : List AdmissionTicket) (ticket : Nat) (P : AdmissionTicket → Prop) : Prop :=
  ∃ found, tickets[ticket]? = some found ∧ P found

section Issued

variable {tickets : List AdmissionTicket} {ticket other : Nat} {P Q : AdmissionTicket → Prop}
  {f : AdmissionTicket → AdmissionTicket}

theorem Issued.mono (h : Issued tickets ticket P) (himp : ∀ found, P found → Q found) :
    Issued tickets ticket Q := by
  obtain ⟨found, hfound, hp⟩ := h
  exact ⟨found, hfound, himp found hp⟩

theorem Issued.lt (h : Issued tickets ticket P) : ticket < tickets.length := by
  obtain ⟨_, hfound, -⟩ := h
  exact (List.getElem?_eq_some_iff.mp hfound).1

theorem not_issued (h : Issued tickets ticket P) :
    ¬Issued tickets ticket Q ↔ Issued tickets ticket fun found => P found ∧ ¬Q found := by
  obtain ⟨found, hfound, hp⟩ := h
  constructor
  · exact fun hnot => ⟨found, hfound, hp, fun hq => hnot ⟨found, hfound, hq⟩⟩
  · rintro ⟨other, hother, -, hnot⟩ ⟨third, hthird, hq⟩
    cases hother.symm.trans hthird
    exact hnot hq

theorem issued_modify : Issued (tickets.modify ticket f) other P ↔
    Issued tickets other fun found => P (if other = ticket then f found else found) := by
  unfold Issued
  rw [getElem?_modify]
  by_cases heq : other = ticket
  · subst heq
    cases tickets[other]? with
    | none | some => simp
  have hne : ticket ≠ other := Ne.symm heq
  cases tickets[other]? with
  | none => simp
  | some => simp [heq, hne]

theorem issued_modify_same (h : ∀ found, P (f found) ↔ P found) :
    Issued (tickets.modify ticket f) other P ↔ Issued tickets other P := by
  rw [issued_modify]
  refine exists_congr fun found => and_congr_right fun _ => ?_
  split
  · exact h found
  · rfl

theorem issued_modify_other (h : other ≠ ticket) :
    Issued (tickets.modify ticket f) other P ↔ Issued tickets other P := by
  rw [issued_modify]
  simp only [if_neg h]

theorem issued_modify_self : Issued (tickets.modify ticket f) ticket P ↔
    Issued tickets ticket fun found => P (f found) := by
  rw [issued_modify]
  simp only [if_true]

theorem issued_concat {added : AdmissionTicket} : Issued (tickets ++ [added]) ticket P ↔
    Issued tickets ticket P ∨ ticket = tickets.length ∧ P added := by
  constructor
  · rintro ⟨found, hfound, hp⟩
    rw [List.getElem?_append] at hfound
    split at hfound
    · exact .inl ⟨found, hfound, hp⟩
    rename_i hout
    have hzero : ticket - tickets.length = 0 := by
      by_contra hne
      rw [List.getElem?_eq_none (by simp; omega)] at hfound
      cases hfound
    rw [hzero] at hfound
    cases hfound
    exact .inr ⟨by omega, hp⟩
  · rintro (⟨found, hfound, hp⟩ | ⟨rfl, hp⟩)
    · refine ⟨found, ?_, hp⟩
      rw [List.getElem?_append_left (List.getElem?_eq_some_iff.mp hfound).1]
      exact hfound
    · exact ⟨added, List.getElem?_concat_length, hp⟩

end Issued

namespace AdmissionLane

section Asked

variable (lane : AdmissionLane) (ticket : Nat)

/-- It is the ticket's turn, and it did not give the lane back. -/
def Holds : Prop := Issued lane.tickets ticket fun found => found.holds = true

/-- The ticket is queued, and would take its turn. -/
def Waits : Prop := Issued lane.tickets ticket fun found => found.waits = true

/-- The ticket was given back, or its wait was dropped. -/
def Withdrawn : Prop := Issued lane.tickets ticket fun found => found.withdrawn = true

end Asked

variable (tickets : List AdmissionTicket)

/-- Tickets that were passed over were withdrawn, and cancelled ones released. -/
structure Kept : Prop where
  skipped : ∀ {ticket}, Issued tickets ticket (fun found => found.notification = .closed) →
    Issued tickets ticket fun found => found.withdrawn = true
  marked : ∀ {ticket}, Issued tickets ticket (fun found => found.cancelled = true) →
    Issued tickets ticket fun found => found.released = true

structure Orderly (lane : AdmissionLane) (turns : List Nat) : Prop extends Kept lane.tickets where
  sorted : lane.order.waiters.Pairwise (· < ·)
  queued : ∀ {ticket}, ticket ∈ lane.order.waiters ↔
    Issued lane.tickets ticket fun found => found.notification = .pending
  held : ∀ {ticket}, lane.order.holder = some ticket ↔
    Issued lane.tickets ticket fun found => found.notification = .sent ∧ found.cancelled = false
  idle : lane.order.holder = none → lane.order.waiters = []
  turned : ∀ {ticket}, ticket ∈ turns ↔
    Issued lane.tickets ticket fun found => found.notification = .sent
  inOrder : turns.Pairwise (· < ·)
  ahead : ∀ {ticket waiter}, ticket ∈ turns → waiter ∈ lane.order.waiters → ticket < waiter

variable {turns : List Nat} {lane : AdmissionLane}

theorem orderly_new : Orderly new [] where
  skipped := by simp [new, Issued]
  marked := by simp [new, Issued]
  sorted := .nil
  queued := by simp [new, Issued]
  held := by simp [new, Issued]
  idle _ := rfl
  turned := by simp [new, Issued]
  inOrder := .nil
  ahead h := by cases h

/-! ## Edits of one ticket -/

/-- An edit of a ticket that keeps its place: its notification and cancellation stay, and what was
released or dropped stays so. -/
structure KeepsPlace (f : AdmissionTicket → AdmissionTicket) : Prop where
  notification : ∀ ticket, (f ticket).notification = ticket.notification
  cancelled : ∀ ticket, (f ticket).cancelled = ticket.cancelled
  released : ∀ ticket, ticket.released = true → (f ticket).released = true
  gone : ∀ ticket, ticket.turn = .gone → (f ticket).turn = .gone

variable {f : AdmissionTicket → AdmissionTicket}

theorem KeepsPlace.withdrawn (hf : KeepsPlace f)
    {ticket : AdmissionTicket} (h : ticket.withdrawn = true) : (f ticket).withdrawn = true := by
  unfold AdmissionTicket.withdrawn at h ⊢
  rw [Bool.or_eq_true, decide_eq_true_eq] at h ⊢
  rw [hf.cancelled]
  exact h.imp_right (hf.gone ticket)

variable {ticket other : Nat}

theorem issued_keeps {tickets : List AdmissionTicket}
    {P : AdmissionTicket → Prop}
    (hf : ∀ found, P found → P (f found)) (h : Issued tickets other P) :
    Issued (tickets.modify ticket f) other P := by
  rw [issued_modify]
  refine h.mono fun found hp => ?_
  split
  · exact hf found hp
  · exact hp

theorem Kept.modify {tickets : List AdmissionTicket} (h : Kept tickets) (ticket : Nat)
    (hf : KeepsPlace f) :
    Kept (tickets.modify ticket f) where
  skipped hclosed := by
    rw [issued_modify_same fun found => by rw [hf.notification]] at hclosed
    exact issued_keeps (fun _ => hf.withdrawn) (h.skipped hclosed)
  marked hcancel := by
    rw [issued_modify_same fun found => by rw [hf.cancelled]] at hcancel
    exact issued_keeps hf.released (h.marked hcancel)

theorem Orderly.modifyTicket (h : lane.Orderly turns) (ticket : Nat)
    (hf : KeepsPlace f) :
    (lane.modifyTicket ticket f).Orderly turns where
  toKept := h.toKept.modify ticket hf
  sorted := h.sorted
  queued := h.queued.trans (issued_modify_same fun found => by rw [hf.notification]).symm
  held := h.held.trans (issued_modify_same fun found => by rw [hf.notification, hf.cancelled]).symm
  idle := h.idle
  turned := h.turned.trans (issued_modify_same fun found => by rw [hf.notification]).symm
  inOrder := h.inOrder
  ahead := h.ahead

/-! ## Hand-offs -/

def passed (skipped : List Nat) (turn : Option Nat) (ticket : Nat) (found : AdmissionTicket) :
    AdmissionTicket :=
  if ticket ∈ skipped then found.closed
  else if turn = some ticket then found.notified
  else found

variable {skipped : List Nat}

theorem passed_of_waiting {turn : Option Nat}
    {found : AdmissionTicket} : (passed skipped turn ticket found).cancelled = found.cancelled ∧
      (passed skipped turn ticket found).released = found.released ∧
      (passed skipped turn ticket found).withdrawn = found.withdrawn := by
  unfold passed
  split
  · exact ⟨rfl, rfl, rfl⟩
  · split <;> exact ⟨rfl, rfl, rfl⟩

/-- A hand-off passes over withdrawn tickets, up to the first that wants its turn. -/
structure HandsOff (waiters skipped : List Nat)
    (order : AdmissionOrder) (later : List AdmissionTicket) : Prop where
  split : waiters = skipped ++ order.holder.toList ++ order.waiters
  withdrawn : ∀ ticket ∈ skipped, Issued tickets ticket fun found => found.withdrawn = true
  wanted : ∀ ticket, order.holder = some ticket →
    ¬Issued tickets ticket fun found => found.withdrawn = true
  idle : order.holder = none → order.waiters = []
  issued : ∀ {ticket P}, Issued later ticket P ↔
    Issued tickets ticket fun found => P (passed skipped order.holder ticket found)

theorem handOff_cases {waiters : List Nat} (hnd : waiters.Nodup) : ∃ skipped,
      HandsOff tickets waiters skipped (handOff tickets waiters).1 (handOff tickets waiters).2 := by
  induction waiters generalizing tickets with
  | nil =>
    refine ⟨[], ⟨rfl, fun _ h => (by cases h), fun _ h => (by cases h), fun _ => rfl, ?_⟩⟩
    intro ticket P
    simp [handOff, passed]
  | cons waiter waiters ih =>
    obtain ⟨hfresh, hnd⟩ := nodup_cons.mp hnd
    have hissued : (tickets[waiter]?.any fun ticket => ticket.withdrawn) = true ↔
        Issued tickets waiter fun found => found.withdrawn = true := by
      rw [Option.any_eq_true]
      rfl
    unfold handOff
    split
    · rename_i hwithdrawn
      obtain ⟨skipped, hrest⟩ := ih (tickets.modify waiter closed) hnd
      have hsame : ∀ {ticket}, Issued (tickets.modify waiter closed) ticket
            (fun found => found.withdrawn = true) ↔
          Issued tickets ticket fun found => found.withdrawn = true :=
        issued_modify_same fun _ => Iff.rfl
      refine ⟨waiter :: skipped, ?_, ?_, ?_, hrest.idle, ?_⟩
      · rw [cons_append, cons_append, ← hrest.split]
      · intro ticket hmem
        rcases mem_cons.mp hmem with rfl | hmem
        · exact hissued.mp hwithdrawn
        · exact hsame.mp (hrest.withdrawn ticket hmem)
      · intro ticket hturn hgone
        exact hrest.wanted ticket hturn (hsame.mpr hgone)
      intro ticket P
      rw [hrest.issued, issued_modify]
      refine exists_congr fun found => and_congr_right fun _ => ?_
      unfold passed
      by_cases heq : ticket = waiter
      · subst heq
        -- The turn goes to a later waiter, and a ticket is closed once.
        have hother : (handOff (tickets.modify ticket closed) waiters).1.holder ≠ some ticket := by
          intro hturn
          refine hfresh ?_
          rw [hrest.split, hturn]
          simp
        by_cases hskipped : ticket ∈ skipped
        · simp [hskipped, closed]
        · simp [hskipped, hother]
      · simp [heq]
    · rename_i hwants
      refine ⟨[], rfl, fun _ h => (by cases h), ?_, fun h => (by cases h), ?_⟩
      · intro ticket hturn
        cases hturn
        exact fun hgone => hwants (hissued.mpr hgone)
      intro ticket P
      rw [issued_modify]
      refine exists_congr fun found => and_congr_right fun _ => ?_
      unfold passed
      by_cases heq : ticket = waiter
      · simp [heq]
      · simp [heq, Ne.symm heq]

/-! ## Steps -/

theorem Orderly.admitWrite (h : lane.Orderly turns) (kind : AdmissionKind) :
    (lane.admitWrite kind).1.Orderly (turns ++ (lane.admitWrite kind).2.turn.toList) := by
  have hturns : ∀ ticket ∈ turns, ticket < lane.tickets.length :=
    fun ticket hmem => (h.turned.mp hmem).lt
  have hkept : ∀ notification, notification ≠ .closed →
      Kept (lane.tickets ++ [.new kind notification]) := by
    intro notification hne
    constructor
    · intro ticket hclosed
      rcases issued_concat.mp hclosed with hold | ⟨-, hnew⟩
      · exact issued_concat.mpr (.inl (h.skipped hold))
      · exact absurd hnew hne
    intro ticket hcancel
    rcases issued_concat.mp hcancel with hold | ⟨-, hnew⟩
    · exact issued_concat.mpr (.inl (h.marked hold))
    · cases hnew
  unfold AdmissionLane.admitWrite
  split
  · rw [Option.toList_none, append_nil]
    exact h
  dsimp only
  -- On an idle lane the ticket is sent its turn at once.
  cases hhold : lane.order.holder with
  | none =>
    have hempty := h.idle hhold
    exact {
      toKept := hkept .sent nofun
      sorted := h.sorted
      queued := by
        intro ticket
        rw [issued_concat, ← h.queued]
        simp [AdmissionTicket.new]
      held := by
        intro ticket
        rw [issued_concat, ← h.held, hhold]
        simp [AdmissionTicket.new, eq_comm]
      idle := nofun
      turned := by
        intro ticket
        rw [issued_concat, ← h.turned]
        simp [AdmissionTicket.new]
      inOrder := pairwise_append.mpr ⟨h.inOrder, pairwise_singleton _ _,
        fun ticket hmem last hlast => mem_singleton.mp hlast ▸ hturns ticket hmem⟩
      ahead := by
        intro ticket waiter _ hwaiter
        rw [hempty] at hwaiter
        cases hwaiter }
  | some =>
    have hwaiters : ∀ waiter ∈ lane.order.waiters, waiter < lane.tickets.length :=
      fun waiter hmem => (h.queued.mp hmem).lt
    rw [Option.toList_none, append_nil]
    exact {
      toKept := hkept .pending nofun
      sorted := pairwise_append.mpr ⟨h.sorted, pairwise_singleton _ _,
        fun waiter hmem last hlast => mem_singleton.mp hlast ▸ hwaiters waiter hmem⟩
      queued := by
        intro ticket
        rw [issued_concat, ← h.queued]
        simp [AdmissionTicket.new]
      held := by
        intro ticket
        rw [issued_concat, ← h.held, hhold]
        simp [AdmissionTicket.new]
      idle := nofun
      turned := by
        intro ticket
        rw [issued_concat, ← h.turned]
        simp [AdmissionTicket.new]
      inOrder := h.inOrder
      ahead := by
        intro ticket waiter hmem hwaiter
        rcases mem_append.mp hwaiter with hwaiter | hwaiter
        · exact h.ahead hmem hwaiter
        · exact mem_singleton.mp hwaiter ▸ hturns ticket hmem }

theorem Kept.cancel {tickets : List AdmissionTicket} (h : Kept tickets)
    (hrel : Issued tickets ticket fun found => found.released = true) :
    Kept (tickets.modify ticket AdmissionTicket.cancel) where
  skipped hclosed := by
    rw [issued_modify_same (f := AdmissionTicket.cancel) fun _ => Iff.rfl] at hclosed
    exact issued_keeps (fun _ _ => rfl) (h.skipped hclosed)
  marked := by
    intro other hcancel
    rw [issued_modify_same (f := AdmissionTicket.cancel) fun _ => Iff.rfl]
    by_cases heq : other = ticket
    · exact heq ▸ hrel
    · exact h.marked ((issued_modify_other heq).mp hcancel)

variable {order : AdmissionOrder}

theorem Kept.handsOff {tickets later : List AdmissionTicket} (h : Kept tickets)
    {waiters : List Nat}
    (hands : HandsOff tickets waiters skipped order later) : Kept later where
  skipped := by
    intro ticket hclosed
    rw [hands.issued] at hclosed ⊢
    simp only [passed_of_waiting]
    by_cases hmem : ticket ∈ skipped
    · exact hands.withdrawn ticket hmem
    refine h.skipped (hclosed.mono fun found hfound => ?_)
    unfold passed at hfound
    rw [if_neg hmem] at hfound
    split at hfound
    · cases hfound
    · exact hfound
  marked := by
    intro ticket hcancel
    rw [hands.issued] at hcancel ⊢
    simp only [passed_of_waiting] at hcancel ⊢
    exact h.marked hcancel

theorem Orderly.cancel (h : lane.Orderly turns)
    (hrel : Issued lane.tickets ticket fun found => found.released = true)
    (hother : lane.order.holder ≠ some ticket) :
    (lane.modifyTicket ticket AdmissionTicket.cancel).Orderly turns where
  toKept := h.toKept.cancel hrel
  sorted := h.sorted
  queued := h.queued.trans (issued_modify_same (f := AdmissionTicket.cancel) fun _ => Iff.rfl).symm
  held := by
    intro other
    change lane.order.holder = some other ↔
      Issued (lane.tickets.modify ticket AdmissionTicket.cancel) other _
    by_cases heq : other = ticket
    · subst heq
      rw [issued_modify_self]
      refine ⟨fun hhold => absurd hhold hother, ?_⟩
      rintro ⟨_, _, _, hcancel⟩
      cases hcancel
    · rw [issued_modify_other heq]
      exact h.held
  idle := h.idle
  turned := h.turned.trans (issued_modify_same (f := AdmissionTicket.cancel) fun _ => Iff.rfl).symm
  inOrder := h.inOrder
  ahead := h.ahead

theorem Orderly.waiting (h : lane.Orderly turns)
    (hmem : ticket ∈ lane.order.waiters) : lane.order.holder ≠ some ticket ∧ ticket ∉ turns := by
  constructor
  · intro hhold
    obtain ⟨_, hfound, hpend⟩ := h.queued.mp hmem
    obtain ⟨held, hheld, hsent, -⟩ := h.held.mp hhold
    cases hfound.symm.trans hheld
    cases hpend.symm.trans hsent
  · exact fun hturn => (h.ahead hturn hmem).false

/-- The holder gives the lane back, and it is handed on. -/
theorem Orderly.handsOff (h : lane.Orderly turns)
    (hrel : Issued lane.tickets ticket fun found => found.released = true)
    (hhold : lane.order.holder = some ticket)
    {later : List AdmissionTicket}
    (hands : HandsOff (lane.tickets.modify ticket AdmissionTicket.cancel) lane.order.waiters skipped
      order later) (waiting : UInt32) :
    { lane with order, waiting, tickets := later : AdmissionLane }.Orderly
      (turns ++ order.holder.toList) := by
  have hsorted := h.sorted
  rw [hands.split] at hsorted
  obtain ⟨hfront, hsort, hpre⟩ := pairwise_append.mp hsorted
  have hsplit : ∀ {other}, other ∈ lane.order.waiters ↔
      other ∈ skipped ∨ order.holder = some other ∨ other ∈ order.waiters := by
    intro other
    rw [hands.split]
    simp
  have hnext : ∀ {other}, order.holder = some other → other ∉ skipped := by
    intro other hnext hmem
    exact ((pairwise_append.mp hfront).2.2 other hmem other (by simp [hnext])).false
  have hrest : ∀ {other}, other ∈ order.waiters → other ∉ skipped ∧ order.holder ≠ some other := by
    intro other hmem
    constructor
    · exact fun hskipped =>
        (hpre other (mem_append_left _ hskipped) other hmem).false
    · exact fun hnext => (hpre other (by simp [hnext]) other hmem).false
  have hpassed : ∀ {other}, other ∉ skipped → order.holder ≠ some other → ∀ found,
      passed skipped order.holder other found = found := by
    intro other hskipped hturn found
    rw [passed, if_neg hskipped, if_neg hturn]
  have hcancelled : ∀ {other P}, other ≠ ticket →
      (Issued (lane.tickets.modify ticket AdmissionTicket.cancel) other P ↔
        Issued lane.tickets other P) := fun hne => issued_modify_other hne
  have hwait : ∀ {other}, other ∈ lane.order.waiters → other ≠ ticket ∧ other ∉ turns := by
    intro other hmem
    obtain ⟨hne, hturn⟩ := h.waiting hmem
    exact ⟨fun heq => hne (heq ▸ hhold), hturn⟩
  exact {
    toKept := (h.toKept.cancel hrel).handsOff hands
    sorted := hsort
    queued := by
      intro other
      rw [hands.issued]
      constructor
      · intro hmem
        obtain ⟨hskipped, hturn⟩ := hrest hmem
        simp only [hpassed hskipped hturn]
        exact issued_keeps (fun _ hp => hp) (h.queued.mp (hsplit.mpr (.inr (.inr hmem))))
      intro hissued
      by_cases hskipped : other ∈ skipped
      · obtain ⟨_, _, hclosed⟩ := hissued
        rw [passed, if_pos hskipped] at hclosed
        cases hclosed
      by_cases hturn : order.holder = some other
      · obtain ⟨_, _, hsent⟩ := hissued
        rw [passed, if_neg hskipped, if_pos hturn] at hsent
        cases hsent
      simp only [hpassed hskipped hturn] at hissued
      rw [issued_modify_same (f := AdmissionTicket.cancel) fun _ => Iff.rfl,
        ← h.queued, hsplit] at hissued
      exact (hissued.resolve_left hskipped).resolve_left hturn
    held := by
      intro other
      rw [hands.issued]
      constructor
      · intro hturn
        have hmem := hsplit.mpr (.inr (.inl hturn))
        rw [hcancelled (hwait hmem).1]
        obtain ⟨found, hfound, _⟩ := h.queued.mp hmem
        refine ⟨found, hfound, ?_⟩
        dsimp only
        rw [passed, if_neg (hnext hturn), if_pos hturn]
        refine ⟨rfl, ?_⟩
        -- A ticket whose turn it is was not withdrawn.
        by_contra hgone
        refine hands.wanted other hturn ((hcancelled (hwait hmem).1).mpr ⟨found, hfound, ?_⟩)
        rw [Bool.not_eq_false] at hgone
        unfold AdmissionTicket.withdrawn
        change found.cancelled = true at hgone
        rw [hgone, Bool.true_or]
      · intro hissued
        by_cases hskipped : other ∈ skipped
        · obtain ⟨_, _, hclosed, _⟩ := hissued
          rw [passed, if_pos hskipped] at hclosed
          cases hclosed
        by_contra hturn
        simp only [hpassed hskipped hturn] at hissued
        by_cases heq : other = ticket
        · rw [heq, issued_modify_self] at hissued
          obtain ⟨_, _, _, hcancel⟩ := hissued
          cases hcancel
        · rw [hcancelled heq, ← h.held, hhold] at hissued
          exact heq (Option.some.inj hissued).symm
    idle := hands.idle
    turned := by
      intro other
      rw [hands.issued, mem_append, Option.mem_toList]
      by_cases hskipped : other ∈ skipped
      · have hmem := hsplit.mpr (.inl hskipped)
        constructor
        · rintro (hturn | hturn)
          · exact absurd hturn (hwait hmem).2
          · exact absurd hskipped (hnext hturn)
        · rintro ⟨found, _, hclosed⟩
          rw [passed, if_pos hskipped] at hclosed
          cases hclosed
      by_cases hturn : order.holder = some other
      · have hmem := hsplit.mpr (.inr (.inl hturn))
        refine ⟨fun _ => ?_, fun _ => .inr hturn⟩
        rw [hcancelled (hwait hmem).1]
        obtain ⟨found, hfound, _⟩ := h.queued.mp hmem
        refine ⟨found, hfound, ?_⟩
        dsimp only
        rw [passed, if_neg hskipped, if_pos hturn]
        rfl
      · simp only [hpassed hskipped hturn]
        rw [issued_modify_same (f := AdmissionTicket.cancel) fun _ => Iff.rfl, ← h.turned]
        exact ⟨fun hmem => hmem.resolve_right hturn, .inl⟩
    inOrder := by
      refine pairwise_append.mpr ⟨h.inOrder, ?_, ?_⟩
      · exact (pairwise_append.mp hfront).2.1
      · intro earlier hearlier next hnext
        exact h.ahead hearlier (hsplit.mpr (.inr (.inl (Option.mem_toList.mp hnext))))
    ahead := by
      intro other waiter hmem hwaiter
      rcases mem_append.mp hmem with hturn | hturn
      · exact h.ahead hturn (hsplit.mpr (.inr (.inr hwaiter)))
      · exact hpre other (mem_append_right _ hturn) waiter hwaiter }

inductive GaveBack (lane : AdmissionLane) (ticket : Nat) : AdmissionLane × AdmissionAnswer → Prop where
  | idle (releasing : lane.releasing ticket = false) : GaveBack lane ticket (lane, .none)
  | other (released : Issued lane.tickets ticket fun found => found.released = true)
      (uncancelled : Issued lane.tickets ticket fun found => found.cancelled = false)
      (holder : lane.order.holder ≠ some ticket) :
      GaveBack lane ticket
        ({ lane.modifyTicket ticket cancel with waiting := lane.waiting - 1 }, .none)
  | holder {skipped : List Nat} {order : AdmissionOrder} {later : List AdmissionTicket}
      (released : Issued lane.tickets ticket fun found => found.released = true)
      (holder : lane.order.holder = some ticket)
      (hands : HandsOff (lane.tickets.modify ticket cancel) lane.order.waiters skipped
        order later) :
      GaveBack lane ticket
        ({ lane with order, tickets := later, waiting := lane.waiting - 1 }, ⟨none, order.holder⟩)

theorem Orderly.nodup (h : lane.Orderly turns) : lane.order.waiters.Nodup :=
  h.sorted.imp Nat.ne_of_lt

theorem gaveBack (hnd : lane.order.waiters.Nodup) (ticket : Nat) :
    GaveBack lane ticket (lane.giveBack ticket) := by
  unfold giveBack
  split
  · rename_i hidle
    exact .idle (Bool.not_eq_true' _ ▸ hidle)
  rename_i hrelease
  rw [Bool.not_eq_true, Bool.not_eq_false', releasing, Option.any_eq_true] at hrelease
  obtain ⟨found, hfound, hmarked⟩ := hrelease
  rw [Bool.and_eq_true, Bool.not_eq_true'] at hmarked
  dsimp only
  split
  · rename_i hother
    exact .other ⟨found, hfound, hmarked.1⟩ ⟨found, hfound, hmarked.2⟩ hother
  rename_i hhold
  obtain ⟨_, hands⟩ :=
    handOff_cases (lane.tickets.modify ticket cancel) hnd
  exact .holder ⟨found, hfound, hmarked.1⟩ (not_not.mp hhold) hands

theorem Orderly.giveBack (h : lane.Orderly turns) (ticket : Nat) :
    (lane.giveBack ticket).1.Orderly (turns ++ (lane.giveBack ticket).2.turn.toList) := by
  have hcases := gaveBack h.nodup ticket
  generalize lane.giveBack ticket = given at hcases
  cases hcases with
  | idle =>
    rw [AdmissionAnswer.none, Option.toList_none, append_nil]
    exact h
  | other released uncancelled holder =>
    rw [AdmissionAnswer.none, Option.toList_none, append_nil]
    have hcancel := h.cancel released holder
    exact { hcancel with }
  | holder released holder hands => exact h.handsOff released holder hands _

theorem KeepsPlace.of_cases
    (h : ∀ ticket, f ticket = ticket ∨ f ticket = { ticket with released := true } ∨
      f ticket = { ticket with turn := .gone } ∨
      ticket.turn = .kept ∧ f ticket = { ticket with turn := .awaited }) : KeepsPlace f where
  notification ticket := by rcases h ticket with h | h | h | ⟨-, h⟩ <;> rw [h]
  cancelled ticket := by rcases h ticket with h | h | h | ⟨-, h⟩ <;> rw [h]
  released ticket hrel := by
    rcases h ticket with h | h | h | ⟨-, h⟩ <;> rw [h] <;> exact hrel
  gone ticket hgone := by
    rcases h ticket with h | h | h | ⟨hkept, -⟩
    · rw [h]
      exact hgone
    · rw [h]
      exact hgone
    · rw [h]
    · cases hgone.symm.trans hkept

/-- A step keeps the lane in order and sends one turn at most. -/
theorem Orderly.step (h : lane.Orderly turns) (op : AdmissionOp) :
    (admissionLane.next lane op).Orderly (turns ++ (admissionLane.answer lane op).turn.toList) := by
  have hedit : ∀ {lane' : AdmissionLane}, lane'.Orderly turns →
      lane'.Orderly (turns ++ AdmissionAnswer.none.turn.toList) := by
    intro lane' h
    rw [AdmissionAnswer.none, Option.toList_none, append_nil]
    exact h
  cases op with
  | admitWrite kind => exact h.admitWrite kind
  | setKeeperUpdatePrepared => exact hedit { h with }
  | awaitTurn ticket =>
    refine hedit (h.modifyTicket ticket (.of_cases fun ticket => ?_))
    split
    · exact .inl rfl
    · rename_i hfree
      rw [not_or, not_not] at hfree
      exact .inr (.inr (.inr ⟨hfree.2, rfl⟩))
  | pollTurn ticket =>
    have hgone : KeepsPlace fun ticket => { ticket with turn := .gone } :=
      .of_cases fun _ => .inr (.inr (.inl rfl))
    refine hedit ?_
    change (lane.pollTurn ticket).Orderly turns
    unfold AdmissionLane.pollTurn
    split
    · exact h
    rename_i found _
    split
    · exact h
    cases found.notification with
    | pending => exact h
    | closed => exact h.modifyTicket ticket hgone
    | sent =>
      have hran : { lane with running := some found.kind : AdmissionLane }.Orderly turns :=
        { h with }
      exact hran.modifyTicket ticket hgone
  | abandonTurn ticket =>
    refine hedit (h.modifyTicket ticket (.of_cases fun ticket => ?_))
    split
    · exact .inr (.inr (.inl rfl))
    · exact .inl rfl
  | markReleased ticket =>
    refine hedit ?_
    change (lane.markReleased ticket).Orderly turns
    unfold AdmissionLane.markReleased
    split
    · have hidle : { lane with running := none : AdmissionLane }.Orderly turns := { h with }
      exact hidle.modifyTicket ticket (.of_cases fun _ => .inr (.inl rfl))
    · exact h
  | giveBack ticket => exact h.giveBack ticket
  | dropTicket ticket =>
    refine hedit (h.modifyTicket ticket (.of_cases fun ticket => ?_))
    split
    · exact .inr (.inr (.inl rfl))
    · exact .inl rfl

/-- The tickets whose turn it was, in order. -/
def turnsOf (answers : List AdmissionAnswer) : List Nat := answers.filterMap AdmissionAnswer.turn

theorem orderly_run (ops : List AdmissionOp) :
    (admissionLane.run new ops).Orderly (turnsOf (admissionLane.answers new ops)) := by
  refine admissionLane.answered (P := fun answers lane => lane.Orderly (turnsOf answers)) orderly_new
    (fun past lane op h => ?_) ops
  have hturns : turnsOf (past ++ [admissionLane.answer lane op]) =
      turnsOf past ++ (admissionLane.answer lane op).turn.toList := by
    unfold turnsOf
    rw [filterMap_append]
    cases hturn : (admissionLane.answer lane op).turn with
    | none | some => simp [hturn]
  rw [hturns]
  exact h.step op

/-! ## Turns -/

theorem Orderly.exclusive (h : lane.Orderly turns) (hholds : lane.Holds ticket)
    (hother : lane.Holds other) : ticket = other := by
  have hhold : ∀ {ticket}, lane.Holds ticket → lane.order.holder = some ticket := by
    rintro ticket ⟨found, hfound, hholds⟩
    unfold holds at hholds
    rw [Bool.and_eq_true, decide_eq_true_eq, Bool.not_eq_true'] at hholds
    refine h.held.mpr ⟨found, hfound, hholds.1, ?_⟩
    by_contra hcancel
    rw [Bool.not_eq_false] at hcancel
    obtain ⟨marked, hmarked, hrel⟩ := h.marked ⟨found, hfound, hcancel⟩
    cases hfound.symm.trans hmarked
    cases hrel.symm.trans hholds.2
  exact Option.some.inj ((hhold hholds).symm.trans (hhold hother))

theorem Orderly.waits_iff (h : lane.Orderly turns) :
    lane.Waits ticket ↔ ticket ∈ lane.order.waiters ∧ ¬lane.Withdrawn ticket := by
  have hwaits : ∀ found : AdmissionTicket, found.waits = true ↔
      found.notification = .pending ∧ ¬found.withdrawn = true := by
    intro found
    unfold waits
    rw [Bool.and_eq_true, decide_eq_true_eq, Bool.not_eq_true', Bool.not_eq_true]
  constructor
  · intro hissued
    have hpend := hissued.mono fun found hfound => ((hwaits found).mp hfound).1
    refine ⟨h.queued.mpr hpend, (not_issued hpend).mpr ?_⟩
    exact hissued.mono fun found hfound => (hwaits found).mp hfound
  · rintro ⟨hmem, hwanted⟩
    exact ((not_issued (h.queued.mp hmem)).mp hwanted).mono fun found => (hwaits found).mpr

theorem Orderly.served (h : lane.Orderly turns) (hwaits : lane.Waits ticket) :
    ∃ holder, lane.order.holder = some holder := by
  have hqueue := (h.waits_iff.mp hwaits).1
  cases hhold : lane.order.holder with
  | some holder => exact ⟨holder, rfl⟩
  | none =>
    rw [h.idle hhold] at hqueue
    cases hqueue

theorem Orderly.passes (h : lane.Orderly (turns ++ [ticket])) {earlier : Nat}
    (hearlier : earlier < ticket) : earlier ∈ turns ∨ lane.Withdrawn earlier := by
  have hturn := h.turned.mp (mem_append_right turns (mem_singleton_self ticket))
  obtain ⟨found, hissued⟩ : ∃ found, lane.tickets[earlier]? = some found :=
    ⟨_, getElem?_eq_getElem (hearlier.trans hturn.lt)⟩
  cases hnotify : found.notification with
  | pending =>
    have hqueue := h.queued.mpr ⟨_, hissued, hnotify⟩
    have hahead := h.ahead (mem_append_right turns (mem_singleton_self ticket)) hqueue
    exact absurd hahead hearlier.asymm
  | sent =>
    rcases mem_append.mp (h.turned.mpr ⟨_, hissued, hnotify⟩) with hmem | hmem
    · exact .inl hmem
    · exact absurd (mem_singleton.mp hmem) hearlier.ne
  | closed => exact .inr (h.skipped ⟨_, hissued, hnotify⟩)

/-- The turn goes to the oldest ticket that waits. -/
theorem Orderly.next_turn (h : lane.Orderly turns)
    (hhold : lane.order.holder = some ticket) (hrelease : lane.releasing ticket = true)
    {next : Nat} : (lane.giveBack ticket).2.turn = some next ↔
      lane.Waits next ∧ ∀ earlier < next, ¬lane.Waits earlier := by
  have hcases := gaveBack h.nodup ticket
  generalize lane.giveBack ticket = given at hcases
  cases hcases with
  | idle releasing =>
    rw [releasing] at hrelease
    cases hrelease
  | other released uncancelled holder => exact absurd hhold holder
  | @holder skipped order later released holder hands =>
    have hwithdrawn : ∀ {other}, other ∈ lane.order.waiters →
        (Issued (lane.tickets.modify ticket AdmissionTicket.cancel) other
          (fun found => found.withdrawn = true) ↔ lane.Withdrawn other) := by
      intro other hmem
      refine issued_modify_other ?_
      rintro rfl
      exact (h.waiting hmem).1 holder
    have hsplit : ∀ {other}, other ∈ lane.order.waiters ↔
        other ∈ skipped ∨ order.holder = some other ∨ other ∈ order.waiters := by
      intro other
      rw [hands.split]
      simp
    have hsorted := h.sorted
    rw [hands.split] at hsorted
    obtain ⟨_, -, hpre⟩ := pairwise_append.mp hsorted
    -- What is skipped was withdrawn, and what the turn goes to was not.
    have hskips : ∀ {other}, other ∈ skipped → ¬lane.Waits other := by
      intro other hmem hwaits
      exact (h.waits_iff.mp hwaits).2
        ((hwithdrawn (hsplit.mpr (.inl hmem))).mp (hands.withdrawn other hmem))
    have hwants : ∀ {other}, order.holder = some other → lane.Waits other := by
      intro other hturn
      have hmem := hsplit.mpr (.inr (.inl hturn))
      exact h.waits_iff.mpr ⟨hmem, fun hgone => hands.wanted other hturn ((hwithdrawn hmem).mpr hgone)⟩
    constructor
    · intro hturn
      refine ⟨hwants hturn, fun earlier hearlier hwaits => ?_⟩
      rcases hsplit.mp (h.waits_iff.mp hwaits).1 with hmem | hsame | hmem
      · exact hskips hmem hwaits
      · cases hturn.symm.trans hsame
        exact hearlier.false
      · exact hearlier.asymm (hpre next (by simp [Option.mem_toList.mpr hturn]) earlier hmem)
    rintro ⟨hwaits, hfirst⟩
    rcases hsplit.mp (h.waits_iff.mp hwaits).1 with hmem | hsame | hmem
    · exact absurd hwaits (hskips hmem)
    · exact hsame
    cases hturn : order.holder with
    | none =>
      rw [hands.idle hturn] at hmem
      cases hmem
    | some first =>
      exact absurd (hwants hturn) (hfirst first (hpre first (by simp [hturn]) next hmem))

theorem Orderly.turn_wanted (h : lane.Orderly turns) {op : AdmissionOp}
    (hturn : (admissionLane.answer lane op).turn = some ticket) :
    ¬(admissionLane.next lane op).Withdrawn ticket := by
  cases op with
  | admitWrite kind =>
    change (lane.admitWrite kind).2.turn = some ticket at hturn
    change ¬(lane.admitWrite kind).1.Withdrawn ticket
    unfold AdmissionLane.admitWrite at hturn ⊢
    split at hturn
    · cases hturn
    rename_i hopen
    rw [if_neg hopen]
    dsimp only at hturn ⊢
    cases hhold : lane.order.holder with
    | some =>
      rw [hhold] at hturn
      cases hturn
    | none =>
      rw [hhold] at hturn
      cases hturn
      intro hgone
      rcases issued_concat.mp hgone with hold | ⟨-, hnew⟩
      · exact hold.lt.false
      · cases hnew
  | giveBack given =>
    have hcases := gaveBack h.nodup given
    change (lane.giveBack given).2.turn = some ticket at hturn
    change ¬(lane.giveBack given).1.Withdrawn ticket
    generalize lane.giveBack given = gave at hcases hturn
    cases hcases with
    | idle | other => cases hturn
    | holder released holder hands =>
      intro hgone
      refine hands.wanted ticket hturn ((hands.issued.mp hgone).mono fun found hfound => ?_)
      rwa [passed_of_waiting.2.2] at hfound
  | _ => cases hturn

theorem release_other (hother : lane.order.holder ≠ some ticket) {op : AdmissionOp}
    (hop : op = .markReleased ticket ∨ op = .giveBack ticket) :
    (admissionLane.answer lane op).turn = none ∧ (admissionLane.next lane op).order = lane.order ∧
      ∀ other, other ≠ ticket →
        (admissionLane.next lane op).tickets[other]? = lane.tickets[other]? := by
  have hmodify : ∀ {tickets : List AdmissionTicket} {f : AdmissionTicket → AdmissionTicket} {other},
      other ≠ ticket → (tickets.modify ticket f)[other]? = tickets[other]? := by
    intro tickets f other hne
    simp [hne.symm]
  rcases hop with rfl | rfl
  · change _ ∧ (lane.markReleased ticket).order = lane.order ∧
      ∀ other, other ≠ ticket → (lane.markReleased ticket).tickets[other]? = lane.tickets[other]?
    unfold AdmissionLane.markReleased
    split
    · exact ⟨rfl, rfl, fun other hne => hmodify hne⟩
    · exact ⟨rfl, rfl, fun _ _ => rfl⟩
  change (lane.giveBack ticket).2.turn = none ∧ (lane.giveBack ticket).1.order = lane.order ∧
    ∀ other, other ≠ ticket → (lane.giveBack ticket).1.tickets[other]? = lane.tickets[other]?
  unfold AdmissionLane.giveBack
  split
  · exact ⟨rfl, rfl, fun _ _ => rfl⟩
  dsimp only
  split
  · exact ⟨rfl, rfl, fun other hne => hmodify hne⟩
  · rename_i hhold
    exact absurd (not_not.mp hhold) hother

end AdmissionLane

end Roost.Worker
