-- SUMMARY: One peer's budget against the worker's totals.
import Roost.Worker.PacketBudget

/-!
# The books of a peer

Everything one peer does is described against what the rest of the worker retains: the totals are the
rest and the peer's own bytes, the peer's bytes are its reservations, and every reservation granted so
far is live at one peer or was given back once.
-/

namespace Roost.Worker

open Function (update update_apply update_of_ne update_self)

open DirectionBudget

open Peer (TerminalPeerPacketLane)

def bytesAt (reservations : List PacketReservation) (slot : PacketSlot) : Nat :=
  ((reservations.filter fun reservation => decide (reservation.slot = slot)).map (·.bytes)).sum

theorem bytesAt_cons (resv : PacketReservation) (rest : List PacketReservation)
    (slot : PacketSlot) : bytesAt (resv :: rest) slot =
      (if resv.slot = slot then resv.bytes else 0) + bytesAt rest slot := by
  by_cases hslot : resv.slot = slot <;> simp [bytesAt, hslot]

def Charged (total : PacketSlot → Nat) (worker : WorkerBudget) : Prop :=
  ∀ direction, (worker.directions direction).controlBytes = total (direction, .control) ∧
    (worker.directions direction).applicationBytes =
      total (direction, .terminal) + total (direction, .history)

/-- No total is over its ceiling. -/
def WorkerBudget.Capped (worker : WorkerBudget) : Prop :=
  ∀ direction, (worker.directions direction).controlBytes ≤ workerControlQueueMaxBytes ∧
      (worker.directions direction).applicationBytes ≤ workerApplicationQueueMaxBytes ∧
      (worker.directions direction).applicationBytes +
        (worker.directions direction).controlBytes ≤ workerQueueMaxBytes

/-- No peer ceiling is exceeded. -/
def PeerBudget.Capped (budget : PeerBudget) : Prop :=
  ∀ direction, budget.controlBytes direction ≤ controlQueueMaxBytes ∧
    budget.applicationBytes direction ≤ applicationQueueMaxBytes

/-! ## The worker's totals -/

namespace WorkerBudget

variable {worker : WorkerBudget} {slot : PacketSlot} {bytes : Nat}

@[simp] theorem release_returned : (worker.release slot bytes).returned = worker.returned := by
  unfold release logUnderflow
  dsimp only
  split <;> rfl

@[simp] theorem release_granted : (worker.release slot bytes).granted = worker.granted := by
  unfold release logUnderflow
  dsimp only
  split <;> rfl

@[simp] theorem release_directions : (worker.release slot bytes).directions =
    update worker.directions slot.1 ((worker.directions slot.1).release slot.2 bytes) := by
  unfold release logUnderflow
  dsimp only
  split <;> rfl

theorem Capped.release (h : worker.Capped) (slot : PacketSlot) (bytes : Nat) :
    (worker.release slot bytes).Capped := by
  intro direction
  rw [release_directions]
  by_cases hdir : direction = slot.1
  · subst hdir
    rw [update_self]
    obtain ⟨hctl, happly, hboth⟩ := h slot.1
    cases hlane : slot.2 <;>
      simp only [DirectionBudget.release, setLane, laneBytes] <;>
      omega
  · rw [update_of_ne hdir]
    exact h direction

theorem Capped.reserveDirect {worker' : WorkerBudget} (h : worker.Capped)
    (hres : worker.reserveDirect slot bytes = some worker') : worker'.Capped := by
  obtain ⟨budget, hbudget, rfl⟩ := Option.map_eq_some_iff.mp hres
  intro direction
  dsimp only
  by_cases hdir : direction = slot.1
  · subst hdir
    rw [update_self]
    obtain ⟨hctl, happly, hboth⟩ := h slot.1
    unfold reserve at hbudget
    split at hbudget
    · cases hbudget
    split at hbudget
    · cases hbudget
    rename_i hfits
    cases hbudget
    cases hlane : slot.2 <;>
      simp only [hlane, laneMaxBytes, laneBytes, setLane] at hfits ⊢ <;> omega
  · rw [update_of_ne hdir]
    exact h direction

end WorkerBudget

open WorkerBudget

namespace Charged

variable {worker worker' : WorkerBudget} {rest own : PacketSlot → Nat} {slot : PacketSlot}
  {bytes : Nat}

theorem congr {total total' : PacketSlot → Nat} (h : Charged total worker)
    (heq : ∀ slot, total slot = total' slot) : Charged total' worker := by
  intro direction
  rw [← heq, ← heq, ← heq]
  exact h direction

section

variable (h : Charged (fun slot => rest slot + own slot) worker)
include h

theorem release (hle : bytes ≤ own slot) :
    Charged (fun other => rest other + update own slot (own slot - bytes) other)
      (worker.release slot bytes) := by
  intro direction
  obtain ⟨hctl, happly⟩ := h direction
  rw [WorkerBudget.release_directions]
  obtain ⟨side, lane⟩ := slot
  by_cases hdir : direction = side
  · subst hdir
    dsimp only at hctl happly ⊢
    rw [update_self]
    cases lane <;>
      simp [DirectionBudget.release, setLane, laneBytes] <;> omega
  · rw [update_of_ne hdir]
    simp only [update_apply, Prod.mk.injEq, hdir, false_and, if_false]
    exact ⟨hctl, happly⟩

theorem underflows_release (hpos : bytes ≠ 0) (hle : bytes ≤ own slot) :
    (worker.release slot bytes).underflows = worker.underflows := by
  obtain ⟨side, lane⟩ := slot
  obtain ⟨hctl, happly⟩ := h side
  dsimp only at hctl happly
  have hcov : (worker.directions side).underflows lane bytes = false := by
    rw [DirectionBudget.underflows, decide_eq_false_iff_not]
    cases lane <;> simp only [DirectionBudget.laneBytes] <;> omega
  simp [WorkerBudget.release, hcov]

theorem reserveDirect (hres : worker.reserveDirect slot bytes = some worker') :
    Charged (fun other => rest other + update own slot (own slot + bytes) other) worker' := by
  obtain ⟨budget, hbudget, rfl⟩ := Option.map_eq_some_iff.mp hres
  intro direction
  obtain ⟨hctl, happly⟩ := h direction
  obtain ⟨side, lane⟩ := slot
  unfold reserve at hbudget
  split at hbudget
  · cases hbudget
  split at hbudget
  · cases hbudget
  cases hbudget
  dsimp only
  by_cases hdir : direction = side
  · subst hdir
    dsimp only at hctl happly ⊢
    rw [update_self]
    cases lane <;>
      simp [setLane, laneBytes] <;> omega
  · rw [update_of_ne hdir]
    simp only [update_apply, Prod.mk.injEq, hdir, false_and, if_false]
    exact ⟨hctl, happly⟩

end

end Charged

@[simp] theorem WorkerBudget.reserveDirect_frame {worker worker' : WorkerBudget}
    {slot : PacketSlot} {bytes : Nat} (h : worker.reserveDirect slot bytes = some worker') :
    worker'.underflows = worker.underflows ∧ worker'.granted = worker.granted ∧
      worker'.returned = worker.returned ∧ bytes ≠ 0 := by
  obtain ⟨_, hbudget, rfl⟩ := Option.map_eq_some_iff.mp h
  refine ⟨rfl, rfl, rfl, ?_⟩
  rintro rfl
  cases hbudget

/-! ## One peer's books -/

/-- The reservations that are still out; disposal ended all of them. -/
def PeerBudget.live (budget : PeerBudget) (reserved : List PacketReservation) :
    List PacketReservation :=
  if budget.disposed then [] else reserved

/-- One peer's books: `rest` is what the other peers retain and `elsewhere` counts the reservations
they have out. -/
structure Kept (rest : PacketSlot → Nat) (elsewhere : Nat → Nat) (budget : PeerBudget)
    (reserved : List PacketReservation) (worker : WorkerBudget) : Prop where
  books : budget.disposed = false → ∀ slot, budget.retained slot = bytesAt reserved slot
  emptied : budget.disposed = true → ∀ slot, budget.retained slot = 0
  positive : ∀ reservation ∈ reserved, reservation.bytes ≠ 0
  capped : budget.Capped
  charged : Charged (fun slot => rest slot + budget.retained slot) worker
  workerCapped : worker.Capped
  clean : worker.underflows = 0
  tracked : ∀ id, worker.returned.count id + elsewhere id +
    ((budget.live reserved).map (·.id)).count id = if id < worker.granted then 1 else 0

namespace PeerBudget

variable {budget : PeerBudget} {resv : PacketReservation}
  {reserved : List PacketReservation} {worker : WorkerBudget}

@[simp] theorem release_frame : (budget.release resv worker).1.disposed = budget.disposed ∧
    (budget.release resv worker).1.disposeRequested = budget.disposeRequested ∧
    (budget.release resv worker).1.holds = budget.holds := by
  unfold release
  split
  · exact ⟨rfl, rfl, rfl⟩
  dsimp only
  split <;> exact ⟨rfl, rfl, rfl⟩

theorem release_retained_le (slot : PacketSlot) :
    (budget.release resv worker).1.retained slot ≤ budget.retained slot := by
  unfold release
  split
  · exact Nat.le_refl _
  dsimp only
  split
  · exact Nat.le_refl _
  dsimp only
  by_cases hslot : slot = resv.slot
  · subst hslot
    rw [update_self]
    exact Nat.sub_le _ _
  · rw [update_of_ne hslot]

theorem finishDispose_cases (budget : PeerBudget) (reserved : List PacketReservation)
    (worker : WorkerBudget) :
    (¬ (budget.disposeRequested = true ∧ budget.disposed = false ∧ budget.holds = 0) ∧
      budget.finishDispose reserved worker = (budget, worker)) ∨
    (budget.disposeRequested = true ∧ budget.disposed = false ∧ budget.holds = 0 ∧
      (budget.finishDispose reserved worker).1 =
        { budget with disposed := true, retained := fun _ => 0 }) := by
  unfold finishDispose
  by_cases hready : budget.disposeRequested = true ∧ budget.disposed = false ∧ budget.holds = 0
  · obtain ⟨hreq, hdisp, hholds⟩ := hready
    refine .inr ⟨hreq, hdisp, hholds, ?_⟩
    simp [hreq, hdisp, hholds]
  refine .inl ⟨hready, ?_⟩
  rw [if_pos]
  by_cases hreq : budget.disposeRequested = true
  · by_cases hdisp : budget.disposed = true
    · simp [hdisp]
    · simp_all
  · simp [hreq]

theorem finishDispose_retained_le (slot : PacketSlot) :
    (budget.finishDispose reserved worker).1.retained slot ≤ budget.retained slot := by
  rcases finishDispose_cases budget reserved worker with ⟨-, hsame⟩ | ⟨-, -, -, hdone⟩
  · rw [hsame]
  · rw [hdone]
    exact Nat.zero_le _

end PeerBudget

open PeerBudget

namespace Kept

variable {rest : PacketSlot → Nat} {elsewhere : Nat → Nat} {budget : PeerBudget}
  {resv : PacketReservation} {reserved reserved' : List PacketReservation}
  {worker worker' : WorkerBudget} {slot : PacketSlot} {bytes : Nat}

theorem perm (h : Kept rest elsewhere budget reserved worker) (hperm : reserved.Perm reserved') :
    Kept rest elsewhere budget reserved' worker where
  books := fun hdisp slot => by
    rw [h.books hdisp]
    exact ((hperm.filter _).map _).sum_eq
  emptied := h.emptied
  positive := fun other hmem => h.positive other (hperm.mem_iff.mpr hmem)
  capped := h.capped
  charged := h.charged
  workerCapped := h.workerCapped
  clean := h.clean
  tracked := by
    intro id
    have hlive : ((budget.live reserved).map (·.id)).Perm ((budget.live reserved').map (·.id)) := by
      unfold live
      split
      · exact List.Perm.refl _
      · exact hperm.map _
    rw [← hlive.count_eq]
    exact h.tracked id

theorem frame {budget' : PeerBudget} (h : Kept rest elsewhere budget reserved worker)
    (hretained : budget'.retained = budget.retained) (hdisp : budget'.disposed = budget.disposed)
    (hdirect : worker'.directions = worker.directions)
    (hunderflow : worker'.underflows = worker.underflows) (hgrant : worker'.granted = worker.granted)
    (hret : worker'.returned = worker.returned) : Kept rest elsewhere budget' reserved worker' where
  books := by rw [hretained, hdisp]; exact h.books
  emptied := by rw [hretained, hdisp]; exact h.emptied
  positive := h.positive
  capped := by
    unfold PeerBudget.Capped PeerBudget.controlBytes PeerBudget.applicationBytes
    rw [hretained]
    exact h.capped
  charged := by unfold Charged; rw [hretained, hdirect]; exact h.charged
  workerCapped := by unfold WorkerBudget.Capped; rw [hdirect]; exact h.workerCapped
  clean := by rw [hunderflow]; exact h.clean
  tracked := by
    unfold PeerBudget.live
    rw [hdisp, hgrant, hret]
    exact h.tracked

theorem release (h : Kept rest elsewhere budget (resv :: reserved) worker) :
    Kept rest elsewhere (budget.release resv worker).1 reserved (budget.release resv worker).2 := by
  have hposition : ∀ other ∈ reserved, other.bytes ≠ 0 :=
    fun other hmem => h.positive other (List.mem_cons_of_mem _ hmem)
  have htrack := h.tracked
  -- A disposed budget gave everything back already.
  cases hdisp : budget.disposed with
  | true =>
    have hsame : budget.release resv worker = (budget, worker) := by
      rw [PeerBudget.release, if_pos hdisp]
    rw [hsame]
    refine ⟨?_, h.emptied, hposition, h.capped, h.charged, h.workerCapped, h.clean, ?_⟩
    · intro hlive
      cases hdisp.symm.trans hlive
    intro id
    have hid := htrack id
    unfold PeerBudget.live at hid ⊢
    rw [if_pos hdisp] at hid ⊢
    exact hid
  | false =>
    have hbooks := h.books hdisp
    have hpos : resv.bytes ≠ 0 := h.positive _ List.mem_cons_self
    have hle : resv.bytes ≤ budget.retained resv.slot := by
      rw [hbooks, bytesAt_cons, if_pos rfl]
      exact Nat.le_add_right _ _
    have hrel : budget.release resv worker = ({ budget with
            retained := update budget.retained resv.slot (budget.retained resv.slot - resv.bytes) },
          { worker.release resv.slot resv.bytes with
            returned := (worker.release resv.slot resv.bytes).returned ++ [resv.id] }) := by
      rw [PeerBudget.release, hdisp, if_neg Bool.false_ne_true, if_neg (by omega)]
    have hlower : ∀ slot, update budget.retained resv.slot
        (budget.retained resv.slot - resv.bytes) slot ≤ budget.retained slot := by
      intro slot
      have hbound : (budget.release resv worker).1.retained slot ≤ budget.retained slot :=
        PeerBudget.release_retained_le slot
      rw [hrel] at hbound
      exact hbound
    rw [hrel]
    refine ⟨?_, ?_, hposition, ?_, ?_, ?_, ?_, ?_⟩
    · intro _ slot
      have hslot := hbooks slot
      rw [bytesAt_cons] at hslot
      dsimp only
      by_cases heq : slot = resv.slot
      · subst heq
        rw [if_pos rfl] at hslot
        rw [update_self]
        omega
      · rw [if_neg (Ne.symm heq)] at hslot
        rw [update_of_ne heq]
        omega
    · intro hdone
      cases hdisp.symm.trans hdone
    · intro direction
      obtain ⟨hctl, happly⟩ := h.capped direction
      exact ⟨Nat.le_trans (hlower _) hctl,
        Nat.le_trans (Nat.add_le_add (hlower _) (hlower _)) happly⟩
    · exact h.charged.release hle
    · exact h.workerCapped.release _ _
    · exact (h.charged.underflows_release hpos hle).trans h.clean
    · intro id
      have hid := htrack id
      unfold PeerBudget.live at hid ⊢
      rw [hdisp, if_neg Bool.false_ne_true] at hid
      rw [hdisp, if_neg Bool.false_ne_true, WorkerBudget.release_granted,
        WorkerBudget.release_returned, List.count_append, ← hid]
      simp only [List.map_cons, List.count_cons, List.count_nil]
      omega

theorem foldl_release {slots : List PacketSlot} (hnd : slots.Nodup) {own retained : PacketSlot → Nat}
    (hown : ∀ slot ∈ slots, own slot = retained slot)
    (hcharge : Charged (fun slot => rest slot + own slot) worker) (hcapped : worker.Capped) :
    let after := slots.foldl (fun worker slot =>
      if retained slot = 0 then worker else worker.release slot (retained slot)) worker
    Charged (fun slot => rest slot + if slot ∈ slots then 0 else own slot) after ∧ after.Capped ∧
      after.underflows = worker.underflows ∧ after.granted = worker.granted ∧
      after.returned = worker.returned := by
  induction slots generalizing own worker with
  | nil => exact ⟨by simpa using hcharge, hcapped, rfl, rfl, rfl⟩
  | cons slot slots ih =>
    obtain ⟨hfresh, hnd⟩ := List.nodup_cons.mp hnd
    have hslot := hown slot List.mem_cons_self
    rw [List.foldl_cons]
    by_cases hzero : retained slot = 0
    · rw [if_pos hzero]
      obtain ⟨hafter, hrest⟩ := ih hnd
        (fun other hmem => hown other (List.mem_cons_of_mem _ hmem)) hcharge hcapped
      refine ⟨hafter.congr fun other => ?_, hrest⟩
      by_cases heq : other = slot
      · subst heq
        rw [if_neg hfresh, if_pos List.mem_cons_self]
        omega
      · simp only [List.mem_cons, heq, false_or]
    rw [if_neg hzero]
    have hle : retained slot ≤ own slot := Nat.le_of_eq hslot.symm
    have hkept : ∀ other ∈ slots,
        update own slot (own slot - retained slot) other = retained other := by
      intro other hmem
      have hother : other ≠ slot := by
        rintro rfl
        exact hfresh hmem
      rw [update_of_ne hother]
      exact hown other (List.mem_cons_of_mem _ hmem)
    obtain ⟨hafter, hcapped', hunderflow, hgrant, hret⟩ :=
      ih hnd hkept (hcharge.release hle) (hcapped.release _ _)
    refine ⟨hafter.congr fun other => ?_, hcapped',
      hunderflow.trans (hcharge.underflows_release hzero hle),
      hgrant.trans release_granted, hret.trans release_returned⟩
    by_cases heq : other = slot
    · subst heq
      rw [if_neg hfresh, if_pos List.mem_cons_self, update_self]
      omega
    · rw [update_of_ne heq]
      simp only [List.mem_cons, heq, false_or]

section

variable (h : Kept rest elsewhere budget reserved worker)
include h

theorem finishDispose : Kept rest elsewhere (budget.finishDispose reserved worker).1 reserved
      (budget.finishDispose reserved worker).2 := by
  rcases budget.finishDispose_cases reserved worker with
    ⟨-, hsame⟩ | ⟨hreq, hdisp, hholds, -⟩
  · rw [hsame]
    exact h
  have hnd : PacketSlot.all.Nodup := by decide
  obtain ⟨hcharge, hcapped, hunderflow, hgrant, hret⟩ :=
    foldl_release hnd (fun _ _ => rfl) h.charged h.workerCapped
  have hall : ∀ slot : PacketSlot, slot ∈ PacketSlot.all := by
    rintro ⟨side, lane⟩
    cases side <;> cases lane <;> decide
  simp only [PeerBudget.finishDispose, hreq, hdisp, hholds, Bool.not_true, ne_eq,
    not_true_eq_false, decide_false, Bool.or_self, Bool.false_eq_true, if_false]
  refine ⟨nofun, fun _ _ => rfl, h.positive, ?_, ?_, hcapped, ?_, ?_⟩
  · intro direction
    exact ⟨Nat.zero_le _, Nat.zero_le _⟩
  · intro direction
    have htotals := hcharge direction
    dsimp only at htotals
    rw [if_pos (hall _), if_pos (hall _), if_pos (hall _)] at htotals
    exact htotals
  · exact hunderflow.trans h.clean
  intro id
  have hid := h.tracked id
  rw [PeerBudget.live, hdisp, if_neg Bool.false_ne_true] at hid
  rw [PeerBudget.live, if_pos rfl, hgrant, hret, List.count_append, List.map_nil,
    List.count_nil, ← hid]
  omega

theorem grant (hdisp : budget.disposed = false) (hcapped : (budget.charge slot bytes).Capped)
    (hres : worker.reserveDirect slot bytes = some worker') :
    Kept rest elsewhere (budget.charge slot bytes)
      ({ id := worker'.granted, slot, bytes } :: reserved)
      { worker' with granted := worker'.granted + 1 } := by
  obtain ⟨hunderflow, hgrant, hret, hpos⟩ := reserveDirect_frame hres
  have hbooks := h.books hdisp
  have hcharge := h.charged.reserveDirect hres
  have hwork := h.workerCapped.reserveDirect hres
  refine ⟨?_, ?_, ?_, hcapped, hcharge, hwork, hunderflow.trans h.clean, ?_⟩
  · intro _ other
    rw [bytesAt_cons, ← hbooks]
    dsimp only [charge]
    by_cases heq : other = slot
    · subst heq
      rw [update_self, if_pos rfl]
      omega
    · rw [update_of_ne heq, if_neg (Ne.symm heq)]
      omega
  · intro hdone
    cases hdisp.symm.trans hdone
  · intro other hmem
    rcases List.mem_cons.mp hmem with rfl | hold
    · exact hpos
    · exact h.positive other hold
  intro id
  have hid := h.tracked id
  dsimp only [charge]
  rw [live, hdisp, if_neg Bool.false_ne_true] at hid
  rw [live]
  rw [hdisp, if_neg Bool.false_ne_true, hret, hgrant, List.map_cons, List.count_cons]
  -- The next number is not out yet, here or elsewhere.
  by_cases hlast : worker.granted = id
  · subst hlast
    rw [if_neg (Nat.lt_irrefl _)] at hid
    rw [if_pos (Nat.lt_succ_self _), if_pos (by simp)]
    omega
  have hbelow : (id < worker.granted + 1) = (id < worker.granted) :=
    propext ⟨by omega, by omega⟩
  rw [if_neg (by simpa using hlast)]
  simp only [hbelow]
  omega

theorem takeBack (hres : worker.reserveDirect slot bytes = some worker') :
    Kept rest elsewhere budget reserved (worker'.release slot bytes) := by
  obtain ⟨hunderflow, hgrant, hret, hpos⟩ := reserveDirect_frame hres
  have htaken := h.charged.reserveDirect hres
  have hle : bytes ≤ update budget.retained slot (budget.retained slot + bytes) slot := by
    rw [update_self]
    exact Nat.le_add_left _ _
  refine ⟨h.books, h.emptied, h.positive, h.capped, ?_,
    (h.workerCapped.reserveDirect hres).release _ _,
    (htaken.underflows_release hpos hle).trans (hunderflow.trans h.clean), ?_⟩
  · refine (htaken.release hle).congr fun other => ?_
    rw [Function.update_idem, update_self, Nat.add_sub_cancel, Function.update_eq_self]
  · intro id
    rw [release_returned, release_granted, hret, hgrant]
    exact h.tracked id

end

end Kept

end Roost.Worker
