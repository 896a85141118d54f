-- SUMMARY: Every operation of one peer's port keeps its books.
import Roost.Worker.PacketBooks

/-!
# One port at a time

The holds of a budget are the ones that are out and the history reservation's, and disposal finishes
exactly when it was asked for and no hold remains. Each operation of a port keeps this and the books.
-/

namespace Roost.Worker

open HistoryReservations PeerBudget

/-- A port whose books and holds are in order. -/
structure PortSound (rest : PacketSlot → Nat) (elsewhere : Nat → Nat) (port : PeerPort)
    (worker : WorkerBudget) : Prop where
  kept : Kept rest elsewhere port.budget port.reserved worker
  counted : port.budget.holds = port.holders + if port.history.hold then 1 else 0
  backed : port.history.bytes ≠ 0 → port.history.hold = true
  settled : port.budget.disposed = true ↔
    port.budget.disposeRequested = true ∧ port.budget.holds = 0

/-- A port retains no more than another in any slot, and has no read's bytes the other has not. -/
structure PeerPort.Lower (port' port : PeerPort) : Prop where
  retained : ∀ slot, port'.budget.retained slot ≤ port.budget.retained slot
  history : port.history.bytes = 0 → port'.history.bytes = 0

theorem PeerPort.Lower.refl (port : PeerPort) : port.Lower port := ⟨fun _ => Nat.le_refl _, id⟩

theorem PeerPort.Lower.trans {port port' port'' : PeerPort} (h : port''.Lower port')
    (h' : port'.Lower port) : port''.Lower port :=
  ⟨fun slot => Nat.le_trans (h.retained slot) (h'.retained slot),
    fun hbytes => h.history (h'.history hbytes)⟩

@[simp] theorem HistoryReservations.reserved_of_zero {hist : HistoryReservations}
    (h : hist.bytes = 0) : hist.reserved = [] := if_pos h

namespace PortSound

variable {rest : PacketSlot → Nat} {elsewhere : Nat → Nat} {port : PeerPort}
  {worker : WorkerBudget} {resv : PacketReservation}

/-! ## Disposal and holds -/

theorem ofFinish (hkept : Kept rest elsewhere port.budget port.reserved worker)
    (hcount : port.budget.holds = port.holders + if port.history.hold then 1 else 0)
    (hbacked : port.history.bytes ≠ 0 → port.history.hold = true)
    (hended : port.budget.disposed = true →
      port.budget.disposeRequested = true ∧ port.budget.holds = 0) :
    PortSound rest elsewhere (port.finishDispose worker).1 (port.finishDispose worker).2 := by
  have hfin := hkept.finishDispose
  refine ⟨hfin, ?_, hbacked, ?_⟩
  · rcases port.budget.finishDispose_cases port.reserved worker with ⟨-, hsame⟩ | ⟨-, -, -, hdone⟩
    · simp only [PeerPort.finishDispose, hsame]
      exact hcount
    · simp only [PeerPort.finishDispose, hdone]
      exact hcount
  rcases port.budget.finishDispose_cases port.reserved worker with
    ⟨hwaits, hsame⟩ | ⟨hreq, -, hholds, hdone⟩
  · simp only [PeerPort.finishDispose, hsame]
    refine ⟨hended, ?_⟩
    rintro ⟨hreq, hholds⟩
    cases hdisp : port.budget.disposed with
    | true => rfl
    | false => exact absurd ⟨hreq, hdisp, hholds⟩ hwaits
  · simp only [PeerPort.finishDispose, hdone]
    exact ⟨fun _ => ⟨hreq, hholds⟩, fun _ => trivial⟩

theorem hold (h : PortSound rest elsewhere port worker) :
    PortSound rest elsewhere port.hold worker := by
  unfold PeerPort.hold
  split
  · exact h
  rename_i hopen
  simp only [Bool.or_eq_true, not_or, Bool.not_eq_true] at hopen
  have hcount := h.counted
  refine ⟨h.kept.frame rfl rfl rfl rfl rfl rfl, ?_, h.backed, ?_⟩
  · dsimp only
    omega
  · dsimp only
    rw [hopen.1, hopen.2]
    exact ⟨nofun, fun hboth => nomatch hboth.1⟩

theorem endHold {port' : PeerPort} (hkept : Kept rest elsewhere port'.budget port'.reserved worker)
    (hcount : port'.budget.holds = port'.holders + (if port'.history.hold then 1 else 0) + 1)
    (hbacked : port'.history.bytes ≠ 0 → port'.history.hold = true)
    (hended : port'.budget.disposed = true → port'.budget.holds = 0) :
    PortSound rest elsewhere (port'.endHold worker).1 (port'.endHold worker).2 := by
  refine ofFinish (hkept.frame rfl rfl rfl rfl rfl rfl) ?_ hbacked ?_
  · dsimp only
    omega
  · intro hdisp
    have := hended hdisp
    omega

section

variable (h : PortSound rest elsewhere port worker)
include h

theorem dropHold : PortSound rest elsewhere (port.dropHold worker).1 (port.dropHold worker).2 := by
  unfold PeerPort.dropHold
  split
  · exact h
  rename_i hholders
  have hcount := h.counted
  have hrem : ({ port with holders := port.holders - 1 } : PeerPort).budget.holds =
      port.holders - 1 + (if port.history.hold then 1 else 0) + 1 := by
    dsimp only
    omega
  exact endHold h.kept hrem h.backed fun hdisp => (h.settled.mp hdisp).2

theorem dispose : PortSound rest elsewhere (port.dispose worker).1 (port.dispose worker).2 := by
  unfold PeerPort.dispose
  split
  · exact h
  rename_i hopen
  simp only [Bool.or_eq_true, not_or, Bool.not_eq_true] at hopen
  refine ofFinish (h.kept.frame rfl rfl rfl rfl rfl rfl) h.counted h.backed ?_
  intro hdisp
  cases hopen.2.symm.trans hdisp

/-! ## Releases -/

theorem releaseOne {port' : PeerPort} (hperm : port.reserved.Perm (resv :: port'.reserved))
    (hbudget : port'.budget = (port.budget.release resv worker).1)
    (hholders : port'.holders = port.holders) (hhold : port'.history.hold = port.history.hold)
    (hbytes : port'.history.bytes ≠ 0 → port.history.bytes ≠ 0) :
    PortSound rest elsewhere port' (port.budget.release resv worker).2 := by
  obtain ⟨hdisp, hreq, hholds⟩ :
      (port.budget.release resv worker).1.disposed = port.budget.disposed ∧
        (port.budget.release resv worker).1.disposeRequested = port.budget.disposeRequested ∧
        (port.budget.release resv worker).1.holds = port.budget.holds :=
    release_frame
  have hkept := (h.kept.perm hperm).release
  rw [← hbudget] at hkept hdisp hreq hholds
  refine ⟨hkept, ?_, ?_, ?_⟩
  · rw [hholds, hholders, hhold]
    exact h.counted
  · rw [hhold]
    exact fun hpos => h.backed (hbytes hpos)
  · rw [hdisp, hreq, hholds]
    exact h.settled

theorem release (resv : PacketReservation) :
    PortSound rest elsewhere (port.release resv worker).1 (port.release resv worker).2 := by
  unfold PeerPort.release
  split
  · next hmem =>
    refine h.releaseOne ?_ rfl rfl rfl id
    exact (List.perm_cons_erase hmem).append_right _
  · exact h

end

theorem releaseEach {reservations : List PacketReservation}
    (h : PortSound rest elsewhere { port with held := reservations } worker) :
    PortSound rest elsewhere (PeerPort.releaseEach reservations port worker).1
      (PeerPort.releaseEach reservations port worker).2 := by
  induction reservations generalizing port worker with
  | nil => exact h
  | cons resv reservations ih =>
    refine ih ?_
    exact h.releaseOne (List.Perm.refl _) rfl rfl rfl id

/-! ## The history reservation -/

section

variable (h : PortSound rest elsewhere port worker)
include h

theorem releaseBytes : PortSound rest elsewhere { port with
        budget := (port.budget.releaseHistory port.history worker).1
        history := { port.history with bytes := 0, transferId := none } }
      (port.budget.releaseHistory port.history worker).2 := by
  unfold releaseHistory
  by_cases hbytes : port.history.bytes = 0
  · rw [reserved_of_zero hbytes]
    have hkept := h.kept
    rw [PeerPort.reserved, reserved_of_zero hbytes] at hkept
    exact ⟨hkept, h.counted, nofun, h.settled⟩
  have hone : port.history.reserved = [{
      id := port.history.ticket, slot := (.outgoing, .history), bytes := port.history.bytes }] :=
    if_neg hbytes
  have hperm : port.reserved.Perm ({
      id := port.history.ticket, slot := (.outgoing, .history),
      bytes := port.history.bytes } :: port.held) := by
    rw [PeerPort.reserved, hone]
    exact List.perm_append_comm
  rw [hone]
  refine h.releaseOne ?_ rfl rfl rfl nofun
  simpa [PeerPort.reserved, reserved] using hperm

theorem endHistory :
    PortSound rest elsewhere (port.endHistory worker).1 (port.endHistory worker).2 := by
  have hsound := h.releaseBytes
  have hcount := hsound.counted
  dsimp only at hcount
  unfold PeerPort.endHistory
  dsimp only
  by_cases hhold : port.history.hold = true
  · rw [if_pos hhold]
    rw [if_pos hhold] at hcount
    exact endHold hsound.kept hcount nofun fun hdisp => (hsound.settled.mp hdisp).2
  · rw [if_neg hhold]
    rw [if_neg hhold] at hcount
    exact ⟨hsound.kept, hcount, nofun, hsound.settled⟩

theorem releaseHistory (reservationId : Nat) :
    PortSound rest elsewhere (port.releaseHistory reservationId worker).1
      (port.releaseHistory reservationId worker).2 := by
  unfold PeerPort.releaseHistory
  split
  · exact h
  · exact h.endHistory

theorem transferHistory (reservationId : Nat) :
    PortSound rest elsewhere (port.transferHistory reservationId) worker := by
  unfold PeerPort.transferHistory
  split
  · exact ⟨h.kept, h.counted, h.backed, h.settled⟩
  · exact h

theorem cancelForPressure : PortSound rest elsewhere (port.cancelForPressure worker).2.1
      (port.cancelForPressure worker).2.2 := by
  unfold PeerPort.cancelForPressure
  split
  · exact h
  have hcancel : PortSound rest elsewhere { port with
        history := { port.history with reservationId := port.history.reservationId + 1 } }
      worker := ⟨h.kept, h.counted, h.backed, h.settled⟩
  exact hcancel.endHistory

theorem spendTransferred : PortSound rest elsewhere (port.spendTransferred worker).1
      (port.spendTransferred worker).2 := by
  unfold PeerPort.spendTransferred
  split
  · exact h.releaseBytes
  · exact h

end

theorem takeHistory (hkept : Kept rest elsewhere port.budget (resv :: port.reserved) worker)
    (hcount : port.budget.holds = port.holders + if port.history.hold then 1 else 0)
    (hset : port.budget.disposed = true ↔
      port.budget.disposeRequested = true ∧ port.budget.holds = 0)
    (hslot : resv.slot = (.outgoing, .history)) (hfree : port.history.bytes = 0) :
    PortSound rest elsewhere (port.takeHistory resv worker).1 (port.takeHistory resv worker).2 := by
  unfold PeerPort.takeHistory
  split
  · obtain ⟨hdisp, hreq, hholds⟩ :
        (port.budget.release resv worker).1.disposed = port.budget.disposed ∧
          (port.budget.release resv worker).1.disposeRequested = port.budget.disposeRequested ∧
          (port.budget.release resv worker).1.holds = port.budget.holds :=
      release_frame
    refine ⟨hkept.release, hholds.trans hcount, fun hbytes => absurd hfree hbytes, ?_⟩
    dsimp only
    rw [hdisp, hreq, hholds]
    exact hset
  rename_i hopen
  simp only [Bool.or_eq_true, not_or, Bool.not_eq_true] at hopen
  have hpos : resv.bytes ≠ 0 := hkept.positive _ List.mem_cons_self
  have hres : (resv :: port.reserved).Perm (port.held ++ reserved { port.history with
          bytes := resv.bytes
          reservationId := port.history.reservationId + 1
          hold := true
          ticket := resv.id }) := by
    rw [PeerPort.reserved, reserved_of_zero hfree, List.append_nil, reserved, if_neg hpos, ← hslot]
    exact (List.perm_append_comm : ([resv] ++ port.held).Perm _)
  have htaken : Kept rest elsewhere { port.budget with holds := port.budget.holds + 1 } _ worker :=
    (hkept.perm hres).frame rfl rfl rfl rfl rfl rfl
  by_cases hreplaced : port.history.hold = true
  · rw [if_pos hreplaced]
    rw [if_pos hreplaced] at hcount
    refine endHold htaken ?_ (fun _ => rfl) ?_
    · dsimp only
      rw [if_pos rfl]
      omega
    · intro hdisp
      cases hopen.2.symm.trans hdisp
  rw [if_neg hreplaced]
  rw [if_neg hreplaced] at hcount
  refine ⟨htaken, ?_, fun _ => rfl, ?_⟩
  · dsimp only
    rw [if_pos rfl]
    omega
  · dsimp only
    rw [hopen.1, hopen.2]
    exact ⟨nofun, fun hboth => nomatch hboth.1⟩

/-! ## The port -/

section

variable (h : PortSound rest elsewhere port worker)
include h

theorem openPort (id : Nat) :
    PortSound rest elsewhere (port.openPort id worker).1 (port.openPort id worker).2 := by
  unfold PeerPort.openPort
  split
  · exact h
  · exact ⟨h.kept.frame rfl rfl rfl rfl rfl rfl, h.counted, h.backed, h.settled⟩

theorem closeInTurn :
    PortSound rest elsewhere (port.closeInTurn worker).1 (port.closeInTurn worker).2 := by
  unfold PeerPort.closeInTurn
  split
  · exact h
  cases hpress : port.pressureId with
  | none =>
    have hsound : PortSound rest elsewhere
        { { port with closed := true, pressureId := none, budget := port.budget } with
          held := port.held } worker := ⟨h.kept, h.counted, h.backed, h.settled⟩
    exact hsound.releaseEach.dispose
  | some id =>
    have hsound : PortSound rest elsewhere { { port with
            closed := true
            pressureId := none
            budget := { port.budget with
              pressureId := if port.budget.pressureId = some id then none
                else port.budget.pressureId } } with
          held := port.held } (worker.unregisterPressure id) :=
      ⟨h.kept.frame rfl rfl rfl rfl rfl rfl, h.counted, h.backed, h.settled⟩
    exact hsound.releaseEach.dispose

theorem relieveHistoryPressure : PortSound rest elsewhere (port.relieveHistoryPressure worker).2.1
      (port.relieveHistoryPressure worker).2.2 := by
  have hcancel := h.cancelForPressure
  unfold PeerPort.relieveHistoryPressure
  dsimp only
  split
  · exact hcancel.closeInTurn
  · exact hcancel

end

end PortSound

/-! ## What a port retains only falls -/

namespace PeerPort

variable {port : PeerPort} {worker : WorkerBudget}

theorem endHold_lower : (port.endHold worker).1.Lower port :=
  ⟨fun slot => finishDispose_retained_le slot, id⟩

theorem dispose_lower : (port.dispose worker).1.Lower port := by
  unfold dispose
  split
  · exact .refl port
  · exact ⟨fun slot => finishDispose_retained_le slot, id⟩

theorem releaseEach_lower (reservations : List PacketReservation) :
    (releaseEach reservations port worker).1.Lower port := by
  induction reservations generalizing port worker with
  | nil => exact ⟨fun _ => Nat.le_refl _, id⟩
  | cons resv reservations ih =>
    exact ih.trans ⟨fun slot => release_retained_le slot, id⟩

theorem endHistory_lower : (port.endHistory worker).1.Lower port := by
  have hrel : ∀ slot, (port.budget.releaseHistory port.history worker).1.retained slot ≤
      port.budget.retained slot := by
    intro slot
    unfold PeerBudget.releaseHistory
    split
    · exact Nat.le_refl _
    · exact PeerBudget.release_retained_le slot
  unfold endHistory
  dsimp only
  split
  · exact endHold_lower.trans ⟨hrel, fun _ => rfl⟩
  · exact ⟨hrel, fun _ => rfl⟩

theorem closeInTurn_lower : (port.closeInTurn worker).1.Lower port := by
  unfold closeInTurn
  split
  · exact .refl port
  cases port.pressureId with
  | none | some =>
    exact dispose_lower.trans ((releaseEach_lower port.held).trans ⟨fun _ => Nat.le_refl _, id⟩)

theorem relieveHistoryPressure_lower : (port.relieveHistoryPressure worker).2.1.Lower port := by
  have hcancel : (port.cancelForPressure worker).2.1.Lower port := by
    unfold cancelForPressure
    split
    · exact .refl port
    · exact endHistory_lower.trans ⟨fun _ => Nat.le_refl _, id⟩
  unfold relieveHistoryPressure
  dsimp only
  split
  · exact closeInTurn_lower.trans hcancel
  · exact hcancel

end PeerPort

end Roost.Worker
