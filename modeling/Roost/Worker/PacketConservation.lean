-- SUMMARY: Peer byte budgets are conserved over every run.
import Roost.Worker.PacketPorts

/-!
# Conservation

The worker's invariant is each port's own order and one ledger over all of them. A peer's operation
changes its entry alone; a reservation that has to ask other ports leaves a sound state with the new
bytes on top, and the peer takes those bytes or they go back.
-/

namespace Roost.Worker

open PeerBudget Table

/-- A port's own part of its books. -/
structure PeerPort.Orderly (port : PeerPort) : Prop where
  books : port.budget.disposed = false → ∀ slot,
    port.budget.retained slot = bytesAt port.reserved slot
  emptied : port.budget.disposed = true → ∀ slot, port.budget.retained slot = 0
  positive : ∀ reservation ∈ port.reserved, reservation.bytes ≠ 0
  capped : port.budget.Capped
  counted : port.budget.holds = port.holders + if port.history.hold then 1 else 0
  backed : port.history.bytes ≠ 0 → port.history.hold = true
  settled : port.budget.disposed = true ↔
    port.budget.disposeRequested = true ∧ port.budget.holds = 0

/-- How often a reservation is out at a port. -/
def PeerPort.liveCount (port : PeerPort) (id : Nat) : Nat :=
  ((port.budget.live port.reserved).map (·.id)).count id

namespace Budgets

variable (budgets : Budgets)

def retained (slot : PacketSlot) : Nat :=
  total (fun port => port.budget.retained slot) budgets.peers

/-- How often a reservation is out. -/
def liveCount (id : Nat) : Nat :=
  total (fun port => port.liveCount id) budgets.peers

/-- What the other peers retain. -/
def rest (peer : Nat) (slot : PacketSlot) : Nat :=
  total (fun port => port.budget.retained slot) (budgets.peers.erase peer)

/-- How often a reservation is out at the other peers. -/
def elsewhere (peer id : Nat) : Nat :=
  total (fun port => port.liveCount id) (budgets.peers.erase peer)

/-- The worker's invariant. -/
structure Sound : Prop where
  orderly : ∀ peer port, budgets.peers.lookup peer = some port → port.Orderly
  charged : Charged budgets.retained budgets.worker
  capped : budgets.worker.Capped
  clean : budgets.worker.underflows = 0
  tracked : ∀ id, budgets.worker.returned.count id + budgets.liveCount id =
    if id < budgets.worker.granted then 1 else 0

/-- Every peer of one state is one of another that retains no more. -/
def Lower (budgets' budgets : Budgets) : Prop :=
  ∀ peer port, budgets.peers.lookup peer = some port →
    ∃ port', budgets'.peers.lookup peer = some port' ∧ port'.Lower port

variable {budgets : Budgets} {peer : Nat} {port port' : PeerPort} {worker' : WorkerBudget}

theorem Lower.refl (budgets : Budgets) : budgets.Lower budgets :=
  fun _ port hport => ⟨port, hport, .refl port⟩

theorem Lower.trans {budgets' budgets'' : Budgets} (h : budgets''.Lower budgets')
    (h' : budgets'.Lower budgets) : budgets''.Lower budgets := by
  intro peer port hport
  obtain ⟨port', hport', hlower'⟩ := h' peer port hport
  obtain ⟨port'', hport'', hlower''⟩ := h peer port' hport'
  exact ⟨port'', hport'', hlower''.trans hlower'⟩

/-! ## One peer of the worker -/

theorem retained_insert (slot : PacketSlot) :
    retained { worker := worker', peers := budgets.peers.insert peer port' } slot =
      budgets.rest peer slot + port'.budget.retained slot :=
  total_insert

theorem liveCount_insert (id : Nat) :
    liveCount { worker := worker', peers := budgets.peers.insert peer port' } id =
      budgets.elsewhere peer id + port'.liveCount id :=
  total_insert

theorem rest_add (hport : budgets.peers.lookup peer = some port) (slot : PacketSlot) :
    budgets.rest peer slot + port.budget.retained slot = budgets.retained slot := by
  have htotal : total (fun port : PeerPort => port.budget.retained slot)
      (budgets.peers.erase peer) +
      heldBy (fun port : PeerPort => port.budget.retained slot) budgets.peers peer = _ :=
    total_erase_add
  rw [heldBy_of_lookup hport] at htotal
  exact htotal

theorem elsewhere_add (hport : budgets.peers.lookup peer = some port) (id : Nat) :
    budgets.elsewhere peer id + port.liveCount id = budgets.liveCount id := by
  have htotal : total (fun port : PeerPort => port.liveCount id) (budgets.peers.erase peer) +
      heldBy (fun port : PeerPort => port.liveCount id) budgets.peers peer = _ :=
    total_erase_add
  rw [heldBy_of_lookup hport] at htotal
  exact htotal

theorem rest_insert : rest { worker := worker', peers := budgets.peers.insert peer port' } peer =
      budgets.rest peer := by
  funext slot
  have hadded : rest { worker := worker', peers := budgets.peers.insert peer port' } peer slot +
      port'.budget.retained slot = _ := rest_add (AList.lookup_insert _) slot
  rw [retained_insert] at hadded
  exact Nat.add_right_cancel hadded

theorem elsewhere_insert :
    elsewhere { worker := worker', peers := budgets.peers.insert peer port' } peer =
      budgets.elsewhere peer := by
  funext id
  have hadded : elsewhere { worker := worker', peers := budgets.peers.insert peer port' } peer id +
      port'.liveCount id = _ := elsewhere_add (AList.lookup_insert _) id
  rw [liveCount_insert] at hadded
  exact Nat.add_right_cancel hadded

theorem Sound.portSound (h : budgets.Sound) (hport : budgets.peers.lookup peer = some port) :
    PortSound (budgets.rest peer) (budgets.elsewhere peer) port budgets.worker := by
  have hord := h.orderly peer port hport
  refine ⟨⟨hord.books, hord.emptied, hord.positive, hord.capped, ?_, h.capped,
    h.clean, ?_⟩, hord.counted, hord.backed, hord.settled⟩
  · exact h.charged.congr fun slot => (rest_add hport slot).symm
  intro id
  have htrack := h.tracked id
  rw [← elsewhere_add hport] at htrack
  rw [Nat.add_assoc]
  exact htrack

theorem Sound.ofPort
    (hothers : ∀ other port, other ≠ peer → budgets.peers.lookup other = some port → port.Orderly)
    (hsound : PortSound (budgets.rest peer) (budgets.elsewhere peer) port' worker') :
    Sound { worker := worker', peers := budgets.peers.insert peer port' } where
  orderly := by
    intro other port hport
    rw [lookup_insert] at hport
    split at hport
    · cases hport
      exact ⟨hsound.kept.books, hsound.kept.emptied, hsound.kept.positive, hsound.kept.capped,
        hsound.counted, hsound.backed, hsound.settled⟩
    · next hother => exact hothers other port hother hport
  charged := hsound.kept.charged.congr fun slot => (retained_insert slot).symm
  capped := hsound.kept.workerCapped
  clean := hsound.kept.clean
  tracked := by
    intro id
    rw [liveCount_insert, ← Nat.add_assoc]
    exact hsound.kept.tracked id

variable {f : PeerPort → WorkerBudget → PeerPort × WorkerBudget}

theorem Sound.onPeer (h : budgets.Sound) (peer : Nat)
    (hf : ∀ {rest elsewhere port worker}, PortSound rest elsewhere port worker →
      PortSound rest elsewhere (f port worker).1 (f port worker).2) :
    (budgets.onPeer peer f).Sound := by
  unfold Budgets.onPeer
  cases hport : budgets.peers.lookup peer with
  | none => exact h
  | some =>
    exact .ofPort (fun other port' _ hother => h.orderly other port' hother)
      (hf (h.portSound hport))

/-! ## Relief -/

/-- A sound state with the asked bytes taken on top of its totals. -/
def Topped (budgets' budgets : Budgets) (slot : PacketSlot) (bytes : Nat) : Prop :=
  ∃ relieved worker', Sound relieved ∧ relieved.Lower budgets ∧
    relieved.worker.reserveDirect slot bytes = some worker' ∧
    budgets' = { relieved with worker := worker' }

theorem Sound.relieve (h : budgets.Sound) (peer : Nat) :
    (budgets.relieve peer).2.Sound ∧ (budgets.relieve peer).2.Lower budgets := by
  unfold Budgets.relieve
  cases hport : budgets.peers.lookup peer with
  | none => exact ⟨h, .refl budgets⟩
  | some =>
    refine ⟨.ofPort (fun other port' _ hother => h.orderly other port' hother)
      (h.portSound hport).relieveHistoryPressure, ?_⟩
    intro other port' hother
    rw [lookup_insert]
    by_cases hsame : other = peer
    · subst hsame
      rw [hport] at hother
      cases hother
      exact ⟨_, if_pos rfl, PeerPort.relieveHistoryPressure_lower⟩
    · exact ⟨port', by rw [if_neg hsame]; exact hother, .refl port'⟩

theorem Sound.relieveAll (h : budgets.Sound) (slot : PacketSlot) (bytes : Nat)
    (excluded : Option Nat) (stand : List Nat) (handled : List (Nat × Nat)) :
    ((Budgets.relieveAll slot bytes excluded stand handled budgets).1 = false →
        (Budgets.relieveAll slot bytes excluded stand handled budgets).2.Sound) ∧
      ((Budgets.relieveAll slot bytes excluded stand handled budgets).1 = true →
        Topped (Budgets.relieveAll slot bytes excluded stand handled budgets).2 budgets slot
          bytes) := by
  induction handled generalizing budgets with
  | nil => exact ⟨fun _ => h, nofun⟩
  | cons handler handled ih =>
    obtain ⟨_, peer⟩ := handler
    rw [Budgets.relieveAll]
    split
    · exact ih h
    obtain ⟨hrel, hlower⟩ := h.relieve peer
    cases hanswer : budgets.relieve peer with
    | mk answer relieved =>
      rw [hanswer] at hrel hlower
      -- Whatever the later handlers do, they do it to a state below this one.
      have hlater := ih hrel
      have htopped : ∀ budgets', Topped budgets' relieved slot bytes →
          Topped budgets' budgets slot bytes := by
        rintro budgets' ⟨last, worker', hlast, hbelow, hres, heq⟩
        exact ⟨last, worker', hlast, hbelow.trans hlower, hres, heq⟩
      cases answer with
      | false => exact ⟨hlater.1, fun hfits => htopped _ (hlater.2 hfits)⟩
      | true =>
        dsimp only
        cases hres : relieved.worker.reserveDirect slot bytes with
        | none => exact ⟨hlater.1, fun hfits => htopped _ (hlater.2 hfits)⟩
        | some worker' =>
          exact ⟨nofun, fun _ => ⟨relieved, worker', hrel, hlower, hres, rfl⟩⟩

theorem Sound.reserveWorker (h : budgets.Sound) (slot : PacketSlot) (bytes : Nat)
    (excluded : Option Nat) (stand : List Nat) :
    ((budgets.reserveWorker slot bytes excluded stand).1 = false →
        (budgets.reserveWorker slot bytes excluded stand).2.Sound) ∧
      ((budgets.reserveWorker slot bytes excluded stand).1 = true →
        Topped (budgets.reserveWorker slot bytes excluded stand).2 budgets slot bytes) := by
  unfold Budgets.reserveWorker
  split
  · exact ⟨fun _ => h, nofun⟩
  cases hres : budgets.worker.reserveDirect slot bytes with
  | some worker' => exact ⟨nofun, fun _ => ⟨budgets, worker', h, .refl budgets, hres, rfl⟩⟩
  | none =>
    dsimp only
    split
    · exact ⟨fun _ => h, nofun⟩
    · exact h.relieveAll slot bytes excluded stand budgets.worker.pressure

/-! ## Reservations -/

structure Granted (budgets : Budgets) (peer : Nat) (reservation : PacketReservation)
    (port : PeerPort) : Prop where
  found : budgets.peers.lookup peer = some port
  others : ∀ other port, other ≠ peer → budgets.peers.lookup other = some port → port.Orderly
  kept : Kept (budgets.rest peer) (budgets.elsewhere peer) port.budget
    (reservation :: port.reserved) budgets.worker
  counted : port.budget.holds = port.holders + if port.history.hold then 1 else 0
  backed : port.history.bytes ≠ 0 → port.history.hold = true
  settled : port.budget.disposed = true ↔
    port.budget.disposeRequested = true ∧ port.budget.holds = 0

variable {resv : PacketReservation}

theorem Granted.onPeer (h : Granted budgets peer resv port)
    (hf : PortSound (budgets.rest peer) (budgets.elsewhere peer) (f port budgets.worker).1
      (f port budgets.worker).2) : (budgets.onPeer peer f).Sound := by
  unfold Budgets.onPeer
  rw [h.found]
  exact .ofPort h.others hf

theorem capped_charge {slot : PacketSlot} {bytes : Nat} (hcapped : port'.budget.Capped)
    (hadmits : port.budget.admits slot bytes = true) (hlower : port'.Lower port) :
    (port'.budget.charge slot bytes).Capped := by
  obtain ⟨side, lane⟩ := slot
  intro direction
  have hctl := hlower.retained (direction, .control)
  have hterm := hlower.retained (direction, .terminal)
  have hhistory := hlower.retained (direction, .history)
  obtain ⟨hcappedControl, hdirection⟩ := hcapped direction
  unfold controlBytes at hcappedControl
  unfold applicationBytes at hdirection
  simp only [admits, Bool.and_eq_true] at hadmits
  obtain ⟨⟨-, hlane⟩, -⟩ := hadmits
  unfold controlBytes applicationBytes at hlane
  simp only [controlBytes, applicationBytes, charge]
  by_cases hdir : direction = side
  · subst hdir
    cases lane <;> simp at hlane ⊢ <;> omega
  · simp only [Function.update_apply, Prod.mk.injEq, hdir, false_and, if_false]
    exact ⟨hcappedControl, hdirection⟩

theorem Sound.reserve (h : budgets.Sound) (peer : Nat) (slot : PacketSlot) (bytes : Nat)
    (stand : List Nat) : ((budgets.reserve peer slot bytes stand).1 = none →
        (budgets.reserve peer slot bytes stand).2.Sound) ∧
      ∀ resv, (budgets.reserve peer slot bytes stand).1 = some resv →
        resv.slot = slot ∧ ∀ port, budgets.peers.lookup peer = some port →
          ∃ port', Granted (budgets.reserve peer slot bytes stand).2 peer resv port' ∧
            (port.history.bytes = 0 → port'.history.bytes = 0) := by
  unfold Budgets.reserve
  cases hport : budgets.peers.lookup peer with
  | none => exact ⟨fun _ => h, nofun⟩
  | some port =>
    dsimp only
    by_cases hadmits : port.budget.admits slot bytes = true
    · rw [hadmits, Bool.not_true, if_neg Bool.false_ne_true]
      obtain ⟨href, htopped⟩ := h.reserveWorker slot bytes port.budget.pressureId stand
      cases hanswer : budgets.reserveWorker slot bytes port.budget.pressureId stand with
      | mk answer after =>
        rw [hanswer] at href htopped
        cases answer with
        | false => exact ⟨fun _ => href rfl, nofun⟩
        | true =>
          obtain ⟨relieved, _, hrel, hlower, hres, rfl⟩ := htopped rfl
          obtain ⟨_, hport', hbelow⟩ := hlower peer port hport
          have hsound := hrel.portSound hport'
          dsimp only
          rw [hport']
          dsimp only
          split
          · -- The peer closed meanwhile: the bytes go back, and its entry stays as it was.
            refine ⟨fun _ => ?_, nofun⟩
            have hback := hsound.kept.takeBack hres
            refine ⟨hrel.orderly, ?_, hback.workerCapped, hback.clean, ?_⟩
            · exact hback.charged.congr fun slot => rest_add hport' slot
            intro id
            have htrack := hback.tracked id
            rw [Nat.add_assoc] at htrack
            change _ + relieved.liveCount id = _
            rw [← elsewhere_add hport']
            exact htrack
          rename_i hopen
          simp only [Bool.or_eq_true, not_or, Bool.not_eq_true] at hopen
          refine ⟨nofun, ?_⟩
          intro resv hgranted
          cases hgranted
          refine ⟨rfl, fun port'' hsame => ?_⟩
          cases hsame
          refine ⟨_, ⟨AList.lookup_insert _, ?_, ?_, hsound.counted, hsound.backed, ?_⟩,
            hbelow.history⟩
          · intro other port'' hother hlook
            rw [lookup_insert, if_neg hother] at hlook
            exact hrel.orderly other port'' hlook
          · have hcapped := capped_charge hsound.kept.capped hadmits hbelow
            rw [rest_insert, elsewhere_insert]
            exact hsound.kept.grant hopen.2 hcapped hres
          · exact hsound.settled
    · rw [Bool.not_eq_true] at hadmits
      rw [hadmits, Bool.not_false, if_pos rfl]
      exact ⟨fun _ => h, nofun⟩

theorem exists_port_of_reserve {slot : PacketSlot} {bytes : Nat} {stand : List Nat}
    (h : (budgets.reserve peer slot bytes stand).1 = some resv) :
    ∃ port, budgets.peers.lookup peer = some port := by
  cases hport : budgets.peers.lookup peer with
  | some port => exact ⟨port, rfl⟩
  | none =>
    rw [Budgets.reserve, hport] at h
    cases h

theorem Sound.reserveHeld (h : budgets.Sound) (peer : Nat) (slot : PacketSlot) (bytes : Nat)
    (stand : List Nat) : (budgets.reserveHeld peer slot bytes stand).Sound := by
  obtain ⟨href, hgranted⟩ := h.reserve peer slot bytes stand
  unfold Budgets.reserveHeld
  cases hanswer : budgets.reserve peer slot bytes stand with
  | mk answer =>
    rw [hanswer] at href hgranted
    cases answer with
    | none => exact href rfl
    | some resv =>
      obtain ⟨port, hport⟩ := exists_port_of_reserve (congrArg Prod.fst hanswer)
      obtain ⟨-, hgrants⟩ := hgranted resv rfl
      obtain ⟨_, hgrant, -⟩ := hgrants port hport
      exact hgrant.onPeer ⟨hgrant.kept, hgrant.counted, hgrant.backed, hgrant.settled⟩

theorem Sound.reserveHistory (h : budgets.Sound) (peer bytes : Nat) :
    (budgets.reserveHistory peer bytes).Sound := by
  unfold Budgets.reserveHistory
  cases hport : budgets.peers.lookup peer with
  | none => exact h
  | some port =>
    dsimp only
    split
    · exact h
    rename_i hfree
    obtain ⟨href, hgranted⟩ := h.reserve peer (.outgoing, .history) bytes []
    cases hanswer : budgets.reserve peer (.outgoing, .history) bytes [] with
    | mk answer =>
      rw [hanswer] at href hgranted
      cases answer with
      | none => exact href rfl
      | some resv =>
        obtain ⟨hslot, hgrants⟩ := hgranted resv rfl
        obtain ⟨_, hgrant, hbytes⟩ := hgrants port hport
        exact hgrant.onPeer (PortSound.takeHistory hgrant.kept hgrant.counted hgrant.settled hslot
          (hbytes (not_not.mp hfree)))

theorem Sound.create (h : budgets.Sound) (habsent : budgets.peers.lookup peer = none) :
    Sound { budgets with peers := budgets.peers.insert peer {} } := by
  have hrest : ∀ slot, budgets.rest peer slot = budgets.retained slot := by
    intro slot
    have htotal : total (fun port : PeerPort => port.budget.retained slot)
        (budgets.peers.erase peer) +
        heldBy (fun port : PeerPort => port.budget.retained slot) budgets.peers peer = _ :=
      total_erase_add
    rw [heldBy_of_absent habsent] at htotal
    exact htotal
  have hels : ∀ id, budgets.elsewhere peer id = budgets.liveCount id := by
    intro id
    have htotal : total (fun port : PeerPort => port.liveCount id) (budgets.peers.erase peer) +
        heldBy (fun port : PeerPort => port.liveCount id) budgets.peers peer = _ :=
      total_erase_add
    rw [heldBy_of_absent habsent] at htotal
    exact htotal
  refine .ofPort (fun other port _ hother => h.orderly other port hother) ?_
  refine ⟨⟨fun _ _ => rfl, nofun, fun _ hmem => (nomatch hmem), ?_, ?_, h.capped, h.clean, ?_⟩, rfl,
    nofun, ⟨nofun, fun hboth => nomatch hboth.1⟩⟩
  · exact fun direction => ⟨Nat.zero_le _, Nat.zero_le _⟩
  · exact h.charged.congr fun slot => (hrest slot).symm
  · intro id
    rw [hels]
    exact h.tracked id

/-- Every operation keeps the worker's ledger. -/
theorem Sound.step (h : budgets.Sound) (op : BudgetOp) : (budgets.step op).Sound := by
  cases op with
  | create =>
    simp only [Budgets.step]
    split
    · exact h
    · next hfresh =>
      rw [not_or, Option.not_isSome_iff_eq_none] at hfresh
      exact h.create hfresh.2
  | openPort peer => exact h.onPeer peer fun hport => hport.openPort peer
  | reserve peer slot bytes stand => exact h.reserveHeld peer slot bytes stand
  | release peer =>
    simp only [Budgets.step]
    refine h.onPeer peer ?_
    intro rest elsewhere port worker hport
    split
    · exact hport
    · exact hport.release _
  | hold peer =>
    simp only [Budgets.step]
    exact h.onPeer peer fun hport => hport.hold
  | dropHold peer => exact h.onPeer peer fun hport => hport.dropHold
  | dispose peer => exact h.onPeer peer fun hport => hport.dispose
  | close peer => exact h.onPeer peer fun hport => hport.closeInTurn
  | reserveHistory peer bytes => exact h.reserveHistory peer bytes
  | transferHistory peer id =>
    simp only [Budgets.step]
    exact h.onPeer peer fun hport => hport.transferHistory id
  | releaseHistory peer id => exact h.onPeer peer fun hport => hport.releaseHistory id
  | cancelForPressure peer => exact h.onPeer peer fun hport => hport.cancelForPressure
  | reserveQueued peer bytes =>
    have hspent : (budgets.onPeer peer fun port worker => port.spendTransferred worker).Sound :=
      h.onPeer peer fun hport => hport.spendTransferred
    exact hspent.reserveHeld peer (.outgoing, .history) bytes []
  | disposeWorker => exact ⟨h.orderly, h.charged, h.capped, h.clean, h.tracked⟩

theorem Sound.empty : Sound {} where
  orderly := fun _ _ hport => nomatch hport
  charged := fun direction => ⟨rfl, rfl⟩
  capped := fun direction => ⟨Nat.zero_le _, Nat.zero_le _, Nat.zero_le _⟩
  clean := rfl
  tracked := fun id => by rw [if_neg (Nat.not_lt_zero id)]; rfl

/-! ## Conservation -/

/-- What the peers that are not disposed retain in a slot. -/
def undisposed (budgets : Budgets) (slot : PacketSlot) : Nat :=
  total (fun port => if port.budget.disposed then 0 else port.budget.retained slot)
    budgets.peers

structure Conserved (budgets : Budgets) : Prop where
  /-- The worker's total of each lane is the sum of what its undisposed peers retain there. -/
  totals : ∀ direction, (budgets.worker.directions direction).controlBytes =
        budgets.undisposed (direction, .control) ∧
      (budgets.worker.directions direction).applicationBytes =
        budgets.undisposed (direction, .terminal) + budgets.undisposed (direction, .history)
  workerCaps : budgets.worker.Capped
  peerCaps : ∀ peer port, budgets.peers.lookup peer = some port → port.budget.Capped
  /-- No release underflowed a counter. -/
  clean : budgets.worker.underflows = 0
  /-- Every reservation that was granted is out at one undisposed peer or was returned once. -/
  once : ∀ id, budgets.worker.returned.count id + budgets.liveCount id =
    if id < budgets.worker.granted then 1 else 0
  /-- Once every peer is disposed and every hold dropped nothing is left, and every reservation was
  returned once. -/
  drained : (∀ peer port, budgets.peers.lookup peer = some port →
      port.budget.disposeRequested = true ∧ port.holders = 0 ∧ port.history.hold = false) →
    (∀ direction, (budgets.worker.directions direction).controlBytes = 0 ∧
      (budgets.worker.directions direction).applicationBytes = 0) ∧
    ∀ id < budgets.worker.granted, budgets.worker.returned.count id = 1

theorem Sound.conserved (h : budgets.Sound) : budgets.Conserved := by
  have hundisp : ∀ slot, budgets.undisposed slot = budgets.retained slot := by
    intro slot
    refine total_congr fun peer port hport => ?_
    split
    · next hdisp => exact ((h.orderly peer port hport).emptied hdisp slot).symm
    · rfl
  refine ⟨?_, h.capped, fun peer port hport => (h.orderly peer port hport).capped, h.clean,
    h.tracked, ?_⟩
  · intro direction
    simp only [hundisp]
    exact h.charged direction
  intro hdone
  have hdisp : ∀ peer port, budgets.peers.lookup peer = some port →
      port.budget.disposed = true := by
    intro peer port hport
    obtain ⟨hreq, hholders, hhold⟩ := hdone peer port hport
    have hcount := (h.orderly peer port hport).counted
    rw [hholders, hhold] at hcount
    exact (h.orderly peer port hport).settled.mpr ⟨hreq, hcount⟩
  have hnothing : ∀ slot, budgets.retained slot = 0 := by
    intro slot
    have hzero : budgets.retained slot = total (fun _ => 0) budgets.peers :=
      total_congr fun peer port hport =>
        (h.orderly peer port hport).emptied (hdisp peer port hport) slot
    rw [hzero]
    simp [total]
  have hnone : ∀ id, budgets.liveCount id = 0 := by
    intro id
    have hzero : budgets.liveCount id = total (fun _ => 0) budgets.peers := by
      refine total_congr fun peer port hport => ?_
      rw [PeerPort.liveCount, live, if_pos (hdisp peer port hport)]
      rfl
    rw [hzero]
    simp [total]
  refine ⟨?_, ?_⟩
  · intro direction
    obtain ⟨hctl, happly⟩ := h.charged direction
    rw [hnothing] at hctl
    rw [hnothing, hnothing] at happly
    exact ⟨hctl, happly⟩
  · intro id hid
    have htrack := h.tracked id
    rw [hnone, if_pos hid] at htrack
    exact htrack

end Budgets

-- A reservation the worker cannot take retires the port whose read holds the bytes.
example : (budgetMachine.run {} [.create 1, .create 2, .create 3, .openPort 1, .openPort 2,
    .openPort 3, .reserveHistory 1 applicationQueueMaxBytes,
    .reserve 2 (.outgoing, .terminal) applicationQueueMaxBytes [],
    .reserve 3 (.outgoing, .terminal) 5 [1, 2, 3]]).worker.returned = [0] := by
  decide +kernel

end Roost.Worker
