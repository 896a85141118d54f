-- SUMMARY: What a socket's counters must add up to.
import Mathlib.Algebra.Order.BigOperators.Group.Multiset
import Roost.Base.Ledger
import Roost.Coord.Sync.Socket.Egress

/-!
# The books of a socket

Every charge that was taken and not given back is held by a queue, a lane, or the hand of the
operation that is moving it. The counters are the sum over all three; a rule for each
operation says what it moves between them.
-/

namespace Roost.Coord.Sync

open SyncDomain

variable {β : Type}

/-! ## Sums of charges -/

namespace Retention

/-- What some charges add up to. -/
def ofCharges (charges : Multiset AggregateCharge) : Retention where
  queuedFrames := charges.card
  queuedBytes := (charges.map AggregateCharge.estimatedBytes).sum
  terminalRetainedFrames := (charges.filter fun charge => charge.terminal = true).card
  terminalRetainedBytes :=
    ((charges.filter fun charge => charge.terminal = true).map AggregateCharge.estimatedBytes).sum
  terminalCellRetainedFrames := (charges.filter fun charge => charge.terminalCell = true).card
  terminalCellRetainedBytes :=
    ((charges.filter fun charge => charge.terminalCell = true).map
      AggregateCharge.estimatedBytes).sum

@[simp] theorem ofCharges_zero : ofCharges 0 = zero := rfl

theorem ofCharges_cons (charge : AggregateCharge) (charges : Multiset AggregateCharge) :
    ofCharges (charge ::ₘ charges) = (ofCharges charges).add charge := by
  obtain ⟨serial, bytes, terminal, terminalCell⟩ := charge
  cases terminal <;> cases terminalCell <;> simp [ofCharges, add, Nat.add_comm]

theorem add_sub (retention : Retention) (charge : AggregateCharge) :
    (retention.add charge).sub charge = retention := by
  simp [add, sub]

theorem terminal_le (charges : Multiset AggregateCharge) :
    (ofCharges charges).terminalRetainedFrames ≤ (ofCharges charges).queuedFrames ∧
      (ofCharges charges).terminalRetainedBytes ≤ (ofCharges charges).queuedBytes := by
  induction charges using Multiset.induction_on with
  | empty => simp [zero]
  | cons charge charges ih =>
    rw [ofCharges_cons]
    simp only [add]
    constructor
    · split <;> omega
    · split <;> omega

/-- No counter is above its limit. -/
structure Capped (retention : Retention) : Prop where
  queuedFrames : retention.queuedFrames ≤ aggregateMaxRetainedFrames
  queuedBytes : retention.queuedBytes ≤ aggregateMaxRetainedBytes
  terminalFrames : retention.terminalRetainedFrames ≤ terminalMaxRetainedFrames
  terminalBytes : retention.terminalRetainedBytes ≤ terminalMaxRetainedBytes
  otherFrames : retention.queuedFrames ≤
    retention.terminalRetainedFrames + nonterminalMaxRetainedFrames
  otherBytes : retention.queuedBytes ≤ retention.terminalRetainedBytes + nonterminalMaxRetainedBytes
  cellFrames : retention.terminalCellRetainedFrames ≤ terminalCellMaxRetainedFrames
  cellBytes : retention.terminalCellRetainedBytes ≤ terminalCellMaxRetainedBytes

theorem Capped.zero : Capped zero := by
  constructor <;> simp [Retention.zero]

variable {charge : AggregateCharge} {retention : Retention}

theorem Capped.of_add
    (h : (retention.add charge).Capped) : retention.Capped := by
  obtain ⟨hqf, hqb, htf, htb, hof, hob, hcf, hcb⟩ := h
  simp only [add] at hqf hqb htf htb hof hob hcf hcb
  refine ⟨?_, ?_, ?_, ?_, ?_, ?_, ?_, ?_⟩
  · omega
  · omega
  · omega
  · omega
  · split at hof <;> omega
  · split at hob <;> omega
  · omega
  · omega

theorem Capped.add (h : retention.Capped)
    (hterm : retention.terminalRetainedFrames ≤ retention.queuedFrames ∧
      retention.terminalRetainedBytes ≤ retention.queuedBytes)
    (hfits : ¬retention.refuses charge.terminal charge.terminalCell charge.estimatedBytes) :
    (retention.add charge).Capped := by
  obtain ⟨hqf, hqb, htf, htb, hof, hob, hcf, hcb⟩ := h
  obtain ⟨serial, bytes, terminal, terminalCell⟩ := charge
  obtain ⟨hhalf, hcells, hsock⟩ : _ ∧ _ ∧ _ := by simpa only [refuses, not_or] using hfits
  simp only [overHalf, overCells, overSocket] at hhalf hcells hsock
  cases terminal with
  | true =>
    rw [if_pos rfl] at hhalf
    constructor <;> simp only [Retention.add, if_true]
    case cellFrames => split <;> simp_all
    case cellBytes => split <;> simp_all
    all_goals omega
  | false =>
    rw [if_neg Bool.false_ne_true] at hhalf
    constructor <;> simp only [Retention.add, Bool.false_eq_true, if_false]
    case cellFrames => split <;> simp_all
    case cellBytes => split <;> simp_all
    all_goals omega

end Retention

/-! ## Who holds what -/

namespace RetainedFrame

def serial (retained : RetainedFrame β) : Option Nat := retained.charge.map AggregateCharge.serial

/-- A frame holds the charge that was taken for it, one of the first so many. -/
structure Charged (retained : RetainedFrame β) (charges : Nat) : Prop where
  held : ∃ charge, retained.charge = some charge ∧ charge.serial < charges ∧
    charge.estimatedBytes = retained.chargedBytes ∧
    charge.terminal = decide (retained.frame.domain = .terminal) ∧
    charge.terminalCell = (charge.terminal && retained.frame.isCellMaterial)

theorem Charged.mono {retained : RetainedFrame β} {charges charges' : Nat}
    (h : retained.Charged charges) (hle : charges ≤ charges') : retained.Charged charges' := by
  obtain ⟨charge, hcharge, hserial, hrest⟩ := h.held
  exact ⟨charge, hcharge, Nat.lt_of_lt_of_le hserial hle, hrest⟩

end RetainedFrame

def SnapshotCursor.holdings (cursor : SnapshotCursor β) : Multiset (RetainedFrame β) :=
  cursor.materialized.toList + cursor.deltaTail

def TerminalLane.holdings (lane : TerminalLane β) : Multiset (RetainedFrame β) :=
  lane.pendingStates + lane.cursor.elim 0 SnapshotCursor.holdings

/-- A queue's bytes are its frames', its cutover is inside it, and it is within its limits. -/
structure DomainState.Exact (state : DomainState β) : Prop where
  bytes : state.queuedBytes = (state.queue.map RetainedFrame.estimatedBytes).sum
  cutover : state.seedInsertIndex ≤ state.queue.length
  maxFrames : state.queue.length ≤ domainMaxQueuedFrames
  maxBytes : state.queuedBytes ≤ domainMaxQueuedBytes

theorem SyncDomain.nodup_all : all.Nodup := by decide

namespace SyncV2Session

/-- Every frame the socket retains: in a domain's queue, or in a lane. -/
def holdings (session : SyncV2Session β) : Multiset (RetainedFrame β) :=
  (all.map fun domain =>
      ((session.domains domain).queue : Multiset (RetainedFrame β))).sum +
    session.terminalSessions.total TerminalLane.holdings

/-- The counters are what is held, each charge once, and everything is within its limits.
`hand` is what an operation holds while it moves it. -/
structure Books (session : SyncV2Session β) (hand : Multiset (RetainedFrame β)) : Prop where
  exact : session.retention = .ofCharges ((session.holdings + hand).filterMap RetainedFrame.charge)
  charged : ∀ retained ∈ session.holdings + hand, retained.Charged session.charges
  once : ((session.holdings + hand).map RetainedFrame.serial).Nodup
  capped : session.retention.Capped
  queues : ∀ domain, (session.domains domain).Exact

variable {session session' : SyncV2Session β} {hand hand' : Multiset (RetainedFrame β)}

theorem Books.moved (h : session.Books hand) (hret : session'.retention = session.retention)
    (hcharge : session'.charges = session.charges)
    (hhold : session'.holdings + hand' = session.holdings + hand)
    (hqueues : ∀ domain, (session'.domains domain).Exact) : session'.Books hand' where
  exact := by rw [hret, hhold]; exact h.exact
  charged := by rw [hcharge, hhold]; exact h.charged
  once := by rw [hhold]; exact h.once
  capped := by rw [hret]; exact h.capped
  queues := hqueues

theorem Books.terminal_le (h : session.Books hand) :
    session.retention.terminalRetainedFrames ≤ session.retention.queuedFrames ∧
      session.retention.terminalRetainedBytes ≤ session.retention.queuedBytes := by
  rw [h.exact]
  exact Retention.terminal_le _

/-! ## Charging and releasing -/

variable {charge : AggregateCharge} {sizes : FrameSizes β} {frame : OwnedFrame β}

theorem tryCharge_cases
    (h : session.tryCharge sizes frame = some (session', charge)) : session' = { session with
        retention := session.retention.add charge, charges := session.charges + 1 } ∧
      charge.serial = session.charges ∧ charge.terminal = decide (frame.domain = .terminal) ∧
      charge.terminalCell = (charge.terminal && frame.isCellMaterial) ∧
      ¬session.retention.refuses charge.terminal charge.terminalCell charge.estimatedBytes := by
  unfold SyncV2Session.tryCharge at h
  dsimp only at h
  split at h
  · cases h
  · rename_i hfits
    cases h
    exact ⟨rfl, rfl, rfl, rfl, hfits⟩

theorem Books.tryCharge (h : session.Books hand)
    (hcharge : session.tryCharge sizes frame = some (session', charge))
    (frameMeta : SyncFrameMeta) (nowMs : Nat) :
    session'.Books (.new frame frameMeta nowMs charge ::ₘ hand) := by
  obtain ⟨rfl, hserial, hterm, hcell, hfits⟩ := tryCharge_cases hcharge
  let retained := RetainedFrame.new frame frameMeta nowMs charge
  have hsum : session.holdings + retained ::ₘ hand = retained ::ₘ (session.holdings + hand) :=
    Multiset.add_cons _ _ _
  refine ⟨?_, ?_, ?_, h.capped.add h.terminal_le hfits, h.queues⟩
  · change session.retention.add charge =
      .ofCharges ((session.holdings + retained ::ₘ hand).filterMap RetainedFrame.charge)
    rw [hsum, Multiset.filterMap_cons_some RetainedFrame.charge retained _ (b := charge) rfl,
      Retention.ofCharges_cons, h.exact]
  · intro other hmem
    change other ∈ session.holdings + retained ::ₘ hand at hmem
    rw [hsum, Multiset.mem_cons] at hmem
    rcases hmem with rfl | hold
    · exact ⟨charge, rfl, by rw [hserial]; exact Nat.lt_succ_self _, rfl, hterm, hcell⟩
    · exact (h.charged other hold).mono (Nat.le_succ _)
  change ((session.holdings + retained ::ₘ hand).map RetainedFrame.serial).Nodup
  rw [hsum, Multiset.map_cons, Multiset.nodup_cons]
  refine ⟨?_, h.once⟩
  -- All earlier charges have smaller numbers.
  intro hmem
  obtain ⟨other, hother, heq⟩ := Multiset.mem_map.mp hmem
  obtain ⟨earlier, hearlier, hlt, -⟩ := (h.charged other hother).held
  rw [RetainedFrame.serial, hearlier] at heq
  have hnumber : earlier.serial = charge.serial := Option.some.inj heq
  omega

theorem Books.releaseCharge {retained : RetainedFrame β} (h : session.Books (retained ::ₘ hand)) :
    (session.releaseCharge retained).Books hand := by
  have hsum : session.holdings + retained ::ₘ hand = retained ::ₘ (session.holdings + hand) :=
    Multiset.add_cons _ _ _
  obtain ⟨charge, hcharge, -⟩ := (h.charged retained (by simp)).held
  have hexact := h.exact
  rw [hsum, Multiset.filterMap_cons_some _ _ _ hcharge, Retention.ofCharges_cons] at hexact
  have hrel : session.releaseCharge retained =
      { session with retention := session.retention.sub charge } := by
    simp [SyncV2Session.releaseCharge, RetainedFrame.takeCharge, hcharge]
  rw [hrel]
  have hback : session.retention.sub charge =
      .ofCharges ((session.holdings + hand).filterMap RetainedFrame.charge) := by
    rw [hexact, Retention.add_sub]
  refine ⟨hback, ?_, ?_, ?_, h.queues⟩
  · intro other hmem
    refine h.charged other ?_
    rw [hsum]
    exact Multiset.mem_cons_of_mem hmem
  · have honce := h.once
    rw [hsum, Multiset.map_cons, Multiset.nodup_cons] at honce
    exact honce.2
  have hcapped := h.capped
  rw [hexact] at hcapped
  rw [hback]
  exact hcapped.of_add

theorem Books.releaseCharges {frames : List (RetainedFrame β)} (h : session.Books (frames + hand)) :
    (session.releaseCharges frames).Books hand := by
  unfold SyncV2Session.releaseCharges
  induction frames generalizing session with
  | nil => simpa using h
  | cons retained frames ih =>
    rw [List.foldl_cons]
    refine ih (Books.releaseCharge ?_)
    rwa [← Multiset.cons_coe, Multiset.cons_add] at h

/-! ## Moving frames through a queue -/

theorem holdings_modifyDomain (domain : SyncDomain) (f : DomainState β → DomainState β) :
    (session.modifyDomain domain f).holdings + ((session.domains domain).queue : Multiset _) =
      session.holdings + ((f (session.domains domain)).queue : Multiset _) := by
  have hqueues := sum_map_update
    (fun state : DomainState β => (state.queue : Multiset (RetainedFrame β)))
    nodup_all session.domains (mem_all domain) (f (session.domains domain))
  unfold holdings modifyDomain
  rw [add_right_comm, hqueues, add_right_comm]

variable {f : DomainState β → DomainState β}

theorem Books.modifyDomain (h : session.Books hand) {domain : SyncDomain}
    (hmoved : ((f (session.domains domain)).queue : Multiset _) + hand' =
      ((session.domains domain).queue : Multiset _) + hand)
    (hexact : (f (session.domains domain)).Exact) :
    (session.modifyDomain domain f).Books hand' := by
  refine h.moved rfl rfl ?_ ?_
  · have hheld : (session.modifyDomain domain f).holdings + (session.domains domain).queue =
        session.holdings + (f (session.domains domain)).queue := holdings_modifyDomain domain f
    refine add_right_cancel (b := ((session.domains domain).queue : Multiset _)) ?_
    calc (session.modifyDomain domain f).holdings + hand' + (session.domains domain).queue
        = (session.modifyDomain domain f).holdings + (session.domains domain).queue + hand' :=
          add_right_comm _ _ _
      _ = session.holdings + (f (session.domains domain)).queue + hand' := by rw [hheld]
      _ = session.holdings + hand + (session.domains domain).queue := by
          rw [add_assoc, hmoved, add_assoc, add_comm hand]
  · intro other
    change (Function.update session.domains domain (f (session.domains domain)) other).Exact
    by_cases hother : other = domain
    · subst hother
      rwa [Function.update_self]
    · rw [Function.update_of_ne hother]
      exact h.queues other

theorem Books.modifyDomain_same (h : session.Books hand) {domain : SyncDomain}
    (hqueue : (f (session.domains domain)).queue = (session.domains domain).queue)
    (hbytes : (f (session.domains domain)).queuedBytes = (session.domains domain).queuedBytes)
    (hseed : (f (session.domains domain)).seedInsertIndex =
      (session.domains domain).seedInsertIndex) : (session.modifyDomain domain f).Books hand := by
  refine h.modifyDomain (by rw [hqueue]) ?_
  obtain ⟨_, _⟩ := h.queues domain
  exact ⟨by rwa [hbytes, hqueue], by rwa [hseed, hqueue], by rwa [hqueue], by rwa [hbytes]⟩

/-! ## Moving frames through a lane -/

variable {sid : String} {lane : TerminalLane β}

theorem holdings_erase_lane (hlane : session.terminalSessions.lookup sid = some lane) :
    ({ session with terminalSessions := session.terminalSessions.erase sid } :
      SyncV2Session β).holdings + lane.holdings = session.holdings := by
  have htotal : Table.total TerminalLane.holdings (session.terminalSessions.erase sid) +
      Table.heldBy TerminalLane.holdings session.terminalSessions sid =
        Table.total TerminalLane.holdings session.terminalSessions := Table.total_erase_add
  rw [Table.heldBy_of_lookup hlane] at htotal
  unfold holdings
  rw [add_assoc, htotal]

theorem holdings_insert_lane (habsent : session.terminalSessions.lookup sid = none) :
    ({ session with terminalSessions := session.terminalSessions.insert sid lane } :
      SyncV2Session β).holdings = session.holdings + lane.holdings := by
  have htotal : Table.total TerminalLane.holdings (session.terminalSessions.insert sid lane) +
      Table.heldBy TerminalLane.holdings session.terminalSessions sid =
        Table.total TerminalLane.holdings session.terminalSessions + lane.holdings :=
    Table.total_insert_add
  rw [Table.heldBy_of_absent habsent, add_zero] at htotal
  unfold holdings
  rw [add_assoc, ← htotal]

theorem Books.takeLane (h : session.Books hand)
    (hlane : session.terminalSessions.lookup sid = some lane) :
    ({ session with terminalSessions := session.terminalSessions.erase sid } :
      SyncV2Session β).Books (lane.holdings + hand) := by
  refine h.moved rfl rfl ?_ h.queues
  rw [← add_assoc, holdings_erase_lane hlane]

theorem Books.putLane (h : session.Books (lane.holdings + hand))
    (habsent : session.terminalSessions.lookup sid = none) :
    ({ session with terminalSessions := session.terminalSessions.insert sid lane } :
      SyncV2Session β).Books hand := by
  refine h.moved rfl rfl ?_ h.queues
  rw [holdings_insert_lane habsent, add_assoc]

variable {f : TerminalLane β → TerminalLane β}

theorem Books.modifyLane (h : session.Books hand)
    (hlane : session.terminalLane sid = some lane)
    (hmoved : (f lane).holdings + hand' = lane.holdings + hand) :
    (session.modifyLane sid f).Books hand' := by
  have hmodify : session.modifyLane sid f =
      { session with terminalSessions := session.terminalSessions.insert sid (f lane) } := by
    unfold SyncV2Session.modifyLane Table.modify
    rw [show session.terminalSessions.lookup sid = some lane from hlane]
  have htotal : Table.total TerminalLane.holdings (session.terminalSessions.insert sid (f lane)) +
      Table.heldBy TerminalLane.holdings session.terminalSessions sid =
        Table.total TerminalLane.holdings session.terminalSessions + (f lane).holdings :=
    Table.total_insert_add
  rw [Table.heldBy_of_lookup hlane] at htotal
  rw [hmodify]
  refine h.moved rfl rfl ?_ h.queues
  refine add_right_cancel (b := lane.holdings) ?_
  unfold holdings
  calc _ + Table.total TerminalLane.holdings
          (session.terminalSessions.insert sid (f lane)) + hand' + lane.holdings
      = _ + (Table.total TerminalLane.holdings
          (session.terminalSessions.insert sid (f lane)) + lane.holdings) + hand' := by
        rw [← add_assoc, add_right_comm]
    _ = _ := by
        rw [htotal, ← add_assoc, add_assoc _ _ hand', hmoved, add_comm lane.holdings, ← add_assoc]

theorem Books.modifyLane_same (h : session.Books hand)
    (hsame : ∀ lane, (f lane).holdings = lane.holdings) :
    (session.modifyLane sid f).Books hand := by
  cases hlane : session.terminalLane sid with
  | none =>
    have hmodify : session.modifyLane sid f = session := by
      unfold SyncV2Session.modifyLane Table.modify
      rw [show session.terminalSessions.lookup sid = none from hlane]
    rwa [hmodify]
  | some => exact h.modifyLane hlane (by rw [hsame])

end SyncV2Session

end Roost.Coord.Sync
