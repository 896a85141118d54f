-- SUMMARY: The retention budget of a socket is exact over every run.
import Roost.Coord.Sync.Socket.LaneBooks

/-!
# Exact retention

Every operation of the socket keeps the books, and so does every run. Between two operations
nothing is in hand, so the counters are what the queues and the lanes hold, and letting
everything go brings them to zero.
-/

namespace Roost.Coord.Sync

open SyncDomain

variable {β : Type}

namespace SyncV2Session

variable {sess session' : SyncV2Session β} {hand : Multiset (RetainedFrame β)}

/-! ## The flush turn -/

theorem Books.selectCandidate (h : sess.Books hand) (nowMs ackSeq : Nat) :
    (sess.selectCandidate nowMs ackSeq).1.Books hand := by
  unfold SyncV2Session.selectCandidate
  extract_lets heads
  split
  · exact h
  split
  · exact h
  · split <;> exact h.moved rfl rfl rfl h.queues

theorem Books.foldl {α : Type} {f : SyncV2Session β → α → SyncV2Session β}
    (hkeep : ∀ s item, s.Books hand → (f s item).Books hand) (items : List α)
    (h : sess.Books hand) : (items.foldl f sess).Books hand := by
  induction items generalizing sess with
  | nil => exact h
  | cons item items ih => exact ih (hkeep _ item h)

section

variable (h : sess.Books hand)
include h

theorem Books.applyDeliveredLifecycle (delivered : RetainedFrame β)
    (deliverySeq : Nat) : (sess.applyDeliveredLifecycle delivered deliverySeq).Books hand := by
  unfold SyncV2Session.applyDeliveredLifecycle
  extract_lets announced closed
  have hann : announced.Books hand := by
    refine Books.foldl ?_ _ h
    intro s sid hs
    exact hs.moved rfl rfl rfl hs.queues
  have hclosed : closed.Books hand := by
    refine Books.foldl ?_ _ hann
    intro s sid hs
    have hforget : ({ s with
        announcedSessions := s.announcedSessions.erase sid
        pendingSessionAnnouncements := s.pendingSessionAnnouncements.erase sid } :
          SyncV2Session β).Books hand := hs.moved rfl rfl rfl hs.queues
    exact hforget.deleteTerminalSession
  split
  · exact hann
  · exact hclosed.removeQueuedCells _

theorem Books.snapshotFanoutStamp (frameMeta : SyncFrameMeta)
    (nowMs : Nat) : (sess.snapshotFanoutStamp frameMeta nowMs).1.Books hand := by
  unfold SyncV2Session.snapshotFanoutStamp
  split
  · split
    · exact h
    dsimp only
    split
    · exact h.modifyCursor_same fun _ => rfl
    · exact h
  · exact h

theorem Books.sendSelected (cand : Candidate) (encodedLen fanoutMs nowMs : Nat) :
    (sess.sendSelected cand encodedLen fanoutMs nowMs).1.Books hand := by
  unfold SyncV2Session.sendSelected
  split
  · exact h
  rename_i taken delivered htake
  have htaken := h.takeSelected htake
  have hseq : ({ taken with window := (taken.window.recordSent encodedLen nowMs).1 } :
      SyncV2Session β).Books hand := htaken.moved rfl rfl rfl htaken.queues
  exact (hseq.applyDeliveredLifecycle delivered _).onTerminalFrameDelivered _

theorem Books.trySend (sizes : FrameSizes β) (cand : Candidate)
    (nowMs : Nat) : (sess.trySend sizes cand nowMs).1.Books hand := by
  unfold SyncV2Session.trySend
  split
  · exact h
  rename_i item _
  have hstamp := h.snapshotFanoutStamp item.frameMeta nowMs
  extract_lets terminal
  split
  · exact h
  dsimp only
  split
  · exact hstamp
  · exact hstamp.sendSelected cand _ _ nowMs

theorem Books.trySend_pump (sizes : FrameSizes β) (cand : Candidate)
    (nowMs : Nat) (granted : Bool) : (match sess.trySend sizes cand nowMs with
      | (sess, .send sendable) =>
        (sess.pumpNextReadyLane sizes nowMs granted, FlushStep.send sendable)
      | (sess, .idle) => (sess, .idle)
      | (sess, .stalled) => (sess, .stalled)).1.Books hand := by
  have hsent := h.trySend sizes cand nowMs
  split
  · rename_i heq
    rw [heq] at hsent
    exact hsent.pumpNextReadyLane sizes nowMs granted
  · rename_i heq
    rwa [heq] at hsent
  · rename_i heq
    rwa [heq] at hsent

theorem Books.takeNextSendable (sizes : FrameSizes β) (nowMs : Nat)
    (grantedBefore grantedAfter : Bool) :
    (sess.takeNextSendable sizes nowMs grantedBefore grantedAfter).1.Books hand := by
  unfold SyncV2Session.takeNextSendable
  split
  · exact h
  extract_lets ackSeq
  have hfirst := h.selectCandidate nowMs ackSeq
  cases hselect : sess.selectCandidate nowMs ackSeq with
  | mk first selection =>
    rw [hselect] at hfirst
    cases selection with
    | some selection => exact hfirst.trySend_pump sizes selection.candidate nowMs grantedAfter
    | none =>
      have hsecond := (hfirst.pumpNextReadyLane sizes nowMs grantedBefore).selectCandidate
        nowMs ackSeq
      dsimp only
      cases hagain : (first.pumpNextReadyLane sizes nowMs grantedBefore).selectCandidate
        nowMs ackSeq with
      | mk second selection =>
        rw [hagain] at hsecond
        cases selection with
        | none => exact hsecond
        | some selection => exact hsecond.trySend_pump sizes selection.candidate nowMs grantedAfter

/-! ## Commands and teardown -/

theorem Books.onAck (ackSeq : Nat) : (sess.onAck ackSeq).Books hand := by
  unfold SyncV2Session.onAck
  split
  · split
    · rename_i hack
      unfold SyncV2Session.applyAck at hack
      split at hack
      · cases hack
      · cases hack
        exact h.moved rfl rfl rfl h.queues
    · exact h.moved rfl rfl rfl h.queues
  · exact h

theorem Books.handleDomainReady (domain : SyncDomain) (gen : Nat)
    (admitted : Option (Finset String)) :
    (sess.handleDomainReady domain gen admitted).Books hand := by
  unfold SyncV2Session.handleDomainReady
  extract_lets state
  split
  · exact h
  split
  · split
    · exact h.resetDomain .terminal "snapshot_token_invalid"
    rename_i admitted
    have hadmits : ({ sess with
        pendingSessionAnnouncements := ∅, announcedSessions := admitted } :
          SyncV2Session β).Books hand := h.moved rfl rfl rfl h.queues
    exact hadmits.modifyDomain_same rfl rfl rfl
  · exact h.modifyDomain_same rfl rfl rfl

theorem Books.setLazyDomainSubscription (domain : SyncDomain) (gen : Nat) (subscribe : Bool) :
    (sess.setLazyDomainSubscription domain gen subscribe).Books hand := by
  unfold SyncV2Session.setLazyDomainSubscription
  extract_lets state
  split
  · exact h
  split
  · split
    · exact h
    · exact h.modifyDomain_same rfl rfl rfl
  split
  · exact h
  have hclear := h.clearDomainQueue domain
  have hdrawn : ({ sess.clearDomainQueue domain with
      generations := (sess.clearDomainQueue domain).generations + 1 } :
        SyncV2Session β).Books hand := hclear.moved rfl rfl rfl hclear.queues
  exact hdrawn.modifyDomain_same rfl rfl rfl

theorem Books.releaseEverything : sess.releaseEverything.Books hand := by
  unfold SyncV2Session.releaseEverything
  extract_lets cleared closed
  have hclear : cleared.Books hand := by
    refine Books.foldl ?_ _ h
    intro s domain hs
    exact (hs.clearDomainQueue domain).modifyDomain_same rfl rfl rfl
  have hclosed : closed.Books hand := hclear.clearTerminalSessions
  clear_value closed
  exact hclosed.moved rfl rfl rfl hclosed.queues

end

/-! ## Nothing is left -/

theorem queue_clearDomainQueue (domain other : SyncDomain) :
    (((sess.clearDomainQueue domain).modifyDomain domain fun state =>
      { state with ready := false }).domains other).queue =
        if other = domain then [] else (sess.domains other).queue := by
  unfold SyncV2Session.clearDomainQueue
  rw [releaseCharges_eq]
  simp only [modifyDomain]
  by_cases hother : other = domain
  · subst hother
    simp
  · simp [hother]

theorem queue_foldl_clear (domains : List SyncDomain) (other : SyncDomain) :
    ((domains.foldl (fun sess domain =>
      (sess.clearDomainQueue domain).modifyDomain domain fun state =>
        { state with ready := false }) sess).domains other).queue =
      if other ∈ domains then [] else (sess.domains other).queue := by
  induction domains generalizing sess with
  | nil => simp
  | cons domain domains ih =>
    rw [List.foldl_cons, ih, queue_clearDomainQueue]
    by_cases hmem : other ∈ domains <;> simp [hmem]

theorem domains_foldl_releaseAll (lanes : List (TerminalLane β)) :
    (lanes.foldl (fun sess lane => (lane.releaseAll sess).2) sess).domains = sess.domains := by
  induction lanes generalizing sess with
  | nil => rfl
  | cons lane lanes ih => rw [List.foldl_cons, ih, TerminalLane.releaseAll_domains]

theorem terminalSessions_foldl_releaseAll (lanes : List (TerminalLane β)) :
    (lanes.foldl (fun sess lane => (lane.releaseAll sess).2) sess).terminalSessions =
      sess.terminalSessions := by
  induction lanes generalizing sess with
  | nil => rfl
  | cons lane lanes ih => rw [List.foldl_cons, ih, TerminalLane.releaseAll_terminalSessions]

theorem holdings_releaseEverything : sess.releaseEverything.holdings = 0 := by
  unfold SyncV2Session.releaseEverything
  extract_lets cleared closed
  have hqueues : ∀ domain, (closed.domains domain).queue = [] := by
    intro domain
    have hdom : closed.domains = cleared.domains := by
      simp only [closed, clearTerminalSessions, domains_foldl_releaseAll]
    have hclear : (cleared.domains domain).queue =
        if domain ∈ all then [] else (sess.domains domain).queue :=
      queue_foldl_clear all domain
    rw [if_pos (mem_all domain)] at hclear
    rw [hdom, hclear]
  have hlanes : closed.terminalSessions = ∅ := by
    simp only [closed, clearTerminalSessions, terminalSessions_foldl_releaseAll]
  clear_value closed
  simp only [holdings, hqueues, hlanes, Table.total_empty, add_zero, Multiset.coe_nil]
  rfl

/-! ## Every operation, every run -/

/-- A released session retains nothing. -/
theorem Books.retention_releaseEverything (h : sess.Books 0) :
    sess.releaseEverything.retention = .zero := by
  rw [h.releaseEverything.exact, holdings_releaseEverything]
  rfl

theorem Books.clear (h : sess.Books 0) : sess.clear.Books 0 := by
  have hrel := h.releaseEverything
  have hzero := h.retention_releaseEverything
  unfold SyncV2Session.clear
  generalize sess.releaseEverything = released at hrel hzero ⊢
  exact hrel.moved hzero.symm rfl rfl hrel.queues

theorem Books.offerRecovery (h : sess.Books hand) (sizes : FrameSizes β)
    (frame : FirehoseFrame β) (nowMs : Nat) : (sess.offerRecovery sizes frame nowMs).1.Books hand :=
  h.enqueueRecoveryFrame sizes _ _ nowMs

/-- A socket operation keeps charges and holdings equal. -/
theorem Books.next (h : session.Books 0) (sizes : FrameSizes β) (op : SocketOp β) :
    ((socketMachine sizes).next session op).Books 0 := by
  cases op with
  | feed frame nowMs => exact h.enqueueFrame sizes frame _ nowMs
  | seed frame domain sid nowMs =>
    exact h.enqueueFrame sizes frame (retainedMeta domain sid) nowMs
  | recovery frame nowMs => exact h.offerRecovery sizes frame nowMs
  | beginStream sid stream => exact h.beginTerminalStream sizes stream
  | replaceSnapshot sid stream source nowMs granted =>
    exact h.replaceTerminalSnapshot sizes stream source nowMs granted
  | delta sid stream frame nowMs granted =>
    exact h.enqueueTerminalDelta sizes stream frame nowMs granted
  | state sid frame nowMs granted => exact h.enqueueTerminalState sizes frame nowMs granted
  | dropSession => exact h.deleteTerminalSession
  | flush nowMs grantedBefore grantedAfter =>
    exact h.takeNextSendable sizes nowMs grantedBefore grantedAfter
  | ack ackSeq => exact h.onAck ackSeq
  | domainReady domain gen admitted => exact h.handleDomainReady domain gen admitted
  | subscription domain gen subscribe =>
    exact h.setLazyDomainSubscription domain gen subscribe
  | reset domain reason => exact h.resetDomain domain reason
  | drawn => exact h.moved rfl rfl rfl h.queues
  | retire =>
    have hclos : ({ session with pressureClosing := true } : SyncV2Session β).Books 0 :=
      h.moved rfl rfl rfl h.queues
    exact hclos.clear
  | clear => exact h.clear

theorem books_new (sock : String) (generations : Nat) (flowControl : Bool) :
    (SyncV2Session.new sock generations flowControl : SyncV2Session β).Books 0 where
  exact := rfl
  charged := by simp [holdings, new, all]
  once := by simp [holdings, new, all]
  capped := .zero
  queues _ := ⟨rfl, Nat.le_refl 0, Nat.zero_le _, Nat.zero_le _⟩

end SyncV2Session

open SyncV2Session in
/-- In every state a socket reaches, its counters are the charges of the frames its queues and
its lanes hold, each charge held once and within every limit; each queue's bytes are its
frames'. The half of the budget that is found by a subtraction is never below zero, where it is
tested: in the state itself, and once the buffered frames a seed covers are dropped. Letting
everything go brings every counter to zero. -/
theorem retention_exact (sizes : FrameSizes β) (socketId : String) (generations : Nat)
    (flowControl : Bool) (ops : List (SocketOp β)) :
    let session := (socketMachine sizes).run (.new socketId generations flowControl) ops
    session.Books 0 ∧ (session.retention.terminalRetainedFrames ≤ session.retention.queuedFrames ∧
        session.retention.terminalRetainedBytes ≤ session.retention.queuedBytes) ∧
      (∀ domain retained,
        let coalesced := session.coalesceBuffered domain retained
        coalesced.retention.terminalRetainedFrames ≤ coalesced.retention.queuedFrames ∧
          coalesced.retention.terminalRetainedBytes ≤ coalesced.retention.queuedBytes) ∧
      session.releaseEverything.retention = .zero := by
  have hbooks : ((socketMachine sizes).run
      (.new socketId generations flowControl : SyncV2Session β) ops).Books 0 :=
    Transducer.invariant (P := fun session : SyncV2Session β => session.Books 0)
      (books_new socketId generations flowControl) (fun _ op h => h.next sizes op) ops
  refine ⟨hbooks, hbooks.terminal_le, fun domain retained => ?_, hbooks.retention_releaseEverything⟩
  exact (hbooks.coalesceBuffered domain retained).terminal_le

end Roost.Coord.Sync
