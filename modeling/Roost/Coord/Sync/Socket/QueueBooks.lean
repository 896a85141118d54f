-- SUMMARY: The operations on a socket's queues keep its books.
import Roost.Coord.Sync.Socket.Books

/-!
# The books of the queues

An edit of one queue keeps its bytes exact and its cutover inside it; an operation that drops
frames gives their charges back, and one that inserts a frame takes it from the hand.
-/

namespace Roost.Coord.Sync

open Multiset (add_cons coe_add coe_eq_coe coe_nil cons_add cons_coe)

open DomainState RetainedFrame SyncV2Session.Books

variable {β : Type}

/-! ## Edits of one queue -/

namespace DomainState

variable (queue : List (RetainedFrame β))

def bytesOf : Nat := (queue.map estimatedBytes).sum

theorem bytesOf_perm {queue queue' : List (RetainedFrame β)} (h : queue.Perm queue') :
    bytesOf queue = bytesOf queue' :=
  (h.map _).sum_eq

theorem bytesOf_filter (p : RetainedFrame β → Bool) :
    bytesOf (queue.filter p) + bytesOf (queue.filter fun item => !p item) = bytesOf queue := by
  rw [← bytesOf_perm (List.filter_append_perm p queue), bytesOf, bytesOf, bytesOf, List.map_append,
    List.sum_append]

theorem coe_filter_add (p : RetainedFrame β → Bool) (hand : Multiset (RetainedFrame β)) :
    (↑(queue.filter fun item => !p item) : Multiset (RetainedFrame β)) +
      (↑(queue.filter p) + hand) = ↑queue + hand := by
  rw [← add_assoc, coe_add,
    coe_eq_coe.mpr (List.perm_append_comm.trans (List.filter_append_perm p queue))]

variable {state : DomainState β}

theorem Exact.insert (h : state.Exact) {item : RetainedFrame β} {index seedInsertIndex : Nat}
    (hfits : ¬state.exceeds item.estimatedBytes) (hindex : index ≤ state.queue.length)
    (hseed : seedInsertIndex ≤ state.queue.length + 1) : ({ state with
      queue := state.queue.insertIdx index item, seedInsertIndex
      queuedBytes := state.queuedBytes + item.estimatedBytes } : DomainState β).Exact := by
  obtain ⟨hbytes, hcut, hframes, hmax⟩ := h
  obtain ⟨hroomFr, hroomByt⟩ : _ ∧ _ := by simpa only [exceeds, not_or] using hfits
  have hlen : (state.queue.insertIdx index item).length = state.queue.length + 1 :=
    List.length_insertIdx_of_le_length hindex item
  have hsum : bytesOf (state.queue.insertIdx index item) =
      item.estimatedBytes + bytesOf state.queue := by
    rw [bytesOf_perm (List.perm_insertIdx item _ hindex), bytesOf, List.map_cons, List.sum_cons,
      bytesOf]
  refine ⟨?_, ?_, ?_, ?_⟩
  · change _ = bytesOf _
    rw [hsum, Nat.add_comm, hbytes, bytesOf]
  · dsimp only
    rw [hlen]
    exact hseed
  · dsimp only
    rw [hlen]
    omega
  · dsimp only
    omega

theorem Exact.drop (h : state.Exact) {queue : List (RetainedFrame β)} {seedInsertIndex dropped : Nat}
    (hbytes : bytesOf queue + dropped = bytesOf state.queue)
    (hlen : queue.length ≤ state.queue.length) (hseed : seedInsertIndex ≤ queue.length) :
    ({ state with queue, seedInsertIndex, queuedBytes := state.queuedBytes - dropped } :
      DomainState β).Exact := by
  obtain ⟨hsum, hcut, hframes, hmax⟩ := h
  have hqueue : state.queuedBytes = bytesOf queue + dropped := by rw [hsum, hbytes, bytesOf]
  refine ⟨?_, hseed, ?_, ?_⟩
  · change state.queuedBytes - dropped = bytesOf queue
    omega
  · dsimp only
    omega
  · dsimp only
    omega

theorem exact_empty (state : DomainState β) :
    ({ state with queue := [], queuedBytes := 0, seedInsertIndex := 0 } : DomainState β).Exact :=
  ⟨rfl, Nat.le_refl 0, Nat.zero_le _, Nat.zero_le _⟩

end DomainState

/-! ## Releases -/

theorem SyncV2Session.releaseCharges_eq (sess : SyncV2Session β) (frames : List (RetainedFrame β)) :
    sess.releaseCharges frames =
      { sess with retention := (sess.releaseCharges frames).retention } := by
  unfold SyncV2Session.releaseCharges
  induction frames generalizing sess with
  | nil => rfl
  | cons kept frames ih =>
    rw [List.foldl_cons, ih]
    cases hcharge : kept.charge with
    | none | some => simp [SyncV2Session.releaseCharge, takeCharge, hcharge]

theorem SyncV2Session.releaseCharges_domains (sess : SyncV2Session β)
    (frames : List (RetainedFrame β)) : (sess.releaseCharges frames).domains = sess.domains := by
  rw [releaseCharges_eq]

@[simp] theorem SyncV2Session.releaseCharges_terminalSessions (sess : SyncV2Session β)
    (frames : List (RetainedFrame β)) :
    (sess.releaseCharges frames).terminalSessions = sess.terminalSessions := by
  rw [releaseCharges_eq]

namespace TerminalLane

variable {lane : TerminalLane β} {session : SyncV2Session β} {hand : Multiset (RetainedFrame β)}

theorem releaseCursor_terminalSessions :
    (lane.releaseCursor session).2.terminalSessions = session.terminalSessions := by
  unfold releaseCursor
  cases lane.cursor with
  | none => rfl
  | some => simp [SnapshotCursor.releaseDeltaTail]

theorem releaseDeltaTail_terminalSessions :
    (lane.releaseDeltaTail session).2.terminalSessions = session.terminalSessions := by
  unfold releaseDeltaTail
  cases lane.cursor with
  | none => rfl
  | some => simp [SnapshotCursor.releaseDeltaTail]

theorem releaseAll_domains : (lane.releaseAll session).2.domains = session.domains := by
  unfold releaseAll releaseCursor
  cases lane.cursor with
  | none => exact SyncV2Session.releaseCharges_domains _ _
  | some => simp only [SnapshotCursor.releaseDeltaTail, SyncV2Session.releaseCharges_domains]

theorem releaseAll_terminalSessions :
    (lane.releaseAll session).2.terminalSessions = session.terminalSessions := by
  unfold releaseAll
  rw [releaseCursor_terminalSessions, SyncV2Session.releaseCharges_terminalSessions]

theorem releaseCursor_fst : (lane.releaseCursor session).1 = { lane with cursor := none } := by
  obtain ⟨stream, cursor, rest⟩ := lane
  cases cursor <;> rfl

section

variable (h : session.Books (lane.holdings + hand))
include h

theorem books_releaseCursor :
    (lane.releaseCursor session).2.Books ((lane.releaseCursor session).1.holdings + hand) := by
  unfold releaseCursor
  cases hcursor : lane.cursor with
  | none => exact h
  | some cursor =>
    refine releaseCharges (releaseCharges ?_)
    have hholds : lane.holdings =
        lane.pendingStates + (cursor.materialized.toList + cursor.deltaTail) := by
      rw [holdings, hcursor]
      rfl
    rw [hholds] at h
    refine cast (congrArg session.Books ?_) h
    simp only [holdings, Option.elim_none, add_zero]
    ac_rfl

theorem books_releaseDeltaTail :
    (lane.releaseDeltaTail session).2.Books ((lane.releaseDeltaTail session).1.holdings + hand) := by
  unfold releaseDeltaTail
  cases hcursor : lane.cursor with
  | none => exact h
  | some cursor =>
    refine releaseCharges ?_
    have hholds : lane.holdings =
        lane.pendingStates + (cursor.materialized.toList + cursor.deltaTail) := by
      rw [holdings, hcursor]
      rfl
    rw [hholds] at h
    refine cast (congrArg session.Books ?_) h
    simp only [holdings, SnapshotCursor.holdings, Option.elim_some]
    ac_rfl

theorem books_releaseAll : (lane.releaseAll session).2.Books hand := by
  unfold releaseAll
  have hfirst : (session.releaseCharges lane.pendingStates).Books (({ lane with
        pendingStates := [], stateQueued := false, ready := false, rebaselinePending := false } :
          TerminalLane β).holdings + hand) := by
    refine releaseCharges ?_
    refine cast (congrArg session.Books ?_) h
    simp only [holdings, coe_nil, zero_add]
    ac_rfl
  have hrest := books_releaseCursor hfirst
  rw [releaseCursor_fst] at hrest
  simpa [holdings] using hrest

end

end TerminalLane

namespace SyncV2Session

variable {session session' : SyncV2Session β} {hand : Multiset (RetainedFrame β)}
  {sid : String}

theorem Books.withLane (h : session.Books hand)
    {f : TerminalLane β → SyncV2Session β → TerminalLane β × SyncV2Session β}
    (hkeep : ∀ lane s, s.Books (lane.holdings + hand) → (f lane s).2.Books ((f lane s).1.holdings + hand))
    (htable : ∀ lane s, (f lane s).2.terminalSessions = s.terminalSessions) :
    (session.withLane sid f).Books hand := by
  unfold SyncV2Session.withLane
  cases hlane : session.terminalSessions.lookup sid with
  | none => exact h
  | some lane =>
    refine (hkeep lane _ (h.takeLane hlane)).putLane ?_
    rw [htable]
    exact AList.lookup_erase sid session.terminalSessions

theorem Books.clearDomainQueue (h : session.Books hand) (domain : SyncDomain) :
    (session.clearDomainQueue domain).Books hand := by
  refine Books.releaseCharges (h.modifyDomain ?_ (exact_empty _))
  simp

theorem Books.releaseLanes {lanes : List (TerminalLane β)}
    (h : session.Books ((lanes.map TerminalLane.holdings).sum + hand)) :
    (lanes.foldl (fun session lane => (lane.releaseAll session).2) session).Books hand := by
  induction lanes generalizing session with
  | nil => simpa using h
  | cons lane lanes ih =>
    rw [List.map_cons, List.sum_cons, add_assoc] at h
    exact ih (TerminalLane.books_releaseAll h)

section

variable (h : session.Books hand)
include h

theorem Books.clearTerminalSessions : session.clearTerminalSessions.Books hand := by
  have hlet : ({ session with terminalSessions := ∅ } : SyncV2Session β).Books
      (((session.terminalSessions.entries.map fun entry => entry.2).map
        TerminalLane.holdings).sum + hand) := by
    refine h.moved rfl rfl ?_ h.queues
    unfold holdings
    rw [Table.total_empty, add_zero, ← add_assoc, List.map_map]
    rfl
  have hrel := hlet.releaseLanes
  exact hrel.moved rfl rfl rfl hrel.queues

/-! ## Queues -/

theorem Books.takeSelected {cand : Candidate} {item : RetainedFrame β}
    (htake : session.takeSelected cand = some (session', item)) : session'.Books hand := by
  unfold SyncV2Session.takeSelected at htake
  cases hitem : (session.domains cand.slot).queue[cand.index]? with
  | none =>
    rw [hitem] at htake
    cases htake
  | some found =>
    rw [hitem] at htake
    cases htake
    obtain ⟨hindex, hget⟩ := List.getElem?_eq_some_iff.mp hitem
    have hperm := List.getElem_cons_eraseIdx_perm hindex
    rw [hget] at hperm
    have hlen := List.length_eraseIdx_of_lt hindex
    have hcut := (h.queues cand.slot).cutover
    refine Books.releaseCharge (h.modifyDomain ?_ ?_)
    · change (((session.domains cand.slot).queue.eraseIdx cand.index :
        List (RetainedFrame β)) : Multiset _) + found ::ₘ hand = _
      rw [add_cons, ← cons_add, cons_coe, coe_eq_coe.mpr hperm]
    refine (h.queues cand.slot).drop ?_ ?_ ?_
    · rw [← bytesOf_perm hperm]
      simp [bytesOf, Nat.add_comm]
    · rw [hlen]
      exact Nat.sub_le _ _
    · rw [hlen]
      split <;> omega

theorem Books.drainTerminalQueue (shouldDrop : RetainedFrame β → Bool) :
    (session.drainTerminalQueue shouldDrop).Books hand := by
  have hperm := List.filter_append_perm shouldDrop (session.domains .terminal).queue
  have hlengths := hperm.length_eq
  rw [List.length_append] at hlengths
  have hcut := (h.queues .terminal).cutover
  refine Books.releaseCharges (h.modifyDomain ?_ ?_)
  · exact coe_filter_add _ shouldDrop hand
  refine (h.queues .terminal).drop ?_ ?_ ?_
  · exact (Nat.add_comm _ _).trans (bytesOf_filter _ shouldDrop)
  · omega
  · omega

theorem Books.removeQueuedCells (sessionIds : List String) :
    (session.removeQueuedCells sessionIds).Books hand := by
  unfold SyncV2Session.removeQueuedCells
  split
  · exact h
  · exact h.drainTerminalQueue _

theorem Books.removeTerminalQueued (includeSemantic : Bool) :
    (session.removeTerminalQueued sid includeSemantic).Books hand :=
  h.drainTerminalQueue _

theorem Books.dropFromReadyRing : (session.dropFromReadyRing sid).Books hand :=
  h.moved rfl rfl rfl h.queues

theorem Books.deleteTerminalSession : (session.deleteTerminalSession sid).Books hand := by
  unfold SyncV2Session.deleteTerminalSession
  split
  · exact h
  have hqueue : (session.removeTerminalQueued sid true).Books hand :=
    h.removeTerminalQueued true
  refine Books.dropFromReadyRing ?_
  split
  · exact hqueue
  · rename_i hlane
    exact TerminalLane.books_releaseAll (hqueue.takeLane hlane)

end

variable {frameMeta : SyncFrameMeta}

theorem Books.insertQueued {item : RetainedFrame β}
    {domain : SyncDomain} (h : session.Books (item ::ₘ hand)) (hdomain : frameMeta.domain = some domain)
    (hfits : ¬(session.domains domain).exceeds item.estimatedBytes) :
    (session.insertQueued item frameMeta item.estimatedBytes).Books hand := by
  unfold SyncV2Session.insertQueued
  rw [hdomain]
  have hexact := h.queues domain
  have hcut := hexact.cutover
  have hmoved : ∀ index, index ≤ (session.domains domain).queue.length →
      (((session.domains domain).queue.insertIdx index item : List (RetainedFrame β)) :
          Multiset _) + hand =
        ((session.domains domain).queue : Multiset _) + item ::ₘ hand := by
    intro index hindex
    rw [coe_eq_coe.mpr (List.perm_insertIdx item _ hindex), ← cons_coe, cons_add, add_cons]
  by_cases hseed : frameMeta.beforeBuffered = true
  · simp only [hseed, if_true]
    exact h.modifyDomain (hmoved _ hcut) (hexact.insert hfits hcut (by omega))
  by_cases hprior : (frameMeta.attachSnapshot || frameMeta.terminalState) = true
  · simp only [hseed, hprior, if_true]
    have hindex : terminalPriorityInsertIndex (session.domains domain).queue
        frameMeta.sessionId ≤ (session.domains domain).queue.length := Nat.sub_le _ _
    refine h.modifyDomain (hmoved _ hindex) (hexact.insert hfits hindex ?_)
    split <;> omega
  simp only [hseed, hprior, Bool.false_eq_true, if_false]
  have happend : (session.domains domain).queue.insertIdx (session.domains domain).queue.length
      item = (session.domains domain).queue ++ [item] := by
    simp
  have hlast := hmoved _ (Nat.le_refl _)
  have hins := hexact.insert hfits (Nat.le_refl _) (Nat.le_succ_of_le hcut)
  rw [happend] at hlast hins
  exact h.modifyDomain hlast hins

theorem queueRefusal_none {frame : OwnedFrame β} {estimatedBytes : Nat} {checkBudget : Bool}
    (h : session.queueRefusal frame frameMeta estimatedBytes checkBudget = none) :
    ∃ domain, frameMeta.domain = some domain ∧
      ¬(session.domains domain).exceeds estimatedBytes := by
  unfold SyncV2Session.queueRefusal at h
  split at h
  · cases h
  cases hdomain : frameMeta.domain with
  | none =>
    rw [hdomain] at h
    cases h
  | some domain =>
    refine ⟨domain, rfl, ?_⟩
    simp only [hdomain] at h
    intro hexc
    split at h
    · cases h
    · split at h
      · cases h
      · split at h <;> cases h

section

variable (h : session.Books hand)
include h

theorem Books.admitFrame {sizes : FrameSizes β} {frame : OwnedFrame β} {nowMs : Nat}
    (hroom : session.queueRefusal frame frameMeta (frame.conservativeBytes sizes) true = none) :
    (session.admitFrame sizes frame frameMeta (frame.conservativeBytes sizes) nowMs).1.Books
      hand := by
  unfold SyncV2Session.admitFrame
  cases hcharge : session.tryCharge sizes frame with
  | none => exact h
  | some charged =>
    obtain ⟨charged, charge⟩ := charged
    obtain ⟨domain, hdomain, hfits⟩ := queueRefusal_none hroom
    have hbytes : charge.estimatedBytes = frame.conservativeBytes sizes := by
      unfold SyncV2Session.tryCharge at hcharge
      dsimp only at hcharge
      split at hcharge <;> cases hcharge
      rfl
    have hdom : charged.domains = session.domains := by
      obtain ⟨rfl, -⟩ := tryCharge_cases hcharge
      rfl
    have hins := (h.tryCharge hcharge frameMeta nowMs).insertQueued hdomain
    rw [hdom] at hins
    rw [← hbytes]
    rw [← hbytes] at hfits
    exact hins hfits

theorem Books.coalesceBuffered (domain : SyncDomain)
    (kept : OwnedFrame β) : (session.coalesceBuffered domain kept).Books hand := by
  let queue := (session.domains domain).queue
  let seed := (session.domains domain).seedInsertIndex
  let covers : RetainedFrame β → Bool := fun item => retainedSupersedesBuffered kept item.frame
  have hperm := List.filter_append_perm covers (queue.drop seed)
  have hcut : seed ≤ queue.length := (h.queues domain).cutover
  have hlengths := hperm.length_eq
  rw [List.length_append, List.length_drop] at hlengths
  have htake : (queue.take seed).length = seed := List.length_take_of_le hcut
  have hqueue : (queue.take seed ++ queue.drop seed) = queue := List.take_append_drop seed queue
  refine Books.releaseCharges (h.modifyDomain ?_ ?_)
  · change (↑(queue.take seed ++ (queue.drop seed).filter fun item => !covers item) :
        Multiset (RetainedFrame β)) + (↑((queue.drop seed).filter covers) + hand) = ↑queue + hand
    rw [← coe_add, add_assoc, coe_filter_add, ← add_assoc, coe_add, hqueue]
  refine (h.queues domain).drop ?_ ?_ ?_
  · change bytesOf (queue.take seed ++ _) + bytesOf _ = bytesOf queue
    have hdrop := bytesOf_filter (queue.drop seed) covers
    have hwhole : bytesOf queue = bytesOf (queue.take seed) + bytesOf (queue.drop seed) := by
      rw [bytesOf, bytesOf, bytesOf, ← List.sum_append, ← List.map_append, hqueue]
    have hkept : bytesOf (queue.take seed ++ (queue.drop seed).filter fun item => !covers item) =
          bytesOf (queue.take seed) +
            bytesOf ((queue.drop seed).filter fun item => !covers item) := by
      rw [bytesOf, List.map_append, List.sum_append, bytesOf, bytesOf]
    change bytesOf (queue.take seed ++ (queue.drop seed).filter fun item => !covers item) +
        bytesOf ((queue.drop seed).filter covers) = _
    rw [hkept, hwhole, ← hdrop]
    omega
  · change (queue.take seed ++ _ : List _).length ≤ queue.length
    rw [List.length_append, htake]
    change seed + ((queue.drop seed).filter fun item => !covers item).length ≤ queue.length
    omega
  · change seed ≤ (queue.take seed ++ _ : List _).length
    rw [List.length_append, htake]
    exact Nat.le_add_right _ _

theorem Books.resetDomain (domain : SyncDomain) (reason : String) :
    (session.resetDomain domain reason).1.Books hand := by
  unfold SyncV2Session.resetDomain
  dsimp only
  have hclear := h.clearDomainQueue domain
  refine Books.modifyDomain_same ?_ rfl rfl rfl
  split
  · have hann : ({ session.clearDomainQueue domain with
        announcedSessions := ∅, pendingSessionAnnouncements := ∅ } : SyncV2Session β).Books hand :=
      hclear.moved rfl rfl rfl hclear.queues
    have hlanes := hann.clearTerminalSessions
    exact hlanes.moved rfl rfl rfl hlanes.queues
  · exact hclear.moved rfl rfl rfl hclear.queues

theorem Books.actOnRefusal (refusal : QueueRefusal) (frameMeta : SyncFrameMeta) (nowMs : Nat) :
    (session.actOnRefusal refusal frameMeta nowMs).1.Books hand := by
  unfold SyncV2Session.actOnRefusal
  cases refusal with
  | closing | notSubscribed | staleGeneration => exact h
  | overflow rebaseline =>
    cases rebaseline with
    | true => exact h
    | false =>
      cases frameMeta.domain with
      | none => exact h
      | some domain => exact h.resetDomain domain "queue_overflow"
  | terminalSemanticOverflow => exact h.moved rfl rfl rfl h.queues

theorem Books.enqueueFrame (sizes : FrameSizes β)
    (frame : FirehoseFrame β) (frameMeta : SyncFrameMeta) (nowMs : Nat) :
    (session.enqueueFrame sizes frame frameMeta nowMs).1.Books hand := by
  unfold SyncV2Session.enqueueFrame
  split
  · exact h
  split
  · exact h
  rename_i domain _
  split
  · exact h
  dsimp only
  generalize OwnedFrame.ofCopy frame domain (session.domainGeneration domain) = owned
  have hcoalesce : (if frameMeta.beforeBuffered = true then
      session.coalesceBuffered domain owned else session).Books hand := by
    split
    · exact h.coalesceBuffered domain owned
    · exact h
  split
  · exact hcoalesce.actOnRefusal _ frameMeta nowMs
  · rename_i hroom
    exact hcoalesce.admitFrame hroom

theorem Books.enqueueRecoveryFrame (sizes : FrameSizes β)
    (frame : OwnedFrame β) (frameMeta : SyncFrameMeta) (nowMs : Nat) :
    (session.enqueueRecoveryFrame sizes frame frameMeta (frame.conservativeBytes sizes)
      nowMs).1.Books hand := by
  unfold SyncV2Session.enqueueRecoveryFrame
  split
  · exact h
  · rename_i hroom
    refine h.admitFrame ?_
    simpa using (Bool.or_eq_false_iff.mp (Bool.eq_false_iff.mpr hroom)).2

end

variable {kept : RetainedFrame β}

theorem Books.restamp (h : session.Books (kept ::ₘ hand))
    (frameMeta : SyncFrameMeta) (queuedAtMs : Nat) :
    session.Books ({ kept with frameMeta, queuedAtMs } ::ₘ hand) := by
  obtain ⟨charge, hcharge, hrest⟩ := (h.charged kept (by simp)).held
  have hstamp : ({ kept with frameMeta, queuedAtMs } : RetainedFrame β).charge = some charge :=
    hcharge
  obtain ⟨hexact, hcharged, honce, hcapped, hqueues⟩ := h
  refine ⟨?_, ?_, ?_, hcapped, hqueues⟩
  · rw [add_cons, Multiset.filterMap_cons_some _ _ _ hcharge] at hexact
    rw [add_cons, Multiset.filterMap_cons_some _ _ _ hstamp]
    exact hexact
  · intro other hmem
    rw [add_cons, Multiset.mem_cons] at hmem
    rcases hmem with rfl | hold
    · exact ⟨charge, hcharge, hrest⟩
    · refine hcharged other ?_
      rw [add_cons]
      exact Multiset.mem_cons_of_mem hold
  · rw [add_cons, Multiset.map_cons] at honce ⊢
    exact honce

theorem Books.tryEnqueueLaneFrame
    {nowMs : Nat} (h : session.Books (kept ::ₘ hand))
    (hqueue : session.tryEnqueueLaneFrame kept frameMeta nowMs = some session') :
    session'.Books hand := by
  unfold SyncV2Session.tryEnqueueLaneFrame at hqueue
  split at hqueue
  · cases hqueue
  rename_i hroom
  cases hqueue
  obtain ⟨_, hdomain, hfits⟩ := queueRefusal_none hroom
  exact (h.restamp frameMeta nowMs).insertQueued hdomain hfits

end SyncV2Session

end Roost.Coord.Sync
