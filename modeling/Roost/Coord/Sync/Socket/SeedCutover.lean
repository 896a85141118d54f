-- SUMMARY: Retained seeds ahead of live frames, and the drain that breaks it.
import Roost.Coord.Sync.Socket.QueueBooks

/-!
# The seed cutover

The cutover splits a queue. Retained seeds are inserted at it, live frames wait behind it. A drain
counts every frame it drops against the cutover, so one that drops a frame behind it leaves the
cutover among the seeds.
-/

namespace Roost.Coord.Sync

open List RetainedFrame SyncV2Session Transducer

variable {β : Type}

/-- An edit of a socket's queues. -/
inductive CutoverOp (β : Type) where
  | insertQueued (item : RetainedFrame β) (estimatedBytes : Nat)
  | takeSelected (candidate : Candidate)
  | coalesceBuffered (domain : SyncDomain) (retained : OwnedFrame β)
  | drainTerminalQueue (shouldDrop : RetainedFrame β → Bool)
  | clearDomainQueue (domain : SyncDomain)

/-- A frame is inserted under its own metadata; a candidate names a queued frame. -/
def SyncV2Session.editQueue (session : SyncV2Session β) : CutoverOp β → SyncV2Session β
  | .insertQueued item estimatedBytes => session.insertQueued item item.frameMeta estimatedBytes
  | .takeSelected candidate => (session.takeSelected candidate).elim session Prod.fst
  | .coalesceBuffered domain retained => session.coalesceBuffered domain retained
  | .drainTerminalQueue shouldDrop => session.drainTerminalQueue shouldDrop
  | .clearDomainQueue domain => session.clearDomainQueue domain

def queueEdits : Transducer (SyncV2Session β) (CutoverOp β) Unit :=
  ⟨fun session op => (session.editQueue op, ())⟩

/-- The frame waits behind the cutover: nothing moves it ahead of other traffic. -/
def SyncFrameMeta.isLive (frameMeta : SyncFrameMeta) : Bool :=
  !(frameMeta.beforeBuffered || frameMeta.attachSnapshot || frameMeta.terminalState)

/-- The retained seeds an edit inserts into a domain. -/
def CutoverOp.seeds (domain : SyncDomain) : CutoverOp β → List (RetainedFrame β)
  | .insertQueued item _ =>
    if item.frameMeta.domain = some domain ∧ item.frameMeta.beforeBuffered then [item] else []
  | _ => []

/-- The seeds of a run, in the order they were inserted. -/
def seedsInserted (domain : SyncDomain) (ops : List (CutoverOp β)) : List (RetainedFrame β) :=
  ops.flatMap (CutoverOp.seeds domain)

/-- The cutover is inside the queue, the queued seeds are in the order they were inserted, and each
of them is ahead of every live frame. -/
structure DomainState.CutoverKept (state : DomainState β) (seeds : List (RetainedFrame β)) :
    Prop where
  inside : state.seedInsertIndex ≤ state.queue.length
  inOrder : (state.queue.filter (·.frameMeta.beforeBuffered)).Sublist seeds
  ahead : state.queue.Pairwise fun earlier later =>
    later.frameMeta.beforeBuffered → earlier.frameMeta.isLive = false

/-- A drain that drops a frame behind the cutover drops every frame ahead of it. -/
def SyncV2Session.KeepsCutover (session : SyncV2Session β) : CutoverOp β → Prop
  | .drainTerminalQueue shouldDrop =>
    let state := session.domains .terminal
    (∀ item ∈ state.queue.drop state.seedInsertIndex, shouldDrop item = false) ∨
      ∀ item ∈ state.queue.take state.seedInsertIndex, shouldDrop item = true
  | _ => True

/-! ## The two segments -/

/-- The queue is two segments that meet at the cutover: one without live frames, whose seeds are in
order, and one without seeds. -/
def DomainState.Split (state : DomainState β) (seeds : List (RetainedFrame β)) : Prop :=
  ∃ front back, state.queue = front ++ back ∧ state.seedInsertIndex = front.length ∧
    (∀ item ∈ front, item.frameMeta.isLive = false) ∧
    (∀ item ∈ back, item.frameMeta.beforeBuffered = false) ∧
    (front.filter (·.frameMeta.beforeBuffered)).Sublist seeds

section

variable {α : Type}

theorem insertIdx_append_left {front : List α} {index : Nat} (h : index ≤ front.length)
    (back : List α) (item : α) :
    (front ++ back).insertIdx index item = front.insertIdx index item ++ back := by
  induction front generalizing index with
  | nil => simp [Nat.le_zero.mp h]
  | cons first front ih =>
    cases index with
    | zero => rfl
    | succ => simp [insertIdx_succ_cons, ih (Nat.le_of_succ_le_succ h)]

theorem insertIdx_append_right (front back : List α) (index : Nat) (item : α) :
    (front ++ back).insertIdx (front.length + index) item = front ++ back.insertIdx index item := by
  induction front with
  | nil => simp
  | cons first front ih => simp [Nat.succ_add, insertIdx_succ_cons, ih]

theorem filter_insertIdx_of_neg {p : α → Bool} {item : α} (h : p item = false) (items : List α)
    (index : Nat) : (items.insertIdx index item).filter p = items.filter p := by
  induction items generalizing index with
  | nil => cases index <;> simp [h]
  | cons first items ih =>
    cases index with
    | zero => simp [h]
    | succ => simp [insertIdx_succ_cons, filter_cons, ih]

theorem forall_mem_insertIdx {P : α → Prop} {item : α} {items : List α}
    (hitems : ∀ other ∈ items, P other) (hitem : P item) (index : Nat) :
    ∀ other ∈ items.insertIdx index item, P other := by
  intro other hmem
  rcases eq_or_mem_of_mem_insertIdx hmem with rfl | hmem
  · exact hitem
  · exact hitems other hmem

end

namespace DomainState

variable {state state' : DomainState β} {seeds : List (RetainedFrame β)}

/-- A split queue keeps the cutover. -/
theorem Split.cutoverKept (h : state.Split seeds) : state.CutoverKept seeds := by
  obtain ⟨_, back, hqueue, hcut, hlive, hback, hord⟩ := h
  refine ⟨?_, ?_, ?_⟩
  · rw [hqueue, hcut, length_append]
    exact Nat.le_add_right _ _
  · have hnone : back.filter (·.frameMeta.beforeBuffered) = [] :=
      filter_eq_nil_iff.mpr fun item hmem => by simp [hback item hmem]
    rw [hqueue, filter_append, hnone, append_nil]
    exact hord
  rw [hqueue, pairwise_append]
  refine ⟨pairwise_of_forall_mem_list fun earlier hmem _ _ _ => hlive earlier hmem, ?_,
    fun earlier hmem _ _ _ => hlive earlier hmem⟩
  refine pairwise_of_forall_mem_list fun _ _ later hmem hseed => ?_
  rw [hback later hmem] at hseed
  cases hseed

/-- Both segments lose frames, and the cutover still stands between them. -/
theorem Split.sublist {front back front' back' : List (RetainedFrame β)}
    (hlive : ∀ item ∈ front, item.frameMeta.isLive = false)
    (hback : ∀ item ∈ back, item.frameMeta.beforeBuffered = false)
    (hord : (front.filter (·.frameMeta.beforeBuffered)).Sublist seeds)
    (hfront : front'.Sublist front) (hrest : back'.Sublist back)
    (hqueue : state'.queue = front' ++ back') (hcut : state'.seedInsertIndex = front'.length) :
    state'.Split seeds :=
  ⟨front', back', hqueue, hcut, fun item hmem => hlive item (hfront.subset hmem),
    fun item hmem => hback item (hrest.subset hmem), (hfront.filter _).trans hord⟩

variable {item : RetainedFrame β} {bytes : Nat}

theorem Split.insertPriority (h : state.Split seeds) {index : Nat}
    (hseed : item.frameMeta.beforeBuffered = false) (hpriority : item.frameMeta.isLive = false) :
    ({ state with
      queue := state.queue.insertIdx index item
      seedInsertIndex :=
        if index < state.seedInsertIndex then state.seedInsertIndex + 1 else state.seedInsertIndex
      queuedBytes := bytes } : DomainState β).Split seeds := by
  obtain ⟨front, back, hqueue, hcut, hlive, hback, hord⟩ := h
  by_cases hahead : index < front.length
  · refine ⟨front.insertIdx index item, back, ?_, ?_, ?_, hback, ?_⟩
    · simp only [hqueue, insertIdx_append_left hahead.le]
    · simp only [hcut, if_pos hahead, length_insertIdx_of_le_length hahead.le]
    · exact forall_mem_insertIdx hlive hpriority index
    · rw [filter_insertIdx_of_neg
        (p := fun item : RetainedFrame β => item.frameMeta.beforeBuffered) hseed]
      exact hord
  · obtain ⟨past, rfl⟩ := Nat.exists_eq_add_of_le (Nat.not_lt.mp hahead)
    refine ⟨front, back.insertIdx past item, ?_, ?_, hlive, ?_, hord⟩
    · simp only [hqueue, insertIdx_append_right]
    · simp only [hcut, if_neg hahead]
    · exact forall_mem_insertIdx hback hseed past

theorem Split.erase (h : state.Split seeds) (index bytes : Nat) : ({ state with
      queue := state.queue.eraseIdx index
      seedInsertIndex :=
        if index < state.seedInsertIndex then state.seedInsertIndex - 1 else state.seedInsertIndex
      queuedBytes := bytes } : DomainState β).Split seeds := by
  obtain ⟨front, back, hqueue, hcut, hlive, hback, hord⟩ := h
  by_cases hahead : index < front.length
  · refine .sublist hlive hback hord (eraseIdx_sublist front index) (Sublist.refl back) ?_ ?_
    · simp only [hqueue, eraseIdx_append_of_lt_length hahead]
    · simp only [hcut, if_pos hahead, length_eraseIdx_of_lt hahead]
  · refine .sublist hlive hback hord (Sublist.refl front)
      (eraseIdx_sublist back (index - front.length)) ?_ ?_
    · simp only [hqueue, eraseIdx_append_of_length_le (Nat.not_lt.mp hahead)]
    · simp only [hcut, if_neg hahead]

theorem Split.drain (h : state.Split seeds) {shouldDrop : RetainedFrame β → Bool} (bytes : Nat)
    (hkeeps : (∀ item ∈ state.queue.drop state.seedInsertIndex, shouldDrop item = false) ∨
      ∀ item ∈ state.queue.take state.seedInsertIndex, shouldDrop item = true) : ({ state with
      queue := state.queue.filter fun item => !shouldDrop item
      queuedBytes := bytes
      seedInsertIndex := state.seedInsertIndex - (state.queue.filter shouldDrop).length } :
        DomainState β).Split seeds := by
  obtain ⟨front, back, hqueue, hcut, hlive, hback, hord⟩ := h
  rw [hqueue, hcut, drop_left, take_left] at hkeeps
  refine .sublist hlive hback hord (filter_sublist (p := fun item => !shouldDrop item))
    (filter_sublist (p := fun item => !shouldDrop item)) (by simp only [hqueue, filter_append]) ?_
  have hcount := (filter_append_perm shouldDrop front).length_eq
  simp only [length_append] at hcount
  simp only [hqueue, hcut, filter_append, length_append]
  rcases hkeeps with hkept | hgone
  · have hnone : back.filter shouldDrop = [] :=
      filter_eq_nil_iff.mpr fun item hmem => by simp [hkept item hmem]
    rw [hnone, length_nil]
    omega
  · have hnone : front.filter (fun item => !shouldDrop item) = [] :=
      filter_eq_nil_iff.mpr fun item hmem => by simp [hgone item hmem]
    rw [hnone, length_nil] at hcount ⊢
    omega

theorem Split.insertSeed (h : state.Split seeds)
    (hseed : item.frameMeta.beforeBuffered = true) : ({ state with
      queue := state.queue.insertIdx state.seedInsertIndex item
      seedInsertIndex := state.seedInsertIndex + 1
      queuedBytes := bytes } : DomainState β).Split (seeds ++ [item]) := by
  obtain ⟨front, back, hqueue, hcut, hlive, hback, hord⟩ := h
  refine ⟨front ++ [item], back, ?_, ?_, ?_, hback, ?_⟩
  · simp only [hqueue, hcut, insertIdx_append_left (Nat.le_refl _), insertIdx_length_self]
  · simp [hcut]
  · rw [← insertIdx_length_self]
    exact forall_mem_insertIdx hlive (by simp [SyncFrameMeta.isLive, hseed]) _
  have hone : [item].filter (·.frameMeta.beforeBuffered) = [item] := by simp [hseed]
  rw [filter_append, hone]
  exact hord.append_right _

theorem Split.push (h : state.Split seeds)
    (hseed : item.frameMeta.beforeBuffered = false) :
    ({ state with queue := state.queue ++ [item], queuedBytes := bytes } : DomainState β).Split
      seeds := by
  obtain ⟨front, back, hqueue, hcut, hlive, hback, hord⟩ := h
  refine ⟨front, back ++ [item], by simp [hqueue], hcut, hlive, ?_, hord⟩
  rw [← insertIdx_length_self]
  exact forall_mem_insertIdx hback hseed _

theorem Split.mono (h : state.Split seeds) {seeds' : List (RetainedFrame β)}
    (hsub : seeds.Sublist seeds') : state.Split seeds' := by
  obtain ⟨front, back, hqueue, hcut, hlive, hback, hord⟩ := h
  exact ⟨front, back, hqueue, hcut, hlive, hback, hord.trans hsub⟩

end DomainState

/-! ## Every edit -/

variable {sess : SyncV2Session β} {seeds : SyncDomain → List (RetainedFrame β)}

/-- An edit of one domain leaves the others as they are. -/
theorem modifyDomain_split (h : ∀ domain, (sess.domains domain).Split (seeds domain))
    {domain : SyncDomain} {f : DomainState β → DomainState β}
    (hedit : (f (sess.domains domain)).Split (seeds domain)) (other : SyncDomain) :
    ((sess.modifyDomain domain f).domains other).Split (seeds other) := by
  unfold modifyDomain
  by_cases hsame : other = domain
  · subst hsame
    simpa using hedit
  · simpa [Function.update_of_ne hsame] using h other

theorem editQueue_split (h : ∀ domain, (sess.domains domain).Split (seeds domain))
    {op : CutoverOp β} (hkeeps : sess.KeepsCutover op) (domain : SyncDomain) :
    ((sess.editQueue op).domains domain).Split (seeds domain ++ op.seeds domain) := by
  cases op with
  | insertQueued item est =>
    have hmono := fun domain => (h domain).mono (sublist_append_left (seeds domain)
      (CutoverOp.seeds domain (.insertQueued item est)))
    simp only [editQueue, SyncV2Session.insertQueued]
    split
    · exact hmono domain
    rename_i target htarget
    refine modifyDomain_split hmono ?_ domain
    simp only [CutoverOp.seeds, htarget, true_and]
    split
    · rename_i hseed
      exact (h target).insertSeed hseed
    rename_i hseed
    rw [Bool.not_eq_true] at hseed
    rw [append_nil]
    split
    · rename_i hpriority
      refine (h target).insertPriority hseed ?_
      simp only [SyncFrameMeta.isLive, Bool.or_assoc, hpriority, Bool.or_true, Bool.not_true]
    · exact (h target).push hseed
  | takeSelected cand =>
    simp only [editQueue, SyncV2Session.takeSelected, CutoverOp.seeds, append_nil]
    split
    · exact h domain
    · rename_i item _
      have hrel : ∀ sess : SyncV2Session β, (sess.releaseCharge item).domains = sess.domains :=
        fun sess => releaseCharges_domains sess [item]
      rw [Option.elim_some, hrel]
      exact modifyDomain_split h ((h cand.slot).erase cand.index _) domain
  | coalesceBuffered target retained =>
    simp only [editQueue, SyncV2Session.coalesceBuffered, CutoverOp.seeds, append_nil]
    rw [releaseCharges_domains]
    refine modifyDomain_split h ?_ domain
    obtain ⟨front, _, hqueue, hcut, hlive, hback, hord⟩ := h target
    refine .sublist hlive hback hord (Sublist.refl front) (filter_sublist
      (p := fun item => !retainedSupersedesBuffered retained item.frame)) ?_ hcut
    simp only [hqueue, hcut, take_left, drop_left]
  | drainTerminalQueue =>
    simp only [editQueue, SyncV2Session.drainTerminalQueue, CutoverOp.seeds, append_nil]
    rw [releaseCharges_domains]
    exact modifyDomain_split h ((h .terminal).drain _ hkeeps) domain
  | clearDomainQueue =>
    simp only [editQueue, SyncV2Session.clearDomainQueue, CutoverOp.seeds, append_nil]
    rw [releaseCharges_domains]
    exact modifyDomain_split h ⟨[], [], rfl, rfl, by simp, by simp, nil_sublist _⟩ domain

/-- The seed cutover is kept along every run whose drains, when they drop a frame behind a cutover,
drop every frame ahead of it. -/
theorem seed_cutover_kept (socketId : String) (generations : Nat) (flowControl : Bool)
    {ops : List (CutoverOp β)}
    (h : queueEdits.Along KeepsCutover (.new socketId generations flowControl) ops)
    (domain : SyncDomain) :
    ((queueEdits.run (.new socketId generations flowControl) ops).domains domain).CutoverKept
      (seedsInserted domain ops) := by
  refine DomainState.Split.cutoverKept (h.history (P := fun ops session => ∀ domain,
    (session.domains domain).Split (seedsInserted domain ops)) ?_ ?_ domain)
  · exact fun _ => ⟨[], [], rfl, rfl, by simp, by simp, nil_sublist _⟩
  intro ops session op hsplit hkeeps domain
  rw [seedsInserted, flatMap_append, flatMap_singleton]
  exact editQueue_split hsplit hkeeps domain

/-- A frame of the terminal domain, told apart by when it was queued. -/
def terminalFrame (queuedAtMs : Nat) (beforeBuffered : Bool) : RetainedFrame Unit where
  frame := .ofCopy ⟨.cellGrid "build" false, ()⟩ .terminal 1
  frameMeta := { SyncFrameMeta.cell "build" with beforeBuffered }
  queuedAtMs := queuedAtMs
  chargedBytes := 0
  charge := none

def twoSeeds : List (CutoverOp Unit) :=
  [.insertQueued (terminalFrame 1 true) 0, .insertQueued (terminalFrame 2 true) 0]

/-- The drain drops a live frame and the seeds ahead of it; one more seed and frame follow. -/
theorem seed_cutover_kept_twoSeeds :
    ((queueEdits.run (.new "socket" 0 false) (twoSeeds ++
        [.insertQueued (terminalFrame 3 false) 0, .drainTerminalQueue fun _ => true,
          .insertQueued (terminalFrame 4 false) 0, .insertQueued (terminalFrame 5 true) 0])).domains
        .terminal).CutoverKept
      [terminalFrame 1 true, terminalFrame 2 true, terminalFrame 5 true] :=
  seed_cutover_kept "socket" 0 false (by simp [Along, twoSeeds, KeepsCutover]) .terminal

/-- A live frame behind two seeds is drained, and a third seed lands between them. -/
theorem drained_live_frame_reorders_seeds : ¬ ∀ (ops : List (CutoverOp Unit)) (domain : SyncDomain),
      ((queueEdits.run (.new "socket" 0 false) ops).domains domain).CutoverKept
        (seedsInserted domain ops) := by
  intro hall
  have hord := (hall (twoSeeds ++ [.insertQueued (terminalFrame 3 false) 0,
    .drainTerminalQueue fun item => !item.frameMeta.beforeBuffered,
    .insertQueued (terminalFrame 4 true) 0]) .terminal).inOrder.map (·.queuedAtMs)
  exact absurd (show [1, 4, 2].Sublist [1, 2, 4] from hord) (by decide)

end Roost.Coord.Sync
