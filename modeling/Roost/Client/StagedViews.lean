-- SUMMARY: Every view a staged attempt publishes is served or withdrawn, once.
import Roost.Base.Multiplicity
import Roost.Client.PromotionDrain

/-!
# The views of staged attempts

An attempt publishes views of its own on its carrier. Each is served once the attempt is promoted,
or withdrawn when it ends. One equation holds between what was published, served and withdrawn and
what the staged attempt still holds. A worker that is retired drops its attempts before anything
asks what they published, and their views are withdrawn by no one.
-/

namespace Roost.Client

open List (map_append map_cons map_map map_nil mem_map sum_append sum_eq_zero_iff sum_singleton)

open TerminalStore

open Roost.Cell

/-! ## Counts -/

/-- A view published for a session on a carrier. -/
structure StagedView where
  token : TerminalToken
  sessionId : String
  wireViewId : String

open StagedView

namespace StagedView

variable (view : StagedView)

/-- The session and the carrier are this view's. -/
def isOf (sessionId : String) (token : TerminalToken) : Prop :=
  sessionId = view.sessionId ∧ token = view.token
  deriving Decidable

/-- A candidate published the view. -/
def publishedBy : TerminalEffect → Nat
  | .prospectiveView token sessionId wireViewId _ _ =>
    if view.isOf sessionId token ∧ wireViewId = view.wireViewId then 1 else 0
  | _ => 0

/-- The view is unpublished on its carrier. -/
def withdrawnBy : TerminalEffect → Nat
  | .withdrawal token sessionId wireViewId _ =>
    if view.isOf sessionId token ∧ wireViewId = view.wireViewId then 1 else 0
  | _ => 0

/-- How often a promoted candidate serves the view. -/
def servedBy : TerminalEffect → Nat
  | .elected sessionId token wireViewIds =>
    if view.isOf sessionId token then wireViewIds.count view.wireViewId else 0
  | _ => 0

def published (log : List TerminalEffect) : Nat := (log.map view.publishedBy).sum

def withdrawn (log : List TerminalEffect) : Nat := (log.map view.withdrawnBy).sum

def served (log : List TerminalEffect) : Nat := (log.map view.servedBy).sum

/-- How often a staged attempt holds the view. -/
def heldBy (candidate : PromotionCandidate) : Nat :=
  if candidate.token = view.token then (candidate.minted.map Prod.fst).count view.wireViewId else 0

/-- How often the session's staged attempt holds the view. -/
def staged (store : TerminalStore) : Nat :=
  (store.routes.candidates.lookup view.sessionId).elim 0 view.heldBy

variable {view} {log effects : List TerminalEffect}

theorem published_append : view.published (log ++ effects) =
    view.published log + view.published effects := by
  unfold published
  rw [map_append, sum_append]

theorem withdrawn_append : view.withdrawn (log ++ effects) =
    view.withdrawn log + view.withdrawn effects := by
  unfold withdrawn
  rw [map_append, sum_append]

theorem served_append : view.served (log ++ effects) = view.served log + view.served effects := by
  unfold served
  rw [map_append, sum_append]

end StagedView

/-- The effects that neither publish, withdraw nor serve a staged view. -/
def TerminalEffect.isUnstaged : TerminalEffect → Bool
  | .prospectiveView .. | .withdrawal .. | .elected .. => false
  | _ => true

theorem StagedView.counts_unstaged (view : StagedView) {effects : List TerminalEffect}
    (h : ∀ eff ∈ effects, eff.isUnstaged = true) :
    view.published effects = 0 ∧ view.withdrawn effects = 0 ∧ view.served effects = 0 := by
  unfold published withdrawn served
  simp only [sum_eq_zero_iff, mem_map, forall_exists_index, and_imp, forall_apply_eq_imp_iff₂]
  refine ⟨fun eff heff => ?_, fun eff heff => ?_, fun eff heff => ?_⟩
  all_goals
    have hunstarted := h eff heff
    cases eff <;> first | rfl | cases hunstarted

/-! ## What an attempt holds -/

theorem PromotionCandidate.count_minted (cand : PromotionCandidate) (wireViewId : String) :
    {logicalViewId | cand.wireIdOf logicalViewId = some wireViewId}.Finite ∧
      (cand.minted.map Prod.fst).count wireViewId =
        {logicalViewId | cand.wireIdOf logicalViewId = some wireViewId}.ncard := by
  have hminted : cand.minted.map Prod.fst =
      cand.prospectiveViews.values.filterMap ProspectiveView.wireViewId := by
    unfold minted
    rw [List.map_filterMap]
    refine List.filterMap_congr fun view _ => ?_
    rw [Option.map_map]
    exact Option.map_id'
  rw [hminted]
  exact cand.prospectiveViews.count_values ProspectiveView.wireViewId wireViewId

theorem TerminalSession.count_wireViewIds (repl : TerminalSession) (wireViewId : String) :
    (repl.orderedViews.map TerminalView.wireViewId).count wireViewId =
      {logicalViewId | repl.wireViewId logicalViewId = some wireViewId}.ncard := by
  have hperm : repl.orderedViews.Perm (repl.views.entries.map Sigma.snd) :=
    (List.perm_insertionSort _ _).map _
  have hcount := repl.views.count_values hperm (fun view => some view.wireViewId) wireViewId
  rw [List.filterMap_eq_map'] at hcount
  refine hcount.trans (congrArg Set.ncard (Set.ext fun logicalViewId => ?_))
  rw [Set.mem_ofPred_eq, Set.mem_ofPred_eq, TerminalSession.wireViewId, Option.map_eq_bind]
  rfl

variable (view : StagedView)

theorem StagedView.heldBy_published {cand later : PromotionCandidate}
    {logicalViewId wireViewId : String} (htoken : later.token = cand.token)
    (hfresh : cand.wireIdOf logicalViewId = none) (hwire : ∀ other, later.wireIdOf other =
      if other = logicalViewId then some wireViewId else cand.wireIdOf other) :
    view.heldBy later = view.heldBy cand +
      if cand.token = view.token ∧ wireViewId = view.wireViewId then 1 else 0 := by
  unfold heldBy
  rw [htoken, (later.count_minted _).2, (cand.count_minted _).2]
  by_cases hhere : cand.token = view.token
  · simp only [hhere, if_true, true_and]
    split
    · rename_i heq
      have hkeys : {other | later.wireIdOf other = some view.wireViewId} =
          insert logicalViewId {other | cand.wireIdOf other = some view.wireViewId} := by
        ext other
        rw [Set.mem_ofPred_eq, hwire, Set.mem_insert_iff, Set.mem_ofPred_eq]
        split
        · rename_i hother
          exact ⟨fun _ => .inl hother, fun _ => congrArg some heq⟩
        · rename_i hother
          exact ⟨.inr, fun h => h.resolve_left hother⟩
      have habsent : logicalViewId ∉ {other | cand.wireIdOf other = some view.wireViewId} := by
        rw [Set.mem_ofPred_eq, hfresh]
        nofun
      rw [hkeys, Set.ncard_insert_of_notMem habsent (cand.count_minted _).1]
    · rename_i hne
      refine congrArg Set.ncard (Set.ext fun other => ?_)
      rw [Set.mem_ofPred_eq, Set.mem_ofPred_eq, hwire]
      split
      · rename_i hother
        rw [hother, hfresh]
        exact ⟨fun h => absurd (Option.some.inj h) hne, nofun⟩
      · rfl
  · simp [hhere]

theorem StagedView.withdrawn_releaseCancelled {candidate : PromotionCandidate}
    (hsess : candidate.sessionId = view.sessionId) : view.withdrawn (releaseCancelled
      [⟨candidate.sessionId, candidate.token, candidate.minted⟩]) = view.heldBy candidate := by
  unfold withdrawn releaseCancelled heldBy
  rw [List.flatMap_singleton, map_map]
  generalize candidate.minted = minted
  induction minted with
  | nil => simp
  | cons first rest ih =>
    rw [map_cons, List.sum_cons, ih, map_cons]
    by_cases htoken : candidate.token = view.token
    · by_cases hwire : first.1 = view.wireViewId
      · simp [withdrawnBy, isOf, hsess, htoken, hwire, Nat.add_comm]
      · simp [withdrawnBy, isOf, hsess, htoken, hwire]
    · simp [withdrawnBy, isOf, htoken]

theorem StagedView.withdrawn_other {cancelled : CancelledCandidate}
    (hsess : cancelled.sessionId ≠ view.sessionId) :
    view.withdrawn (releaseCancelled [cancelled]) = 0 := by
  unfold withdrawn releaseCancelled
  rw [List.flatMap_singleton, map_map, sum_eq_zero_iff]
  intro count hcount
  obtain ⟨_, _, rfl⟩ := mem_map.mp hcount
  simp [withdrawnBy, isOf, hsess]

theorem StagedView.counts_releaseCancelled
    (cancelled : List CancelledCandidate) : view.published (releaseCancelled cancelled) = 0 ∧
      view.served (releaseCancelled cancelled) = 0 := by
  unfold published served
  rw [sum_eq_zero_iff, sum_eq_zero_iff]
  constructor
  all_goals
    intro count hcount
    obtain ⟨_, heff, rfl⟩ := mem_map.mp hcount
    obtain ⟨_, _, hwithdrawn⟩ := List.mem_flatMap.mp heff
    obtain ⟨_, _, rfl⟩ := mem_map.mp hwithdrawn
    rfl

/-! ## Calls -/

/-- A worker that is retired leaves no view published by an attempt staged on it. -/
def Crossing.leavesNoView : Crossing → Bool
  | .retired attempts => attempts.all fun candidate => candidate.minted.isEmpty
  | _ => true

/-- What was published is served, withdrawn, or held by the session's staged attempt. -/
def StagedView.Settled (log : List TerminalEffect) (store : TerminalStore) :
    Prop := view.published log = view.served log + view.withdrawn log + view.staged store

section Settles

variable {view : StagedView} {log effects : List TerminalEffect} {store next : TerminalStore}

theorem StagedView.Settled.unstaged (h : view.Settled log store)
    (hunstarted : ∀ eff ∈ effects, eff.isUnstaged = true)
    (hstaged : view.staged next = view.staged store) : view.Settled (log ++ effects) next := by
  obtain ⟨hpublish, hwithdrawn, hserved⟩ := view.counts_unstaged hunstarted
  unfold StagedView.Settled at h ⊢
  rw [published_append, withdrawn_append, served_append, hpublish, hwithdrawn, hserved, hstaged]
  exact h

theorem StagedView.staged_of_lookup (view : StagedView) {cand : Option PromotionCandidate} {sid : String}
    (cands : ∀ other, next.routes.candidates.lookup other =
      if other = sid then cand else store.routes.candidates.lookup other) :
    view.staged next = if view.sessionId = sid then cand.elim 0 view.heldBy
      else view.staged store := by
  unfold staged
  rw [cands]
  split <;> rfl

/-- A move that leaves no view keeps the equation. -/
theorem Move.settled (move : Move (fun crossing => crossing.leavesNoView = true) store next effects)
    (hstand : store.Standing) (h : view.Settled log store) :
    view.Settled (log ++ effects) next := by
  have hplain : ∀ {effects : List TerminalEffect}, (∀ eff ∈ effects, eff.isPlain = true) →
      ∀ eff ∈ effects, eff.isUnstaged = true := by
    intro effects hplain eff heff
    have hone := hplain eff heff
    cases eff <;> first | rfl | cases hone
  have hhand : ∀ (store : TerminalStore) (sid : String) (token : TerminalToken) (nowMs : Nat),
      ∀ eff ∈ (store.dispatchStartable sid token nowMs).2, eff.isUnstaged = true := by
    intro store sid token nowMs eff heff
    obtain ⟨_, _, rfl⟩ := mem_map.mp heff
    rfl
  cases move with
  | quiet input turned bindings cands staged plain =>
    refine h.unstaged (hplain plain) ?_
    unfold StagedView.staged
    rw [cands]
  | handed | released => exact h.unstaged (hhand _ _ _ _) rfl
  | claimed | acknowledged =>
    exact h.unstaged (fun eff heff => List.mem_singleton.mp heff ▸ rfl) rfl
  | staged candidate workerFp same free unminted unready cands replicas plain =>
    refine h.unstaged (hplain plain) ?_
    rw [view.staged_of_lookup cands]
    split
    · rename_i heq
      unfold StagedView.staged
      rw [heq, free]
      change view.heldBy _ = 0
      unfold heldBy
      split
      · rw [(PromotionCandidate.count_minted _ _).2]
        simp [unminted]
      · rfl
    · rfl
  | cancelled sid same cands replicas =>
    cases hlook : store.routes.candidates.lookup sid with
    | none =>
      have hnothing : store.routes.cancelCandidate sid = (store.routes, none) := by
        unfold RouteRegistry.cancelCandidate
        rw [hlook]
      rw [hnothing]
      refine h.unstaged (List.forall_mem_nil _) ?_
      rw [view.staged_of_lookup cands]
      split
      · rename_i heq
        unfold StagedView.staged
        rw [heq, hlook]
      · rfl
    | some candidate =>
      have hcancel : (store.routes.cancelCandidate sid).2.toList =
          [⟨candidate.sessionId, candidate.token, candidate.minted⟩] := by
        unfold RouteRegistry.cancelCandidate
        rw [hlook]
        rfl
      rw [hcancel]
      have hsess := (hstand.attempts hlook).1
      have hstaged := view.staged_of_lookup cands
      obtain ⟨hpublish, hserved⟩ := view.counts_releaseCancelled
        [⟨candidate.sessionId, candidate.token, candidate.minted⟩]
      unfold StagedView.Settled at h ⊢
      rw [StagedView.published_append, StagedView.withdrawn_append, StagedView.served_append,
        hpublish, hserved, hstaged, h]
      by_cases hhere : view.sessionId = sid
      · -- What the attempt held is withdrawn here.
        rw [if_pos hhere, view.withdrawn_releaseCancelled (hsess.trans hhere.symm)]
        unfold StagedView.staged
        rw [hhere, hlook, Option.elim_some, Option.elim_none]
        omega
      · rw [if_neg hhere, view.withdrawn_other (fun heq => hhere (heq.symm.trans hsess))]
        rfl
  | @published next sid logicalViewId wireViewId candidate later replica served intent rev same
      candidateThere replicaThere prepared fresh kept published serves bound cands replicas =>
    have hstaged := view.staged_of_lookup cands
    unfold StagedView.Settled at h ⊢
    rw [StagedView.published_append, StagedView.withdrawn_append, StagedView.served_append, hstaged, h]
    by_cases hhere : view.sessionId = sid
    · rw [if_pos hhere, Option.elim_some, view.heldBy_published kept.2 fresh published]
      unfold StagedView.staged
      rw [hhere, candidateThere, Option.elim_some]
      simp only [StagedView.published, StagedView.withdrawn, StagedView.served,
        StagedView.publishedBy, StagedView.withdrawnBy, StagedView.servedBy, StagedView.isOf, hhere,
        map_cons, map_nil, sum_singleton, true_and]
      omega
    · rw [if_neg hhere]
      simp only [StagedView.published, StagedView.withdrawn, StagedView.served,
        StagedView.publishedBy, StagedView.withdrawnBy, StagedView.servedBy, StagedView.isOf,
        map_cons, map_nil, sum_singleton, Ne.symm hhere, false_and, if_false,
        Nat.add_zero]
  | advanced same candidateThere replicaThere kept published serves bound ready cands replicas plain =>
    refine h.unstaged (hplain plain) ?_
    rw [view.staged_of_lookup cands]
    split
    · rename_i heq
      unfold StagedView.staged
      rw [heq, candidateThere]
      change view.heldBy _ = view.heldBy _
      unfold StagedView.heldBy
      rw [kept.2, (PromotionCandidate.count_minted _ _).2, (PromotionCandidate.count_minted _ _).2]
      simp only [published]
    · rfl
  | @elected next effects sid candidate replica candidateThere replicaThere input sync idle allowed
      bound gen cands replicas plain =>
    obtain ⟨hsess, found, hfound, hserves⟩ := hstand.attempts candidateThere
    cases replicaThere.symm.trans hfound
    obtain ⟨hpublish, hwithdrawn, hserved⟩ := view.counts_unstaged (hplain plain)
    have hstaged := view.staged_of_lookup cands
    -- The replica shows what the attempt published.
    have hcount : (replica.orderedViews.map TerminalView.wireViewId).count view.wireViewId =
        (candidate.minted.map Prod.fst).count view.wireViewId := by
      rw [replica.count_wireViewIds, (candidate.count_minted _).2]
      simp only [hserves.wireIds]
    have hconsed : ∀ eff : TerminalEffect, eff :: effects = [eff] ++ effects := fun _ => rfl
    unfold StagedView.Settled at h ⊢
    rw [hconsed, StagedView.published_append, StagedView.withdrawn_append, StagedView.served_append,
      StagedView.published_append, StagedView.withdrawn_append, StagedView.served_append,
      hpublish, hwithdrawn, hserved, hstaged, h]
    simp only [StagedView.published, StagedView.withdrawn, StagedView.served,
      StagedView.publishedBy, StagedView.withdrawnBy, StagedView.servedBy, StagedView.isOf,
      map_cons, map_nil, sum_singleton, hcount]
    by_cases hhere : view.sessionId = sid
    · unfold StagedView.staged StagedView.heldBy
      rw [if_pos hhere, hhere, candidateThere]
      simp only [Option.elim_some, Option.elim_none, true_and]
      omega
    · rw [if_neg hhere]
      simp only [Ne.symm hhere, false_and, if_false]
      omega
  | retired workerFp same allowed cands staged =>
    refine h.unstaged (List.forall_mem_nil _) ?_
    unfold StagedView.staged
    rw [cands, OrderedMap.lookup_retain]
    cases hlook : store.routes.candidates.lookup view.sessionId with
    | none => rfl
    | some candidate =>
      rw [Option.filter_some]
      split
      · rfl
      -- The attempt goes with its worker, and had published nothing.
      rename_i hgone
      have hmem : candidate ∈ store.routes.candidates.values.filter fun candidate =>
          decide (candidate.token.workerFp = some workerFp) :=
        List.mem_filter.mpr ⟨mem_map.mpr
          ⟨_, OrderedMap.lookup_eq_some_iff.mp hlook, rfl⟩, by simpa using hgone⟩
      have hempty := List.all_eq_true.mp allowed candidate hmem
      rw [List.isEmpty_iff] at hempty
      simp [StagedView.heldBy, hempty]

/-- A call that leaves no view keeps the equation. -/
theorem CallStep.settled
    (step : CallStep (fun crossing => crossing.leavesNoView = true) store next effects)
    (hstand : store.Standing) (h : view.Settled log store) :
    view.Settled (log ++ effects) next := by
  cases step with
  | moves moves =>
    exact (moves.keeps (P := fun log store => store.Standing ∧ view.Settled log store)
      (fun h move => ⟨h.1.move move, move.settled h.1 h.2⟩) log ⟨hstand, h⟩).2
  | promotes | retries =>
    exact h.unstaged (fun eff heff => List.mem_singleton.mp heff ▸ rfl) rfl

end Settles

/-! ## Runs -/

/-- In a run whose retired workers had no view published by an attempt, every view an attempt
published is served, withdrawn, or held by the attempt while it is staged; with no attempt staged
on its carrier, it was served or withdrawn. -/
theorem staged_views_settled (sizes : Sizes) (calls : List TerminalCall)
    (h : (terminalStore sizes).Along (Meets fun crossing => crossing.leavesNoView = true) .new calls)
    (view : StagedView) :
    view.published (emitted sizes calls) =
        view.served (emitted sizes calls) + view.withdrawn (emitted sizes calls) +
          view.staged ((terminalStore sizes).run .new calls) ∧
      ((∀ candidate, ((terminalStore sizes).run .new calls).routes.candidates.lookup view.sessionId =
            some candidate → candidate.token ≠ view.token) →
        view.published (emitted sizes calls) =
          view.served (emitted sizes calls) + view.withdrawn (emitted sizes calls)) := by
  have hset := (run_keeps sizes (P := fun log store => view.Settled log store) rfl
    (fun hstand h step => step.settled hstand h) h).2
  refine ⟨hset, fun hgone => hset.trans ?_⟩
  have hnothing : view.staged ((terminalStore sizes).run .new calls) = 0 := by
    unfold staged
    cases hlook : ((terminalStore sizes).run .new calls).routes.candidates.lookup
        view.sessionId with
    | none => rfl
    | some candidate =>
      rw [Option.elim_some, heldBy, if_neg (hgone candidate hlook)]
  rw [hnothing, Nat.add_zero]

def peerPaneView : StagedView := ⟨peerToken, "session-1", peerView⟩

def runsOutOfTime : List TerminalCall := opensOnSync ++ stagesPeer ++ [.sweepCandidateDeadlines 9000]

theorem staged_views_settled_timeout : peerPaneView.published (emitted wireSizes runsOutOfTime) =
      peerPaneView.served (emitted wireSizes runsOutOfTime) +
        peerPaneView.withdrawn (emitted wireSizes runsOutOfTime) := by
  refine (staged_views_settled wireSizes runsOutOfTime (by decide +kernel) peerPaneView).2 ?_
  intro candidate hlook
  have hnone : (((terminalStore wireSizes).run .new runsOutOfTime).routes.candidates.lookup
      "session-1").isSome = false := by decide +kernel
  unfold peerPaneView at hlook
  rw [hlook] at hnone
  cases hnone

def retiresWorker : List TerminalCall := opensOnSync ++ stagesPeer ++ [.workerRetired "worker-1"]

/-- After it no attempt is staged, and the view was neither served nor withdrawn. -/
theorem staged_view_forgotten : ¬∀ calls view,
      (((terminalStore wireSizes).run .new calls).routes.candidates.lookup
        view.sessionId).isSome = false →
      published view (emitted wireSizes calls) =
        view.served (emitted wireSizes calls) + view.withdrawn (emitted wireSizes calls) := by
  intro h
  have hcounted := h retiresWorker peerPaneView (by decide +kernel)
  exact absurd hcounted (by decide +kernel)

end Roost.Client
