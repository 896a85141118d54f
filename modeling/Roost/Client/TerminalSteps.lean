-- SUMMARY: Input, claims and promotions as moves of the terminal store.
import Roost.Client.TerminalMoves

/-!
# Calls as moves

One lemma for each operation of the store says which moves it is made of. A call that sends a
promotion's claim, for the first time or again, sends nothing else and is a case of its own.
-/

namespace Roost.Client

open InputRouter OrderedMap RouteRegistry

open Roost.Cell

/-! ## Small moves -/

section Small

variable {ok : Crossing → Prop} {store next : TerminalStore} {effects : List TerminalEffect}
  {input : InputRouter}

theorem Move.ofInput (h : store.input.Quiet input) :
    Move ok store { store with input } [] :=
  .quiet h (fun _ token _ _ hto => .inl ⟨token, hto, .of_same token.sameConnection_self⟩)
    (fun _ => .inl rfl) rfl rfl plain_nil

theorem Move.ofSame (same : SameInput store next)
    (candidates : next.routes.candidates = store.routes.candidates)
    (staged : next.routes.staged = store.routes.staged)
    (plain : ∀ eff ∈ effects, eff.isPlain = true) : Move ok store next effects := by
  refine .quiet (same.input ▸ .refl _) (fun sid token _ _ hto => .inl ⟨token, ?_, ?_⟩)
    (fun sid => .inl (same.generation sid)) candidates staged plain
  · rw [← same.destination]
    exact hto
  · exact .of_same token.sameConnection_self

theorem Move.ofPlain (plain : ∀ eff ∈ effects, eff.isPlain = true) :
    Move ok store store effects := .ofSame ⟨rfl, fun _ => rfl, rfl⟩ rfl rfl plain

theorem Moves.ofInput (h : store.input.Quiet input) :
    Moves ok store { store with input } [] := (Move.ofInput h).moves

theorem Moves.andThen {done : Emitted} {f : TerminalStore → Emitted}
    (h : Moves ok store done.1 done.2) (h' : MovesTo ok done.1 (f done.1)) :
    MovesTo ok store (done.andThen f) := h.trans h'

theorem Moves.forEachOf {α : Type} {f : α → TerminalStore → Emitted} (Q : TerminalStore → Prop)
    {xs : List α}
    (h : ∀ x ∈ xs, ∀ {store}, Q store → MovesTo ok store (f x store) ∧ Q (f x store).1)
    (hstore : Q store) : MovesTo ok store (forEach f xs store) := by
  induction xs generalizing store with
  | nil => exact .done store
  | cons x rest ih =>
    obtain ⟨hmoves, hkept⟩ := h x List.mem_cons_self hstore
    exact hmoves.trans (ih (fun y hy => h y (List.mem_cons_of_mem x hy)) hkept)

theorem Moves.forEach {α : Type} {f : α → TerminalStore → Emitted} {xs : List α}
    (h : ∀ x, ∀ {store}, MovesTo ok store (f x store)) :
    MovesTo ok store (Client.forEach f xs store) :=
  .forEachOf (fun _ => True) (fun x _ _ _ => ⟨h x, trivial⟩) trivial

end Small

inductive CallStep (ok : Crossing → Prop) (store : TerminalStore) :
    TerminalStore → List TerminalEffect → Prop where
  | moves {next : TerminalStore} {effects : List TerminalEffect}
      (moves : Moves ok store next effects) : CallStep ok store next effects
  /-- A promotion claims its candidate, the old route drained as far as the store looks. -/
  | promotes {sessionId : String} {token : TerminalToken} {workerEpoch : String} {attemptId nowMs : Nat}
      {held input : InputRouter} {claim : InputClaim} (hold : store.input.Quiet held)
      (same : held.outstanding sessionId = store.input.outstanding sessionId)
      (drained : ∀ bound, store.generation sessionId = some bound →
        store.input.hasUnsettledOn sessionId bound = false)
      (begun : held.beginRouteClaim sessionId token workerEpoch (some attemptId) nowMs =
        (input, .ok claim)) : CallStep ok store { store with input } [.routeClaim claim]
  /-- A claim whose revision was stale goes out once more. -/
  | retries {token : TerminalToken} {result : InputRouteResult} {nowMs : Nat} {input : InputRouter}
      {claim : InputClaim}
      (settled : store.input.settleRouteClaim token result nowMs = (input, some (.retry claim))) :
      CallStep ok store { store with input } [.routeClaim claim]

namespace TerminalStore

variable {ok : Crossing → Prop} {store : TerminalStore}

theorem routeRequired_eq (store : TerminalStore) (sid : String) :
    store.routeRequired sid = (store.input.laneOrNew sid).claims.required :=
  store.input.lookup_any sid rfl

/-! ## Dispatch and claims for Sync -/

/-- Where a session's input goes, its batches may go out. -/
def Hands (ok : Crossing → Prop) (store : TerminalStore) (sessionId : String) : Prop :=
  ∀ token, store.inputDestination sessionId = some token →
    HandsTo ok (store.generation sessionId) token

/-- A session's batches may go out where its input goes. -/
def handedCrossings (store : TerminalStore) (sessionId : String) : List Crossing :=
  (store.inputDestination sessionId).toList.map (.handed (store.generation sessionId))

variable {sid : String}

theorem hands_of_crossings
    (h : ∀ crossing ∈ store.handedCrossings sid, ok crossing) : store.Hands ok sid := by
  intro token hdest
  refine .inr (h _ ?_)
  unfold handedCrossings
  rw [hdest]
  exact List.mem_singleton_self _

/-- A session's batches may go out while its lane sends. -/
def Sends (ok : Crossing → Prop) (store : TerminalStore) (sessionId : String) : Prop :=
  (store.input.laneOrNew sessionId).phase = .sending → store.Hands ok sessionId

variable {input : InputRouter}

theorem Sends.quiet (h : store.Sends ok sid)
    (quiet : store.input.Quiet input) : { store with input : TerminalStore }.Sends ok sid :=
  fun hsend => h ((@quiet.tame sid).sending hsend)

theorem moves_sendQueuedInput (nowMs : Nat) (hsends : store.Sends ok sid) :
    MovesTo ok store (store.sendQueuedInput sid nowMs) := by
  unfold sendQueuedInput
  split
  · exact .done store
  split
  · exact .done store
  · rename_i token hdest
    exact (Move.handed sid token nowMs hdest fun hsend => hsends hsend token hdest).moves

variable (store)

theorem moves_blockLane (sid : String) : Moves ok store (store.blockLane sid) [] :=
  .ofInput ⟨.call _ (.blockRoute sid), tame_blockRoute _ _⟩

theorem moves_deferOrBlockFallback (sid : String) (nowMs : Nat) :
    Moves ok store (store.deferOrBlockFallback sid nowMs) [] := by
  have hdef : Moves ok store { store with input := (store.input.deferFallback sid nowMs).1 } [] :=
    .ofInput ⟨.call _ (.deferFallback sid nowMs), tame_deferFallback _ _ _⟩
  unfold deferOrBlockFallback
  dsimp only
  split
  · exact hdef
  · exact hdef.trans (moves_blockLane _ sid)

variable {sid : String} {token : TerminalToken} {nowMs attemptId : Nat}

theorem quiet_beginRouteClaim {workerEpoch reason : String} {attemptId : Option Nat}
    {router : InputRouter}
    (h : router.beginRouteClaim sid token workerEpoch attemptId nowMs = (input, .error reason)) :
    router.Quiet input := by
  refine ⟨?_, tame_beginRouteClaim_error h⟩
  have hinput : input =
      (router.beginRouteClaim sid token workerEpoch attemptId nowMs).1 := by rw [h]
  exact hinput ▸ .call router (.beginRouteClaim sid token workerEpoch attemptId nowMs)

theorem moves_claimFallback (nowMs : Nat)
    (due : String × FallbackRecovery) : MovesTo ok store (claimFallback nowMs due store) := by
  obtain ⟨sid, _⟩ := due
  unfold claimFallback
  dsimp only
  split
  · exact moves_deferOrBlockFallback store sid nowMs
  split
  · rename_i begun
    exact (Move.claimed begun).moves
  · rename_i begun
    exact (Moves.ofInput (quiet_beginRouteClaim begun)).trans (moves_blockLane _ sid)

theorem moves_claimDueFallbacks (nowMs : Nat) : MovesTo ok store (store.claimDueFallbacks nowMs) :=
  .forEach fun due store => moves_claimFallback store nowMs due

theorem quiet_reclaimLostRoute (sid : String)
    (listedWorkerFp : Option String) (nowMs : Nat) : ∃ input, store.input.Quiet input ∧
      (store.reclaimLostRoute sid listedWorkerFp nowMs).1 = { store with input } := by
  unfold reclaimLostRoute
  split
  · exact ⟨_, .refl _, rfl⟩
  dsimp only
  split
  · exact ⟨_, .refl _, rfl⟩
  · rename_i fp _
    exact ⟨_, ⟨.call _ (.beginFallback sid fp
      (store.acknowledgedWorkerEpoch sid) nowMs), tame_beginFallback _ _ _ _ _⟩, rfl⟩

variable {store}

/-! ## Keystrokes and results -/

theorem quiet_settle (router : InputRouter) (seq : Nat) (outcome : InputOutcome) :
    router.Quiet (router.settle seq outcome).1 :=
  ⟨.call router (.settle seq outcome), tame_settle _ _ _⟩

theorem moves_handleTerminalInput (viewId : Option String) (bytes : List UInt8)
    (listedWorkerFp : Option String) (nowMs : Nat) (hsends : store.Sends ok sid) :
    MovesTo ok store (store.handleTerminalInput sid viewId bytes listedWorkerFp nowMs) := by
  unfold handleTerminalInput
  obtain ⟨reclaimed, hreclaimed, hstore⟩ := quiet_reclaimLostRoute store sid listedWorkerFp nowMs
  generalize store.reclaimLostRoute sid listedWorkerFp nowMs = reclaim at *
  obtain ⟨later, reclaiming⟩ := reclaim
  cases hstore
  dsimp only
  have hadmitted : store.input.Quiet (reclaimed.admitInput sid viewId bytes nowMs).1 :=
    hreclaimed.trans ⟨.call _ (.admitInput sid viewId bytes nowMs), tame_admitInput _ _ _ _ _⟩
  generalize reclaimed.admitInput sid viewId bytes nowMs = admission at *
  obtain ⟨input, answer⟩ := admission
  have hmoves : Moves ok store { store with input } [] := .ofInput hadmitted
  cases answer with
  | error => exact hmoves
  | ok admitted =>
    dsimp only
    split
    · split
      · exact hmoves.trans (moves_claimDueFallbacks _ nowMs)
      · exact hmoves
    split
    · exact hmoves.trans (.ofInput (quiet_settle _ _ _))
    · rename_i token hdest
      exact hmoves.trans (Move.handed sid token nowMs hdest
        fun hsend => hsends.quiet hadmitted hsend token hdest).moves

theorem moves_settleInput (seq : Nat) (outcome : InputOutcome) (nowMs : Nat)
    (hsends : store.Sends ok sid) : MovesTo ok store (store.settleInput seq sid outcome nowMs) := by
  have hsettled := quiet_settle store.input seq outcome
  unfold settleInput
  dsimp only
  split
  · exact (Moves.ofInput hsettled).trans (moves_sendQueuedInput nowMs (hsends.quiet hsettled))
  · exact .ofInput hsettled

theorem moves_handleInputResult (seq : Nat) (outcome : InputOutcome)
    (listedWorkerFp : Option String) (nowMs : Nat) (hsends : store.Sends ok sid) :
    MovesTo ok store (store.handleInputResult sid seq outcome listedWorkerFp nowMs) := by
  unfold handleInputResult
  split
  · exact moves_settleInput seq outcome nowMs hsends
  have hrequeued : store.input.Quiet (store.input.requeueMovedSyncBatch sid seq).1 :=
    ⟨.call _ (.requeueMovedSyncBatch sid seq), tame_requeueMovedSyncBatch _ _ _⟩
  generalize store.input.requeueMovedSyncBatch sid seq = requeued at *
  obtain ⟨input, moved, _⟩ := requeued
  have hmoves : Moves ok store { store with input } [] := .ofInput hrequeued
  cases moved with
  | false => exact hmoves.trans (moves_settleInput seq outcome nowMs (hsends.quiet hrequeued))
  | true =>
    dsimp only
    split
    · exact hmoves.trans (moves_claimDueFallbacks _ nowMs)
    obtain ⟨reclaimed, hreclaimed, hstore⟩ :=
      quiet_reclaimLostRoute { store with input } sid listedWorkerFp nowMs
    have hagain : Moves ok store { store with input := reclaimed } [] :=
      .ofInput (hrequeued.trans hreclaimed)
    split
    · rename_i hreclaim
      rw [hreclaim] at hstore
      cases hstore
      exact hagain.trans (moves_claimDueFallbacks _ nowMs)
    rename_i hreclaim
    rw [hreclaim] at hstore
    cases hstore
    exact hagain.trans (moves_settleInput seq outcome nowMs
      (hsends.quiet (hrequeued.trans hreclaimed)))

theorem moves_handleDirectInputResult (token : TerminalToken) (seq : Nat) (outcome : InputOutcome)
    (nowMs : Nat) (hsends : store.Sends ok sid) :
    MovesTo ok store (store.handleDirectInputResult sid token seq outcome nowMs) := by
  have hsettled : store.input.Quiet (store.input.settleFrom sid token seq outcome).1 :=
    ⟨.call _ (.settleFrom sid token seq outcome), tame_settleFrom _ _ _ _ _⟩
  unfold handleDirectInputResult
  dsimp only
  split
  · exact (Moves.ofInput hsettled).trans (moves_sendQueuedInput nowMs (hsends.quiet hsettled))
  · exact .ofInput hsettled

/-! ## Attempts that end -/

theorem sameInput_routes (store : TerminalStore) (routes : RouteRegistry TerminalSession) :
    SameInput store { store with routes } := ⟨rfl, fun _ => rfl, rfl⟩

variable (routes : RouteRegistry TerminalSession)

theorem lookup_cancelCandidate (sid other : String) :
    (routes.cancelCandidate sid).1.candidates.lookup other =
      if other = sid then none else routes.candidates.lookup other := by
  unfold cancelCandidate
  split
  · rename_i hnone
    split
    · rename_i heq
      rw [heq, hnone]
    · rfl
  · exact lookup_erase _ _ _

theorem staged_cancelCandidate {other : String}
    (hne : other ≠ sid) : (routes.cancelCandidate sid).1.staged.lookup other =
      routes.staged.lookup other := by
  unfold cancelCandidate
  split
  · rfl
  · dsimp only
    rw [lookup_erase, if_neg hne]

theorem moves_cancelStagedCandidate (store : TerminalStore) (sid : String) :
    MovesTo ok store (store.cancelStagedCandidate sid) :=
  (Move.cancelled sid (sameInput_routes store _) (lookup_cancelCandidate store.routes sid)
    fun _ => staged_cancelCandidate store.routes).moves

theorem moves_cancelCandidates (store : TerminalStore) (sessions : List String) :
    Moves ok store { store with routes := (store.routes.cancelCandidates sessions).1 }
      (releaseCancelled (store.routes.cancelCandidates sessions).2) := by
  induction sessions generalizing store with
  | nil => exact .done store
  | cons sid rest ih =>
    have hrest := ih { store with routes := (store.routes.cancelCandidate sid).1 }
    unfold cancelCandidates
    rw [releaseCancelled, List.flatMap_append]
    exact (moves_cancelStagedCandidate store sid).trans hrest

/-! ## Ends of a promotion -/

/-- A lane needs no route, or has the epoch of one. -/
def HasAuthority (store : TerminalStore) (sessionId : String) (route : TerminalToken) : Prop :=
  store.routeRequired sessionId = true → store.input.routeEpochFor sessionId route ≠ ""

theorem moves_releaseHeldOnto {route : TerminalToken} (nowMs : Nat)
    (hroute : (∀ held, store.inputDestination sid = some held →
        route.sameConnection held = true) ∨ ok (.resumed (store.inputDestination sid) route))
    (hbound : store.HasAuthority sid route → HandsTo ok (store.generation sid) route) :
    MovesTo ok store (store.releaseHeldOnto sid route nowMs) := by
  unfold releaseHeldOnto
  split
  · exact moves_blockLane store sid
  · rename_i hauthority
    have hroutes : store.HasAuthority sid route := fun hrequired hepoch =>
      hauthority ⟨hrequired, hepoch⟩
    exact (Move.released sid route nowMs hroutes hroute (hbound hroutes)).moves

/-- A session's held batches may go out where its input goes, under the route they have there. -/
def Releases (ok : Crossing → Prop) (store : TerminalStore) (sessionId : String) : Prop :=
  ∀ token, store.inputDestination sessionId = some token → store.HasAuthority sessionId token →
    HandsTo ok (store.generation sessionId) token

theorem Hands.releases (h : store.Hands ok sid) :
    store.Releases ok sid := fun token hdest _ => h token hdest

theorem moves_recoverOrRelease (promotion : PromotionHold) (nowMs : Nat)
    (hreleases : store.Releases ok sid) :
    MovesTo ok store (store.recoverOrRelease sid promotion nowMs) := by
  unfold recoverOrRelease
  split
  · rename_i fp _ _
    exact .ofInput ⟨.call _ (.beginFallback sid fp promotion.token.processEpoch nowMs),
      tame_beginFallback _ _ _ _ _⟩
  split
  · rename_i current hdest
    refine moves_releaseHeldOnto nowMs (.inl fun held hheld => ?_) (hreleases current hdest)
    cases hdest.symm.trans hheld
    exact current.sameConnection_self
  · exact moves_blockLane store sid

theorem moves_abandonPromotion (nowMs : Nat) (hreleases : store.Releases ok sid) :
    MovesTo ok store (store.abandonPromotion sid nowMs) := by
  unfold abandonPromotion
  split
  · exact .done store
  rename_i promotion _
  -- To cancel the attempt changes neither lanes nor bindings.
  dsimp only
  split
  · exact .andThen (moves_cancelStagedCandidate store sid)
      (moves_recoverOrRelease promotion nowMs hreleases)
  · exact .andThen (.done store) (moves_recoverOrRelease promotion nowMs hreleases)

variable {connectionId : String}

theorem promotable_ok {routes : RouteRegistry TerminalSession}
    (h : routes.promotable sid attemptId token = .ok connectionId) :
    ∃ cand workerFp, routes.candidates.lookup sid = some cand ∧
      cand.baselineReady = true ∧ cand.token = token ∧ token.workerFp = some workerFp := by
  unfold promotable at h
  split at h
  · cases h
  rename_i cand hcand
  split at h
  · cases h
  split at h
  · cases h
  rename_i hready
  split at h
  · cases h
  split at h
  · cases h
  rename_i htoken
  split at h
  · cases h
  · rename_i workerFp hworker
    exact ⟨cand, workerFp, hcand, by simpa using hready, not_not.mp htoken, hworker⟩

theorem attempts_promoteCandidateIfPossible (fp : String) :
    (routes.promoteCandidateIfPossible fp).candidates = routes.candidates ∧
      (routes.promoteCandidateIfPossible fp).staged = routes.staged := by
  unfold promoteCandidateIfPossible
  split
  · exact ⟨rfl, rfl⟩
  · split <;> exact ⟨rfl, rfl⟩

theorem plain_releasePrevious (store : TerminalStore) (sid : String) (oldToken : TerminalToken)
    (oldViews : List (String × Nat)) :
    ∀ eff ∈ store.releasePrevious sid oldToken oldViews, eff.isPlain = true := by
  unfold releasePrevious
  intro eff heff
  split at heff
  · split at heff
    · cases heff
    · obtain ⟨_, _, rfl⟩ := List.mem_map.mp heff
      rfl
  · obtain ⟨_, _, rfl⟩ := List.mem_map.mp heff
    rfl
  · obtain ⟨_, _, rfl⟩ := List.mem_map.mp heff
    rfl

theorem generation_insert {store next : TerminalStore} {repl : TerminalSession}
    (h : next.terminal = store.terminal.insert sid repl) (other : String) : next.generation other =
      if other = sid then repl.generation else store.generation other := by
  unfold generation
  rw [h, lookup_insert]
  split <;> rfl

theorem moves_commitCandidate (hstand : store.Standing)
    (hprom : store.routes.promotable sid attemptId token = .ok connectionId)
    (hidle : (store.input.laneOrNew sid).phase = .sending →
      (store.input.laneOrNew sid).claims.required = false)
    (hallow : ok (.elected (store.input.outstanding sid) token)) :
    MovesTo ok store (store.commitCandidate sid attemptId token) ∧
      (store.commitCandidate sid attemptId token).1.generation sid = some token := by
  obtain ⟨cand, workerFp, hcand, hready, rfl, hworker⟩ := promotable_ok hprom
  obtain ⟨-, replica, hreplica, hserved⟩ := hstand.attempts hcand
  obtain ⟨hcandid, hstaged⟩ := attempts_promoteCandidateIfPossible { store.routes with
      candidates := store.routes.candidates.erase sid
      staged := store.routes.staged.erase sid
      routes := store.routes.routes.insert sid ⟨connectionId, cand.token⟩ } workerFp
  unfold commitCandidate promote
  simp only [hprom, hworker, hreplica]
  unfold commitPromotion
  have hbound := (replica.promotedOver_generation (store.terminal.lookup sid)).trans
    (hserved.ready hready)
  dsimp only
  rw [replica.promotedOver_orderedViews]
  refine ⟨Move.moves (.elected hcand hreplica ?_ ?_ hidle hallow ?_ ?_ ?_ ?_ ?_), ?_⟩
  · rfl
  · rfl
  · rw [generation_insert rfl, if_pos rfl, hbound]
  · intro other hne
    rw [generation_insert rfl, if_neg hne]
  · intro other
    rw [hcandid, lookup_erase]
  · intro other hne
    rw [hstaged, lookup_erase, if_neg hne]
  · intro effect heff
    split at heff
    · cases heff
    · split at heff
      · cases heff
      · exact plain_releasePrevious _ _ _ _ effect heff
  · rw [generation_insert rfl, if_pos rfl, hbound]

/-! ## Promotion -/

theorem hasUnsettledOn_eq (router : InputRouter) (sid : String) (token : TerminalToken) :
    router.hasUnsettledOn sid token = (router.outstanding sid).any fun pend =>
      pend.started && pend.fencedOn fun fence => decide (fence = token) := by
  rw [outstanding_eq]
  exact router.lookup_any sid rfl

theorem outstanding_holdForPromotion (router : InputRouter) (sid : String) (attemptId : Nat)
    (token : TerminalToken) (nowMs : Nat) (other : String) :
    (router.holdForPromotion sid attemptId token nowMs).outstanding other =
      router.outstanding other := by
  unfold holdForPromotion holdLane
  dsimp only
  rw [outstanding_eq, outstanding_eq]
  split
  · rw [laneOrNew_setLane]
    split
    · rename_i heq
      rw [heq]
    · rfl
  rw [laneOrNew_setLane]
  split
  · rename_i heq
    rw [heq]
  · rfl

theorem step_drainThenClaim (store : TerminalStore) {held : InputRouter} {cand : TerminalToken}
    {heldAtMs : Nat} (hold : store.input.Quiet held)
    (same : held.outstanding sid = store.input.outstanding sid) : CallStep ok store
      (drainThenClaim { store with input := held } sid attemptId cand heldAtMs nowMs).1
      (drainThenClaim { store with input := held } sid attemptId cand heldAtMs nowMs).2 := by
  have hheld : Moves ok store { store with input := held } [] := .ofInput hold
  unfold drainThenClaim
  split
  · rename_i hwaits
    split
    · -- What is waited for went out on the token the replica is bound to.
      refine .moves (hheld.trans (moves_abandonPromotion nowMs fun token hdest _ => .inl ?_))
      obtain ⟨_, hbound, -⟩ := (Option.any_eq_true _ _).mp hwaits
      unfold inputDestination at hdest
      rwa [hbound, Option.some_or, ← hbound] at hdest
    · exact .moves hheld
  rename_i hdrain
  split
  · rename_i begun
    refine .promotes hold same (fun bound hbound => ?_) begun
    change ¬((store.generation sid).any _ = true) at hdrain
    rw [hbound, Option.any_some, Bool.not_eq_true] at hdrain
    rw [hasUnsettledOn_eq] at hdrain ⊢
    rw [← same]
    exact hdrain
  · rename_i input _ begun
    have hfailed : Moves ok { store with input := held } { store with input } [] :=
      .ofInput (quiet_beginRouteClaim begun)
    refine .moves (hheld.trans (hfailed.trans (moves_abandonPromotion nowMs ?_)))
    -- The lane that could not claim has lost the route it needs, and hands nothing over.
    intro token _ hauthority
    obtain ⟨hrequired, hroute⟩ := unrouted_beginRouteClaim begun
    refine absurd ?_ (hauthority ((routeRequired_eq _ sid).trans hrequired))
    rw [routeEpochFor_eq, InputLane.epochFor, hroute]
    rfl

/-- A candidate that claims no route is elected at once, unless its session needs one. -/
def electsUnclaimed (store : TerminalStore) (sessionId : String) (attemptId : Nat)
    (candidate : TerminalToken) : Bool :=
  (store.routes.promotable sessionId attemptId candidate).isOk &&
    ((store.heldPromotion sessionId).filter fun promotion =>
      decide (promotion.attemptId = attemptId)).isNone &&
    !store.claimsInputRoute candidate

/-- Advancing a promotion is a step when what it elects is allowed. -/
theorem step_advancePromotion (hstand : store.Standing) {cand : TerminalToken}
    (hallow : store.electsUnclaimed sid attemptId cand = true →
      (store.routeRequired sid = true → store.Hands ok sid) ∧
        (store.routeRequired sid = false → ok (.elected (store.input.outstanding sid) cand))) :
    CallStep ok store (store.advancePromotion sid attemptId cand nowMs).1
      (store.advancePromotion sid attemptId cand nowMs).2 := by
  unfold electsUnclaimed at hallow
  unfold advancePromotion
  split
  · exact .moves (.done store)
  rename_i hprom
  rw [hprom] at hallow
  split
  · rename_i promotion hheld
    split
    · exact .moves (.done store)
    · exact step_drainThenClaim store (.refl _) rfl
  rename_i hnone
  rw [hnone] at hallow
  split
  · rename_i hunclaimed
    obtain ⟨hhands, helects⟩ := hallow (by rw [hunclaimed]; rfl)
    split
    · rename_i hrequired
      exact .moves (moves_abandonPromotion nowMs (hhands hrequired).releases)
    · rename_i hrequired
      rw [Bool.not_eq_true] at hrequired
      exact .moves (moves_commitCandidate hstand hprom
        (fun _ => (routeRequired_eq store sid).symm.trans hrequired) (helects hrequired)).1
  exact step_drainThenClaim store ⟨.call _ (.holdForPromotion sid attemptId cand nowMs),
      tame_holdLane _ _ (fun _ => rfl) fun _ => rfl⟩ (outstanding_holdForPromotion _ _ _ _ _ _)

/-- Resuming a held promotion is a step when what it hands back is allowed. -/
theorem step_resumeHeldPromotion (hstand : store.Standing)
    (hunstaged : ∀ promotion, store.heldPromotion sid = some promotion →
      (store.routes.candidates.lookup sid).any (fun cand =>
        decide (cand.attemptId = promotion.attemptId)) = false → store.Hands ok sid) :
    CallStep ok store (store.resumeHeldPromotion sid nowMs).1
      (store.resumeHeldPromotion sid nowMs).2 := by
  unfold resumeHeldPromotion
  split
  · exact .moves (.done store)
  rename_i promotion hheld
  dsimp only
  split
  · rename_i hgone
    rw [Bool.not_eq_true'] at hgone
    exact .moves (moves_abandonPromotion nowMs (hunstaged promotion hheld hgone).releases)
  · split
    · exact .moves (.done store)
    · -- The promotion that is held is this one, so nothing is elected unclaimed.
      refine step_advancePromotion hstand fun helects => absurd helects ?_
      simp [electsUnclaimed, hheld]

/-! ## Answers to claims -/

/-- The claim an answer accepts: it is in flight, and the answer is its own in every field. -/
def acceptedClaim (store : TerminalStore) (token : TerminalToken) (result : InputRouteResult) :
    Option InputClaim :=
  (store.input.laneOrNew result.sessionId).claims.inFlight.filter fun claim =>
    decide (claim.requestId = result.requestId) && claim.token.sameConnection token &&
      decide (result.revision = claim.revision) && decide (result.workerEpoch = claim.workerEpoch) &&
      (result.accepted && decide (result.inputRouteEpoch ≠ ""))

variable {result : InputRouteResult}

theorem acceptedClaim_of_settled
    {settlement : ClaimSettlement}
    (h : store.input.settleRouteClaim token result nowMs = (input, some settlement)) :
    store.acceptedClaim token result =
      match settlement with
      | .accepted claim => some claim
      | _ => none := by
  unfold settleRouteClaim at h
  dsimp only at h
  split at h
  · cases h
  rename_i lane found hfound
  obtain ⟨lane', hlook, hmap⟩ := Option.bind_eq_some_iff.mp hfound
  obtain ⟨claim', hclaim, heq⟩ := Option.map_eq_some_iff.mp hmap
  cases heq
  obtain ⟨hfly, hmatches⟩ := Option.filter_eq_some_iff.mp hclaim
  rw [Bool.and_eq_true, decide_eq_true_eq] at hmatches
  unfold acceptedClaim
  rw [laneOrNew_lookup hlook, hfly, Option.filter_some]
  simp only [hmatches.1, hmatches.2, decide_true, Bool.true_and]
  split at h
  · rename_i hinvalid
    cases h
    refine if_neg fun haccepts => ?_
    simp only [Bool.and_eq_true, decide_eq_true_eq] at haccepts
    rcases hinvalid with hrev | hepoch
    · exact hrev haccepts.1.1
    · exact hepoch haccepts.1.2
  rename_i hvalid
  rw [not_or, not_not, not_not] at hvalid
  simp only [hvalid.1, hvalid.2, decide_true, Bool.true_and]
  split at h
  · rename_i haccepted
    cases h
    simp [haccepted.1, haccepted.2]
  · rename_i hrefused
    have hnot : ¬(result.accepted && decide (result.inputRouteEpoch ≠ "")) = true := by
      rwa [Bool.and_eq_true, decide_eq_true_eq]
    rw [if_neg hnot]
    split at h
    · cases h
      rfl
    · cases h
      rfl

/-- What an answer to a claim may cross: its batches go out on the route it names, a promotion
that it ends is elected or abandoned. -/
def answerCrossings (store : TerminalStore) (token : TerminalToken) (result : InputRouteResult) :
    List Crossing :=
  match store.acceptedClaim token result with
  | none =>
    if (store.input.laneOrNew result.sessionId).claims.inFlight.any fun claim =>
        claim.attemptId.isSome then
      store.handedCrossings result.sessionId
    else []
  | some claim =>
    match claim.attemptId with
    | none =>
      [.resumed (store.inputDestination result.sessionId) token,
        .handed (store.generation result.sessionId) token]
    | some attemptId =>
      if (store.routes.promotable result.sessionId attemptId claim.token).isOk then
        [.elected (store.input.outstanding result.sessionId) claim.token]
      else store.handedCrossings result.sessionId

/-- Settling a claim's answer is a step when its crossings are allowed. -/
theorem step_settleRouteResult (hstand : store.Standing)
    (hallow : ∀ crossing ∈ store.answerCrossings token result, ok crossing) :
    CallStep ok store (store.settleRouteResult token result nowMs).1
      (store.settleRouteResult token result nowMs).2 := by
  have hanswered := answered_settleRouteClaim store.input token result nowMs
  have hreaches : store.input.Reaches (store.input.settleRouteClaim token result nowMs).1 :=
    .call _ (.settleRouteClaim token result nowMs)
  unfold answerCrossings at hallow
  unfold settleRouteResult
  generalize hset : store.input.settleRouteClaim token result nowMs = settled at *
  cases hanswered with
  | stray => exact .moves (.done store)
  | @refused later claim reason inFlight tame =>
    have hrefused : Moves ok store { store with input := later } [] := .ofInput ⟨hreaches, tame⟩
    rw [acceptedClaim_of_settled hset, inFlight, Option.any_some] at hallow
    dsimp only at hallow ⊢
    split
    · rename_i hprom
      rw [hprom, Option.isSome_some, if_pos rfl] at hallow
      have hhands : Hands ok { store with input := later } result.sessionId :=
        hands_of_crossings hallow
      exact .moves (hrefused.trans (moves_abandonPromotion nowMs hhands.releases))
    · exact .moves (hrefused.trans (moves_deferOrBlockFallback _ result.sessionId nowMs))
  | retried => exact .retries hset
  | @accepted later claim inFlight epoch arrived lanes =>
    have hack : Move ok store { store with input := later }
        [.routeAcknowledged result.sessionId claim.token result.inputRouteEpoch] :=
      .acknowledged hset
    rw [acceptedClaim_of_settled hset] at hallow
    dsimp only at hallow
    refine .moves (Moves.andThen hack.moves ?_)
    split
    · rename_i hattempt
      rw [hattempt] at hallow
      dsimp only at hallow
      split
      · rename_i hprom
        rw [hprom] at hallow
        have hhands : Hands ok { store with input := later } result.sessionId :=
          hands_of_crossings hallow
        exact moves_abandonPromotion nowMs hhands.releases
      rename_i hprom
      have hidle : (later.laneOrNew result.sessionId).phase = .sending →
          (later.laneOrNew result.sessionId).claims.required = false := by
        intro hsend
        rw [lanes, if_pos rfl] at hsend
        cases hsend
      have hsame : later.outstanding result.sessionId =
          store.input.outstanding result.sessionId := by
        rw [outstanding_eq, outstanding_eq, lanes, if_pos rfl]
        rfl
      have helects : ok (.elected (later.outstanding result.sessionId) claim.token) := by
        change store.routes.promotable _ _ _ = _ at hprom
        rw [hprom] at hallow
        rw [hsame]
        exact hallow _ (List.mem_singleton_self _)
      obtain ⟨hcommit, hbound⟩ := moves_commitCandidate (hstand.move hack) hprom hidle helects
      -- The commit bound the replica to the claim's own token.
      refine .andThen hcommit (moves_releaseHeldOnto nowMs (.inl fun held hheld => ?_)
        fun _ => .inl hbound)
      rw [inputDestination, hbound, Option.some_or] at hheld
      cases hheld
      exact claim.token.sameConnection_self
    · rename_i hfallback
      rw [hfallback] at hallow
      exact moves_releaseHeldOnto nowMs (.inr (hallow _ List.mem_cons_self))
        fun _ => .inr (hallow _ (List.mem_cons_of_mem _ (List.mem_singleton_self _)))

/-! ## Claims that end unanswered -/

/-- Promotions whose claims go unanswered are abandoned. -/
def unansweredCrossings (store : TerminalStore) (claims : List InputClaim) : List Crossing :=
  (claims.filter fun claim => claim.attemptId.isSome).flatMap fun claim =>
    store.handedCrossings claim.sessionId

theorem bindings_abandonPromotion (store : TerminalStore) (sid : String) (nowMs : Nat) :
    (store.abandonPromotion sid nowMs).1.terminal = store.terminal ∧
      (store.abandonPromotion sid nowMs).1.sync = store.sync := by
  unfold abandonPromotion
  split
  · exact ⟨rfl, rfl⟩
  dsimp only [Emitted.andThen]
  have hreleased : ∀ later : TerminalStore,
      (later.recoverOrRelease sid ‹_› nowMs).1.terminal = later.terminal ∧
        (later.recoverOrRelease sid ‹_› nowMs).1.sync = later.sync := by
    intro later
    unfold recoverOrRelease releaseHeldOnto blockLane
    split
    · exact ⟨rfl, rfl⟩
    split
    · split <;> exact ⟨rfl, rfl⟩
    · exact ⟨rfl, rfl⟩
  split <;> exact hreleased _

theorem moves_endUnansweredClaim {claim : InputClaim} (nowMs : Nat)
    (hhands : claim.attemptId.isSome = true → store.Hands ok claim.sessionId) :
    MovesTo ok store (endUnansweredClaim nowMs claim store) := by
  unfold endUnansweredClaim
  split
  · rename_i hprom
    exact moves_abandonPromotion nowMs (hhands (by rw [hprom]; rfl)).releases
  · exact moves_deferOrBlockFallback store claim.sessionId nowMs

/-- Claims that end unanswered leave every replica bound as it was. -/
theorem moves_endUnansweredClaims {claims : List InputClaim} (nowMs : Nat)
    (hallow : ∀ crossing ∈ store.unansweredCrossings claims, ok crossing) :
    MovesTo ok store (forEach (endUnansweredClaim nowMs) claims store) := by
  refine .forEachOf (fun later => later.terminal = store.terminal ∧ later.sync = store.sync)
    (fun claim hclaim later hsame => ⟨moves_endUnansweredClaim nowMs fun hprom => ?_, ?_⟩)
    ⟨rfl, rfl⟩
  · have hhands : store.Hands ok claim.sessionId := hands_of_crossings fun crossing hcross =>
      hallow crossing (List.mem_flatMap.mpr ⟨claim, List.mem_filter.mpr ⟨hclaim, hprom⟩, hcross⟩)
    intro token hdest
    unfold inputDestination generation at hdest
    unfold generation
    rw [hsame.1, hsame.2] at hdest
    rw [hsame.1]
    exact hhands token hdest
  · unfold endUnansweredClaim
    split
    · obtain ⟨hterminal, hsync⟩ := bindings_abandonPromotion later claim.sessionId nowMs
      exact ⟨hterminal.trans hsame.1, hsync.trans hsame.2⟩
    · unfold deferOrBlockFallback blockLane
      dsimp only
      split <;> exact hsame

theorem moves_expireRouteClaims (nowMs : Nat) (hallow : ∀ crossing ∈
      store.unansweredCrossings (store.input.expireRouteClaims nowMs).2, ok crossing) :
    MovesTo ok store (store.expireRouteClaims nowMs) := by
  have htaken : Moves ok store { store with input := (store.input.expireRouteClaims nowMs).1 } [] :=
    .ofInput ⟨.call _ (.expireRouteClaims nowMs), tame_takeClaims _ _⟩
  exact htaken.trans (moves_endUnansweredClaims nowMs hallow)

theorem moves_rejectSyncClaims (socketGeneration : UInt64) (nowMs : Nat) (hallow : ∀ crossing ∈
      store.unansweredCrossings (store.input.rejectSyncClaims socketGeneration).2, ok crossing) :
    MovesTo ok store (store.rejectSyncClaims socketGeneration nowMs) := by
  have htaken : Moves ok store
      { store with input := (store.input.rejectSyncClaims socketGeneration).1 } [] :=
    .ofInput ⟨.call _ (.rejectSyncClaims socketGeneration), tame_takeClaims _ _⟩
  exact htaken.trans (moves_endUnansweredClaims nowMs hallow)

end TerminalStore

end Roost.Client
