-- SUMMARY: When a promotion claims past batches on another connection.
import Roost.Client.TerminalRuns

/-!
# What a promotion waits for

A promotion waits until nothing that was handed over on the old route is unanswered. The old
route is the token the replica is bound to at that moment, compared whole; a batch remembers the
token it was handed over on. The two agree as long as batches go out on the token the replica is
bound to, and the replica is bound anew only when nothing else is left unanswered. When the Sync
socket's terminal domain is announced again and the replica is bound to it, the batches of the
domain before ride the same socket and are looked for under another token, and the promotion
claims past them.
-/

namespace Roost.Client

open Roost.Cell

/-- A batch is unsent, or it went out on this very token. -/
def PendingInput.ridesOnly (pending : PendingInput) (token : TerminalToken) : Bool :=
  !pending.started || decide (pending.fence = some token)

namespace InputRouter

variable (router : InputRouter)

/-- No batch of a session is unanswered on another connection. -/
def Drained (sessionId : String) (token : TerminalToken) : Prop :=
  ∀ pending ∈ router.outstanding sessionId, pending.started = true →
    pending.fencedOn (fun fence => fence.sameConnection token) = true
  deriving Decidable

/-- Nothing of a session is unanswered. -/
def Unsent (sessionId : String) : Prop :=
  ∀ pending ∈ router.outstanding sessionId, pending.started = false

/-- With nothing unanswered, any token is drained. -/
theorem Unsent.drained {router : InputRouter} {sid : String}
    (h : router.Unsent sid) (token : TerminalToken) : router.Drained sid token := by
  intro pending hpending hstarted
  rw [h pending hpending] at hstarted
  cases hstarted

/-- Every promotion claim in flight holds its session's lane, of which nothing is unanswered. -/
def Awaits : Prop :=
  ∀ ⦃sessionId claim⦄, (router.laneOrNew sessionId).claims.inFlight = some claim →
    claim.attemptId.isSome = true →
    claim.sessionId = sessionId ∧ (router.laneOrNew sessionId).phase ≠ .sending ∧
      router.Unsent sessionId

variable {router later : InputRouter}

/-- A router keeps what it awaits when every lane does, or has no promotion claim in flight. -/
theorem Awaits.of_lanes (h : router.Awaits)
    (lanes : ∀ sid claim, (later.laneOrNew sid).claims.inFlight = some claim →
      claim.attemptId.isSome = true →
      (∃ held, (router.laneOrNew sid).claims.inFlight = some held ∧
        held.attemptId = claim.attemptId ∧ held.sessionId = claim.sessionId) ∧
        ((later.laneOrNew sid).phase = .sending →
          (router.laneOrNew sid).phase = .sending) ∧
        ∀ pending ∈ later.outstanding sid, pending.started = true →
          pending ∈ router.outstanding sid) : later.Awaits := by
  intro sid claim hflying hprom
  obtain ⟨⟨_, hheld, hattempt, hsession⟩, hphase, hkept⟩ := lanes sid claim hflying hprom
  obtain ⟨hsame, hstopped, hunsent⟩ := h hheld (hattempt ▸ hprom)
  refine ⟨hsession.symm.trans hsame, fun hsend => hstopped (hphase hsend), fun pending hpending => ?_⟩
  by_contra hstarted
  rw [Bool.not_eq_false] at hstarted
  have hleft := hunsent pending (hkept pending hpending hstarted)
  rw [hstarted] at hleft
  cases hleft

theorem Awaits.of_tame (h : router.Awaits) (tame : router.Tame later) : later.Awaits := by
  refine h.of_lanes fun sid claim hflying _ => ?_
  have hlane := @tame sid
  rw [outstanding_eq, outstanding_eq]
  refine ⟨⟨claim, ?_, rfl, rfl⟩, hlane.sending, hlane.started⟩
  rcases hlane.claim with hnone | hkept
  · rw [hnone] at hflying
    cases hflying
  · exact hkept ▸ hflying

theorem Awaits.dispatchStartable (h : router.Awaits) (hsane : router.Sane) (sid : String)
    (token : TerminalToken) (nowMs : Nat) : (router.dispatchStartable sid token nowMs).1.Awaits := by
  intro other claim hflying hprom
  unfold Unsent
  rw [outstanding_eq]
  rcases laneOrNew_dispatchStartable hsane sid token nowMs other with
    hsame | ⟨-, hsend, pending, hhanded⟩
  · rw [hsame] at hflying ⊢
    rw [← outstanding_eq]
    exact h hflying hprom
  · -- A lane that hands batches over sends, and has no promotion claim in flight.
    rw [hhanded] at hflying
    exact absurd hsend (h hflying hprom).2.1

theorem Awaits.releaseHeld (h : router.Awaits) (sid : String) :
    (router.releaseHeld sid).1.Awaits := by
  intro other claim hflying hprom
  unfold Unsent
  rw [outstanding_eq]
  rcases laneOrNew_releaseHeld router sid other with hsame | ⟨-, hreleased⟩
  · rw [hsame] at hflying ⊢
    rw [← outstanding_eq]
    exact h hflying hprom
  · rw [hreleased] at hflying
    cases hflying

variable {sid : String} {token : TerminalToken} {nowMs : Nat} {claim : InputClaim}

/-- A claim that is begun awaits its answer when nothing of the session is unanswered. -/
theorem Awaits.claims (h : router.Awaits) {workerEpoch : String} {attemptId : Option Nat}
    (hunsent : attemptId.isSome = true → router.Unsent sid)
    (begun : router.beginRouteClaim sid token workerEpoch attemptId nowMs = (later, .ok claim)) :
    later.Awaits := by
  obtain ⟨hsession, -, hattempt, -, -, hlanes⟩ := beginRouteClaim_ok begun
  intro other found hflying hprom
  unfold Unsent
  rw [outstanding_eq]
  rw [hlanes] at hflying ⊢
  split at hflying
  · rename_i heq
    cases hflying
    rw [if_pos heq, heq]
    refine ⟨hsession, nofun, fun pending hpending => hunsent (hattempt ▸ hprom) pending ?_⟩
    rw [outstanding_eq]
    exact hpending
  · rename_i hne
    rw [if_neg hne, ← outstanding_eq]
    exact h hflying hprom

variable {result : InputRouteResult}

theorem Awaits.accepted (h : router.Awaits)
    (settled : router.settleRouteClaim token result nowMs = (later, some (.accepted claim))) :
    later.Awaits := by
  have hanswered := answered_settleRouteClaim router token result nowMs
  rw [settled] at hanswered
  cases hanswered with
  | accepted inFlight epoch arrived lanes =>
    refine h.of_lanes fun other found hflying _ => ?_
    rw [outstanding_eq, outstanding_eq]
    rw [lanes] at hflying ⊢
    split at hflying
    · cases hflying
    · rename_i hne
      rw [if_neg hne]
      exact ⟨⟨found, hflying, rfl, rfl⟩, fun hsend => hsend, fun _ hpending _ => hpending⟩

/-- A claim that goes out once more is the same promotion's, and awaits as it did. -/
theorem Awaits.retried (h : router.Awaits)
    (settled : router.settleRouteClaim token result nowMs = (later, some (.retry claim))) :
    later.Awaits ∧ (claim.attemptId.isSome = true → router.Unsent claim.sessionId) := by
  have hanswered := answered_settleRouteClaim router token result nowMs
  rw [settled] at hanswered
  cases hanswered with
  | @retried _ first _ inFlight same newer ceiling lanes =>
    obtain ⟨hsession, -, hattempt⟩ := same
    constructor
    · refine h.of_lanes fun other found hflying _ => ?_
      rw [outstanding_eq, outstanding_eq]
      rw [lanes] at hflying ⊢
      split at hflying
      · rename_i heq
        subst heq
        cases hflying
        rw [if_pos rfl]
        exact ⟨⟨first, inFlight, hattempt.symm, hsession.symm⟩, fun hsend => hsend,
          fun _ hpending _ => hpending⟩
      · rename_i hne
        rw [if_neg hne]
        exact ⟨⟨found, hflying, rfl, rfl⟩, fun hsend => hsend, fun _ hpending _ => hpending⟩
    · intro hprom
      obtain ⟨hheld, -, hunsent⟩ := h inFlight (hattempt ▸ hprom)
      rw [hsession, hheld]
      exact hunsent

/-- A batch outstanding after a dispatch was so before, or went out in it. -/
theorem mem_dispatchStartable (hsane : router.Sane) {sid other : String} {token : TerminalToken}
    {nowMs : Nat} {pending : PendingInput}
    (h : pending ∈ (router.dispatchStartable sid token nowMs).1.outstanding other) :
    pending ∈ router.outstanding other ∨
      other = sid ∧ (router.laneOrNew sid).phase = .sending ∧ pending.fence = some token := by
  rw [(edits_dispatchStartable hsane sid token nowMs).outstanding] at h
  obtain ⟨_, hbatch, rfl⟩ := List.mem_map.mp h
  split
  · rename_i hseq
    obtain ⟨_, hhanded, hsame⟩ := List.mem_map.mp hseq
    have hheld := List.mem_of_mem_filter ((startable_sublist router sid).subset hhanded)
    refine .inr ⟨hsane.apart hbatch hheld hsame.symm, sending_of_startable hhanded, rfl⟩
  · exact .inl hbatch

end InputRouter

/-! ## What a batch is fenced on -/

/-- Every batch that is unanswered went out on the token its session's replica is bound to. -/
def TerminalStore.Fenced (store : TerminalStore) : Prop :=
  ∀ ⦃sessionId pending⦄, pending ∈ store.input.outstanding sessionId → pending.started = true →
    ∃ bound, store.generation sessionId = some bound ∧ pending.fence = some bound

/-- Batches go out on the token the replica is bound to, and a replica is bound to a token, by a
view, by cells or by an election, only when no batch is unanswered on another. -/
def Crossing.keepsFences : Crossing → Bool
  | .handed generation token => decide (generation = some token)
  | .turned lane token => lane.pending.all fun pending => pending.ridesOnly token
  | .elected outstanding token => outstanding.all fun pending => pending.ridesOnly token
  | _ => true

variable {store next : TerminalStore} {effects : List TerminalEffect}

namespace TerminalStore

variable (h : store.Fenced)
include h

/-- What has not gone out since, of a replica bound as before, is fenced as before. -/
theorem Fenced.of_same
    (kept : ∀ sid, ∀ pending ∈ next.input.outstanding sid, pending.started = true →
      pending ∈ store.input.outstanding sid)
    (bound : ∀ sid, next.generation sid = store.generation sid) :
    next.Fenced := by
  intro sid pending hpending hstarted
  rw [bound]
  exact h (kept sid pending hpending hstarted) hstarted

theorem Fenced.of_input (same : SameInput store next) : next.Fenced :=
  h.of_same (fun _ _ hpending _ => same.input ▸ hpending) same.generation

/-- A dispatch on the token the replica is bound to keeps every batch fenced on it. -/
theorem Fenced.dispatchStartable (hsane : store.input.Sane) {sid : String}
    {token : TerminalToken} (nowMs : Nat)
    (bound : (store.input.laneOrNew sid).phase = .sending → store.generation sid = some token) :
    (store.dispatchStartable sid token nowMs).1.Fenced := by
  intro other pending hpending hstarted
  rcases InputRouter.mem_dispatchStartable hsane hpending with
    hheld | ⟨rfl, hsend, hfence⟩
  · exact h hheld hstarted
  · exact ⟨token, bound hsend, hfence⟩

theorem Fenced.of_lanes {input : InputRouter} (lanes : ∀ sid, (input.laneOrNew sid).pending =
      (store.input.laneOrNew sid).pending) : { store with input : TerminalStore }.Fenced := by
  refine h.of_same (fun sid pending hpending _ => ?_) fun _ => rfl
  rw [InputRouter.outstanding_eq] at hpending ⊢
  rwa [lanes] at hpending

/-- Nothing is unanswered on a route the store finds drained. -/
theorem Fenced.unsent {sid : String} (drained : ∀ bound, store.generation sid = some bound →
      store.input.hasUnsettledOn sid bound = false) : store.input.Unsent sid := by
  intro pending hpending
  by_contra hstarted
  rw [Bool.not_eq_false] at hstarted
  obtain ⟨bound, hbound, hfence⟩ := h hpending hstarted
  have hclear := drained bound hbound
  rw [hasUnsettledOn_eq, List.any_eq_false] at hclear
  exact hclear pending hpending (by simp [hstarted, PendingInput.fencedOn, hfence])

end TerminalStore

variable {token : TerminalToken}

theorem bound_of_handsTo {generation : Option TerminalToken}
    (h : HandsTo (fun crossing => crossing.keepsFences = true) generation token) :
    generation = some token := by
  rcases h with hbound | hallowed
  · exact hbound
  · exact of_decide_eq_true hallowed

theorem fence_of_ridesOnly {outstanding : List PendingInput}
    (h : (outstanding.all fun pending => pending.ridesOnly token) = true) {pending : PendingInput}
    (hpending : pending ∈ outstanding) (hstarted : pending.started = true) :
    pending.fence = some token := by
  have hrides := List.all_eq_true.mp h pending hpending
  rw [PendingInput.ridesOnly, hstarted, Bool.not_true, Bool.false_or] at hrides
  exact of_decide_eq_true hrides

/-- A move that keeps fences keeps every batch fenced on its replica's token. -/
theorem Move.fenced (move : Move (fun crossing => crossing.keepsFences = true) store next effects)
    (hstand : store.Standing) (h : store.Fenced) : next.Fenced := by
  cases move with
  | quiet input turned bindings =>
    intro sid pending hpending hstarted
    have hheld : pending ∈ store.input.outstanding sid := by
      rw [InputRouter.outstanding_eq] at hpending ⊢
      exact (@input.tame sid).started pending hpending hstarted
    obtain ⟨bound, hbound, hfence⟩ := h hheld hstarted
    -- Bound as before, bound anew by a crossing, or unbound with nothing left.
    rcases bindings sid with hsame | ⟨token, htoken, hallowed⟩ | hsettled
    · exact ⟨bound, hsame.trans hbound, hfence⟩
    · rw [InputRouter.outstanding_eq] at hheld
      exact ⟨token, htoken, fence_of_ridesOnly hallowed hheld hstarted⟩
    · exact absurd hfence (hsettled pending hpending hstarted bound hbound)
  | handed sid token nowMs destination bound =>
    exact h.dispatchStartable hstand.reached.sane nowMs fun hsend => bound_of_handsTo (bound hsend)
  | released sid token nowMs authority destination bound =>
    have hreleased : { store with input := (store.input.releaseHeld sid).1 : TerminalStore }.Fenced := by
      refine h.of_lanes fun other => ?_
      rcases InputRouter.laneOrNew_releaseHeld store.input sid other with hsame | ⟨-, hopened⟩
      · rw [hsame]
      · rw [hopened]
        rfl
    exact hreleased.dispatchStartable
      (hstand.reached.trans (.call _ (.releaseHeld sid))).sane nowMs fun _ => bound_of_handsTo bound
  | claimed begun =>
    obtain ⟨-, -, -, -, -, hlanes⟩ := InputRouter.beginRouteClaim_ok begun
    refine h.of_lanes fun other => ?_
    rw [hlanes]
    split
    · rename_i heq
      rw [heq]
      rfl
    · rfl
  | @acknowledged token result nowMs input claim settled =>
    have hanswered := InputRouter.answered_settleRouteClaim store.input token result nowMs
    rw [settled] at hanswered
    cases hanswered with
    | accepted inFlight epoch arrived lanes =>
      refine h.of_lanes fun other => ?_
      rw [lanes]
      split
      · rename_i heq
        rw [heq]
        rfl
      · rfl
  | staged cand fp same | cancelled sid same | published same | advanced same =>
    exact h.of_input same
  | @elected next effects sid cand repl candidateThere replicaThere input sync idle allowed bound
      generation =>
    intro other pending hpending hstarted
    rw [input] at hpending
    by_cases heq : other = sid
    · subst heq
      exact ⟨cand.token, bound, fence_of_ridesOnly allowed hpending hstarted⟩
    · rw [generation other heq]
      exact h hpending hstarted
  | retired fp same => exact h.of_input same

/-! ## Calls -/

variable {ok : Crossing → Prop}

/-- Only a promotion's own step claims for it. -/
theorem Moves.no_promotion_claim (h : Moves ok store next effects) {claim : InputClaim}
    (hclaim : .routeClaim claim ∈ effects) : claim.attemptId = none := by
  have hplain : ∀ {effects : List TerminalEffect}, (∀ effect ∈ effects, effect.isPlain = true) →
      .routeClaim claim ∉ effects := fun hplain hmem => (by cases hplain _ hmem)
  induction h with
  | done => cases hclaim
  | step move _ ih =>
    rcases List.mem_append.mp hclaim with hclaim | hclaim
    · cases move with
      | quiet input turned bindings cands staged plain => exact absurd hclaim (hplain plain)
      | handed | released =>
        obtain ⟨_, _, heq⟩ := List.mem_map.mp hclaim
        cases heq
      | claimed begun =>
        cases List.mem_singleton.mp hclaim
        exact (InputRouter.beginRouteClaim_ok begun).2.2.1
      | acknowledged => cases List.mem_singleton.mp hclaim
      | staged cand fp same free unminted unready cands replicas plain =>
        exact absurd hclaim (hplain plain)
      | cancelled =>
        obtain ⟨_, _, hwithdrawn⟩ := List.mem_flatMap.mp hclaim
        obtain ⟨_, _, heq⟩ := List.mem_map.mp hwithdrawn
        cases heq
      | published => cases List.mem_singleton.mp hclaim
      | advanced same candidateThere replicaThere kept published serves bound ready cands replicas
          plain => exact absurd hclaim (hplain plain)
      | elected candidateThere replicaThere input sync idle allowed bound gen cands replicas plain =>
        rcases List.mem_cons.mp hclaim with heq | hclaim
        · cases heq
        · exact absurd hclaim (hplain plain)
      | retired => cases hclaim
    · exact ih hclaim

/-- No move has a promotion claim in flight past an unanswered batch. -/
theorem Move.awaits (move : Move ok store next effects) (hstand : store.Standing)
    (h : store.input.Awaits) : next.input.Awaits := by
  cases move with
  | quiet input => exact h.of_tame input.tame
  | handed sid token nowMs =>
    exact h.dispatchStartable hstand.reached.sane sid token nowMs
  | released sid token nowMs =>
    have hreleased : (store.input.releaseHeld sid).1.Sane :=
      (hstand.reached.trans (.call _ (.releaseHeld sid))).sane
    exact (h.releaseHeld sid).dispatchStartable hreleased sid token nowMs
  | claimed begun => exact h.claims (fun hprom => by cases hprom) begun
  | acknowledged settled => exact h.accepted settled
  | staged cand fp same =>
    exact same.input ▸ h
  | cancelled sid same | published same | advanced same => exact same.input ▸ h
  | elected candidateThere replicaThere input =>
    exact input ▸ h
  | retired fp same => exact same.input ▸ h

/-- The two invariants of a run: batches are fenced where their replicas are bound, and promotion
claims await their answers with nothing unanswered. -/
structure TerminalStore.Drains (store : TerminalStore) : Prop where
  fenced : store.Fenced
  awaits : store.input.Awaits

/-- Moves that keep fences keep both invariants. -/
theorem Moves.drains
    (moves : Moves (fun crossing => crossing.keepsFences = true) store next effects)
    (hstand : store.Standing) (h : store.Drains) : next.Drains := by
  induction moves with
  | done => exact h
  | step move _ ih =>
    exact ih (hstand.move move) ⟨move.fenced hstand h.fenced, move.awaits hstand h.awaits⟩

/-- A call that keeps fences keeps both invariants, and claims for a promotion only when nothing
of the session is unanswered. -/
theorem CallStep.drains
    (step : CallStep (fun crossing => crossing.keepsFences = true) store next effects)
    (hstand : store.Standing) (h : store.Drains) :
    next.Drains ∧ ∀ claim, .routeClaim claim ∈ effects → claim.attemptId.isSome = true →
      store.input.Unsent claim.sessionId := by
  cases step with
  | moves moves =>
    refine ⟨moves.drains hstand h, fun claim hclaim hprom => ?_⟩
    rw [moves.no_promotion_claim hclaim] at hprom
    cases hprom
  | @promotes sid token workerEpoch attemptId nowMs held input claim hold same drained begun =>
    have hunsent := h.fenced.unsent drained
    have hheld : held.Unsent sid := by
      unfold InputRouter.Unsent
      rw [same]
      exact hunsent
    obtain ⟨hsession, -, -, -, -, hlanes⟩ := InputRouter.beginRouteClaim_ok begun
    refine ⟨⟨?_, (h.awaits.of_tame hold.tame).claims (fun _ => hheld) begun⟩, ?_⟩
    · refine h.fenced.of_same (fun other pending hpending hstarted => ?_) fun _ => rfl
      rw [InputRouter.outstanding_eq] at hpending ⊢
      refine (@hold.tame other).started pending ?_ hstarted
      rw [hlanes] at hpending
      split at hpending
      · rename_i heq
        exact heq ▸ hpending
      · exact hpending
    intro found hfound _
    cases List.mem_singleton.mp hfound
    rw [hsession]
    exact hunsent
  | @retries token result nowMs input claim settled =>
    obtain ⟨hawaits, hunsent⟩ := h.awaits.retried settled
    refine ⟨⟨?_, hawaits⟩, fun found hfound hprom => ?_⟩
    · have hanswered := InputRouter.answered_settleRouteClaim store.input token result nowMs
      rw [settled] at hanswered
      cases hanswered with
      | retried inFlight same newer ceiling lanes =>
        refine h.fenced.of_lanes fun other => ?_
        rw [lanes]
        split
        · rename_i heq
          rw [heq]
        · rfl
    · cases List.mem_singleton.mp hfound
      exact hunsent hprom

/-! ## Runs -/

theorem TerminalStore.Drains.new : TerminalStore.Drains .new where
  fenced sid pending hpending := by cases hpending
  awaits sid claim hflying := by cases hflying

/-- In a run whose calls keep fences, a promotion's claim is sent only when nothing is unanswered
on another connection, and while it is unanswered nothing is. -/
theorem promotion_claims_drained (sizes : Sizes) (calls : List TerminalCall) (call : TerminalCall)
    (h : (terminalStore sizes).Along (Meets fun crossing => crossing.keepsFences = true) .new
      (calls ++ [call])) :
    (∀ claim,
        .routeClaim claim ∈ (terminalStore sizes).answer ((terminalStore sizes).run .new calls) call →
        claim.attemptId.isSome = true →
        ((terminalStore sizes).run .new calls).input.Drained claim.sessionId claim.token) ∧
      ∀ sid claim, (((terminalStore sizes).run .new (calls ++ [call])).input.laneOrNew
          sid).claims.inFlight = some claim → claim.attemptId.isSome = true →
        ((terminalStore sizes).run .new (calls ++ [call])).input.Drained sid claim.token := by
  rw [Transducer.along_concat] at h
  obtain ⟨hstand, hdrains⟩ := run_keeps sizes (P := fun _ store => store.Drains) .new
    (fun hstand h step => (step.drains hstand h).1) h.1
  obtain ⟨hnext, hclaims⟩ := (TerminalStore.step_call sizes hstand call h.2).drains hstand hdrains
  refine ⟨fun claim hclaim hprom => (hclaims claim hclaim hprom).drained _, ?_⟩
  intro sid claim hflying hprom
  rw [Transducer.run_concat] at hflying ⊢
  exact (hnext.awaits hflying hprom).2.2.drained _

/-- A keystroke is answered before the promotion that waits for it claims. -/
def drainsFirst : List TerminalCall :=
  opensOnSync ++ [types 15] ++ stagesPeer ++ [readiesPeer, .advanceCandidate "session-1" 70,
    .syncInputResult "session-1" 1 (.accepted 1 1) none 80]

theorem promotion_claims_drained_sync :
    ((terminalStore wireSizes).run .new drainsFirst).input.Drained "session-1" peerToken :=
  (promotion_claims_drained wireSizes drainsFirst (.resumeHeldPromotion "session-1" 90)
    (by decide +kernel)).1 (peerClaim 90) (by decide +kernel) rfl

/-- The terminal domain is announced again while a keystroke is unanswered on its socket. -/
def resetsDomain : List TerminalCall :=
  opensOnSync ++ [types 15] ++ stagesPeer ++ [readiesPeer, .terminalDomainReset 1 8,
    .terminalDomainReady 1, .publishView "session-1" paneView 60]

/-- After it the promotion claims at once, the keystroke still unanswered. -/
theorem promotion_claims_undrained : ¬∀ calls call claim, .routeClaim claim ∈
        (terminalStore wireSizes).answer ((terminalStore wireSizes).run .new calls) call →
      claim.attemptId.isSome = true →
      ((terminalStore wireSizes).run .new calls).input.Drained claim.sessionId claim.token := by
  intro h
  have hdrain := h resetsDomain (.advanceCandidate "session-1" 70) (peerClaim 70)
    (by decide +kernel) rfl
  exact absurd hdrain (by decide +kernel)

end Roost.Client
