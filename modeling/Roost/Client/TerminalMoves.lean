-- SUMMARY: The few kinds of move a call on the terminal store is made of.
import Roost.Client.LaneEdits
import Roost.Client.TerminalCalls

/-!
# Moves of the terminal store

Every call on the terminal store is a sequence of moves: calls on the router that hand nothing
over, batches handed over, claims sent and answered, and the steps of a staged attempt. What is
claimed of every run is checked move by move.

Some moves are crossings: a condition on a run may forbid them.
-/

namespace Roost.Client

open Roost.Cell

/-- A move that a condition may be about. -/
inductive Crossing where
  /-- A session's input is turned onto a connection. -/
  | turned (lane : InputLane) (token : TerminalToken)
  /-- A fallback's claim is accepted on a token, while the session's input goes here. -/
  | resumed (destination : Option TerminalToken) (token : TerminalToken)
  /-- Batches go out on a token, their session's replica bound to a generation. -/
  | handed (generation : Option TerminalToken) (token : TerminalToken)
  /-- A candidate becomes the session's route, and its replica the session's. -/
  | elected (outstanding : List PendingInput) (token : TerminalToken)
  | retired (attempts : List PromotionCandidate)

/-- The effects no claim of this development is about. -/
def TerminalEffect.isPlain : TerminalEffect → Bool
  | .sent _ | .mintViewId .. | .closeDirectCarriers _ => true
  | _ => false

def PromotionCandidate.wireIdOf (candidate : PromotionCandidate) (logicalViewId : String) :
    Option String :=
  (candidate.prospectiveViews.lookup logicalViewId).bind ProspectiveView.wireViewId

/-- A route acknowledged over one connection was acknowledged over the other. -/
def InputLane.CarriesOver (lane : InputLane) (held token : TerminalToken) : Prop :=
  ∀ acknowledged, lane.routeEpochToken = some acknowledged →
    acknowledged.sameConnection held = true → acknowledged.sameConnection token = true

theorem InputLane.CarriesOver.of_same {lane : InputLane} {held token : TerminalToken}
    (h : held.sameConnection token = true) : lane.CarriesOver held token :=
  fun _ _ hheld => TerminalToken.sameConnection_trans hheld h

/-- Two stores that route input alike. -/
structure SameInput (store next : TerminalStore) : Prop where
  input : next.input = store.input
  generation : ∀ sessionId, next.generation sessionId = store.generation sessionId
  sync : next.sync = store.sync

/-- A batch goes out on the token its session's replica is bound to, or by a crossing. -/
def HandsTo (ok : Crossing → Prop) (generation : Option TerminalToken) (token : TerminalToken) :
    Prop := generation = some token ∨ ok (.handed generation token)

/-- A replica stays bound as it was, or is turned, or is unbound with nothing left unanswered on
what it was bound to. -/
def Rebinds (ok : Crossing → Prop) (store next : TerminalStore) (sessionId : String) : Prop :=
  next.generation sessionId = store.generation sessionId ∨
    (∃ token, next.generation sessionId = some token ∧
      ok (.turned (store.input.laneOrNew sessionId) token)) ∨
    ∀ pending ∈ next.input.outstanding sessionId, pending.started = true →
      ∀ bound, store.generation sessionId = some bound → pending.fence ≠ some bound

inductive Move (ok : Crossing → Prop) (store : TerminalStore) :
    TerminalStore → List TerminalEffect → Prop where
  /-- Nothing is handed over, and no attempt changes. -/
  | quiet {next : TerminalStore} {effects : List TerminalEffect}
      (input : store.input.Quiet next.input)
      (turned : ∀ sessionId token, (next.input.laneOrNew sessionId).phase = .sending →
        (next.input.laneOrNew sessionId).claims.required = true →
        next.inputDestination sessionId = some token →
          (∃ held, store.inputDestination sessionId = some held ∧
            (next.input.laneOrNew sessionId).CarriesOver held token) ∨
          ok (.turned (store.input.laneOrNew sessionId) token))
      (bindings : ∀ sessionId, Rebinds ok store next sessionId)
      (candidates : next.routes.candidates = store.routes.candidates)
      (staged : next.routes.staged = store.routes.staged)
      (plain : ∀ effect ∈ effects, effect.isPlain = true) : Move ok store next effects
  /-- Batches are handed over where the session's input goes. -/
  | handed (sessionId : String) (token : TerminalToken) (nowMs : Nat)
      (destination : store.inputDestination sessionId = some token)
      (bound : (store.input.laneOrNew sessionId).phase = .sending →
        HandsTo ok (store.generation sessionId) token) :
      Move ok store (store.dispatchStartable sessionId token nowMs).1
        (store.dispatchStartable sessionId token nowMs).2
  /-- A held lane is opened on a route, and its batches are handed over there. -/
  | released (sessionId : String) (token : TerminalToken) (nowMs : Nat)
      (authority : store.routeRequired sessionId = true →
        store.input.routeEpochFor sessionId token ≠ "")
      (destination : (∀ held, store.inputDestination sessionId = some held →
          token.sameConnection held = true) ∨
        ok (.resumed (store.inputDestination sessionId) token))
      (bound : HandsTo ok (store.generation sessionId) token) :
      Move ok store
        ({ store with input := (store.input.releaseHeld sessionId).1 :
          TerminalStore }.dispatchStartable sessionId token nowMs).1
        ({ store with input := (store.input.releaseHeld sessionId).1 :
          TerminalStore }.dispatchStartable sessionId token nowMs).2
  /-- A fallback's claim goes out. -/
  | claimed {sessionId : String} {token : TerminalToken} {workerEpoch : String} {nowMs : Nat}
      {input : InputRouter} {claim : InputClaim}
      (begun : store.input.beginRouteClaim sessionId token workerEpoch none nowMs =
        (input, .ok claim)) : Move ok store { store with input } [.routeClaim claim]
  /-- The worker acknowledged a claim. -/
  | acknowledged {token : TerminalToken} {result : InputRouteResult} {nowMs : Nat}
      {input : InputRouter} {claim : InputClaim}
      (settled : store.input.settleRouteClaim token result nowMs =
        (input, some (.accepted claim))) :
      Move ok store { store with input }
        [.routeAcknowledged result.sessionId claim.token result.inputRouteEpoch]
  /-- An attempt is staged, with nothing published and no baseline. -/
  | staged {next : TerminalStore} {effects : List TerminalEffect} (candidate : PromotionCandidate)
      (workerFp : String) (same : SameInput store next)
      (free : store.routes.candidates.lookup candidate.sessionId = none)
      (unminted : ∀ logicalViewId, candidate.wireIdOf logicalViewId = none)
      (unready : candidate.baselineReady = false)
      (candidates : ∀ other, next.routes.candidates.lookup other =
        if other = candidate.sessionId then some candidate
        else store.routes.candidates.lookup other)
      (replicas : ∀ other, next.routes.staged.lookup other =
        if other = candidate.sessionId then some (.new candidate.sessionId workerFp)
        else store.routes.staged.lookup other)
      (plain : ∀ effect ∈ effects, effect.isPlain = true) : Move ok store next effects
  /-- A staged attempt is abandoned, and what it published is withdrawn. -/
  | cancelled {next : TerminalStore} (sessionId : String) (same : SameInput store next)
      (candidates : ∀ other, next.routes.candidates.lookup other =
        if other = sessionId then none else store.routes.candidates.lookup other)
      (replicas : ∀ other, other ≠ sessionId →
        next.routes.staged.lookup other = store.routes.staged.lookup other) :
      Move ok store next
        (TerminalStore.releaseCancelled (store.routes.cancelCandidate sessionId).2.toList)
  | published {next : TerminalStore} {sessionId logicalViewId wireViewId : String}
      {candidate later : PromotionCandidate} {replica served : TerminalSession} {intent : ViewIntent}
      {revision : Nat} (same : SameInput store next)
      (candidateThere : store.routes.candidates.lookup sessionId = some candidate)
      (replicaThere : store.routes.staged.lookup sessionId = some replica)
      (prepared : (candidate.prospectiveViews.lookup logicalViewId).isSome = true)
      (fresh : candidate.wireIdOf logicalViewId = none)
      (kept : later.sessionId = candidate.sessionId ∧ later.token = candidate.token)
      (published : ∀ other, later.wireIdOf other =
        if other = logicalViewId then some wireViewId else candidate.wireIdOf other)
      (serves : ∀ other, served.wireViewId other =
        if other = logicalViewId then some wireViewId else replica.wireViewId other)
      (bound : served.generation = some candidate.token)
      (candidates : ∀ other, next.routes.candidates.lookup other =
        if other = sessionId then some later else store.routes.candidates.lookup other)
      (replicas : ∀ other, next.routes.staged.lookup other =
        if other = sessionId then some served else store.routes.staged.lookup other) :
      Move ok store next [.prospectiveView candidate.token sessionId wireViewId intent revision]
  /-- A staged attempt made progress. -/
  | advanced {next : TerminalStore} {effects : List TerminalEffect} {sessionId : String}
      {candidate later : PromotionCandidate} {replica served : TerminalSession}
      (same : SameInput store next)
      (candidateThere : store.routes.candidates.lookup sessionId = some candidate)
      (replicaThere : store.routes.staged.lookup sessionId = some replica)
      (kept : later.sessionId = candidate.sessionId ∧ later.token = candidate.token)
      (published : ∀ logicalViewId, later.wireIdOf logicalViewId = candidate.wireIdOf logicalViewId)
      (serves : ∀ logicalViewId, served.wireViewId logicalViewId = replica.wireViewId logicalViewId)
      (bound : served.generation = replica.generation ∨ served.generation = some candidate.token)
      (ready : later.baselineReady = true →
        candidate.baselineReady = true ∨ served.generation = some candidate.token)
      (candidates : ∀ other, next.routes.candidates.lookup other =
        if other = sessionId then some later else store.routes.candidates.lookup other)
      (replicas : ∀ other, next.routes.staged.lookup other =
        if other = sessionId then some served else store.routes.staged.lookup other)
      (plain : ∀ effect ∈ effects, effect.isPlain = true) : Move ok store next effects
  /-- A staged attempt is now the session's route. -/
  | elected {next : TerminalStore} {effects : List TerminalEffect} {sessionId : String}
      {candidate : PromotionCandidate} {replica : TerminalSession}
      (candidateThere : store.routes.candidates.lookup sessionId = some candidate)
      (replicaThere : store.routes.staged.lookup sessionId = some replica)
      (input : next.input = store.input) (sync : next.sync = store.sync)
      (idle : (store.input.laneOrNew sessionId).phase = .sending →
        (store.input.laneOrNew sessionId).claims.required = false)
      (allowed : ok (.elected (store.input.outstanding sessionId) candidate.token))
      (bound : next.generation sessionId = some candidate.token)
      (generation : ∀ other, other ≠ sessionId → next.generation other = store.generation other)
      (candidates : ∀ other, next.routes.candidates.lookup other =
        if other = sessionId then none else store.routes.candidates.lookup other)
      (replicas : ∀ other, other ≠ sessionId →
        next.routes.staged.lookup other = store.routes.staged.lookup other)
      (plain : ∀ effect ∈ effects, effect.isPlain = true) :
      Move ok store next
        (.elected sessionId candidate.token (replica.orderedViews.map TerminalView.wireViewId) ::
          effects)
  /-- A worker is gone, and the attempts staged on it with it. -/
  | retired {next : TerminalStore} (workerFp : String) (same : SameInput store next)
      (allowed : ok (.retired (store.routes.candidates.values.filter fun candidate =>
        decide (candidate.token.workerFp = some workerFp))))
      (candidates : next.routes.candidates = store.routes.candidates.retain fun _ candidate =>
        decide (candidate.token.workerFp ≠ some workerFp))
      (staged : next.routes.staged = store.routes.staged.retain fun _ replica =>
        decide ((replica.generation.bind TerminalToken.workerFp) ≠ some workerFp)) :
      Move ok store next []

/-- Moves one after another, with all they emitted. -/
inductive Moves (ok : Crossing → Prop) : TerminalStore → TerminalStore → List TerminalEffect → Prop where
  | done (store : TerminalStore) : Moves ok store store []
  | step {store mid next : TerminalStore} {effects more : List TerminalEffect}
      (move : Move ok store mid effects) (rest : Moves ok mid next more) :
      Moves ok store next (effects ++ more)

/-- What a call did is made of moves. -/
abbrev MovesTo (ok : Crossing → Prop) (store : TerminalStore) (emitted : Emitted) : Prop :=
  Moves ok store emitted.1 emitted.2

theorem plain_nil : ∀ effect ∈ ([] : List TerminalEffect), effect.isPlain = true :=
  fun _ hmem => absurd hmem List.not_mem_nil

section Composition

variable {ok : Crossing → Prop} {store mid next : TerminalStore} {effects more : List TerminalEffect}

theorem Move.moves (h : Move ok store next effects) : Moves ok store next effects := by
  have hstep := Moves.step h (.done next)
  rwa [List.append_nil] at hstep

theorem Moves.trans (h : Moves ok store mid effects) (h' : Moves ok mid next more) :
    Moves ok store next (effects ++ more) := by
  induction h with
  | done => exact h'
  | step move _ ih =>
    rw [List.append_assoc]
    exact .step move (ih h')

/-- What one move keeps, every sequence of moves keeps. -/
theorem Moves.keeps {P : List TerminalEffect → TerminalStore → Prop}
    (keep : ∀ {log store next effects}, P log store → Move ok store next effects →
      P (log ++ effects) next)
    (h : Moves ok store next effects) (log : List TerminalEffect) (start : P log store) :
    P (log ++ effects) next := by
  induction h generalizing log with
  | done =>
    rw [List.append_nil]
    exact start
  | step move _ ih =>
    rw [← List.append_assoc]
    exact ih _ (keep start move)

theorem SameInput.destination (h : SameInput store next) (sid : String) :
    next.inputDestination sid = store.inputDestination sid := by
  rw [TerminalStore.inputDestination, TerminalStore.inputDestination, h.generation, h.sync]

end Composition

/-! ## What every move keeps -/

/-- A staged replica shows what its attempt published, on the attempt's token. -/
structure PromotionCandidate.ServedBy (candidate : PromotionCandidate) (replica : TerminalSession) :
    Prop where
  bound : replica.generation = none ∨ replica.generation = some candidate.token
  ready : candidate.baselineReady = true → replica.generation = some candidate.token
  wireIds : ∀ logicalViewId, replica.wireViewId logicalViewId = candidate.wireIdOf logicalViewId

/-- What holds of a store that is reached, whatever calls were made. -/
structure TerminalStore.Standing (store : TerminalStore) : Prop where
  reached : InputRouter.Reaches .new store.input
  attempts : ∀ {sessionId candidate}, store.routes.candidates.lookup sessionId = some candidate →
    candidate.sessionId = sessionId ∧ ∃ replica,
      store.routes.staged.lookup sessionId = some replica ∧ candidate.ServedBy replica

namespace TerminalStore.Standing

variable {ok : Crossing → Prop} {store next : TerminalStore} {effects : List TerminalEffect}

theorem new : Standing TerminalStore.new where
  reached := .refl _
  attempts h := by cases h

variable {found : PromotionCandidate}

theorem attempts_update (h : store.Standing) {sid : String} {candidate : PromotionCandidate}
    {replica : TerminalSession} (hsess : candidate.sessionId = sid)
    (hserved : candidate.ServedBy replica)
    (candidates : ∀ other, next.routes.candidates.lookup other =
      if other = sid then some candidate else store.routes.candidates.lookup other)
    (replicas : ∀ other, next.routes.staged.lookup other =
      if other = sid then some replica else store.routes.staged.lookup other)
    {other : String}
    (hfound : next.routes.candidates.lookup other = some found) :
    found.sessionId = other ∧ ∃ replica,
      next.routes.staged.lookup other = some replica ∧ found.ServedBy replica := by
  rw [candidates] at hfound
  rw [replicas]
  split at hfound
  · rename_i heq
    cases hfound
    rw [if_pos heq]
    exact ⟨hsess.trans heq.symm, replica, rfl, hserved⟩
  · rename_i hne
    rw [if_neg hne]
    exact h.attempts hfound

theorem attempts_end (h : store.Standing) {sid : String}
    (candidates : ∀ other, next.routes.candidates.lookup other =
      if other = sid then none else store.routes.candidates.lookup other)
    (replicas : ∀ other, other ≠ sid →
      next.routes.staged.lookup other = store.routes.staged.lookup other)
    {other : String}
    (hfound : next.routes.candidates.lookup other = some found) :
    found.sessionId = other ∧ ∃ replica,
      next.routes.staged.lookup other = some replica ∧ found.ServedBy replica := by
  rw [candidates] at hfound
  split at hfound
  · cases hfound
  · rename_i hne
    rw [replicas other hne]
    exact h.attempts hfound

theorem move (h : store.Standing) (move : Move ok store next effects) : next.Standing := by
  cases move with
  | quiet input turned bindings candidates staged =>
    exact {
      reached := h.reached.trans input.reaches
      attempts := by
        rw [candidates, staged]
        exact h.attempts }
  | handed sid token nowMs =>
    exact ⟨h.reached.trans (.call _ (.dispatchStartable sid token nowMs)), h.attempts⟩
  | released sid token nowMs =>
    exact ⟨(h.reached.trans (.call _ (.releaseHeld sid))).trans
      (.call _ (.dispatchStartable sid token nowMs)), h.attempts⟩
  | @claimed sid token workerEpoch nowMs input claim begun =>
    refine ⟨?_, h.attempts⟩
    have hinput : input =
        (store.input.beginRouteClaim sid token workerEpoch none nowMs).1 := by rw [begun]
    exact hinput ▸ h.reached.trans
      (.call _ (.beginRouteClaim sid token workerEpoch none nowMs))
  | @acknowledged token result nowMs input claim settled =>
    refine ⟨?_, h.attempts⟩
    have hinput : input = (store.input.settleRouteClaim token result nowMs).1 := by rw [settled]
    exact hinput ▸ h.reached.trans (.call _ (.settleRouteClaim token result nowMs))
  | staged candidate workerFp same free unminted unready candidates replicas =>
    refine ⟨same.input ▸ h.reached, h.attempts_update rfl ?_ candidates replicas⟩
    exact {
      bound := .inl rfl
      ready := fun hready => by rw [unready] at hready; cases hready
      wireIds := fun logicalViewId => (unminted logicalViewId).symm ▸ rfl }
  | cancelled sid same candidates replicas =>
    exact ⟨same.input ▸ h.reached, h.attempts_end candidates replicas⟩
  | published same candidateThere replicaThere prepared fresh kept published serves bound candidates
      replicas =>
    obtain ⟨hsess, _, hfound, hserved⟩ := h.attempts candidateThere
    cases replicaThere.symm.trans hfound
    refine ⟨same.input ▸ h.reached,
      h.attempts_update (kept.1.trans hsess) ?_ candidates replicas⟩
    exact {
      bound := .inr (kept.2 ▸ bound)
      ready := fun _ => kept.2 ▸ bound
      wireIds := fun other => by rw [serves, published, hserved.wireIds] }
  | advanced same candidateThere replicaThere kept published serves bound ready candidates replicas =>
    obtain ⟨hsess, _, hfound, hserved⟩ := h.attempts candidateThere
    cases replicaThere.symm.trans hfound
    refine ⟨same.input ▸ h.reached,
      h.attempts_update (kept.1.trans hsess) ?_ candidates replicas⟩
    exact {
      bound := by
        rw [kept.2]
        rcases bound with hsame | hbound
        · exact hsame ▸ hserved.bound
        · exact .inr hbound
      ready := fun hready => by
        rw [kept.2]
        rcases ready hready with hready | hbound
        · rcases bound with hsame | hbound
          · exact hsame ▸ hserved.ready hready
          · exact hbound
        · exact hbound
      wireIds := fun other => by rw [serves, published, hserved.wireIds] }
  | elected candidateThere replicaThere input sync idle allowed bound generation candidates replicas =>
    exact ⟨input ▸ h.reached, h.attempts_end candidates replicas⟩
  | retired workerFp same allowed candidates staged =>
    refine ⟨same.input ▸ h.reached, ?_⟩
    intro sid candidate hfound
    rw [candidates, OrderedMap.lookup_retain, Option.filter_eq_some_iff] at hfound
    obtain ⟨hfound, hother⟩ := hfound
    obtain ⟨hsess, replica, hreplica, hserved⟩ := h.attempts hfound
    refine ⟨hsess, replica, ?_, hserved⟩
    rw [staged, OrderedMap.lookup_retain, hreplica, Option.filter_eq_some_iff]
    refine ⟨rfl, ?_⟩
    rcases hserved.bound with hnone | hbound
    · simp [hnone]
    · rw [hbound]
      exact hother

theorem moves (h : store.Standing) (hmoves : Moves ok store next effects) : next.Standing :=
  hmoves.keeps (P := fun _ store => store.Standing) (fun h move => h.move move) [] h

end TerminalStore.Standing

end Roost.Client
