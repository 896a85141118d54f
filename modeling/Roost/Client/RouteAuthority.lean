-- SUMMARY: Under which acknowledged epoch a batch goes out, and on what connection.
import Roost.Base.Backed
import Roost.Client.PromotionDrain

/-!
# Authority for a session's input

The worker acknowledges a session's input route over one connection, and a batch handed over
there carries the epoch it gave. The lane keeps the epoch, the replica says where the session's
input goes; while the lane sends, the two must name one connection. A replica turned onto another
connection while its lane sends, and a fallback accepted for Sync while the replica is bound to a
carrier, part them.
-/

namespace Roost.Client

open List

open InputRouter TerminalEffect

open Roost.Cell

/-! ## What the log says -/

def Acknowledged (log : List TerminalEffect) (sessionId : String) (token : TerminalToken)
    (epoch : String) : Prop := .routeAcknowledged sessionId token epoch ∈ log

/-- A batch of a session whose route was ever acknowledged goes out under an epoch acknowledged
before it, over the connection it goes out on. -/
def AuthorisedBy (before : List TerminalEffect) : TerminalEffect → Prop
  | .input token sessionId _ _ _ epoch =>
    (∃ token epoch, Acknowledged before sessionId token epoch) →
      epoch ≠ "" ∧ ∃ acknowledged : TerminalToken, acknowledged.sameConnection token = true ∧
        Acknowledged before sessionId acknowledged epoch
  | _ => True

def TerminalEffect.claimRevision (sessionId : String) : TerminalEffect → Option Nat
  | .routeClaim claim => if claim.sessionId = sessionId then some claim.revision else none
  | _ => none

def claimRevisions (sessionId : String) (log : List TerminalEffect) : List Nat :=
  log.filterMap (claimRevision sessionId)

/-- Effects that neither claim a session's route nor acknowledge it. -/
structure Silent (effects : List TerminalEffect) (sessionId : String) : Prop where
  claims : claimRevisions sessionId effects = []
  acknowledged : ∀ {token epoch}, ¬Acknowledged effects sessionId token epoch

/-- The effects that say nothing of any session's route. -/
def TerminalEffect.isUnrouted : TerminalEffect → Bool
  | .routeClaim _ | .routeAcknowledged .. => false
  | _ => true

variable {log effects : List TerminalEffect} {sid : String} {token : TerminalToken}
  {epoch : String}

theorem Silent.of_unrouted (h : ∀ eff ∈ effects, eff.isUnrouted = true) :
    Silent effects sid where
  claims := filterMap_eq_nil_iff.mpr fun eff heff => by
    have hunrout := h eff heff
    cases eff <;> first | rfl | cases hunrout
  acknowledged hmem := by cases h _ hmem

theorem Silent.of_plain (h : ∀ eff ∈ effects, eff.isPlain = true) :
    Silent effects sessionId := .of_unrouted fun eff heff => by
  have hplain := h eff heff
  cases eff <;> first | rfl | cases hplain

theorem silent_claim {claim : InputClaim} (h : claim.sessionId ≠ sid) :
    Silent [.routeClaim claim] sid where
  claims := by simp [claimRevisions, claimRevision, h]
  acknowledged hmem := by cases mem_singleton.mp hmem

theorem acknowledged_append (h : Acknowledged log sid token epoch)
    (effects : List TerminalEffect) : Acknowledged (log ++ effects) sid token epoch :=
  mem_append_left _ h

theorem Silent.acknowledged_iff (h : Silent effects sid) :
    Acknowledged (log ++ effects) sid token epoch ↔ Acknowledged log sid token epoch :=
  ⟨fun hmem => (mem_append.mp hmem).resolve_right h.acknowledged,
    fun hmem => acknowledged_append hmem effects⟩

theorem Silent.claimRevisions_eq (h : Silent effects sid) :
    claimRevisions sid (log ++ effects) = claimRevisions sid log := by
  have happend : claimRevisions sid (log ++ effects) =
      claimRevisions sid log ++ claimRevisions sid effects := filterMap_append
  rw [happend, h.claims, append_nil]

theorem claimRevisions_claim {claim : InputClaim} (h : claim.sessionId = sid) :
    claimRevisions sid (log ++ [.routeClaim claim]) =
      claimRevisions sid log ++ [claim.revision] := by
  simp [claimRevisions, claimRevision, h]

/-! ## Lanes -/

/-- A lane's route, claim and revision are what was emitted for its session. -/
structure InputLane.RecordedIn (lane : InputLane) (log : List TerminalEffect) (sessionId : String) :
    Prop where
  route : ∀ {token}, lane.routeEpochToken = some token →
    lane.routeEpoch ≠ "" ∧ Acknowledged log sessionId token lane.routeEpoch
  required : (∃ token epoch, Acknowledged log sessionId token epoch) → lane.claims.required = true
  claim : ∀ {claim}, lane.claims.inFlight = some claim →
    lane.claims.required = true ∧ claim.sessionId = sessionId ∧ claim.revision = lane.routeRevision
  revisions : ∀ revision ∈ claimRevisions sessionId log, revision ≤ lane.routeRevision

namespace InputLane.RecordedIn

variable {lane later : InputLane}

section

variable (h : lane.RecordedIn log sid)
include h

theorem edit (hsilent : Silent effects sid) (hroute : later.routeEpochToken = none ∨
      later.routeEpochToken = lane.routeEpochToken ∧ later.routeEpoch = lane.routeEpoch)
    (hkept : lane.claims.required = true → later.claims.required = true)
    (hclaim : later.claims.inFlight = none ∨ later.claims.inFlight = lane.claims.inFlight)
    (hrev : later.routeRevision = lane.routeRevision) :
    later.RecordedIn (log ++ effects) sid where
  route := by
    intro token htoken
    rcases hroute with hnone | ⟨htokens, hepochs⟩
    · rw [hnone] at htoken
      cases htoken
    · obtain ⟨hepoch, hack⟩ := h.route (htokens ▸ htoken)
      rw [hepochs]
      exact ⟨hepoch, acknowledged_append hack effects⟩
  required := by
    rintro ⟨token, epoch, hack⟩
    exact hkept (h.required ⟨token, epoch, hsilent.acknowledged_iff.mp hack⟩)
  claim := by
    intro claim hfly
    rcases hclaim with hnone | hsame
    · rw [hnone] at hfly
      cases hfly
    · obtain ⟨hreq, hsess, hclaimed⟩ := h.claim (hsame ▸ hfly)
      exact ⟨hkept hreq, hsess, hclaimed.trans hrev.symm⟩
  revisions := by
    intro rev hmem
    rw [hsilent.claimRevisions_eq] at hmem
    exact hrev ▸ h.revisions rev hmem

theorem tame (hsilent : Silent effects sid)
    (tame : lane.Tame later) : later.RecordedIn (log ++ effects) sid :=
  h.edit hsilent tame.route tame.kept tame.claim tame.revision

theorem silent (hsilent : Silent effects sid) :
    lane.RecordedIn (log ++ effects) sid := h.tame hsilent (.refl lane)

variable {claim : InputClaim}

theorem claiming
    (hsess : claim.sessionId = sid) (hrev : claim.revision = lane.routeRevision + 1) :
    (claiming lane claim).RecordedIn (log ++ [.routeClaim claim]) sid where
  route htoken := by cases htoken
  required _ := rfl
  claim hfly := by
    cases hfly
    exact ⟨rfl, hsess, hrev⟩
  revisions := by
    intro rev hmem
    rw [claimRevisions_claim hsess] at hmem
    rcases mem_append.mp hmem with hmem | hmem
    · exact Nat.le_succ_of_le (h.revisions rev hmem)
    · exact (mem_singleton.mp hmem).trans hrev |>.le

theorem acknowledged (hfly : lane.claims.inFlight = some claim)
    (hepoch : epoch ≠ "") (workerEpoch : String) : { endClaim lane with
      routeEpoch := epoch
      routeEpochToken := some claim.token
      claims := { (endClaim lane).claims with workerEpoch } : InputLane }.RecordedIn
        (log ++ [.routeAcknowledged sid claim.token epoch]) sid where
  route htoken := by
    cases htoken
    exact ⟨hepoch, mem_append_right _ (mem_singleton_self _)⟩
  required _ := (h.claim hfly).1
  claim hnone := by cases hnone
  revisions := by
    intro rev hmem
    have hsame : claimRevisions sid
        (log ++ [.routeAcknowledged sid claim.token epoch]) = claimRevisions sid log := by
      simp [claimRevisions, claimRevision]
    rw [hsame] at hmem
    exact h.revisions rev hmem

theorem retried {retry : InputClaim}
    (hfly : lane.claims.inFlight = some claim) (hsess : retry.sessionId = claim.sessionId)
    (hnewer : claim.revision < retry.revision) : { lane with
      routeRevision := retry.revision
      claims := { lane.claims with inFlight := some retry } : InputLane }.RecordedIn
        (log ++ [.routeClaim retry]) sid where
  route htoken := by
    obtain ⟨hepoch, hack⟩ := h.route htoken
    exact ⟨hepoch, acknowledged_append hack _⟩
  required := by
    intro _
    exact (h.claim hfly).1
  claim hretry := by
    cases hretry
    obtain ⟨hreq, hheld, -⟩ := h.claim hfly
    exact ⟨hreq, hsess.trans hheld, rfl⟩
  revisions := by
    intro rev hmem
    obtain ⟨-, hheld, hrev⟩ := h.claim hfly
    rw [claimRevisions_claim (hsess.trans hheld)] at hmem
    rcases mem_append.mp hmem with hmem | hmem
    · exact (h.revisions rev hmem).trans (hrev ▸ hnewer.le)
    · exact (mem_singleton.mp hmem).le

end

end InputLane.RecordedIn

/-! ## The router -/

/-- Every lane is what was emitted for its session, and claims grow. -/
structure InputRouter.RecordedIn (router : InputRouter) (log : List TerminalEffect) : Prop where
  lanes : ∀ sessionId, (router.laneOrNew sessionId).RecordedIn log sessionId
  increasing : ∀ sessionId, (claimRevisions sessionId log).Pairwise (· < ·)
  ceiling : ∀ sessionId, ∀ revision ∈ claimRevisions sessionId log,
    revision ≤ maxTerminalInputRouteRevision

namespace InputRouter.RecordedIn

variable {router later : InputRouter} {lane : InputLane} {claim : InputClaim}

section

variable (h : router.RecordedIn log)
include h

section

variable (hsilent : ∀ sid, Silent effects sid)
include hsilent

theorem silent (hlanes : ∀ sid, (later.laneOrNew sid).RecordedIn (log ++ effects) sid) :
    later.RecordedIn (log ++ effects) where
  lanes := hlanes
  increasing sid := by
    rw [(hsilent sid).claimRevisions_eq]
    exact h.increasing sid
  ceiling sid := by
    rw [(hsilent sid).claimRevisions_eq]
    exact h.ceiling sid

theorem tame (tame : router.Tame later) : later.RecordedIn (log ++ effects) :=
  h.silent hsilent fun sid => (h.lanes sid).tame (hsilent sid) (@tame sid)

theorem dispatchStartable (hsane : router.Sane) (sid : String)
    (token : TerminalToken) (nowMs : Nat) :
    (router.dispatchStartable sid token nowMs).1.RecordedIn (log ++ effects) := by
  refine h.silent hsilent fun other => ?_
  rcases laneOrNew_dispatchStartable hsane sid token nowMs other with
    hsame | ⟨-, -, pending, hstarted⟩
  · rw [hsame]
    exact (h.lanes other).silent (hsilent other)
  · rw [hstarted]
    exact (h.lanes other).edit (hsilent other) (.inr ⟨rfl, rfl⟩) (fun hkept => hkept) (.inr rfl) rfl

end

theorem releaseHeld (sid : String) : (router.releaseHeld sid).1.RecordedIn log := by
  have hlater : (router.releaseHeld sid).1.RecordedIn (log ++ []) := by
    refine h.silent (fun _ => .of_unrouted (forall_mem_nil _)) fun other => ?_
    have hsilent : Silent [] other := .of_unrouted (forall_mem_nil _)
    rcases laneOrNew_releaseHeld router sid other with hsame | ⟨-, hrel⟩
    · rw [hsame]
      exact (h.lanes other).silent hsilent
    · rw [hrel]
      exact (h.lanes other).edit hsilent (.inr ⟨rfl, rfl⟩) (fun hkept => hkept) (.inl rfl) rfl
  rwa [append_nil] at hlater

theorem of_lanes (hlanes : ∀ other, later.laneOrNew other =
      if other = sid then lane else router.laneOrNew other)
    (hlane : lane.RecordedIn (log ++ effects) sid)
    (hothers : ∀ {other}, other ≠ sid → Silent effects other)
    (hgrows : (claimRevisions sid (log ++ effects)).Pairwise (· < ·) ∧
      ∀ rev ∈ claimRevisions sid (log ++ effects),
        rev ≤ maxTerminalInputRouteRevision) : later.RecordedIn (log ++ effects) where
  lanes other := by
    rw [hlanes]
    split
    · rename_i heq
      exact heq ▸ hlane
    · rename_i hne
      exact (h.lanes other).silent (hothers hne)
  increasing other := by
    by_cases heq : other = sid
    · exact heq ▸ hgrows.1
    · rw [(hothers heq).claimRevisions_eq]
      exact h.increasing other
  ceiling other := by
    by_cases heq : other = sid
    · exact heq ▸ hgrows.2
    · rw [(hothers heq).claimRevisions_eq]
      exact h.ceiling other

theorem grows_claim (hsess : claim.sessionId = sid)
    (hnewer : (router.laneOrNew sid).routeRevision < claim.revision)
    (hceiling : claim.revision ≤ maxTerminalInputRouteRevision) :
    (claimRevisions sid (log ++ [.routeClaim claim])).Pairwise (· < ·) ∧
      ∀ rev ∈ claimRevisions sid (log ++ [.routeClaim claim]),
        rev ≤ maxTerminalInputRouteRevision := by
  rw [claimRevisions_claim hsess]
  constructor
  · refine pairwise_append.mpr ⟨h.increasing sid, pairwise_singleton _ _, ?_⟩
    intro rev hmem last hlast
    rw [mem_singleton.mp hlast]
    exact ((h.lanes sid).revisions rev hmem).trans_lt hnewer
  intro rev hmem
  rcases mem_append.mp hmem with hmem | hmem
  · exact h.ceiling sid rev hmem
  · exact (mem_singleton.mp hmem) ▸ hceiling

variable {token : TerminalToken} {nowMs : Nat}

theorem claimed {workerEpoch : String}
    {attemptId : Option Nat}
    (begun : router.beginRouteClaim sid token workerEpoch attemptId nowMs =
      (later, .ok claim)) : later.RecordedIn (log ++ [.routeClaim claim]) := by
  obtain ⟨hsess, -, -, hrev, hceiling, hlanes⟩ := beginRouteClaim_ok begun
  refine h.of_lanes hlanes ((h.lanes sid).claiming hsess hrev) (fun hne => ?_) ?_
  · exact silent_claim fun heq => hne (heq.symm.trans hsess)
  · exact h.grows_claim hsess (hrev ▸ Nat.lt_succ_self _) hceiling

variable {result : InputRouteResult}

theorem accepted
    (settled : router.settleRouteClaim token result nowMs = (later, some (.accepted claim))) :
    later.RecordedIn
      (log ++ [.routeAcknowledged result.sessionId claim.token result.inputRouteEpoch]) := by
  have hanswered := answered_settleRouteClaim router token result nowMs
  rw [settled] at hanswered
  cases hanswered with
  | accepted inFlight hepoch arrived hlanes =>
    refine h.of_lanes hlanes ((h.lanes _).acknowledged inFlight hepoch _)
      (fun hne => ⟨rfl, fun hmem => by cases mem_singleton.mp hmem; exact hne rfl⟩) ?_
    have hsame : claimRevisions result.sessionId
        (log ++ [.routeAcknowledged result.sessionId claim.token result.inputRouteEpoch]) =
          claimRevisions result.sessionId log := by
      simp [claimRevisions, claimRevision]
    rw [hsame]
    exact ⟨h.increasing _, h.ceiling _⟩

theorem retried
    (settled : router.settleRouteClaim token result nowMs = (later, some (.retry claim))) :
    later.RecordedIn (log ++ [.routeClaim claim]) := by
  have hanswered := answered_settleRouteClaim router token result nowMs
  rw [settled] at hanswered
  cases hanswered with
  | @retried _ first _ inFlight same newer ceiling hlanes =>
    obtain ⟨-, hheld, hrev⟩ := (h.lanes result.sessionId).claim inFlight
    have hsess := same.1.trans hheld
    refine h.of_lanes hlanes ((h.lanes _).retried inFlight same.1 newer) (fun hne => ?_) ?_
    · exact silent_claim fun heq => hne (heq.symm.trans hsess)
    · exact h.grows_claim hsess (hrev ▸ newer) ceiling

end

end InputRouter.RecordedIn

/-! ## Moves -/

section Records

variable {ok : Crossing → Prop} {store next : TerminalStore}

theorem unrouted_dispatchStartable (store : TerminalStore) (sid : String) (token : TerminalToken)
    (nowMs : Nat) : ∀ eff ∈ (store.dispatchStartable sid token nowMs).2, eff.isUnrouted = true := by
  intro eff heff
  obtain ⟨_, _, rfl⟩ := mem_map.mp heff
  rfl

/-- A move keeps the lanes' epochs on record. -/
theorem Move.recorded (move : Move ok store next effects) (hstand : store.Standing)
    (h : store.input.RecordedIn log) : next.input.RecordedIn (log ++ effects) := by
  have hkept : ∀ {next : TerminalStore} {effects : List TerminalEffect},
      next.input = store.input → (∀ sid, Silent effects sid) →
      next.input.RecordedIn (log ++ effects) :=
    fun hinput hsilent => hinput ▸ h.tame hsilent (.refl _)
  cases move with
  | quiet input turned bindings candidates staged plain =>
    exact h.tame (fun _ => .of_plain plain) input.tame
  | handed sid token nowMs =>
    exact h.dispatchStartable (fun _ => .of_unrouted (unrouted_dispatchStartable _ _ _ _))
      hstand.reached.sane sid token nowMs
  | released sid token nowMs =>
    exact (h.releaseHeld sid).dispatchStartable
      (fun _ => .of_unrouted (unrouted_dispatchStartable _ _ _ _))
      (hstand.reached.trans (.call _ (.releaseHeld sid))).sane sid token nowMs
  | claimed begun => exact h.claimed begun
  | acknowledged settled => exact h.accepted settled
  | staged cand fp same free unminted unready candidates replicas plain =>
    exact hkept same.input fun _ => .of_plain plain
  | cancelled sid same =>
    refine hkept same.input fun _ => .of_unrouted fun eff heff => ?_
    obtain ⟨_, _, hwithdrawn⟩ := mem_flatMap.mp heff
    obtain ⟨_, _, rfl⟩ := mem_map.mp hwithdrawn
    rfl
  | published same =>
    refine hkept same.input fun _ => .of_unrouted fun eff heff => ?_
    cases mem_singleton.mp heff
    rfl
  | advanced same candidateThere replicaThere kept published serves bound ready candidates replicas
      plain => exact hkept same.input fun _ => .of_plain plain
  | @elected next effects sid cand repl candidateThere replicaThere input sync idle allowed bound
      gen candidates replicas plain =>
    refine hkept input fun other => .of_unrouted fun eff heff => ?_
    rcases mem_cons.mp heff with rfl | heff
    · rfl
    · have hplain := plain eff heff
      cases eff <;> first | rfl | cases hplain
  | retired fp same =>
    exact hkept same.input fun _ => .of_unrouted (forall_mem_nil _)

/-- Moves keep the lanes' epochs on record. -/
theorem Moves.recorded (moves : Moves ok store next effects) (hstand : store.Standing)
    (h : store.input.RecordedIn log) : next.input.RecordedIn (log ++ effects) := by
  induction moves generalizing log with
  | done =>
    rw [append_nil]
    exact h
  | step move _ ih =>
    rw [← append_assoc]
    exact ih (hstand.move move) (move.recorded hstand h)

/-- A call keeps the lanes' epochs on record. -/
theorem CallStep.recorded (step : CallStep ok store next effects) (hstand : store.Standing)
    (h : store.input.RecordedIn log) : next.input.RecordedIn (log ++ effects) := by
  cases step with
  | moves moves => exact moves.recorded hstand h
  | promotes hold same drained begun =>
    have hheld := h.tame (fun _ => .of_unrouted (forall_mem_nil _)) hold.tame
    rw [append_nil] at hheld
    exact hheld.claimed begun
  | retries settled => exact h.retried settled

end Records

/-! ## Where a sending lane goes -/

/-- A lane that sends under an acknowledged route is not turned onto another connection, and a
fallback is accepted on the connection its session's input goes to. -/
def Crossing.keepsAuthority : Crossing → Bool
  | .turned lane token =>
    !(decide (lane.phase = .sending) && lane.claims.required) ||
      lane.routeEpochToken.any fun acknowledged => acknowledged.sameConnection token
  | .resumed destination token => destination.all fun held => token.sameConnection held
  | _ => true

/-- A lane that needs a route and sends has one, acknowledged where its session's input goes. -/
def TerminalStore.Authorised (store : TerminalStore) : Prop :=
  ∀ ⦃sessionId⦄, (store.input.laneOrNew sessionId).phase = .sending →
    (store.input.laneOrNew sessionId).claims.required = true →
    ∃ token, (store.input.laneOrNew sessionId).routeEpochToken = some token ∧
      ∀ held, store.inputDestination sessionId = some held → token.sameConnection held = true

section Authority

variable {store next : TerminalStore}

theorem backed_dispatchStartable (hstand : store.Standing) (hrec : store.input.RecordedIn log)
    (sid : String) (token : TerminalToken) (nowMs : Nat)
    (hroute : (store.input.laneOrNew sid).phase = .sending →
      (store.input.laneOrNew sid).claims.required = true →
      ∃ acknowledged, (store.input.laneOrNew sid).routeEpochToken = some acknowledged ∧
        acknowledged.sameConnection token = true) (hlog : Backed AuthorisedBy log) :
    Backed AuthorisedBy (log ++ (store.dispatchStartable sid token nowMs).2) := by
  refine hlog.append fun before effect after heq => ?_
  have hmem : effect ∈ (store.dispatchStartable sid token nowMs).2 := by
    rw [heq]
    exact mem_append_right _ mem_cons_self
  obtain ⟨pending, hpend, rfl⟩ := mem_map.mp hmem
  have hstartable : pending ∈ store.input.startable sid := hpend
  have hearlier : Silent before pending.sessionId := .of_unrouted fun effect heff =>
    unrouted_dispatchStartable store sid token nowMs effect (heq ▸ mem_append_left _ heff)
  have hheld := mem_of_mem_filter ((startable_sublist store.input sid).subset hstartable)
  have hsess := hstand.reached.session hheld
  rw [hsess] at hearlier ⊢
  rintro ⟨other, epoch, hack⟩
  have hlane := hrec.lanes sid
  have hreq := hlane.required ⟨other, epoch, hearlier.acknowledged_iff.mp hack⟩
  obtain ⟨acknowledged, hack, hsame⟩ :=
    hroute (sending_of_startable hstartable) hreq
  obtain ⟨hepoch, hlogged⟩ := hlane.route hack
  rw [routeEpochFor_eq, InputLane.epochFor, hack, Option.any_some, if_pos hsame]
  exact ⟨hepoch, acknowledged, hsame, acknowledged_append hlogged before⟩

theorem backed_unsent (h : ∀ eff ∈ effects, ∀ token sid viewId seq bytes epoch,
      eff ≠ .input token sid viewId seq bytes epoch)
    (hlog : Backed AuthorisedBy log) : Backed AuthorisedBy (log ++ effects) := by
  refine hlog.append (.of_forall fun eff heff before => ?_)
  cases eff with
  | input token sid viewId seq bytes epoch =>
    exact absurd rfl (h _ heff token sid viewId seq bytes epoch)
  | _ => trivial

theorem TerminalStore.Authorised.of_lanes {input : InputRouter} (h : store.Authorised)
    (lanes : ∀ sid, (input.laneOrNew sid).phase = .sending →
      (input.laneOrNew sid).claims.required = true → ((store.input.laneOrNew sid).phase = .sending ∧
          (store.input.laneOrNew sid).claims.required = true ∧
          (input.laneOrNew sid).routeEpochToken = (store.input.laneOrNew sid).routeEpochToken) ∨
        ∃ token, (input.laneOrNew sid).routeEpochToken = some token ∧
          ∀ held, store.inputDestination sid = some held → token.sameConnection held = true) :
    { store with input : TerminalStore }.Authorised := by
  intro sid hsend hreq
  rcases lanes sid hsend hreq with ⟨hsent, hneeded, hroute⟩ | hrouted
  · obtain ⟨token, htoken, hheld⟩ := h hsent hneeded
    exact ⟨token, hroute.trans htoken, hheld⟩
  · exact hrouted

theorem TerminalStore.Authorised.dispatchStartable (h : store.Authorised)
    (hsane : store.input.Sane) (sid : String) (token : TerminalToken) (nowMs : Nat) :
    (store.dispatchStartable sid token nowMs).1.Authorised := by
  unfold TerminalStore.dispatchStartable
  refine h.of_lanes fun other => ?_
  rcases laneOrNew_dispatchStartable hsane sid token nowMs other with
    hsame | ⟨-, hsent, pending, hstarted⟩
  · rw [hsame]
    exact fun hsend hreq => .inl ⟨hsend, hreq, rfl⟩
  · rw [hstarted]
    exact fun _ hreq => .inl ⟨hsent, hreq, rfl⟩

variable {token : TerminalToken}

theorem acknowledged_of_authority {sid : String}
    (authority : store.routeRequired sid = true → store.input.routeEpochFor sid token ≠ "")
    (hreq : (store.input.laneOrNew sid).claims.required = true) :
    ∃ acknowledged, (store.input.laneOrNew sid).routeEpochToken = some acknowledged ∧
      acknowledged.sameConnection token = true := by
  rw [TerminalStore.routeRequired_eq, routeEpochFor_eq] at authority
  have hepoch := authority hreq
  unfold InputLane.epochFor at hepoch
  split at hepoch
  · rename_i hany
    exact (Option.any_eq_true _ _).mp hany
  · exact absurd rfl hepoch

theorem route_releaseHeld (router : InputRouter) (sid other : String) :
    ((router.releaseHeld sid).1.laneOrNew other).routeEpochToken =
        (router.laneOrNew other).routeEpochToken ∧
      ((router.releaseHeld sid).1.laneOrNew other).claims.required =
        (router.laneOrNew other).claims.required := by
  rcases laneOrNew_releaseHeld router sid other with hsame | ⟨-, hrel⟩
  · rw [hsame]
    exact ⟨rfl, rfl⟩
  · rw [hrel]
    exact ⟨rfl, rfl⟩

theorem TerminalStore.Authorised.releaseHeld (h : store.Authorised) {sid : String}
    (authority : store.routeRequired sid = true →
      store.input.routeEpochFor sid token ≠ "")
    (destination : ∀ held, store.inputDestination sid = some held →
      token.sameConnection held = true) :
    { store with input := (store.input.releaseHeld sid).1 : TerminalStore }.Authorised := by
  refine h.of_lanes fun other hsend hreq => ?_
  obtain ⟨hroute, hneeds⟩ := route_releaseHeld store.input sid other
  rw [hneeds] at hreq
  rw [hroute]
  rcases laneOrNew_releaseHeld store.input sid other with
    hsame | ⟨rfl, hrel⟩
  · rw [hsame] at hsend
    exact .inl ⟨hsend, hreq, rfl⟩
  · obtain ⟨acknowledged, htoken, hsame⟩ := acknowledged_of_authority authority hreq
    exact .inr ⟨acknowledged, htoken, fun held hheld =>
      TerminalToken.sameConnection_trans hsame (destination held hheld)⟩

/-- A move that keeps authority keeps it where lanes send, and under it hands batches over. -/
theorem Move.authorised
    (move : Move (fun crossing => crossing.keepsAuthority = true) store next effects)
    (hstand : store.Standing) (hrec : store.input.RecordedIn log) (h : store.Authorised)
    (hlog : Backed AuthorisedBy log) : next.Authorised ∧ Backed AuthorisedBy (log ++ effects) := by
  have hsame : ∀ {next : TerminalStore}, SameInput store next → next.Authorised := by
    intro next same sid hsend hreq
    rw [same.input] at hsend hreq ⊢
    simp only [same.destination]
    exact h hsend hreq
  have hplain : ∀ {effects : List TerminalEffect}, (∀ eff ∈ effects, eff.isPlain = true) →
      Backed AuthorisedBy (log ++ effects) := by
    intro effects hplain
    refine backed_unsent (fun eff heff _ _ _ _ _ _ heq => ?_) hlog
    cases heq ▸ hplain eff heff
  have hone : ∀ eff : TerminalEffect, (∀ token sid viewId seq bytes epoch,
      eff ≠ .input token sid viewId seq bytes epoch) →
      Backed AuthorisedBy (log ++ [eff]) := by
    intro eff hother
    exact backed_unsent (fun found hfound => mem_singleton.mp hfound ▸ hother) hlog
  cases move with
  | quiet input turned bindings candidates staged plain =>
    refine ⟨fun sid hsend hreq => ?_, hplain plain⟩
    have hlane := @input.tame sid
    have hsent := hlane.sending hsend
    have hneeded := hlane.required hsend ▸ hreq
    obtain ⟨token, htoken, hheld⟩ := h hsent hneeded
    have hrouted := (hlane.routed hsend).1.trans htoken
    refine ⟨token, hrouted, fun held hdest => ?_⟩
    rcases turned sid held hsend hreq hdest with
      ⟨before, hpre, hcarrier⟩ | hallow
    · exact hcarrier token hrouted (hheld before hpre)
    · simpa [Crossing.keepsAuthority, hsent, hneeded, htoken] using hallow
  | handed sid token nowMs destination =>
    refine ⟨h.dispatchStartable hstand.reached.sane sid token nowMs, ?_⟩
    refine backed_dispatchStartable hstand hrec sid token nowMs ?_ hlog
    intro hsend hreq
    obtain ⟨acknowledged, htoken, hheld⟩ := h hsend hreq
    exact ⟨acknowledged, htoken, hheld token destination⟩
  | released sid token nowMs authority destination =>
    have hdest : ∀ held, store.inputDestination sid = some held →
        token.sameConnection held = true := by
      intro held hheld
      rcases destination with hgoes | hallow
      · exact hgoes held hheld
      · unfold Crossing.keepsAuthority at hallow
        rwa [hheld] at hallow
    have hreaches := hstand.reached.trans (.call _ (.releaseHeld sid))
    have hrel := h.releaseHeld authority hdest
    refine ⟨hrel.dispatchStartable hreaches.sane sid token nowMs, ?_⟩
    have hstands : { store with input := (store.input.releaseHeld sid).1
        : TerminalStore }.Standing := ⟨hreaches, hstand.attempts⟩
    refine backed_dispatchStartable hstands (hrec.releaseHeld sid) sid token nowMs
      (fun _ hreq => ?_) hlog
    obtain ⟨hroute, hneeds⟩ := route_releaseHeld store.input sid sid
    rw [hroute]
    exact acknowledged_of_authority authority (hneeds ▸ hreq)
  | @claimed sid token workerEpoch nowMs input claim begun =>
    refine ⟨h.of_lanes fun other hsend hreq => .inl ?_, hone _ nofun⟩
    obtain ⟨-, -, -, -, -, hlanes⟩ := beginRouteClaim_ok begun
    rw [hlanes] at hsend hreq ⊢
    split at hsend
    · cases hsend
    · rename_i hne
      rw [if_neg hne] at hreq ⊢
      exact ⟨hsend, hreq, rfl⟩
  | @acknowledged token result nowMs input claim settled =>
    refine ⟨h.of_lanes fun other hsend hreq => .inl ?_, hone _ nofun⟩
    have hanswered := answered_settleRouteClaim store.input token result nowMs
    rw [settled] at hanswered
    cases hanswered with
    | accepted inFlight epoch arrived hlanes =>
      rw [hlanes] at hsend hreq ⊢
      split at hsend
      · cases hsend
      · rename_i hne
        rw [if_neg hne] at hreq ⊢
        exact ⟨hsend, hreq, rfl⟩
  | staged cand fp same free unminted unready candidates replicas plain =>
    exact ⟨hsame same, hplain plain⟩
  | cancelled sid same =>
    refine ⟨hsame same, backed_unsent (fun eff heff => ?_) hlog⟩
    obtain ⟨_, _, hwithdrawn⟩ := mem_flatMap.mp heff
    obtain ⟨_, _, rfl⟩ := mem_map.mp hwithdrawn
    nofun
  | published same => exact ⟨hsame same, hone _ nofun⟩
  | advanced same candidateThere replicaThere kept published serves bound ready candidates replicas
      plain => exact ⟨hsame same, hplain plain⟩
  | @elected next effects sid cand repl candidateThere replicaThere input sync idle allowed bound
      gen candidates replicas plain =>
    constructor
    · intro other hsend hreq
      rw [input] at hsend hreq ⊢
      by_cases heq : other = sid
      · -- The lane of the session that moves is held, or needs no route.
        subst heq
        rw [idle hsend] at hreq
        cases hreq
      · unfold TerminalStore.inputDestination
        rw [gen other heq, sync]
        exact h hsend hreq
    · refine backed_unsent (fun eff heff => ?_) hlog
      rcases mem_cons.mp heff with rfl | heff
      · nofun
      · intro _ _ _ _ _ _ heq
        cases heq ▸ plain eff heff
  | retired fp same =>
    exact ⟨hsame same, hplain (forall_mem_nil _)⟩

/-- Moves keep each sending lane authorised. -/
theorem Moves.authorised
    (moves : Moves (fun crossing => crossing.keepsAuthority = true) store next effects)
    (hstand : store.Standing) (hrec : store.input.RecordedIn log) (h : store.Authorised)
    (hlog : Backed AuthorisedBy log) : next.Authorised ∧ Backed AuthorisedBy (log ++ effects) := by
  induction moves generalizing log with
  | done =>
    rw [append_nil]
    exact ⟨h, hlog⟩
  | step move _ ih =>
    obtain ⟨hnext, hbacked⟩ := move.authorised hstand hrec h hlog
    rw [← append_assoc]
    exact ih (hstand.move move) (move.recorded hstand hrec) hnext hbacked

/-- A call keeps each sending lane authorised. -/
theorem CallStep.authorised
    (step : CallStep (fun crossing => crossing.keepsAuthority = true) store next effects)
    (hstand : store.Standing) (hrec : store.input.RecordedIn log) (h : store.Authorised)
    (hlog : Backed AuthorisedBy log) : next.Authorised ∧ Backed AuthorisedBy (log ++ effects) := by
  have hclaim : ∀ claim, Backed AuthorisedBy (log ++ [.routeClaim claim]) := fun claim =>
    backed_unsent (fun eff heff => mem_singleton.mp heff ▸ nofun) hlog
  cases step with
  | moves moves => exact moves.authorised hstand hrec h hlog
  | @promotes sid token workerEpoch attemptId nowMs held input claim hold same drained begun =>
    refine ⟨h.of_lanes fun other hsend hreq => .inl ?_, hclaim claim⟩
    obtain ⟨-, -, -, -, -, hlanes⟩ := beginRouteClaim_ok begun
    rw [hlanes] at hsend hreq ⊢
    split at hsend
    · cases hsend
    rename_i hne
    rw [if_neg hne] at hreq ⊢
    have hlane := @hold.tame other
    exact ⟨hlane.sending hsend, hlane.required hsend ▸ hreq, (hlane.routed hsend).1⟩
  | @retries token result nowMs input claim settled =>
    refine ⟨h.of_lanes fun other hsend hreq => .inl ?_, hclaim claim⟩
    have hanswered := answered_settleRouteClaim store.input token result nowMs
    rw [settled] at hanswered
    cases hanswered with
    | retried inFlight same newer ceiling hlanes =>
      rw [hlanes] at hsend hreq ⊢
      split at hsend
      · rename_i heq
        subst heq
        rw [if_pos rfl] at hreq ⊢
        exact ⟨hsend, hreq, rfl⟩
      · rename_i hne
        rw [if_neg hne] at hreq ⊢
        exact ⟨hsend, hreq, rfl⟩

end Authority

/-! ## Runs -/

theorem InputRouter.RecordedIn.new : InputRouter.RecordedIn .new [] where
  lanes sid := {
    route := fun hroute => by cases hroute
    required := fun ⟨_, _, hnone⟩ => by cases hnone
    claim := fun hclaim => by cases hclaim
    revisions := fun _ hnone => by cases hnone }
  increasing sid := .nil
  ceiling sid rev hnone := by cases hnone

/-- In a run whose calls keep authority, every batch of a session whose route was ever
acknowledged goes out under an epoch acknowledged over its own connection. In every run, the
revisions a session's claims are sent with grow, within the wire's ceiling. -/
theorem dispatched_input_authorised (sizes : Sizes) (calls : List TerminalCall) :
    ((terminalStore sizes).Along (Meets fun crossing => crossing.keepsAuthority = true) .new calls →
        Backed AuthorisedBy (emitted sizes calls)) ∧
      ∀ sid, (claimRevisions sid (emitted sizes calls)).Pairwise (· < ·) ∧
        ∀ revision ∈ claimRevisions sid (emitted sizes calls),
          revision ≤ maxTerminalInputRouteRevision := by
  constructor
  · intro h
    obtain ⟨-, -, -, hbacked⟩ := run_keeps sizes
      (P := fun log store => store.input.RecordedIn log ∧ store.Authorised ∧ Backed AuthorisedBy log)
      ⟨.new, fun _ _ hreq => (by cases hreq), .nil⟩
      (fun hstand h step => ⟨step.recorded hstand h.1,
        step.authorised hstand h.1 h.2.1 h.2.2⟩) h
    exact hbacked
  · have hevery : (terminalStore sizes).Along (Meets fun _ => True) .new calls :=
      (Transducer.along_true _ _).strengthen (P := fun _ => True) trivial
        (fun _ _ _ _ => trivial) fun _ _ _ _ _ _ => trivial
    obtain ⟨-, hrecorded⟩ := run_keeps sizes (P := fun log store => store.input.RecordedIn log) .new
      (fun hstand h step => step.recorded hstand h) hevery
    exact fun sid => ⟨hrecorded.increasing sid, hrecorded.ceiling sid⟩

/-- The worker acknowledges the peer's claim, and the user types on. -/
def typesOnPeer : List TerminalCall :=
  drainsFirst ++ [.resumeHeldPromotion "session-1" 90, .directRouteResult peerToken
      ⟨"route-claim-1", "session-1", 1, true, 1, "route-epoch-1", "worker-epoch", ""⟩ 100,
    types 110]

theorem dispatched_input_authorised_peer : Backed AuthorisedBy (emitted wireSizes typesOnPeer) ∧
      claimRevisions "session-1" (emitted wireSizes typesOnPeer) = [1] :=
  ⟨(dispatched_input_authorised wireSizes typesOnPeer).1 (by decide +kernel), by decide +kernel⟩

def loopbackToken : TerminalToken := ⟨12, "worker-epoch", 0, .loopback, some "worker-1"⟩

def loopbackCarrier : DirectCarrier where
  connectionId := "loopback-1"
  workerFp := "worker-1"
  transport := .loopback
  token := loopbackToken
  socketId := "socket-2"
  grantedSessions := {"session-1"}

def loopbackView : String := "00000000-0000-4000-8000-0000000000c1"

/-- The worker refuses the loopback's claim, and acknowledges the fallback to Sync that follows. -/
def fallsBack : List TerminalCall :=
  typesOnPeer ++ [.grantMinted "worker-1" ⟨"worker-epoch", true⟩ {"session-1"} 190,
    .carrierReady loopbackCarrier (by decide) 200,
    .viewIdMinted "session-1" 2 paneView .candidate (some loopbackView) 210,
    .directViewState "session-1" loopbackToken
      ⟨"session-1", loopbackView, 12, 3, true, some TerminalSession.paneStream, 1, 1⟩ 220,
    .directCells "session-1" loopbackToken (.frame paneBaseline) 230,
    .advanceCandidate "session-1" 240,
    .directInputResult "session-1" peerToken 2 (.accepted 2 1) 250,
    .resumeHeldPromotion "session-1" 260,
    .directRouteResult loopbackToken
      ⟨"route-claim-2", "session-1", 2, false, 2, "", "worker-epoch", "busy"⟩ 270,
    .claimDueFallbacks 280,
    .syncRouteResult ⟨"route-claim-3", "session-1", 3, true, 3, "route-epoch-3", "worker-epoch", ""⟩
      290]
/-- What is typed then goes to the peer the replica is still bound to, under no epoch. -/
theorem dispatched_input_unauthorised : ¬∀ calls, Backed AuthorisedBy (emitted wireSizes calls) := by
  intro h
  have htyped : emitted wireSizes (fallsBack ++ [types 300]) = emitted wireSizes fallsBack ++
      [.input peerToken "session-1" (some peerView) 3 [97] ""] := by decide +kernel
  obtain ⟨hepoch, -⟩ := h _ htyped
    ⟨peerToken, "route-epoch-1", (by decide +kernel : _ ∈ emitted wireSizes fallsBack)⟩
  exact absurd rfl hepoch

end Roost.Client
