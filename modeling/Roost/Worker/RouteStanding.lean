-- SUMMARY: The newest admitted claim is current; a revoked device never writes again.
import Roost.Worker.RouteAttempts

/-!
# The newest claim

The history of the owner says who may write: the latest admitted claim of a device, tab and
session, over its connection, under the epoch its settlement minted, until a retirement, a
revocation or a disposal takes that away. The owner answers from its table alone; the invariant
ties the two together for every device that is not fenced out.

The fence of a revoked device stands until a disposal clears the revoked set with the routes. From
then on no route is current and no claim is admitted, whoever asks; epoch-less input is answered
from the empty table.
-/

namespace Roost.Worker.RouteState

variable {state : RouteState} {key : RouteKey} {entry after : RouteEntry} {attempt : Attempt}
  {id nowMs : Nat} {op : RouteOp} {answer : RouteAnswer}

/-! ## What the history says -/

/-- The latest admitted claim of a key, its connection, and the epoch minted for it. -/
structure Standing where
  attempt : Nat
  connectionId : String
  epoch : Option String

/-- The claims admitted so far, and the one that stands. -/
structure RouteHistory where
  admitted : Nat
  standing : Option Standing

open RouteHistory

def Standing.settled (id : Nat) (epoch : Option String) (standing : Standing) : Standing :=
  if standing.attempt = id then { standing with epoch } else standing

/-- What one answered step does to the claim of a key that stands. -/
def RouteHistory.record (key : RouteKey) (history : RouteHistory) :
    RouteOp × RouteAnswer → RouteHistory
  | (.claim actor claim _, .claimed (.admitted _)) =>
    let attempt := history.admitted + 1
    ⟨attempt, if key = routeKey actor claim.sessionId then some ⟨attempt, actor.connectionId, none⟩
      else history.standing⟩
  | (.settle id env, .settled (some result)) =>
    if result.accepted then
      { history with standing := history.standing.map (·.settled id env.epoch) }
    else history
  | (.retireConnection connectionId _, _) =>
    { history with
      standing := history.standing.filter fun standing =>
        decide (standing.connectionId ≠ connectionId) }
  | (.retireSession sessionId _, _) =>
    if key.sessionId = sessionId then { history with standing := none } else history
  | (.revokeDevice deviceFingerprint, _) =>
    if key.deviceFingerprint = deviceFingerprint then { history with standing := none }
    else history
  | (.retireDevice deviceFingerprint _, _) =>
    if key.deviceFingerprint = deviceFingerprint then { history with standing := none }
    else history
  | (.dispose, _) => { history with standing := none }
  | _ => history

def routeHistory (key : RouteKey) (trace : List (RouteOp × RouteAnswer)) : RouteHistory :=
  trace.foldl (record key) ⟨0, none⟩

/-! ## The table agrees with the history -/

structure Agrees (state : RouteState) (key : RouteKey) (history : RouteHistory) : Prop where
  active : ∀ entry, state.routes.lookup key = some entry → entry.status = .active →
    ∃ id attempt, history.standing = some ⟨id, entry.actor.connectionId, entry.inputRouteEpoch⟩ ∧
      state.attempts id = some attempt ∧ attempt.key = key
  blocked : ∀ entry pending, state.routes.lookup key = some entry → entry.status = .blocked →
    entry.pending = some pending →
      history.standing = some ⟨pending.id, entry.actor.connectionId, none⟩

variable {history : RouteHistory} {env : SettleEnv} {result : RouteResult}
  {deviceFingerprint : String}

theorem Agrees.standing (h : state.Agrees key history) (hsound : state.Sound)
    (hentry : state.routes.lookup key = some entry) (hstatus : entry.status ≠ .retired) :
    ∃ id attempt epoch, history.standing = some ⟨id, entry.actor.connectionId, epoch⟩ ∧
      state.attempts id = some attempt ∧ attempt.key = key := by
  cases hcase : entry.status with
  | active =>
    obtain ⟨id, attempt, hstand, hatt, hkey⟩ := h.active entry hentry hcase
    exact ⟨id, attempt, _, hstand, hatt, hkey⟩
  | blocked =>
    obtain ⟨pending, hpend⟩ :=
      Option.isSome_iff_exists.mp ((hsound.entries hentry).blocked hcase)
    obtain ⟨attempt, hatt, hwaits⟩ := hsound.waits hentry hpend
    exact ⟨pending.id, attempt, none, h.blocked entry pending hentry hcase hpend, hatt, hwaits.key⟩
  | retired => exact absurd hcase hstatus

theorem minted_of_accepted (hres : (state.settleGranted attempt id env).2 = result)
    (h : result.accepted = true) : env.epoch = some result.inputRouteEpoch := by
  unfold settleGranted at hres
  dsimp only at hres
  split at hres
  · subst hres
    cases h
  split at hres
  · subst hres
    cases h
  split at hres
  · subst hres
    cases h
  · subst hres
    cases h
  · rename_i hepoch
    subst hres
    exact hepoch

theorem settle_answered (h : routeOwner.answer state (.settle id env) = .settled (some result)) :
    ∃ attempt, state.attempts id = some attempt ∧ attempt.stage = .granted ∧
      (state.settleGranted attempt id env).2 = result := by
  have hres : (state.settle id env).2 = some result := RouteAnswer.settled.inj h
  revert hres
  refine atStage_cases (P := fun r => r.2 = some result → _) (fun _ hnone => by cases hnone) ?_
  intro attempt hatt hstage hset
  exact ⟨attempt, hatt, hstage, Option.some.inj hset⟩

theorem settle_accepted (h : routeOwner.answer state (.settle id env) = .settled (some result))
    (hacc : result.accepted = true) :
    env.epoch = some result.inputRouteEpoch ∧ ∃ attempt entry, state.attempts id = some attempt ∧
      attempt.stage = .granted ∧ state.routes.lookup attempt.key = some entry ∧
        state.isSettling attempt id entry = true := by
  obtain ⟨attempt, hatt, hstage, hres⟩ := settle_answered h
  refine ⟨minted_of_accepted hres hacc, attempt, ?_⟩
  rcases settleGranted_cases state attempt id env with ⟨-, href, -⟩ | ⟨entry, hentry, hsettled, -⟩
  · rw [hres, hacc] at href
    cases href
  · exact ⟨entry, hatt, hstage, hentry, hsettled⟩

/-! ## The fence -/

theorem fenced_revokeDevice (state : RouteState) (hvalid : validIdentifier deviceFingerprint = true)
    : (state.revokeDevice deviceFingerprint).fenced deviceFingerprint = true := by
  unfold revokeDevice fenced
  rw [hvalid]
  split
  · contradiction
  · split <;> simp

theorem fenced_mono_revokeDevice {other : String} (h : state.fenced deviceFingerprint = true) :
    (state.revokeDevice other).fenced deviceFingerprint = true := by
  unfold revokeDevice
  split
  · exact h
  unfold fenced at h ⊢
  split
  · simp
  · simp only [Bool.or_eq_true, decide_eq_true_eq, Finset.mem_insert] at h ⊢
    exact h.imp_right .inr

/-- Only a disposal lifts the fence. -/
theorem fenced_next (h : state.fenced deviceFingerprint = true)
    (hop : op ≠ .dispose) : (routeOwner.next state op).fenced deviceFingerprint = true := by
  by_cases hrevoke : ∃ other, op = .revokeDevice other
  · obtain ⟨_, rfl⟩ := hrevoke
    exact fenced_mono_revokeDevice h
  obtain ⟨-, hrev, hoverflow⟩ :=
    sameFences_next state op hop fun other heq => hrevoke ⟨other, heq⟩
  unfold fenced at h ⊢
  rw [hrev, hoverflow]
  exact h

/-! ## One step -/

theorem record_admitted (h : history.admitted = state.nextAttempt) (op : RouteOp) :
    (history.record key (op, routeOwner.answer state op)).admitted =
      (routeOwner.next state op).nextAttempt := by
  have hkeeps : (∀ actor claim env, op ≠ .claim actor claim env) →
      (routeOwner.next state op).nextAttempt = state.nextAttempt := by
    intro hop
    rcases starts_cases state op with hnone | ⟨actor, claim, env, -, heq, -⟩
    · exact hnone.counter
    · exact absurd heq (hop actor claim env)
  cases op with
  | claim actor claim env =>
    change (history.record key (.claim actor claim env,
      .claimed (state.claim actor claim env).2)).admitted =
        (state.claim actor claim env).1.nextAttempt
    rcases claim_admitted_or state actor claim env with ⟨chan, -, heq⟩ | ⟨hstate, href⟩
    · rw [heq]
      exact congrArg (· + 1) h
    rw [hstate]
    cases hverdict : (state.claim actor claim env).2 with
    | admitted chan => exact absurd hverdict (href chan)
    | refused | awaited | cached => exact h
  | settle id env =>
    refine Eq.trans ?_ (h.trans (hkeeps fun _ _ _ heq => by cases heq).symm)
    change (history.record key (.settle id env, .settled (state.settle id env).2)).admitted = _
    cases (state.settle id env).2 with
    | none => rfl
    | some =>
      unfold record
      dsimp only
      split <;> rfl
  | grant | noticeCancel | drain | dispose | allowsLegacyInput | retireConnection =>
    exact h.trans (hkeeps fun _ _ _ heq => by cases heq).symm
  | retireSession | revokeDevice | retireDevice =>
    refine Eq.trans ?_ (h.trans (hkeeps fun _ _ _ heq => by cases heq).symm)
    unfold record
    dsimp only
    split <;> rfl

theorem Agrees.record_idle (h : state.Agrees key history)
    (hsound : state.Sound) (hentry : state.routes.lookup key = some entry)
    (hstatus : entry.status ≠ .retired) (hidle : ¬state.Acts key entry op)
    (hclaim : ∀ actor claim env chan, op = .claim actor claim env →
      routeOwner.answer state op = .claimed (.admitted chan) → key ≠ routeKey actor claim.sessionId)
    (hrevoke : ∀ deviceFingerprint, op = .revokeDevice deviceFingerprint →
      key.deviceFingerprint ≠ deviceFingerprint) :
    (history.record key (op, routeOwner.answer state op)).standing = history.standing := by
  obtain ⟨standingId, standingAttempt, _, hstand, hheld, hheldKey⟩ :=
    h.standing hsound hentry hstatus
  have hkeyed := (hsound.entries hentry).keyed
  cases op with
  | claim actor claim env =>
    have hkey := hclaim actor claim env
    cases hanswer : routeOwner.answer state (.claim actor claim env) with
    | claimed verdict =>
      cases verdict with
      | admitted chan =>
        exact if_neg (hkey chan rfl hanswer)
      | refused | awaited | cached => rfl
    | settled | allowed | done => rfl
  | settle id env =>
    cases hanswer : routeOwner.answer state (.settle id env) with
    | settled result =>
      cases result with
      | none => rfl
      | some result =>
        unfold RouteHistory.record
        dsimp only
        split
        · rename_i hacc
          obtain ⟨-, _, _, hatt, hgrant, hsettlingEntry, hsettled⟩ :=
            settle_accepted hanswer hacc
          have hother : standingId ≠ id := by
            rintro rfl
            rw [hheld, Option.some.injEq] at hatt
            subst hatt
            rw [hheldKey, hentry, Option.some.injEq] at hsettlingEntry
            subst hsettlingEntry
            exact hidle ⟨standingAttempt, hheld, hgrant, hheldKey, hsettled⟩
          rw [hstand, Option.map_some, Standing.settled, if_neg hother]
        · rfl
    | claimed | allowed | done => rfl
  | grant | noticeCancel | drain | allowsLegacyInput => rfl
  | retireConnection connectionId =>
    have hne : entry.actor.connectionId ≠ connectionId := hidle
    change history.standing.filter _ = history.standing
    rw [hstand]
    simp [hne]
  | retireSession sid =>
    have hne : key.sessionId ≠ sid := by
      rw [← hkeyed]
      exact hidle
    exact congrArg RouteHistory.standing (if_neg hne)
  | revokeDevice deviceFingerprint =>
    exact congrArg RouteHistory.standing (if_neg (hrevoke deviceFingerprint rfl))
  | retireDevice deviceFingerprint =>
    have hne : key.deviceFingerprint ≠ deviceFingerprint := by
      rw [← hkeyed]
      exact hidle
    exact congrArg RouteHistory.standing (if_neg hne)
  | dispose => exact absurd trivial hidle

/-- A step keeps table and history in agreement. -/
theorem Agrees.next (h : state.Agrees key history) (hsound : state.Sound)
    (hcount : history.admitted = state.nextAttempt)
    (hopen : (routeOwner.next state op).fenced key.deviceFingerprint = false) :
    (routeOwner.next state op).Agrees key
      (history.record key (op, routeOwner.answer state op)) := by
  -- What does not act on the entry leaves the newest claim standing.
  have hidle : ∀ {entry : RouteEntry}, state.routes.lookup key = some entry →
      entry.status ≠ .retired → ¬state.Acts key entry op →
      (∀ actor claim env chan, op = .claim actor claim env →
        routeOwner.answer state op = .claimed (.admitted chan) →
          key ≠ routeKey actor claim.sessionId) →
      (history.record key (op, routeOwner.answer state op)).standing = history.standing := by
    intro entry hentry hstatus hidle hclaim
    refine h.record_idle hsound hentry hstatus hidle hclaim ?_
    rintro _ rfl rfl
    have hactor := (hsound.entries hentry).actor
    simp only [validActor, Bool.and_eq_true] at hactor
    have hkeyed := congrArg RouteKey.deviceFingerprint (hsound.entries hentry).keyed
    have hfenced := state.fenced_revokeDevice hactor.1.1
    change entry.actor.deviceFingerprint = key.deviceFingerprint at hkeyed
    rw [hkeyed] at hfenced
    exact absurd (hfenced.symm.trans hopen) (by decide)
  refine ⟨?_, ?_⟩
  · intro entry hentry hstatus
    have hstep := hsound.entryStep key op
    rw [hentry] at hstep
    generalize hanswer : routeOwner.answer state op = answer at hstep
    generalize hheld : some entry = held at hstep
    cases hstep with
    | same hclaim hnot =>
      have hpre := hheld.symm
      obtain ⟨id, attempt, hstand, hatt, hkey⟩ := h.active entry hpre hstatus
      obtain ⟨later, hlater, hbecomes⟩ := attempt_becomes op hatt (hsound.fresh hatt)
      refine ⟨id, later, ?_, hlater, hbecomes.key.trans hkey⟩
      rw [← hstand]
      exact hanswer ▸ hidle hpre (by rw [hstatus]; decide) (hnot entry hpre)
        fun actor claim env chan hop hsame =>
          hclaim actor claim env chan hop (hanswer ▸ hsame)
    | pruned | disposed => cases hheld
    | blocked | failed | retired => cases hheld; cases hstatus
    | @activated id env attempt before result hatt hpre hkey hsettled hacc =>
      cases hheld
      have hblock : before.status = .blocked ∧ ∃ pending, before.pending = some pending ∧
          pending.id = id := by
        unfold isSettling at hsettled
        simp only [Bool.and_eq_true, decide_eq_true_eq, Option.any_eq_true] at hsettled
        obtain ⟨⟨⟨⟨-, pending, hpend, hid⟩, hstatus⟩, -⟩, -⟩ := hsettled
        exact ⟨hstatus, pending, hpend, hid⟩
      obtain ⟨hwas, pending, hpend, hid⟩ := hblock
      have hstand := h.blocked before pending (hkey ▸ hpre) hwas hpend
      obtain ⟨later, hlater, hbecomes⟩ :=
        attempt_becomes (.settle id env) hatt (hsound.fresh hatt)
      refine ⟨id, later, ?_, hlater, hbecomes.key.trans hkey.symm⟩
      have hrec : (history.record key (.settle id env, .settled (some result))).standing =
          history.standing.map (·.settled id env.epoch) :=
        congrArg RouteHistory.standing (if_pos hacc)
      rw [hrec, hstand, Option.map_some, Standing.settled, if_pos hid,
        (settle_accepted hanswer hacc).1, hid]
    | cleared _ hret => cases hheld; rw [hret] at hstatus; cases hstatus
  · intro entry pending hentry hstatus hpend
    have hstep := hsound.entryStep key op
    rw [hentry] at hstep
    generalize hanswer : routeOwner.answer state op = answer at hstep
    generalize hheld : some entry = held at hstep
    cases hstep with
    | same hclaim hnot =>
      have hpre := hheld.symm
      rw [← h.blocked entry pending hpre hstatus hpend]
      exact hanswer ▸ hidle hpre (by rw [hstatus]; decide) (hnot entry hpre)
        fun actor claim env chan hop hsame =>
          hclaim actor claim env chan hop (hanswer ▸ hsame)
    | pruned | disposed => cases hheld
    | @blocked actor claim env chan hkey =>
      cases hheld
      cases hpend
      have hrec : (history.record key (.claim actor claim env,
          .claimed (.admitted chan))).standing =
            some ⟨history.admitted + 1, actor.connectionId, none⟩ := if_pos hkey
      rw [hrec, hcount]
      rfl
    | activated | failed | retired => cases hheld; cases hstatus
    | cleared _ hret => cases hheld; rw [hret] at hstatus; cases hstatus

theorem agrees_run (workerEpoch : String) (key : RouteKey) (ops : List RouteOp) :
    let state := routeOwner.run (new workerEpoch) ops
    let history := routeHistory key (routeOwner.trace (new workerEpoch) ops)
    state.Sound ∧ history.admitted = state.nextAttempt ∧
      (state.fenced key.deviceFingerprint = false → state.Agrees key history) := by
  refine (routeOwner.along_true (new workerEpoch) ops).traced
    (P := fun past state => state.Sound ∧ (routeHistory key past).admitted = state.nextAttempt ∧
      (state.fenced key.deviceFingerprint = false → state.Agrees key (routeHistory key past))) ?_ ?_
  · refine ⟨sound_new workerEpoch, rfl, fun _ => ⟨?_, ?_⟩⟩
    · intro entry hentry
      cases hentry
    · intro entry pending hentry
      cases hentry
  rintro past state op ⟨hsound, hcount, hagrees⟩ -
  have hfold : routeHistory key (past ++ [(op, routeOwner.answer state op)]) =
      (routeHistory key past).record key (op, routeOwner.answer state op) :=
    List.foldl_concat _ _ _ _
  rw [hfold]
  refine ⟨hsound.next op, record_admitted hcount op, fun hopen => ?_⟩
  by_cases hdisp : op = .dispose
  · -- A disposal lifts every fence, and leaves no route behind.
    subst hdisp
    have hgone : (routeOwner.next state .dispose).routes.lookup key = none :=
      lookup_dispose hsound.disposed key
    refine ⟨fun entry hentry => ?_, fun entry pending hentry => ?_⟩
    · rw [hgone] at hentry
      cases hentry
    · rw [hgone] at hentry
      cases hentry
  · have hpre : state.fenced key.deviceFingerprint = false := by
      cases hfenced : state.fenced key.deviceFingerprint with
      | false => rfl
      | true =>
        rw [fenced_next hfenced hdisp] at hopen
        cases hopen
    exact (hagrees hpre).next hsound hcount hopen

/-! ## Revisions -/

/-- The route of a key outlives a step. A claim drops dead tombstones before it is looked at. -/
def Outlives (key : RouteKey) (state : RouteState) : RouteOp → Prop
  | .claim _ _ env => ((state.pruneRetired env.nowMs).routes.lookup key).isSome
  | op => ((routeOwner.next state op).routes.lookup key).isSome

def HoldsRevision (state : RouteState) (key : RouteKey) (revision : Nat) : Prop :=
  ∃ entry, state.routes.lookup key = some entry ∧ revision ≤ entry.latestRevision

/-- A route keeps its revision while it outlives the step. -/
theorem HoldsRevision.next {revision : Nat} (h : state.HoldsRevision key revision)
    (hsound : state.Sound) (hlives : state.Outlives key op) :
    (routeOwner.next state op).HoldsRevision key revision := by
  obtain ⟨_, hpre, hheld⟩ := h
  have hkept : ∀ {after : RouteEntry}, (routeOwner.next state op).routes.lookup key = some after →
      revision ≤ after.latestRevision := by
    intro after hafter
    have hstep := hsound.entryStep key op
    rw [hafter] at hstep
    generalize routeOwner.answer state op = answer at hstep
    generalize hlater : some after = later at hstep
    have hfound : ∀ {entry : RouteEntry}, state.routes.lookup key = some entry →
        revision ≤ entry.latestRevision := by
      intro entry hentry
      rw [hpre, Option.some.injEq] at hentry
      exact hentry ▸ hheld
    cases hstep with
    | same => exact hfound hlater.symm
    | pruned | disposed => cases hlater
    | @blocked actor claim env chan hkey hadmits =>
      cases hlater
      obtain ⟨entry, hentry⟩ := Option.isSome_iff_exists.mp hlives
      have hnewer := (hadmits.route entry (hkey ▸ hentry)).2
      rcases pruned_cases state env.nowMs key with hsame | ⟨hgone, -⟩
      · rw [hsame] at hentry
        exact Nat.le_of_lt (Nat.lt_of_le_of_lt (hfound hentry) hnewer)
      · rw [hgone] at hentry
        cases hentry
    | activated _ hentry hkey | failed _ hentry hkey =>
      cases hlater
      have hkept := hfound (hkey ▸ hentry)
      exact hkept
    | cleared hentry | retired _ _ hentry =>
      cases hlater
      have hkept := hfound hentry
      exact hkept
  have hsome : ((routeOwner.next state op).routes.lookup key).isSome := by
    cases op with
    | claim actor claim env =>
      change ((state.claim actor claim env).1.routes.lookup key).isSome
      rcases claim_admitted_or state actor claim env with ⟨chan, -, heq⟩ | ⟨hstate, -⟩
      · rw [heq]
        change (AList.lookup key ((state.pruneRetired env.nowMs).routes.insert
          (routeKey actor claim.sessionId) _)).isSome
        rw [Table.lookup_insert]
        split
        · rfl
        · exact hlives
      · rw [hstate]
        exact hlives
    | grant | noticeCancel | drain | settle | allowsLegacyInput | retireConnection
    | retireSession => exact hlives
    | revokeDevice deviceFingerprint => exact hlives
    | retireDevice deviceFingerprint nowMs => exact hlives
    | dispose => exact hlives
  obtain ⟨after, hafter⟩ := Option.isSome_iff_exists.mp hsome
  exact ⟨after, hafter, hkept hafter⟩

theorem HoldsRevision.run {revision : Nat} {ops : List RouteOp}
    (h : state.HoldsRevision key revision) (hsound : state.Sound)
    (hlives : routeOwner.Along (Outlives key) state ops) :
    (routeOwner.run state ops).HoldsRevision key revision :=
  (hlives.invariant (P := fun state => state.Sound ∧ state.HoldsRevision key revision)
    ⟨hsound, h⟩ fun _ op hstate hlives => ⟨hstate.1.next op, hstate.2.next hstate.1 hlives⟩).2

theorem admitted_cases {actor : RouteActor} {claim : RouteClaim} {env : ClaimEnv} {chan : UInt16}
    (h : routeOwner.answer state (.claim actor claim env) = .claimed (.admitted chan)) :
    (state.pruneRetired env.nowMs).Admissible actor claim ∧
      (routeOwner.next state (.claim actor claim env)).HoldsRevision
        (routeKey actor claim.sessionId) claim.revision := by
  rcases claim_admitted_or state actor claim env with ⟨channelId', hadmits, heq⟩ | ⟨-, href⟩
  · refine ⟨hadmits, blockedEntry actor claim (state.nextAttempt + 1), ?_, Nat.le_refl _⟩
    change (state.claim actor claim env).1.routes.lookup _ = _
    rw [heq]
    exact AList.lookup_insert _
  · exact absurd (RouteAnswer.claimed.inj h) (href chan)

/-- An epoch is current only if it was minted for the newest admitted claim of its device, tab and
session, over the same connection, and nothing has taken it away since; and while a route lives,
each claim it admits has a greater revision than the claims before it. -/
theorem current_epoch_is_newest (workerEpoch : String) (ops : List RouteOp) :
    let state := routeOwner.run (new workerEpoch) ops
    (∀ actor sid epoch, state.isCurrent actor sid epoch = true →
      ∃ attempt, (routeHistory (routeKey actor sid)
        (routeOwner.trace (new workerEpoch) ops)).standing =
          some ⟨attempt, actor.connectionId, some epoch⟩) ∧
    ∀ key actor (first : RouteClaim) env channelId between actor' (second : RouteClaim) env'
        channelId',
      key = routeKey actor first.sessionId → key = routeKey actor' second.sessionId →
      routeOwner.answer state (.claim actor first env) = .claimed (.admitted channelId) →
      let claimed := routeOwner.next state (.claim actor first env)
      routeOwner.Along (Outlives key) claimed (between ++ [.claim actor' second env']) →
      routeOwner.answer (routeOwner.run claimed between) (.claim actor' second env') =
        .claimed (.admitted channelId') →
      first.revision < second.revision := by
  intro state
  refine ⟨?_, ?_⟩
  · intro actor sid epoch hcur
    obtain ⟨-, -, hagrees⟩ := agrees_run workerEpoch (routeKey actor sid) ops
    unfold isCurrent at hcur
    split at hcur
    · cases hcur
    split at hcur
    · cases hcur
    rename_i hopen
    obtain ⟨entry, hentry, hlive⟩ := (Option.any_eq_true _ _).mp hcur
    simp only [Bool.and_eq_true, decide_eq_true_eq] at hlive
    obtain ⟨⟨hact, hconn⟩, hepoch⟩ := hlive
    obtain ⟨id, -, hstand, -⟩ :=
      (hagrees ((Bool.not_eq_true _).mp hopen)).active entry hentry hact
    rw [hconn, hepoch] at hstand
    exact ⟨id, hstand⟩
  intro key actor first env channelId between actor' second env' channelId' hkey hkey' hfirst
    claimed hlives hsecond
  have hsound : claimed.Sound := (sound_run workerEpoch ops).next _
  rw [Transducer.along_concat] at hlives
  obtain ⟨entry, hentry, hheld⟩ :=
    HoldsRevision.run (hkey ▸ (admitted_cases hfirst).2) hsound hlives.1
  obtain ⟨pruned, hpruned⟩ := Option.isSome_iff_exists.mp hlives.2
  have hsame : pruned = entry := by
    rcases pruned_cases (routeOwner.run claimed between) env'.nowMs key with hsame | ⟨hgone, -⟩
    · rw [hsame, hentry, Option.some.injEq] at hpruned
      exact hpruned.symm
    · rw [hgone] at hpruned
      cases hpruned
  have hnewer := ((admitted_cases hsecond).1.route pruned (hkey' ▸ hpruned)).2
  rw [hsame] at hnewer
  exact Nat.lt_of_le_of_lt hheld hnewer

/-! ## Revocation -/

variable {deviceFingerprint : String}

/-- No disposal forgets the fences: the owner was disposed before, or fences every device. -/
def KeepsFences (state : RouteState) (op : RouteOp) : Prop :=
  op = .dispose → state.disposed = true ∨ state.revokeOverflow = true

/-- The device cannot come back: it is fenced out, or the owner is gone. -/
def ShutOut (deviceFingerprint : String) (state : RouteState) : Prop :=
  state.disposed = true ∨ state.fenced deviceFingerprint = true

theorem disposed_dispose (state : RouteState) : state.dispose.disposed = true := by
  unfold dispose
  split
  · assumption
  · rfl

/-- A revoked device stays shut out. -/
theorem ShutOut.next (h : ShutOut deviceFingerprint state) (op : RouteOp) :
    ShutOut deviceFingerprint (routeOwner.next state op) := by
  by_cases hdispose : op = .dispose
  · subst hdispose
    exact .inl (disposed_dispose state)
  · rcases h with hdisp | hfenced
    · exact .inl ((disposed_next state op hdispose).trans hdisp)
    · exact .inr (fenced_next hfenced hdispose)

theorem fenced_of_keeps (h : state.fenced deviceFingerprint = true) (hkeeps : state.KeepsFences op)
    : (routeOwner.next state op).fenced deviceFingerprint = true := by
  by_cases hdispose : op = .dispose
  · subst hdispose
    change state.dispose.fenced deviceFingerprint = true
    rcases hkeeps rfl with hdisp | hoverflow
    · rw [dispose, if_pos hdisp]
      exact h
    unfold dispose
    split
    · exact h
    · unfold fenced
      simp [cancelPending, hoverflow]
  · exact fenced_next h hdispose

variable {actor : RouteActor}

theorem ShutOut.isCurrent (h : ShutOut deviceFingerprint state) (hsound : state.Sound) (hactor : actor.deviceFingerprint = deviceFingerprint)
    (sid epoch : String) : state.isCurrent actor sid epoch = false := by
  unfold RouteState.isCurrent
  split
  · rfl
  split
  · rfl
  rename_i hopen
  rcases h with hdisp | hfenced
  · rw [hsound.disposed hdisp]
    rfl
  · rw [hactor] at hopen
    exact absurd hfenced hopen

theorem ShutOut.claim (h : ShutOut deviceFingerprint state)
    (hactor : actor.deviceFingerprint = deviceFingerprint) (claim : RouteClaim) (env : ClaimEnv)
    (channelId : UInt16) : (state.claim actor claim env).2 ≠ .admitted channelId := by
  rcases claim_admitted_or state actor claim env with ⟨_, hadmits, -⟩ | ⟨-, href⟩
  · rcases h with hdisp | hfenced
    · have hopen : state.disposed = false := hadmits.notDisposed
      rw [hopen] at hdisp
      cases hdisp
    · have hopen : state.fenced actor.deviceFingerprint = false := hadmits.unfenced
      rw [hactor, hfenced] at hopen
      cases hopen
  · exact href channelId

/-- After a revocation no route of the device is current and no claim of it is admitted, whatever
follows; and its epoch-less input is refused as long as no disposal forgets the fences. -/
theorem revocation_outlives_everything (workerEpoch deviceFingerprint : String)
    (earlier later : List RouteOp) :
    let revoked := routeOwner.run (new workerEpoch) (earlier ++ [.revokeDevice deviceFingerprint])
    let state := routeOwner.run revoked later
    ∀ actor : RouteActor, actor.deviceFingerprint = deviceFingerprint →
      (∀ sid epoch, state.isCurrent actor sid epoch = false) ∧
      (∀ claim env channelId, (state.claim actor claim env).2 ≠ .admitted channelId) ∧
      (routeOwner.Along KeepsFences revoked later →
        ∀ sid nowMs, (state.allowsLegacyInput actor sid nowMs).2 = false) := by
  intro revoked state actor hactor
  cases hvalid : validIdentifier deviceFingerprint with
  | false =>
    have hinv : validActor actor = false := by
      rw [validActor, hactor, hvalid, Bool.false_and, Bool.false_and]
    refine ⟨fun sid epoch => ?_, fun claim env channelId => ?_, fun _ sid nowMs => ?_⟩
    · unfold RouteState.isCurrent
      simp [hinv]
    · rcases claim_admitted_or state actor claim env with ⟨_, hadmits, -⟩ | ⟨-, href⟩
      · have hgood := hadmits.actorValid
        rw [hinv] at hgood
        cases hgood
      · exact href channelId
    · unfold RouteState.allowsLegacyInput
      simp [hinv]
  | true =>
    have hfenced : revoked.fenced deviceFingerprint = true := by
      rw [show revoked = _ from Transducer.run_concat _ _ _ _]
      exact fenced_revokeDevice _ hvalid
    have hsound : state.Sound := by
      have hrun := sound_run workerEpoch (earlier ++ [.revokeDevice deviceFingerprint] ++ later)
      rwa [Transducer.run_append] at hrun
    have hshut : ShutOut deviceFingerprint state :=
      routeOwner.invariant (P := ShutOut deviceFingerprint) (.inr hfenced)
        (fun _ op h => h.next op) later
    refine ⟨hshut.isCurrent hsound hactor, hshut.claim hactor, fun hkeeps => ?_⟩
    have hstill : state.fenced deviceFingerprint = true :=
      hkeeps.invariant (P := fun state => state.fenced deviceFingerprint = true) hfenced
        fun _ _ h hkeep => fenced_of_keeps h hkeep
    intro sid nowMs
    unfold RouteState.allowsLegacyInput
    split
    · rfl
    · rw [hactor, if_pos hstill]

/-- After a disposal a revoked device's epoch-less input passes. -/
theorem disposal_forgets_revocation :
    let state := routeOwner.run (new "w") [.revokeDevice "d", .dispose]
    (state.allowsLegacyInput ⟨"d", "t", "c"⟩ "s" 0).2 = true := by
  decide +kernel

end Roost.Worker.RouteState
