-- SUMMARY: A route waits only on an attempt whose task is still going.
import Roost.Worker.RouteTable

/-!
# Attempts and the routes that wait on them

A claim blocks its route until its attempt settles. The settlement leaves the route alone when
the route was retired after the grant, and nothing clears the mark it leaves then; in every
other case the mark goes with the attempt, so that later claims find the route free and its
tombstone can expire.
-/

namespace Roost.Worker.RouteState

open ClaimVerdict RouteEntry

variable {state : RouteState} {key : RouteKey} {entry after : RouteEntry} {att : Attempt}
  {id nowMs : Nat} {op : RouteOp} {answer : RouteAnswer}

/-! ## The table is sound -/

structure WaitsOn (state : RouteState) (key : RouteKey) (entry : RouteEntry) (attempt : Attempt) :
    Prop where
  key : attempt.key = key
  connection : attempt.connectionId = entry.actor.connectionId
  revision : attempt.claim.revision = entry.latestRevision
  cancelled : attempt.cancel.isSome → entry.status = .retired

/-- An entry is filed under its own key, is valid, and is in the state its status says. -/
structure WellFormed (key : RouteKey) (entry : RouteEntry) : Prop where
  keyed : routeKey entry.actor entry.sessionId = key
  actor : validActor entry.actor = true
  session : validIdentifier entry.sessionId = true
  active : entry.status = .active → entry.pending = none
  blocked : entry.status = .blocked → entry.pending.isSome
  retired : entry.status = .retired → entry.retiredUntil.isSome

/-- What holds of the owner in every state. -/
structure Sound (state : RouteState) : Prop where
  fresh : ∀ {id attempt}, state.attempts id = some attempt → id ≤ state.nextAttempt
  entries : ∀ {key entry}, state.routes.lookup key = some entry → WellFormed key entry
  disposed : state.disposed = true → ∀ key, state.routes.lookup key = none
  waits : ∀ {key entry pending}, state.routes.lookup key = some entry →
    entry.pending = some pending → ∃ attempt, state.attempts pending.id = some attempt ∧
      WaitsOn state key entry attempt
  draining : ∀ {id attempt}, state.attempts id = some attempt → attempt.stage = .draining →
    attempt.cancel.isSome

variable (workerEpoch : String)

theorem sound_new : (new workerEpoch).Sound where
  fresh h := by cases h
  entries h := by cases h
  disposed h := by cases h
  waits h := by cases h
  draining h := by cases h

theorem Sound.entryStep (h : state.Sound) (key : RouteKey) (op : RouteOp) :
    EntryStep state key op (routeOwner.answer state op)
      ((routeOwner.next state op).routes.lookup key) :=
  RouteState.entryStep state key op
    (fun _ hentry => ⟨(h.entries hentry).actor, (h.entries hentry).session⟩)
    fun hdone => h.disposed hdone key

theorem EntryStep.waiting (h : EntryStep state key op answer (some after))
    {pending : PendingAttempt} (hpend : after.pending = some pending) :
    (∃ before, state.routes.lookup key = some before ∧ before.pending = some pending ∧
        after.actor = before.actor ∧ after.latestRevision = before.latestRevision ∧
        (after = before ∧ ¬state.Acts key before op ∨ after.status = .retired ∧ Retires op)) ∨
      ∃ actor claim env channelId, op = .claim actor claim env ∧
        answer = .claimed (.admitted channelId) ∧ key = routeKey actor claim.sessionId ∧
          after = blockedEntry actor claim (state.nextAttempt + 1) := by
  generalize hafter : some after = held at h
  cases h with
  | same hclaim hidle =>
    exact .inl ⟨after, hafter.symm, hpend, rfl, rfl, .inl ⟨rfl, hidle after hafter.symm⟩⟩
  | pruned | disposed => cases hafter
  | blocked env channelId hkey =>
    cases hafter
    exact .inr ⟨_, _, env, channelId, rfl, rfl, hkey, rfl⟩
  | activated | failed | cleared =>
    cases hafter
    cases hpend
  | retired nowMs hop hentry =>
    cases hafter
    exact .inl ⟨_, hentry, hpend, rfl, rfl, .inr ⟨rfl, hop⟩⟩

theorem EntryStep.wellFormed (h : EntryStep state key op answer (some after))
    (hpre : ∀ {entry}, state.routes.lookup key = some entry → WellFormed key entry) :
    WellFormed key after := by
  generalize hafter : some after = held at h
  cases h with
  | same => exact hpre hafter.symm
  | pruned | disposed => cases hafter
  | blocked env chan hkey hadmits =>
    cases hafter
    exact ⟨hkey.symm, hadmits.actorValid, hadmits.sessionValid, fun h => (by cases h),
      fun _ => rfl, fun h => (by cases h)⟩
  | activated _ hentry hkey =>
    cases hafter
    obtain ⟨hkeyed, hactor, hsess, -⟩ := hpre (hkey ▸ hentry)
    exact ⟨hkeyed, hactor, hsess, fun _ => rfl, fun h => (by cases h), fun h => (by cases h)⟩
  | failed _ hentry hkey =>
    cases hafter
    obtain ⟨hkeyed, hactor, hsess, -⟩ := hpre (hkey ▸ hentry)
    exact ⟨hkeyed, hactor, hsess, fun h => (by cases h), fun h => (by cases h), fun _ => rfl⟩
  | cleared hentry hstatus =>
    cases hafter
    obtain ⟨hkeyed, hactor, hsess, -, -, hret⟩ := hpre hentry
    refine ⟨hkeyed, hactor, hsess, fun _ => rfl, fun h => ?_, hret⟩
    rw [show _ = RouteStatus.blocked from h] at hstatus
    cases hstatus
  | retired nowMs _ hentry =>
    cases hafter
    obtain ⟨hkeyed, hactor, hsess, -⟩ := hpre hentry
    exact ⟨hkeyed, hactor, hsess, fun h => (by cases h), fun h => (by cases h), fun _ => rfl⟩

/-! ## The counter, the attempts and the teardown -/

structure StartsNone (state later : RouteState) : Prop where
  counter : later.nextAttempt = state.nextAttempt
  attempts : ∀ id, state.attempts id = none → later.attempts id = none

theorem StartsNone.refl (state : RouteState) : StartsNone state state := ⟨rfl, fun _ h => h⟩

theorem StartsNone.setAttempt {later : RouteState} (h : StartsNone state later)
    (hatt : state.attempts id = some att) (changed : Attempt) :
    StartsNone state (later.setAttempt id changed) := by
  refine ⟨h.counter, fun other hnone => ?_⟩
  have hne : other ≠ id := by
    rintro rfl
    rw [hatt] at hnone
    cases hnone
  exact (Function.update_of_ne hne _ _).trans (h.attempts other hnone)

theorem startsNone_cancelPending (state : RouteState) (selects : RouteEntry → Bool)
    (reason : String) : StartsNone state (state.cancelPending selects reason) := by
  refine ⟨rfl, fun other hnone => ?_⟩
  simp only [cancelPending, hnone, Option.map_none]

theorem startsNone_retireWhere (state : RouteState) (identifier : String)
    (selects : RouteEntry → Bool) (nowMs : Nat) :
    StartsNone state (state.retireWhere identifier selects nowMs) := by
  unfold retireWhere
  split
  · exact .refl state
  · obtain ⟨hcount, hattempts⟩ :=
      startsNone_cancelPending (state.pruneRetired nowMs) selects "route_retired"
    exact ⟨hcount, hattempts⟩

theorem starts_cases (state : RouteState) (op : RouteOp) :
    StartsNone state (routeOwner.next state op) ∨
      ∃ actor claim env channelId, op = .claim actor claim env ∧
        (state.pruneRetired env.nowMs).Admissible actor claim ∧ routeOwner.next state op =
          (state.pruneRetired env.nowMs).admitClaim actor claim channelId := by
  cases op with
  | claim actor claim env =>
    change StartsNone state (state.claim actor claim env).1 ∨ _
    rcases claim_admitted_or state actor claim env with ⟨channelId, hadmits, heq⟩ | ⟨hstate, -⟩
    · refine .inr ⟨actor, claim, env, channelId, rfl, hadmits, ?_⟩
      change (state.claim actor claim env).1 = _
      rw [heq]
    · rw [hstate]
      exact .inl ⟨rfl, fun _ h => h⟩
  | grant =>
    -- Every other step finds its attempts started.
    refine .inl (atStage_cases (P := fun r => StartsNone state r.1) (fun _ => .refl state) ?_)
    exact fun att hatt _ => (StartsNone.refl state).setAttempt hatt _
  | noticeCancel =>
    refine .inl (atStage_cases (P := fun r => StartsNone state r.1) (fun _ => .refl state) ?_)
    intro att hatt _
    split
    · exact .refl state
    · exact (StartsNone.refl state).setAttempt hatt _
  | drain =>
    refine .inl (atStage_cases (P := fun r => StartsNone state r.1) (fun _ => .refl state) ?_)
    intro att hatt _
    refine StartsNone.setAttempt ?_ hatt _
    unfold clearDrainedPending
    split
    · exact .refl state
    · split
      · exact ⟨rfl, fun _ h => h⟩
      · exact .refl state
  | settle id env =>
    refine .inl (atStage_cases (P := fun r => StartsNone state r.1) (fun _ => .refl state) ?_)
    intro att hatt _
    refine StartsNone.setAttempt ?_ hatt _
    rcases settleGranted_cases state att id env with ⟨hstate, -⟩ |
      ⟨entry, -, -, ⟨-, hstate⟩ | ⟨-, hstate⟩⟩
    · rw [hstate]
      exact .refl state
    · rw [hstate]
      exact ⟨rfl, fun _ h => h⟩
    · rw [hstate]
      exact ⟨rfl, fun _ h => h⟩
  | allowsLegacyInput actor sid nowMs =>
    change StartsNone state (state.allowsLegacyInput actor sid nowMs).1 ∨ _
    left
    unfold RouteState.allowsLegacyInput
    split
    · exact .refl state
    split
    · exact .refl state
    dsimp only
    split
    · exact .refl state
    · split
      · exact ⟨rfl, fun _ h => h⟩
      · exact .refl state
  | retireConnection connectionId nowMs | retireSession sid nowMs =>
    exact .inl (startsNone_retireWhere state _ _ nowMs)
  | revokeDevice device =>
    change StartsNone state (state.revokeDevice device) ∨ _
    left
    unfold RouteState.revokeDevice
    split
    · exact .refl state
    · split <;> exact ⟨rfl, fun _ h => h⟩
  | retireDevice device nowMs => exact .inl (startsNone_retireWhere state _ _ nowMs)
  | dispose =>
    change StartsNone state state.dispose ∨ _
    left
    unfold RouteState.dispose
    split
    · exact .refl state
    · obtain ⟨hcount, hattempts⟩ :=
        startsNone_cancelPending state (fun _ => true) "route_owner_disposed"
      exact ⟨hcount, hattempts⟩

structure SameFences (state later : RouteState) : Prop where
  disposed : later.disposed = state.disposed
  revoked : later.revokedDevices = state.revokedDevices
  overflow : later.revokeOverflow = state.revokeOverflow

theorem SameFences.refl (state : RouteState) : SameFences state state := ⟨rfl, rfl, rfl⟩

theorem SameFences.setAttempt {later : RouteState} (h : SameFences state later)
    (changed : Attempt) : SameFences state (later.setAttempt id changed) :=
  ⟨h.disposed, h.revoked, h.overflow⟩

theorem sameFences_retireWhere (state : RouteState) (identifier : String)
    (selects : RouteEntry → Bool) (nowMs : Nat) :
    SameFences state (state.retireWhere identifier selects nowMs) := by
  unfold retireWhere
  split
  · exact .refl state
  · exact ⟨rfl, rfl, rfl⟩

theorem sameFences_next (state : RouteState) (op : RouteOp) (hdispose : op ≠ .dispose)
    (hrevoke : ∀ device, op ≠ .revokeDevice device) :
    SameFences state (routeOwner.next state op) := by
  cases op with
  | claim actor claim env =>
    change SameFences state (state.claim actor claim env).1
    rcases claim_admitted_or state actor claim env with ⟨chan, -, heq⟩ | ⟨hstate, -⟩
    · rw [heq]
      exact ⟨rfl, rfl, rfl⟩
    · rw [hstate]
      exact ⟨rfl, rfl, rfl⟩
  | grant =>
    exact atStage_cases (P := fun r => SameFences state r.1) (fun _ => .refl state)
      fun _ _ _ => ⟨rfl, rfl, rfl⟩
  | noticeCancel =>
    refine atStage_cases (P := fun r => SameFences state r.1) (fun _ => .refl state) ?_
    intro att _ _
    split
    · exact .refl state
    · exact ⟨rfl, rfl, rfl⟩
  | drain =>
    refine atStage_cases (P := fun r => SameFences state r.1) (fun _ => .refl state) ?_
    intro att _ _
    refine SameFences.setAttempt ?_ _
    unfold clearDrainedPending
    split
    · exact .refl state
    · split
      · exact ⟨rfl, rfl, rfl⟩
      · exact .refl state
  | settle id env =>
    refine atStage_cases (P := fun r => SameFences state r.1) (fun _ => .refl state) ?_
    intro att _ _
    refine SameFences.setAttempt ?_ _
    rcases settleGranted_cases state att id env with ⟨hstate, -⟩ |
      ⟨entry, -, -, ⟨-, hstate⟩ | ⟨-, hstate⟩⟩
    · rw [hstate]
      exact .refl state
    · rw [hstate]
      exact ⟨rfl, rfl, rfl⟩
    · rw [hstate]
      exact ⟨rfl, rfl, rfl⟩
  | allowsLegacyInput actor sid nowMs =>
    change SameFences state (state.allowsLegacyInput actor sid nowMs).1
    unfold RouteState.allowsLegacyInput
    split
    · exact .refl state
    split
    · exact .refl state
    dsimp only
    split
    · exact .refl state
    · split
      · exact ⟨rfl, rfl, rfl⟩
      · exact .refl state
  | retireConnection conn nowMs | retireSession sid nowMs =>
    exact sameFences_retireWhere state _ _ nowMs
  | revokeDevice device => exact absurd rfl (hrevoke device)
  | retireDevice device nowMs => exact sameFences_retireWhere state _ _ nowMs
  | dispose => exact absurd rfl hdispose

theorem disposed_next (state : RouteState) (op : RouteOp) (hop : op ≠ .dispose) :
    (routeOwner.next state op).disposed = state.disposed := by
  by_cases hrevoke : ∃ device, op = .revokeDevice device
  · obtain ⟨device, rfl⟩ := hrevoke
    change (state.revokeDevice device).disposed = state.disposed
    unfold revokeDevice
    split
    · rfl
    · split <;> rfl
  · exact (sameFences_next state op hop fun device h => hrevoke ⟨_, h⟩).disposed

theorem lookup_dispose (hdisp : state.disposed = true → ∀ key, state.routes.lookup key = none)
    (key : RouteKey) : state.dispose.routes.lookup key = none := by
  unfold dispose
  split
  · rename_i hdone
    exact hdisp hdone key
  · rfl

/-! ## Every step keeps the table sound -/

theorem waitsOn_blocked (state : RouteState) (actor : RouteActor) (claim : RouteClaim)
    (chan : UInt16) :
    ∃ attempt, (state.admitClaim actor claim chan).attempts (state.nextAttempt + 1) =
        some attempt ∧ attempt.stage = .waiting ∧
      WaitsOn (state.admitClaim actor claim chan) (routeKey actor claim.sessionId)
        (blockedEntry actor claim (state.nextAttempt + 1)) attempt :=
  ⟨_, Function.update_self _ _ _, rfl, rfl, rfl, rfl, fun h => by cases h⟩

variable {pend : PendingAttempt}

theorem WaitsOn.becomes {before : RouteEntry} {later : Attempt}
    (h : WaitsOn state key before att)
    (hbecomes : state.Becomes op pend.id att later)
    (hwaits : ∀ {other entry held}, state.routes.lookup other = some entry →
      entry.pending = some held → held.id = pend.id → other = key)
    (hafter : (routeOwner.next state op).routes.lookup key = some after)
    (hactor : after.actor = before.actor) (hrev : after.latestRevision = before.latestRevision)
    (hstatus : after.status = before.status ∨ after.status = .retired) :
    WaitsOn (routeOwner.next state op) key after later where
  key := hbecomes.key.trans h.key
  connection := by rw [hbecomes.connection, h.connection, hactor]
  revision := by rw [hbecomes.claim, h.revision, hrev]
  cancelled := by
    intro hcancel
    rcases hbecomes.cancelled hcancel with hold | ⟨other, entry, held, hentry, hheld, hid, hret⟩
    · rcases hstatus with hsame | hret
      · rw [hsame]
        exact h.cancelled hold
      · exact hret
    · have hkey := hwaits hentry hheld hid
      subst hkey
      exact hret after hafter

/-- Every operation keeps routes and attempts matched. -/
theorem Sound.next (h : state.Sound) (op : RouteOp) : (routeOwner.next state op).Sound where
  fresh := by
    intro id attempt hatt
    rcases starts_cases state op with hnone | ⟨actor, claim, env, channelId, -, -, hnext⟩
    · rw [hnone.counter]
      cases hpre : state.attempts id with
      | none =>
        rw [hnone.attempts id hpre] at hatt
        cases hatt
      | some => exact h.fresh hpre
    rw [hnext] at hatt ⊢
    by_cases hid : id = state.nextAttempt + 1
    · exact Nat.le_of_eq hid
    · have hpre : state.attempts id = some attempt :=
        (Function.update_of_ne hid _ _).symm.trans hatt
      exact Nat.le_succ_of_le (h.fresh hpre)
  entries := by
    intro key entry hentry
    have hstep := h.entryStep key op
    rw [hentry] at hstep
    exact hstep.wellFormed h.entries
  disposed := by
    intro hdisp key
    by_cases hop : op = .dispose
    · subst hop
      exact lookup_dispose h.disposed key
    rw [disposed_next state op hop] at hdisp
    have hnone := h.disposed hdisp key
    cases hafter : (routeOwner.next state op).routes.lookup key with
    | none => rfl
    | some after =>
      have hstep := h.entryStep key op
      rw [hafter] at hstep
      generalize routeOwner.answer state op = answer at hstep
      generalize hheld : some after = held at hstep
      cases hstep with
      | same =>
        rw [hnone] at hheld
        cases hheld
      | pruned | disposed => cases hheld
      | blocked env channelId hkey hadmits =>
        have hopen : state.disposed = false := hadmits.notDisposed
        rw [hopen] at hdisp
        cases hdisp
      | activated _ hentry hkey | failed _ hentry hkey =>
        rw [← hkey, hnone] at hentry
        cases hentry
      | cleared hentry | retired nowMs _ hentry =>
        rw [hnone] at hentry
        cases hentry
  waits := by
    intro key entry pending hentry hpend
    have hstep := h.entryStep key op
    rw [hentry] at hstep
    rcases hstep.waiting hpend with
      ⟨before, hpre, hheld, hactor, hrev, hstatus⟩ |
      ⟨actor, claim, env, channelId, hop, hanswer, hkey, rfl⟩
    · obtain ⟨attempt, hatt, hwaits⟩ := h.waits hpre hheld
      obtain ⟨later, hlater, hbecomes⟩ := attempt_becomes op hatt (h.fresh hatt)
      refine ⟨later, hlater, hwaits.becomes hbecomes ?_ hentry hactor hrev ?_⟩
      · -- Two entries that wait on one attempt are one entry.
        intro other otherEntry held hother hotherHeld hid
        obtain ⟨_, hfound, hfoundWaits⟩ := h.waits hother hotherHeld
        rw [hid, hatt, Option.some.injEq] at hfound
        rw [← hfoundWaits.key, ← hfound, hwaits.key]
      · rcases hstatus with ⟨hsame, -⟩ | ⟨hret, -⟩
        · exact .inl (congrArg status hsame)
        · exact .inr hret
    cases hpend
    subst hop
    rcases claim_admitted_or state actor claim env with ⟨channelId', -, heq⟩ | ⟨-, href⟩
    · obtain ⟨attempt, hatt, -, hwaits⟩ :=
        waitsOn_blocked (state.pruneRetired env.nowMs) actor claim channelId'
      have hnext : routeOwner.next state (.claim actor claim env) =
          (state.pruneRetired env.nowMs).admitClaim actor claim channelId' :=
        congrArg Prod.fst heq
      rw [hnext, hkey]
      exact ⟨attempt, hatt, hwaits⟩
    · exact absurd (RouteAnswer.claimed.inj hanswer) (href channelId)
  draining := by
    intro id attempt hatt hstage
    cases hpre : state.attempts id with
    | some =>
      obtain ⟨_, hlater, hbecomes⟩ := attempt_becomes op hpre (h.fresh hpre)
      rw [hatt, Option.some.injEq] at hlater
      subst hlater
      rcases hbecomes.draining hstage with hdrain | hcancel
      · exact hbecomes.stays (h.draining hpre hdrain)
      · exact hbecomes.stays hcancel
    | none =>
      rcases starts_cases state op with hnone | ⟨actor, claim, env, channelId, -, -, hnext⟩
      · rw [hnone.attempts id hpre] at hatt
        cases hatt
      rw [hnext] at hatt
      by_cases hid : id = state.nextAttempt + 1
      · subst hid
        have hnew : ((state.pruneRetired env.nowMs).admitClaim actor claim
            channelId).attempts (state.nextAttempt + 1) = some _ := Function.update_self _ _ _
        rw [hnew, Option.some.injEq] at hatt
        rw [← hatt] at hstage
        cases hstage
      · have hold : state.attempts id = some attempt :=
          (Function.update_of_ne hid _ _).symm.trans hatt
        rw [hpre] at hold
        cases hold

theorem sound_run (ops : List RouteOp) : (routeOwner.run (new workerEpoch) ops).Sound :=
  routeOwner.invariant (sound_new workerEpoch) (fun _ op h => h.next op) ops

/-- Whatever a route waits on is an attempt of its own, and no other route waits on it. -/
def PendingOwned (state : RouteState) : Prop :=
  ∀ key entry pending, state.routes.lookup key = some entry → entry.pending = some pending →
    (∃ attempt, state.attempts pending.id = some attempt ∧ WaitsOn state key entry attempt) ∧
      ∀ other entry' pending', state.routes.lookup other = some entry' →
        entry'.pending = some pending' → pending'.id = pending.id → other = key

/-- In every run each pending attempt is owned by the one route it blocks. -/
theorem pending_owned (ops : List RouteOp) :
    (routeOwner.run (new workerEpoch) ops).PendingOwned := by
  intro key entry pending hentry hpending
  have hsound := sound_run workerEpoch ops
  obtain ⟨attempt, hattempt, hwaits⟩ := hsound.waits hentry hpending
  refine ⟨⟨attempt, hattempt, hwaits⟩, fun other entry' pending' hentry' hpending' hid => ?_⟩
  obtain ⟨_, hattempt', hwaits'⟩ := hsound.waits hentry' hpending'
  rw [hid, hattempt] at hattempt'
  cases hattempt'
  exact hwaits'.key.symm.trans hwaits.key

/-! ## What a route waits on -/

def KeepsGranted (state : RouteState) : RouteOp → Prop
  | .settle id _ => ∀ attempt ∈ state.attempts id, attempt.stage = .granted →
      ∀ entry ∈ state.routes.lookup attempt.key,
        (entry.pending.any fun pending => decide (pending.id = id)) → entry.status = .blocked
  | _ => True

instance decidableKeepsGranted (state : RouteState) (op : RouteOp) :
    Decidable (state.KeepsGranted op) := by
  cases op <;> dsimp only [KeepsGranted] <;> infer_instance

/-- Every route waits on an attempt of its own whose task is still going. -/
def WaitsOnLiving (state : RouteState) : Prop :=
  ∀ key entry pending, state.routes.lookup key = some entry → entry.pending = some pending →
    ∃ attempt, state.attempts pending.id = some attempt ∧ attempt.key = key ∧
      attempt.stage ≠ .finished

theorem WaitsOn.isSettling (h : WaitsOn state key entry att) (hopen : state.disposed = false)
    (hstatus : entry.status = .blocked)
    (hpend : entry.pending = some pend) : state.isSettling att pend.id entry = true := by
  unfold RouteState.isSettling
  simp [hopen, hstatus, hpend, h.revision, h.connection]

/-- A route waits only on a living attempt. -/
theorem WaitsOnLiving.next (h : state.WaitsOnLiving) (hsound : state.Sound)
    (hkeeps : state.KeepsGranted op) : (routeOwner.next state op).WaitsOnLiving := by
  intro key after pending hafter hpend
  have hstep := hsound.entryStep key op
  rw [hafter] at hstep
  rcases hstep.waiting hpend with
    ⟨before, hpre, hheld, -, -, hhow⟩ | ⟨actor, claim, env, channelId, hop, hanswer, hkey, rfl⟩
  · obtain ⟨attempt, hatt, hattemptKey, hliving⟩ := h key before pending hpre hheld
    obtain ⟨_, hfound, hwaits⟩ := hsound.waits hpre hheld
    rw [hatt, Option.some.injEq] at hfound
    subst hfound
    obtain ⟨later, hlater, hbecomes⟩ := attempt_becomes op hatt (hsound.fresh hatt)
    refine ⟨later, hlater, hbecomes.key.trans hattemptKey, fun hfin => ?_⟩
    rcases hbecomes.finished hfin with
      hdone | ⟨hdrain, nowMs, rfl⟩ | ⟨hgrant, env, rfl⟩
    · exact hliving hdone
    · -- The ticket that drains belongs to a retired route, which the drain clears.
      have hret := hwaits.cancelled (hsound.draining hatt hdrain)
      rcases hhow with ⟨-, hidle⟩ | ⟨-, hretire⟩
      · exact hidle ⟨attempt, pending, hatt, hdrain, hattemptKey, hret, hheld, rfl⟩
      · exact hretire
    rcases hhow with ⟨-, hidle⟩ | ⟨-, hretire⟩
    · have hopen : state.disposed = false := by
        cases hdisp : state.disposed with
        | false => rfl
        | true =>
          rw [hsound.disposed hdisp key] at hpre
          cases hpre
      have hblock : before.status = .blocked :=
        hkeeps attempt hatt hgrant before (hattemptKey.symm ▸ hpre) (by rw [hheld]; simp)
      exact hidle ⟨attempt, hatt, hgrant, hattemptKey, hwaits.isSettling hopen hblock hheld⟩
    · exact hretire
  · cases hpend
    subst hop
    rcases claim_admitted_or state actor claim env with ⟨channelId', -, heq⟩ | ⟨-, href⟩
    · obtain ⟨attempt, hatt, hstage, hwaits⟩ :=
        waitsOn_blocked (state.pruneRetired env.nowMs) actor claim channelId'
      have hnext : routeOwner.next state (.claim actor claim env) =
          (state.pruneRetired env.nowMs).admitClaim actor claim channelId' :=
        congrArg Prod.fst heq
      rw [hnext]
      refine ⟨attempt, hatt, hwaits.key.trans hkey.symm, ?_⟩
      rw [hstage]
      exact fun hfin => by cases hfin
    · exact absurd (RouteAnswer.claimed.inj hanswer) (href channelId)

theorem waitsOnLiving_run {workerEpoch : String} {ops : List RouteOp}
    (h : routeOwner.Along KeepsGranted (new workerEpoch) ops) :
    (routeOwner.run (new workerEpoch) ops).WaitsOnLiving := by
  refine (h.invariant (P := fun state => state.Sound ∧ state.WaitsOnLiving)
    ⟨sound_new workerEpoch, fun _ _ _ hentry => by cases hentry⟩ ?_).2
  intro state op hstate hkeeps
  exact ⟨hstate.1.next op, hstate.2.next hstate.1 hkeeps⟩

/-! ## What the mark stands in the way of -/

theorem preAdmissionFailure_ne_busy (chan : Option UInt16) (budget : ClaimBudget) :
    preAdmissionFailure chan budget ≠ some routeClaimBusy := by
  unfold preAdmissionFailure
  split
  · decide
  · split
    · decide
    · split <;> decide

theorem answers_ne_busy {actor : RouteActor} {claim : RouteClaim} {latestRevision : Nat} :
    entry.answers actor claim ≠ some (.refused latestRevision routeClaimBusy) := by
  unfold answers
  dsimp only
  split
  · simp
  · simp
  split
  · intro h
    have hreason := (refused.inj (Option.some.inj h)).2
    revert hreason
    decide
  · simp

theorem busy_cases {actor : RouteActor} {claim : RouteClaim} {env : ClaimEnv} {latestRevision : Nat}
    (h : state.claimVerdict actor claim env = .refused latestRevision routeClaimBusy) :
    state.disposed = true ∨ (state.routes.lookup (routeKey actor claim.sessionId) = none ∧
        terminalInputRouteMaxEntries ≤ state.routes.keys.length) ∨
      env.reserveRefusal = some routeClaimBusy ∨ env.admitRefusal = some routeClaimBusy ∨
      ∃ entry pending, state.routes.lookup (routeKey actor claim.sessionId) = some entry ∧
        entry.pending = some pending := by
  have hother : ∀ {rev : Nat} {reason : String}, reason ≠ routeClaimBusy →
      refused rev reason ≠ .refused latestRevision routeClaimBusy :=
    fun hne heq => hne (refused.inj heq).2
  unfold claimVerdict at h
  split at h
  · exact absurd h (hother (by decide))
  split at h
  · rename_i hdisp
    exact .inl hdisp
  split at h
  · exact absurd h (hother (by decide))
  split at h
  · exact absurd h (hother (by decide))
  dsimp only at h
  split at h
  · rename_i hverdict
    obtain ⟨_, -, hentry⟩ := Option.bind_eq_some_iff.mp hverdict
    rw [h] at hentry
    exact absurd hentry answers_ne_busy
  split at h
  · rename_i hfail
    rw [(refused.inj h).2] at hfail
    exact absurd hfail (preAdmissionFailure_ne_busy _ _)
  split at h
  · rename_i hfull
    simp only [Bool.and_eq_true, Option.isNone_iff_eq_none, decide_eq_true_eq] at hfull
    exact .inr (.inl hfull)
  split at h
  · rename_i hpend
    obtain ⟨entry, hentry, hsome⟩ := (Option.any_eq_true _ _).mp hpend
    obtain ⟨pending, hheld⟩ := Option.isSome_iff_exists.mp hsome
    exact .inr (.inr (.inr (.inr ⟨entry, pending, hentry, hheld⟩)))
  split at h
  · rename_i hres
    rw [(refused.inj h).2] at hres
    exact .inr (.inr (.inl hres))
  · exact absurd h (hother (by decide))
  · rename_i hadmit
    rw [(refused.inj h).2] at hadmit
    exact .inr (.inr (.inr (.inl hadmit)))
  · cases h

/-- As long as no retirement overtakes a granted attempt, a finished attempt is no route's pending
attempt; a claim that finds the owner busy finds it disposed, full, out of budget, or waiting on an
attempt that is still going; and a tombstone whose attempts have finished goes at the end of its
lease. -/
theorem finished_attempt_frees_route (ops : List RouteOp)
    (h : routeOwner.Along KeepsGranted (new workerEpoch) ops) :
    let state := routeOwner.run (new workerEpoch) ops
    (∀ id attempt, state.attempts id = some attempt → attempt.stage = .finished →
      ∀ key entry pending, state.routes.lookup key = some entry → entry.pending = some pending →
        pending.id ≠ id) ∧
    (∀ actor claim env latestRevision,
      (state.claim actor claim env).2 = .refused latestRevision routeClaimBusy →
        let pruned := state.pruneRetired env.nowMs
        state.disposed = true ∨ (pruned.routes.lookup (routeKey actor claim.sessionId) = none ∧
            terminalInputRouteMaxEntries ≤ pruned.routes.keys.length) ∨
          env.reserveRefusal = some routeClaimBusy ∨ env.admitRefusal = some routeClaimBusy ∨
          ∃ id attempt, state.attempts id = some attempt ∧
            attempt.key = routeKey actor claim.sessionId ∧ attempt.stage ≠ .finished) ∧
    ∀ key entry, state.routes.lookup key = some entry → entry.status = .retired →
      (∀ id attempt, state.attempts id = some attempt → attempt.key = key →
        attempt.stage = .finished) →
      ∃ until_, entry.retiredUntil = some until_ ∧
        ∀ nowMs, until_ ≤ nowMs → (state.pruneRetired nowMs).routes.lookup key = none := by
  intro state
  have hliving : state.WaitsOnLiving := waitsOnLiving_run h
  have hsound : state.Sound := sound_run workerEpoch ops
  clear_value state
  refine ⟨?_, ?_, ?_⟩
  · intro id attempt hatt hfin key entry pending hentry hpend hid
    obtain ⟨_, hfound, -, hgoing⟩ := hliving key entry pending hentry hpend
    rw [hid, hatt, Option.some.injEq] at hfound
    exact hgoing (hfound ▸ hfin)
  · intro actor claim env latestRevision hbusy pruned
    have hverdict : pruned.claimVerdict actor claim env =
        .refused latestRevision routeClaimBusy := by
      unfold RouteState.claim at hbusy
      dsimp only at hbusy
      split at hbusy
      · cases hbusy
      · exact hbusy
    rcases busy_cases hverdict with hdisp | hfull | hres | hadmit |
      ⟨entry, pending, hentry, hpend⟩
    · exact .inl hdisp
    · exact .inr (.inl hfull)
    · exact .inr (.inr (.inl hres))
    · exact .inr (.inr (.inr (.inl hadmit)))
    have hpre : state.routes.lookup (routeKey actor claim.sessionId) = some entry := by
      rcases pruned_cases state env.nowMs (routeKey actor claim.sessionId) with
        hsame | ⟨hgone, -⟩
      · exact hsame.symm.trans hentry
      · rw [hgone] at hentry
        cases hentry
    obtain ⟨attempt, hatt, hkey, hgoing⟩ := hliving _ entry pending hpre hpend
    exact .inr (.inr (.inr (.inr ⟨_, attempt, hatt, hkey, hgoing⟩)))
  · intro key entry hentry hstatus hdone
    obtain ⟨until_, hlease⟩ := Option.isSome_iff_exists.mp ((hsound.entries hentry).retired hstatus)
    refine ⟨until_, hlease, fun nowMs hnow => ?_⟩
    cases hpend : entry.pending with
    | none =>
      rw [lookup_pruneRetired, hentry]
      simp [expired, hstatus, hpend, hlease, hnow]
    | some pending =>
      obtain ⟨attempt, hatt, hkey, hgoing⟩ := hliving key entry pending hentry hpend
      exact absurd (hdone pending.id attempt hatt hkey) hgoing

/-- A browser tab on a connection. -/
def tabActor : RouteActor := ⟨"d", "t", "c"⟩

def tabClaim (revision : Nat) : RouteClaim := ⟨"r", "s", revision, "w"⟩

def openBudget : ClaimBudget := ⟨true, true, false⟩

def openEnv (nowMs : Nat) : ClaimEnv := ⟨nowMs, some 1, openBudget, none, none⟩

/-- A claim that settles leaves no mark. -/
theorem finished_attempt_frees_route_settled :
    ((((routeOwner.run (new "w") [.claim tabActor (tabClaim 1) (openEnv 0), .grant 1,
      .settle 1 ⟨0, some 1, openBudget, some "e"⟩]).routes.lookup (routeKey tabActor "s")).bind
        pending).map PendingAttempt.id) ≠ some 1 := by
  intro hmark
  obtain ⟨pending, hpend, hid⟩ := Option.map_eq_some_iff.mp hmark
  obtain ⟨entry, hentry, hheld⟩ := Option.bind_eq_some_iff.mp hpend
  have hfin : ((routeOwner.run (new "w") [.claim tabActor (tabClaim 1) (openEnv 0), .grant 1,
      .settle 1 ⟨0, some 1, openBudget, some "e"⟩]).attempts 1).map Attempt.stage =
        some .finished := by decide +kernel
  obtain ⟨attempt, hatt, hstage⟩ := Option.map_eq_some_iff.mp hfin
  exact (finished_attempt_frees_route "w" _ (by decide +kernel)).1 1 attempt hatt hstage _
    entry pending hentry hheld hid

/-- The connection closes after the grant: the attempt has finished, and its route still waits on it
after the lease, refusing a newer claim. -/
theorem overtaken_attempt_strands_route :
    let state := routeOwner.run (new "w") [.claim tabActor (tabClaim 1) (openEnv 0), .grant 1,
      .retireConnection "c" 0, .settle 1 ⟨0, some 1, openBudget, some "e"⟩]
    let later := terminalInputRouteTombstone + 1
    (state.attempts 1).map Attempt.stage = some .finished ∧
      (((state.pruneRetired later).routes.lookup (routeKey tabActor "s")).bind
        pending).map PendingAttempt.id = some 1 ∧
      (state.claim tabActor (tabClaim 2) (openEnv later)).2 = .refused 1 routeClaimBusy := by
  decide +kernel

end Roost.Worker.RouteState
