-- SUMMARY: What one step of the route owner does to a route and an attempt.
import Roost.Worker.RouteOwner

/-!
# Steps on one route

Everything the owner promises is about one device, tab and session at a time. Each step is
described by what it does to the entry of one key and to one attempt; the invariants are read
off these descriptions.
-/

namespace Roost.Worker.RouteState

open Option (map_none map_some some)

variable {state : RouteState} {key : RouteKey} {entry : RouteEntry} {att : Attempt}
  {id nowMs : Nat}

/-! ## Lookups -/

@[simp] theorem lookup_pruneRetired (state : RouteState) (nowMs : Nat) (key : RouteKey) :
    (state.pruneRetired nowMs).routes.lookup key =
      (state.routes.lookup key).filter fun entry => !entry.expired nowMs :=
  Table.lookup_retain _ key

@[simp] theorem lookup_setEntry (state : RouteState) (key other : RouteKey) (entry : RouteEntry) :
    (state.setEntry key entry).routes.lookup other =
      if other = key then some entry else state.routes.lookup other :=
  Table.lookup_insert key other entry

theorem pruned_cases (state : RouteState) (nowMs : Nat) (key : RouteKey) :
    (state.pruneRetired nowMs).routes.lookup key = state.routes.lookup key ∨
      (state.pruneRetired nowMs).routes.lookup key = none ∧ ∃ entry,
        state.routes.lookup key = some entry ∧ entry.expired nowMs := by
  rw [lookup_pruneRetired]
  cases hentry : state.routes.lookup key with
  | none => exact .inl rfl
  | some entry =>
    cases hexpire : entry.expired nowMs with
    | true => exact .inr ⟨by simp [hexpire], entry, rfl, hexpire⟩
    | false => exact .inl (by simp [hexpire])

variable {identifier : String} {actor : RouteActor} {claim : RouteClaim} {op : RouteOp}

theorem lookup_retireWhere (hvalid : validIdentifier identifier) (selects : RouteEntry → Bool) :
    (state.retireWhere identifier selects nowMs).routes.lookup key =
      ((state.pruneRetired nowMs).routes.lookup key).map fun entry =>
        if selects entry then entry.retire state.workerEpoch nowMs "route_retired" else entry := by
  unfold retireWhere
  rw [hvalid]
  exact Table.lookup_mapValues _ key

theorem attempts_cancelPending (state : RouteState) (selects : RouteEntry → Bool) (reason : String) (id : Nat) :
    (state.cancelPending selects reason).attempts id = state.attempts id ∨
      ∃ key entry pending attempt, state.routes.lookup key = some entry ∧ selects entry ∧
        entry.pending = some pending ∧ pending.id = id ∧ state.attempts id = some attempt ∧
          (state.cancelPending selects reason).attempts id = some (attempt.request reason) := by
  unfold cancelPending
  dsimp only
  cases hatt : state.attempts id with
  | none => exact .inl rfl
  | some attempt =>
    rw [map_some]
    split
    · rename_i hany
      obtain ⟨held, hheld, hsel⟩ := List.any_eq_true.mp hany
      rw [Bool.and_eq_true] at hsel
      obtain ⟨pending, hpend, hid⟩ := (Option.any_eq_true _ _).mp hsel.2
      exact .inr ⟨held.1, held.2, pending, attempt, Table.lookup_eq_some_iff.mpr hheld,
        hsel.1, hpend, by simpa using hid, rfl, rfl⟩
    · exact .inl rfl

/-! ## Admission -/

theorem answers_not_admitted {chan : UInt16} :
    entry.answers actor claim ≠ some (.admitted chan) := by
  unfold RouteEntry.answers
  dsimp only
  split
  · simp
  · simp
  · split <;> simp

theorem latestRevision_lt_of_answers
    (h : entry.answers actor claim = none) : entry.latestRevision < claim.revision := by
  unfold RouteEntry.answers at h
  dsimp only at h
  split at h
  · cases h
  · cases h
  split at h
  · cases h
  · rename_i hnewer
    exact Nat.lt_of_not_le hnewer

/-- What an admission was checked against. -/
structure Admissible (state : RouteState) (actor : RouteActor) (claim : RouteClaim) : Prop where
  actorValid : validActor actor
  sessionValid : validIdentifier claim.sessionId
  notDisposed : state.disposed = false
  unfenced : state.fenced actor.deviceFingerprint = false
  route : ∀ entry, state.routes.lookup (routeKey actor claim.sessionId) = some entry →
    entry.pending = none ∧ entry.latestRevision < claim.revision

theorem admissible_of_verdict {env : ClaimEnv} {chan : UInt16}
    (h : state.claimVerdict actor claim env = .admitted chan) : state.Admissible actor claim := by
  unfold claimVerdict at h
  split at h
  · cases h
  rename_i hvalid
  simp only [Bool.or_eq_true, Bool.not_eq_true', not_or, Bool.not_eq_false] at hvalid
  split at h
  · cases h
  rename_i hopen
  split at h
  · cases h
  rename_i hfence
  split at h
  · cases h
  dsimp only at h
  split at h
  · rename_i hverdict
    obtain ⟨_, -, hentry⟩ := Option.bind_eq_some_iff.mp hverdict
    rw [h] at hentry
    exact absurd hentry answers_not_admitted
  rename_i hanswer
  split at h
  · cases h
  split at h
  · cases h
  split at h
  · cases h
  rename_i hpend
  refine ⟨hvalid.1.1.1.1.1, hvalid.1.1.1.2, by simpa using hopen,
    by simpa using hfence, fun entry hentry => ?_⟩
  rw [hentry] at hanswer hpend
  exact ⟨by simpa using hpend, latestRevision_lt_of_answers hanswer⟩

/-! ## One route -/

def Acts (state : RouteState) (key : RouteKey) (entry : RouteEntry) : RouteOp → Prop
  | .retireConnection connectionId _ => entry.actor.connectionId = connectionId
  | .retireSession sessionId _ => entry.sessionId = sessionId
  | .retireDevice deviceFingerprint _ => entry.actor.deviceFingerprint = deviceFingerprint
  | .dispose => True
  | .drain id _ => ∃ attempt pending, state.attempts id = some attempt ∧
      attempt.stage = .draining ∧ attempt.key = key ∧ entry.status = .retired ∧
      entry.pending = some pending ∧ pending.id = id
  | .settle id _ => ∃ attempt, state.attempts id = some attempt ∧ attempt.stage = .granted ∧
      attempt.key = key ∧ state.isSettling attempt id entry
  | _ => False

/-- The step retires the routes it selects. -/
def Retires : RouteOp → Prop
  | .retireConnection _ _ => True
  | .retireSession _ _ => True
  | .retireDevice _ _ => True
  | _ => False

inductive EntryStep (state : RouteState) (key : RouteKey) :
    RouteOp → RouteAnswer → Option RouteEntry → Prop
  | same {op : RouteOp} {answer : RouteAnswer}
    (hclaim : ∀ actor claim env channelId, op = .claim actor claim env →
      answer = .claimed (.admitted channelId) → key ≠ routeKey actor claim.sessionId)
    (hidle : ∀ entry, state.routes.lookup key = some entry → ¬state.Acts key entry op) :
    EntryStep state key op answer (state.routes.lookup key)
  | pruned {op : RouteOp} {answer : RouteAnswer} {entry : RouteEntry}
    (hentry : state.routes.lookup key = some entry) (hstatus : entry.status = .retired) :
    EntryStep state key op answer none
  | blocked {actor : RouteActor} {claim : RouteClaim} (env : ClaimEnv) (channelId : UInt16)
    (hkey : key = routeKey actor claim.sessionId)
    (hadmits : (state.pruneRetired env.nowMs).Admissible actor claim) :
    EntryStep state key (.claim actor claim env) (.claimed (.admitted channelId))
      (some (blockedEntry actor claim (state.nextAttempt + 1)))
  | activated {id : Nat} {env : SettleEnv} {attempt : Attempt} {entry : RouteEntry}
    {result : RouteResult} (hatt : state.attempts id = some attempt)
    (hentry : state.routes.lookup attempt.key = some entry) (hkey : key = attempt.key)
    (hsettled : state.isSettling attempt id entry) (hacc : result.accepted = true) :
    EntryStep state key (.settle id env) (.settled (some result)) (some { entry with
      inputRouteEpoch := some result.inputRouteEpoch, status := .active, retiredUntil := none
      pending := none, latestResult := some result })
  | failed {id : Nat} {env : SettleEnv} {attempt : Attempt} {entry : RouteEntry}
    {result : RouteResult} (hatt : state.attempts id = some attempt)
    (hentry : state.routes.lookup attempt.key = some entry) (hkey : key = attempt.key)
    (hsettled : state.isSettling attempt id entry) :
    EntryStep state key (.settle id env) (.settled (some result)) (some { entry with
      inputRouteEpoch := none, status := .retired
      retiredUntil := some (env.nowMs + terminalInputRouteTombstone), pending := none
      latestResult := some result })
  | cleared {id nowMs : Nat} {answer : RouteAnswer} {entry : RouteEntry}
    (hentry : state.routes.lookup key = some entry) (hstatus : entry.status = .retired) :
    EntryStep state key (.drain id nowMs) answer (some { entry with pending := none })
  | retired {op : RouteOp} {answer : RouteAnswer} {entry : RouteEntry} (nowMs : Nat)
    (hop : Retires op) (hentry : state.routes.lookup key = some entry) :
    EntryStep state key op answer (some (entry.retire state.workerEpoch nowMs "route_retired"))
  | disposed : EntryStep state key .dispose .done none

theorem status_of_expired (h : entry.expired nowMs = true) : entry.status = .retired := by
  unfold RouteEntry.expired at h
  simp only [Bool.and_eq_true, decide_eq_true_eq] at h
  exact h.1.1

theorem EntryStep.ofPruned {answer : RouteAnswer}
    (hclaim : ∀ actor claim env chan, op = .claim actor claim env →
      answer = .claimed (.admitted chan) → key ≠ routeKey actor claim.sessionId)
    (hidle : ∀ entry, state.routes.lookup key = some entry → ¬state.Acts key entry op) :
    EntryStep state key op answer ((state.pruneRetired nowMs).routes.lookup key) := by
  rcases pruned_cases state nowMs key with hsame | ⟨hgone, entry, hentry, hexpire⟩
  · rw [hsame]
    exact .same hclaim hidle
  · rw [hgone]
    exact .pruned hentry (status_of_expired hexpire)

variable {selects : RouteEntry → Bool}

theorem EntryStep.ofRetireWhere {answer : RouteAnswer}
    (hop : Retires op)
    (hsel : ∀ entry, state.routes.lookup key = some entry → state.Acts key entry op →
      validIdentifier identifier = true ∧ selects entry = true) : EntryStep state key op answer
      ((state.retireWhere identifier selects nowMs).routes.lookup key) := by
  have hclaim : ∀ actor claim env chan, op = .claim actor claim env →
      answer = .claimed (.admitted chan) → key ≠ routeKey actor claim.sessionId := by
    rintro actor claim env _ rfl _
    cases hop
  cases hvalid : validIdentifier identifier with
  | false =>
    have hstay : state.retireWhere identifier selects nowMs = state := by
      unfold retireWhere
      rw [hvalid]
      rfl
    rw [hstay]
    refine .same hclaim fun entry hentry hacts => ?_
    rw [(hsel entry hentry hacts).1] at hvalid
    cases hvalid
  | true =>
    rw [lookup_retireWhere hvalid]
    rcases pruned_cases state nowMs key with hsame | ⟨hgone, entry, hentry, hexpire⟩
    · rw [hsame]
      cases hentry : state.routes.lookup key with
      | none =>
        rw [map_none, ← hentry]
        refine .same hclaim fun entry hsome => ?_
        rw [hentry] at hsome
        cases hsome
      | some entry =>
        rw [map_some]
        split
        · exact .retired nowMs hop hentry
        rename_i hnot
        rw [← hentry]
        refine .same hclaim fun other hother hacts => ?_
        rw [hentry, some.injEq] at hother
        subst hother
        exact hnot (hsel entry hentry hacts).2
    · rw [hgone, map_none]
      exact .pruned hentry (status_of_expired hexpire)

theorem settleGranted_cases (state : RouteState) (att : Attempt) (id : Nat) (env : SettleEnv) :
    ((state.settleGranted att id env).1 = state ∧
        (state.settleGranted att id env).2.accepted = false ∧
        ∀ entry, state.routes.lookup att.key = some entry → state.isSettling att id entry = false) ∨
      ∃ entry, state.routes.lookup att.key = some entry ∧ state.isSettling att id entry = true ∧
        let result := (state.settleGranted att id env).2
        (result.accepted = true ∧ (state.settleGranted att id env).1 =
            state.setEntry att.key { entry with
              inputRouteEpoch := some result.inputRouteEpoch, status := .active
              retiredUntil := none, pending := none, latestResult := some result }) ∨
          (result.accepted = false ∧ (state.settleGranted att id env).1 =
            state.setEntry att.key { entry with
              inputRouteEpoch := none, status := .retired
              retiredUntil := some (env.nowMs + terminalInputRouteTombstone), pending := none
              latestResult := some result }) := by
  unfold settleGranted
  cases hentry : state.routes.lookup att.key with
  | none => exact .inl ⟨rfl, rfl, fun entry h => by cases h⟩
  | some entry =>
    cases hsettled : state.isSettling att id entry with
    | false =>
      refine .inl ⟨by simp [hsettled], by simp [hsettled, routeResult], fun other hother => ?_⟩
      rw [some.injEq] at hother
      rw [← hother, hsettled]
    | true =>
      refine .inr ⟨entry, rfl, hsettled, ?_⟩
      simp only [hsettled, Bool.not_true, Bool.false_eq_true, if_false]
      split
      · exact .inr ⟨rfl, rfl⟩
      · exact .inr ⟨rfl, rfl⟩
      · exact .inl ⟨rfl, rfl⟩

theorem atStage_cases {stage : AttemptStage} {f : Attempt → RouteState × Option RouteResult}
    {P : RouteState × Option RouteResult → Prop}
    (hidle : (∀ att, state.attempts id = some att → att.stage ≠ stage) → P (state, none))
    (hstep : ∀ att, state.attempts id = some att → att.stage = stage → P (f att)) :
    P (state.atStage id stage f) := by
  unfold atStage
  cases hatt : state.attempts id with
  | none => exact hidle fun att h => by rw [hatt] at h; cases h
  | some att =>
    dsimp only
    split
    · rename_i hstage
      exact hstep att hatt hstage
    rename_i hstage
    refine hidle fun other h => ?_
    rw [hatt, some.injEq] at h
    rwa [← h]

theorem claim_admitted_or (state : RouteState) (actor : RouteActor) (claim : RouteClaim)
    (env : ClaimEnv) : (∃ channelId, (state.pruneRetired env.nowMs).Admissible actor claim ∧
        state.claim actor claim env =
          ((state.pruneRetired env.nowMs).admitClaim actor claim channelId, .admitted channelId)) ∨
      (state.claim actor claim env).1 = state.pruneRetired env.nowMs ∧
        ∀ channelId, (state.claim actor claim env).2 ≠ .admitted channelId := by
  unfold RouteState.claim
  dsimp only
  cases hverdict : (state.pruneRetired env.nowMs).claimVerdict actor claim env with
  | admitted channelId => exact .inl ⟨channelId, admissible_of_verdict hverdict, rfl⟩
  | refused | awaited | cached => exact .inr ⟨rfl, fun _ h => by cases h⟩

/-- Every step is one of these on every key. The entries of the table are well formed, and a
disposed owner has none. -/
theorem entryStep (state : RouteState) (key : RouteKey) (op : RouteOp)
    (hvalid : ∀ entry, state.routes.lookup key = some entry →
      validActor entry.actor = true ∧ validIdentifier entry.sessionId = true)
    (hdisp : state.disposed = true → state.routes.lookup key = none) :
    EntryStep state key op (routeOwner.answer state op)
      ((routeOwner.next state op).routes.lookup key) := by
  have hquiet : ∀ {op : RouteOp} {answer : RouteAnswer},
      (∀ actor claim env, op ≠ .claim actor claim env) →
      (∀ entry, state.routes.lookup key = some entry → ¬state.Acts key entry op) →
      EntryStep state key op answer (state.routes.lookup key) := by
    intro op answer hop hidle
    exact .same (fun actor claim env _ heq _ => absurd heq (hop actor claim env)) hidle
  cases op with
  | claim actor claim env =>
    simp only [Transducer.next, Transducer.answer, routeOwner, Prod.map]
    rcases claim_admitted_or state actor claim env with
      ⟨channelId, hadmits, heq⟩ | ⟨hstate, hverdict⟩
    · rw [heq]
      by_cases hkey : key = routeKey actor claim.sessionId
      · have hnew : ((state.pruneRetired env.nowMs).admitClaim actor claim channelId).routes.lookup
            key = some (blockedEntry actor claim (state.nextAttempt + 1)) := by
          rw [hkey]
          exact AList.lookup_insert _
        rw [id, hnew]
        exact .blocked env channelId hkey hadmits
      have hother : ((state.pruneRetired env.nowMs).admitClaim actor claim
          channelId).routes.lookup key = (state.pruneRetired env.nowMs).routes.lookup key :=
        AList.lookup_insert_ne hkey
      rw [id, hother]
      refine .ofPruned ?_ fun _ _ hacts => hacts
      intro actor' claim' env' channelId' hop _
      cases hop
      exact hkey
    -- A refused claim may still prune retired routes.
    · rw [id, hstate]
      refine .ofPruned ?_ fun _ _ hacts => hacts
      intro actor' claim' env' channelId' _ hanswer
      exact absurd (RouteAnswer.claimed.inj hanswer) (hverdict channelId')
  | grant attempt =>
    have hroutes : (state.grant attempt).routes = state.routes :=
      atStage_cases (P := fun r => r.1.routes = state.routes) (fun _ => rfl) fun _ _ _ => rfl
    change EntryStep state key _ _ ((state.grant attempt).routes.lookup key)
    rw [hroutes]
    exact hquiet (fun _ _ _ h => by cases h) fun _ _ hacts => hacts
  | noticeCancel attempt =>
    have hroutes : (state.noticeCancel attempt).1.routes = state.routes := by
      refine atStage_cases (P := fun r => r.1.routes = state.routes) (fun _ => rfl) ?_
      intro found _ _
      split <;> rfl
    change EntryStep state key _ _ ((state.noticeCancel attempt).1.routes.lookup key)
    rw [hroutes]
    exact hquiet (fun _ _ _ h => by cases h) fun _ _ hacts => hacts
  | drain id nowMs =>
    refine atStage_cases (P := fun r => EntryStep state key (.drain id nowMs) .done
      (r.1.routes.lookup key)) ?_ ?_
    · intro hstage
      refine hquiet (fun _ _ _ h => by cases h) ?_
      rintro entry - ⟨attempt, pending, hatt, hdrain, -⟩
      exact hstage attempt hatt hdrain
    intro attempt hatt hstage
    change EntryStep state key _ _
      ((state.clearDrainedPending attempt.key id nowMs).routes.lookup key)
    have hidle : ∀ {P : Prop}, (∀ entry pending, state.routes.lookup attempt.key = some entry →
        entry.status = .retired → entry.pending = some pending → pending.id = id → P) →
        (¬P) → ∀ entry, state.routes.lookup key = some entry →
          ¬state.Acts key entry (.drain id nowMs) := by
      rintro P hall hnot entry hentry ⟨other, pending, hother, -, hkey, hstatus, hpend, hid⟩
      rw [hatt, some.injEq] at hother
      subst hother
      exact hnot (hall entry pending (hkey ▸ hentry) hstatus hpend hid)
    unfold clearDrainedPending
    cases hentry : state.routes.lookup attempt.key with
    | none =>
      refine hquiet (fun _ _ _ h => by cases h) (hidle (P := False) ?_ not_false)
      intro entry pending h
      rw [hentry] at h
      cases h
    | some entry =>
      dsimp only
      split
      · rename_i hclears
        rcases pruned_cases (state.setEntry attempt.key { entry with pending := none }) nowMs
          key with hsame | ⟨hgone, pruned, hpruned, hexpire⟩
        · rw [hsame, lookup_setEntry]
          split
          · rename_i hkey
            rw [← hkey] at hentry
            exact .cleared hentry hclears.1
          rename_i hkey
          refine hquiet (fun _ _ _ h => by cases h) ?_
          rintro other hother ⟨found, pending, hfound, -, hfoundKey, -⟩
          rw [hatt, some.injEq] at hfound
          exact hkey (hfound ▸ hfoundKey.symm)
        · rw [hgone]
          rw [lookup_setEntry] at hpruned
          split at hpruned
          · rename_i hkey
            rw [← hkey] at hentry
            exact .pruned hentry hclears.1
          · exact .pruned hpruned (status_of_expired hexpire)
      · rename_i hkeeps
        refine hquiet (fun _ _ _ h => by cases h) (hidle (P := False) ?_ not_false)
        intro other pending h hstatus hpend hid
        rw [hentry, some.injEq] at h
        subst h
        exact hkeeps ⟨hstatus, by rw [hpend]; simpa using hid⟩
  | settle id env =>
    refine atStage_cases (P := fun r => EntryStep state key (.settle id env) (.settled r.2)
      (r.1.routes.lookup key)) ?_ ?_
    · intro hstage
      refine hquiet (fun _ _ _ h => by cases h) ?_
      rintro entry - ⟨attempt, hatt, hgrant, -⟩
      exact hstage attempt hatt hgrant
    intro attempt hatt hstage
    change EntryStep state key _ (.settled (some (state.settleGranted attempt id env).2))
      ((state.settleGranted attempt id env).1.routes.lookup key)
    have hother : key ≠ attempt.key → ∀ entry, state.routes.lookup key = some entry →
        ¬state.Acts key entry (.settle id env) := by
      rintro hkey entry - ⟨found, hfound, -, hfoundKey, -⟩
      rw [hatt, some.injEq] at hfound
      exact hkey (hfound ▸ hfoundKey.symm)
    rcases settleGranted_cases state attempt id env with ⟨hstate, -, hnot⟩ |
      ⟨entry, hentry, hsettled, ⟨hacc, hstate⟩ | ⟨-, hstate⟩⟩
    · rw [hstate]
      refine hquiet (fun _ _ _ h => by cases h) ?_
      rintro entry hentry ⟨found, hfound, -, hkey, hsettled⟩
      rw [hatt, some.injEq] at hfound
      subst hfound
      rw [hnot entry (hkey ▸ hentry)] at hsettled
      cases hsettled
    · rw [hstate, lookup_setEntry]
      split
      · rename_i hkey
        exact .activated hatt hentry hkey hsettled hacc
      · rename_i hkey
        exact hquiet (fun _ _ _ h => by cases h) (hother hkey)
    · rw [hstate, lookup_setEntry]
      split
      · rename_i hkey
        exact .failed hatt hentry hkey hsettled
      · rename_i hkey
        exact hquiet (fun _ _ _ h => by cases h) (hother hkey)
  | allowsLegacyInput actor sid nowMs =>
    change EntryStep state key (.allowsLegacyInput actor sid nowMs)
      (.allowed (state.allowsLegacyInput actor sid nowMs).2)
      ((state.allowsLegacyInput actor sid nowMs).1.routes.lookup key)
    generalize RouteAnswer.allowed (state.allowsLegacyInput actor sid nowMs).2 = answer
    have hstays : EntryStep state key (.allowsLegacyInput actor sid nowMs) answer
        (state.routes.lookup key) := hquiet (fun _ _ _ h => by cases h) fun _ _ hacts => hacts
    unfold RouteState.allowsLegacyInput
    split
    · exact hstays
    split
    · exact hstays
    dsimp only
    split
    · exact hstays
    rename_i hentry
    split
    · rename_i hexpire
      rw [Table.lookup_erase]
      split
      · rename_i hkey
        rw [← hkey] at hentry
        exact .pruned hentry (status_of_expired hexpire)
      · exact hstays
    · exact hstays
  | retireConnection connectionId =>
    refine .ofRetireWhere trivial fun entry hentry hacts => ?_
    have hconn : entry.actor.connectionId = connectionId := hacts
    have hactor := (hvalid entry hentry).1
    simp only [validActor, Bool.and_eq_true] at hactor
    exact ⟨hconn ▸ hactor.2, by simp [hconn]⟩
  | retireSession sid =>
    refine .ofRetireWhere trivial fun entry hentry hacts => ?_
    have hsess : entry.sessionId = sid := hacts
    exact ⟨hsess ▸ (hvalid entry hentry).2, by simp [hsess]⟩
  | revokeDevice deviceFingerprint =>
    have hroutes : (state.revokeDevice deviceFingerprint).routes = state.routes := by
      unfold revokeDevice
      split
      · rfl
      · split <;> rfl
    change EntryStep state key _ _ ((state.revokeDevice deviceFingerprint).routes.lookup key)
    rw [hroutes]
    exact hquiet (fun _ _ _ h => by cases h) fun _ _ hacts => hacts
  | retireDevice deviceFingerprint =>
    refine .ofRetireWhere trivial fun entry hentry hacts => ?_
    have hdevice : entry.actor.deviceFingerprint = deviceFingerprint := hacts
    have hactor := (hvalid entry hentry).1
    simp only [validActor, Bool.and_eq_true] at hactor
    exact ⟨hdevice ▸ hactor.1.1, by simp [hdevice]⟩
  | dispose =>
    change EntryStep state key _ _ (state.dispose.routes.lookup key)
    unfold dispose
    split
    · rename_i hdone
      refine hquiet (fun _ _ _ h => by cases h) fun entry hentry _ => ?_
      rw [hdisp hdone] at hentry
      cases hentry
    · exact .disposed

/-! ## One attempt -/

/-- What a step may make of an attempt. -/
structure Becomes (state : RouteState) (op : RouteOp) (id : Nat) (attempt later : Attempt) :
    Prop where
  key : later.key = attempt.key
  claim : later.claim = attempt.claim
  connection : later.connectionId = attempt.connectionId
  finished : later.stage = .finished → attempt.stage = .finished ∨
    (attempt.stage = .draining ∧ ∃ nowMs, op = .drain id nowMs) ∨
    (attempt.stage = .granted ∧ ∃ env, op = .settle id env)
  draining : later.stage = .draining → attempt.stage = .draining ∨ attempt.cancel.isSome
  stays : attempt.cancel.isSome → later.cancel.isSome
  cancelled : later.cancel.isSome → attempt.cancel.isSome ∨ ∃ key entry pending,
    state.routes.lookup key = some entry ∧ entry.pending = some pending ∧ pending.id = id ∧
      ∀ after, (routeOwner.next state op).routes.lookup key = some after → after.status = .retired

theorem Becomes.refl (op : RouteOp) : state.Becomes op id attempt attempt :=
  ⟨rfl, rfl, rfl, .inl, .inl, fun h => h, .inl⟩

theorem becomes_retireWhere
    (hop : routeOwner.next state op = state.retireWhere identifier selects nowMs)
    (hatt : state.attempts id = some attempt) :
    ∃ later, (routeOwner.next state op).attempts id = some later ∧
      state.Becomes op id attempt later := by
  rw [hop]
  cases hvalid : validIdentifier identifier with
  | false =>
    refine ⟨attempt, ?_, .refl op⟩
    unfold retireWhere
    rw [hvalid]
    exact hatt
  | true =>
    have hattempts : (state.retireWhere identifier selects nowMs).attempts id =
        ((state.pruneRetired nowMs).cancelPending selects "route_retired").attempts id := by
      unfold retireWhere
      rw [hvalid]
      rfl
    rw [hattempts]
    rcases attempts_cancelPending (state.pruneRetired nowMs) selects "route_retired" id
      with hsame | ⟨key, entry, pending, found, hentry, hsel, hpend, hid, hfound, hcancel⟩
    · exact ⟨attempt, hsame.trans hatt, .refl op⟩
    have hatt' : (state.pruneRetired nowMs).attempts id = some attempt := hatt
    rw [hfound, some.injEq] at hatt'
    subst hatt'
    refine ⟨_, hcancel, rfl, rfl, rfl, .inl, .inl, fun h => ?_, fun _ => .inr ?_⟩
    · cases hheld : found.cancel <;> simp [Attempt.request, hheld]
    have hpre : state.routes.lookup key = some entry := by
      rcases pruned_cases state nowMs key with hsame | ⟨hgone, -⟩
      · rw [← hsame]
        exact hentry
      · rw [hgone] at hentry
        cases hentry
    refine ⟨key, entry, pending, hpre, hpend, hid, fun after hafter => ?_⟩
    rw [hop, lookup_retireWhere hvalid, hentry, map_some, if_pos hsel, some.injEq] at hafter
    rw [← hafter]
    rfl

/-- An attempt is never lost, and changes only as its task goes on or is cancelled. -/
theorem attempt_becomes (op : RouteOp) (hatt : state.attempts id = some attempt)
    (hold : id ≤ state.nextAttempt) : ∃ later, (routeOwner.next state op).attempts id = some later ∧
      state.Becomes op id attempt later := by
  have hother : ∀ {state' : RouteState} {other : Nat} {changed : Attempt},
      state'.attempts = state.attempts → other ≠ id →
        (state'.setAttempt other changed).attempts id = some attempt := by
    intro state' other changed hsame hne
    have hupdate : (state'.setAttempt other changed).attempts id = state'.attempts id :=
      Function.update_of_ne (Ne.symm hne) _ _
    rw [hupdate, hsame]
    exact hatt
  cases op with
  | claim actor claim env =>
    refine ⟨attempt, ?_, .refl _⟩
    change (state.claim actor claim env).1.attempts id = some attempt
    rcases claim_admitted_or state actor claim env with
      ⟨channelId, -, heq⟩ | ⟨hstate, -⟩
    · rw [heq]
      exact hother rfl (Nat.ne_of_gt (Nat.lt_succ_of_le hold))
    · rw [hstate]
      exact hatt
  | grant other =>
    refine atStage_cases (P := fun r => ∃ later, r.1.attempts id = some later ∧
      state.Becomes (.grant other) id attempt later) (fun _ => ⟨attempt, hatt, .refl _⟩) ?_
    intro found hfound hstage
    by_cases hid : other = id
    · subst hid
      rw [hatt, some.injEq] at hfound
      subst hfound
      refine ⟨_, Function.update_self _ _ _, rfl, rfl, rfl, fun h => ?_, fun h => ?_, fun h => h,
        .inl⟩
      · cases h
      · cases h
    · exact ⟨attempt, hother rfl hid, .refl _⟩
  | noticeCancel other =>
    refine atStage_cases (P := fun r => ∃ later, r.1.attempts id = some later ∧
      state.Becomes (.noticeCancel other) id attempt later) (fun _ => ⟨attempt, hatt, .refl _⟩) ?_
    intro found hfound hstage
    split
    · exact ⟨attempt, hatt, .refl _⟩
    rename_i hreason
    by_cases hid : other = id
    · subst hid
      rw [hatt, some.injEq] at hfound
      subst hfound
      refine ⟨_, Function.update_self _ _ _, rfl, rfl, rfl, fun h => ?_, fun _ => .inr ?_,
        fun h => h, .inl⟩
      · cases h
      · rw [hreason]
        rfl
    · exact ⟨attempt, hother rfl hid, .refl _⟩
  | drain other nowMs =>
    refine atStage_cases (P := fun r => ∃ later, r.1.attempts id = some later ∧
      state.Becomes (.drain other nowMs) id attempt later) (fun _ => ⟨attempt, hatt, .refl _⟩) ?_
    intro found hfound hstage
    have hclear : (state.clearDrainedPending found.key other nowMs).attempts = state.attempts := by
      unfold clearDrainedPending
      split
      · rfl
      · split <;> rfl
    by_cases hid : other = id
    · subst hid
      rw [hatt, some.injEq] at hfound
      subst hfound
      refine ⟨_, Function.update_self _ _ _, rfl, rfl, rfl, fun _ => .inr (.inl ⟨hstage, _, rfl⟩),
        fun h => ?_, fun h => h, .inl⟩
      cases h
    · exact ⟨attempt, hother hclear hid, .refl _⟩
  | settle other env =>
    refine atStage_cases (P := fun r => ∃ later, r.1.attempts id = some later ∧
      state.Becomes (.settle other env) id attempt later) (fun _ => ⟨attempt, hatt, .refl _⟩) ?_
    intro found hfound hstage
    have hset : (state.settleGranted found other env).1.attempts = state.attempts := by
      rcases settleGranted_cases state found other env with ⟨hstate, -⟩ |
        ⟨entry, -, -, ⟨-, hstate⟩ | ⟨-, hstate⟩⟩
      · rw [hstate]
      · rw [hstate]
        rfl
      · rw [hstate]
        rfl
    by_cases hid : other = id
    · subst hid
      rw [hatt, some.injEq] at hfound
      subst hfound
      refine ⟨_, Function.update_self _ _ _, rfl, rfl, rfl, fun _ => .inr (.inr ⟨hstage, _, rfl⟩),
        fun h => ?_, fun h => h, .inl⟩
      cases h
    · exact ⟨attempt, hother hset hid, .refl _⟩
  | allowsLegacyInput actor sid nowMs =>
    refine ⟨attempt, ?_, .refl _⟩
    change (state.allowsLegacyInput actor sid nowMs).1.attempts id = some attempt
    unfold RouteState.allowsLegacyInput
    split
    · exact hatt
    split
    · exact hatt
    dsimp only
    split
    · exact hatt
    · split <;> exact hatt
  | retireConnection | retireSession | retireDevice => exact becomes_retireWhere rfl hatt
  | revokeDevice deviceFingerprint =>
    refine ⟨attempt, ?_, .refl _⟩
    change (state.revokeDevice deviceFingerprint).attempts id = some attempt
    unfold RouteState.revokeDevice
    split
    · exact hatt
    · split <;> exact hatt
  | dispose =>
    change ∃ later, state.dispose.attempts id = some later ∧ _
    by_cases hdone : state.disposed = true
    · refine ⟨attempt, ?_, .refl _⟩
      rw [dispose, if_pos hdone]
      exact hatt
    have hattempts : state.dispose.attempts =
        (state.cancelPending (fun _ => true) "route_owner_disposed").attempts := by
      rw [dispose, if_neg hdone]
    have hroutes : (routeOwner.next state .dispose).routes = ∅ := by
      change state.dispose.routes = ∅
      rw [dispose, if_neg hdone]
    rw [hattempts]
    rcases attempts_cancelPending state (fun _ => true) "route_owner_disposed" id
      with hsame | ⟨key, entry, pending, found, hentry, -, hpend, hid, hfound, hcancel⟩
    · exact ⟨attempt, hsame.trans hatt, .refl _⟩
    rw [hatt, some.injEq] at hfound
    subst hfound
    refine ⟨_, hcancel, rfl, rfl, rfl, .inl, .inl, fun h => ?_, fun _ => .inr ?_⟩
    · cases hheld : attempt.cancel <;> simp [Attempt.request, hheld]
    · refine ⟨key, entry, pending, hentry, hpend, hid, fun after hafter => ?_⟩
      rw [hroutes] at hafter
      cases hafter

end Roost.Worker.RouteState
