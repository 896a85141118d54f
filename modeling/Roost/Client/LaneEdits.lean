-- SUMMARY: What a call on the router does to a lane's route and its claim.
import Roost.Client.InputBooks

/-!
# What a call does to a lane

Most calls on the router settle batches, queue them, or stop a lane. Such a call never opens a
lane for sending, and a lane that still sends keeps the route it sent under; no batch is handed
over, and no claim is made. The others hand batches over, begin a claim, or settle one, and each
is said lane by lane.
-/

namespace Roost.Client

open OrderedMap

/-! ## Lanes -/

namespace InputLane

/-- An edit of a lane that hands nothing over, opens no route and makes no claim. -/
structure Tame (lane later : InputLane) : Prop where
  sending : later.phase = .sending → lane.phase = .sending
  required : later.phase = .sending → later.claims.required = lane.claims.required
  kept : lane.claims.required = true → later.claims.required = true
  route : later.routeEpochToken = none ∨
    later.routeEpochToken = lane.routeEpochToken ∧ later.routeEpoch = lane.routeEpoch
  routed : later.phase = .sending →
    later.routeEpochToken = lane.routeEpochToken ∧ later.routeEpoch = lane.routeEpoch
  revision : later.routeRevision = lane.routeRevision
  claim : later.claims.inFlight = none ∨ later.claims.inFlight = lane.claims.inFlight
  started : ∀ pending ∈ later.pending, pending.started = true → pending ∈ lane.pending

variable {lane later : InputLane}

theorem Tame.of_pending (hphase : later.phase = lane.phase) (hclaims : later.claims = lane.claims)
    (htoken : later.routeEpochToken = lane.routeEpochToken)
    (hepoch : later.routeEpoch = lane.routeEpoch) (hrev : later.routeRevision = lane.routeRevision)
    (hstart : ∀ pend ∈ later.pending, pend.started = true → pend ∈ lane.pending) :
    Tame lane later where
  sending h := hphase ▸ h
  required _ := by rw [hclaims]
  kept h := by rw [hclaims, h]
  route := .inr ⟨htoken, hepoch⟩
  routed _ := ⟨htoken, hepoch⟩
  revision := hrev
  claim := .inr (by rw [hclaims])
  started := hstart

theorem Tame.refl (lane : InputLane) : Tame lane lane :=
  .of_pending rfl rfl rfl rfl rfl fun _ h _ => h

theorem Tame.trans {last : InputLane} (h : Tame lane later) (h' : Tame later last) :
    Tame lane last where
  sending hsend := h.sending (h'.sending hsend)
  required hsend := (h'.required hsend).trans (h.required (h'.sending hsend))
  kept hreq := h'.kept (h.kept hreq)
  route := by
    rcases h'.route with hnone | ⟨htoken, hepoch⟩
    · exact .inl hnone
    · rcases h.route with hnone | ⟨htoken', hepoch'⟩
      · exact .inl (htoken.trans hnone)
      · exact .inr ⟨htoken.trans htoken', hepoch.trans hepoch'⟩
  routed hsend :=
    ⟨(h'.routed hsend).1.trans (h.routed (h'.sending hsend)).1,
      (h'.routed hsend).2.trans (h.routed (h'.sending hsend)).2⟩
  revision := h'.revision.trans h.revision
  claim := by
    rcases h'.claim with hnone | hsame
    · exact .inl hnone
    · rcases h.claim with hnone | hsame'
      · exact .inl (hsame.trans hnone)
      · exact .inr (hsame.trans hsame')
  started pending hpend hstart :=
    h.started pending (h'.started pending hpend hstart) hstart

theorem Tame.of_stopped (hphase : later.phase ≠ .sending)
    (hkept : lane.claims.required = true → later.claims.required = true)
    (hroute : later.routeEpochToken = none ∨
      later.routeEpochToken = lane.routeEpochToken ∧ later.routeEpoch = lane.routeEpoch)
    (hrev : later.routeRevision = lane.routeRevision)
    (hclaim : later.claims.inFlight = none ∨ later.claims.inFlight = lane.claims.inFlight)
    (hpend : later.pending = lane.pending) : Tame lane later where
  sending h := absurd h hphase
  required h := absurd h hphase
  kept := hkept
  route := hroute
  routed h := absurd h hphase
  revision := hrev
  claim := hclaim
  started _ h _ := hpend ▸ h

theorem tame_settleIn {seq : Nat} (h : lane.settleIn seq = some later) : Tame lane later := by
  obtain ⟨_, _, rfl⟩ := Option.map_eq_some_iff.mp h
  exact .of_pending rfl rfl rfl rfl rfl fun _ hpend _ => List.mem_of_mem_eraseP hpend

variable (lane)

theorem tame_settleEach (seqs : List Nat) : Tame lane (lane.settleEach seqs).1 := by
  induction seqs generalizing lane with
  | nil => exact .refl lane
  | cons seq rest ih =>
    unfold settleEach
    cases hsettle : lane.settleIn seq with
    | none => exact ih lane
    | some later => exact (tame_settleIn hsettle).trans (ih later)

theorem tame_refuseUnstarted (reason : String) :
    Tame lane (lane.refuseUnstarted reason).1 := tame_settleEach _ _

theorem tame_retireEach (outcomes : List InputOutcome) :
    Tame lane (lane.retireEach outcomes).1 := by
  induction outcomes generalizing lane with
  | nil => exact .refl lane
  | cons outcome rest ih =>
    unfold retireEach
    cases hsettle : lane.settleIn outcome.inputSeq with
    | none => exact ih lane
    | some later =>
      have hnoted : ∀ ambiguous, Tame later { later with ambiguous } :=
        fun _ => .of_pending rfl rfl rfl rfl rfl fun _ h _ => h
      refine (tame_settleIn hsettle).trans ?_
      dsimp only
      split
      · exact (hnoted _).trans (ih _)
      · exact ih later

theorem tame_retireFenced (retired : TerminalToken → Bool) (reason : String) :
    Tame lane (lane.retireFenced retired reason).1 := tame_retireEach _ _

theorem started_modifyBatch_unsent {seq : Nat} {batches : List PendingInput}
    {pend : PendingInput} (h : pend ∈ modifyBatch seq PendingInput.unsent batches)
    (hstart : pend.started = true) : pend ∈ batches := by
  induction batches with
  | nil => exact h
  | cons batch rest ih =>
    unfold modifyBatch at h
    split at h
    · rcases List.mem_cons.mp h with rfl | hrest
      · cases hstart
      · exact List.mem_cons_of_mem _ hrest
    · rcases List.mem_cons.mp h with rfl | hrest
      · exact List.mem_cons_self
      · exact List.mem_cons_of_mem _ (ih hrest)

theorem tame_endClaim : Tame lane (InputRouter.endClaim lane) :=
  .of_stopped (by simp [InputRouter.endClaim]) (fun h => h) (.inr ⟨rfl, rfl⟩) rfl (.inl rfl) rfl

variable {lane}

end InputLane

open InputLane

/-! ## The router -/

namespace InputRouter

/-- Every lane is edited tamely; a session without a lane has a new one. -/
def Tame (router later : InputRouter) : Prop :=
  ∀ ⦃sessionId⦄, (router.laneOrNew sessionId).Tame (later.laneOrNew sessionId)

variable {router later : InputRouter} {sessionId : String} {lane : InputLane}

variable (rtr : InputRouter)

@[simp] theorem laneOrNew_setLane (sid other : String) (lane : InputLane) :
    (rtr.setLane sid lane).laneOrNew other = if other = sid then lane else rtr.laneOrNew other := by
  unfold laneOrNew setLane
  rw [lookup_insert]
  split <;> rfl

theorem laneOrNew_lookup (h : router.lanes.lookup sessionId = some lane) :
    router.laneOrNew sessionId = lane := by
  rw [laneOrNew, h]
  rfl

theorem lookup_any (sid : String) {p : InputLane → Bool}
    (hnew : p (.new sid) = false) : (rtr.lanes.lookup sid).any p = p (rtr.laneOrNew sid) := by
  unfold laneOrNew
  cases rtr.lanes.lookup sid with
  | none => exact hnew.symm
  | some => rfl

theorem outstanding_eq (sid : String) : rtr.outstanding sid = (rtr.laneOrNew sid).pending := by
  unfold outstanding laneOrNew
  cases rtr.lanes.lookup sid with
  | none | some => rfl

theorem routeEpochFor_eq (sid : String) (token : TerminalToken) :
    rtr.routeEpochFor sid token = (rtr.laneOrNew sid).epochFor token := by
  unfold routeEpochFor laneOrNew
  cases rtr.lanes.lookup sid with
  | none | some => rfl

theorem Tame.refl (router : InputRouter) : Tame router router := fun _ => .refl _

variable {last : InputRouter}

theorem Tame.trans (h : Tame router later) (h' : Tame later last) :
    Tame router last := fun sid => (@h sid).trans (@h' sid)

theorem Tame.of_lanes (h : later.lanes = router.lanes) : Tame router later := by
  intro sid
  rw [laneOrNew, laneOrNew, h]
  exact .refl _

theorem tame_setLane (h : (router.laneOrNew sessionId).Tame lane) :
    Tame router (router.setLane sessionId lane) := by
  intro other
  rw [laneOrNew_setLane]
  split
  · rename_i heq
    exact heq ▸ h
  · exact .refl _

theorem tame_setLane_there (hlook : router.lanes.lookup sessionId = some lane) {lane' : InputLane}
    (h : lane.Tame lane') : Tame router (router.setLane sessionId lane') :=
  tame_setLane (laneOrNew_lookup hlook ▸ h)

variable {f : InputLane → InputLane}

theorem tame_modifyLane (sid : String)
    (h : ∀ lane : InputLane, lane.Tame (f lane)) : Tame rtr (rtr.modifyLane sid f) := by
  unfold modifyLane
  split
  · exact .refl _
  · rename_i lane hlook
    exact tame_setLane_there hlook (h lane)

theorem tame_editLane {edit : InputLane → Option InputLane}
    (h : ∀ {lane lane' : InputLane}, edit lane = some lane' → lane.Tame lane') (hedit : router.editLane edit = some later) : Tame router later := by
  obtain ⟨_, hfound, rfl⟩ := Option.map_eq_some_iff.mp hedit
  obtain ⟨_, hentry, hmap⟩ := List.exists_of_findSome?_eq_some hfound
  obtain ⟨_, hlane, heq⟩ := Option.map_eq_some_iff.mp hmap
  cases heq
  exact tame_setLane_there (lookup_eq_some_iff.mpr hentry) (h hlane)

theorem tame_mapValues (h : ∀ lane : InputLane, lane.Tame (f lane)) :
    Tame rtr { rtr with lanes := rtr.lanes.mapValues fun _ lane => f lane } := by
  intro sid
  rw [laneOrNew, laneOrNew, lookup_mapValues]
  cases rtr.lanes.lookup sid with
  | none => exact .refl _
  | some lane => exact h lane

/-! ## Admission and settlement -/

variable (sid : String)

theorem tame_admitInput (viewId : Option String)
    (bytes : List UInt8) (nowMs : Nat) : Tame rtr (rtr.admitInput sid viewId bytes nowMs).1 := by
  unfold admitInput
  extract_lets lane created seq allocated pending
  have hcreate : Tame rtr created := tame_setLane (.refl _)
  have hall : Tame rtr allocated := hcreate.trans (.of_lanes rfl)
  split
  · exact hcreate
  split
  · exact hcreate
  split
  · exact hcreate
  split
  · exact hall
  split
  · exact hall
  refine hall.trans (tame_setLane ?_)
  have hlane : allocated.laneOrNew sid = lane := by
    change created.laneOrNew sid = lane
    rw [laneOrNew_setLane, if_pos rfl]
  rw [hlane]
  refine .of_pending rfl rfl rfl rfl rfl fun batch hbatch hstart => ?_
  rcases List.mem_append.mp hbatch with hold | hnew
  · exact hold
  · -- The batch that joined has not started.
    rw [List.mem_singleton.mp hnew] at hstart
    cases hstart

theorem tame_settle (seq : Nat) (outcome : InputOutcome) : Tame rtr (rtr.settle seq outcome).1 := by
  unfold settle
  split
  · exact .refl _
  split
  · exact .refl _
  · rename_i hedit
    exact tame_editLane (fun h => tame_settleIn h) hedit

theorem tame_settleFrom (token : TerminalToken)
    (seq : Nat) (outcome : InputOutcome) : Tame rtr (rtr.settleFrom sid token seq outcome).1 := by
  unfold settleFrom
  split
  · exact .refl _
  dsimp only
  split
  · exact .refl _
  rename_i hset
  obtain ⟨_, hlook, hfind⟩ := Option.bind_eq_some_iff.mp hset
  obtain ⟨_, _, hfenced⟩ := Option.bind_eq_some_iff.mp hfind
  split at hfenced
  · exact tame_setLane_there hlook (tame_settleIn hfenced)
  · cases hfenced

theorem tame_settleAll (outcomes : List InputOutcome) : Tame rtr (rtr.settleAll outcomes) := by
  induction outcomes generalizing rtr with
  | nil => exact .refl _
  | cons outcome rest ih => exact (tame_settle rtr _ _).trans (ih _)

theorem tame_retireFenced (retired : TerminalToken → Bool) (reason : String) :
    Tame rtr (rtr.retireFenced retired reason).1 :=
  tame_mapValues rtr fun lane => InputLane.tame_retireFenced lane retired reason

/-! ## Phases and lost routes -/

theorem tame_refuseUnstarted (sid reason : String) :
    Tame rtr (rtr.refuseUnstarted sid reason).1 := by
  unfold refuseUnstarted
  split
  · exact .refl _
  · rename_i lane hlook
    exact tame_setLane_there hlook (InputLane.tame_refuseUnstarted lane reason)

theorem tame_setPhase_blocked : Tame rtr (rtr.setPhase sid .blocked).1 := by
  refine Tame.trans (tame_setLane ?_) (tame_refuseUnstarted _ _ _)
  exact .of_stopped (by simp) (fun h => h) (.inr ⟨rfl, rfl⟩) rfl (.inr rfl) rfl

theorem tame_forgetRoute : Tame rtr (rtr.forgetRoute sid).1 := by
  unfold forgetRoute setPhase modifyLane
  cases hlook : rtr.lanes.lookup sid with
  | none =>
    refine Tame.trans (tame_setLane ?_) (tame_refuseUnstarted _ _ _)
    exact .of_stopped (by simp) (fun h => h) (.inr ⟨rfl, rfl⟩) rfl (.inr rfl) rfl
  | some lane =>
    refine Tame.trans ?_ (tame_refuseUnstarted _ _ _)
    intro other
    simp only [laneOrNew_setLane, if_true]
    split
    · rename_i heq
      rw [heq, laneOrNew_lookup hlook]
      exact .of_stopped (by simp) (fun h => h) (.inl rfl) rfl (.inr rfl) rfl
    · exact .refl _

theorem tame_forgetRoutes (sessions : List String) : Tame rtr (rtr.forgetRoutes sessions).1 := by
  induction sessions generalizing rtr with
  | nil => exact .refl _
  | cons sessionId rest ih => exact (tame_forgetRoute rtr sessionId).trans (ih _)

theorem tame_blockRoutesOnSyncSocket (socketGeneration : UInt64) :
    Tame rtr (rtr.blockRoutesOnSyncSocket socketGeneration).1 := tame_forgetRoutes _ _

theorem stopped_forgetRoute : ((rtr.forgetRoute sid).1.laneOrNew sid).phase ≠ .sending := by
  intro hsend
  have hblock := (@tame_refuseUnstarted _ _ _ sid).sending hsend
  rw [laneOrNew_setLane, if_pos rfl] at hblock
  cases hblock

theorem stopped_forgetRoutes {sessions : List String} (h : sessionId ∈ sessions) :
    ((rtr.forgetRoutes sessions).1.laneOrNew sessionId).phase ≠ .sending := by
  induction sessions generalizing rtr with
  | nil => cases h
  | cons first rest ih =>
    by_cases hrest : sessionId ∈ rest
    · exact ih (rtr.forgetRoute first).1 hrest
    · cases (List.mem_cons.mp h).resolve_right hrest
      intro hsend
      exact stopped_forgetRoute rtr sessionId ((@tame_forgetRoutes _ rest sessionId).sending hsend)

theorem stopped_blockRoutesOnSyncSocket {socketGeneration : UInt64}
    (h : (router.laneOrNew sessionId).routedOnSyncSocket socketGeneration = true) :
    ((router.blockRoutesOnSyncSocket socketGeneration).1.laneOrNew sessionId).phase ≠ .sending := by
  refine stopped_forgetRoutes router ?_
  unfold laneOrNew at h
  cases hlook : router.lanes.lookup sessionId with
  | none =>
    rw [hlook] at h
    cases h
  | some =>
    rw [hlook] at h
    exact List.mem_map.mpr ⟨_, List.mem_filter.mpr ⟨lookup_eq_some_iff.mp hlook, h⟩, rfl⟩

theorem tame_requeueMovedSyncBatch (seq : Nat) :
    Tame rtr (rtr.requeueMovedSyncBatch sid seq).1 := by
  have hunsent : ∀ lane : InputLane, lane.Tame
      { lane with pending := modifyBatch seq PendingInput.unsent lane.pending } := by
    intro lane
    exact .of_pending rfl rfl rfl rfl rfl fun _ => started_modifyBatch_unsent
  unfold requeueMovedSyncBatch
  split
  · exact .refl _
  dsimp only
  split
  · exact .refl _
  · split
    · exact (tame_forgetRoute rtr sid).trans (tame_modifyLane _ _ hunsent)
    · exact tame_modifyLane _ _ hunsent

/-! ## Claims -/

theorem tame_holdLane
    {f : RouteClaimState → RouteClaimState} (hkept : ∀ claims, (f claims).required = claims.required)
    (hclaim : ∀ claims, (f claims).inFlight = none) : Tame rtr (rtr.holdLane sid f) := by
  unfold holdLane
  dsimp only
  split
  · exact tame_setLane (.refl _)
  · refine tame_setLane (.of_stopped (by simp) ?_ (.inr ⟨rfl, rfl⟩) rfl (.inl (hclaim _)) rfl)
    intro h
    exact (hkept _).trans h

theorem tame_beginFallback (sid workerFp workerEpoch : String)
    (nowMs : Nat) : Tame rtr (rtr.beginFallback sid workerFp workerEpoch nowMs) :=
  tame_holdLane rtr sid (fun _ => rfl) fun _ => rfl

variable {attemptId : Option Nat} {token : TerminalToken} {nowMs : Nat} {workerEpoch : String}

theorem tame_beginRouteClaim_error {reason : String}
    (h : router.beginRouteClaim sessionId token workerEpoch attemptId nowMs = (later, .error reason)) :
    Tame router later := by
  unfold beginRouteClaim at h
  dsimp only at h
  split at h
  · cases h
    have hcount : Tame router { router with nextClaimId := router.nextClaimId + 1 } :=
      .of_lanes rfl
    refine hcount.trans (tame_setLane ?_)
    exact .of_stopped (by simp) (fun _ => rfl) (.inl rfl) rfl (.inr rfl) rfl
  · cases h

/-- A lane that could not claim needs a route and has none. -/
theorem unrouted_beginRouteClaim {reason : String}
    (h : router.beginRouteClaim sessionId token workerEpoch attemptId nowMs =
      (later, .error reason)) : (later.laneOrNew sessionId).claims.required = true ∧
      (later.laneOrNew sessionId).routeEpochToken = none := by
  unfold beginRouteClaim at h
  dsimp only at h
  split at h
  · cases h
    rw [laneOrNew_setLane, if_pos rfl]
    exact ⟨rfl, rfl⟩
  · cases h

theorem tame_takeClaims (ended : InputClaim → Bool) : Tame rtr (rtr.takeClaims ended).1 := by
  refine tame_mapValues rtr (f := fun lane =>
    if lane.claims.inFlight.any ended then endClaim lane else lane) fun lane => ?_
  split
  · exact tame_endClaim lane
  · exact .refl _

theorem tame_blockRoute : Tame rtr (rtr.blockRoute sid).1 := by
  unfold blockRoute
  split
  · exact .refl _
  rename_i hlook
  split
  · exact .refl _
  refine Tame.trans (tame_setLane_there hlook ?_) (tame_setPhase_blocked _ _)
  exact {
    sending := fun h => h
    required := fun _ => rfl
    kept := fun h => h
    route := .inr ⟨rfl, rfl⟩
    routed := fun _ => ⟨rfl, rfl⟩
    revision := rfl
    claim := .inl rfl
    started := fun _ h _ => h }

theorem tame_deferFallback (nowMs : Nat) : Tame rtr (rtr.deferFallback sid nowMs).1 := by
  have hfallback : ∀ (lane : InputLane) (fallback : Option FallbackRecovery),
      lane.Tame { lane with claims := { lane.claims with fallback } } := fun lane fallback => {
    sending := fun h => h
    required := fun _ => rfl
    kept := fun h => h
    route := .inr ⟨rfl, rfl⟩
    routed := fun _ => ⟨rfl, rfl⟩
    revision := rfl
    claim := .inr rfl
    started := fun _ h _ => h }
  unfold deferFallback
  split
  · exact .refl _
  rename_i lane fallback hfound
  obtain ⟨lane', hlook, hmap⟩ := Option.bind_eq_some_iff.mp hfound
  obtain ⟨_, _, heq⟩ := Option.map_eq_some_iff.mp hmap
  cases heq
  dsimp only
  split <;> exact tame_setLane_there hlook (hfallback _ _)

/-! ## Calls -/

/-- One router comes from another by calls. -/
def Reaches (router later : InputRouter) : Prop :=
  ∃ calls : List RouterCall, later = inputRouter.run router calls

theorem Reaches.refl (router : InputRouter) : Reaches router router := ⟨[], rfl⟩

theorem Reaches.call (rtr : InputRouter) (call : RouterCall) :
    Reaches rtr (inputRouter.next rtr call) := ⟨[call], rfl⟩

theorem Reaches.trans (h : Reaches router later) (h' : Reaches later last) :
    Reaches router last := by
  obtain ⟨calls, rfl⟩ := h
  obtain ⟨calls', rfl⟩ := h'
  exact ⟨calls ++ calls', (inputRouter.run_append _ _ _).symm⟩

theorem Reaches.sane (h : Reaches .new router) : router.Sane := by
  obtain ⟨calls, rfl⟩ := h
  exact (Books.run calls).sane

theorem Reaches.session (h : Reaches .new router) {pend : PendingInput}
    (hpend : pend ∈ router.outstanding sessionId) : pend.sessionId = sessionId := by
  obtain ⟨calls, rfl⟩ := h
  exact ((Books.run calls).outstanding pend hpend).1

/-- Calls that hand nothing over. -/
structure Quiet (router later : InputRouter) : Prop where
  reaches : router.Reaches later
  tame : router.Tame later

theorem Quiet.refl (router : InputRouter) : Quiet router router := ⟨.refl _, .refl _⟩

theorem Quiet.trans (h : Quiet router later) (h' : Quiet later last) :
    Quiet router last := ⟨h.reaches.trans h'.reaches, h.tame.trans h'.tame⟩

/-! ## Hand-offs -/

theorem laneOrNew_markStarted (router : InputRouter) (seq : Nat) (token : TerminalToken)
    (nowMs : Nat) (other : String) : ∃ pending,
      (router.markStarted seq token nowMs).laneOrNew other =
        { router.laneOrNew other with pending } := by
  unfold markStarted
  rcases editLane_cases router fun lane =>
      if lane.pending.any fun pending => decide (pending.inputSeq = seq) then
        some (lane.markStarted seq token nowMs)
      else none with ⟨hnone, -⟩ | ⟨sessionId, lane, lane', hlook, hedit, hsome⟩
  · rw [hnone]
    exact ⟨_, rfl⟩
  rw [hsome, Option.getD_some, laneOrNew_setLane]
  split
  · rename_i heq
    split at hedit
    · cases hedit
      rw [heq, laneOrNew_lookup hlook]
      exact ⟨_, rfl⟩
    · cases hedit
  · exact ⟨_, rfl⟩

theorem laneOrNew_markAll (router : InputRouter) (token : TerminalToken) (nowMs : Nat)
    (batches : List PendingInput) (other : String) : ∃ pending,
      (batches.foldl (fun router pending => router.markStarted pending.inputSeq token nowMs)
        router).laneOrNew other = { router.laneOrNew other with pending } := by
  induction batches generalizing router with
  | nil => exact ⟨_, rfl⟩
  | cons batch rest ih =>
    obtain ⟨pending, hrest⟩ := ih (router.markStarted batch.inputSeq token nowMs)
    obtain ⟨_, hbatch⟩ := laneOrNew_markStarted router batch.inputSeq token nowMs other
    refine ⟨pending, ?_⟩
    rw [List.foldl_cons, hrest, hbatch]

theorem sending_of_startable {pend : PendingInput} (h : pend ∈ router.startable sessionId) :
    (router.laneOrNew sessionId).phase = .sending := by
  by_contra hstopped
  unfold startable at h
  cases hlook : router.lanes.lookup sessionId with
  | none =>
    rw [hlook] at h
    cases h
  | some =>
    rw [laneOrNew_lookup hlook] at hstopped
    rw [hlook, Option.elim_some, InputLane.startable, if_pos hstopped] at h
    cases h

theorem laneOrNew_dispatchStartable (hsane : router.Sane) (sid : String)
    (token : TerminalToken) (nowMs : Nat) (other : String) :
    (router.dispatchStartable sid token nowMs).1.laneOrNew other = router.laneOrNew other ∨
      other = sid ∧ (router.laneOrNew other).phase = .sending ∧ ∃ pending,
        (router.dispatchStartable sid token nowMs).1.laneOrNew other =
          { router.laneOrNew other with pending } := by
  obtain ⟨pending, hsame⟩ := laneOrNew_markAll router token nowMs (router.startable sid) other
  have hedits := edits_dispatchStartable hsane sid token nowMs
  by_cases hhere : other = sid ∧ (router.laneOrNew other).phase = .sending
  · exact .inr ⟨hhere.1, hhere.2, pending, hsame⟩
  -- Nothing that was handed over is in this lane.
  have habsent : ∀ batch ∈ router.outstanding other,
      batch.inputSeq ∉ (router.startable sid).map PendingInput.inputSeq := by
    intro batch hbatch hmem
    obtain ⟨_, hhand, hseq⟩ := List.mem_map.mp hmem
    have hheld := List.mem_of_mem_filter ((startable_sublist router sid).subset hhand)
    have hother := hsane.apart hbatch hheld hseq.symm
    exact hhere ⟨hother, hother ▸ sending_of_startable hhand⟩
  have hpend : pending = (router.laneOrNew other).pending := by
    have hout := hedits.outstanding other
    rw [map_absent _ habsent, outstanding_eq, outstanding_eq] at hout
    exact (congrArg InputLane.pending hsame).symm.trans hout
  exact .inl (hsame.trans (by rw [hpend]))

/-! ## Releases and claims -/

theorem laneOrNew_releaseHeld (sid other : String) :
    (rtr.releaseHeld sid).1.laneOrNew other = rtr.laneOrNew other ∨
      other = sid ∧ (rtr.releaseHeld sid).1.laneOrNew other =
        { withoutClaims (rtr.laneOrNew other) with phase := .sending } := by
  unfold releaseHeld
  cases hlook : rtr.lanes.lookup sid with
  | none => exact .inl rfl
  | some lane =>
    dsimp only
    split
    · exact .inl rfl
    rw [laneOrNew_setLane]
    split
    · rename_i heq
      rw [heq, laneOrNew_lookup hlook]
      exact .inr ⟨rfl, rfl⟩
    · exact .inl rfl

def claiming (lane : InputLane) (claim : InputClaim) : InputLane :=
  { lane with
    phase := .claiming
    routeEpoch := ""
    routeEpochToken := none
    routeRevision := lane.routeRevision + 1
    claims := { lane.claims with
      required := true
      promotion := lane.claims.promotion.map fun promotion => { promotion with claimSent := true }
      inFlight := some claim } }

theorem beginRouteClaim_ok
    {claim : InputClaim}
    (h : router.beginRouteClaim sessionId token workerEpoch attemptId nowMs = (later, .ok claim)) :
    claim.sessionId = sessionId ∧ claim.token = token ∧ claim.attemptId = attemptId ∧
      claim.revision = (router.laneOrNew sessionId).routeRevision + 1 ∧
      claim.revision ≤ maxTerminalInputRouteRevision ∧ ∀ other, later.laneOrNew other =
        if other = sessionId then claiming (router.laneOrNew sessionId) claim
        else router.laneOrNew other := by
  unfold beginRouteClaim at h
  dsimp only at h
  split at h
  · cases h
  · rename_i hroom
    cases h
    exact ⟨rfl, rfl, rfl, rfl, Nat.lt_of_not_le hroom, fun other => laneOrNew_setLane _ _ _ _⟩

/-- What an answer does to the claim it is for. -/
inductive Answered (router : InputRouter) (token : TerminalToken) (result : InputRouteResult) :
    InputRouter × Option ClaimSettlement → Prop where
  /-- It is for no claim. -/
  | stray : Answered router token result (router, none)
  | refused {later : InputRouter} {claim : InputClaim} {reason : String}
      (inFlight : (router.laneOrNew result.sessionId).claims.inFlight = some claim)
      (tame : router.Tame later) :
      Answered router token result (later, some (.refused claim reason))
  | accepted {later : InputRouter} {claim : InputClaim}
      (inFlight : (router.laneOrNew result.sessionId).claims.inFlight = some claim)
      (epoch : result.inputRouteEpoch ≠ "") (arrived : claim.token.sameConnection token = true)
      (lanes : ∀ other, later.laneOrNew other =
        if other = result.sessionId then
          { endClaim (router.laneOrNew result.sessionId) with
            routeEpoch := result.inputRouteEpoch
            routeEpochToken := some claim.token
            claims := { (endClaim (router.laneOrNew result.sessionId)).claims with
              workerEpoch := claim.workerEpoch } }
        else router.laneOrNew other) :
      Answered router token result (later, some (.accepted claim))
  | retried {later : InputRouter} {claim retry : InputClaim}
      (inFlight : (router.laneOrNew result.sessionId).claims.inFlight = some claim)
      (same : retry.sessionId = claim.sessionId ∧ retry.token = claim.token ∧
        retry.attemptId = claim.attemptId)
      (newer : claim.revision < retry.revision)
      (ceiling : retry.revision ≤ maxTerminalInputRouteRevision)
      (lanes : ∀ other, later.laneOrNew other =
        if other = result.sessionId then
          { router.laneOrNew result.sessionId with
            routeRevision := retry.revision
            claims := { (router.laneOrNew result.sessionId).claims with inFlight := some retry } }
        else router.laneOrNew other) :
      Answered router token result (later, some (.retry retry))

theorem answered_settleRouteClaim (rtr : InputRouter) (token : TerminalToken)
    (result : InputRouteResult) (nowMs : Nat) :
    Answered rtr token result (rtr.settleRouteClaim token result nowMs) := by
  unfold settleRouteClaim
  dsimp only
  split
  · exact .stray
  rename_i lane claim hfound
  obtain ⟨_, hlook, hmap⟩ := Option.bind_eq_some_iff.mp hfound
  obtain ⟨_, hclaim, heq⟩ := Option.map_eq_some_iff.mp hmap
  cases heq
  obtain ⟨hfly, hmatches⟩ := Option.filter_eq_some_iff.mp hclaim
  have hlane := laneOrNew_lookup hlook
  have hended : rtr.Tame (rtr.setLane result.sessionId (endClaim lane)) :=
    tame_setLane_there hlook (tame_endClaim lane)
  have hclaimed : (rtr.laneOrNew result.sessionId).claims.inFlight = some claim := hlane ▸ hfly
  split
  · exact .refused hclaimed hended
  split
  · rename_i hacc
    refine .accepted hclaimed hacc.2 (Bool.and_eq_true _ _ ▸ hmatches).2 ?_
    intro other
    rw [laneOrNew_setLane, hlane]
  split
  · exact .refused hclaimed hended
  rename_i hnewer
  simp only [not_or, Nat.not_lt, Nat.not_le] at hnewer
  refine @Answered.retried rtr token result _ claim _ hclaimed
    ⟨rfl, rfl, rfl⟩ (Nat.lt_succ_of_le hnewer.2.1) hnewer.2.2 ?_
  intro other
  rw [laneOrNew_setLane, hlane]
  rfl

end InputRouter

end Roost.Client
