-- SUMMARY: The moves of every call, and the rules for runs of the terminal store.
import Roost.Client.RouteElection
import Roost.Client.RepairDue
import Roost.Client.TerminalSteps

/-!
# Runs of the terminal store

The handlers of panes, carriers and the Sync link are made of moves too. A run under a rule for
its crossings keeps what every move and every promotion claim keeps.
-/

namespace Roost.Client

open List Option RouteRegistry

open InputRouter Move OrderedMap PromotionCandidate TerminalToken Transducer

open Roost.Cell

/-! ## What a replica keeps -/

variable (sizes : Sizes)

namespace TerminalSession

/-- The replica's binding and its views stay. -/
structure SameViews (session later : TerminalSession) : Prop where
  generation : later.generation = session.generation
  views : later.views = session.views

variable {session : TerminalSession}

theorem SameViews.refl (session : TerminalSession) : SameViews session session := ⟨rfl, rfl⟩

theorem SameViews.after {later last : TerminalSession} (h : SameViews later last)
    (h' : SameViews session later) : SameViews session last :=
  ⟨h.generation.trans h'.generation, h.views.trans h'.views⟩

variable (sess : TerminalSession)

theorem sameViews_refuse (reason : String) (token : TerminalToken)
    (nowMs : Nat) : SameViews sess (sess.refuse reason token nowMs).1 := by
  unfold refuse
  dsimp only
  split <;> exact ⟨rfl, rfl⟩

theorem sameViews_noteAcceptedFrame (token : TerminalToken)
    (nowMs : Nat) : SameViews sess (sess.noteAcceptedFrame token nowMs) := by
  obtain ⟨_, hacc⟩ := noteAcceptedFrame_eq sess token nowMs
  rw [hacc]
  exact ⟨rfl, rfl⟩

theorem sameViews_admitDecoded (dec : CellGridFrame) (token : TerminalToken) (nowMs : Nat) :
    SameViews sess (sess.admitDecoded dec token nowMs).1 := by
  unfold admitDecoded
  dsimp only
  split
  · exact (sameViews_refuse _ _ token nowMs).after ⟨rfl, rfl⟩
  · exact (sameViews_noteAcceptedFrame _ token nowMs).after ⟨rfl, rfl⟩
  · exact (sameViews_noteAcceptedFrame _ token nowMs).after ⟨rfl, rfl⟩

theorem Reaches.sameViews {own : Prop} {held : TerminalSession} {offer : Option CellGridFrame}
    {token : TerminalToken} {nowMs : Nat} {result : TerminalSession × Admission}
    (h : Reaches own held offer token nowMs result) (hnoted : Noted sess held) :
    SameViews sess result.1 := by
  have hsame : SameViews sess held := ⟨hnoted.generation, hnoted.views⟩
  cases h with
  | foreign | pending => exact hsame
  | refused => exact (sameViews_refuse held _ token nowMs).after hsame
  | folded => exact (sameViews_admitDecoded held _ token nowMs).after hsame

theorem sameViews_fold (token : TerminalToken) (nowMs : Nat) (sess : TerminalSession)
    (cells : CellInput) : SameViews sess (cells.fold sizes token nowMs sess) := by
  cases cells with
  | frame whole =>
    obtain ⟨_, hnoted, -, hreach⟩ := admitFrame_reaches sess token sizes nowMs whole false
    exact hreach.sameViews sess hnoted
  | chunk part =>
    obtain ⟨_, hnoted, -, hreach⟩ := admitChunk_reaches sess token sizes nowMs part
    exact hreach.sameViews sess hnoted

theorem sameViews_installExpectedStream (stream : String)
    (cols rows : UInt32) : SameViews sess (sess.installExpectedStream stream cols rows) := by
  unfold installExpectedStream
  dsimp only
  split
  · exact .refl sess
  · split <;> exact ⟨rfl, rfl⟩

theorem SameViews.wireViewId {later : TerminalSession} (h : SameViews session later)
    (logicalViewId : String) : later.wireViewId logicalViewId = session.wireViewId logicalViewId := by
  unfold TerminalSession.wireViewId
  rw [h.views]

theorem wireViewId_markViewPublished (viewId : String) (gen : UInt64) (nowMs : Nat) (other : String)
    : (sess.markViewPublished viewId gen nowMs).wireViewId other = sess.wireViewId other := by
  unfold TerminalSession.wireViewId markViewPublished
  rw [Table.lookup_modify]
  split
  · rw [Option.map_map]
    rfl
  · rfl

theorem wireViewId_openProspectiveView
    (logicalViewId wireViewId : String) (intent : ViewIntent) (rev nowMs : Nat) (other : String) :
    (sess.openProspectiveView logicalViewId wireViewId intent rev nowMs).wireViewId other =
      if other = logicalViewId then some wireViewId else sess.wireViewId other := by
  unfold TerminalSession.wireViewId openProspectiveView
  rw [Table.lookup_insert]
  split <;> rfl

theorem wireViewId_applyViewState (result : ViewStateResult) (nowMs : Nat) (other : String) :
    (sess.applyViewState result nowMs).1.wireViewId other = sess.wireViewId other := by
  unfold applyViewState
  split
  · rfl
  dsimp only
  split
  · rfl
  rename_i view hview
  split
  · rfl
  unfold TerminalSession.wireViewId
  rw [Table.lookup_insert]
  split
  · rename_i heq
    rw [heq, hview]
    -- An acknowledgement changes only what was awaited.
    unfold TerminalView.acknowledge
    split <;> rfl
  · rfl

end TerminalSession

/-! ## Crossings -/

namespace TerminalStore

section Crossings

variable (store : TerminalStore)

variable (sessionId : String)

/-- A session's input is turned onto a connection, when there is one. -/
def crossingOnto (target : Option TerminalToken) : List Crossing :=
  target.toList.map (.turned (store.input.laneOrNew sessionId))

/-- A view command binds the replica to where it goes, unless the ids are being rotated. -/
def publicationCrossings : List Crossing :=
  if (store.pendingSyncViewRotation.lookup sessionId).isSome then []
  else store.crossingOnto sessionId (store.publicationTarget sessionId)

/-- A minted id is one a rotation waits for and may use. -/
def adoptsSyncViewId (attemptId : Nat) (logicalViewId : String)
    (wireViewId : Option String) : Bool :=
  (((store.pendingSyncViewRotation.lookup sessionId).filter fun rotation =>
      decide (rotation.attemptId = attemptId)).bind fun rotation =>
        rotation.views.lookup logicalViewId).any fun view =>
    store.canonicalStillMatches sessionId logicalViewId view.intent view.sourceRevision &&
      (wireViewId.filter isMintableViewId).any fun wireViewId =>
        !store.wireIdIsLiveElsewhere wireViewId

/-- A session's lane sends what was queued, where its input goes. -/
def sentCrossings : List Crossing :=
  if (store.input.laneOrNew sessionId).phase = .sending then store.handedCrossings sessionId else []

/-- An advance that claims nothing elects the candidate, or abandons a promotion before it. -/
def advanceCrossings (candidate : PromotionCandidate) : List Crossing :=
  if store.electsUnclaimed sessionId candidate.attemptId candidate.token then
    if store.routeRequired sessionId then store.handedCrossings sessionId
    else [.elected (store.input.outstanding sessionId) candidate.token]
  else []

/-- A promotion whose attempt is gone is abandoned. -/
def resumeCrossings (promotion : PromotionHold) : List Crossing :=
  if (store.routes.candidates.lookup sessionId).any fun candidate =>
      decide (candidate.attemptId = promotion.attemptId) then []
  else store.handedCrossings sessionId

/-- The crossings a call may make, in the state it finds. -/
def crossings : TerminalCall → List Crossing
  | .viewOpened sessionId _ _ _ _ _ => store.publicationCrossings sessionId
  | .viewResized sessionId viewId cols rows _ =>
    if store.changesSize sessionId viewId cols rows then store.publicationCrossings sessionId
    else []
  | .publishView sessionId viewId _ =>
    if ((store.terminal.lookup sessionId).bind fun replica => replica.views.lookup viewId).isSome then
      store.publicationCrossings sessionId
    else []
  | .viewIdMinted sessionId attemptId logicalViewId .syncFallback wireViewId _ =>
    if store.adoptsSyncViewId sessionId attemptId logicalViewId wireViewId then
      store.crossingOnto sessionId store.sync.terminalToken
    else []
  | .directCells sessionId token _ _ =>
    if store.routes.routeMatches sessionId token then store.crossingOnto sessionId (some token)
    else []
  | .syncCells sessionId _ _ =>
    if (store.generation sessionId).any fun own => decide (own.transport ≠ .sync) then []
    else store.crossingOnto sessionId store.sync.terminalToken
  | .linkOpened generation processEpoch =>
    if generation + 1 ≠ store.nextGeneration ∨ store.sync.link.isSome then []
    else
      (store.input.lanes.keys.filter fun sessionId => (store.generation sessionId).isNone).flatMap
        fun sessionId => store.crossingOnto sessionId (some (.sync generation processEpoch 0))
  | .linkClosed generation _ =>
    let closed := store.onLinkClosed generation
    closed.unansweredCrossings (closed.input.rejectSyncClaims generation).2
  | .directRouteResult token result _ => store.answerCrossings token result
  | .syncRouteResult result _ =>
    store.sync.terminalToken.toList.flatMap fun token => store.answerCrossings token result
  | .terminalInput sessionId _ _ _ _ | .syncInputResult sessionId _ _ _ _
  | .directInputResult sessionId _ _ _ _ | .sendQueuedInput sessionId _ =>
    store.sentCrossings sessionId
  | .advanceCandidate sessionId _ =>
    (store.routes.candidates.lookup sessionId).toList.flatMap (store.advanceCrossings sessionId)
  | .resumeHeldPromotion sessionId _ =>
    (store.heldPromotion sessionId).toList.flatMap (store.resumeCrossings sessionId)
  | .expireRouteClaims nowMs =>
    store.unansweredCrossings (store.input.expireRouteClaims nowMs).2
  | .workerRetired workerFp =>
    [.retired (store.routes.candidates.values.filter fun candidate =>
      decide (candidate.token.workerFp = some workerFp))]
  | _ => []

end Crossings

variable {ok : Crossing → Prop} {store : TerminalStore}

/-! ## Bindings -/

variable (store)

theorem generation_modifyTerminal (sid : String)
    (f : TerminalSession → TerminalSession) (other : String) :
    (store.modifyTerminal sid f).generation other = store.generation other ∨
      other = sid ∧ ∃ replica, store.terminal.lookup sid = some replica ∧
        (store.modifyTerminal sid f).generation other = (f replica).generation := by
  unfold modifyTerminal
  cases hlook : store.terminal.lookup sid with
  | none => exact .inl rfl
  | some replica =>
    rw [generation_insert rfl]
    split
    · rename_i heq
      exact .inr ⟨heq, replica, rfl, rfl⟩
    · exact .inl rfl

theorem modifyTerminal_frame (sid : String) (f : TerminalSession → TerminalSession) :
    ∃ terminal, store.modifyTerminal sid f = { store with terminal } := by
  unfold modifyTerminal
  split <;> exact ⟨_, rfl⟩

variable {f : TerminalSession → TerminalSession} {sid : String} {token : TerminalToken}
  {viewId : String} {nowMs : Nat} {candidate : PromotionCandidate} {reason : String}

theorem sameInput_modifyTerminal (sid : String)
    (h : ∀ replica, (f replica).generation = replica.generation) :
    SameInput store (store.modifyTerminal sid f) := by
  obtain ⟨_, hframe⟩ := modifyTerminal_frame store sid f
  refine ⟨by rw [hframe], fun other => ?_, by rw [hframe]⟩
  rcases generation_modifyTerminal store sid f other with hsame | ⟨rfl, replica, hlook, hf⟩
  · exact hsame
  rw [hf, h]
  unfold generation
  rw [hlook]
  rfl

theorem move_modifyTerminal (sid : String) (h : ∀ repl, (f repl).generation = repl.generation) :
    Move ok store (store.modifyTerminal sid f) [] := by
  have hsame := sameInput_modifyTerminal store sid h
  obtain ⟨_, hframe⟩ := modifyTerminal_frame store sid f
  rw [hframe] at hsame ⊢
  exact .ofSame hsame rfl rfl plain_nil

variable {store}

theorem move_bind {effects : List TerminalEffect} (h : ∀ replica, (f replica).generation = some token)
    (hallow : ok (.turned (store.input.laneOrNew sid) token))
    (plain : ∀ effect ∈ effects, effect.isPlain = true) :
    Move ok store (store.modifyTerminal sid f) effects := by
  have hgen := generation_modifyTerminal store sid f
  obtain ⟨_, hframe⟩ := modifyTerminal_frame store sid f
  rw [hframe] at hgen ⊢
  refine .quiet (.refl _) (fun other target _ _ hto => ?_) (fun other => ?_) rfl rfl plain
  · unfold inputDestination at hto
    rcases hgen other with hsame | ⟨rfl, replica, hlook, hf⟩
    · rw [hsame] at hto
      exact .inl ⟨target, hto, .of_same target.sameConnection_self⟩
    · rw [hf, h, some_or] at hto
      cases hto
      exact .inr hallow
  rcases hgen other with hsame | ⟨rfl, replica, hlook, hf⟩
  · exact .inl hsame
  · exact .inr (.inl ⟨token, hf.trans (h replica), hallow⟩)

/-! ## View commands -/

theorem plain_sendIntentWith (store : TerminalStore) (token : TerminalToken)
    (sid wireViewId : String) (intent : ViewIntent) (rev : Nat) :
    ∀ eff ∈ store.sendIntentWith token sid wireViewId intent rev, eff.isPlain = true := by
  unfold sendIntentWith
  intro eff heff
  split at heff
  · cases mem_singleton.mp heff
    rfl
  split at heff
  · cases mem_singleton.mp heff
    rfl
  · cases heff

theorem plain_sendIntentForWire (store : TerminalStore) (sid wireViewId : String)
    (intent : ViewIntent) (rev : Nat) : ∀ eff ∈ store.sendIntentForWire sid wireViewId intent rev,
      eff.isPlain = true := by
  unfold sendIntentForWire
  split
  · exact plain_nil
  · exact plain_sendIntentWith store _ _ _ _ _

theorem moves_publishViewOnToken (hallow : ok (.turned (store.input.laneOrNew sid) token)) :
    MovesTo ok store (store.publishViewOnToken token sid viewId nowMs) := by
  unfold publishViewOnToken
  split
  · exact .done store
  · exact (move_bind (fun _ => rfl) hallow (plain_sendIntentWith store _ _ _ _ _)).moves

theorem moves_publishView (hallow : ∀ crossing ∈ store.publicationCrossings sid, ok crossing) :
    MovesTo ok store (store.publishView sid viewId nowMs) := by
  unfold publishView
  unfold publicationCrossings at hallow
  split
  · exact .done store
  rename_i hset
  rw [if_neg hset] at hallow
  split
  · exact .done store
  rename_i htarget
  refine moves_publishViewOnToken (hallow _ ?_)
  rw [htarget]
  exact mem_singleton_self _

/-! ## Staging -/

/-- Two stores that would publish a view the same way. -/
structure SameTarget (store next : TerminalStore) : Prop where
  input : next.input = store.input
  routes : next.routes.routes = store.routes.routes
  sync : next.sync = store.sync
  rotations : next.pendingSyncViewRotation = store.pendingSyncViewRotation

theorem SameTarget.refl (store : TerminalStore) : SameTarget store store := ⟨rfl, rfl, rfl, rfl⟩

theorem SameTarget.trans {mid next : TerminalStore} (h : SameTarget store mid)
    (h' : SameTarget mid next) : SameTarget store next :=
  ⟨h'.input.trans h.input, h'.routes.trans h.routes, h'.sync.trans h.sync,
    h'.rotations.trans h.rotations⟩

theorem SameTarget.crossings {next : TerminalStore} (h : SameTarget store next) (sid : String)
    : next.publicationCrossings sid = store.publicationCrossings sid := by
  unfold publicationCrossings crossingOnto publicationTarget
  rw [h.input, h.routes, h.sync, h.rotations]

theorem sameTarget_forEach {α : Type} {f : α → TerminalStore → Emitted}
    (h : ∀ x store, SameTarget store (f x store).1) (xs : List α) (store : TerminalStore) :
    SameTarget store (forEach f xs store).1 := by
  induction xs generalizing store with
  | nil => exact .refl store
  | cons x rest ih => exact (h x store).trans (ih _)

theorem lookup_prospectiveViews (views : List TerminalView) (logicalViewId : String) :
    ((prospectiveViews views).lookup logicalViewId).bind ProspectiveView.wireViewId = none := by
  unfold prospectiveViews
  generalize hmap : (empty : OrderedMap String ProspectiveView) = prospective
  have hnone : (prospective.lookup logicalViewId).bind ProspectiveView.wireViewId = none := by
    rw [← hmap]
    rfl
  clear hmap
  induction views generalizing prospective with
  | nil => exact hnone
  | cons view rest ih =>
    refine ih _ ?_
    rw [lookup_insert]
    split
    · rfl
    · exact hnone

variable (store)

variable (carrier : DirectCarrier)

theorem sameTarget_stageOne (nowMs : Nat)
    (sid : String) : SameTarget store (stageOne carrier nowMs sid store).1 := by
  unfold stageOne
  split
  · exact .refl store
  dsimp only
  split
  · exact .refl store
  unfold stage
  split <;> exact ⟨rfl, rfl, rfl, rfl⟩

theorem moves_stageOne (nowMs : Nat)
    (sid : String) : MovesTo ok store (stageOne carrier nowMs sid store) := by
  unfold stageOne
  split
  · exact .done store
  rename_i hfree
  rw [Option.not_isSome_iff_eq_none] at hfree
  dsimp only
  generalize ((store.terminal.lookup sid).map TerminalSession.publishableViews).getD [] = views
  split
  · exact .done store
  unfold stage
  rw [hfree, Option.any_none, if_neg Bool.false_ne_true]
  refine moves (.staged
    { sessionId := sid, connectionId := carrier.connectionId, token := carrier.token
      attemptId := store.nextAttemptId, baselineReady := false
      prospectiveViews := prospectiveViews views, stagedAtMs := nowMs }
    carrier.workerFp ?_ ?_ ?_ ?_ ?_ ?_ ?_)
  · exact ⟨rfl, fun _ => rfl, rfl⟩
  · exact hfree
  · exact lookup_prospectiveViews _
  · rfl
  · exact fun other => lookup_insert _ _ _ _
  · exact fun other => lookup_insert _ _ _ _
  · intro eff heff
    obtain ⟨_, _, rfl⟩ := mem_map.mp heff
    rfl

theorem sameTarget_stageAdmittedSessions (sessions : Finset String) (nowMs : Nat) :
    SameTarget store (store.stageAdmittedSessions carrier sessions nowMs).1 :=
  sameTarget_forEach (fun sid store => sameTarget_stageOne store carrier nowMs sid) _ store

theorem moves_stageAdmittedSessions (sessions : Finset String) (nowMs : Nat) :
    MovesTo ok store (store.stageAdmittedSessions carrier sessions nowMs) :=
  .forEach fun sid store => moves_stageOne store carrier nowMs sid

theorem sameTarget_stageOpenedSession (sid : String) (nowMs : Nat) :
    SameTarget store (store.stageOpenedSession sid nowMs).1 := by
  unfold stageOpenedSession
  split
  · exact .refl store
  dsimp only
  split
  · exact .refl store
  · exact sameTarget_stageAdmittedSessions store _ _ nowMs

theorem moves_stageOpenedSession (sid : String) (nowMs : Nat) :
    MovesTo ok store (store.stageOpenedSession sid nowMs) := by
  unfold stageOpenedSession
  split
  · exact .done store
  dsimp only
  split
  · exact .done store
  · exact moves_stageAdmittedSessions store _ _ nowMs

theorem sameTarget_cancelStagedCandidate (sid : String) :
    SameTarget store (store.cancelStagedCandidate sid).1 := by
  refine ⟨rfl, ?_, rfl, rfl⟩
  change (store.routes.cancelCandidate sid).1.routes = store.routes.routes
  unfold RouteRegistry.cancelCandidate
  split <;> rfl

theorem sameTarget_cancelStagedCandidateAndRestart (sid : String)
    (nowMs : Nat) : SameTarget store (store.cancelStagedCandidateAndRestart sid nowMs).1 := by
  unfold cancelStagedCandidateAndRestart Emitted.andThen
  split
  · exact .refl store
  have hcancel := sameTarget_cancelStagedCandidate store sid
  dsimp only
  split
  · exact hcancel
  · exact hcancel.trans (sameTarget_stageOne _ _ nowMs sid)

theorem moves_cancelStagedCandidateAndRestart (sid : String) (nowMs : Nat) :
    MovesTo ok store (store.cancelStagedCandidateAndRestart sid nowMs) := by
  unfold cancelStagedCandidateAndRestart
  split
  · exact .done store
  refine .andThen (moves_cancelStagedCandidate store sid) ?_
  split
  · exact .done _
  · exact moves_stageOne _ _ nowMs sid

variable {store}

/-! ## View ids -/

variable (routes : RouteRegistry TerminalSession)

theorem lookup_modifyCandidate (f : PromotionCandidate → PromotionCandidate)
    (h : routes.candidates.lookup sid = some candidate) (other : String) :
    (routes.modifyCandidate sid f).candidates.lookup other =
      if other = sid then some (f candidate) else routes.candidates.lookup other := by
  unfold modifyCandidate
  rw [h]
  exact lookup_insert _ _ _ _

theorem staged_modifyCandidate (sid : String) (f : PromotionCandidate → PromotionCandidate) :
    (routes.modifyCandidate sid f).staged = routes.staged := by
  unfold modifyCandidate
  split <;> rfl

theorem wireIdOf_insert (cand : PromotionCandidate) (logicalViewId : String)
    (view : ProspectiveView) (other : String) : wireIdOf { cand with
      prospectiveViews := cand.prospectiveViews.insert logicalViewId view } other =
        if other = logicalViewId then view.wireViewId else cand.wireIdOf other := by
  unfold wireIdOf
  rw [lookup_insert]
  split <;> rfl

theorem moves_adoptCandidateViewId (store : TerminalStore) (sid : String) (attemptId : Nat)
    (logicalViewId : String) (wireViewId : Option String) (nowMs : Nat) :
    MovesTo ok store (store.adoptCandidateViewId sid attemptId logicalViewId wireViewId nowMs) := by
  unfold adoptCandidateViewId
  split
  · exact .done store
  rename_i candidate hcandidate
  have hthere := (filter_eq_some_iff.mp hcandidate).1
  split
  · exact .done store
  rename_i view hview
  obtain ⟨hprepare, hfresh⟩ := filter_eq_some_iff.mp hview
  split
  · exact .done store
  split
  · exact moves_cancelStagedCandidate store sid
  split
  · rename_i repl wireViewId hreplica _
    dsimp only
    generalize hserved : ((repl.bindGeneration candidate.token).openProspectiveView
      logicalViewId wireViewId view.sourceIntent view.candidateRevision
        nowMs).markViewPublished logicalViewId candidate.token.socketGeneration nowMs = served
    have hserves : ∀ other, served.wireViewId other =
        if other = logicalViewId then some wireViewId else repl.wireViewId other := by
      intro other
      rw [← hserved, TerminalSession.wireViewId_markViewPublished,
        TerminalSession.wireViewId_openProspectiveView]
      rfl
    have hlater := wireIdOf_insert candidate logicalViewId
      { view with wireViewId := some wireViewId }
    refine moves (.published ?_ hthere hreplica ?_ ?_ ?_ hlater hserves ?_ ?_ ?_)
    · exact ⟨rfl, fun _ => rfl, rfl⟩
    · rw [hprepare]
      rfl
    · unfold wireIdOf
      rw [hprepare]
      exact Option.isNone_iff_eq_none.mp hfresh
    · exact ⟨rfl, rfl⟩
    · exact hserved ▸ rfl
    · intro other
      unfold markViewWireId modifyView
      rw [lookup_modifyCandidate
        { store.routes with staged := store.routes.staged.insert sid served } _ hthere,
        hprepare]
    · intro other
      unfold markViewWireId modifyView
      rw [staged_modifyCandidate]
      exact lookup_insert _ _ _ _
  · exact .done store

theorem move_forgetRotationView (store : TerminalStore) (sid logicalViewId : String) :
    Move ok store (store.forgetRotationView sid logicalViewId) [] := by
  unfold forgetRotationView
  split
  · exact .ofPlain plain_nil
  · exact .ofSame ⟨rfl, fun _ => rfl, rfl⟩ rfl rfl plain_nil

theorem forgetRotationView_frame (store : TerminalStore) (sid logicalViewId : String) :
    ∃ pendingSyncViewRotation, store.forgetRotationView sid logicalViewId =
      { store with pendingSyncViewRotation } := by
  unfold forgetRotationView
  split <;> exact ⟨_, rfl⟩

theorem moves_adoptSyncViewId {logicalViewId : String} {attemptId : Nat}
    {wireViewId : Option String}
    (hallow : store.adoptsSyncViewId sid attemptId logicalViewId wireViewId = true →
      ∀ crossing ∈ store.crossingOnto sid store.sync.terminalToken, ok crossing) :
    MovesTo ok store (store.adoptSyncViewId sid attemptId logicalViewId wireViewId nowMs) := by
  have hforgot : Moves ok store (store.forgetRotationView sid logicalViewId) [] :=
    (move_forgetRotationView store sid logicalViewId).moves
  have hframe := forgetRotationView_frame store sid logicalViewId
  unfold adoptsSyncViewId at hallow
  unfold adoptSyncViewId
  split
  · exact .done store
  rename_i hview
  rw [hview, any_some] at hallow
  split
  · exact hforgot
  rename_i hmatches
  rw [Bool.not_eq_true', Bool.not_eq_false] at hmatches
  rw [hmatches, Bool.true_and] at hallow
  split
  · exact hforgot
  rename_i minted hminted
  rw [hminted, any_some] at hallow
  split
  · exact hforgot
  rename_i hfresh
  have hallow := hallow (by simpa using hfresh)
  have hadopt : Move ok (store.forgetRotationView sid logicalViewId)
      ((store.forgetRotationView sid logicalViewId).modifyTerminal sid
        fun repl => repl.adoptWireViewId logicalViewId minted) [] :=
    move_modifyTerminal _ sid fun _ => rfl
  refine hforgot.trans (hadopt.moves.trans ?_)
  split
  · exact .done _
  rename_i htoken
  refine moves_publishViewOnToken (hallow _ ?_)
  obtain ⟨_, hforget⟩ := hframe
  obtain ⟨_, hmodify⟩ := modifyTerminal_frame
    (store.forgetRotationView sid logicalViewId) sid fun repl =>
      repl.adoptWireViewId logicalViewId minted
  rw [hmodify, hforget]
  rw [htoken]
  exact mem_singleton_self _

/-! ## Panes -/

theorem move_setViewDemand (store : TerminalStore) (fp sid viewId : String)
    (active : Bool) : Move ok store (store.setViewDemand fp sid viewId active) [] :=
  .ofSame ⟨rfl, fun _ => rfl, rfl⟩ rfl rfl plain_nil

theorem moves_handleViewOpened {fp : String} {cols rows : UInt32} (hallow : ∀ crossing ∈ store.publicationCrossings sid, ok crossing) :
    MovesTo ok store (store.handleViewOpened sid fp viewId cols rows nowMs) := by
  unfold handleViewOpened
  generalize hreplica : (store.terminal.lookup sid).getD (.new sid fp) = replica
  dsimp only
  generalize hopened : { store with
    terminal := store.terminal.insert sid (replica.openView viewId cols rows) } = opened
  -- The replica that is opened is bound as it was, or new and unbound.
  have hsame : SameInput store opened := by
    subst hopened
    refine ⟨rfl, fun other => ?_, rfl⟩
    rw [generation_insert rfl]
    split
    · rename_i heq
      obtain ⟨_, hviews⟩ := TerminalSession.openView_eq replica viewId cols rows
      rw [hviews, heq, generation, ← hreplica]
      cases store.terminal.lookup sid with
      | none | some => rfl
    · rfl
  have hopen : Moves ok store opened [] := by
    refine (ofSame hsame ?_ ?_ plain_nil).moves
    · subst hopened
      rfl
    · subst hopened
      rfl
  have htarget : SameTarget store opened := by
    subst hopened
    exact ⟨rfl, rfl, rfl, rfl⟩
  have hdemand := hopen.trans (move_setViewDemand opened fp sid viewId true).moves
  have htarget' : SameTarget store (opened.setViewDemand fp sid viewId true) :=
    htarget.trans ⟨rfl, rfl, rfl, rfl⟩
  have hrest := sameTarget_cancelStagedCandidateAndRestart
    (opened.setViewDemand fp sid viewId true) sid nowMs
  refine hdemand.trans (.andThen (.andThen (moves_cancelStagedCandidateAndRestart _ _ _)
    (moves_stageOpenedSession _ _ _)) (moves_publishView fun crossing hcross => ?_))
  unfold Emitted.andThen at hcross
  rw [((htarget'.trans hrest).trans (sameTarget_stageOpenedSession _ _ _)).crossings] at hcross
  exact hallow crossing hcross

theorem sameTarget_modifyTerminal (store : TerminalStore) (sid : String)
    (f : TerminalSession → TerminalSession) : SameTarget store (store.modifyTerminal sid f) := by
  obtain ⟨_, hframe⟩ := modifyTerminal_frame store sid f
  rw [hframe]
  exact ⟨rfl, rfl, rfl, rfl⟩

theorem moves_handleViewResized {cols rows : UInt32}
    (hallow : store.changesSize sid viewId cols rows = true →
      ∀ crossing ∈ store.publicationCrossings sid, ok crossing) :
    MovesTo ok store (store.handleViewResized sid viewId cols rows nowMs) := by
  unfold handleViewResized
  split
  · exact .done store
  rename_i hchange
  rw [Bool.not_eq_true', Bool.not_eq_false] at hchange
  have hres : Moves ok store (store.modifyTerminal sid fun repl =>
      repl.resizeView viewId cols rows) [] :=
    moves (move_modifyTerminal store sid fun _ => rfl)
  have htarget := (sameTarget_modifyTerminal store sid fun repl =>
    repl.resizeView viewId cols rows).trans (sameTarget_cancelStagedCandidateAndRestart _ sid nowMs)
  refine hres.trans (.andThen (moves_cancelStagedCandidateAndRestart _ _ _)
    (moves_publishView fun crossing hcross => ?_))
  rw [htarget.crossings] at hcross
  exact hallow hchange crossing hcross

theorem moves_handleViewHidden (store : TerminalStore) (sid viewId : String) (nowMs : Nat) :
    MovesTo ok store (store.handleViewHidden sid viewId nowMs) := by
  have hhidden : Moves ok store (store.modifyTerminal sid fun repl =>
      repl.hideView viewId) [] := moves (move_modifyTerminal store sid fun _ => rfl)
  refine (hhidden.trans (move_setViewDemand _ _ sid viewId false).moves).trans
    (.andThen (moves_cancelStagedCandidateAndRestart _ _ _) ?_)
  split
  · exact .done _
  · exact (ofPlain (plain_sendIntentForWire _ _ _ _ _)).moves

theorem moves_handleViewClosed (store : TerminalStore) (sid viewId : String) (nowMs : Nat) :
    MovesTo ok store (store.handleViewClosed sid viewId nowMs) := by
  have hclosed : Moves ok store (store.modifyTerminal sid fun repl =>
      repl.closeView viewId) [] := moves (move_modifyTerminal store sid fun _ => rfl)
  refine (hclosed.trans (move_setViewDemand _ _ sid viewId false).moves).trans
    (.andThen (moves_cancelStagedCandidateAndRestart _ _ _) ?_)
  split
  · exact .done _
  · exact (ofPlain (plain_sendIntentForWire _ _ _ _ _)).moves

/-! ## Carriers -/

theorem moves_routes {routes : RouteRegistry TerminalSession}
    (hcand : routes.candidates = store.routes.candidates)
    (hstaged : routes.staged = store.routes.staged) : Moves ok store { store with routes } [] :=
  (ofSame (sameInput_routes store routes) hcand hstaged plain_nil).moves

theorem register_attempts (carrier : DirectCarrier) : ∃ sessions connections,
      (routes.register carrier).1 = { (routes.cancelCandidates sessions).1 with connections } ∧
      (if (routes.register carrier).2.accepted then
        releaseCancelled (routes.register carrier).2.cancelled else []) =
          releaseCancelled (routes.cancelCandidates sessions).2 := by
  unfold register
  split
  · exact ⟨[], _, rfl, rfl⟩
  dsimp only
  split
  · exact ⟨[], _, rfl, rfl⟩
  split
  · exact ⟨[], _, rfl, rfl⟩
  · split
    · exact ⟨[], _, rfl, rfl⟩
    · exact ⟨_, _, rfl, rfl⟩

theorem moves_handleCarrierAuthenticated (store : TerminalStore) (carrier : DirectCarrier)
    (nowMs : Nat) : MovesTo ok store (store.handleCarrierAuthenticated carrier nowMs) := by
  obtain ⟨sessions, connections, hroutes, hrel⟩ := register_attempts store.routes carrier
  have hregisters : Moves ok store { store with
        routes := { (store.routes.cancelCandidates sessions).1 with connections } }
      (releaseCancelled (store.routes.cancelCandidates sessions).2 ++ []) :=
    (moves_cancelCandidates store sessions).trans (moves_routes rfl rfl)
  unfold handleCarrierAuthenticated
  dsimp only
  rw [hroutes, hrel]
  rw [List.append_nil] at hregisters
  exact .andThen hregisters (moves_stageAdmittedSessions _ carrier carrier.grantedSessions nowMs)

theorem moves_handleGrantMinted (store : TerminalStore) (fp : String) (grant : LiveGrant)
    (sessions : Finset String) (nowMs : Nat) :
    MovesTo ok store (store.handleGrantMinted fp grant sessions nowMs) := by
  have hwid : (store.routes.widenGrant fp grant.workerEpoch sessions).1.candidates =
        store.routes.candidates ∧
      (store.routes.widenGrant fp grant.workerEpoch sessions).1.staged = store.routes.staged := by
    unfold widenGrant
    split <;> exact ⟨rfl, rfl⟩
  have hgrant : Moves ok store { store with
      routes := (store.routes.widenGrant fp grant.workerEpoch sessions).1
      grants := store.grants.insert fp grant } [] := by
    refine moves (.ofSame ⟨rfl, fun _ => rfl, rfl⟩ ?_ ?_ plain_nil)
    · exact hwid.1
    · exact hwid.2
  exact hgrant.trans (.forEach fun entry store =>
    moves_stageAdmittedSessions store entry.1 entry.2 nowMs)

theorem moves_retireRoute {lost : LostRoute}
    (hgone : store.routes.routeMatches lost.sessionId lost.token = false) :
    MovesTo ok store (retireRoute reason lost store) := by
  have hroutes : (store.routes.retireRoute lost.sessionId lost.token).1 = store.routes := by
    unfold RouteRegistry.retireRoute
    rw [hgone]
    rfl
  have hret : store.input.Quiet (store.input.retireToken lost.token reason).1 :=
    ⟨.call _ (.retireToken lost.token reason), tame_retireFenced _ _ _⟩
  unfold retireRoute
  dsimp only
  rw [hroutes]
  have hdirect : ∀ input : InputRouter, store.input.Quiet input →
      MovesTo ok store (beginSyncViewRotation { store with input } lost.sessionId lost.token) := by
    intro input hquiet
    unfold beginSyncViewRotation
    dsimp only
    split
    · exact .ofInput hquiet
    refine (ofInput hquiet).moves.trans (moves (.ofSame ?_ ?_ ?_ ?_))
    · exact ⟨rfl, fun _ => rfl, rfl⟩
    · rfl
    · rfl
    · intro eff heff
      obtain ⟨_, _, rfl⟩ := List.mem_map.mp heff
      rfl
  have hfallback (fp : String) : store.input.Quiet ((store.input.retireToken lost.token
      reason).1.beginFallback lost.sessionId fp lost.token.processEpoch 0) :=
    hret.trans ⟨.call _ (.beginFallback lost.sessionId fp lost.token.processEpoch 0),
      tame_beginFallback _ _ _ _ _⟩
  split
  · exact hdirect _ (by split; exacts [hret, hfallback _])
  · exact hdirect _ (by split; exacts [hret, hfallback _])
  split
  · refine (ofInput hret).moves.trans (ofPlain ?_).moves
    intro eff heff
    obtain ⟨_, _, rfl⟩ := Option.map_eq_some_iff.mp (Option.mem_toList.mp heff)
    rfl
  · exact .ofInput hret

theorem routes_retireRoute {lost : LostRoute}
    (hgone : store.routes.routeMatches lost.sessionId lost.token = false) :
    (retireRoute reason lost store).1.routes = store.routes := by
  have hroutes : (store.routes.retireRoute lost.sessionId lost.token).1 = store.routes := by
    unfold RouteRegistry.retireRoute
    rw [hgone]
    rfl
  unfold retireRoute beginSyncViewRotation
  dsimp only
  rw [hroutes]
  split
  · split <;> rfl
  · split <;> rfl
  · split <;> rfl

theorem moves_retireRoutes {lost : List LostRoute}
    (hgone : ∀ route ∈ lost, store.routes.routeMatches route.sessionId route.token = false) :
    MovesTo ok store (forEach (retireRoute reason) lost store) := by
  refine .forEachOf (fun later => later.routes = store.routes) (fun route hroute later hsame => ?_) rfl
  have hlost : later.routes.routeMatches route.sessionId route.token = false :=
    hsame ▸ hgone route hroute
  exact ⟨moves_retireRoute hlost, (routes_retireRoute hlost).trans hsame⟩

theorem unregister_attempts (conn : String) :
    (routes.unregister conn).1.candidates = routes.candidates ∧
      (routes.unregister conn).1.staged = routes.staged ∧ ∀ lost ∈ (routes.unregister conn).2,
        (routes.unregister conn).1.routeMatches lost.sessionId lost.token = false := by
  unfold unregister
  dsimp only
  split
  · exact ⟨rfl, rfl, fun _ hnone => (by cases hnone)⟩
  rename_i fp _
  generalize htaken : takeRoutesForConnection { routes with
    connections := routes.connections.mapValues fun _ => WorkerConnections.drop conn } conn = taken
  have hsame := attempts_promoteCandidateIfPossible taken.1 fp
  have hatt : taken.1.candidates = routes.candidates ∧ taken.1.staged = routes.staged := by
    subst htaken
    exact ⟨rfl, rfl⟩
  have hgone : ∀ later : RouteRegistry TerminalSession, later.routes = taken.1.routes →
      ∀ lost ∈ taken.2, later.routeMatches lost.sessionId lost.token = false := by
    subst htaken
    intro later hroutes lost hlost
    obtain ⟨_, hentry, rfl⟩ := mem_map.mp hlost
    obtain ⟨hentry, hserved⟩ := mem_filter.mp hentry
    unfold routeMatches
    rw [hroutes]
    unfold takeRoutesForConnection
    rw [lookup_retain, lookup_eq_some_iff.mpr hentry, filter_some,
      if_neg (by simpa using of_decide_eq_true hserved)]
    rfl
  split
  · exact ⟨hsame.1.trans hatt.1, hsame.2.trans hatt.2,
      hgone _ (RouteRegistry.routes_promoteCandidateIfPossible _ fp)⟩
  · exact ⟨hsame.1.trans hatt.1, hsame.2.trans hatt.2,
      hgone _ (RouteRegistry.routes_promoteCandidateIfPossible _ fp)⟩

theorem moves_handleCarrierLost (store : TerminalStore) (conn : String) :
    MovesTo ok store (store.handleCarrierLost conn) := by
  obtain ⟨hcand, hstaged, hgone⟩ := unregister_attempts store.routes conn
  unfold handleCarrierLost
  refine .andThen ((moves_routes hcand hstaged).trans
    (moves_cancelCandidates { store with routes := _ } _)) (moves_retireRoutes fun lost hlost => ?_)
  rw [← hgone lost hlost]
  exact congrArg (fun routes => (routes.lookup lost.sessionId).any fun route =>
    decide (route.token = lost.token)) (RouteRegistry.cancelCandidates_keeps _ _).2

theorem moves_handleWorkerRetired {fp : String}
    (hallow : ok (.retired (store.routes.candidates.values.filter fun cand =>
      decide (cand.token.workerFp = some fp)))) :
    MovesTo ok store (store.handleWorkerRetired fp) := by
  have hgone : ∀ lost ∈ (store.routes.retireWorker TerminalSession.generation fp).2,
      (store.routes.retireWorker TerminalSession.generation fp).1.routeMatches
        lost.sessionId lost.token = false := by
    intro lost hlost
    obtain ⟨entry, hentry, rfl⟩ := mem_map.mp hlost
    obtain ⟨hentry, hserved⟩ := mem_filter.mp hentry
    have hworker : decide (entry.2.token.workerFp = some fp) = true := hserved
    unfold routeMatches retireWorker
    dsimp only
    rw [lookup_retain, lookup_eq_some_iff.mpr hentry, filter_some, hworker]
    rfl
  have hret : Moves ok store { store with
      routes := (store.routes.retireWorker TerminalSession.generation fp).1 } [] := by
    refine moves (.retired fp ?_ hallow ?_ ?_)
    · exact ⟨rfl, fun _ => rfl, rfl⟩
    · rfl
    · rfl
  unfold handleWorkerRetired
  refine .andThen (hret.trans (moves_retireRoutes hgone)) ?_
  refine (moves_cancelCandidates _ _).trans (ofPlain fun eff heff => ?_).moves
  cases mem_singleton.mp heff
  rfl

/-! ## Cells and answers of a direct carrier -/

theorem fencedAttempt_some (h : store.fencedAttempt sid token = some candidate) :
    store.routes.candidates.lookup sid = some candidate ∧ candidate.token = token := by
  obtain ⟨hthere, hfenced⟩ := filter_eq_some_iff.mp h
  rw [Bool.and_eq_true, decide_eq_true_eq] at hfenced
  exact ⟨hthere, hfenced.1⟩

theorem moves_handleDirectCells {sizes : Sizes} {cells : CellInput}
    (hallow : store.routes.routeMatches sid token = true →
      ok (.turned (store.input.laneOrNew sid) token)) :
    Moves ok store (store.handleDirectCells sizes sid token cells nowMs) [] := by
  unfold handleDirectCells
  split
  · rename_i hmatches
    refine moves (move_bind (fun repl => ?_) (hallow hmatches) plain_nil)
    exact (TerminalSession.sameViews_fold sizes token nowMs (repl.bindGeneration token)
      cells).generation
  split
  · rename_i cand repl hattempt hreplica
    obtain ⟨hthere, rfl⟩ := fencedAttempt_some hattempt
    have hfold := TerminalSession.sameViews_fold sizes cand.token nowMs
      (repl.bindGeneration cand.token) cells
    generalize cells.fold sizes cand.token nowMs (repl.bindGeneration cand.token) = served at hfold
    have hcand := lookup_modifyCandidate
      { store.routes with staged := store.routes.staged.insert sid served }
      (fun cand => { cand with baselineReady := served.baselineReady }) hthere
    refine moves (.advanced ?_ hthere hreplica ?_ ?_ hfold.wireViewId
      (.inr hfold.generation) (fun _ => .inr hfold.generation) hcand ?_ plain_nil)
    · exact ⟨rfl, fun _ => rfl, rfl⟩
    · exact ⟨rfl, rfl⟩
    · exact fun _ => rfl
    intro other
    unfold RouteRegistry.markCandidateBaseline
    rw [staged_modifyCandidate]
    exact lookup_insert _ _ _ _
  · exact .done store

theorem attempt_markViewAcknowledged (logicalViewId : String)
    (h : routes.candidates.lookup sid = some cand) : ∃ later : PromotionCandidate,
      later.sessionId = cand.sessionId ∧ later.token = cand.token ∧
      later.baselineReady = cand.baselineReady ∧
      (∀ other, later.wireIdOf other = cand.wireIdOf other) ∧
      ∀ other, (routes.markViewAcknowledged sid logicalViewId).candidates.lookup other =
        if other = sid then some later else routes.candidates.lookup other := by
  have hlook (f : PromotionCandidate → PromotionCandidate) := lookup_modifyCandidate routes f h
  cases hview : cand.prospectiveViews.lookup logicalViewId with
  | none =>
    refine ⟨cand, rfl, rfl, rfl, fun _ => rfl, fun other => ?_⟩
    unfold markViewAcknowledged modifyView
    rw [hlook, hview]
  | some view =>
    refine ⟨{ cand with
      prospectiveViews := cand.prospectiveViews.insert logicalViewId
        { view with acknowledged := true } }, rfl, rfl, rfl, fun other => ?_, fun other => ?_⟩
    · rw [wireIdOf_insert]
      split
      · rename_i heq
        rw [heq, wireIdOf, hview]
        rfl
      · rfl
    · unfold markViewAcknowledged modifyView
      rw [hlook, hview]

theorem move_stagedReplica {repl served : TerminalSession}
    (hthere : store.routes.candidates.lookup sid = some candidate)
    (hreplica : store.routes.staged.lookup sid = some repl)
    (hserves : ∀ other, served.wireViewId other = repl.wireViewId other)
    (hbound : served.generation = repl.generation) : Move ok store { store with
      routes := { store.routes with staged := store.routes.staged.insert sid served } } [] := by
  refine .advanced ?_ hthere hreplica ⟨rfl, rfl⟩ (fun _ => rfl) hserves (.inl hbound) .inl ?_ ?_
    plain_nil
  · exact ⟨rfl, fun _ => rfl, rfl⟩
  · intro other
    split
    · rename_i heq
      rw [heq]
      exact hthere
    · rfl
  · exact fun other => lookup_insert _ _ _ _

theorem move_acknowledged (logicalViewId : String) {repl : TerminalSession}
    (hthere : store.routes.candidates.lookup sid = some candidate)
    (hreplica : store.routes.staged.lookup sid = some repl) : Move ok store { store with
      routes := store.routes.markViewAcknowledged sid logicalViewId } [] := by
  obtain ⟨_, hsess, htoken, hready, hwire, hcand⟩ :=
    attempt_markViewAcknowledged store.routes logicalViewId hthere
  refine .advanced ?_ hthere hreplica ⟨hsess, htoken⟩ hwire (fun _ => rfl) (.inl rfl)
    (fun h => .inl (hready ▸ h)) hcand ?_ plain_nil
  · exact ⟨rfl, fun _ => rfl, rfl⟩
  intro other
  change (store.routes.modifyCandidate sid _).staged.lookup other = _
  rw [staged_modifyCandidate]
  split
  · rename_i heq
    rw [heq]
    exact hreplica
  · rfl

theorem moves_applyDirectViewState (store : TerminalStore) (sid : String)
    (token : TerminalToken) (state : ViewStateResult) (nowMs : Nat) :
    MovesTo ok store (store.applyDirectViewState sid token state nowMs) := by
  unfold applyDirectViewState
  split
  · rename_i replica hattempt hreplica
    have hthere := (fencedAttempt_some hattempt).1
    split
    · exact .done store
    rename_i logicalViewId _ _
    have hserves := TerminalSession.wireViewId_applyViewState replica
      { state with sessionId := sid, viewId := logicalViewId } nowMs
    obtain ⟨_, hviews⟩ := TerminalSession.applyViewState_eq replica
      { state with sessionId := sid, viewId := logicalViewId } nowMs
    generalize replica.applyViewState { state with sessionId := sid, viewId := logicalViewId } nowMs =
      applied at hserves hviews
    have hbound : applied.1.generation = replica.generation := by rw [hviews]
    have hstaged : ∀ served : TerminalSession,
        (∀ other, served.wireViewId other = replica.wireViewId other) →
        served.generation = replica.generation →
        Moves ok store { store with
          routes := { store.routes with
            staged := store.routes.staged.insert sid served } } [] :=
      fun served hserves hbound => (move_stagedReplica hthere hreplica hserves hbound).moves
    have hack : ∀ served : TerminalSession, Move ok { store with
          routes := { store.routes with
            staged := store.routes.staged.insert sid served } }
          { store with
            routes := markViewAcknowledged { store.routes with
              staged := store.routes.staged.insert sid served } sid logicalViewId } [] := by
      intro served
      have hserved : (store.routes.staged.insert sid served).lookup sid =
          some served := by
        rw [lookup_insert, if_pos rfl]
      exact move_acknowledged logicalViewId hthere hserved
    dsimp only
    split
    · exact hstaged _ hserves hbound
    · exact (hstaged _ hserves hbound).trans (moves_cancelStagedCandidate _ sid)
    · exact (hstaged _ hserves hbound).trans (hack applied.1).moves
    rename_i streamId _
    split
    · exact (hstaged _ hserves hbound).trans (moves_cancelStagedCandidate _ sid)
    have hinst := TerminalSession.sameViews_installExpectedStream applied.1 streamId
      state.effectiveCols state.effectiveRows
    exact (hstaged _ (fun other => (hinst.wireViewId other).trans (hserves other))
      (hinst.generation.trans hbound)).trans (hack _).moves
  · exact .done store

/-! ## The Sync link -/

theorem moves_sync {sync : SyncState}
    (h : ∀ sid token, (store.input.laneOrNew sid).claims.required = true →
      store.generation sid = none → sync.terminalToken = some token →
        (∃ held, store.sync.terminalToken = some held ∧ held.sameConnection token = true) ∨
        ok (.turned (store.input.laneOrNew sid) token)) :
    Moves ok store { store with sync } [] := by
  refine moves (.quiet (.refl _) (fun sid token _ hreq hto => ?_) (fun _ => .inl rfl) rfl rfl
    plain_nil)
  change (store.generation sid).or sync.terminalToken = some token at hto
  unfold inputDestination
  cases hbound : store.generation sid with
  | some =>
    rw [hbound, some_or] at hto
    exact .inl ⟨token, hto, .of_same token.sameConnection_self⟩
  | none =>
    rw [hbound, Option.none_or] at hto
    rcases h sid token hreq hbound hto with ⟨held, hheld, hsame⟩ | hallow
    · exact .inl ⟨held, hheld, .of_same hsame⟩
    · exact .inr hallow

theorem mem_lanes_of_required {router : InputRouter}
    (h : (router.laneOrNew sid).claims.required = true) : sid ∈ router.lanes.keys := by
  unfold laneOrNew at h
  cases hlook : router.lanes.lookup sid with
  | none =>
    rw [hlook] at h
    cases h
  | some => exact mem_map.mpr ⟨_, lookup_eq_some_iff.mp hlook, rfl⟩

theorem moves_openLink {gen : UInt64} {processEpoch : String}
    (hallow : ∀ crossing ∈ store.crossings (.linkOpened gen processEpoch), ok crossing) :
    Moves ok store (store.openLink gen processEpoch) [] := by
  unfold openLink
  unfold crossings at hallow
  dsimp only at hallow
  split
  · exact .done store
  rename_i hopens
  rw [if_neg hopens] at hallow
  refine moves_sync fun sid token hreq hbound htoken => .inr (hallow _ ?_)
  cases htoken
  refine List.mem_flatMap.mpr ⟨sid, mem_filter.mpr ⟨mem_lanes_of_required hreq, ?_⟩,
    mem_singleton_self _⟩
  rw [hbound]
  rfl

theorem moves_resetTerminalDomain (store : TerminalStore) (gen domainGeneration : UInt64) :
    Moves ok store (store.resetTerminalDomain gen domainGeneration) [] := by
  unfold resetTerminalDomain
  split
  · exact .done store
  · refine moves_sync fun sid token _ _ htoken => .inl ?_
    obtain ⟨link, hlink, rfl⟩ := map_eq_some_iff.mp htoken
    exact ⟨_, map_eq_some_iff.mpr ⟨link, hlink, rfl⟩, sameConnection_iff.mpr ⟨rfl, rfl, rfl, rfl⟩⟩

theorem moves_markTerminalDomainReady (store : TerminalStore) (gen : UInt64) :
    Moves ok store (store.markTerminalDomainReady gen) [] := by
  unfold markTerminalDomainReady
  split
  · exact .done store
  · refine moves_sync fun sid token _ _ htoken => .inl ?_
    obtain ⟨link, hlink, rfl⟩ := map_eq_some_iff.mp htoken
    exact ⟨_, map_eq_some_iff.mpr ⟨link, hlink, rfl⟩, sameConnection_iff.mpr ⟨rfl, rfl, rfl, rfl⟩⟩

theorem moves_requestRedial (store : TerminalStore) (gen : UInt64) :
    Moves ok store (store.requestRedial gen) [] := by
  unfold requestRedial SyncState.requestRedial
  split
  · exact .done store
  · exact moves_sync fun sid token _ _ htoken => (by cases htoken)

theorem move_releaseSyncGeneration (hstand : store.Standing) (gen : UInt64) :
    Move ok store (store.releaseSyncGeneration gen) [] := by
  have hret : store.input.Quiet (store.input.retireSyncGeneration gen "Sync closed").1 :=
    ⟨.call _ (.retireSyncGeneration gen "Sync closed"), tame_retireFenced _ _ _⟩
  have hblock : (store.input.retireSyncGeneration gen "Sync closed").1.Quiet
      ((store.input.retireSyncGeneration gen "Sync closed").1.blockRoutesOnSyncSocket gen).1 :=
    ⟨.call _ (.blockRoutesOnSyncSocket gen), tame_blockRoutesOnSyncSocket _ _⟩
  have hgeneration (sid : String) : (store.releaseSyncGeneration gen).generation sid =
        store.generation sid ∨ ∃ bound, store.generation sid = some bound ∧
          bound.transport = .sync ∧ bound.socketGeneration = gen ∧
          (store.releaseSyncGeneration gen).generation sid = none := by
    unfold TerminalStore.generation releaseSyncGeneration
    rw [lookup_mapValues]
    cases hlook : store.terminal.lookup sid with
    | none => exact .inl rfl
    | some replica =>
      rw [Option.map_some, bind_some, bind_some]
      split
      · rename_i hreleased
        obtain ⟨bound, hbound, hsocket⟩ := (Option.any_eq_true _ _).mp hreleased
        rw [Bool.and_eq_true, decide_eq_true_eq, decide_eq_true_eq] at hsocket
        exact .inr ⟨bound, hbound, hsocket.1, hsocket.2, rfl⟩
      · exact .inl rfl
  refine .quiet (hret.trans hblock) (fun sid token hsend _ hto => .inl ?_) (fun sid => ?_)
    rfl rfl plain_nil
  · unfold inputDestination at hto ⊢
    rcases hgeneration sid with hsame | ⟨bound, hbound, htransport, hsocket, -⟩
    · rw [hsame] at hto
      exact ⟨token, hto, .of_same token.sameConnection_self⟩
    refine ⟨bound, by rw [hbound]; rfl, fun acknowledged htoken hsame => ?_⟩
    -- The lane's route was acknowledged over this socket, so the lane is blocked.
    refine absurd hsend (stopped_blockRoutesOnSyncSocket ?_)
    obtain ⟨hsock, -, hcarried, -⟩ := sameConnection_iff.mp hsame
    have hlane := @hblock.tame sid
    have hrouted := (hlane.routed hsend).1.symm.trans htoken
    unfold InputLane.routedOnSyncSocket
    rw [hlane.sending hsend, hrouted, any_some, hsock, hcarried, htransport, hsocket]
    simp
  rcases hgeneration sid with hsame | ⟨bound, hbound, htransport, hsocket, -⟩
  · exact .inl hsame
  -- What went out on this socket was settled with it.
  refine .inr (.inr fun pending hpend hstart other hother hfence => ?_)
  cases hbound.symm.trans hother
  rw [outstanding_eq] at hpend
  have hleft := (@hblock.tame sid).started pending hpend hstart
  rw [← outstanding_eq] at hleft
  have hgone := fencedOn_retireFenced hstand.reached.sane hleft
  unfold PendingInput.fencedOn at hgone
  rw [hfence, any_some, htransport, hsocket] at hgone
  simp at hgone

theorem moves_onLinkClosed (hstand : store.Standing) (gen : UInt64) :
    Moves ok store (store.onLinkClosed gen) [] := by
  have hunlink : Moves ok store
      { store with sync := { store.sync with link := none, terminalDomain := none } } [] :=
    moves_sync fun sid token _ _ htoken => (by cases htoken)
  have hclosed : ∀ wasOpen : Bool, Moves ok store (if wasOpen then
        { store with sync := { store.sync with link := none, terminalDomain := none } }
      else store) [] := by
    intro wasOpen
    cases wasOpen with
    | true => exact hunlink
    | false => exact .done store
  unfold onLinkClosed
  dsimp only
  split
  · exact hclosed _
  · exact (hclosed _).trans (move_releaseSyncGeneration (hstand.moves (hclosed _)) gen).moves

theorem moves_handleSyncCells {sizes : Sizes} {cells : CellInput}
    (hallow : ∀ crossing ∈ store.crossings (.syncCells sid cells nowMs), ok crossing) :
    Moves ok store (store.handleSyncCells sizes sid cells nowMs) [] := by
  unfold handleSyncCells
  unfold crossings at hallow
  dsimp only at hallow
  split
  · exact .done store
  rename_i token htoken
  split
  · exact .done store
  rename_i hown
  rw [if_neg hown, htoken] at hallow
  refine moves (move_bind (fun repl => ?_) (hallow _ (mem_singleton_self _)) plain_nil)
  exact (TerminalSession.sameViews_fold sizes token nowMs (repl.bindGeneration token)
    cells).generation

/-! ## Every call -/

theorem moves_sweeps (store : TerminalStore) (nowMs : Nat) :
    Moves ok store { store with input := (store.input.sweepHeld nowMs).1 } [] ∧
      Moves ok store { store with input := (store.input.sweepUnanswered nowMs).1 } [] :=
  ⟨.ofInput ⟨.call _ (.sweepHeld nowMs), tame_settleAll _ _⟩,
    .ofInput ⟨.call _ (.sweepUnanswered nowMs), tame_settleAll _ _⟩⟩

theorem sends_of_crossings (h : ∀ crossing ∈ store.sentCrossings sid, ok crossing) :
    store.Sends ok sid := by
  intro hsend
  unfold sentCrossings at h
  rw [if_pos hsend] at h
  exact hands_of_crossings h

/-- Every call is made of moves its crossings allow, or sends one promotion claim. -/
theorem step_call (hstand : store.Standing) (call : TerminalCall)
    (hallow : ∀ crossing ∈ store.crossings call, ok crossing) :
    CallStep ok store ((terminalStore sizes).next store call)
      ((terminalStore sizes).answer store call) := by
  cases call with
  | viewOpened =>
    exact .moves (moves_handleViewOpened hallow)
  | viewResized =>
    refine .moves (moves_handleViewResized fun hchange crossing hcross => hallow crossing ?_)
    rwa [crossings, if_pos hchange]
  | viewHidden sid viewId nowMs =>
    exact .moves (moves_handleViewHidden store sid viewId nowMs)
  | viewClosed sid viewId nowMs =>
    exact .moves (moves_handleViewClosed store sid viewId nowMs)
  | publishView sid viewId nowMs =>
    unfold crossings at hallow
    dsimp only at hallow
    by_cases hview : ((store.terminal.lookup sid).bind fun repl =>
        repl.views.lookup viewId).isSome = true
    · rw [if_pos hview] at hallow
      exact .moves (moves_publishView hallow)
    -- There is no such view, and nothing is published.
    have hnone : (store.terminal.lookup sid).bind (fun repl =>
        repl.views.lookup viewId) = none := Option.not_isSome_iff_eq_none.mp hview
    have hnothing : store.publishView sid viewId nowMs = (store, []) := by
      unfold publishView publishViewOnToken
      rw [hnone]
      split
      · rfl
      · split <;> rfl
    change CallStep ok store (store.publishView sid viewId nowMs).1
      (store.publishView sid viewId nowMs).2
    rw [hnothing]
    exact .moves (.done store)
  | viewIdMinted sid attemptId logicalViewId target wireViewId nowMs =>
    cases target with
    | candidate =>
      exact .moves (moves_adoptCandidateViewId store sid attemptId logicalViewId wireViewId nowMs)
    | syncFallback =>
      refine .moves (moves_adoptSyncViewId fun hadopts crossing hcross => hallow crossing ?_)
      rwa [crossings, if_pos hadopts]
  | carrierReady carrier direct nowMs =>
    exact .moves (moves_handleCarrierAuthenticated store carrier nowMs)
  | grantMinted fp grant sessions nowMs =>
    exact .moves (moves_handleGrantMinted store fp grant sessions nowMs)
  | grantEnded | dialled =>
    exact .moves (moves (.ofSame ⟨rfl, fun _ => rfl, rfl⟩ rfl rfl plain_nil))
  | carrierLost conn => exact .moves (moves_handleCarrierLost store conn)
  | workerRetired =>
    exact .moves (moves_handleWorkerRetired (hallow _ (mem_singleton_self _)))
  | directCells =>
    refine .moves (moves_handleDirectCells fun hmatches => hallow _ ?_)
    rw [crossings, if_pos hmatches]
    exact mem_singleton_self _
  | directViewState sid token state nowMs =>
    exact .moves (moves_applyDirectViewState store sid token state nowMs)
  | advanceCandidate sid nowMs =>
    change CallStep ok store (store.advanceCandidate sid nowMs).1
      (store.advanceCandidate sid nowMs).2
    unfold advanceCandidate
    split
    · exact .moves (.done store)
    rename_i hcandidate
    split
    · exact .moves (.done store)
    rw [crossings, hcandidate, toList_some, List.flatMap_singleton, advanceCrossings] at hallow
    refine step_advancePromotion hstand fun helects => ?_
    rw [if_pos helects] at hallow
    refine ⟨fun hrequired => ?_, fun hfree => ?_⟩
    · rw [if_pos hrequired] at hallow
      exact hands_of_crossings hallow
    · rw [hfree, if_neg Bool.false_ne_true] at hallow
      exact hallow _ (mem_singleton_self _)
  | directInputResult sid token inputSeq outcome nowMs =>
    exact .moves (moves_handleDirectInputResult token inputSeq outcome nowMs
      (sends_of_crossings hallow))
  | directRouteResult => exact step_settleRouteResult hstand hallow
  | linkOpened => exact .moves (moves_openLink hallow)
  | linkReplaced generation => exact .moves (moves_requestRedial store generation)
  | linkClosed generation nowMs =>
    exact .moves ((moves_onLinkClosed hstand generation).trans
      (moves_rejectSyncClaims generation nowMs hallow))
  | terminalDomainReset generation domainGeneration =>
    exact .moves (moves_resetTerminalDomain store generation domainGeneration)
  | terminalDomainReady generation =>
    exact .moves (moves_markTerminalDomainReady store generation)
  | syncCells => exact .moves (moves_handleSyncCells hallow)
  | syncInputResult sid inputSeq outcome listedWorkerFp nowMs =>
    exact .moves (moves_handleInputResult inputSeq outcome listedWorkerFp nowMs
      (sends_of_crossings hallow))
  | syncRouteResult result nowMs =>
    unfold crossings at hallow
    unfold Transducer.next answer terminalStore
    dsimp only
    split
    · exact .moves (.done store)
    rename_i token htoken
    rw [htoken] at hallow
    refine step_settleRouteResult hstand fun crossing hcross => hallow crossing ?_
    exact List.mem_flatMap.mpr ⟨token, mem_singleton_self _, hcross⟩
  | terminalInput sid viewId bytes listedWorkerFp nowMs =>
    exact .moves (moves_handleTerminalInput viewId bytes listedWorkerFp nowMs
      (sends_of_crossings hallow))
  | sweepCandidateDeadlines nowMs => exact .moves (.forEach fun sid store => moves_cancelStagedCandidate store sid)
  | expireRouteClaims nowMs => exact .moves (moves_expireRouteClaims nowMs hallow)
  | resumeHeldPromotion =>
    refine step_resumeHeldPromotion hstand fun promotion hheld hgone => hands_of_crossings ?_
    rw [crossings, hheld, toList_some, List.flatMap_singleton, resumeCrossings, hgone,
      if_neg Bool.false_ne_true] at hallow
    exact hallow
  | claimDueFallbacks nowMs => exact .moves (moves_claimDueFallbacks store nowMs)
  | sweepHeld nowMs => exact .moves (moves_sweeps store nowMs).1
  | sweepUnanswered nowMs => exact .moves (moves_sweeps store nowMs).2
  | sendQueuedInput sid nowMs =>
    exact .moves (moves_sendQueuedInput nowMs (sends_of_crossings hallow))

end TerminalStore

/-! ## Runs -/

def Meets (ok : Crossing → Prop) (store : TerminalStore) (call : TerminalCall) : Prop :=
  ∀ crossing ∈ store.crossings call, ok crossing

instance (ok : Crossing → Prop) [DecidablePred ok] (store : TerminalStore) (call : TerminalCall) :
    Decidable (Meets ok store call) := inferInstanceAs (Decidable (∀ crossing ∈ _, ok crossing))

/-- All that a run emitted. -/
def emitted (sizes : Sizes) (calls : List TerminalCall) : List TerminalEffect :=
  ((terminalStore sizes).answers .new calls).flatten

variable {ok : Crossing → Prop}

/-- A call leaves a standing store standing. -/
theorem TerminalStore.Standing.step {store next : TerminalStore} {effects : List TerminalEffect}
    (h : store.Standing) (step : CallStep ok store next effects) : next.Standing := by
  cases step with
  | moves moves => exact h.moves moves
  | @promotes sid token workerEpoch attemptId nowMs held input claim hold same drained begun =>
    refine ⟨(h.reached.trans hold.reaches).trans ?_, h.attempts⟩
    have hinput : input =
        (held.beginRouteClaim sid token workerEpoch (some attemptId) nowMs).1 := by rw [begun]
    exact hinput ▸ .call held (.beginRouteClaim sid token workerEpoch (some attemptId) nowMs)
  | @retries token result nowMs input claim settled =>
    refine ⟨h.reached.trans ?_, h.attempts⟩
    have hinput : input = (store.input.settleRouteClaim token result nowMs).1 := by rw [settled]
    exact hinput ▸ .call _ (.settleRouteClaim token result nowMs)

/-- What one call keeps, every run whose calls meet the condition keeps. -/
theorem run_keeps {P : List TerminalEffect → TerminalStore → Prop} (start : P [] .new)
    (keep : ∀ {log store next effects}, store.Standing → P log store →
      CallStep ok store next effects → P (log ++ effects) next)
    {calls : List TerminalCall} (h : (terminalStore sizes).Along (Meets ok) .new calls) :
    ((terminalStore sizes).run .new calls).Standing ∧
      P (emitted sizes calls) ((terminalStore sizes).run .new calls) := by
  unfold emitted
  induction calls using List.reverseRecOn with
  | nil => exact ⟨.new, start⟩
  | append_singleton calls call ih =>
    rw [along_concat] at h
    obtain ⟨hstand, hlog⟩ := ih h.1
    have hstep := TerminalStore.step_call sizes hstand call h.2
    rw [run_concat, answers_concat, List.flatten_append, List.flatten_singleton]
    exact ⟨hstand.step hstep, keep hstand hlog hstep⟩

/-! ## A pane that opens on Sync, and a peer that may serve it -/

def peerToken : TerminalToken := ⟨9, "worker-epoch", 0, .peer, some "worker-1"⟩

def peerCarrier : DirectCarrier where
  connectionId := "peer-1"
  workerFp := "worker-1"
  transport := .peer
  token := peerToken
  socketId := "socket-1"
  grantedSessions := {"session-1"}

def paneView : String := "00000000-0000-4000-8000-0000000000a1"

/-- The id the host mints for the peer's own view of the pane. -/
def peerView : String := "00000000-0000-4000-8000-0000000000b1"

def paneBaseline : PbCellGridFrame where
  sessionId := "session-1"
  streamId := TerminalSession.paneStream
  gridEpoch := "epoch"
  cols := 1
  rows := 1
  full := true
  seq := 1
  viewportRows := [{ index := 0 }]

def opensOnSync : List TerminalCall :=
  [.dialled, .linkOpened 1 "client-epoch", .terminalDomainReset 1 7, .terminalDomainReady 1,
    .viewOpened "session-1" "worker-1" paneView 1 1 10]

def types (nowMs : Nat) : TerminalCall :=
  .terminalInput "session-1" (some paneView) [97] none nowMs

/-- The peer's attempt publishes its view, which is answered. -/
def stagesPeer : List TerminalCall :=
  [.carrierReady peerCarrier (by decide) 20,
    .viewIdMinted "session-1" 1 paneView .candidate (some peerView) 30,
    .directViewState "session-1" peerToken
      ⟨"session-1", peerView, 9, 2, true, some TerminalSession.paneStream, 1, 1⟩ 40]

/-- The attempt's baseline arrives. -/
def readiesPeer : TerminalCall := .directCells "session-1" peerToken (.frame paneBaseline) 50

def peerClaim (sentAtMs : Nat) : InputClaim where
  requestId := "route-claim-1"
  sessionId := "session-1"
  revision := 1
  token := peerToken
  workerEpoch := "worker-epoch"
  attemptId := some 1
  sentAtMs := sentAtMs
  retried := false

end Roost.Client
