-- SUMMARY: What deadlines, baselines, deltas and parts do to the repair ladder.
import Roost.Cell.ChunkAssembly
import Roost.Coord.Screen.Ladder

/-!
# The ladder over whole turns

A deadline that still stands acts on the repair it was handed out for. A baseline that is
admitted completes the repair before it is installed, and an accepted byte voids what was
reported before it: the ladder must not be spent then.
-/

namespace Roost.Coord

open SessionScreen

open Roost.Cell TerminalScreenResidency

namespace TerminalScreenResidency

/-- Should a source still need the current version, an admitted replacement can pin it. -/
def PinFits (pool : TerminalScreenResidency) (state : SessionCharge) (rows spans : Nat) : Prop :=
  pool.canReplace state rows spans = true →
    ∀ current ∈ state.current, 0 < current.sourceLeaseCount →
      pool.HasRoom current.rows current.spans
  deriving Decidable

theorem replace_of_pinFits {pool : TerminalScreenResidency} {state : SessionCharge}
    {frame : CellGridFrame} {coordRecvMs : UInt64} {rows spans : Nat}
    (hcan : pool.canReplace state rows spans = true) (hfits : pool.PinFits state rows spans) :
    (pool.replace state frame coordRecvMs rows spans).2.2 = true := by
  rw [replace_eq, if_pos hcan]
  obtain ⟨-, he⟩ | ⟨_, -, -, he⟩ | ⟨_, -, -, -, -, he⟩ |
    ⟨cur, hcur, hleases, href, -⟩ := dropCache_cases pool state
  · rw [he]
  · rw [he]
  · rw [he]
  obtain hpinned | hfull := href
  · have hleased : state.leased = true := by simp [SessionCharge.leased, hcur, hleases]
    simp [canReplace, hleased, hpinned] at hcan
  · exact absurd (hfits hcan cur hcur hleases) hfull

end TerminalScreenResidency

namespace SessionScreen

/-- A stall deadline that fires on the transfer it guards finds it stalled, unless the replica
still serves, a request is outstanding, or the ladder is at its end. -/
def StallSeen (screen : SessionScreen) (nowMs : Nat) : Deadline → Prop
  | .chunk _ token generation =>
    screen.chunks.timer = some token → screen.chunks.timerGeneration = some generation →
      (screen.chunks.assembler.expire nowMs).2 = false →
        screen.hasValidCache = true ∨ screen.repair.requestTimer.isSome = true ∨ screen.Spent
  | _ => True

instance (screen : SessionScreen) (nowMs : Nat) (deadline : Deadline) :
    Decidable (screen.StallSeen nowMs deadline) := by
  cases deadline <;> dsimp only [StallSeen] <;> infer_instance

end SessionScreen

namespace ScreenTurn

variable {sizes : Sizes} {sid : SessionId} {old old' : List Deadline}
  {reported : Prop} {turn turn' : ScreenTurn}

/-! ## Deadlines -/

theorem Backed.withChunks (h : Backed sid old turn) {chunks : ChunkState}
    (htimer : chunks.timer = none) :
    Backed sid old { turn with screen := { turn.screen with chunks } } := by
  refine ⟨h.expected, h.drawn, ?_, h.baseline, h.request, ?_, h.owned⟩
  · intro due hmem howner hawaits
    cases due with
    | chunk owner token =>
      have hsome : chunks.timer = some token := hawaits
      rw [htimer] at hsome
      cases hsome
    | _ => exact h.stands _ hmem howner hawaits
  · intro token hsome
    rw [show chunks.timer = some token from hsome] at htimer
    cases htimer

theorem Backed.cancelBaselineTimer (h : Backed sid old turn) :
    Backed sid old turn.cancelBaselineTimer := by
  refine ⟨h.expected, h.drawn, ?_, ?_, h.request, h.chunk, h.owned⟩
  · intro due hmem howner hawaits
    cases due with
    | baseline => cases hawaits
    | _ => exact h.stands _ hmem howner hawaits
  · intro token htimer
    cases htimer

theorem Backed.withoutRequest (h : Backed sid old turn) : Backed sid old
      (turn.withRepair { turn.screen.repair with requestTimer := none }) := by
  refine ⟨h.expected, h.drawn, ?_, h.baseline, ?_, h.chunk, h.owned⟩
  · intro deadline hmem howner hawaits
    cases deadline with
    | request => cases hawaits
    | _ => exact h.stands _ hmem howner hawaits
  · intro token htimer
    cases htimer

variable {due : Deadline} {token gen : Nat} {want : ExpectedStream}

section Fired

variable (hnew : ∀ other ∈ old', other ∈ old)
include hnew

theorem Backed.fired (h : Backed sid old turn) (hdone : ¬turn.screen.Awaits due)
    (hkept : ∀ other ∈ old, other ≠ due → other ∈ old') : Backed sid old' turn := by
  apply h.reschedule
  · intro other hmem
    obtain hold | hturn := List.mem_append.mp hmem
    · exact h.drawn other (List.mem_append_left _ (hnew other hold))
    · exact h.drawn other (List.mem_append_right _ hturn)
  · intro other hmem _ hawaits
    apply hkept other hmem
    rintro rfl
    exact hdone hawaits
  · exact fun other hmem _ => hnew other hmem

variable (h : Ladder sid old reported turn)
include h

theorem Ladder.fired (hdone : ¬turn.screen.Awaits due)
    (hkept : ∀ other ∈ old, other ≠ due → other ∈ old') : Ladder sid old' reported turn :=
  ⟨⟨h.toBacked.fired hnew hdone hkept, h.first, h.spent⟩, h.transfer, h.latched, h.broken⟩

theorem Ladder.onBaselineDeadline {streamId : String} (hout : .baseline sid token gen streamId ∈ old)
    (hkept : ∀ other ∈ old, other ≠ .baseline sid token gen streamId → other ∈ old') :
    Ladder sid old' reported (turn.onBaselineDeadline sid token gen streamId) := by
  by_cases htimer : turn.screen.repair.baselineTimer = some token
  · obtain ⟨hlatched, _, _, hidle⟩ := h.first (by rw [htimer]; rfl)
    have hnol : turn.screen.resyncLatched ≠ true := by simp [hlatched]
    have hbooks : Books sid old' reported turn.cancelBaselineTimer := by
      refine ⟨h.toBacked.cancelBaselineTimer.fired hnew (fun hawaits => ?_) hkept, ?_, h.spent⟩
      · cases hawaits
      · intro hfirst
        cases hfirst
    cases hvalid : turn.screen.hasValidCache with
    | true =>
      have hdone : turn.onBaselineDeadline sid token gen streamId = turn.cancelBaselineTimer := by
        unfold ScreenTurn.onBaselineDeadline
        rw [if_neg (not_not.mpr htimer)]
        exact if_pos (.inr (.inr (.inl hvalid)))
      rw [hdone]
      refine ⟨hbooks, h.transfer, fun hlatched' => absurd hlatched' hnol, ?_⟩
      intro hbroken
      rw [show turn.screen.hasValidCache = false from hbroken] at hvalid
      cases hvalid
    | false =>
      -- The deadline stands, so it latches a repair.
      obtain ⟨hgen, hstr⟩ := h.stands _ (List.mem_append_left _ hout) rfl htimer
      have hlatches : turn.onBaselineDeadline sid token gen streamId =
          turn.cancelBaselineTimer.latch sid "terminal stream baseline never arrived" := by
        unfold ScreenTurn.onBaselineDeadline
        rw [if_neg (not_not.mpr htimer)]
        have hstands : ¬(turn.screen.repair.generation ≠ gen ∨
            turn.screen.expectedStreamId ≠ some streamId ∨ turn.screen.hasValidCache = true ∨
            turn.screen.assembling = true) := by
          simp [hgen, hstr, hvalid, hidle]
        exact if_neg hstands
      rw [hlatches]
      exact hbooks.latch h.transfer (fun hlatched' => absurd hlatched' hnol) _
  · have hstale : turn.onBaselineDeadline sid token gen streamId = turn :=
      if_pos htimer
    have hdone : ¬turn.screen.Awaits (.baseline sid token gen streamId) := htimer
    rw [hstale]
    exact h.fired hnew hdone hkept

theorem Ladder.onRequestDeadline {attempt : Nat} {streamId reason : String}
    (hout : .request sid token gen streamId attempt reason ∈ old)
    (hkept : ∀ other ∈ old, other ≠ .request sid token gen streamId attempt reason → other ∈ old') :
    Ladder sid old' reported
      (turn.onRequestDeadline sid token gen streamId attempt reason) := by
  by_cases htimer : turn.screen.repair.requestTimer = some token
  · obtain ⟨hgen, hstr, hatt⟩ := h.stands _ (List.mem_append_left _ hout) rfl htimer
    obtain ⟨-, hpos⟩ := h.request token htimer
    have hbacked : Backed sid old'
        (turn.withRepair { turn.screen.repair with requestTimer := none }) := by
      refine h.toBacked.withoutRequest.fired hnew (fun hawaits => ?_) hkept
      cases hawaits
    have hstands : ¬(turn.screen.repair.generation ≠ gen ∨
        turn.screen.expectedStreamId ≠ some streamId) := by
      simp [hgen, hstr]
    by_cases hfirst : attempt = 1
    · have hasks : turn.onRequestDeadline sid token gen streamId attempt reason =
          (turn.withRepair { turn.screen.repair with requestTimer := none }).startSnapshotRequest
            sid "terminal snapshot request produced no bytes" := by
        unfold ScreenTurn.onRequestDeadline
        rw [if_neg (not_not.mpr htimer)]
        exact (if_neg hstands).trans (if_pos hfirst)
      rw [hasks]
      refine hbacked.request_started rfl ?_ h.transfer _
      rw [hfirst] at hatt
      exact Nat.lt_of_le_of_lt hatt.ge (by decide)
    have hreports : turn.onRequestDeadline sid token gen streamId attempt reason =
        (turn.withRepair { turn.screen.repair with requestTimer := none }).emit
          (.requestFreshStream sid streamId
            ("terminal snapshot repair timed out: " ++ reason)) := by
      unfold ScreenTurn.onRequestDeadline
      rw [if_neg (not_not.mpr htimer)]
      exact (if_neg hstands).trans (if_neg hfirst)
    have hsame : SameLadder (turn.withRepair { turn.screen.repair with requestTimer := none })
        ((turn.withRepair { turn.screen.repair with requestTimer := none }).emit
          (.requestFreshStream sid streamId ("terminal snapshot repair timed out: " ++ reason))) :=
      ⟨rfl, rfl, rfl, id, rfl, rfl, fun _ hmem => List.mem_append_left _ hmem⟩
    have htold : ((turn.withRepair { turn.screen.repair with requestTimer := none }).emit
        (.requestFreshStream sid streamId
          ("terminal snapshot repair timed out: " ++ reason))).Told sid reported :=
      .inr ⟨_, List.mem_append_right _ (List.mem_singleton_self _), by
        simp [ScreenEffect.reports]⟩
    have hsent : snapshotRequestAttempts ≤ turn.screen.repair.requestAttempt := by
      unfold snapshotRequestAttempts
      omega
    rw [hreports]
    refine .of_told ⟨hbacked.same hsame, ?_, fun _ => .inr ⟨hsent, htold⟩⟩ h.transfer htold
    intro hbas
    obtain ⟨-, hnone, -⟩ := h.first hbas
    rw [htimer] at hnone
    cases hnone
  · have hstale : turn.onRequestDeadline sid token gen streamId attempt reason =
        turn := if_pos htimer
    have hdone : ¬turn.screen.Awaits (.request sid token gen streamId attempt reason) := htimer
    rw [hstale]
    exact h.fired hnew hdone hkept

theorem Ladder.onChunkDeadline {nowMs : Nat} (hout : .chunk sid token gen ∈ old)
    (hkept : ∀ other ∈ old, other ≠ .chunk sid token gen → other ∈ old')
    (hstall : turn.screen.StallSeen nowMs (.chunk sid token gen)) :
    Ladder sid old' reported (turn.onChunkDeadline sid token gen nowMs) := by
  unfold ScreenTurn.onChunkDeadline
  -- A deadline whose timer was armed anew does nothing.
  by_cases htimer : turn.screen.chunks.timer = some token
  · obtain ⟨-, hgen⟩ := h.stands _ (List.mem_append_left _ hout) rfl htimer
    rw [if_neg (by simp [htimer, hgen])]
    dsimp only
    have hasm : turn.screen.assembling = true := h.transfer (by rw [htimer]; rfl)
    have hnof : turn.screen.repair.baselineTimer.isSome = true → False := by
      intro hfirst
      obtain ⟨-, -, -, hidle⟩ := h.first hfirst
      rw [hasm] at hidle
      cases hidle
    rcases hexpire : turn.screen.chunks.assembler.expire nowMs with ⟨assembler, expired⟩
    have hbacked (chunks : ChunkState) (hnone : chunks.timer = none) : Backed sid old'
        { turn with screen := { turn.screen with chunks } } := by
      apply (h.toBacked.withChunks hnone).fired hnew _ hkept
      intro hawaits
      rw [show chunks.timer = some token from hawaits] at hnone
      cases hnone
    cases expired with
    | true =>
      have hreset : assembler.inFlight = none := by
        unfold CellGridChunkAssembler.expire at hexpire
        split at hexpire
        · cases hexpire
        split at hexpire
        · cases hexpire
          rfl
        · cases hexpire
      simp only [Bool.not_true, Bool.false_eq_true, if_false]
      have hclear := hbacked { turn.screen.chunks with
          assembler, timer := none, timerGeneration := none, snapshotCoordRecvMs := none } rfl
      have hbooks : Books sid old' reported { turn with
            screen :=
              { turn.screen with
                chunks :=
                  { turn.screen.chunks with
                    assembler, timer := none, timerGeneration := none
                    snapshotCoordRecvMs := none }
                hold := turn.screen.hold.clear } } :=
        ⟨hclear.same ⟨rfl, rfl, rfl, id, rfl, rfl, fun _ hmem => hmem⟩,
          fun hfirst => (hnof hfirst).elim, h.spent⟩
      refine hbooks.retry ?_ (fun hsome => by cases hsome) _
      simp [assembling, ChunkState.activeSnapshotId, hreset]
    | false =>
      have hkeeps : assembler = turn.screen.chunks.assembler := by
        unfold CellGridChunkAssembler.expire at hexpire
        split at hexpire
        · cases hexpire
          rfl
        split at hexpire
        · cases hexpire
        · cases hexpire
          rfl
      subst hkeeps
      simp only [Bool.not_false, if_true]
      have hunder := hstall htimer hgen (by rw [hexpire])
      refine ⟨⟨hbacked _ rfl, fun hfirst => (hnof hfirst).elim, h.spent⟩, ?_, ?_, ?_⟩
      · intro hsome
        cases hsome
      · intro _
        obtain hvalid | hreq | ⟨hnone, hall⟩ := hunder
        · exact .inr (.inr (.inr ⟨hasm, hvalid⟩))
        · exact .inl hreq
        obtain hzero | ⟨-, htold⟩ := h.spent hnone
        · rw [hzero] at hall
          exact absurd hall (by decide)
        · exact .inr (.inr (.inl htold))
      intro hbroken
      obtain hvalid | hreq | ⟨hnone, hall⟩ := hunder
      · rw [show turn.screen.hasValidCache = false from hbroken] at hvalid
        cases hvalid
      · exact .inr (.inl hreq)
      obtain hzero | ⟨-, htold⟩ := h.spent hnone
      · rw [hzero] at hall
        exact absurd hall (by decide)
      · exact .inr (.inr (.inr htold))
  · rw [if_pos (.inl htimer)]
    have hdone : ¬turn.screen.Awaits (.chunk sid token gen) := htimer
    exact h.fired hnew hdone hkept

theorem Ladder.fire {nowMs : Nat} (howner : deadline.sessionId = sid) (hout : deadline ∈ old)
    (hkept : ∀ other ∈ old, other ≠ deadline → other ∈ old')
    (hstall : turn.screen.StallSeen nowMs deadline) :
    Ladder sid old' reported (turn.fire nowMs deadline) := by
  subst howner
  cases deadline with
  | baseline => exact h.onBaselineDeadline hnew hout hkept
  | chunk => exact h.onChunkDeadline hnew hout hkept hstall
  | request =>
    exact h.onRequestDeadline hnew hout hkept

end Fired

/-! ## Baselines -/

theorem same_seedSource (turn : ScreenTurn) : SameLadder turn (turn.seedSource sizes sid).1 := by
  unfold seedSource
  split
  · exact ⟨rfl, rfl, rfl, id, rfl, rfl, fun _ h => h⟩
  split
  · exact ⟨rfl, rfl, rfl, id, rfl, rfl, fun _ h => h⟩
  · split
    · exact ⟨rfl, rfl, rfl, id, rfl, rfl, fun _ h => h⟩
    · exact ⟨rfl, rfl, rfl, id, rfl, rfl, fun _ hmem => List.mem_append_left _ hmem⟩

theorem Ladder.seedSource (h : Ladder sid old reported turn) :
    Ladder sid old reported (turn.seedSource sizes sid).1 :=
  h.same (same_seedSource turn) <| by
    rw [hasValidCache, (seedSource_cases sizes turn sid).2.1, hasValidCache]

theorem same_seedWatchers (sizes : Sizes) (sid : SessionId) (turn : ScreenTurn)
    (watchers : List Watcher) (streamId : String) :
    SameLadder turn (turn.seedWatchers sizes sid watchers streamId) ∧
      (turn.seedWatchers sizes sid watchers streamId).screen.charge = turn.screen.charge := by
  unfold seedWatchers
  split
  · exact ⟨⟨rfl, rfl, rfl, id, rfl, rfl, fun _ h => h⟩, rfl⟩
  have hsame : SameLadder turn (turn.seedSource sizes sid).1 := same_seedSource turn
  have hcharge := (seedSource_cases sizes turn sid).2.1
  rcases hseed : turn.seedSource sizes sid with ⟨seeded, source⟩
  rw [hseed] at hsame hcharge
  cases source with
  | none => exact ⟨hsame, hcharge⟩
  | some =>
    exact ⟨⟨hsame.expected, hsame.repair, hsame.chunks, hsame.latched, hsame.tokens,
      hsame.scheduled, fun eff hmem => List.mem_append_left _ (hsame.effects eff hmem)⟩,
      hcharge⟩

variable (watchers : List Watcher)

theorem Books.installCache (sizes : Sizes) (frame : CellGridFrame) (spans : Nat)
    (coordRecvMs : UInt64) (h : Books sid old reported turn)
    (hzero : turn.screen.repair.requestAttempt = 0)
    (htransfer : turn.screen.chunks.timer.isSome = true → turn.screen.assembling = true)
    (hexpect : turn.screen.expected = some want)
    (hfits : turn.residency.PinFits turn.screen.charge frame.rows.toNat spans) :
    let turn' := turn.installCache sizes sid watchers frame spans coordRecvMs
    Ladder sid old
        (reported ∧ turn'.residency.nextGeneration = turn.residency.nextGeneration) turn' ∧
      (turn'.screen.charge.current.map ResidentCache.frame = some frame ∨
        ∃ eff ∈ turn'.effects, eff.reports sid = true) := by
  obtain ⟨-, he⟩ | ⟨hcan, href, -⟩ | ⟨hkept, he⟩ :=
    installCache_cases sizes sid watchers turn hexpect
  · rw [he]
    have hsame : SameLadder turn (turn.dropCache.emit (.unavailable sid capacityExceeded)) :=
      ⟨rfl, rfl, rfl, id, rfl, rfl, fun _ hmem => List.mem_append_left _ hmem⟩
    have hnext : (turn.dropCache.emit
        (.unavailable sid capacityExceeded)).residency.nextGeneration =
          turn.residency.nextGeneration := dropCache_nextGeneration turn.residency _
    have hreports : ∃ eff ∈ (turn.dropCache.emit
        (.unavailable sid capacityExceeded)).effects, eff.reports sid = true :=
      ⟨_, List.mem_append_right _ (List.mem_singleton_self _), by simp [ScreenEffect.reports]⟩
    have hbooks := (h.same hsame).mono fun hrep => And.intro hrep hnext
    exact ⟨.of_told hbooks htransfer (.inr hreports), .inr hreports⟩
  · rw [replace_of_pinFits hcan hfits] at href
    cases href
  rw [he]
  obtain ⟨hcur, -⟩ := replace_installs hkept
  obtain ⟨hseeded, hcharge⟩ := same_seedWatchers sizes sid
    ((turn.installed frame coordRecvMs frame.rows.toNat spans).emit
      (.fullAccepted sid want.streamId)) watchers want.streamId
  have hinst : (((turn.installed frame coordRecvMs frame.rows.toNat spans).emit
      (.fullAccepted sid want.streamId)).seedWatchers sizes sid watchers
        want.streamId).screen.charge.current =
          some (.new turn.residency.nextGeneration frame coordRecvMs frame.rows.toNat spans) := by
    rw [hcharge]
    exact hcur
  have hsame : SameLadder turn (((turn.installed frame coordRecvMs frame.rows.toNat spans).emit
      (.fullAccepted sid want.streamId)).seedWatchers sizes sid watchers want.streamId) := by
    refine ⟨hseeded.expected, hseeded.repair, hseeded.chunks, ?_, hseeded.tokens,
      hseeded.scheduled, ?_⟩
    · intro hlatched
      cases hseeded.latched hlatched
    · exact fun eff hmem => hseeded.effects eff (List.mem_append_left _ hmem)
  have hfresh : Books sid old False turn := ⟨h.toBacked, h.first, fun _ => .inl hzero⟩
  have hladder : Ladder sid old False
      (((turn.installed frame coordRecvMs frame.rows.toNat spans).emit
        (.fullAccepted sid want.streamId)).seedWatchers sizes sid watchers want.streamId) := by
    refine ⟨hfresh.same hsame, ?_, ?_, ?_⟩
    · rw [hsame.chunks, hsame.assembling]
      exact htransfer
    · intro hlatched
      cases hseeded.latched hlatched
    · intro hbroken
      simp [hasValidCache, hinst, ResidentCache.new] at hbroken
  exact ⟨hladder.mono False.elim, .inl (by rw [hinst]; rfl)⟩

theorem Books.acceptFull {proto : PbCellGridFrame} {assembled : Bool}
    (h : Books sid old reported turn) (hidle : turn.screen.assembling = false)
    (htransfer : turn.screen.chunks.timer.isSome = true → turn.screen.assembling = true)
    (hexpect : turn.screen.expected = some want) (hstr : proto.streamId = want.streamId)
    (hfits : ∀ frame spans, validatedFull sizes proto want assembled = .ok (frame, spans) →
      turn.residency.PinFits turn.screen.charge frame.rows.toNat spans) :
    let turn' := turn.acceptFull sizes sid watchers proto assembled
    Ladder sid old
        (reported ∧ turn'.residency.nextGeneration = turn.residency.nextGeneration) turn' ∧
      ∀ frame spans, validatedFull sizes proto want assembled = .ok (frame, spans) →
        turn'.screen.charge.current.map ResidentCache.frame = some frame ∨
          ∃ eff ∈ turn'.effects, eff.reports sid = true := by
  cases hvalid : validatedFull sizes proto want assembled with
  | error reason =>
    have he : turn.acceptFull sizes sid watchers proto assembled = turn.retry sid reason := by
      simp only [ScreenTurn.acceptFull, hexpect, hstr, ne_eq, not_true_eq_false, if_false, hvalid]
    have hnext : (turn.retry sid reason).residency.nextGeneration =
        turn.residency.nextGeneration := by
      rw [(books_retry turn sid reason).residency]
    rw [he]
    refine ⟨(h.retry hidle htransfer reason).mono fun hrep => ⟨hrep, hnext⟩, ?_⟩
    intro frame spans hok
    cases hok
  | ok result =>
    obtain ⟨frame, spans⟩ := result
    have he : turn.acceptFull sizes sid watchers proto assembled =
        turn.completeRepair.installCache sizes sid watchers frame spans proto.coordRecvMs := by
      simp only [ScreenTurn.acceptFull, hexpect, hstr, ne_eq, not_true_eq_false, if_false, hvalid]
    have hcomplete : Books sid old reported turn.completeRepair := h.completeRepair
    have hinstalls := hcomplete.installCache watchers sizes frame spans proto.coordRecvMs rfl
      (fun htimer => by cases htimer) hexpect (hfits frame spans hvalid)
    rw [he]
    refine ⟨hinstalls.1, ?_⟩
    intro frame' spans' hok
    cases hok
    exact hinstalls.2

/-! ## Deltas -/

/-- Whether a delta would be folded into the version a screen serves. -/
def folds (sizes : Sizes) (turn : ScreenTurn) (proto : PbCellGridFrame) : Bool :=
  match turn.screen.expected, turn.screen.charge.current.filter ResidentCache.valid with
  | some expected, some cache =>
    proto.streamId == expected.streamId &&
      match foldedDelta sizes proto cache expected with
      | .error _ => false
      | .ok folded =>
        (turn.residency.replace turn.screen.charge folded proto.coordRecvMs folded.rows.toNat
          (viewportSpans folded)).2.2
  | _, _ => false

/-- The first of these deltas that continues the version a screen serves. -/
def nextHeld (screen : SessionScreen) (deltas : List PbCellGridFrame) : Option PbCellGridFrame :=
  deltas.find? fun delta =>
    decide (screen.expectedStreamId = some delta.streamId ∧
      screen.charge.current.map (fun cache => cache.frame.seq) = some delta.baseSeq)

theorem nextHeld_skip {screen : SessionScreen} {delta : PbCellGridFrame}
    (h : ¬(screen.expectedStreamId = some delta.streamId ∧
      screen.charge.current.map (fun cache => cache.frame.seq) = some delta.baseSeq))
    (rest : List PbCellGridFrame) : nextHeld screen (delta :: rest) = nextHeld screen rest := by
  unfold nextHeld
  rw [List.find?_cons, decide_eq_false h]

theorem folds_of_broken (h : turn.screen.hasValidCache = false) (proto : PbCellGridFrame) :
    turn.folds sizes proto = false := by
  have hnone : turn.screen.charge.current.filter ResidentCache.valid = none := by
    cases hcur : turn.screen.charge.current with
    | none => rfl
    | some =>
      simp only [hasValidCache, hcur, Option.any_some] at h
      simp [h]
  unfold folds
  rw [hnone]
  cases turn.screen.expected <;> rfl

theorem hasValidCache_refuseDelta (turn : ScreenTurn) (reason : String) :
    (turn.refuseDelta sid reason).screen.hasValidCache = false := by
  have hcharge : (turn.refuseDelta sid reason).screen.charge =
      turn.markInvalid.screen.charge := (books_latch _ _ _).charge
  unfold hasValidCache
  rw [hcharge]
  cases hcur : turn.screen.charge.current <;> simp [markInvalid, hcur]

variable (h : Ladder sid old reported turn)
include h

theorem Ladder.refuseDelta
    (hfree : turn.screen.resyncLatched = true → turn.screen.assembling = false)
    (reason : String) : Ladder sid old reported (turn.refuseDelta sid reason) := by
  have hsame : SameLadder turn turn.markInvalid :=
    ⟨rfl, rfl, rfl, id, rfl, rfl, fun _ hmem => hmem⟩
  refine (h.toBooks.same hsame).latch h.transfer ?_ reason
  intro hlatched
  obtain hreq | hchunk | htold | ⟨hasm, -⟩ := h.latched hlatched
  · exact .inl hreq
  · exact .inr (.inl hchunk)
  · exact .inr (.inr htold)
  · rw [hfree hlatched] at hasm
    cases hasm

theorem Ladder.acceptDelta (proto : PbCellGridFrame)
    (hfree : turn.screen.resyncLatched = true → turn.screen.assembling = false)
    (hspent : turn.screen.Spent → turn.folds sizes proto = false) : Ladder sid old
      (reported ∧ (turn.acceptDelta sizes sid watchers proto).residency.nextGeneration =
        turn.residency.nextGeneration) (turn.acceptDelta sizes sid watchers proto) := by
  obtain ⟨want, hexpect⟩ := Option.isSome_iff_exists.mp h.expected
  by_cases hstr : proto.streamId = want.streamId
  · obtain ⟨hnone, he⟩ | ⟨reason, -, he⟩ | ⟨_, folded, hcache, hfolded, hkept, he⟩ :=
      acceptDelta_cases sizes sid watchers turn hexpect hstr
    · have hbroken : turn.screen.hasValidCache = false := by
        cases hcur : turn.screen.charge.current with
        | none => simp [hasValidCache, hcur]
        | some =>
          simpa [hasValidCache, hcur] using hnone
      have hladder : Ladder sid old reported (turn.latch sid
          "terminal delta arrived before a complete baseline") := by
        refine h.toBooks.latch h.transfer ?_ _
        intro hlatched
        obtain hreq | hchunk | htold | ⟨-, hvalid⟩ := h.latched hlatched
        · exact .inl hreq
        · exact .inr (.inl hchunk)
        · exact .inr (.inr htold)
        · rw [hbroken] at hvalid
          cases hvalid
      rw [he]
      refine hladder.mono fun hrep => ⟨hrep, ?_⟩
      rw [(books_latch turn sid _).residency]
    · rw [he]
      refine (h.refuseDelta hfree reason).mono fun hrep => ⟨hrep, ?_⟩
      have hres : (turn.refuseDelta sid reason).residency = turn.residency :=
        (books_latch turn.markInvalid sid reason).residency
      rw [hres]
    have hfolds : turn.folds sizes proto = true := by
      unfold folds
      rw [hexpect, hcache]
      simp [hstr, hfolded, hkept]
    have hunspent : ¬turn.screen.Spent := by
      intro hspent'
      rw [hspent hspent'] at hfolds
      cases hfolds
    obtain ⟨hcur, -⟩ := replace_installs hkept
    have hfresh : Books sid old False turn := by
      refine ⟨h.toBacked, h.first, ?_⟩
      intro hnone
      obtain hzero | ⟨hall, -⟩ := h.spent hnone
      · exact .inl hzero
      · exact absurd ⟨hnone, hall⟩ hunspent
    rw [he]
    refine Ladder.mono ⟨hfresh.same ⟨rfl, rfl, rfl, ?_, rfl, rfl,
      fun eff hmem => List.mem_append_left _ hmem⟩, h.transfer, ?_, ?_⟩ False.elim
    · intro hlatched
      cases hlatched
    · intro hlatched
      cases hlatched
    intro hbroken
    have hheld : (turn.installed folded proto.coordRecvMs folded.rows.toNat
        (viewportSpans folded)).screen.charge.current =
          some (.new turn.residency.nextGeneration folded proto.coordRecvMs
            folded.rows.toNat (viewportSpans folded)) := hcur
    simp [hasValidCache, hheld, ResidentCache.new] at hbroken
  · have he : turn.acceptDelta sizes sid watchers proto = turn := by
      simp only [ScreenTurn.acceptDelta, hexpect, ne_eq, hstr, not_false_eq_true, if_true]
    rw [he]
    exact h.mono fun hrep => ⟨hrep, rfl⟩

theorem Ladder.replayDeltas (deltas : List PbCellGridFrame)
    (hspent : turn.screen.Spent → ∀ delta ∈ nextHeld turn.screen deltas,
      turn.folds sizes delta = false) : Ladder sid old (reported ∧
        (ScreenTurn.replayDeltas sizes sid watchers turn deltas).residency.nextGeneration =
          turn.residency.nextGeneration)
      (ScreenTurn.replayDeltas sizes sid watchers turn deltas) := by
  induction deltas generalizing turn reported with
  | nil => exact h.mono fun hrep => ⟨hrep, rfl⟩
  | cons delta rest ih =>
    obtain ⟨want, hexpect⟩ := Option.isSome_iff_exists.mp h.expected
    have hstreamId : turn.screen.expectedStreamId = some want.streamId := by
      simp [expectedStreamId, hexpect]
    unfold ScreenTurn.replayDeltas
    split
    · exact h.mono fun hrep => ⟨hrep, rfl⟩
    rename_i hserves
    obtain ⟨hvalid, hlatched⟩ : turn.screen.hasValidCache = true ∧
        turn.screen.resyncLatched = false := by simpa using hserves
    have hfree : turn.screen.resyncLatched = true → turn.screen.assembling = false := by
      intro hlatched'
      rw [hlatched] at hlatched'
      cases hlatched'
    split
    · rename_i hbase
      by_cases hstr : delta.streamId = want.streamId
      · have hnext : nextHeld turn.screen (delta :: rest) = some delta := by
          simp [nextHeld, hstreamId, hstr, hbase]
        have hunfold : turn.screen.Spent → turn.folds sizes delta = false :=
          fun hspent' => hspent hspent' delta hnext
        have hadmits := h.acceptDelta watchers delta hfree hunfold
        refine (ih hadmits ?_).mono fun hkept => ⟨hkept.1.1, hkept.2.trans hkept.1.2⟩
        intro hspent' delta' _
        obtain ⟨hnone, -⟩ | ⟨reason, -, he⟩ | ⟨_, _, hcache, hfolded, hkept, he⟩ :=
          acceptDelta_cases sizes sid watchers turn hexpect hstr
        · -- The version in place is valid.
          cases hcur : turn.screen.charge.current with
          | none => simp [hasValidCache, hcur] at hvalid
          | some =>
            rw [hcur] at hnone
            simp [hasValidCache, hcur] at hvalid
            simp [hvalid] at hnone
        · rw [he]
          exact folds_of_broken (hasValidCache_refuseDelta turn reason) delta'
        rw [he] at hspent'
        have hfolds : turn.folds sizes delta = true := by
          unfold folds
          rw [hexpect, hcache]
          simp [hstr, hfolded, hkept]
        rw [hunfold hspent'] at hfolds
        cases hfolds
      · have he : turn.acceptDelta sizes sid watchers delta = turn := by
          simp only [ScreenTurn.acceptDelta, hexpect, ne_eq, hstr, not_false_eq_true, if_true]
        rw [he]
        refine ih h ?_
        intro hspent' delta' hnext
        have hother : turn.screen.expectedStreamId ≠ some delta.streamId := by
          rw [hstreamId]
          exact fun hsame => hstr (Option.some.inj hsame).symm
        refine hspent hspent' delta' ?_
        rwa [nextHeld_skip fun hboth => hother hboth.1]
    · rename_i hbase
      refine ih h ?_
      intro hspent' delta' hnext
      refine hspent hspent' delta' ?_
      rwa [nextHeld_skip fun hboth => hbase hboth.2]

theorem Ladder.replayHeldDeltas
    (hspent : turn.screen.Spent → ∀ delta ∈ nextHeld turn.screen turn.screen.hold.frames,
      turn.folds sizes delta = false) : Ladder sid old
      (reported ∧ (turn.replayHeldDeltas sizes sid watchers).residency.nextGeneration =
        turn.residency.nextGeneration) (turn.replayHeldDeltas sizes sid watchers) := by
  have hdrain : Ladder sid old reported
      { turn with screen := { turn.screen with hold := turn.screen.hold.drain.1 } } :=
    h.same ⟨rfl, rfl, rfl, id, rfl, rfl, fun _ hmem => hmem⟩ rfl
  exact hdrain.replayDeltas watchers turn.screen.hold.frames hspent

/-! ## Frames and parts -/

theorem Ladder.admitFrame (frame : PbCellGridFrame) (hexpect : turn.screen.expected = some want)
    (hspent : turn.screen.assembling = false → frame.full = false → turn.screen.Spent →
      turn.folds sizes frame = false)
    (hfits : frame.full = true → frame.streamId = want.streamId → ∀ installed spans,
      validatedFull sizes frame want false = .ok (installed, spans) →
        turn.residency.PinFits turn.screen.charge installed.rows.toNat spans) :
    let turn' := ScreenHub.admitFrame sizes sid frame want watchers turn
    Ladder sid old
        (reported ∧ turn'.residency.nextGeneration = turn.residency.nextGeneration) turn' ∧
      (frame.full = true → frame.streamId = want.streamId → ∀ installed spans,
        validatedFull sizes frame want false = .ok (installed, spans) →
          turn'.screen.charge.current.map ResidentCache.frame = some installed ∨
            ∃ eff ∈ turn'.effects, eff.reports sid = true) := by
  obtain ⟨-, hdelta, hold, he⟩ | ⟨-, hother, he⟩ | ⟨-, hfull, hstr, he⟩ |
    ⟨hidle, hfull, he⟩ | ⟨hidle, hdelta, he⟩ :=
      admitFrame_cases sizes sid watchers turn frame hexpect
  · rw [he]
    have hheld : Ladder sid old reported { turn with screen := { turn.screen with hold } } :=
      h.same ⟨rfl, rfl, rfl, id, rfl, rfl, fun _ hmem => hmem⟩ rfl
    refine ⟨hheld.mono fun hrep => ⟨hrep, rfl⟩, ?_⟩
    intro hfull
    rw [hdelta] at hfull
    cases hfull
  · have hres : (turn.clearHold.resetChunks.retry sid
        "ordinary frame interrupted chunk assembly").residency = turn.residency :=
      (books_retry turn.clearHold.resetChunks sid _).residency
    rw [he]
    refine ⟨(h.toBooks.resetChunks_retry _).mono fun hrep => ⟨hrep, ?_⟩, ?_⟩
    · rw [hres]
    · exact fun hfull hsame => absurd hsame (hother hfull)
  · have hsame : SameLadder turn turn.clearHold :=
      ⟨rfl, rfl, rfl, id, rfl, rfl, fun _ hmem => hmem⟩
    have hacc := (h.toBooks.same hsame).resetChunks.acceptFull watchers rfl
      (fun htimer => by cases htimer) hexpect hstr (hfits hfull hstr)
    rw [he]
    exact ⟨hacc.1, fun _ _ => hacc.2⟩
  · by_cases hstr : frame.streamId = want.streamId
    · have hacc := h.toBooks.acceptFull watchers hidle h.transfer hexpect hstr (hfits hfull hstr)
      rw [he]
      exact ⟨hacc.1, fun _ _ => hacc.2⟩
    have hskipped : turn.acceptFull sizes sid watchers frame false = turn := by
      simp only [ScreenTurn.acceptFull, hexpect, ne_eq, hstr, not_false_eq_true, if_true]
    rw [he, hskipped]
    exact ⟨h.mono fun hrep => ⟨hrep, rfl⟩, fun _ hsame => absurd hsame hstr⟩
  · rw [he]
    refine ⟨h.acceptDelta watchers frame (fun _ => hidle) (hspent hidle hdelta), ?_⟩
    intro hfull
    rw [hdelta] at hfull
    cases hfull

theorem Ladder.admitChunk (chunk : PbCellGridChunk) (receivedAtMs : UInt64) (nowMs : Nat)
    {part : PbCellGridFrame}
    {stamped : ChunkState × PbCellGridChunk} {pushed : ChunkResult CellGridChunkAssembly}
    (hexpect : turn.screen.expected = some want)
    (hpart : chunk.part = some part) (hstr : part.streamId = want.streamId)
    (hstamp : stampTerminalSnapshotReceipt turn.screen.chunks chunk receivedAtMs = stamped)
    (hpushed : (stamped.1.assembler.push sizes stamped.2 nowMs).2 = pushed)
    (hspent : pushed.isOk = true → turn.screen.assembling = true → ¬turn.screen.Spent)
    (hfits : ∀ snapshotId frame, pushed = .ok (.complete snapshotId frame) →
      frame.streamId = want.streamId →
        ∀ installed spans, validatedFull sizes frame want true = .ok (installed, spans) →
          turn.residency.PinFits turn.screen.charge installed.rows.toNat spans) :
    let turn' := (ScreenHub.admitChunk sizes sid chunk receivedAtMs nowMs watchers turn).1
    Ladder sid old (reported ∧ pushed.isOk = false) turn' ∧
      ∀ snapshotId frame, pushed = .ok (.complete snapshotId frame) →
        ∀ installed spans, validatedFull sizes frame want true = .ok (installed, spans) →
          turn'.screen.charge.current.map ResidentCache.frame = some installed ∨
            ∃ effect ∈ turn'.effects, effect.reports sid = true := by
  obtain ⟨assembler, error, hpush, he⟩ | ⟨assembler, snapshotId, next, hpush, he⟩ |
    ⟨assembler, snapshotId, frame, hpush, he⟩ :=
      admitChunk_cases sizes sid watchers turn chunk receivedAtMs nowMs hstamp
  · rw [hpush] at hpushed
    subst hpushed
    rw [he]
    refine ⟨(h.toBooks.resetChunks_retry _).mono fun hrep => ⟨hrep, rfl⟩, ?_⟩
    intro snapshotId frame hok
    cases hok
  · rw [hpush] at hpushed
    subst hpushed
    obtain ⟨hbooks, htimer, hasm⟩ :=
      h.toBooks.tookPart { stamped.1 with assembler } (hspent rfl)
    have hfly : (turn.tookPart sid { stamped.1 with assembler }).screen.assembling = true := by
      rw [hasm]
      have hsome := CellGridChunkAssembler.push_pending hpush
      simpa [ChunkState.activeSnapshotId] using hsome
    rw [he]
    refine ⟨Ladder.mono ⟨hbooks, fun _ => hfly, fun _ => .inr (.inl htimer),
      fun _ => .inr (.inr (.inl htimer))⟩ False.elim, ?_⟩
    intro snapshotId frame hok
    cases hok
  rw [hpush] at hpushed
  subst hpushed
  obtain ⟨hbooks, -, -⟩ := h.toBooks.tookPart { stamped.1 with assembler } (hspent rfl)
  have htook := books_tookPart sid turn { stamped.1 with assembler }
  have hparted : ∃ part', stamped.2.part = some part' ∧ part'.streamId = part.streamId := by
    rw [← hstamp]
    unfold stampTerminalSnapshotReceipt
    rw [hpart]
    exact ⟨_, rfl, rfl⟩
  obtain ⟨_, hpart', hsame⟩ := hparted
  have hcomplete : frame.streamId = want.streamId := by
    rw [CellGridChunkAssembler.push_complete_streamId hpush hpart', hsame, hstr]
  have hpool : ∀ installed spans, validatedFull sizes frame want true = .ok (installed, spans) →
        (turn.tookPart sid { stamped.1 with assembler }).resetChunks.residency.PinFits
          (turn.tookPart sid { stamped.1 with assembler }).resetChunks.screen.charge
            installed.rows.toNat spans := by
    intro installed spans hvalid
    have hpre := hfits snapshotId frame rfl hcomplete installed spans hvalid
    rw [← htook.residency, ← htook.charge] at hpre
    exact hpre
  have hacc := hbooks.resetChunks.acceptFull watchers rfl (fun htimer => by cases htimer)
    (htook.expected.trans hexpect) hcomplete hpool
  rw [he]
  refine ⟨hacc.1.mono fun hnone => hnone.1.elim, ?_⟩
  intro snapshotId' frame' hok
  cases hok
  exact hacc.2

end ScreenTurn
end Roost.Coord
