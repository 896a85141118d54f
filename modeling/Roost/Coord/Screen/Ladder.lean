-- SUMMARY: A broken replica has a deadline armed or was reported, over one turn.
import Roost.Coord.Screen.HubRuns

/-!
# The ladder's invariant

An armed timer stands for a deadline that was handed out under the current repair, and a
replica that is broken is under one of the ladder's timers or was reported. The ladder is
spent once both requests went unanswered; from there only a fresh stream, a baseline, or the
first part of one gets it going again.
-/

namespace Roost.Coord

open Roost.Cell TerminalScreenResidency

def Deadline.token : Deadline → Nat
  | .baseline _ token .. => token
  | .chunk _ token _ => token
  | .request _ token .. => token

namespace SessionScreen

def Awaits (screen : SessionScreen) : Deadline → Prop
  | .baseline _ token .. => screen.repair.baselineTimer = some token
  | .chunk _ token _ => screen.chunks.timer = some token
  | .request _ token .. => screen.repair.requestTimer = some token

/-- The deadline was handed out under the current repair, for the stream now expected. -/
def Stands (screen : SessionScreen) : Deadline → Prop
  | .baseline _ _ generation streamId =>
    generation = screen.repair.generation ∧ screen.expectedStreamId = some streamId
  | .chunk _ _ generation =>
    generation = screen.repair.generation ∧ screen.chunks.timerGeneration = some generation
  | .request _ _ generation streamId attempt _ =>
    generation = screen.repair.generation ∧ screen.expectedStreamId = some streamId ∧
      attempt = screen.repair.requestAttempt

/-- Both requests were sent and none is outstanding: the ladder asks for nothing more. -/
def Spent (screen : SessionScreen) : Prop :=
  screen.repair.requestTimer = none ∧ snapshotRequestAttempts ≤ screen.repair.requestAttempt
  deriving Decidable

end SessionScreen

open SessionScreen

/-- The owner of a session's replica is told that the ladder is at its end. -/
def ScreenEffect.reports (sessionId : SessionId) : ScreenEffect → Bool
  | .requestFreshStream owner .. => owner == sessionId
  | .unavailable owner _ => owner == sessionId
  | _ => false

namespace ScreenTurn

variable {sid : SessionId} {old old' : List Deadline} {reported reported' : Prop}
  {turn turn' : ScreenTurn}

def Told (sessionId : SessionId) (reported : Prop) (turn : ScreenTurn) : Prop :=
  reported ∨ ∃ effect ∈ turn.effects, effect.reports sessionId = true

/-- Every timer of the screen stands for a deadline that was handed out, before the turn
(`old`) or by it. -/
structure Backed (sessionId : SessionId) (old : List Deadline) (turn : ScreenTurn) : Prop where
  expected : turn.screen.expected.isSome = true
  drawn : ∀ deadline ∈ old ++ turn.scheduled, deadline.token < turn.tokens
  stands : ∀ deadline ∈ old ++ turn.scheduled, deadline.sessionId = sessionId →
    turn.screen.Awaits deadline → turn.screen.Stands deadline
  baseline : ∀ token, turn.screen.repair.baselineTimer = some token →
    ∃ generation streamId, .baseline sessionId token generation streamId ∈ old ++ turn.scheduled
  request : ∀ token, turn.screen.repair.requestTimer = some token →
    (∃ generation streamId attempt reason,
      .request sessionId token generation streamId attempt reason ∈ old ++ turn.scheduled) ∧
      0 < turn.screen.repair.requestAttempt
  chunk : ∀ token, turn.screen.chunks.timer = some token →
    ∃ generation, .chunk sessionId token generation ∈ old ++ turn.scheduled
  owned : ∀ deadline ∈ turn.scheduled, deadline.sessionId = sessionId

/-- The books of the ladder: a first-byte deadline stands before any repair, and a spent
ladder was reported. -/
structure Books (sessionId : SessionId) (old : List Deadline) (reported : Prop)
    (turn : ScreenTurn) : Prop extends Backed sessionId old turn where
  first : turn.screen.repair.baselineTimer.isSome = true →
    turn.screen.resyncLatched = false ∧ turn.screen.repair.requestTimer = none ∧
      turn.screen.repair.requestAttempt = 0 ∧ turn.screen.assembling = false
  spent : turn.screen.repair.requestTimer = none → turn.screen.repair.requestAttempt = 0 ∨
      (snapshotRequestAttempts ≤ turn.screen.repair.requestAttempt ∧ turn.Told sessionId reported)

/-- A latched repair, and a broken replica, are under a timer or were reported. A latched
repair may also wait for the rest of a transfer while the old replica still serves. -/
structure Ladder (sessionId : SessionId) (old : List Deadline) (reported : Prop)
    (turn : ScreenTurn) : Prop extends Books sessionId old reported turn where
  transfer : turn.screen.chunks.timer.isSome = true → turn.screen.assembling = true
  latched : turn.screen.resyncLatched = true →
    turn.screen.repair.requestTimer.isSome = true ∨ turn.screen.chunks.timer.isSome = true ∨
      turn.Told sessionId reported ∨
      (turn.screen.assembling = true ∧ turn.screen.hasValidCache = true)
  broken : turn.screen.hasValidCache = false → turn.screen.repair.baselineTimer.isSome = true ∨
      turn.screen.repair.requestTimer.isSome = true ∨ turn.screen.chunks.timer.isSome = true ∨
      turn.Told sessionId reported

/-! ## Turns that leave the ladder alone -/

/-- The ladder is as it was, but that a latch may have been taken off. -/
structure SameLadder (turn turn' : ScreenTurn) : Prop where
  expected : turn'.screen.expected = turn.screen.expected
  repair : turn'.screen.repair = turn.screen.repair
  chunks : turn'.screen.chunks = turn.screen.chunks
  latched : turn'.screen.resyncLatched = true → turn.screen.resyncLatched = true
  tokens : turn'.tokens = turn.tokens
  scheduled : turn'.scheduled = turn.scheduled
  effects : ∀ effect ∈ turn.effects, effect ∈ turn'.effects

theorem SameLadder.assembling (h : SameLadder turn turn') :
    turn'.screen.assembling = turn.screen.assembling := by
  unfold SessionScreen.assembling
  rw [h.chunks]

theorem SameLadder.told (h : SameLadder turn turn') (htold : turn.Told sid reported) :
    turn'.Told sid reported := by
  obtain hpre | ⟨eff, hmem, hreports⟩ := htold
  · exact .inl hpre
  · exact .inr ⟨eff, h.effects eff hmem, hreports⟩

theorem Told.mono (htold : turn.Told sid reported) (h : reported → reported') :
    turn.Told sid reported' := by
  obtain hpre | hnow := htold
  · exact .inl (h hpre)
  · exact .inr hnow

theorem Backed.same (h : Backed sid old turn) (hsame : SameLadder turn turn') :
    Backed sid old turn' := by
  constructor
  · rw [hsame.expected]
    exact h.expected
  · rw [hsame.scheduled, hsame.tokens]
    exact h.drawn
  · intro deadline hmem howner hawaits
    have hstands : turn.screen.Stands deadline := by
      apply h.stands deadline (hsame.scheduled ▸ hmem) howner
      cases deadline with
      | chunk => simpa only [SessionScreen.Awaits, hsame.chunks] using hawaits
      | _ => simpa only [SessionScreen.Awaits, hsame.repair] using hawaits
    cases deadline with
    | chunk => simpa only [SessionScreen.Stands, hsame.repair, hsame.chunks] using hstands
    | _ =>
      simpa only [SessionScreen.Stands, expectedStreamId, hsame.repair,
        hsame.expected] using hstands
  · rw [hsame.repair, hsame.scheduled]
    exact h.baseline
  · rw [hsame.repair, hsame.scheduled]
    exact h.request
  · rw [hsame.chunks, hsame.scheduled]
    exact h.chunk
  · rw [hsame.scheduled]
    exact h.owned

theorem Books.same (h : Books sid old reported turn) (hsame : SameLadder turn turn') :
    Books sid old reported turn' := by
  refine ⟨h.toBacked.same hsame, ?_, ?_⟩
  · rw [hsame.repair, hsame.assembling]
    intro hfirst
    obtain ⟨hlatched, hrest⟩ := h.first hfirst
    refine ⟨?_, hrest⟩
    by_contra hlatched'
    rw [hsame.latched (Bool.eq_true_of_not_eq_false hlatched')] at hlatched
    cases hlatched
  · rw [hsame.repair]
    intro hnone
    obtain hzero | ⟨hall, htold⟩ := h.spent hnone
    · exact .inl hzero
    · exact .inr ⟨hall, hsame.told htold⟩

theorem Ladder.same (h : Ladder sid old reported turn) (hsame : SameLadder turn turn')
    (hvalid : turn'.screen.hasValidCache = turn.screen.hasValidCache) :
    Ladder sid old reported turn' := by
  refine ⟨h.toBooks.same hsame, ?_, ?_, ?_⟩
  · rw [hsame.chunks, hsame.assembling]
    exact h.transfer
  · rw [hsame.repair, hsame.chunks, hsame.assembling, hvalid]
    intro hlatched
    obtain hreq | hchunk | htold | hserves := h.latched (hsame.latched hlatched)
    · exact .inl hreq
    · exact .inr (.inl hchunk)
    · exact .inr (.inr (.inl (hsame.told htold)))
    · exact .inr (.inr (.inr hserves))
  rw [hsame.repair, hsame.chunks, hvalid]
  intro hbroken
  obtain hbas | hreq | hchunk | htold := h.broken hbroken
  · exact .inl hbas
  · exact .inr (.inl hreq)
  · exact .inr (.inr (.inl hchunk))
  · exact .inr (.inr (.inr (hsame.told htold)))

theorem Books.mono (h : Books sid old reported turn)
    (hrep : reported → reported') : Books sid old reported' turn := by
  refine ⟨h.toBacked, h.first, ?_⟩
  intro hnone
  obtain hzero | ⟨hall, htold⟩ := h.spent hnone
  · exact .inl hzero
  · exact .inr ⟨hall, htold.mono hrep⟩

theorem Ladder.mono (h : Ladder sid old reported turn)
    (hrep : reported → reported') : Ladder sid old reported' turn := by
  refine ⟨h.toBooks.mono hrep, h.transfer, ?_, ?_⟩
  · intro hlatched
    obtain hreq | hchunk | htold | hserves := h.latched hlatched
    · exact .inl hreq
    · exact .inr (.inl hchunk)
    · exact .inr (.inr (.inl (htold.mono hrep)))
    · exact .inr (.inr (.inr hserves))
  intro hbroken
  obtain hbas | hreq | hchunk | htold := h.broken hbroken
  · exact .inl hbas
  · exact .inr (.inl hreq)
  · exact .inr (.inr (.inl hchunk))
  · exact .inr (.inr (.inr (htold.mono hrep)))

theorem Ladder.of_told (h : Books sid old reported turn)
    (htransfer : turn.screen.chunks.timer.isSome = true → turn.screen.assembling = true)
    (htold : turn.Told sid reported) : Ladder sid old reported turn :=
  ⟨h, htransfer, fun _ => .inr (.inr (.inl htold)), fun _ => .inr (.inr (.inr htold))⟩

theorem Backed.reschedule (h : Backed sid old turn) {tokens : Nat}
    (hdrawn : ∀ due ∈ old' ++ turn.scheduled, due.token < tokens)
    (hkept : ∀ due ∈ old, due.sessionId = sid → turn.screen.Awaits due → due ∈ old')
    (hnew : ∀ due ∈ old', due.sessionId = sid → due ∈ old) :
    Backed sid old' { turn with tokens } := by
  have hlift : ∀ due, due ∈ old ++ turn.scheduled → due.sessionId = sid →
      turn.screen.Awaits due → due ∈ old' ++ turn.scheduled := by
    intro due hmem howner hawaits
    obtain hold | hturn := List.mem_append.mp hmem
    · exact List.mem_append_left _ (hkept due hold howner hawaits)
    · exact List.mem_append_right _ hturn
  constructor
  · exact h.expected
  · exact hdrawn
  · intro due hmem howner hawaits
    refine h.stands due ?_ howner hawaits
    obtain hold | hturn := List.mem_append.mp hmem
    · exact List.mem_append_left _ (hnew due hold howner)
    · exact List.mem_append_right _ hturn
  · intro token htimer
    obtain ⟨gen, streamId, hmem⟩ := h.baseline token htimer
    exact ⟨gen, streamId, hlift _ hmem rfl htimer⟩
  · intro token htimer
    obtain ⟨⟨gen, streamId, attempt, reason, hmem⟩, hpos⟩ := h.request token htimer
    exact ⟨⟨gen, streamId, attempt, reason, hlift _ hmem rfl htimer⟩, hpos⟩
  · intro token htimer
    obtain ⟨gen, hmem⟩ := h.chunk token htimer
    exact ⟨gen, hlift _ hmem rfl htimer⟩
  · exact h.owned

theorem Ladder.reschedule (h : Ladder sid old reported turn) {tokens : Nat}
    (hdrawn : ∀ due ∈ old' ++ turn.scheduled, due.token < tokens)
    (hkept : ∀ due ∈ old, due.sessionId = sid → turn.screen.Awaits due → due ∈ old')
    (hnew : ∀ due ∈ old', due.sessionId = sid → due ∈ old) :
    Ladder sid old' reported { turn with tokens } :=
  ⟨⟨h.toBacked.reschedule hdrawn hkept hnew, h.first, h.spent⟩, h.transfer, h.latched, h.broken⟩

/-! ## Resets and requests -/

theorem Backed.resetChunks (h : Backed sid old turn) : Backed sid old turn.resetChunks := by
  refine ⟨h.expected, h.drawn, ?_, h.baseline, h.request, ?_, h.owned⟩
  · intro due hmem howner hawaits
    cases due with
    | chunk => cases hawaits
    | _ => exact h.stands _ hmem howner hawaits
  · intro token htimer
    cases htimer

theorem Books.resetChunks (h : Books sid old reported turn) :
    Books sid old reported turn.resetChunks := by
  refine ⟨h.toBacked.resetChunks, ?_, h.spent⟩
  intro hfirst
  obtain ⟨hlatched, hreq, hatt, -⟩ := h.first hfirst
  exact ⟨hlatched, hreq, hatt, rfl⟩

theorem Backed.completeRepair (h : Backed sid old turn) :
    Books sid old reported turn.completeRepair := by
  refine ⟨⟨h.expected, h.drawn, ?_, ?_, ?_, ?_, h.owned⟩, ?_, fun _ => .inl rfl⟩
  · intro due hmem howner hawaits
    cases due <;> cases hawaits
  · intro token htimer
    cases htimer
  · intro token htimer
    cases htimer
  · intro token htimer
    cases htimer
  · intro hfirst
    cases hfirst

theorem drawn_schedule (h : Backed sid old turn) {due : Deadline} (htoken : due.token = turn.tokens)
    : ∀ other ∈ old ++ (turn.scheduled ++ [due]), other.token < turn.tokens + 1 := by
  intro other hmem
  rw [← List.append_assoc] at hmem
  obtain hold | hnew := List.mem_append.mp hmem
  · exact Nat.lt_succ_of_lt (h.drawn other hold)
  · rw [List.mem_singleton.mp hnew, htoken]
    exact Nat.lt_succ_self _

theorem owned_schedule (h : Backed sid old turn) {deadline : Deadline}
    (howner : deadline.sessionId = sid) :
    ∀ other ∈ turn.scheduled ++ [deadline], other.sessionId = sid := by
  intro other hmem
  obtain hpre | hnew := List.mem_append.mp hmem
  · exact h.owned other hpre
  · rw [List.mem_singleton.mp hnew, howner]

variable {scheduled : List Deadline}

theorem mem_schedule {due : Deadline} :
    due ∈ old ++ (scheduled ++ [due]) :=
  List.mem_append_right _ (List.mem_append_right _ (List.mem_singleton_self _))

theorem mem_schedule_of_mem {due other : Deadline}
    (h : other ∈ old ++ scheduled) : other ∈ old ++ (scheduled ++ [due]) := by
  rw [← List.append_assoc]
  exact List.mem_append_left _ h

theorem Backed.request_started (h : Backed sid old turn)
    (hnone : turn.screen.repair.requestTimer = none)
    (hatt : turn.screen.repair.requestAttempt < snapshotRequestAttempts)
    (htransfer : turn.screen.chunks.timer.isSome = true → turn.screen.assembling = true)
    (reason : String) :
    Ladder sid old reported (turn.startSnapshotRequest sid reason) := by
  obtain ⟨expected, hexpect⟩ := Option.isSome_iff_exists.mp h.expected
  have hunsent : ¬(turn.screen.repair.requestTimer.isSome = true ∨
      turn.screen.repair.requestAttempt ≥ snapshotRequestAttempts) := by
    simp only [hnone, Option.isSome_none, Bool.false_eq_true, false_or]
    exact Nat.not_le.mpr hatt
  have hstart : turn.startSnapshotRequest sid reason = { turn with
        screen :=
          { turn.screen with
            repair :=
              { turn.screen.repair with
                requestAttempt := turn.screen.repair.requestAttempt + 1
                requestTimer := some turn.tokens
                baselineTimer := none } }
        tokens := turn.tokens + 1
        scheduled := turn.scheduled ++
          [.request sid turn.tokens turn.screen.repair.generation expected.streamId
            (turn.screen.repair.requestAttempt + 1) reason]
        effects := turn.effects ++ [.requestSnapshot sid expected.streamId] } := by
    unfold startSnapshotRequest
    rw [hexpect]
    dsimp only
    rw [if_neg hunsent]
    rfl
  rw [hstart]
  refine ⟨⟨⟨h.expected, drawn_schedule h rfl, ?_, ?_, ?_, ?_, owned_schedule h rfl⟩, ?_, ?_⟩,
    htransfer, fun _ => .inl rfl, fun _ => .inr (.inl rfl)⟩
  · intro deadline hmem howner hawaits
    rw [← List.append_assoc] at hmem
    obtain hpre | hnew := List.mem_append.mp hmem
    · have hdrawn := h.drawn deadline hpre
      cases deadline with
      | baseline => cases hawaits
      | chunk => exact h.stands _ hpre howner hawaits
      | request =>
        -- The request now waited for is the new one.
        cases hawaits
        exact absurd hdrawn (Nat.lt_irrefl _)
    · rw [List.mem_singleton.mp hnew]
      exact ⟨rfl, by simp [expectedStreamId, hexpect], rfl⟩
  · intro token htimer
    cases htimer
  · intro token htimer
    cases htimer
    exact ⟨⟨_, _, _, _, mem_schedule⟩, Nat.succ_pos _⟩
  · intro token htimer
    obtain ⟨gen, hmem⟩ := h.chunk token htimer
    exact ⟨gen, mem_schedule_of_mem hmem⟩
  · intro hfirst
    cases hfirst
  · intro hspent
    cases hspent

section

variable (h : Books sid old reported turn)
include h

theorem Books.asks
    (htransfer : turn.screen.chunks.timer.isSome = true → turn.screen.assembling = true)
    (reason : String) : Ladder sid old reported (turn.requestResync sid reason true) := by
  obtain ⟨want, hexpect⟩ := Option.isSome_iff_exists.mp h.expected
  have hlatched : Backed sid old
      { turn with screen := { turn.screen with resyncLatched := true } } :=
    ⟨h.expected, h.drawn, h.stands, h.baseline, h.request, h.chunk, h.owned⟩
  have hasks : turn.requestResync sid reason true = ScreenTurn.startSnapshotRequest
        { turn with screen := { turn.screen with resyncLatched := true } } sid reason := by
    unfold requestResync
    rw [hexpect]
    rfl
  rw [hasks]
  by_cases hsent : turn.screen.repair.requestTimer.isSome = true ∨
      turn.screen.repair.requestAttempt ≥ snapshotRequestAttempts
  · have hstays : ScreenTurn.startSnapshotRequest
        { turn with screen := { turn.screen with resyncLatched := true } } sid reason =
          { turn with screen := { turn.screen with resyncLatched := true } } := by
      dsimp only
      rw [hexpect]
      exact if_pos hsent
    rw [hstays]
    -- A first-byte deadline would leave the ladder fresh, and a request would have gone out.
    have hnof : turn.screen.repair.baselineTimer.isSome = true → False := by
      intro hfirst
      obtain ⟨-, hnone, hzero, -⟩ := h.first hfirst
      rw [hnone, hzero] at hsent
      exact absurd hsent (by decide)
    have hunder : turn.screen.repair.requestTimer.isSome = true ∨ turn.Told sid reported := by
      cases htimer : turn.screen.repair.requestTimer with
      | some => exact .inl rfl
      | none =>
        rw [htimer] at hsent
        obtain hnone | hall := hsent
        · cases hnone
        obtain hzero | ⟨-, htold⟩ := h.spent htimer
        · rw [hzero] at hall
          exact absurd hall (by decide)
        · exact .inr htold
    refine ⟨⟨hlatched, fun hfirst => (hnof hfirst).elim, h.spent⟩, htransfer, ?_, ?_⟩
    · intro _
      obtain hreq | htold := hunder
      · exact .inl hreq
      · exact .inr (.inr (.inl htold))
    intro _
    obtain hreq | htold := hunder
    · exact .inr (.inl hreq)
    · exact .inr (.inr (.inr htold))
  · obtain ⟨hnone, hatt⟩ := not_or.mp hsent
    exact hlatched.request_started (by simpa using hnone) (Nat.not_le.mp hatt) htransfer reason

theorem Books.retry (hidle : turn.screen.assembling = false)
    (htransfer : turn.screen.chunks.timer.isSome = true → turn.screen.assembling = true)
    (reason : String) : Ladder sid old reported (turn.retry sid reason) := by
  have hasks : turn.retry sid reason = turn.requestResync sid reason true := by
    unfold ScreenTurn.retry
    rw [hidle]
    rfl
  rw [hasks]
  exact h.asks htransfer reason

theorem Books.resetChunks_retry (reason : String) :
    Ladder sid old reported (turn.clearHold.resetChunks.retry sid reason) := by
  have hsame : SameLadder turn turn.clearHold :=
    ⟨rfl, rfl, rfl, id, rfl, rfl, fun _ h => h⟩
  exact (h.same hsame).resetChunks.retry rfl (fun htimer => by cases htimer) reason

theorem Books.latch
    (htransfer : turn.screen.chunks.timer.isSome = true → turn.screen.assembling = true)
    (hunder : turn.screen.resyncLatched = true →
      turn.screen.repair.requestTimer.isSome = true ∨ turn.screen.chunks.timer.isSome = true ∨
        turn.Told sid reported) (reason : String) :
    Ladder sid old reported (turn.latch sid reason) := by
  obtain ⟨_, hexpect⟩ := Option.isSome_iff_exists.mp h.expected
  cases hlatched : turn.screen.resyncLatched with
  | true =>
    have hstays : turn.latch sid reason = turn := by
      unfold ScreenTurn.latch requestResync
      rw [hexpect, hlatched]
      rfl
    rw [hstays]
    refine ⟨h, htransfer, ?_, ?_⟩
    · intro _
      obtain hreq | hchunk | htold := hunder hlatched
      · exact .inl hreq
      · exact .inr (.inl hchunk)
      · exact .inr (.inr (.inl htold))
    · intro _
      exact .inr (hunder hlatched)
  | false =>
    have hasks : turn.latch sid reason = turn.requestResync sid reason true := by
      unfold ScreenTurn.latch requestResync
      rw [hexpect, hlatched]
      rfl
    rw [hasks]
    exact h.asks htransfer reason

end

/-! ## Deadlines that are armed -/

theorem Backed.armBaselineTimer (h : Backed sid old turn)
    (hreq : turn.screen.repair.requestTimer = none) (hatt : turn.screen.repair.requestAttempt = 0)
    (hlatched : turn.screen.resyncLatched = false) (hidle : turn.screen.assembling = false)
    (hchunk : turn.screen.chunks.timer = none) :
    Ladder sid old reported (turn.armBaselineTimer sid) := by
  obtain ⟨expected, hexpect⟩ := Option.isSome_iff_exists.mp h.expected
  have harmed : turn.armBaselineTimer sid = { turn with
        screen :=
          { turn.screen with
            repair := { turn.screen.repair with baselineTimer := some turn.tokens } }
        tokens := turn.tokens + 1
        scheduled := turn.scheduled ++
          [.baseline sid turn.tokens turn.screen.repair.generation expected.streamId] } := by
    simp only [ScreenTurn.armBaselineTimer, cancelBaselineTimer, withRepair, schedule, hexpect]
  rw [harmed]
  refine ⟨⟨⟨h.expected, drawn_schedule h rfl, ?_, ?_, ?_, ?_, owned_schedule h rfl⟩, ?_, ?_⟩, ?_,
    ?_, fun _ => .inl rfl⟩
  · intro deadline hmem howner hawaits
    rw [← List.append_assoc] at hmem
    obtain hpre | hnew := List.mem_append.mp hmem
    · have hdrawn := h.drawn deadline hpre
      cases deadline with
      | baseline =>
        cases hawaits
        exact absurd hdrawn (Nat.lt_irrefl _)
      | chunk | request => exact h.stands _ hpre howner hawaits
    · rw [List.mem_singleton.mp hnew]
      exact ⟨rfl, by simp [expectedStreamId, hexpect]⟩
  · intro token htimer
    cases htimer
    exact ⟨_, _, mem_schedule⟩
  · intro token htimer
    rw [show turn.screen.repair.requestTimer = some token from htimer] at hreq
    cases hreq
  · intro token htimer
    rw [show turn.screen.chunks.timer = some token from htimer] at hchunk
    cases hchunk
  · exact fun _ => ⟨hlatched, hreq, hatt, hidle⟩
  · exact fun _ => .inl hatt
  · intro htimer
    have hsome : turn.screen.chunks.timer.isSome = true := htimer
    rw [hchunk] at hsome
    cases hsome
  · intro hlatched'
    have htrue : turn.screen.resyncLatched = true := hlatched'
    rw [hlatched] at htrue
    cases htrue

theorem Books.tookPart (h : Books sid old reported turn) (chunks : ChunkState)
    (hspent : turn.screen.assembling = true → ¬turn.screen.Spent) :
    Books sid old False (turn.tookPart sid chunks) ∧
      (turn.tookPart sid chunks).screen.chunks.timer.isSome = true ∧
      (turn.tookPart sid chunks).screen.assembling = chunks.activeSnapshotId.isSome := by
  -- The first part answers the request; a later one leaves its timer.
  have hrepair : (turn.tookPart sid chunks).screen.repair = { turn.screen.repair with
        baselineTimer := none
        requestTimer :=
          if turn.screen.assembling then turn.screen.repair.requestTimer else none
        requestAttempt :=
          if turn.screen.assembling then turn.screen.repair.requestAttempt else 0 } := by
    unfold ScreenTurn.tookPart
    cases turn.screen.assembling <;> rfl
  have hchunks : (turn.tookPart sid chunks).screen.chunks = { chunks with
        timer := some turn.tokens
        timerGeneration := some turn.screen.repair.generation } := by
    unfold ScreenTurn.tookPart
    cases turn.screen.assembling <;> rfl
  have htokens : (turn.tookPart sid chunks).tokens = turn.tokens + 1 := by
    unfold ScreenTurn.tookPart
    cases turn.screen.assembling <;> rfl
  have hschedule : (turn.tookPart sid chunks).scheduled =
      turn.scheduled ++ [.chunk sid turn.tokens turn.screen.repair.generation] := by
    unfold ScreenTurn.tookPart
    cases turn.screen.assembling <;> rfl
  have hexpect : (turn.tookPart sid chunks).screen.expected = turn.screen.expected :=
    (books_tookPart sid turn chunks).expected
  refine ⟨⟨⟨?_, ?_, ?_, ?_, ?_, ?_, ?_⟩, ?_, ?_⟩, ?_, ?_⟩
  · rw [hexpect]
    exact h.expected
  · rw [hschedule, htokens]
    exact drawn_schedule h.toBacked rfl
  · rw [hschedule]
    intro deadline hmem howner hawaits
    rw [← List.append_assoc] at hmem
    obtain hpre | hnew := List.mem_append.mp hmem
    · have hdrawn := h.drawn deadline hpre
      cases deadline with
      | baseline =>
        cases hawaits
      | chunk =>
        simp only [SessionScreen.Awaits, hchunks, Option.some.injEq] at hawaits
        subst hawaits
        exact absurd hdrawn (Nat.lt_irrefl _)
      | request owner token gen streamId attempt reason =>
        simp only [SessionScreen.Awaits, hrepair] at hawaits
        split at hawaits
        · rename_i hasm
          have hstands := h.stands _ hpre howner hawaits
          simpa only [SessionScreen.Stands, expectedStreamId, hrepair, hexpect,
            if_pos hasm] using hstands
        · cases hawaits
    · rw [List.mem_singleton.mp hnew]
      simp only [SessionScreen.Stands, hrepair, hchunks]
      exact ⟨trivial, trivial⟩
  · rw [hrepair]
    intro token htimer
    cases htimer
  · rw [hrepair, hschedule]
    intro token htimer
    split at htimer
    · rename_i hasm
      obtain ⟨⟨gen, streamId, attempt, reason, hmem⟩, hpos⟩ := h.request token htimer
      rw [if_pos hasm]
      exact ⟨⟨gen, streamId, attempt, reason, mem_schedule_of_mem hmem⟩, hpos⟩
    · cases htimer
  · rw [hchunks, hschedule]
    intro token htimer
    cases htimer
    exact ⟨_, mem_schedule⟩
  · rw [hschedule]
    exact owned_schedule h.toBacked rfl
  · rw [hrepair]
    intro hfirst
    cases hfirst
  · rw [hrepair]
    intro hnone
    split at hnone
    · rename_i hasm
      rw [if_pos hasm]
      obtain hzero | ⟨hall, -⟩ := h.spent hnone
      · exact .inl hzero
      · exact absurd ⟨hnone, hall⟩ (hspent hasm)
    · rename_i hidle
      rw [if_neg hidle]
      exact .inl rfl
  · rw [hchunks]
    rfl
  · unfold assembling
    rw [hchunks]
    rfl

end ScreenTurn
end Roost.Coord
