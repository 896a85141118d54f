-- SUMMARY: What one step of the hub does to sessions, pool and pending work.
import Roost.Coord.Screen.Turns

/-!
# Steps of the hub

Apart from a stream change and a dropped session, every step either leaves the screens and
the pool alone or runs one turn on one session's screen.
-/

namespace Roost.Coord

open Roost.Cell TerminalScreenResidency ScreenTurn

namespace ScreenHub

/-- The screens and the pool are as before, and nothing new is owed. -/
structure Still (hub hub' : ScreenHub) : Prop where
  sessions : hub'.sessions = hub.sessions
  residency : hub'.residency = hub.residency
  pending : ∀ effect, .effect effect ∈ hub'.pending → HubTask.effect effect ∈ hub.pending

structure Moved (hub hub' : ScreenHub) (sessionId : SessionId) (screen : SessionScreen)
    (turn : ScreenTurn) : Prop where
  found : hub.sessions.lookup sessionId = some screen
  turned : Turned sessionId (hub.turn screen) turn
  sessions : hub'.sessions = hub.sessions.insert sessionId turn.screen
  residency : hub'.residency = turn.residency
  pending : ∀ effect, .effect effect ∈ hub'.pending →
    HubTask.effect effect ∈ hub.pending ∨ effect ∈ turn.effects

/-- What an ordinary step does. -/
def Steps (hub hub' : ScreenHub) : Prop :=
  Still hub hub' ∨ ∃ sessionId screen turn, Moved hub hub' sessionId screen turn

variable {sizes : Sizes} {hub hub' : ScreenHub} {sid : SessionId} {screen : SessionScreen}
  {turn : ScreenTurn}

theorem Steps.refl (hub : ScreenHub) : Steps hub hub := .inl ⟨rfl, rfl, fun _ h => h⟩

theorem mem_commit_pending {eff : ScreenEffect} (h : .effect eff ∈ (hub.commit sid turn).pending) :
    HubTask.effect eff ∈ hub.pending ∨ eff ∈ turn.effects := by
  obtain hmem | hmem := List.mem_append.mp h
  · exact .inl hmem
  · obtain ⟨_, hmem, he⟩ := List.mem_map.mp hmem
    cases he
    exact .inr hmem

theorem steps_commit (hfound : hub.sessions.lookup sid = some screen)
    (hturned : Turned sid (hub.turn screen) turn) : Steps hub (hub.commit sid turn) :=
  .inr ⟨sid, screen, turn, hfound, hturned, rfl, rfl, fun _ => mem_commit_pending⟩

variable {residency : TerminalScreenResidency} {charge : SessionCharge}

theorem steps_charge (hfound : hub.sessions.lookup sid = some screen)
    (hturned : Turned sid (hub.turn screen)
      { hub.turn screen with residency, screen := { screen with charge } }) :
    Steps hub { hub with residency, sessions := hub.sessions.insert sid { screen with charge } } :=
  .inr ⟨sid, screen, _, hfound, hturned, rfl, rfl, fun _ h => .inl h⟩

/-! ## Leases -/

theorem turned_leases
    (hbalance : turn.residency.Covers turn.screen.charge →
      Balanced turn.residency residency turn.screen.charge charge)
    (hnext : residency.nextGeneration = turn.residency.nextGeneration)
    (hcur : ∀ cache' ∈ charge.current, ∃ cache ∈ turn.screen.charge.current, cache.Keeps cache') :
    Turned sid turn { turn with residency, screen := { turn.screen with charge } } := by
  refine ⟨rfl, hbalance, hnext.ge, fun cache' hcache' => .inl (hcur cache' hcache'), ?_⟩
  intro hturn
  constructor
  · intro cache' hcache' hvalid
    obtain ⟨cache, hcache, hkeeps⟩ := hcur cache' hcache'
    obtain ⟨want, hexpect, hmatches⟩ := hturn.valid cache hcache (hkeeps.valid hvalid)
    exact ⟨want, hexpect, hkeeps.frame ▸ hmatches⟩
  · intro cache' hcache'
    obtain ⟨cache, hcache, hkeeps⟩ := hcur cache' hcache'
    rw [hkeeps.generation, hnext]
    exact hturn.fresh cache hcache
  · intro source hsource cache' hcache' hgen
    obtain ⟨cache, hcache, hkeeps⟩ := hcur cache' hcache'
    rw [hkeeps.frame]
    exact hturn.source source hsource cache hcache (hgen.trans hkeeps.generation)
  rw [hnext]
  intro eff heff
  have hlabel := hturn.effects eff heff
  cases eff with
  | delta watcher owner streamId frame =>
    obtain ⟨howner, holder, hcached⟩ := hlabel
    refine ⟨howner, holder, ?_⟩
    intro cache' hcache' hgen
    obtain ⟨cache, hcache, hkeeps⟩ := hcur cache' hcache'
    rw [hkeeps.frame]
    exact hcached cache hcache (hkeeps.generation.symm.trans hgen)
  | _ => exact hlabel

variable {pool : TerminalScreenResidency} {state : SessionCharge} {gen : Nat}

theorem acquireSourceLease_keeps : ∀ cache' ∈ (pool.acquireSourceLease state gen).2.1.current,
      ∃ cache ∈ state.current, cache.Keeps cache' := by
  intro cache' hcache'
  unfold TerminalScreenResidency.acquireSourceLease at hcache'
  split at hcache'
  · exact ⟨cache', hcache', .refl cache'⟩
  rename_i cur hcur
  split at hcache'
  · exact ⟨cache', hcache', .refl cache'⟩
  · cases hcache'
    exact ⟨cur, hcur, rfl, rfl, id⟩

theorem releasePinned_current : (pool.releasePinned state gen).2.current = state.current := by
  unfold releasePinned
  split
  · rfl
  split
  · rfl
  · dsimp only
    split <;> rfl

theorem releaseSourceLease_keeps : ∀ cache' ∈ (pool.releaseSourceLease state gen).2.current,
      ∃ cache ∈ state.current, cache.Keeps cache' := by
  intro cache' hcache'
  unfold TerminalScreenResidency.releaseSourceLease at hcache'
  split at hcache'
  · rename_i cur hcur
    split at hcache'
    · cases hcache'
      exact ⟨cur, hcur, rfl, rfl, id⟩
    · rw [releasePinned_current] at hcache'
      exact ⟨cache', hcache', .refl cache'⟩
  · rw [releasePinned_current] at hcache'
    exact ⟨cache', hcache', .refl cache'⟩

theorem releaseSourceLease_nextGeneration :
    (pool.releaseSourceLease state gen).1.nextGeneration = pool.nextGeneration := by
  have hpinned : (pool.releasePinned state gen).1.nextGeneration = pool.nextGeneration := by
    unfold releasePinned
    split
    · rfl
    split
    · rfl
    · dsimp only
      split <;> rfl
  unfold TerminalScreenResidency.releaseSourceLease
  split
  · split
    · rfl
    · exact hpinned
  · exact hpinned

variable (hub)

variable (sid)

theorem steps_acquireSourceLease (gen : Nat) : Steps hub (hub.acquireSourceLease sid gen).1 := by
  unfold acquireSourceLease
  split
  · exact .refl hub
  rename_i hfound
  apply steps_charge hfound
  apply turned_leases
  · exact fun _ => acquireSourceLease_balanced gen
  · exact congrArg nextGeneration (acquireSourceLease_pool gen)
  · exact acquireSourceLease_keeps

theorem steps_releaseSourceLease (gen : Nat) : Steps hub (hub.releaseSourceLease sid gen).1 := by
  unfold releaseSourceLease
  split
  · exact .refl hub
  rename_i hfound
  apply steps_charge hfound
  apply turned_leases
  · exact releaseSourceLease_balanced gen
  · exact releaseSourceLease_nextGeneration
  · exact releaseSourceLease_keeps

/-! ## Frames, deadlines and sockets -/

theorem steps_invalidate (reason : String) : Steps hub (hub.invalidate sid reason).1 := by
  unfold invalidate
  split
  · exact .refl hub
  rename_i scrn hfound
  split
  · exact .refl hub
  apply steps_commit hfound
  have hreset : BooksOnly (hub.turn scrn) (hub.turn scrn).resetChunks.clearHold :=
    (books_resetChunks _).trans (books_clearHold _)
  exact (hreset.turned.trans (turned_markInvalid _)).trans (books_retry _ _ _).turned

theorem steps_publishFrame (frame : PbCellGridFrame) :
    Steps hub (hub.publishFrame sizes sid frame).1 := by
  unfold publishFrame
  split
  · exact .refl hub
  rename_i hfound
  split
  · exact .refl hub
  · rename_i hexpect
    exact steps_commit hfound (turned_admitFrame sizes sid _ _ _ hexpect)

theorem steps_publishChunk (chunk : PbCellGridChunk) (receivedAtMs : Int64) (nowMs : Nat) :
    Steps hub (hub.publishChunk sizes sid chunk receivedAtMs nowMs).1 := by
  unfold publishChunk
  split
  · exact .refl hub
  rename_i screen hfound
  split
  · rename_i want part hexpect hpart
    split
    · exact .refl hub
    refine .inr ⟨sid, screen, _, hfound,
      turned_admitChunk sizes sid _ (hub.turn screen) _ _ _, rfl, rfl, ?_⟩
    intro eff heff
    obtain hmem | hreplay := List.mem_append.mp heff
    · exact mem_commit_pending hmem
    · split at hreplay
      · cases List.mem_singleton.mp hreplay
      · cases hreplay
  · exact .refl hub

theorem steps_replayHeldDeltas : Steps hub (hub.replayHeldDeltas sizes sid).1 := by
  unfold replayHeldDeltas
  split
  · exact .refl hub
  · rename_i hfound
    exact steps_commit hfound (turned_replayHeldDeltas sizes sid _ _)

theorem steps_fire (due : Deadline) (nowMs : Nat) : Steps hub (hub.fire due nowMs).1 := by
  unfold fire
  split
  · exact .refl hub
  · rename_i hfound
    exact steps_commit hfound (books_fire _ nowMs due).turned

theorem steps_seedSocket (sock : String) : Steps hub (hub.seedSocket sizes sid sock).1 := by
  unfold seedSocket
  split
  · rename_i hfound
    split
    · exact .refl hub
    · split
      · exact .refl hub
      · exact steps_commit hfound (turned_seedSource sizes _ sid)
  · exact .refl hub

theorem steps_rebaselinePlan (sock : String)
    (ckpt : Option ScreenCheckpoint) : Steps hub (hub.rebaselinePlan sizes sid sock ckpt).1 := by
  unfold rebaselinePlan
  split
  · rename_i hfound
    split
    · exact .refl hub
    dsimp only
    split
    · exact steps_commit hfound (turned_seedSource sizes _ sid)
    · exact steps_commit hfound (books_retry _ sid _).turned
  · exact .refl hub

theorem resyncSocket_hub (sock : String)
    (ckpt : Option ScreenCheckpoint) : (hub.resyncSocket sizes sid sock ckpt).1 =
      (hub.rebaselinePlan sizes sid sock ckpt).1 := by
  unfold resyncSocket
  dsimp only
  split <;> rfl

theorem steps_reseed (watcher : Watcher) (streamId : String) (gen : Nat) :
    Steps hub (hub.reseedAfterRefusedDelta sizes sid watcher streamId gen).1 := by
  unfold reseedAfterRefusedDelta
  split
  · exact .refl hub
  rename_i hfound
  split
  · exact steps_commit hfound (turned_seedSource sizes _ sid)
  · exact .refl hub

variable {sid}

theorem steps_runEffect (needsSnapshot : Bool) (eff : ScreenEffect) :
    Steps hub (hub.runEffect sizes needsSnapshot eff).1 := by
  cases eff with
  | delta watcher sid streamId frame gen =>
    unfold runEffect
    dsimp only
    split
    · split
      · exact steps_reseed hub sid watcher streamId gen
      · exact .refl hub
    · exact .refl hub
  | begin | seed =>
    unfold runEffect
    dsimp only
    split <;> exact .refl hub
  | _ => exact .refl hub

theorem still_registerSocket (sock : String) : Still hub (hub.registerSocket sock).1 := by
  unfold registerSocket
  dsimp only
  split <;> exact ⟨rfl, rfl, fun _ h => h⟩

theorem still_setWatching (sid : SessionId) (sock : String)
    (watching : Bool) : Still hub (hub.setWatching sid sock watching).1 := by
  unfold setWatching
  split
  · split <;> exact ⟨rfl, rfl, fun _ h => h⟩
  · split <;> exact ⟨rfl, rfl, fun _ h => h⟩

/-! ## Stream changes -/

/-- The screen once it expects another stream. -/
def restarted (turn : ScreenTurn) (sessionId : SessionId) (watchers : List Watcher)
    (expected : ExpectedStream) : ScreenTurn :=
  let turn := turn.resetRepair true
  let turn : ScreenTurn := { turn with
    effects := turn.effects ++ watchers.map fun watcher =>
      .begin watcher sessionId expected.streamId }
  let turn := turn.dropCache.clearHold
  { turn with screen := { turn.screen with expected := some expected, resyncLatched := false }
    : ScreenTurn }.armBaselineTimer sessionId

theorem expectStream_cases (sid : SessionId) (streamId : String)
    (cols rows : UInt32) : (∃ scrn, hub.sessions.lookup sid = some scrn ∧
      scrn.expected = some { streamId, cols, rows } ∧ hub.expectStream sid streamId cols rows =
        ({ hub with sessions := hub.sessions.insert sid scrn }, {})) ∨
    (((hub.sessions.lookup sid).getD {}).expected ≠ some { streamId, cols, rows } ∧
      hub.expectStream sid streamId cols rows =
        hub.within sid ((hub.sessions.lookup sid).getD {}) fun turn =>
          restarted turn sid (hub.sockets.watchersOf sid) { streamId, cols, rows }) := by
  by_cases hsame : ((hub.sessions.lookup sid).getD {}).expected = some { streamId, cols, rows }
  · refine .inl ?_
    cases hfound : hub.sessions.lookup sid with
    | none =>
      rw [hfound] at hsame
      cases hsame
    | some scrn =>
      rw [hfound] at hsame
      refine ⟨scrn, rfl, hsame, ?_⟩
      unfold expectStream
      rw [hfound]
      exact if_pos hsame
  · refine .inr ⟨hsame, ?_⟩
    unfold expectStream
    exact if_neg hsame

variable {hub}

theorem restarted_spec (turn : ScreenTurn) (sid : SessionId) (watchers : List Watcher)
    (want : ExpectedStream) :
    let turn' := restarted turn sid watchers want
    turn'.screen.expected = some want ∧ turn'.screen.source = none ∧
      turn'.residency = (turn.residency.dropCache turn.screen.charge).1 ∧
      turn'.screen.charge = (turn.residency.dropCache turn.screen.charge).2.1 ∧
      ∀ eff ∈ turn'.effects, eff ∈ turn.effects ∨ eff.plain = true := by
  refine ⟨rfl, rfl, rfl, rfl, ?_⟩
  intro eff heff
  obtain hmem | hmem := List.mem_append.mp heff
  · exact .inl hmem
  · obtain ⟨_, -, rfl⟩ := List.mem_map.mp hmem
    exact .inr rfl

/-! ## Any step -/

theorem Steps.of_taken {pending : List HubTask} {scheduled : List Deadline}
    (hpend : ∀ task ∈ pending, task ∈ hub.pending)
    (h : Steps { hub with pending, scheduled } hub') : Steps hub hub' := by
  obtain hstill | ⟨sid, screen, turn, hmoved⟩ := h
  · exact .inl ⟨hstill.sessions, hstill.residency,
      fun effect heff => hpend _ (hstill.pending effect heff)⟩
  refine .inr ⟨sid, screen, turn, hmoved.found, hmoved.turned, hmoved.sessions,
    hmoved.residency, ?_⟩
  intro effect heff
  obtain hmem | hmem := hmoved.pending effect heff
  · exact .inl (hpend _ hmem)
  · exact .inr hmem

theorem steps_perform (hub : ScreenHub) (index : Nat) (needsSnapshot : Bool) :
    Steps hub ((machine sizes).next hub (.perform index needsSnapshot)) := by
  simp only [Transducer.next, machine]
  split
  · exact .refl hub
  rename_i task _
  have hpend : ∀ task ∈ hub.pending.eraseIdx index, task ∈ hub.pending :=
    fun _ hmem => List.mem_of_mem_eraseIdx hmem
  cases task with
  | effect effect => exact .of_taken hpend (steps_runEffect _ needsSnapshot effect)
  | replay sid => exact .of_taken hpend (steps_replayHeldDeltas _ sid)

/-- Any operation but an expectation or a drop is a chain of turns. -/
theorem next_cases (hub : ScreenHub) (op : Op) :
    (∃ sid streamId cols rows, op = .expectStream sid streamId cols rows) ∨
      (∃ sid, op = .dropSession sid) ∨ Steps hub ((machine sizes).next hub op) := by
  cases op with
  | expectStream => exact .inl ⟨_, _, _, _, rfl⟩
  | dropSession => exact .inr (.inl ⟨_, rfl⟩)
  | invalidate sid reason => exact .inr (.inr (steps_invalidate hub sid reason))
  | publishFrame sid frame => exact .inr (.inr (steps_publishFrame hub sid frame))
  | publishChunk sid chunk receivedAtMs nowMs =>
    exact .inr (.inr (steps_publishChunk hub sid chunk receivedAtMs nowMs))
  | acquireSourceLease sid gen =>
    exact .inr (.inr (steps_acquireSourceLease hub sid gen))
  | releaseSourceLease sid gen =>
    exact .inr (.inr (steps_releaseSourceLease hub sid gen))
  | registerSocket sock => exact .inr (.inr (.inl (still_registerSocket hub sock)))
  | unregisterSocket sock => exact .inr (.inr (.inl ⟨rfl, rfl, fun _ h => h⟩))
  | setWatching sock sid watching =>
    exact .inr (.inr (.inl (still_setWatching hub sid sock watching)))
  | seedSocket sock sid =>
    exact .inr (.inr (steps_seedSocket hub sid sock))
  | resyncSocket sock sid ckpt =>
    refine .inr (.inr ?_)
    have hhub : (machine sizes).next hub (.resyncSocket sock sid ckpt) =
        (hub.rebaselinePlan sizes sid sock ckpt).1 :=
      resyncSocket_hub hub sid sock ckpt
    rw [hhub]
    exact steps_rebaselinePlan hub sid sock ckpt
  | rebaselinePlan sock sid ckpt =>
    exact .inr (.inr (steps_rebaselinePlan hub sid sock ckpt))
  | perform index needsSnapshot => exact .inr (.inr (steps_perform hub index needsSnapshot))
  | fire index nowMs =>
    refine .inr (.inr ?_)
    simp only [Transducer.next, machine]
    split
    · exact .refl hub
    · exact .of_taken (fun _ h => h) (steps_fire _ _ nowMs)

end ScreenHub
end Roost.Coord
