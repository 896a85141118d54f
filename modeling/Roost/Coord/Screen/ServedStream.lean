-- SUMMARY: What the hub serves is of the stream it is labelled with.
import Roost.Coord.Screen.HubResidency

/-!
# The stream that is served

A valid version is one of the stream its session expects, and a source is handed to a socket
under the id of the stream it is of. A stream change drops the version it finds through the
pool, which may refuse to: only then does a version of the former stream stay valid under the
new one.
-/

namespace Roost.Coord

open Transducer

open Roost.Cell TerminalScreenResidency ScreenTurn

/-- A source handed to a socket is of the stream it is labelled with. -/
def SinkCall.Labelled : SinkCall → Prop
  | .replaceTerminalSnapshot _ _ streamId source => source.plan.frame.streamId = streamId
  | _ => True

structure HubReply.Labelled (reply : HubReply) : Prop where
  calls : ∀ call ∈ reply.calls, call.Labelled
  plan : ∀ plan ∈ reply.plan, ∀ source ∈ plan.source, source.plan.frame.streamId = plan.streamId

namespace ScreenHub

variable {sizes : Sizes} {hub hub' : ScreenHub} {sid : SessionId} {screen : SessionScreen}

def currentOf (hub : ScreenHub) (sessionId : SessionId) : Option ResidentCache :=
  (hub.sessions.lookup sessionId).bind fun screen => screen.charge.current

/-- The screens are faithful to the streams they expect, and so is what is owed. -/
structure Faithful (hub : ScreenHub) : Prop where
  screens : ∀ sessionId screen, hub.sessions.lookup sessionId = some screen →
    (hub.turn screen).Faithful sessionId
  pending : ∀ effect, .effect effect ∈ hub.pending →
    ∃ sessionId, effect.Labelled sessionId hub.residency.nextGeneration (hub.currentOf sessionId)

/-- Every valid version is one of the stream its session expects. -/
def ServesExpected (hub : ScreenHub) : Prop :=
  ∀ sessionId screen, hub.sessions.lookup sessionId = some screen →
    ∀ cache ∈ screen.charge.current, cache.valid = true →
      ∃ expected, screen.expected = some expected ∧ expected.Matches cache.frame

/-- A stream change that finds a valid version which a source still needs can pin it: no
other version is pinned, and the pool has room for it once more. -/
def DropsStale : ScreenHub → Op → Prop
  | hub, .expectStream sessionId streamId cols rows =>
    ∀ screen ∈ hub.sessions.lookup sessionId, screen.expected ≠ some { streamId, cols, rows } →
        ∀ cache ∈ screen.charge.current, cache.valid = true → 0 < cache.sourceLeaseCount →
          screen.charge.pinned = none ∧ hub.residency.HasRoom cache.rows cache.spans
  | _, _ => True

instance (hub : ScreenHub) (op : Op) : Decidable (DropsStale hub op) := by
  apply @Op.casesOn _ op <;> intros <;> dsimp only [DropsStale] <;> infer_instance

/-! ## What one step keeps -/

theorem currentOf_of_lookup (h : hub.sessions.lookup sid = some screen) :
    hub.currentOf sid = screen.charge.current := by
  simp [currentOf, h]

theorem labelled_of_lineage {eff : ScreenEffect} {nextGeneration nextGeneration' : Nat}
    {cur current' : Option ResidentCache} (h : eff.Labelled sid nextGeneration cur)
    (hnext : nextGeneration ≤ nextGeneration')
    (hlin : ∀ cache' ∈ current', (∃ cache ∈ cur, cache.Keeps cache') ∨
      nextGeneration ≤ cache'.generation) : eff.Labelled sid nextGeneration' current' := by
  cases eff with
  | delta watcher owner streamId frame =>
    obtain ⟨howner, holder, hcached⟩ := h
    refine ⟨howner, Nat.lt_of_lt_of_le holder hnext, ?_⟩
    intro cache' hcache' hgen
    obtain ⟨cache, hcache, hkeeps⟩ | hnew := hlin cache' hcache'
    · rw [hkeeps.frame]
      exact hcached cache hcache (hkeeps.generation.symm.trans hgen)
    · exact absurd holder (Nat.not_lt.mpr (hgen ▸ hnew))
  | _ => exact h

theorem faithful_of_next (h : (hub.turn screen).Faithful sid)
    (hnext : hub.residency.nextGeneration ≤ hub'.residency.nextGeneration) :
    (hub'.turn screen).Faithful sessionId :=
  ⟨h.valid, fun cache hcache => Nat.lt_of_lt_of_le (h.fresh cache hcache) hnext, h.source,
    fun _ heff => by cases heff⟩

theorem Faithful.insert (h : hub.Faithful) {turn : ScreenTurn} {pend : List HubTask}
    (hturn : turn.Faithful sid)
    (hnext : hub.residency.nextGeneration ≤ turn.residency.nextGeneration)
    (hlin : ∀ cache' ∈ turn.screen.charge.current,
      (∃ cache ∈ hub.currentOf sid, cache.Keeps cache') ∨
        hub.residency.nextGeneration ≤ cache'.generation)
    (hsess : hub'.sessions = hub.sessions.insert sid turn.screen)
    (hres : hub'.residency = turn.residency) (hpend : hub'.pending = pend)
    (howed : ∀ eff, .effect eff ∈ pend →
      HubTask.effect eff ∈ hub.pending ∨ eff ∈ turn.effects) : hub'.Faithful := by
  have hcur (other : SessionId) : hub'.currentOf other =
      if other = sid then turn.screen.charge.current else hub.currentOf other := by
    unfold currentOf
    rw [hsess, Table.lookup_insert]
    split <;> rfl
  constructor
  · intro other screen' hfound
    rw [hsess, Table.lookup_insert] at hfound
    split at hfound
    · rename_i hsame
      cases hfound
      refine ⟨hturn.valid, ?_, hturn.source, fun _ heff => by cases heff⟩
      have hpool : (hub'.turn turn.screen).residency = turn.residency := hres
      rw [hpool]
      exact hturn.fresh
    · exact faithful_of_next (h.screens other screen' hfound) (hres ▸ hnext)
  intro eff heff
  rw [hpend] at heff
  obtain hmem | hmem := howed eff heff
  · obtain ⟨other, hlabel⟩ := h.pending eff hmem
    refine ⟨other, labelled_of_lineage hlabel (hres ▸ hnext) ?_⟩
    intro cache' hcache'
    rw [hcur] at hcache'
    split at hcache'
    · rename_i hsame
      subst hsame
      exact hlin cache' hcache'
    · exact .inl ⟨cache', hcache', .refl cache'⟩
  · refine ⟨sid, ?_⟩
    rw [hcur, if_pos rfl, hres]
    exact hturn.effects eff hmem

/-- A chain of turns serves the expected stream only. -/
theorem Faithful.steps (h : hub.Faithful) (hsteps : Steps hub hub') : hub'.Faithful := by
  obtain hstill | ⟨sid, screen, turn, hmoved⟩ := hsteps
  · have hcur : hub'.currentOf = hub.currentOf := by
      funext sid
      unfold currentOf
      rw [hstill.sessions]
    constructor
    · intro sid screen hfound
      rw [hstill.sessions] at hfound
      exact faithful_of_next (h.screens sid screen hfound) (hstill.residency ▸ Nat.le_refl _)
    · intro eff heff
      rw [hcur, hstill.residency]
      exact h.pending eff (hstill.pending eff heff)
  · have hturned := hmoved.turned
    refine h.insert (hturned.faithful (h.screens sid screen hmoved.found)) hturned.next ?_
      hmoved.sessions hmoved.residency rfl hmoved.pending
    rw [currentOf_of_lookup hmoved.found]
    exact hturned.current

theorem dropCache_stale {pool : TerminalScreenResidency} {charge : SessionCharge}
    (hroom : ∀ cache ∈ charge.current, cache.valid = true → 0 < cache.sourceLeaseCount →
      charge.pinned = none ∧ pool.HasRoom cache.rows cache.spans) :
    ∀ cache ∈ (pool.dropCache charge).2.1.current, cache ∈ charge.current ∧ cache.valid = false := by
  intro cache hcache
  obtain ⟨hnone, he⟩ | ⟨_, -, -, he⟩ | ⟨_, -, -, -, -, he⟩ |
    ⟨cur, hcur, hleases, href, he⟩ := dropCache_cases pool charge
  · rw [he, hnone] at hcache
    cases hcache
  · rw [he] at hcache
    cases hcache
  · rw [he] at hcache
    cases hcache
  rw [he] at hcache
  refine ⟨hcache, ?_⟩
  cases hcur.symm.trans hcache
  by_contra hvalid
  obtain ⟨hpinned, hfits⟩ := hroom cache hcur (Bool.eq_true_of_not_eq_false hvalid) hleases
  obtain hsome | hfull := href
  · rw [hpinned] at hsome
    cases hsome
  · exact hfull hfits

theorem Faithful.expectStream (h : hub.Faithful) {streamId : String} {cols rows : UInt32}
    (hstale : DropsStale hub (.expectStream sid streamId cols rows)) :
    (hub.expectStream sid streamId cols rows).1.Faithful := by
  obtain ⟨scrn, hfound, -, he⟩ | ⟨hchange, he⟩ :=
    expectStream_cases hub sid streamId cols rows
  · rw [he]
    have hturn : (hub.turn scrn).Faithful sid := h.screens sid scrn hfound
    refine h.insert hturn (Nat.le_refl _) ?_ rfl rfl rfl fun _ hmem => .inl hmem
    rw [currentOf_of_lookup hfound]
    exact fun cache hcache => .inl ⟨cache, hcache, .refl cache⟩
  rw [he]
  obtain ⟨-, hsource, hres, hcharge, howed⟩ := restarted_spec
    (hub.turn ((hub.sessions.lookup sid).getD {})) sid
    (hub.sockets.watchersOf sid) { streamId, cols, rows }
  have hnext := dropCache_nextGeneration hub.residency
    ((hub.sessions.lookup sid).getD {}).charge
  -- A version that is left was there before, and is not valid.
  have hleft : ∀ cache ∈
      (hub.residency.dropCache ((hub.sessions.lookup sid).getD {}).charge).2.1.current,
      ∃ scrn, hub.sessions.lookup sid = some scrn ∧
        cache ∈ scrn.charge.current ∧ cache.valid = false := by
    cases hfound : hub.sessions.lookup sid with
    | none =>
      intro cache hcache
      cases hcache
    | some scrn =>
      rw [hfound] at hchange
      intro cache hcache
      obtain ⟨hcur, hinv⟩ :=
        dropCache_stale (hstale scrn hfound hchange) cache hcache
      exact ⟨scrn, rfl, hcur, hinv⟩
  refine h.insert ?_ (hres ▸ hnext.ge) ?_ rfl rfl rfl fun _ => mem_commit_pending
  · constructor
    · rw [hcharge]
      intro cache hcache hvalid
      obtain ⟨_, -, -, hinv⟩ := hleft cache hcache
      rw [hvalid] at hinv
      cases hinv
    · rw [hcharge, hres]
      intro cache hcache
      obtain ⟨scrn, hfound, hcur, -⟩ := hleft cache hcache
      exact hnext.symm ▸ (h.screens sid scrn hfound).fresh cache hcur
    · rw [hsource]
      intro source hnone
      cases hnone
    · intro effect heff
      obtain hmem | hplain := howed effect heff
      · cases hmem
      · exact ScreenEffect.labelled_of_plain hplain
  · rw [hcharge]
    intro cache hcache
    obtain ⟨_, hfound, hcur, -⟩ := hleft cache hcache
    rw [currentOf_of_lookup hfound]
    exact .inl ⟨cache, hcur, .refl cache⟩

theorem Faithful.dropSession (h : hub.Faithful) (sid : SessionId) :
    (hub.dropSession sid).1.Faithful := by
  have hsess : (hub.dropSession sid).1.sessions = hub.sessions.erase sid := rfl
  have hnext : (hub.dropSession sid).1.residency.nextGeneration =
      hub.residency.nextGeneration := by
    unfold ScreenHub.dropSession
    dsimp only
    split
    · rfl
    · exact dropCache_nextGeneration hub.residency _
  constructor
  · intro other scrn hfound
    rw [hsess, Table.lookup_erase] at hfound
    split at hfound
    · cases hfound
    · exact faithful_of_next (h.screens other scrn hfound) hnext.ge
  intro effect heff
  obtain ⟨other, hlabel⟩ := h.pending effect heff
  refine ⟨other, labelled_of_lineage hlabel hnext.ge ?_⟩
  intro cache' hcache'
  unfold currentOf at hcache'
  rw [hsess, Table.lookup_erase] at hcache'
  split at hcache'
  · cases hcache'
  · exact .inl ⟨cache', hcache', .refl cache'⟩

/-- An operation serves the expected stream unless its pin is refused. -/
theorem Faithful.next (h : hub.Faithful) {op : Op} (hstale : DropsStale hub op) :
    ((machine sizes).next hub op).Faithful := by
  obtain ⟨sid, streamId, cols, rows, rfl⟩ | ⟨sid, rfl⟩ | hsteps :=
    next_cases hub op
  · exact h.expectStream hstale
  · exact h.dropSession sid
  · exact h.steps hsteps

/-! ## What a reply hands out -/

theorem labelled_of_calls {reply : HubReply} (hcalls : ∀ call ∈ reply.calls, call.Labelled)
    (hplan : reply.plan = none) : reply.Labelled :=
  ⟨hcalls, by
    rw [hplan]
    intro plan hmem
    cases hmem⟩

theorem labelled_quiet {reply : HubReply} (hcalls : reply.calls = [])
    (hplan : reply.plan = none) : reply.Labelled :=
  labelled_of_calls (by simp [hcalls]) hplan

section

variable (h : hub.Faithful)
include h

theorem Faithful.seedSource
    (hfound : hub.sessions.lookup sid = some screen) {streamId : String}
    (hexpect : screen.expectedStreamId = some streamId) (hvalid : screen.hasValidCache = true) :
    ∀ source ∈ ((hub.turn screen).seedSource sizes sid).2,
      source.plan.frame.streamId = streamId := by
  intro source hsource
  have hturn := h.screens sid screen hfound
  obtain ⟨cache, hcache, hlabel⟩ :=
    (seedSource_cases sizes (hub.turn screen) sid).2.2.2 hturn source hsource
  have hcached : screen.charge.current = some cache := hcache
  simp only [SessionScreen.hasValidCache, hcached, Option.any_some] at hvalid
  obtain ⟨expected, hstr, hmatches⟩ := hturn.valid cache hcache hvalid
  have hexpects : screen.expected = some expected := hstr
  simp only [SessionScreen.expectedStreamId, hexpects, Option.map_some, Option.some.injEq]
    at hexpect
  rw [hlabel, hmatches.streamId, hexpect]

theorem Faithful.seedSocket_labelled (sock : String) :
    (hub.seedSocket sizes sid sock).2.Labelled := by
  unfold seedSocket
  split
  · rename_i hfound
    split
    · exact labelled_quiet rfl rfl
    rename_i hexpect
    split
    · exact labelled_quiet rfl rfl
    rename_i hvalid
    apply labelled_of_calls _ rfl
    intro call hcall
    obtain ⟨source, hsource, rfl⟩ := List.mem_map.mp hcall
    exact h.seedSource hfound hexpect (by simpa using hvalid) source (Option.mem_toList.mp hsource)
  · exact labelled_quiet rfl rfl

theorem Faithful.rebaselinePlan_labelled (sock : String) (ckpt : Option ScreenCheckpoint) :
    (hub.rebaselinePlan sizes sid sock ckpt).2.Labelled := by
  unfold rebaselinePlan
  split
  · rename_i scrn _ hfound
    split
    · exact labelled_quiet rfl rfl
    rename_i hexpect
    dsimp only
    split
    · rename_i hserves
      refine ⟨fun call hcall => (by cases hcall), ?_⟩
      intro plan hplan
      cases hplan
      have hvalid : scrn.hasValidCache = true := by
        simp only [Bool.and_eq_true, Option.any_eq_true] at hserves
        obtain ⟨-, _, hcache, hvalid, -⟩ := hserves
        simp [SessionScreen.hasValidCache, hcache, hvalid]
      exact h.seedSource hfound hexpect hvalid
    · refine ⟨fun call hcall => (by cases hcall), ?_⟩
      intro plan hplan
      cases hplan
      intro source hsource
      cases hsource
  · exact labelled_quiet rfl rfl

theorem Faithful.resyncSocket_labelled (sock : String) (ckpt : Option ScreenCheckpoint) :
    (hub.resyncSocket sizes sid sock ckpt).2.Labelled := by
  have hlabel : (hub.rebaselinePlan sizes sid sock ckpt).2.Labelled :=
    h.rebaselinePlan_labelled sock ckpt
  have hcalls : (hub.rebaselinePlan sizes sid sock ckpt).2.calls = [] := by
    unfold rebaselinePlan
    split
    · split <;> rfl
    · rfl
  unfold resyncSocket
  dsimp only
  split
  · rename_i hplan
    exact labelled_quiet hcalls hplan
  rename_i plan hplan
  refine ⟨?_, hlabel.plan⟩
  intro call hcall
  obtain rfl | hseed := List.mem_cons.mp hcall
  · trivial
  · obtain ⟨source, hsource, rfl⟩ := List.mem_map.mp hseed
    exact hlabel.plan plan hplan source (Option.mem_toList.mp hsource)

theorem Faithful.reseed_labelled {watcher : Watcher} {streamId : String}
    {frame : PbCellGridFrame} {generation : Nat}
    (howed : (ScreenEffect.delta watcher sid streamId frame generation).Labelled sid
      hub.residency.nextGeneration (hub.currentOf sid)) :
    (hub.reseedAfterRefusedDelta sizes sid watcher streamId generation).2.Labelled := by
  unfold reseedAfterRefusedDelta
  split
  · exact labelled_quiet rfl rfl
  rename_i scrn hfound
  split
  · rename_i hcur
    apply labelled_of_calls _ rfl
    intro call hcall
    obtain ⟨source, hsource, rfl⟩ := List.mem_map.mp hcall
    obtain ⟨cache, hcache, hlabel⟩ := (seedSource_cases sizes (hub.turn scrn) sid).2.2.2
      (h.screens sid scrn hfound) source (Option.mem_toList.mp hsource)
    have hcached : scrn.charge.current = some cache := hcache
    have hgen : cache.generation = generation := by simpa [hcached] using hcur.2
    have hnamed := howed.2.2 cache (by rw [currentOf_of_lookup hfound]; exact hcache)
    exact hlabel.trans (hnamed hgen)
  · exact labelled_quiet rfl rfl

theorem Faithful.runEffect_labelled {eff : ScreenEffect}
    (howed : ∃ sid, eff.Labelled sid hub.residency.nextGeneration (hub.currentOf sid))
    (needsSnapshot : Bool) : (hub.runEffect sizes needsSnapshot eff).2.Labelled := by
  obtain ⟨owner, hlabel⟩ := howed
  cases eff with
  | begin =>
    unfold runEffect
    dsimp only
    split
    · exact labelled_of_calls (by simp [SinkCall.Labelled]) rfl
    · exact labelled_quiet rfl rfl
  | seed =>
    unfold runEffect
    dsimp only
    split
    · apply labelled_of_calls _ rfl
      intro call hcall
      cases List.mem_singleton.mp hcall
      exact hlabel
    · exact labelled_quiet rfl rfl
  | delta watcher sid streamId frame gen =>
    have howner : sid = owner := hlabel.1
    subst howner
    unfold runEffect
    dsimp only
    split
    · split
      · have hreseed : (hub.reseedAfterRefusedDelta sizes sid watcher streamId
            gen).2.Labelled := h.reseed_labelled hlabel
        refine ⟨?_, hreseed.plan⟩
        intro call hcall
        obtain rfl | hmem := List.mem_cons.mp hcall
        · trivial
        · exact hreseed.calls call hmem
      · exact labelled_of_calls (by simp [SinkCall.Labelled]) rfl
    · exact labelled_quiet rfl rfl
  | _ => exact labelled_of_calls (by simp [runEffect, SinkCall.Labelled]) rfl

theorem Faithful.answer_labelled (op : Op) : ((machine sizes).answer hub op).Labelled := by
  cases op with
  | expectStream sid streamId cols rows =>
    obtain ⟨_, -, -, he⟩ | ⟨-, he⟩ := expectStream_cases hub sid streamId cols rows
    · exact labelled_quiet (by simp [answer, machine, he]) (by simp [answer, machine, he])
    · exact labelled_quiet (by simp [answer, machine, he, within])
        (by simp [answer, machine, he, within])
  | invalidate =>
    simp only [answer, machine, invalidate]
    split
    · exact labelled_quiet rfl rfl
    · split <;> exact labelled_quiet rfl rfl
  | dropSession =>
    apply labelled_of_calls _ rfl
    intro call hcall
    obtain ⟨_, -, rfl⟩ := List.mem_map.mp hcall
    trivial
  | publishFrame =>
    simp only [answer, machine, publishFrame]
    split
    · exact labelled_quiet rfl rfl
    · split <;> exact labelled_quiet rfl rfl
  | publishChunk =>
    simp only [answer, machine, publishChunk]
    split
    · exact labelled_quiet rfl rfl
    · split
      · split <;> exact labelled_quiet rfl rfl
      · exact labelled_quiet rfl rfl
  | acquireSourceLease =>
    simp only [answer, machine, acquireSourceLease]
    split <;> exact labelled_quiet rfl rfl
  | releaseSourceLease =>
    simp only [answer, machine, releaseSourceLease]
    split <;> exact labelled_quiet rfl rfl
  | registerSocket sock =>
    have hdrops : ∀ call ∈ (hub.unregisterSocket sock).2.calls, call.Labelled := by
      intro call hcall
      obtain ⟨_, -, rfl⟩ := List.mem_map.mp hcall
      trivial
    simp only [answer, machine, registerSocket]
    split <;> exact labelled_of_calls hdrops rfl
  | unregisterSocket =>
    apply labelled_of_calls _ rfl
    intro call hcall
    obtain ⟨_, -, rfl⟩ := List.mem_map.mp hcall
    trivial
  | setWatching =>
    simp only [answer, machine, setWatching]
    split
    · split
      · exact labelled_quiet rfl rfl
      dsimp only
      split
      · exact labelled_of_calls (by simp [SinkCall.Labelled]) rfl
      · exact labelled_quiet rfl rfl
    · split
      · exact labelled_quiet rfl rfl
      · exact labelled_of_calls (by simp [SinkCall.Labelled]) rfl
  | seedSocket sock => exact h.seedSocket_labelled sock
  | resyncSocket sock sid ckpt => exact h.resyncSocket_labelled sock ckpt
  | rebaselinePlan sock sid ckpt =>
    exact h.rebaselinePlan_labelled sock ckpt
  | perform index needsSnapshot =>
    simp only [answer, machine]
    split
    · exact labelled_quiet rfl rfl
    rename_i task htask
    have htaken : ({ hub with pending := hub.pending.eraseIdx index } : ScreenHub).Faithful :=
      ⟨h.screens, fun effect heff => h.pending effect (List.mem_of_mem_eraseIdx heff)⟩
    cases task with
    | effect effect =>
      exact htaken.runEffect_labelled (h.pending effect (List.mem_of_getElem? htask)) _
    | replay =>
      simp only [perform, replayHeldDeltas]
      split <;> exact labelled_quiet rfl rfl
  | fire =>
    simp only [answer, machine]
    split
    · exact labelled_quiet rfl rfl
    · unfold fire
      split <;> exact labelled_quiet rfl rfl

/-- A faithful hub serves the expected stream. -/
theorem Faithful.servesExpected : hub.ServesExpected :=
  fun sid scrn hfound => (h.screens sid scrn hfound).valid

end

/-- In every run whose stream changes can drop what they replace, every valid version is one
of the stream its session expects, and whatever happens next hands out no source under
another stream's id. -/
theorem run_servesExpected {maxRows maxSpans : Nat} {ops : List Op}
    (h : (machine sizes).Along DropsStale (withCaps maxRows maxSpans) ops) :
    ((machine sizes).run (withCaps maxRows maxSpans) ops).ServesExpected ∧
      ∀ op, ((machine sizes).answer ((machine sizes).run (withCaps maxRows maxSpans) ops)
        op).Labelled := by
  have hfaithful : ((machine sizes).run (withCaps maxRows maxSpans) ops).Faithful := by
    refine h.invariant ⟨?_, ?_⟩ fun _ _ hfaithful hstale => hfaithful.next hstale
    · intro sid screen hfound
      cases hfound
    · intro effect heff
      cases heff
  exact ⟨hfaithful.servesExpected, hfaithful.answer_labelled⟩

/-- A stream that follows the one of `blankScreen`. -/
def laterStream : String := "6ba7b810-9dad-11d1-80b4-00c04fd430c8"

/-- A leased version is pinned by a stream change while the pool has room for it. -/
theorem run_servesExpected_pinned :
    let ops : List Op :=
      [.expectStream blankSession blankStream 1 1,
        .publishFrame blankSession (blankFull blankStream 1), .acquireSourceLease blankSession 1,
        .expectStream blankSession laterStream 1 1]
    ((machine wireSizes).run (withCaps 2 0) ops).ServesExpected ∧
      ∀ op, ((machine wireSizes).answer ((machine wireSizes).run (withCaps 2 0) ops) op).Labelled :=
  run_servesExpected (by decide +kernel)

/-- The pool has no room to pin the leased version, which stays valid under the next stream
and is handed to a socket under its id. -/
theorem serves_formerStream :
    let ops : List Op :=
      [.registerSocket "socket", .setWatching "socket" blankSession true,
        .expectStream blankSession blankStream 1 1,
        .publishFrame blankSession (blankFull blankStream 1), .acquireSourceLease blankSession 1,
        .expectStream blankSession laterStream 1 1]
    let hub := (machine wireSizes).run (withCaps 1 0) ops
    ¬hub.ServesExpected ∧
      ¬((machine wireSizes).answer hub (.seedSocket "socket" blankSession)).Labelled := by
  intro ops hub
  refine ⟨?_, ?_⟩
  · intro hserves
    have hstale : (hub.sessions.lookup blankSession).any (fun screen =>
        screen.charge.current.any fun cache =>
          cache.valid && decide (screen.expectedStreamId ≠ some cache.frame.streamId)) = true := by
      decide +kernel
    simp only [Option.any_eq_true, Bool.and_eq_true, decide_eq_true_eq] at hstale
    obtain ⟨screen, hfound, cache, hcache, hvalid, hformer⟩ := hstale
    obtain ⟨_, hexpect, hmatches⟩ := hserves blankSession screen hfound cache hcache hvalid
    simp [SessionScreen.expectedStreamId, hexpect, hmatches.streamId] at hformer
  intro hlabelled
  have hformer : ((machine wireSizes).answer hub (.seedSocket "socket" blankSession)).calls.any
      (fun call => match call with
        | .replaceTerminalSnapshot _ _ streamId source =>
          decide (source.plan.frame.streamId ≠ streamId)
        | _ => false) = true := by decide +kernel
  obtain ⟨call, hcall, hformer⟩ := List.any_eq_true.mp hformer
  have hlabel := hlabelled.calls call hcall
  cases call with
  | replaceTerminalSnapshot socketId sid streamId source =>
    have hother : source.plan.frame.streamId ≠ streamId := of_decide_eq_true hformer
    exact hother hlabel
  | _ => cases hformer

end ScreenHub
end Roost.Coord
