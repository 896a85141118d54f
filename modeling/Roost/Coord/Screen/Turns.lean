-- SUMMARY: What a turn on one screen can do.
import Roost.Coord.Screen.ScreenHub

/-!
# Turns

The repair ladder only keeps books. The cached version changes in three ways: it is marked
invalid, it is dropped, or the next one is installed, always one of the stream the session
expects. What a turn owes its watchers is labelled with the stream of the version it serves.
-/

namespace Roost.Coord

open Except (bind_eq_ok ite_error_eq_ok mapError_eq_ok ok)

open ScreenHub SessionCharge

open Roost.Cell TerminalScreenResidency

structure ExpectedStream.Matches (expected : ExpectedStream) (frame : CellGridFrame) : Prop where
  streamId : frame.streamId = expected.streamId
  cols : frame.cols = expected.cols
  rows : frame.rows = expected.rows

/-- What an effect's label promises about the version it serves: a source is of the stream
it is labelled with, and so is the version a delta produced while it is current. -/
def ScreenEffect.Labelled (sessionId : SessionId) (nextGeneration : Nat)
    (current : Option ResidentCache) : ScreenEffect → Prop
  | .seed _ _ streamId source => source.plan.frame.streamId = streamId
  | .delta _ owner streamId _ generation =>
    owner = sessionId ∧ generation < nextGeneration ∧
      ∀ cache ∈ current, cache.generation = generation → cache.frame.streamId = streamId
  | _ => True

/-- An effect that serves nothing. -/
def ScreenEffect.plain : ScreenEffect → Bool
  | .seed .. => false
  | .delta .. => false
  | _ => true

theorem ScreenEffect.labelled_of_plain {sid : SessionId} {nextGeneration : Nat}
    {current : Option ResidentCache} {eff : ScreenEffect} (h : eff.plain = true) :
    eff.Labelled sid nextGeneration current := by
  cases eff with
  | seed | delta => cases h
  | _ => trivial

/-- The same version, perhaps marked invalid or leased otherwise. -/
structure ResidentCache.Keeps (cache cache' : ResidentCache) : Prop where
  generation : cache'.generation = cache.generation
  frame : cache'.frame = cache.frame
  valid : cache'.valid = true → cache.valid = true

theorem ResidentCache.Keeps.refl (cache : ResidentCache) : cache.Keeps cache := ⟨rfl, rfl, id⟩

theorem ResidentCache.Keeps.trans {cache cache' cache'' : ResidentCache} (h : cache.Keeps cache')
    (h' : cache'.Keeps cache'') : cache.Keeps cache'' :=
  ⟨h'.generation.trans h.generation, h'.frame.trans h.frame, fun hvalid => h.valid (h'.valid hvalid)⟩

namespace ScreenTurn

/-- What holds of a screen under the locks: a valid version is one of the expected stream,
versions are numbered below the next one, the planned source is of the version it names, and
what is owed is labelled with the stream it serves. -/
structure Faithful (sessionId : SessionId) (turn : ScreenTurn) : Prop where
  valid : ∀ cache ∈ turn.screen.charge.current, cache.valid = true →
    ∃ expected, turn.screen.expected = some expected ∧ expected.Matches cache.frame
  fresh : ∀ cache ∈ turn.screen.charge.current, cache.generation < turn.residency.nextGeneration
  source : ∀ source ∈ turn.screen.source, ∀ cache ∈ turn.screen.charge.current,
    source.generation = cache.generation → source.plan.frame.streamId = cache.frame.streamId
  effects : ∀ effect ∈ turn.effects,
    effect.Labelled sessionId turn.residency.nextGeneration turn.screen.charge.current

/-- What a turn can do: the pool's books stay balanced, and the version it leaves is the one
it found or a new one of the expected stream. -/
structure Turned (sessionId : SessionId) (turn turn' : ScreenTurn) : Prop where
  expected : turn'.screen.expected = turn.screen.expected
  balanced : turn.residency.Covers turn.screen.charge →
    Balanced turn.residency turn'.residency turn.screen.charge turn'.screen.charge
  next : turn.residency.nextGeneration ≤ turn'.residency.nextGeneration
  current : ∀ cache' ∈ turn'.screen.charge.current,
    (∃ cache ∈ turn.screen.charge.current, cache.Keeps cache') ∨
      turn.residency.nextGeneration ≤ cache'.generation
  faithful : turn.Faithful sessionId → turn'.Faithful sessionId

variable {sid : SessionId} {turn turn' turn'' : ScreenTurn}

theorem Turned.refl (turn : ScreenTurn) : Turned sid turn turn :=
  ⟨rfl, fun _ => .refl, Nat.le_refl _, fun cache hcache => .inl ⟨cache, hcache, .refl cache⟩, id⟩

theorem Turned.trans (h : Turned sid turn turn') (h' : Turned sid turn' turn'') : Turned sid turn turn'' where
  expected := h'.expected.trans h.expected
  balanced hcovers := (h.balanced hcovers).trans (h'.balanced ((h.balanced hcovers).covers hcovers))
  next := Nat.le_trans h.next h'.next
  current := by
    intro cache'' hcache''
    obtain ⟨cache', hcache', hkeeps'⟩ | hnew := h'.current cache'' hcache''
    · obtain ⟨cache, hcache, hkeeps⟩ | hnew := h.current cache' hcache'
      · exact .inl ⟨cache, hcache, hkeeps.trans hkeeps'⟩
      · exact .inr (hkeeps'.generation ▸ hnew)
    · exact .inr (Nat.le_trans h.next hnew)
  faithful hturn := h'.faithful (h.faithful hturn)

/-- Only the ladder's books moved, and nothing is owed that serves a version. -/
structure BooksOnly (turn turn' : ScreenTurn) : Prop where
  expected : turn'.screen.expected = turn.screen.expected
  charge : turn'.screen.charge = turn.screen.charge
  source : turn'.screen.source = turn.screen.source
  residency : turn'.residency = turn.residency
  effects : ∀ effect ∈ turn'.effects, effect ∈ turn.effects ∨ effect.plain = true

theorem BooksOnly.refl (turn : ScreenTurn) : BooksOnly turn turn :=
  ⟨rfl, rfl, rfl, rfl, fun _ h => .inl h⟩

theorem BooksOnly.trans (h : BooksOnly turn turn') (h' : BooksOnly turn' turn'') :
    BooksOnly turn turn'' where
  expected := h'.expected.trans h.expected
  charge := h'.charge.trans h.charge
  source := h'.source.trans h.source
  residency := h'.residency.trans h.residency
  effects eff heff := by
    obtain hmem | hplain := h'.effects eff heff
    · exact h.effects eff hmem
    · exact .inr hplain

theorem BooksOnly.turned (h : BooksOnly turn turn') : Turned sid turn turn' where
  expected := h.expected
  balanced _ := by
    rw [h.residency, h.charge]
    exact .refl
  next := h.residency ▸ Nat.le_refl _
  current := by
    rw [h.charge]
    exact fun cache hcache => .inl ⟨cache, hcache, .refl cache⟩
  faithful hturn := by
    constructor
    · rw [h.charge, h.expected]
      exact hturn.valid
    · rw [h.charge, h.residency]
      exact hturn.fresh
    · rw [h.charge, h.source]
      exact hturn.source
    rw [h.charge, h.residency]
    intro eff heff
    obtain hmem | hplain := h.effects eff heff
    · exact hturn.effects eff hmem
    · exact ScreenEffect.labelled_of_plain hplain

/-! ## The ladder keeps books -/

section Books

variable (turn : ScreenTurn) (sid : SessionId)

theorem books_emit {eff : ScreenEffect} (h : eff.plain = true) :
    BooksOnly turn (turn.emit eff) := by
  refine ⟨rfl, rfl, rfl, rfl, ?_⟩
  intro effect' heff'
  obtain hmem | hlast := List.mem_append.mp heff'
  · exact .inl hmem
  · rw [List.mem_singleton.mp hlast]
    exact .inr h

theorem books_withRepair (repair : SnapshotRepairState) : BooksOnly turn (turn.withRepair repair) :=
  ⟨rfl, rfl, rfl, rfl, fun _ h => .inl h⟩

theorem books_schedule (due : Deadline) : BooksOnly turn (turn.schedule due) :=
  ⟨rfl, rfl, rfl, rfl, fun _ h => .inl h⟩

theorem books_clearHold : BooksOnly turn turn.clearHold := ⟨rfl, rfl, rfl, rfl, fun _ h => .inl h⟩

theorem books_resetChunks : BooksOnly turn turn.resetChunks :=
  ⟨rfl, rfl, rfl, rfl, fun _ h => .inl h⟩

theorem books_completeRepair : BooksOnly turn turn.completeRepair :=
  ⟨rfl, rfl, rfl, rfl, fun _ h => .inl h⟩

theorem books_armChunkTimer : BooksOnly turn (turn.armChunkTimer sid) :=
  ⟨rfl, rfl, rfl, rfl, fun _ h => .inl h⟩

theorem books_startSnapshotRequest (reason : String) :
    BooksOnly turn (turn.startSnapshotRequest sid reason) := by
  unfold startSnapshotRequest
  split
  · exact .refl turn
  dsimp only
  split
  · exact .refl turn
  · exact (((books_withRepair turn _).trans (books_withRepair _ _)).trans
      (books_schedule _ _)).trans (books_emit _ rfl)

theorem books_requestResync (reason : String) (retry : Bool) :
    BooksOnly turn (turn.requestResync sid reason retry) := by
  unfold requestResync
  split
  · exact .refl turn
  split
  · exact .refl turn
  have hlatched : BooksOnly turn
      { turn with screen := { turn.screen with resyncLatched := true } } :=
    ⟨rfl, rfl, rfl, rfl, fun _ h => .inl h⟩
  exact hlatched.trans (books_startSnapshotRequest _ _ _)

theorem books_retry (reason : String) : BooksOnly turn (turn.retry sid reason) := by
  unfold retry
  split
  · exact .refl turn
  · exact books_requestResync turn sid reason true

theorem books_latch (reason : String) : BooksOnly turn (turn.latch sid reason) :=
  books_requestResync turn sid reason false

theorem books_fire (nowMs : Nat) (due : Deadline) : BooksOnly turn (turn.fire nowMs due) := by
  cases due with
  | baseline =>
    simp only [fire, onBaselineDeadline]
    split
    · exact .refl turn
    · split
      · exact books_withRepair turn _
      · exact (books_withRepair turn _).trans (books_latch _ _ _)
  | chunk =>
    simp only [fire, onChunkDeadline]
    split
    · exact .refl turn
    split
    · exact ⟨rfl, rfl, rfl, rfl, fun _ h => .inl h⟩
    · apply BooksOnly.trans _ (books_retry _ _ _)
      exact ⟨rfl, rfl, rfl, rfl, fun _ h => .inl h⟩
  | request =>
    simp only [fire, onRequestDeadline]
    split
    · exact .refl turn
    split
    · exact books_withRepair turn _
    · split
      · exact (books_withRepair turn _).trans (books_startSnapshotRequest _ _ _)
      · exact (books_withRepair turn _).trans (books_emit _ rfl)

end Books

/-! ## What the cache can become -/

theorem turned_dropCache (turn : ScreenTurn) : Turned sid turn turn.dropCache := by
  have hcur : ∀ cache ∈ turn.dropCache.screen.charge.current,
      cache ∈ turn.screen.charge.current := by
    intro cache hcache
    unfold dropCache at hcache
    obtain ⟨_, he⟩ | ⟨_, -, -, he⟩ | ⟨_, -, -, -, -, he⟩ | ⟨_, -, -, -, he⟩ :=
      dropCache_cases turn.residency turn.screen.charge
    all_goals
      rw [he] at hcache
      first
        | exact hcache
        | cases hcache
  have hnext : turn.dropCache.residency.nextGeneration = turn.residency.nextGeneration :=
    dropCache_nextGeneration turn.residency turn.screen.charge
  constructor
  · rfl
  · exact dropCache_balanced
  · exact hnext.ge
  · exact fun cache hcache => .inl ⟨cache, hcur cache hcache, .refl cache⟩
  intro hturn
  constructor
  · exact fun cache hcache => hturn.valid cache (hcur cache hcache)
  · rw [hnext]
    exact fun cache hcache => hturn.fresh cache (hcur cache hcache)
  · intro source hsource
    cases hsource
  rw [hnext]
  intro eff heff
  have hlabel := hturn.effects eff heff
  cases eff with
  | delta =>
    obtain ⟨howner, holder, hcached⟩ := hlabel
    exact ⟨howner, holder, fun cache hcache => hcached cache (hcur cache hcache)⟩
  | _ => exact hlabel

theorem turned_markInvalid (turn : ScreenTurn) : Turned sid turn turn.markInvalid := by
  have hcur : ∀ cache' ∈ turn.markInvalid.screen.charge.current,
      ∃ cache ∈ turn.screen.charge.current, cache' = { cache with valid := false } := by
    intro cache' hcache'
    obtain ⟨cache, hcache, rfl⟩ := Option.map_eq_some_iff.mp hcache'
    exact ⟨cache, hcache, rfl⟩
  constructor
  · rfl
  · intro _
    apply Balanced.of_charge
    · cases hheld : turn.screen.charge.current with
      | none | some =>
        simp [markInvalid, hheld, rows, currentRows, pinnedRows]
    · cases hheld : turn.screen.charge.current with
      | none | some =>
        simp [markInvalid, hheld, spans, currentSpans, pinnedSpans]
  · exact Nat.le_refl _
  · intro cache' hcache'
    obtain ⟨cache, hcache, rfl⟩ := hcur cache' hcache'
    refine .inl ⟨cache, hcache, rfl, rfl, ?_⟩
    intro hvalid
    cases hvalid
  intro hturn
  constructor
  · intro cache' hcache' hvalid
    obtain ⟨_, _, rfl⟩ := hcur cache' hcache'
    cases hvalid
  · intro cache' hcache'
    obtain ⟨cache, hcache, rfl⟩ := hcur cache' hcache'
    exact hturn.fresh cache hcache
  · intro source hsource cache' hcache'
    obtain ⟨cache, hcache, rfl⟩ := hcur cache' hcache'
    exact hturn.source source hsource cache hcache
  intro eff heff
  have hlabel := hturn.effects eff heff
  cases eff with
  | delta =>
    obtain ⟨howner, holder, hcached⟩ := hlabel
    refine ⟨howner, holder, ?_⟩
    intro cache' hcache'
    obtain ⟨cache, hcache, rfl⟩ := hcur cache' hcache'
    exact hcached cache hcache
  | _ => exact hlabel

/-- The screen after the pool took the next version. -/
def installed (turn : ScreenTurn) (frame : CellGridFrame) (coordRecvMs : UInt64)
    (rows spans : Nat) : ScreenTurn :=
  let (residency, charge, _) :=
    turn.residency.replace turn.screen.charge frame coordRecvMs rows spans
  { turn with
    residency, screen := { turn.screen with charge, source := none, resyncLatched := false } }

theorem turned_installed {frame : CellGridFrame} {coordRecvMs : UInt64} {rows spans : Nat}
    {want : ExpectedStream} (hexpect : turn.screen.expected = some want)
    (hmatches : want.Matches frame)
    (hkept : (turn.residency.replace turn.screen.charge frame coordRecvMs rows spans).2.2 = true) :
    Turned sid turn (turn.installed frame coordRecvMs rows spans) := by
  obtain ⟨hcur, hnext⟩ := replace_installs hkept
  have hheld : ∀ cache' ∈ (turn.installed frame coordRecvMs rows spans).screen.charge.current,
      cache' = ResidentCache.new turn.residency.nextGeneration frame coordRecvMs rows spans := by
    intro cache' hcache'
    exact (Option.some.inj (hcur.symm.trans hcache')).symm
  have hafter : (turn.installed frame coordRecvMs rows spans).residency.nextGeneration =
      turn.residency.nextGeneration + 1 := hnext
  constructor
  · rfl
  · exact replace_balanced
  · exact hafter ▸ Nat.le_succ _
  · intro cache' hcache'
    rw [hheld cache' hcache']
    exact .inr (Nat.le_refl _)
  intro hturn
  constructor
  · intro cache' hcache' _
    rw [hheld cache' hcache']
    exact ⟨want, hexpect, hmatches⟩
  · intro cache' hcache'
    rw [hheld cache' hcache', hafter]
    exact Nat.lt_succ_self _
  · intro source hsource
    cases hsource
  intro eff heff
  have hlabel := hturn.effects eff heff
  cases eff with
  | delta =>
    obtain ⟨howner, holder, -⟩ := hlabel
    refine ⟨howner, hafter.symm ▸ Nat.lt_succ_of_lt holder, ?_⟩
    intro cache' hcache' hgen
    -- The version the delta produced is older than the one just installed.
    rw [hheld cache' hcache'] at hgen
    exact absurd holder (by simp [← hgen, ResidentCache.new])
  | _ => exact hlabel

/-! ## Sources and seeds -/

theorem planCache_eq_ok {sizes : Sizes} {sid : SessionId} {cache : ResidentCache}
    {source : ResidentSnapshotSource}
    (h : ResidentSnapshotSource.planCache sizes sid cache = .ok source) :
    source.generation = cache.generation ∧ source.plan.frame.streamId = cache.frame.streamId := by
  simp only [ResidentSnapshotSource.planCache, cellFrameToProto, createCellGridSnapshotSource,
    bind_eq_ok, mapError_eq_ok, ok.injEq] at h
  obtain ⟨_, ⟨-, -, -, -, rfl⟩, _, ⟨-, -, hplan⟩, rfl⟩ := h
  refine ⟨rfl, ?_⟩
  split at hplan
  · cases hplan
    rfl
  · simp only [bind_eq_ok, ok.injEq] at hplan
    obtain ⟨_, -, rfl⟩ := hplan
    rfl

theorem seedSource_cases (sizes : Sizes) (turn : ScreenTurn) (sid : SessionId) :
    Turned sid turn (turn.seedSource sizes sid).1 ∧
      (turn.seedSource sizes sid).1.screen.charge = turn.screen.charge ∧
      (turn.seedSource sizes sid).1.residency = turn.residency ∧
      (turn.Faithful sid → ∀ source ∈ (turn.seedSource sizes sid).2,
        ∃ cache ∈ turn.screen.charge.current,
          source.plan.frame.streamId = cache.frame.streamId) := by
  unfold seedSource
  split
  · exact ⟨.refl turn, rfl, rfl, fun _ _ h => by cases h⟩
  rename_i cache hcache
  split
  · rename_i source hsource
    obtain ⟨hsource, hgen⟩ := Option.filter_eq_some_iff.mp hsource
    refine ⟨.refl turn, rfl, rfl, ?_⟩
    intro hturn source' hsource'
    cases hsource'
    exact ⟨cache, hcache, hturn.source source hsource cache hcache (by simpa using hgen)⟩
  split
  · rename_i hplan
    obtain ⟨_, hstr⟩ := planCache_eq_ok hplan
    refine ⟨?_, rfl, rfl, ?_⟩
    · refine ⟨rfl, fun _ => .refl, Nat.le_refl _, ?_, ?_⟩
      · exact fun cache' hcache' => .inl ⟨cache', hcache', .refl cache'⟩
      intro hturn
      refine ⟨hturn.valid, hturn.fresh, ?_, hturn.effects⟩
      intro source' hsource' cache' hcache' _
      cases hsource'
      cases hcache.symm.trans hcache'
      exact hstr
    · intro _ source' hsource'
      cases hsource'
      exact ⟨cache, hcache, hstr⟩
  · exact ⟨(books_emit turn rfl).turned, rfl, rfl, fun _ _ h => by cases h⟩

theorem turned_seedSource (sizes : Sizes) (turn : ScreenTurn) (sid : SessionId) :
    Turned sid turn (turn.seedSource sizes sid).1 :=
  (seedSource_cases sizes turn sid).1

theorem Turned.owe (h : Turned sid turn turn') {owed : List ScreenEffect}
    (howed : turn.Faithful sid → ∀ eff ∈ owed,
      eff.Labelled sid turn'.residency.nextGeneration turn'.screen.charge.current) :
    Turned sid turn { turn' with effects := turn'.effects ++ owed } := by
  refine ⟨h.expected, h.balanced, h.next, h.current, ?_⟩
  intro hturn
  have hturn' := h.faithful hturn
  refine ⟨hturn'.valid, hturn'.fresh, hturn'.source, ?_⟩
  intro eff heff
  obtain hmem | hmem := List.mem_append.mp heff
  · exact hturn'.effects eff hmem
  · exact howed hturn eff hmem

section Admission

variable (sizes : Sizes) (sid : SessionId) (watchers : List Watcher)

theorem turned_seedWatchers {streamId : String}
    (hstr : ∀ cache ∈ turn.screen.charge.current, cache.frame.streamId = streamId) :
    Turned sid turn (turn.seedWatchers sizes sid watchers streamId) := by
  unfold seedWatchers
  split
  · exact .refl turn
  obtain ⟨hturned, -, -, hsource⟩ := seedSource_cases sizes turn sid
  rcases hseed : turn.seedSource sizes sid with ⟨seeded, source⟩
  rw [hseed] at hturned hsource
  cases source with
  | none => exact hturned
  | some source =>
    apply hturned.owe
    intro hturn eff heff
    obtain ⟨_, -, rfl⟩ := List.mem_map.mp heff
    obtain ⟨cache, hcache, hlabel⟩ := hsource hturn source rfl
    exact hlabel.trans (hstr cache hcache)

variable {frame : CellGridFrame} {spans : Nat} {expected : ExpectedStream} {proto : PbCellGridFrame}
  {coordRecvMs : UInt64}

theorem installCache_cases (turn : ScreenTurn)
    (hexpect : turn.screen.expected = some expected) :
    (turn.residency.canReplace turn.screen.charge frame.rows.toNat spans = false ∧
      turn.installCache sizes sid watchers frame spans coordRecvMs =
        turn.dropCache.emit (.unavailable sid capacityExceeded)) ∨
    (turn.residency.canReplace turn.screen.charge frame.rows.toNat spans = true ∧
      (turn.residency.replace turn.screen.charge frame coordRecvMs frame.rows.toNat spans).2.2 =
        false ∧ turn.installCache sizes sid watchers frame spans coordRecvMs = turn) ∨
    ((turn.residency.replace turn.screen.charge frame coordRecvMs frame.rows.toNat spans).2.2 =
        true ∧ turn.installCache sizes sid watchers frame spans coordRecvMs =
        ((turn.installed frame coordRecvMs frame.rows.toNat spans).emit
          (.fullAccepted sid expected.streamId)).seedWatchers sizes sid watchers
            expected.streamId) := by
  cases hcan : turn.residency.canReplace turn.screen.charge frame.rows.toNat spans with
  | false => exact .inl ⟨rfl, by simp only [installCache, hcan, Bool.not_false, if_true]⟩
  | true =>
    refine .inr ?_
    cases hkept : (turn.residency.replace turn.screen.charge frame coordRecvMs frame.rows.toNat
        spans).2.2 with
    | false =>
      refine .inl ⟨rfl, rfl, ?_⟩
      simp only [installCache, hcan, Bool.not_true, Bool.false_eq_true, if_false,
        replace_refused hkept]
    | true =>
      refine .inr ⟨rfl, ?_⟩
      obtain ⟨-, -, hreplays⟩ := replace_eq_true hkept
      simp only [installCache, installed, hcan, hreplays, hexpect, Bool.not_true,
        Bool.false_eq_true, if_false]

theorem turned_installCache (hexpect : turn.screen.expected = some expected)
    (hmatches : expected.Matches frame) :
    Turned sid turn (turn.installCache sizes sid watchers frame spans coordRecvMs) := by
  obtain ⟨-, he⟩ | ⟨-, -, he⟩ | ⟨hkept, he⟩ :=
    installCache_cases sizes sid watchers turn hexpect
  · rw [he]
    exact (turned_dropCache turn).trans (books_emit _ rfl).turned
  · rw [he]
    exact .refl turn
  rw [he]
  refine ((turned_installed hexpect hmatches hkept).trans (books_emit _ rfl).turned).trans
    (turned_seedWatchers _ _ _ ?_)
  intro cache hcache
  cases (replace_installs hkept).1.symm.trans hcache
  exact hmatches.streamId

theorem validatedFull_matches {assembled : Bool}
    (h : validatedFull sizes proto expected assembled = .ok (frame, spans))
    (hstr : proto.streamId = expected.streamId) : expected.Matches frame := by
  simp only [validatedFull, ite_error_eq_ok, bind_eq_ok, mapError_eq_ok,
    not_or, not_not, ok.injEq, Prod.mk.injEq] at h
  obtain ⟨-, _, -, hgeom, _, hdec, rfl, -⟩ := h
  simp only [protoToCellFrame, bind_eq_ok, ok.injEq] at hdec
  obtain ⟨_, -, _, -, _, -, _, -, _, -, _, -, rfl⟩ := hdec
  exact ⟨hstr, hgeom.1, hgeom.2⟩

theorem turned_acceptFull (proto : PbCellGridFrame) (assembled : Bool) :
    Turned sid turn (turn.acceptFull sizes sid watchers proto assembled) := by
  unfold acceptFull
  split
  · exact .refl turn
  rename_i hexpect
  split
  · exact .refl turn
  rename_i hstr
  split
  · rename_i hvalid
    exact (books_completeRepair turn).turned.trans (turned_installCache _ _ _ hexpect
      (validatedFull_matches sizes hvalid (not_not.mp hstr)))
  · exact (books_retry turn sid _).turned

theorem foldedDelta_matches {cache : ResidentCache} {folded : CellGridFrame}
    (h : foldedDelta sizes proto cache expected = .ok folded)
    (hstr : proto.streamId = expected.streamId) : expected.Matches folded := by
  simp only [foldedDelta, ite_error_eq_ok, bind_eq_ok, mapError_eq_ok, not_or, not_not] at h
  obtain ⟨⟨hfull, -, -, -, hcols, hrows⟩, -, _, hdelta, h⟩ := h
  simp only [protoToCellFrame, bind_eq_ok, ok.injEq] at hdelta
  obtain ⟨_, -, _, -, _, -, _, -, _, -, _, -, rfl⟩ := hdelta
  split at h
  · cases h
  rename_i happly
  simp only [ite_error_eq_ok, ok.injEq] at h
  obtain ⟨-, rfl⟩ := h
  obtain ⟨-, -, rfl⟩ := (CellGridFrame.applyDelta_eq_some (by simpa using hfull)).mp happly
  exact ⟨hstr, hcols, hrows⟩

theorem replaceFolded_cases (turn : ScreenTurn) (folded : CellGridFrame) (coordRecvMs : UInt64) :
    ((turn.residency.replace turn.screen.charge folded coordRecvMs folded.rows.toNat
        (viewportSpans folded)).2.2 = false ∧
      turn.replaceFolded folded coordRecvMs = (turn, none)) ∨
    ((turn.residency.replace turn.screen.charge folded coordRecvMs folded.rows.toNat
        (viewportSpans folded)).2.2 = true ∧ ∃ replaced, turn.replaceFolded folded coordRecvMs =
          (replaced, some turn.residency.nextGeneration) ∧
        turn.installed folded coordRecvMs folded.rows.toNat (viewportSpans folded) = { replaced with
            screen := { replaced.screen with source := none, resyncLatched := false } }) := by
  cases hkept : (turn.residency.replace turn.screen.charge folded coordRecvMs folded.rows.toNat
      (viewportSpans folded)).2.2 with
  | false =>
    refine .inl ⟨rfl, ?_⟩
    unfold replaceFolded
    dsimp only
    split
    · rfl
    · simp only [replace_refused hkept, Bool.false_eq_true, if_false]
  | true =>
    obtain ⟨hcan, -, -⟩ := replace_eq_true hkept
    obtain ⟨hcur, -⟩ := replace_installs hkept
    refine .inr ⟨rfl, { turn with
        residency := (turn.residency.replace turn.screen.charge folded coordRecvMs
          folded.rows.toNat (viewportSpans folded)).1
        screen :=
          { turn.screen with
            charge := (turn.residency.replace turn.screen.charge folded coordRecvMs
              folded.rows.toNat (viewportSpans folded)).2.1 } }, ?_, rfl⟩
    simp only [replaceFolded, hcan, hkept, hcur, Bool.not_true, Bool.false_eq_true, if_false,
      if_true, Option.map_some, ResidentCache.new]

theorem acceptDelta_cases (turn : ScreenTurn) (hexpect : turn.screen.expected = some expected)
    (hstr : proto.streamId = expected.streamId) :
    (turn.screen.charge.current.filter ResidentCache.valid = none ∧
      turn.acceptDelta sizes sid watchers proto =
        turn.latch sid "terminal delta arrived before a complete baseline") ∨
    (∃ reason, turn.screen.hasValidCache = true ∧
      turn.acceptDelta sizes sid watchers proto = turn.refuseDelta sid reason) ∨
    ∃ cache folded, turn.screen.charge.current.filter ResidentCache.valid = some cache ∧
      foldedDelta sizes proto cache expected = .ok folded ∧
      (turn.residency.replace turn.screen.charge folded proto.coordRecvMs folded.rows.toNat
        (viewportSpans folded)).2.2 = true ∧ turn.acceptDelta sizes sid watchers proto =
        { turn.installed folded proto.coordRecvMs folded.rows.toNat (viewportSpans folded) with
          effects := turn.effects ++ watchers.map fun watcher =>
              .delta watcher sid expected.streamId proto turn.residency.nextGeneration } := by
  cases hcache : turn.screen.charge.current.filter ResidentCache.valid with
  | none =>
    refine .inl ⟨rfl, ?_⟩
    simp only [acceptDelta, hexpect, hstr, ne_eq, not_true_eq_false, if_false, hcache]
  | some cache =>
    have hvalid : turn.screen.hasValidCache = true := by
      obtain ⟨hcur, hvalid⟩ := Option.filter_eq_some_iff.mp hcache
      simp [SessionScreen.hasValidCache, hcur, hvalid]
    refine .inr ?_
    cases hfolded : foldedDelta sizes proto cache expected with
    | error reason =>
      refine .inl ⟨reason, hvalid, ?_⟩
      simp only [acceptDelta, hexpect, hstr, ne_eq, not_true_eq_false, if_false, hcache, hfolded]
    | ok folded =>
      obtain ⟨-, hreplays⟩ | ⟨hkept, replaced, hreplays, hinst⟩ :=
        replaceFolded_cases turn folded proto.coordRecvMs
      · refine .inl ⟨capacityExceeded, hvalid, ?_⟩
        simp only [acceptDelta, hexpect, hstr, ne_eq, not_true_eq_false, if_false, hcache,
          hfolded, hreplays]
      refine .inr ⟨cache, folded, rfl, hfolded, hkept, ?_⟩
      have heffects : replaced.effects = turn.effects := by
        have := congrArg ScreenTurn.effects hinst
        exact this.symm
      simp only [acceptDelta, hexpect, hstr, ne_eq, not_true_eq_false, if_false, hcache,
        hfolded, hreplays, hinst, heffects]

theorem turned_acceptDelta (proto : PbCellGridFrame) :
    Turned sid turn (turn.acceptDelta sizes sid watchers proto) := by
  cases hexpect : turn.screen.expected with
  | none =>
    simp only [acceptDelta, hexpect]
    exact .refl turn
  | some want =>
    by_cases hstr : proto.streamId = want.streamId
    · obtain ⟨-, he⟩ | ⟨reason, -, he⟩ | ⟨_, _, -, hfolded, hkept, he⟩ :=
        acceptDelta_cases sizes sid watchers turn hexpect hstr
      · rw [he]
        exact (books_latch turn sid _).turned
      · rw [he]
        exact (turned_markInvalid turn).trans (books_latch _ sid reason).turned
      rw [he]
      have hmatches := foldedDelta_matches sizes hfolded hstr
      obtain ⟨hcur, hnext⟩ := replace_installs hkept
      apply (turned_installed hexpect hmatches hkept).owe
      intro _ eff heff
      obtain ⟨_, -, rfl⟩ := List.mem_map.mp heff
      refine ⟨rfl, ?_, ?_⟩
      · exact hnext.symm ▸ Nat.lt_succ_self _
      · intro cache' hcache' _
        cases hcur.symm.trans hcache'
        exact hmatches.streamId
    · simp only [acceptDelta, hexpect, ne_eq, hstr, not_false_eq_true, if_true]
      exact .refl turn

theorem turned_replayDeltas (deltas : List PbCellGridFrame) (turn : ScreenTurn) :
    Turned sid turn (replayDeltas sizes sid watchers turn deltas) := by
  induction deltas generalizing turn with
  | nil => exact .refl turn
  | cons delta rest ih =>
    unfold replayDeltas
    split
    · exact .refl turn
    · split
      · exact (turned_acceptDelta sizes sid watchers delta).trans (ih _)
      · exact ih turn

theorem turned_replayHeldDeltas (turn : ScreenTurn) :
    Turned sid turn (turn.replayHeldDeltas sizes sid watchers) := by
  have hhold (hold : TerminalAssemblyHold) :
      BooksOnly turn { turn with screen := { turn.screen with hold } } :=
    ⟨rfl, rfl, rfl, rfl, fun _ h => .inl h⟩
  exact (hhold _).turned.trans (turned_replayDeltas sizes sid watchers _ _)

theorem admitFrame_cases (turn : ScreenTurn) (frame : PbCellGridFrame)
    (hexpect : turn.screen.expected = some expected) :
    (turn.screen.assembling = true ∧ frame.full = false ∧ ∃ hold,
      admitFrame sizes sid frame expected watchers turn =
        { turn with screen := { turn.screen with hold } }) ∨
    (turn.screen.assembling = true ∧ (frame.full = true → frame.streamId ≠ expected.streamId) ∧
      admitFrame sizes sid frame expected watchers turn =
        turn.clearHold.resetChunks.retry sid "ordinary frame interrupted chunk assembly") ∨
    (turn.screen.assembling = true ∧ frame.full = true ∧ frame.streamId = expected.streamId ∧
      admitFrame sizes sid frame expected watchers turn =
        turn.clearHold.resetChunks.acceptFull sizes sid watchers frame false) ∨
    (turn.screen.assembling = false ∧ frame.full = true ∧
      admitFrame sizes sid frame expected watchers turn =
        turn.acceptFull sizes sid watchers frame false) ∨
    (turn.screen.assembling = false ∧ frame.full = false ∧
      admitFrame sizes sid frame expected watchers turn =
        turn.acceptDelta sizes sid watchers frame) := by
  cases hasm : turn.screen.assembling with
  | false =>
    cases hfull : frame.full with
    | false =>
      refine .inr (.inr (.inr (.inr ⟨rfl, rfl, ?_⟩)))
      simp only [admitFrame, hasm, hfull, Bool.false_eq_true, if_false]
    | true =>
      refine .inr (.inr (.inr (.inl ⟨rfl, rfl, ?_⟩)))
      simp only [admitFrame, hasm, hfull, Bool.false_eq_true, if_false, if_true]
  | true =>
    cases hfull : frame.full with
    | false =>
      cases hheld : (turn.screen.hold.push sizes frame).2 with
      | true =>
        refine .inl ⟨rfl, rfl, (turn.screen.hold.push sizes frame).1, ?_⟩
        simp only [admitFrame, hasm, hfull, hheld, Bool.false_eq_true, if_false, if_true]
      | false =>
        refine .inr (.inl ⟨rfl, (fun hnever => by cases hnever), ?_⟩)
        simp only [admitFrame, hasm, hfull, hheld, Bool.false_eq_true, if_false,
          if_true, Bool.not_false, Bool.true_or]
    | true =>
      by_cases hstr : frame.streamId = expected.streamId
      · refine .inr (.inr (.inl ⟨rfl, rfl, hstr, ?_⟩))
        simp [admitFrame, hasm, hfull, hstr]
      refine .inr (.inl ⟨rfl, fun _ => hstr, ?_⟩)
      have hskipped : (turn.clearHold.resetChunks.retry sid
          "ordinary frame interrupted chunk assembly").screen.expected = some expected :=
        (((books_clearHold turn).trans (books_resetChunks _)).trans
          (books_retry _ _ _)).expected.trans hexpect
      simp [admitFrame, hasm, hfull, hstr, acceptFull, hskipped]

theorem turned_admitFrame (turn : ScreenTurn) (frame : PbCellGridFrame) (hexpect : turn.screen.expected = some expected) :
    Turned sid turn (admitFrame sizes sid frame expected watchers turn) := by
  have hreset : BooksOnly turn turn.clearHold.resetChunks :=
    (books_clearHold turn).trans (books_resetChunks _)
  obtain ⟨-, -, _, he⟩ | ⟨-, -, he⟩ | ⟨-, -, -, he⟩ | ⟨-, -, he⟩ | ⟨-, -, he⟩ :=
    admitFrame_cases sizes sid watchers turn frame hexpect
  · rw [he]
    exact BooksOnly.turned ⟨rfl, rfl, rfl, rfl, fun _ h => .inl h⟩
  · rw [he]
    exact (hreset.trans (books_retry _ _ _)).turned
  · rw [he]
    exact hreset.turned.trans (turned_acceptFull _ _ _ _ _)
  · rw [he]
    exact turned_acceptFull _ _ _ _ _
  · rw [he]
    exact turned_acceptDelta _ _ _ _

/-- The screen after a part was taken into a transfer: its stall deadline is armed anew, and
the first part of one is the answer a snapshot request waited for. -/
def tookPart (turn : ScreenTurn) (chunks : ChunkState) : ScreenTurn :=
  let taken : ScreenTurn := { turn with screen := { turn.screen with chunks } }
  (if !turn.screen.assembling then taken.cancelRequestTimer true else taken).armChunkTimer
    sid

theorem books_tookPart (turn : ScreenTurn) (chunks : ChunkState) :
    BooksOnly turn (turn.tookPart sid chunks) := by
  have htaken : BooksOnly turn { turn with screen := { turn.screen with chunks } } :=
    ⟨rfl, rfl, rfl, rfl, fun _ h => .inl h⟩
  unfold tookPart
  split
  · exact (htaken.trans (books_withRepair _ _)).trans (books_armChunkTimer _ sid)
  · exact htaken.trans (books_armChunkTimer _ sid)

theorem admitChunk_cases (turn : ScreenTurn) (chunk : PbCellGridChunk) (receivedAtMs : UInt64)
    (nowMs : Nat) {stamped : ChunkState × PbCellGridChunk}
    (hstamp : stampTerminalSnapshotReceipt turn.screen.chunks chunk receivedAtMs = stamped) :
    (∃ assembler error, stamped.1.assembler.push sizes stamped.2 nowMs = (assembler, .error error) ∧
      admitChunk sizes sid chunk receivedAtMs nowMs watchers turn =
        (turn.clearHold.resetChunks.retry sid error.reason, false)) ∨
    (∃ assembler snapshotId nextChunkIndex, stamped.1.assembler.push sizes stamped.2 nowMs =
        (assembler, .ok (.pending snapshotId nextChunkIndex)) ∧
      admitChunk sizes sid chunk receivedAtMs nowMs watchers turn =
        (turn.tookPart sid { stamped.1 with assembler }, false)) ∨
    ∃ assembler snapshotId frame, stamped.1.assembler.push sizes stamped.2 nowMs =
        (assembler, .ok (.complete snapshotId frame)) ∧
      admitChunk sizes sid chunk receivedAtMs nowMs watchers turn =
        ((turn.tookPart sid { stamped.1 with assembler }).resetChunks.acceptFull sizes
          sid watchers frame true, true) := by
  rcases hpush : stamped.1.assembler.push sizes stamped.2 nowMs with ⟨assembler, result⟩
  cases result with
  | error error =>
    refine .inl ⟨assembler, error, rfl, ?_⟩
    simp only [admitChunk, hstamp, hpush]
    rfl
  | ok assembly =>
    cases assembly with
    | pending snapshotId nextChunkIndex =>
      refine .inr (.inl ⟨assembler, snapshotId, nextChunkIndex, rfl, ?_⟩)
      simp only [admitChunk, hstamp, hpush]
      rfl
    | complete snapshotId frame =>
      refine .inr (.inr ⟨assembler, snapshotId, frame, rfl, ?_⟩)
      simp only [admitChunk, hstamp, hpush]
      rfl

theorem turned_admitChunk (turn : ScreenTurn) (chunk : PbCellGridChunk) (receivedAtMs : UInt64)
    (nowMs : Nat) : Turned sid turn
      (admitChunk sizes sid chunk receivedAtMs nowMs watchers turn).1 := by
  obtain ⟨_, _, -, he⟩ | ⟨_, _, _, -, he⟩ | ⟨_, _, _, -, he⟩ :=
    admitChunk_cases sizes sid watchers turn chunk receivedAtMs nowMs rfl
  · rw [he]
    exact (((books_clearHold turn).trans (books_resetChunks _)).trans (books_retry _ _ _)).turned
  · rw [he]
    exact (books_tookPart sid turn _).turned
  · rw [he]
    exact ((books_tookPart sid turn _).trans (books_resetChunks _)).turned.trans
      (turned_acceptFull _ _ _ _ _)

end Admission

end ScreenTurn
end Roost.Coord
