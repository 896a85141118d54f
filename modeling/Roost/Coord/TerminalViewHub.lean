-- SUMMARY: The view hub: the size each session's PTY runs at.
import Roost.Protocol.TerminalView.Binding
import Roost.Protocol.TerminalView.Ownership

/-!
# The terminal view hub

The hub hosts the view registry and one aggregation over it. Every call goes to the
registry; the sessions it reports as changed are then minimized again, at the clock of the
call. An empty minimum holds the last size. The frames and sink calls of an outcome leave
the hub and are not part of its state.
-/

namespace Roost

open Transducer

instance : LinearOrder SessionId :=
  LinearOrder.lift' SessionId.value fun _ _ => SessionId.ext

namespace Coord

open TerminalView

/-- Nothing moved and nothing is owed. -/
def isEmpty (outcome : MembershipOutcome) : Bool :=
  decide (outcome.changed = ∅) && outcome.replies.isEmpty && outcome.calls.isEmpty

/-- The view state one coordinator process holds. -/
structure TerminalViewHub where
  registry : ViewRegistry := {}
  /-- The size each session's PTY runs at. -/
  effective : Table SessionId TerminalGeometry := ∅

namespace TerminalViewHub

variable (hub : TerminalViewHub)

def new : TerminalViewHub := {}

/-- Recompute a session's effective geometry, reporting the size it now runs at. Empty
input holds the last one. -/
def recompute (sessionId : SessionId) (nowMs : Nat) : TerminalViewHub × Option TerminalGeometry :=
  let live := (hub.registry.geometrySet sessionId nowMs).live
  match (minimumTerminalGeometry live).toOption.join with
  | some geometry =>
    if hub.effective.lookup sessionId ≠ some geometry then
      ({ hub with effective := hub.effective.insert sessionId geometry }, some geometry)
    else (hub, some geometry)
  | none => (hub, hub.effective.lookup sessionId)

/-- Apply one membership decision: recompute what moved. -/
def settle (outcome : MembershipOutcome) (nowMs : Nat) : TerminalViewHub :=
  if isEmpty outcome then hub
  else (Index.ascending outcome.changed).foldl
    (fun hub sessionId => (hub.recompute sessionId nowMs).1) hub

/-- A session closed: the size its PTY ran at goes with it. -/
def forget : Op → TerminalViewHub
  | .closeSession sessionId => { hub with effective := hub.effective.erase sessionId }
  | _ => hub

/-- The hub over the calls of a run. -/
def machine : Transducer TerminalViewHub Event MembershipOutcome where
  step hub event :=
    let (registry, outcome) := TerminalView.machine.step hub.registry event
    ((forget { hub with registry } event.1).settle outcome event.2, outcome)

/-! ## What settling does -/

/-- The size a recompute finds. -/
def candidate (registry : ViewRegistry) (sessionId : SessionId) (nowMs : Nat) :
    Option TerminalGeometry :=
  (minimumTerminalGeometry (registry.geometrySet sessionId nowMs).live).toOption.join

variable {hub} {sid : SessionId} {nowMs : Nat}

theorem recompute_registry : (hub.recompute sid nowMs).1.registry = hub.registry := by
  unfold recompute
  dsimp only
  split
  · split <;> rfl
  · rfl

theorem recompute_effective (other : SessionId) :
    (hub.recompute sid nowMs).1.effective.lookup other = if other = sid then
        (candidate hub.registry other nowMs).or (hub.effective.lookup other)
      else hub.effective.lookup other := by
  by_cases hother : other = sid
  · subst hother
    rw [if_pos rfl]
    unfold recompute candidate
    dsimp only
    split
    · rename_i hsome
      rw [hsome, Option.some_or]
      split
      · exact AList.lookup_insert hub.effective
      · rename_i hheld
        exact not_not.mp hheld
    · rename_i hnone
      rw [hnone, Option.none_or]
  · rw [if_neg hother]
    unfold recompute
    dsimp only
    split
    · split
      · exact AList.lookup_insert_ne hother
      · rfl
    · rfl

theorem recomputeAll (sessions : List SessionId) (hub : TerminalViewHub) :
    (sessions.foldl (fun hub sid => (hub.recompute sid nowMs).1) hub).registry = hub.registry ∧
      ∀ other, (sessions.foldl (fun hub sid =>
          (hub.recompute sid nowMs).1) hub).effective.lookup other = if other ∈ sessions then
          (candidate hub.registry other nowMs).or (hub.effective.lookup other)
        else hub.effective.lookup other := by
  induction sessions generalizing hub with
  | nil => exact ⟨rfl, fun other => by simp⟩
  | cons first sessions ih =>
    obtain ⟨hregistry, heff⟩ := ih (hub.recompute first nowMs).1
    refine ⟨hregistry.trans recompute_registry, ?_⟩
    intro other
    rw [List.foldl_cons, heff, recompute_registry, recompute_effective]
    by_cases hfirst : other = first
    · -- The second recompute of a session finds what the first one did.
      simp only [hfirst, if_true, List.mem_cons, true_or]
      split
      · cases candidate hub.registry first nowMs <;> rfl
      · rfl
    · simp [hfirst]

theorem settle_registry (outcome : MembershipOutcome) :
    (hub.settle outcome nowMs).registry = hub.registry := by
  unfold settle
  split
  · rfl
  · exact (recomputeAll _ hub).1

theorem settle_effective (outcome : MembershipOutcome) (other : SessionId) :
    (hub.settle outcome nowMs).effective.lookup other = if other ∈ outcome.changed then
        (candidate hub.registry other nowMs).or (hub.effective.lookup other)
      else hub.effective.lookup other := by
  unfold settle
  split
  · rename_i hempty
    have hchange : outcome.changed = ∅ := by
      simp only [isEmpty, Bool.and_eq_true, decide_eq_true_eq] at hempty
      exact hempty.1.1
    simp [hchange]
  · rw [(recomputeAll _ hub).2]
    simp only [Index.mem_ascending]

theorem candidate_spec {reg : ViewRegistry} (hsound : Sound reg)
    (hne : (constraining reg sid nowMs).Nonempty) : ∃ least, candidate reg sid nowMs = some least ∧
      AxisMinimum (constraining reg sid nowMs) least := by
  have hlive : { geometry | geometry ∈ (reg.geometrySet sid nowMs).live } =
      constraining reg sid nowMs := Set.ext fun _ => mem_live_iff hsound
  obtain ⟨_, hfirst⟩ := hne
  have hspec := minimumTerminalGeometry_spec (List.ne_nil_of_mem ((mem_live_iff hsound).mpr hfirst))
    (by
      intro geometry hmem
      have hbinds := (mem_live_iff hsound).mp hmem
      obtain ⟨key, record, hrec, -, -, rfl⟩ := mem_constraining.mp hbinds
      exact (hsound.records key record hrec).geometry)
  obtain ⟨least, hleast, hmin⟩ := hspec
  refine ⟨least, ?_, hlive ▸ hmin⟩
  unfold candidate
  rw [hleast]
  rfl

/-! ## The host's value is a count of the session -/

/-- The size a session runs at is the minimum of a count of its records that was not
outdated since. -/
structure Tracked (nowMs : Nat) (hub : TerminalViewHub) : Prop where
  sound : Sound hub.registry
  lapsed : Lapsed nowMs hub.registry
  counts : ∀ sessionId, ∃ counted, Counted sessionId nowMs counted hub.registry ∧
    (counted.Nonempty → ∃ geometry, hub.effective.lookup sessionId = some geometry ∧
      AxisMinimum (Prod.snd '' counted) geometry)

variable (hub)

/-- A same-revision command of the owning socket does not make a record bind again that has
stopped binding. -/
def Steady (event : Event) : Prop :=
  ∀ record ∈ renewal? hub.registry event,
    viewConstrains record event.2 = true ∨ viewConstrains (record.renewed event.2) event.2 = false
  deriving Decidable

/-- Renewals that leave the records that bind as they are. -/
def steadyTerms (nowMs : Nat) : Terms where
  registers _ := True
  renews record :=
    viewConstrains record nowMs = true ∨ viewConstrains (record.renewed nowMs) nowMs = false

theorem machine_registry (event : Event) :
    (machine.next hub event).registry = TerminalView.machine.next hub.registry event := by
  unfold next machine
  rw [settle_registry]
  unfold forget
  split <;> rfl

theorem machine_effective (event : Event) (sid : SessionId) :
    (machine.next hub event).effective.lookup sid =
      if sid ∈ (TerminalView.machine.answer hub.registry event).changed then
        (candidate (machine.next hub event).registry sid event.2).or
          ((hub.forget event.1).effective.lookup sid)
      else (hub.forget event.1).effective.lookup sid := by
  have hforget : ∀ registry, (forget { hub with registry } event.1).effective =
      (hub.forget event.1).effective := by
    intro registry
    unfold forget
    split <;> rfl
  have hregistry : ∀ registry, (forget { hub with registry } event.1).registry = registry := by
    intro registry
    unfold forget
    split <;> rfl
  rw [machine_registry]
  unfold next answer machine
  rw [settle_effective, hforget, hregistry]

variable {hub}

theorem forget_effective {op : Op} (h : op ≠ .closeSession sid) :
    (hub.forget op).effective.lookup sid = hub.effective.lookup sid := by
  unfold forget
  split
  · rename_i closed
    rw [Table.lookup_erase, if_neg]
    intro hsame
    exact h (congrArg Op.closeSession hsame.symm)
  · rfl

theorem notMem_touched {reg : ViewRegistry} {event : Event}
    (hchange : sid ∉ (TerminalView.machine.answer reg event).changed)
    (hclosed : event.1 ≠ .closeSession sid) : sid ∉ touched reg event := by
  unfold touched
  split
  · rename_i hevent
    intro hmem
    rw [Finset.mem_singleton.mp hmem] at hclosed
    exact hclosed hevent
  · exact hchange

namespace Tracked

theorem later {laterMs : Nat} (h : Tracked nowMs hub) (hle : nowMs ≤ laterMs) :
    Tracked laterMs hub := by
  refine ⟨h.sound, h.lapsed.later hle, ?_⟩
  intro sid
  obtain ⟨counted, hcount, hmin⟩ := h.counts sid
  exact ⟨counted, hcount.later hle, hmin⟩

theorem new (nowMs : Nat) : Tracked nowMs TerminalViewHub.new := by
  refine ⟨Sound.new, Lapsed.new nowMs, ?_⟩
  intro sid
  refine ⟨∅, Counted.empty ?_, fun hne => absurd hne Set.not_nonempty_empty⟩
  intro key record hrec
  simp [TerminalViewHub.new] at hrec

/-- A steady event keeps each size the minimum of a current count. -/
theorem next {event : Event} (h : Tracked event.2 hub) (hsteady : Steady hub event) :
    Tracked event.2 (machine.next hub event) := by
  have hmoves : Moves (steadyTerms event.2) event.2 (touched hub.registry event) hub.registry
      (machine.next hub event).registry := by
    rw [machine_registry]
    exact next_moves (steadyTerms event.2) h.sound event (fun _ _ => trivial) hsteady
  have hboth := hmoves.keeps (P := fun reg => Sound reg ∧ Lapsed event.2 reg)
    (fun _ _ _ hmove _ ⟨hsound, hlapsed⟩ => ⟨hsound.move hmove, hlapsed.move hsound hmove⟩)
    ⟨h.sound, h.lapsed⟩
  obtain ⟨hsound, hlapsed⟩ := hboth
  refine ⟨hsound, hlapsed, ?_⟩
  intro sid
  rw [machine_effective]
  by_cases hchange : sid ∈ (TerminalView.machine.answer hub.registry event).changed
  · -- The session is counted afresh.
    refine ⟨_, Counted.afresh hlapsed, ?_⟩
    intro hne
    obtain ⟨least, hcand, hmin⟩ := candidate_spec hsound (hne.image Prod.snd)
    refine ⟨least, ?_, hmin⟩
    rw [if_pos hchange, hcand, Option.some_or]
  rw [if_neg hchange]
  by_cases hclosed : event.1 = .closeSession sid
  · refine ⟨∅, Counted.empty ?_, fun hne => absurd hne Set.not_nonempty_empty⟩
    obtain ⟨_, _⟩ := event
    cases hclosed
    rw [machine_registry]
    exact closeSession_foreign h.sound sid
  obtain ⟨counted, hcount, hmin⟩ := h.counts sid
  refine ⟨counted, ?_, ?_⟩
  · refine hcount.moves h.sound hmoves (notMem_touched hchange hclosed) ?_
    intro record hrenews hbinds
    rcases hrenews with hstill | hnever
    · exact hstill
    · rw [hnever] at hbinds
      cases hbinds
  · rw [forget_effective hclosed]
    exact hmin

end Tracked

theorem tracked_run {events : List Event}
    (hsteady : machine.Along Steady TerminalViewHub.new events)
    (hclock : (events.map Prod.snd).Pairwise (· ≤ ·)) (nowMs : Nat)
    (hnow : ∀ event ∈ events, event.2 ≤ nowMs) :
    Tracked nowMs (machine.run TerminalViewHub.new events) := by
  have hrun := hsteady.history (P := fun past hub => (past.map Prod.snd).Pairwise (· ≤ ·) →
      ∀ nowMs, (∀ event ∈ past, event.2 ≤ nowMs) → Tracked nowMs hub)
    (fun _ nowMs _ => Tracked.new nowMs) ?_
  · exact hrun hclock nowMs hnow
  intro past hub event ih hevent hclock nowMs hnow
  rw [List.map_append, List.pairwise_append] at hclock
  obtain ⟨hpast, -, hlast⟩ := hclock
  have hpre : ∀ earlier ∈ past, earlier.2 ≤ event.2 := by
    intro earlier hearlier
    exact hlast earlier.2 (List.mem_map_of_mem hearlier) event.2 (by simp)
  have htrack := ih hpast event.2 hpre
  exact (htrack.next hevent).later (hnow event (by simp))

/-! ## After a sweep -/

/-- The host's size of a session is the minimum of the records that bind it now. -/
def Current (hub : TerminalViewHub) (sessionId : SessionId) (nowMs : Nat) : Prop :=
  ∃ geometry, hub.effective.lookup sessionId = some geometry ∧
    AxisMinimum (constraining hub.registry sessionId nowMs) geometry

/-- A session that some record binds has a current size, and a session whose size is stale
has no record that binds. -/
structure Fresh (hub : TerminalViewHub) (sessionId : SessionId) (nowMs : Nat) : Prop where
  current : (constraining hub.registry sessionId nowMs).Nonempty → hub.Current sessionId nowMs
  stale : ¬hub.Current sessionId nowMs → ∀ key record, hub.registry.views.lookup key = some record →
      record.intent.sessionId = sessionId.value → viewConstrains record nowMs = false

/-- After every sweep of a run of steady calls, the size of every session is the per-axis
minimum over the records that bind it at the sweep's clock. -/
theorem sweep_fresh (events : List Event) (order : KeyOrder) (nowMs : Nat)
    (hclock : ((events ++ [(Op.sweep order, nowMs)]).map Prod.snd).Pairwise (· ≤ ·))
    (hsteady : machine.Along Steady TerminalViewHub.new (events ++ [(Op.sweep order, nowMs)]))
    (sid : SessionId) :
    Fresh (machine.run TerminalViewHub.new (events ++ [(Op.sweep order, nowMs)])) sid
      nowMs := by
  have hpre : ∀ event ∈ events ++ [(Op.sweep order, nowMs)], event.2 ≤ nowMs := by
    intro event hmem
    rw [List.map_append, List.pairwise_append] at hclock
    rcases List.mem_append.mp hmem with hpast | hlast
    · exact hclock.2.2 event.2 (List.mem_map_of_mem hpast) nowMs (by simp)
    · rw [List.mem_singleton.mp hlast]
  have htrack := tracked_run hsteady hclock nowMs hpre
  obtain ⟨counted, hcount, hmin⟩ := htrack.counts sid
  rw [run_concat] at hcount hmin ⊢
  generalize machine.run TerminalViewHub.new events = hub at hcount hmin ⊢
  rw [machine_registry] at hcount
  have hcur : (constraining (machine.next hub (Op.sweep order, nowMs)).registry sid
      nowMs).Nonempty → (machine.next hub (Op.sweep order, nowMs)).Current sid nowMs := by
    intro hne
    have hbind : binding (machine.next hub (Op.sweep order, nowMs)).registry sid nowMs =
        counted := by
      rw [machine_registry]
      exact hcount.sweep
    unfold Current constraining
    unfold constraining at hne
    rw [hbind] at hne ⊢
    exact hmin hne.of_image
  refine ⟨hcur, ?_⟩
  intro hstale key record hrec hsess
  rw [Bool.eq_false_iff]
  intro hbinds
  exact hstale (hcur ⟨_, mem_constraining.mpr ⟨key, record, hrec, hsess, hbinds, rfl⟩⟩)

/-- The session the runs below are about. -/
def watched : SessionId where
  value := "00000000-0000-4000-8000-000000000101"
  check := by decide +kernel

def entryOrder : KeyOrder := ⟨id, fun keys => List.Perm.refl keys⟩

/-- Two tabs view a session. The larger one resizes, then the smaller one heartbeats; its
lease ran to 15000. -/
def twoTabs (resizeMs beatMs : Nat) : List Event :=
  [(.registerSocket (tabSocket "left" "phone:left"), 0),
    (.registerSocket (tabSocket "right" "phone:right"), 0),
    (.handleViewCommand "left" (declare "00000000-0000-4000-8000-000000000001" 1 80), 0),
    (.handleViewCommand "right" (declare "00000000-0000-4000-8000-000000000002" 1 100), 14000),
    (.sweep entryOrder, 14600),
    (.handleViewCommand "right" (declare "00000000-0000-4000-8000-000000000002" 2 120), resizeMs),
    (.handleViewCommand "left" (declare "00000000-0000-4000-8000-000000000001" 1 80), beatMs)]

theorem sweep_fresh_twoTabs :
    Fresh (machine.run TerminalViewHub.new (twoTabs 14700 14800 ++ [(Op.sweep entryOrder, 15600)]))
      watched 15600 :=
  sweep_fresh (twoTabs 14700 14800) entryOrder 15600 (by decide) (by decide +kernel) watched

/-- A heartbeat after the lease ran out renews the record that the resize did not count, and
no later sweep minimizes the session again. -/
theorem sweep_stale_twoTabs :
    ((twoTabs 15000 15500 ++ [(Op.sweep entryOrder, 15600)]).map Prod.snd).Pairwise (· ≤ ·) ∧
      ¬Fresh (machine.run TerminalViewHub.new
        (twoTabs 15000 15500 ++ [(Op.sweep entryOrder, 15600)])) watched 15600 := by
  refine ⟨by decide, ?_⟩
  generalize hhub : machine.run TerminalViewHub.new
    (twoTabs 15000 15500 ++ [(Op.sweep entryOrder, 15600)]) = hub
  have heff : hub.effective.lookup watched = some { cols := 120, rows := 24 } := by
    rw [← hhub]
    decide +kernel
  have hleft : (hub.registry.views.lookup
      (viewKey "phone:left" "00000000-0000-4000-8000-000000000001")).map (fun record =>
        (record.intent, viewConstrains record 15600)) =
      some ({ sessionId := watched.value, cols := 80, rows := 24, active := true }, true) := by
    rw [← hhub]
    decide +kernel
  obtain ⟨record, hrec, hsame⟩ := Option.map_eq_some_iff.mp hleft
  obtain ⟨hintent, hbinds⟩ := Prod.mk.inj hsame
  have hmem : { cols := 80, rows := 24 } ∈ constraining hub.registry watched 15600 :=
    mem_constraining.mpr ⟨_, record, hrec, congrArg ViewIntent.sessionId hintent, hbinds,
      congrArg ViewIntent.geometry hintent⟩
  intro hfresh
  obtain ⟨geometry, hlook, hmin⟩ := hfresh.current ⟨_, hmem⟩
  cases heff.symm.trans hlook
  have hle : (120 : UInt32) ≤ 80 := hmin.cols.2 _ hmem
  exact absurd hle (by decide)

end TerminalViewHub

end Coord

end Roost
