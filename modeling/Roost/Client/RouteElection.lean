-- SUMMARY: Every elected route names a connection its worker still holds.
import Roost.Client.RouteRegistry

/-!
# Elected routes and the slots they name

The slots of all workers are disjoint and a route names one of them. Most calls only take
connections out of slots; the rule for those is proved once. Closing a connection takes its
routes along when it sits in an active slot; a candidate that serves a route already is
forgotten without them.
-/

namespace Roost.Client

open Option (filter_eq_some_iff map_eq_some_iff some)

open OrderedMap WorkerConnections

variable {ρ : Type}

/-! ## Slots -/

namespace WorkerConnections

theorem mem_carriers {slots : WorkerConnections} {carrier : DirectCarrier} :
    carrier ∈ slots.carriers ↔ slots.active = some carrier ∨ slots.candidate = some carrier := by
  simp [carriers]

end WorkerConnections

/-- Every connection is filed under its own worker, and no two slots hold one connection. -/
structure Tidy (connections : OrderedMap String WorkerConnections) : Prop where
  own : ∀ {workerFp slots carrier}, connections.lookup workerFp = some slots →
    carrier ∈ slots.carriers → carrier.workerFp = workerFp
  distinct : ∀ {workerFp slots active candidate}, connections.lookup workerFp = some slots →
    slots.active = some active → slots.candidate = some candidate →
      active.connectionId ≠ candidate.connectionId
  apart : ∀ {workerFp workerFp' slots slots' carrier carrier'},
    connections.lookup workerFp = some slots → connections.lookup workerFp' = some slots' →
      carrier ∈ slots.carriers → carrier' ∈ slots'.carriers →
        carrier.connectionId = carrier'.connectionId → workerFp = workerFp'

theorem tidy_empty : Tidy .empty where
  own h := by cases h
  distinct h := by cases h
  apart h := by cases h

/-- The same connections in fewer slots; what they were granted may differ. -/
def Shrinks (connections later : OrderedMap String WorkerConnections) : Prop :=
  ∀ {workerFp slots'}, later.lookup workerFp = some slots' →
    ∃ slots, connections.lookup workerFp = some slots ∧
      (∀ carrier ∈ slots'.carriers, ∃ before ∈ slots.carriers,
        before.connectionId = carrier.connectionId ∧ before.workerFp = carrier.workerFp) ∧
      ∀ active candidate, slots'.active = some active → slots'.candidate = some candidate →
        ∃ active₀ candidate₀, slots.active = some active₀ ∧ slots.candidate = some candidate₀ ∧
          active₀.connectionId = active.connectionId ∧
            candidate₀.connectionId = candidate.connectionId

theorem Tidy.shrinks {connections later : OrderedMap String WorkerConnections}
    (h : Tidy connections) (hshr : Shrinks connections later) : Tidy later where
  own := by
    intro fp slots carrier hslots hcarrier
    obtain ⟨_, hpre, hcarriers, -⟩ := hshr hslots
    obtain ⟨_, hfound, -, hworker⟩ := hcarriers carrier hcarrier
    exact hworker ▸ h.own hpre hfound
  distinct := by
    intro fp slots active cand hslots hact hcand
    obtain ⟨_, hpre, -, hboth⟩ := hshr hslots
    obtain ⟨active₀, _, hact₀, hcand₀, hid, hid'⟩ :=
      hboth active cand hact hcand
    rw [← hid, ← hid']
    exact h.distinct hpre hact₀ hcand₀
  apart := by
    intro fp workerFp' slots slots' carrier carrier' hslots hslots' hcarrier hcarrier' hid
    obtain ⟨_, hpre, hcarriers, -⟩ := hshr hslots
    obtain ⟨_, hpre', hcarriers', -⟩ := hshr hslots'
    obtain ⟨_, hfound, hsame, -⟩ := hcarriers carrier hcarrier
    obtain ⟨_, hfound', hsame', -⟩ := hcarriers' carrier' hcarrier'
    exact h.apart hpre hpre' hfound hfound' (by rw [hsame, hsame', hid])

namespace RouteRegistry

variable {reg : RouteRegistry ρ} {fp conn sid : String}
  {slots : WorkerConnections} {route : SessionRoute}

variable (registry : RouteRegistry ρ)

def Holds (workerFp connectionId : String) : Prop :=
  ∃ slots, registry.connections.lookup workerFp = some slots ∧
    ∃ carrier ∈ slots.carriers, carrier.connectionId = connectionId

/-- The slots are tidy, and every elected route names a connection its own worker holds. -/
structure Consistent : Prop where
  tidy : Tidy registry.connections
  elected : ∀ {sessionId route}, registry.routes.lookup sessionId = some route →
    ∃ workerFp, route.token.workerFp = some workerFp ∧ registry.Holds workerFp route.connectionId

theorem consistent_new : (new : RouteRegistry ρ).Consistent where
  tidy := tidy_empty
  elected h := by cases h

theorem Consistent.congr {later : RouteRegistry ρ} (h : reg.Consistent)
    (hconn : later.connections = reg.connections)
    (hroutes : later.routes = reg.routes) : later.Consistent := by
  refine ⟨hconn ▸ h.tidy, fun hroute => ?_⟩
  rw [hroutes] at hroute
  obtain ⟨fp, hworker, hholds⟩ := h.elected hroute
  unfold Holds at hholds ⊢
  rw [hconn]
  exact ⟨fp, hworker, hholds⟩

theorem hasRoutesFor_eq_false_iff {carrier : DirectCarrier} :
    reg.hasRoutesFor (some carrier) = false ↔ ∀ sid route,
      reg.routes.lookup sid = some route → route.connectionId ≠ carrier.connectionId := by
  unfold hasRoutesFor
  rw [List.any_eq_false]
  constructor
  · intro hnone sid route hroute
    have hmem : route ∈ reg.routes.values :=
      List.mem_map.mpr ⟨_, lookup_eq_some_iff.mp hroute, rfl⟩
    simpa using hnone route hmem
  · intro hnone route hmem
    obtain ⟨entry, hentry, rfl⟩ := List.mem_map.mp hmem
    simpa using hnone entry.1 entry.2 (lookup_eq_some_iff.mpr hentry)

/-! ## The candidate's promotion -/

theorem Consistent.promoteCandidateIfPossible (h : reg.Consistent) (fp : String) :
    (reg.promoteCandidateIfPossible fp).Consistent := by
  unfold RouteRegistry.promoteCandidateIfPossible
  split
  · exact h
  rename_i slots hslots
  split
  · exact h
  rename_i hmoves
  simp only [Bool.or_eq_true, Bool.not_eq_true', not_or, Bool.not_eq_true,
    Bool.not_eq_false] at hmoves
  refine ⟨h.tidy.shrinks ?_, ?_⟩
  · intro other slots' hslots'
    rw [lookup_insert] at hslots'
    split at hslots'
    · rename_i heq
      cases hslots'
      refine ⟨slots, heq ▸ hslots, fun carrier hcarrier => ⟨carrier, ?_, rfl, rfl⟩, ?_⟩
      · rw [mem_carriers] at hcarrier ⊢
        exact hcarrier.elim .inr fun hnone => by cases hnone
      · intro active cand _ hnone
        cases hnone
    · exact ⟨slots', hslots', fun carrier hcarrier => ⟨carrier, hcarrier, rfl, rfl⟩,
        fun active cand hact hcand =>
          ⟨active, cand, hact, hcand, rfl, rfl⟩⟩
  intro sid route hroute
  obtain ⟨owner, howner, held, hheld, carrier, hcarrier, hid⟩ := h.elected hroute
  refine ⟨owner, howner, ?_⟩
  unfold Holds
  rw [lookup_insert]
  split
  · rename_i heq
    rw [heq, hslots, some.injEq] at hheld
    subst hheld
    refine ⟨_, rfl, carrier, ?_, hid⟩
    rw [mem_carriers] at hcarrier ⊢
    rcases hcarrier with hact | hcand
    · rw [hact] at hmoves
      exact absurd hid.symm (hasRoutesFor_eq_false_iff.mp hmoves.2 sid route hroute)
    · exact .inl hcand
  · exact ⟨held, hheld, carrier, hcarrier, hid⟩

/-! ## Registration -/

theorem cancelCandidates_keeps (reg : RouteRegistry ρ) (sessions : List String) :
    (reg.cancelCandidates sessions).1.connections = reg.connections ∧
      (reg.cancelCandidates sessions).1.routes = reg.routes := by
  induction sessions generalizing reg with
  | nil => exact ⟨rfl, rfl⟩
  | cons sid rest ih =>
    have hone : (reg.cancelCandidate sid).1.connections = reg.connections ∧
        (reg.cancelCandidate sid).1.routes = reg.routes := by
      unfold cancelCandidate
      split <;> exact ⟨rfl, rfl⟩
    obtain ⟨hconn, hroutes⟩ := ih (reg.cancelCandidate sid).1
    exact ⟨hconn.trans hone.1, hroutes.trans hone.2⟩

/-- The connection's id is its own: no active slot holds another carrier under it, and only its
own worker's candidate slot may hold it. -/
def Fresh (connection : DirectCarrier) : Prop :=
  ∀ entry ∈ registry.connections.entries,
    (∀ active ∈ entry.2.active, active.connectionId = connection.connectionId →
      active = connection) ∧
    ∀ candidate ∈ entry.2.candidate, candidate.connectionId = connection.connectionId →
      entry.1 = connection.workerFp

theorem register_cases (reg : RouteRegistry ρ) (connection : DirectCarrier) :
    (reg.register connection).1 = reg ∨
      (∀ slots, reg.connections.lookup connection.workerFp = some slots →
        slots.active ≠ some connection ∧ reg.hasRoutesFor slots.candidate = false) ∧
      (reg.register connection).1.connections = reg.connections.insert connection.workerFp
          ⟨(reg.connections.lookup connection.workerFp).bind active, some connection⟩ ∧
      (reg.register connection).1.routes = reg.routes := by
  unfold register
  split
  · exact .inl rfl
  dsimp only
  split
  · exact .inl rfl
  rename_i hknown
  split
  · exact .inl rfl
  rename_i hserves
  refine .inr ⟨fun slots hslots => ?_, ?_⟩
  · rw [hslots] at hknown hserves
    simp only [Option.any_some, Bool.or_eq_true, decide_eq_true_eq, not_or] at hknown
    exact ⟨hknown.1, by simpa using hserves⟩
  split
  · exact ⟨rfl, rfl⟩
  rename_i displaced _
  have hkeeps : (reg.cancelCandidatesForConnection displaced.connectionId).1.connections =
        reg.connections ∧
      (reg.cancelCandidatesForConnection displaced.connectionId).1.routes =
        reg.routes := cancelCandidates_keeps reg _
  exact ⟨by rw [hkeeps.1], hkeeps.2⟩

theorem Consistent.register (h : reg.Consistent) {connection : DirectCarrier}
    (hfresh : reg.Fresh connection) : (reg.register connection).1.Consistent := by
  rcases register_cases reg connection with hsame | ⟨hslot, hconn, hroutes⟩
  · rw [hsame]
    exact h
  -- What the new slots hold is the connection itself, or what the old ones held elsewhere.
  have hfound : ∀ {fp : String} {slots : WorkerConnections} {carrier : DirectCarrier},
      (reg.register connection).1.connections.lookup fp = some slots → carrier ∈ slots.carriers →
      (carrier = connection ∧ fp = connection.workerFp) ∨
      carrier.connectionId ≠ connection.connectionId ∧
        ∃ before, reg.connections.lookup fp = some before ∧ carrier ∈ before.carriers := by
    intro fp slots carrier hslots hcarrier
    rw [hconn, lookup_insert] at hslots
    split at hslots
    · rename_i heq
      cases hslots
      rcases mem_carriers.mp hcarrier with hact | hcand
      · obtain ⟨before, hpre, hheld⟩ := Option.bind_eq_some_iff.mp hact
        refine .inr ⟨fun hid => ?_, before, heq ▸ hpre, ?_⟩
        · have hsame := (hfresh _ (lookup_eq_some_iff.mp hpre)).1 carrier hheld hid
          exact (hslot before hpre).1 (hsame ▸ hheld)
        · exact mem_carriers.mpr (.inl hheld)
      · cases hcand
        exact .inl ⟨rfl, heq⟩
    · rename_i hne
      refine .inr ⟨fun hid => ?_, slots, hslots, hcarrier⟩
      have hentry := hfresh _ (lookup_eq_some_iff.mp hslots)
      rcases mem_carriers.mp hcarrier with hact | hcand
      · have hsame := hentry.1 carrier hact hid
        exact hne (hsame ▸ (h.tidy.own hslots hcarrier).symm)
      · exact hne (hentry.2 carrier hcand hid)
  refine ⟨⟨?_, ?_, ?_⟩, ?_⟩
  · intro fp slots carrier hslots hcarrier
    rcases hfound hslots hcarrier with ⟨rfl, hworker⟩ | ⟨-, before, hpre, hheld⟩
    · exact hworker.symm
    · exact h.tidy.own hpre hheld
  · intro fp slots active cand hslots hact hcand hid
    rcases hfound hslots (mem_carriers.mpr (.inr hcand)) with
      ⟨rfl, hworker⟩ | ⟨hother, before, hpre, hheld⟩
    · rcases hfound hslots (mem_carriers.mpr (.inl hact)) with
        ⟨rfl, -⟩ | ⟨hother, -⟩
      · rw [hconn, hworker, lookup_insert, if_pos rfl, some.injEq]
          at hslots
        rw [← hslots] at hact
        obtain ⟨before, hpre, hheld⟩ := Option.bind_eq_some_iff.mp hact
        exact (hslot before hpre).1 hheld
      · exact hother hid
    · rw [hconn, lookup_insert] at hslots
      split at hslots
      · rename_i heq
        cases hslots
        cases hcand
        exact hother rfl
      · exact h.tidy.distinct hslots hact hcand hid
  · intro fp workerFp' slots slots' carrier carrier' hslots hslots' hcarrier hcarrier' hid
    rcases hfound hslots hcarrier with ⟨rfl, hworker⟩ | ⟨hother, before, hpre, hheld⟩
    · rcases hfound hslots' hcarrier' with ⟨-, hworker'⟩ | ⟨hother', -⟩
      · rw [hworker, hworker']
      · exact absurd hid.symm hother'
    · rcases hfound hslots' hcarrier' with ⟨rfl, -⟩ | ⟨-, before', hpre', hheld'⟩
      · exact absurd hid hother
      · exact h.tidy.apart hpre hpre' hheld hheld' hid
  intro sid route hroute
  rw [hroutes] at hroute
  obtain ⟨fp, hworker, slots, hslots, carrier, hcarrier, hid⟩ := h.elected hroute
  refine ⟨fp, hworker, ?_⟩
  unfold Holds
  rw [hconn, lookup_insert]
  split
  · rename_i heq
    rw [heq] at hslots
    refine ⟨_, rfl, carrier, ?_, hid⟩
    rw [mem_carriers] at hcarrier ⊢
    rcases hcarrier with hact | hcand
    · exact .inl (by rw [hslots]; exact hact)
    -- The displaced candidate served no route.
    have hidle := (hslot slots hslots).2
    rw [hcand] at hidle
    exact absurd hid.symm (hasRoutesFor_eq_false_iff.mp hidle sid route hroute)
  · exact ⟨slots, hslots, carrier, hcarrier, hid⟩

/-! ## Closing a connection -/

def SitsActive (connectionId : String) : Prop :=
  ∃ entry ∈ registry.connections.entries, ∃ active ∈ entry.2.active,
    active.connectionId = connectionId

def Serves (connectionId : String) : Prop :=
  ∃ entry ∈ registry.routes.entries, entry.2.connectionId = connectionId

theorem servedBy_of_sitsActive (h : reg.SitsActive connectionId) :
    ∃ workerFp, reg.servedBy connectionId = some workerFp := by
  obtain ⟨entry, hentry, active, hact, hid⟩ := h
  unfold servedBy
  have hmem : entry ∈ reg.connections.entries.filter fun entry =>
      entry.2.active.any fun carrier => decide (carrier.connectionId = connectionId) := by
    rw [List.mem_filter, Option.mem_def.mp hact]
    exact ⟨hentry, by simpa using hid⟩
  cases hlast : (reg.connections.entries.filter fun entry =>
      entry.2.active.any fun carrier => decide (carrier.connectionId = connectionId)).getLast? with
  | none =>
    rw [List.getLast?_eq_none_iff.mp hlast] at hmem
    cases hmem
  | some last => exact ⟨last.1, rfl⟩

theorem shrinks_drop (connections : OrderedMap String WorkerConnections) (conn : String) :
    Shrinks connections (connections.mapValues fun _ => drop conn) := by
  intro fp slots' hslots'
  rw [lookup_mapValues] at hslots'
  obtain ⟨slots, hslots, rfl⟩ := map_eq_some_iff.mp hslots'
  refine ⟨slots, hslots, fun carrier hcarrier => ⟨carrier, ?_, rfl, rfl⟩, ?_⟩
  · rw [mem_carriers] at hcarrier ⊢
    exact hcarrier.imp (fun h => (filter_eq_some_iff.mp h).1) fun h => (filter_eq_some_iff.mp h).1
  · intro active cand hact hcand
    exact ⟨active, cand, (filter_eq_some_iff.mp hact).1, (filter_eq_some_iff.mp hcand).1, rfl, rfl⟩

theorem Holds.drop {routes : OrderedMap String SessionRoute} {other : String}
    (h : reg.Holds fp other) (hother : other ≠ conn) : Holds { reg with
      connections := reg.connections.mapValues fun _ => drop conn
      routes } fp other := by
  obtain ⟨slots, hslots, carrier, hcarrier, rfl⟩ := h
  refine ⟨slots.drop conn, ?_, carrier, ?_, rfl⟩
  · dsimp only
    rw [lookup_mapValues, hslots]
    rfl
  · rw [mem_carriers] at hcarrier ⊢
    exact hcarrier.imp (fun h => filter_eq_some_iff.mpr ⟨h, by simpa using hother⟩)
      fun h => filter_eq_some_iff.mpr ⟨h, by simpa using hother⟩

theorem Consistent.eraseEmpty (h : reg.Consistent)
    (hempty : reg.connections.lookup fp = some ⟨none, none⟩) :
    Consistent { reg with connections := reg.connections.erase fp } := by
  refine ⟨h.tidy.shrinks ?_, ?_⟩
  · intro other slots hslots
    rw [lookup_erase] at hslots
    split at hslots
    · cases hslots
    · exact ⟨slots, hslots, fun carrier hcarrier => ⟨carrier, hcarrier, rfl, rfl⟩,
        fun active cand hact hcand =>
          ⟨active, cand, hact, hcand, rfl, rfl⟩⟩
  intro sid route hroute
  obtain ⟨owner, howner, slots, hslots, carrier, hcarrier, hid⟩ := h.elected hroute
  refine ⟨owner, howner, slots, ?_, carrier, hcarrier, hid⟩
  rw [lookup_erase]
  split
  · rename_i heq
    rw [heq, hempty, some.injEq] at hslots
    rw [← hslots] at hcarrier
    cases hcarrier
  · exact hslots

theorem Consistent.unregister (h : reg.Consistent)
    (hserves : reg.Serves connectionId → reg.SitsActive connectionId) :
    (reg.unregister connectionId).1.Consistent := by
  unfold RouteRegistry.unregister
  dsimp only
  split
  · rename_i hnone
    refine ⟨h.tidy.shrinks (shrinks_drop _ _), fun {sid route} hroute => ?_⟩
    obtain ⟨workerFp, hworker, hholds⟩ := h.elected hroute
    refine ⟨workerFp, hworker, hholds.drop fun hid => ?_⟩
    obtain ⟨_, hserved⟩ := servedBy_of_sitsActive
      (hserves ⟨_, lookup_eq_some_iff.mp hroute, hid⟩)
    rw [hnone] at hserved
    cases hserved
  rename_i workerFp _
  have hclear : Consistent { reg with
      connections := reg.connections.mapValues fun _ => drop connectionId
      routes := reg.routes.retain fun _ route =>
        decide (route.connectionId ≠ connectionId) } := by
    refine ⟨h.tidy.shrinks (shrinks_drop _ _), fun {sid route} hroute => ?_⟩
    rw [lookup_retain] at hroute
    obtain ⟨hpre, hother⟩ := filter_eq_some_iff.mp hroute
    obtain ⟨owner, howner, hholds⟩ := h.elected hpre
    exact ⟨owner, howner, hholds.drop (by simpa using hother)⟩
  have hmoved := hclear.promoteCandidateIfPossible workerFp
  split
  · rename_i hempty
    exact hmoved.eraseEmpty hempty
  · exact hmoved

theorem routes_promoteCandidateIfPossible (reg : RouteRegistry ρ) (fp : String) :
    (reg.promoteCandidateIfPossible fp).routes = reg.routes := by
  unfold RouteRegistry.promoteCandidateIfPossible
  split
  · rfl
  · split <;> rfl

/-- Unregistering reports the routes it ends. -/
theorem unregister_reports (reg : RouteRegistry ρ)
    (hserves : reg.Serves connectionId → reg.SitsActive connectionId) :
    (reg.unregister connectionId).2 = (reg.routes.entries.filter fun entry =>
          decide (entry.2.connectionId = connectionId)).map (fun entry =>
            (⟨entry.1, entry.2.token⟩ : LostRoute)) ∧
      ¬(reg.unregister connectionId).1.Serves connectionId := by
  unfold RouteRegistry.unregister
  cases hserved : reg.servedBy connectionId with
  | none =>
    have hidle : ¬reg.Serves connectionId := by
      intro hserve
      obtain ⟨_, hworker⟩ := servedBy_of_sitsActive (hserves hserve)
      rw [hserved] at hworker
      cases hworker
    have hnone : (reg.routes.entries.filter fun entry =>
        decide (entry.2.connectionId = connectionId)) = [] := by
      rw [List.filter_eq_nil_iff]
      intro entry hentry
      simpa using fun hid => hidle ⟨entry, hentry, hid⟩
    exact ⟨by rw [hnone]; rfl, hidle⟩
  | some workerFp =>
    dsimp only
    refine ⟨rfl, ?_⟩
    have hgone : ∀ later : RouteRegistry ρ, later.routes = reg.routes.retain (fun _ route =>
          decide (route.connectionId ≠ connectionId)) → ¬later.Serves connectionId := by
      rintro later hroutes ⟨entry, hentry, hid⟩
      rw [hroutes] at hentry
      have hother := (List.mem_filter.mp hentry).2
      simp [hid] at hother
    refine hgone _ ?_
    split <;> exact routes_promoteCandidateIfPossible _ workerFp

/-! ## The other calls -/

theorem modifyCandidate_keeps (reg : RouteRegistry ρ) (sid : String)
    (f : PromotionCandidate → PromotionCandidate) :
    (reg.modifyCandidate sid f).connections = reg.connections ∧
      (reg.modifyCandidate sid f).routes = reg.routes := by
  unfold modifyCandidate
  split <;> exact ⟨rfl, rfl⟩

theorem Consistent.widenGrant (h : reg.Consistent) (processEpoch : String)
    (sessions : Finset String) : (reg.widenGrant fp processEpoch sessions).1.Consistent := by
  unfold RouteRegistry.widenGrant
  split
  · exact h
  rename_i slots hslots
  have hwid : ∀ carrier, let later :=
      ((widenCarrier processEpoch sessions carrier).map Prod.fst).getD carrier
      later.connectionId = carrier.connectionId ∧ later.workerFp = carrier.workerFp := by
    intro carrier
    unfold widenCarrier
    split
    · exact ⟨rfl, rfl⟩
    · dsimp only
      split <;> exact ⟨rfl, rfl⟩
  refine ⟨h.tidy.shrinks ?_, ?_⟩
  · intro other slots' hslots'
    rw [lookup_insert] at hslots'
    split at hslots'
    · rename_i heq
      cases hslots'
      refine ⟨slots, heq ▸ hslots, ?_, ?_⟩
      · intro carrier hcarrier
        rw [mem_carriers] at hcarrier
        rw [map_eq_some_iff, map_eq_some_iff] at hcarrier
        rcases hcarrier with ⟨before, hpre, rfl⟩ | ⟨before, hpre, rfl⟩
        · exact ⟨before, mem_carriers.mpr (.inl hpre), (hwid before).1.symm, (hwid before).2.symm⟩
        · exact ⟨before, mem_carriers.mpr (.inr hpre), (hwid before).1.symm, (hwid before).2.symm⟩
      · intro active cand hact hcand
        obtain ⟨active₀, hact₀, rfl⟩ := map_eq_some_iff.mp hact
        obtain ⟨candidate₀, hcand₀, rfl⟩ := map_eq_some_iff.mp hcand
        exact ⟨active₀, candidate₀, hact₀, hcand₀, (hwid active₀).1.symm, (hwid candidate₀).1.symm⟩
    · exact ⟨slots', hslots', fun carrier hcarrier => ⟨carrier, hcarrier, rfl, rfl⟩,
        fun active cand hact hcand =>
          ⟨active, cand, hact, hcand, rfl, rfl⟩⟩
  · intro sid route hroute
    obtain ⟨owner, howner, held, hheld, carrier, hcarrier, hid⟩ := h.elected hroute
    refine ⟨owner, howner, ?_⟩
    unfold Holds
    rw [lookup_insert]
    split
    · rename_i heq
      rw [heq, hslots, some.injEq] at hheld
      subst hheld
      refine ⟨_, rfl, ((widenCarrier processEpoch sessions carrier).map Prod.fst).getD carrier,
        ?_, (hwid carrier).1.trans hid⟩
      rw [mem_carriers] at hcarrier ⊢
      exact hcarrier.imp (fun h => by rw [h]; rfl) fun h => by rw [h]; rfl
    · exact ⟨held, hheld, carrier, hcarrier, hid⟩

theorem holds_of_promotable {attemptId : Nat} {token : TerminalToken}
    (h : reg.promotable sid attemptId token = .ok connectionId) :
    ∃ workerFp, token.workerFp = some workerFp ∧ reg.Holds workerFp connectionId := by
  unfold promotable at h
  split at h
  · cases h
  split at h
  · cases h
  split at h
  · cases h
  split at h
  · cases h
  split at h
  · cases h
  split at h
  · cases h
  rename_i workerFp hworker
  split at h
  · cases h
  rename_i slots hslots
  split at h
  · cases h
  rename_i carrier hcarrier
  have hheld : carrier ∈ slots.carriers :=
    mem_carriers.mpr ((Option.or_eq_some_iff.mp hcarrier).elim .inr fun hboth => .inl hboth.2)
  split at h
  · cases h
  split at h
  · cases h
  split at h
  · cases h
  · split at h
    · cases h
    · exact ⟨workerFp, hworker, slots, hslots, carrier, hheld, Except.ok.inj h⟩

theorem Consistent.promote (h : reg.Consistent) (sid : String) (attemptId : Nat)
    (token : TerminalToken) : (reg.promote sid attemptId token).1.Consistent := by
  unfold RouteRegistry.promote
  split
  · exact h
  · exact h
  rename_i conn fp hprom _
  dsimp only
  split
  · exact h.congr rfl rfl
  have hpromot : Consistent { reg with
      candidates := reg.candidates.erase sid
      staged := reg.staged.erase sid
      routes := reg.routes.insert sid ⟨conn, token⟩ } := by
    refine ⟨h.tidy, fun {other route} hroute => ?_⟩
    rw [lookup_insert] at hroute
    split at hroute
    · cases hroute
      obtain ⟨owner, howner, hholds⟩ := holds_of_promotable hprom
      exact ⟨owner, howner, hholds⟩
    · exact h.elected hroute
  exact hpromot.promoteCandidateIfPossible fp

theorem Consistent.retireRoute (h : reg.Consistent) (sid : String)
    (token : TerminalToken) : (reg.retireRoute sid token).1.Consistent := by
  unfold RouteRegistry.retireRoute
  split
  · exact h
  dsimp only
  have hret : Consistent { reg with
      routes := reg.routes.erase sid
      candidates := reg.candidates.erase sid
      staged := reg.staged.erase sid } := by
    refine ⟨h.tidy, fun {other route} hroute => ?_⟩
    rw [lookup_erase] at hroute
    split at hroute
    · cases hroute
    · exact h.elected hroute
  split
  · exact hret
  · exact hret.promoteCandidateIfPossible _

theorem Consistent.retireWorker (h : reg.Consistent)
    (gen : ρ → Option TerminalToken) (fp : String) : (reg.retireWorker gen fp).1.Consistent := by
  unfold RouteRegistry.retireWorker
  refine ⟨h.tidy.shrinks ?_, fun {sid route} hroute => ?_⟩
  · intro other slots hslots
    rw [lookup_erase] at hslots
    split at hslots
    · cases hslots
    · exact ⟨slots, hslots, fun carrier hcarrier => ⟨carrier, hcarrier, rfl, rfl⟩,
        fun active cand hact hcand =>
          ⟨active, cand, hact, hcand, rfl, rfl⟩⟩
  dsimp only at hroute
  rw [lookup_retain] at hroute
  obtain ⟨hpre, hother⟩ := filter_eq_some_iff.mp hroute
  obtain ⟨owner, howner, slots, hslots, hheld⟩ := h.elected hpre
  refine ⟨owner, howner, slots, ?_, hheld⟩
  rw [lookup_erase, if_neg]
  · exact hslots
  · rintro rfl
    simp [howner] at hother

/-! ## Every run -/

/-- A connection registers under an id of its own, and one that serves a route sits in an active
slot when it closes. -/
def KeepsSlots : RouteCall ρ → Prop
  | .register connection => registry.Fresh connection
  | .unregister connectionId => registry.Serves connectionId → registry.SitsActive connectionId
  | _ => True

instance decidableKeepsSlots (call : RouteCall ρ) : Decidable (registry.KeepsSlots call) := by
  cases call <;> dsimp only [KeepsSlots, Fresh, Serves, SitsActive] <;> infer_instance

/-- A call that keeps its slots keeps the registry consistent. -/
theorem Consistent.next (h : reg.Consistent) (gen : ρ → Option TerminalToken) {call : RouteCall ρ}
    (hkeeps : reg.KeepsSlots call) : ((routeRegistry gen).next reg call).Consistent := by
  have hcancel : ∀ sessions, (reg.cancelCandidates sessions).1.Consistent := fun sessions =>
    h.congr (cancelCandidates_keeps reg sessions).1 (cancelCandidates_keeps reg sessions).2
  have hmod : ∀ sid f, (reg.modifyCandidate sid f).Consistent :=
    fun sid f => h.congr (modifyCandidate_keeps reg sid f).1 (modifyCandidate_keeps reg sid f).2
  cases call with
  | register => exact h.register hkeeps
  | unregister => exact h.unregister hkeeps
  | widenGrant fp processEpoch sessions => exact h.widenGrant processEpoch sessions
  | setViewDemand => exact h.congr rfl rfl
  | stage cand repl =>
    change (reg.stage cand repl).1.Consistent
    unfold RouteRegistry.stage
    split
    · exact h
    · exact h.congr rfl rfl
  | markViewWireId sid | markCandidateBaseline sid | markViewAcknowledged sid => exact hmod sid _
  | promote sid attemptId token => exact h.promote sid attemptId token
  | cancelCandidate sid =>
    change (reg.cancelCandidate sid).1.Consistent
    unfold RouteRegistry.cancelCandidate
    split
    · exact h
    · exact h.congr rfl rfl
  | cancelCandidatesForConnection | cancelCandidatesForWorker => exact hcancel _
  | retireRoute sid token => exact h.retireRoute sid token
  | retireWorker fp => exact h.retireWorker gen fp

/-- As long as connections register under their own ids and close from an active slot, every
elected route names a connection its own worker holds, no connection sits in two slots, and closing
a connection reports and removes exactly the routes it served. -/
theorem routes_name_held_connections (generation : ρ → Option TerminalToken)
    (calls : List (RouteCall ρ)) (h : (routeRegistry generation).Along KeepsSlots .new calls) :
    let registry := (routeRegistry generation).run .new calls
    (∀ sid route, registry.routes.lookup sid = some route →
      ∃ workerFp, route.token.workerFp = some workerFp ∧
        registry.Holds workerFp route.connectionId) ∧
    (∀ workerFp slots active candidate, registry.connections.lookup workerFp = some slots →
      slots.active = some active → slots.candidate = some candidate →
        active.connectionId ≠ candidate.connectionId) ∧
    (∀ connectionId workerFp workerFp', registry.Holds workerFp connectionId →
      registry.Holds workerFp' connectionId → workerFp = workerFp') ∧
    ∀ connectionId, registry.KeepsSlots (.unregister connectionId) →
      (registry.unregister connectionId).2 = (registry.routes.entries.filter fun entry =>
            decide (entry.2.connectionId = connectionId)).map (fun entry =>
              (⟨entry.1, entry.2.token⟩ : LostRoute)) ∧
        ¬(registry.unregister connectionId).1.Serves connectionId := by
  intro registry
  have hcons : registry.Consistent :=
    h.invariant consistent_new fun registry call hcall hkeeps => hcall.next generation hkeeps
  refine ⟨fun sid route hroute => hcons.elected hroute,
    fun workerFp slots active candidate hslots => hcons.tidy.distinct hslots, ?_,
    fun connectionId hkeeps => unregister_reports registry hkeeps⟩
  rintro connectionId workerFp workerFp' ⟨slots, hslots, carrier, hcarrier, rfl⟩
    ⟨slots', hslots', carrier', hcarrier', hid⟩
  exact hcons.tidy.apart hslots hslots' hcarrier hcarrier' hid.symm

/-- A peer and a loopback connection to one worker. -/
def peerCarrier : DirectCarrier :=
  ⟨"p", "w", .peer, ⟨1, "e", 1, .peer, some "w"⟩, "socket", {"a", "b"}⟩

def loopbackCarrier : DirectCarrier :=
  ⟨"l", "w", .loopback, ⟨1, "e", 1, .loopback, some "w"⟩, "socket", {"a", "b"}⟩

def promoting (carrier : DirectCarrier) (sessionId : String) : List (RouteCall Unit) :=
  [.register carrier, .setViewDemand "w" sessionId "v" true,
    .stage ⟨sessionId, carrier.connectionId, carrier.token, 1, true, .empty, 0⟩ (),
    .promote sessionId 1 carrier.token]

/-- The route of a promoted session names the connection it was staged on. -/
theorem routes_name_held_connections_promoted :
    ∃ workerFp, peerCarrier.token.workerFp = some workerFp ∧
      ((routeRegistry fun _ => none).run .new (promoting peerCarrier "a")).Holds workerFp "p" :=
  (routes_name_held_connections (fun _ => none) (promoting peerCarrier "a")
    (by decide +kernel)).1 "a" ⟨"p", peerCarrier.token⟩ (by decide +kernel)

/-- A peer serves one session and a loopback connection is promoted for another, from the candidate
slot. It closes: nothing is reported, and its session stays routed to it. -/
theorem candidate_closes_with_its_route :
    let registry := (routeRegistry fun _ => none).run .new
      (promoting peerCarrier "a" ++ promoting loopbackCarrier "b")
    (registry.routes.lookup "b").map SessionRoute.connectionId = some "l" ∧
      (registry.unregister "l").2 = [] ∧
      ((registry.unregister "l").1.routes.lookup "b").map SessionRoute.connectionId = some "l" ∧
      ((registry.unregister "l").1.connections.lookup "w").map (fun slots =>
        slots.carriers.map DirectCarrier.connectionId) = some ["p"] := by
  decide +kernel

end RouteRegistry

end Roost.Client
