-- SUMMARY: Which records bind a session's PTY, across moves.
import Roost.Protocol.TerminalView.Membership

/-!
# Binding records

A host that counted the records binding a session does not look again until the session
is reported. The count it took stays good in two ways: a counted record still carries its
cached flag, and a record that binds now was counted. A sweep turns the first into the
second's converse, since it clears the flag of every record that stopped binding.
-/

namespace Roost.TerminalView

open ViewRegistry

variable {reg registry' : ViewRegistry} {terms : Terms} {sid : SessionId} {nowMs : Nat}

/-- The records that bind a session's PTY: their keys and geometries. -/
def binding (registry : ViewRegistry) (sessionId : SessionId) (nowMs : Nat) :
    Set (String × TerminalGeometry) :=
  { entry | ∃ record, registry.views.lookup entry.1 = some record ∧
      record.intent.sessionId = sessionId.value ∧ viewConstrains record nowMs = true ∧
      record.intent.geometry = entry.2 }

/-- The geometries a session's PTY has to fit. -/
def constraining (registry : ViewRegistry) (sessionId : SessionId) (nowMs : Nat) :
    Set TerminalGeometry :=
  Prod.snd '' binding registry sessionId nowMs

variable {geometry : TerminalGeometry}

theorem mem_constraining : geometry ∈ constraining reg sid nowMs ↔
      ∃ key record, reg.views.lookup key = some record ∧
        record.intent.sessionId = sid.value ∧ viewConstrains record nowMs = true ∧
        record.intent.geometry = geometry := by
  constructor
  · rintro ⟨⟨key, _⟩, ⟨record, hrec, hsess, hbinds, hgeom⟩, hsame⟩
    exact ⟨key, record, hrec, hsess, hbinds, hgeom.trans hsame⟩
  · rintro ⟨key, record, hrec, hsess, hbinds, hgeom⟩
    exact ⟨(key, geometry), ⟨record, hrec, hsess, hbinds, hgeom⟩, rfl⟩

theorem mem_live_iff (h : Sound reg) :
    geometry ∈ (reg.geometrySet sid nowMs).live ↔ geometry ∈ constraining reg sid nowMs := by
  unfold ViewRegistry.geometrySet
  rw [mem_live, mem_constraining]
  constructor
  · rintro ⟨key, hkey, record, hrec, hbinds, hgeom⟩
    rw [h.sessions.under, ViewRegistry.sessionAt, hrec] at hkey
    exact ⟨key, record, hrec, sessionOf_eq_some.mp hkey, hbinds, hgeom⟩
  rintro ⟨key, record, hrec, hsess, hbinds, hgeom⟩
  refine ⟨key, ?_, record, hrec, hbinds, hgeom⟩
  rw [h.sessions.under, ViewRegistry.sessionAt, hrec]
  exact sessionOf_eq_some.mpr hsess

/-! ## The cached flag -/

/-- A cleared flag says that a park grace is over, and it stays over. -/
def Lapsed (nowMs : Nat) (registry : ViewRegistry) : Prop :=
  ∀ key record, registry.views.lookup key = some record → record.constrains = false →
    record.parked = true ∧ saturatingAdd record.parkedAtMs terminalViewParkGraceMs ≤ nowMs

namespace Lapsed

theorem later {laterMs : Nat} (h : Lapsed nowMs registry) (hle : nowMs ≤ laterMs) :
    Lapsed laterMs registry := by
  intro key record hrec hflag
  obtain ⟨hparked, hgrace⟩ := h key record hrec hflag
  exact ⟨hparked, Nat.le_trans hgrace hle⟩

theorem flagged (h : Lapsed nowMs reg) {key : String} {record : ViewRecord}
    (hrec : reg.views.lookup key = some record)
    (hbinds : viewConstrains record nowMs = true) : record.constrains = true := by
  cases hflag : record.constrains with
  | true => rfl
  | false =>
    obtain ⟨hparked, hgrace⟩ := h key record hrec hflag
    rcases (viewConstrains_iff.mp hbinds).2 with hlive | hwithin
    · rw [hparked] at hlive
      cases hlive
    · exact absurd hwithin (Nat.not_lt.mpr hgrace)

theorem write (h : Lapsed nowMs reg) {key : String} (record' : ViewRecord)
    (hviews : registry'.views = reg.views.insert key record')
    (hwrite : record'.constrains = false → record'.parked = true ∧
        saturatingAdd record'.parkedAtMs terminalViewParkGraceMs ≤ nowMs) :
    Lapsed nowMs registry' := by
  intro other record hrec hflag
  rw [hviews, Table.lookup_insert] at hrec
  split at hrec
  · cases hrec
    exact hwrite hflag
  · exact h other record hrec hflag

theorem park (h : Lapsed nowMs reg) (hsound : Sound reg) (sock : String) :
    Lapsed nowMs (reg.closeSocket sock nowMs) := by
  intro key record hrec hflag
  rw [closeSocket_views] at hrec
  split at hrec
  · -- A record in a view set is not parked, so its flag is still set.
    rename_i hmem
    obtain ⟨old, hold, hlive, hsock⟩ := hsound.owned sock key hmem
    rw [hold, Option.map_some, Option.some.injEq] at hrec
    subst hrec
    rw [ViewRecord.park, if_pos hsock] at hflag
    obtain ⟨hparked, -⟩ := h key old hold hflag
    rw [hlive] at hparked
    cases hparked
  · exact h key record hrec hflag

theorem move {reported : Finset SessionId} (h : Lapsed nowMs reg) (hsound : Sound reg)
    (hmove : Move terms nowMs reg reported registry') : Lapsed nowMs registry' := by
  cases hmove with
  | claims | scope => exact h
  | drop =>
    intro other found hfound hflag
    rw [dropRecord_views] at hfound
    split at hfound
    · cases hfound
    · exact h other found hfound hflag
  | renew key record hrec =>
    exact h.write (record.renewed nowMs) rfl (h key record hrec)
  | revise key record cmd hrec =>
    exact h.write (record.revised cmd nowMs) rfl (h key record hrec)
  | lapse key record hrec hlease hdead =>
    refine h.write { record with constrains := false } (modify_constrains hrec) ?_
    intro _
    rw [Bool.eq_false_iff, ne_eq, viewConstrains_iff, not_and, not_or, Nat.not_lt] at hdead
    exact ⟨by simpa using (hdead hlease).1, (hdead hlease).2⟩
  | reclaim caller cmd socket record =>
    refine h.write (record.reclaimed caller.socketId cmd nowMs) rfl ?_
    intro hflag
    cases hflag
  | admission caller cmd =>
    refine h.write (ViewRecord.admitted (caller.key cmd) caller cmd nowMs) rfl ?_
    intro hflag
    cases hflag
  | park sock => exact h.park hsound sock
  | join | expel | unindex => exact h

theorem new (nowMs : Nat) : Lapsed nowMs ViewRegistry.new := by
  intro key record hrec
  simp [ViewRegistry.new] at hrec

end Lapsed

/-! ## A count of a session's records -/

def Foreign (sessionId : SessionId) (found : Option ViewRecord) : Prop :=
  ∀ record, found = some record → sessionOf record ≠ some sessionId

/-- What may happen to a key without its session being reported. -/
inductive Kept (sessionId : SessionId) (nowMs : Nat) :
    Option ViewRecord → Option ViewRecord → Prop where
  | same (found : Option ViewRecord) : Kept sessionId nowMs found found
  | foreign (found found' : Option ViewRecord) (h : Foreign sessionId found)
      (h' : Foreign sessionId found') : Kept sessionId nowMs found found'
  /-- A record keeps its declaration and its flag, and does not start to bind. -/
  | edited (record record' : ViewRecord) (hintent : record'.intent = record.intent)
      (hflag : record'.constrains = record.constrains)
      (hbinds : viewConstrains record' nowMs = true → viewConstrains record nowMs = true) :
      Kept sessionId nowMs (some record) (some record')

/-- The records counted for a session: each still carries its flag, and none that binds is
left out. -/
structure Counted (sessionId : SessionId) (nowMs : Nat)
    (counted : Set (String × TerminalGeometry)) (registry : ViewRegistry) : Prop where
  flagged : ∀ key geometry, (key, geometry) ∈ counted →
    ∃ record, registry.views.lookup key = some record ∧ sessionOf record = some sessionId ∧
      record.intent.geometry = geometry ∧ record.constrains = true
  full : ∀ key record, registry.views.lookup key = some record →
    sessionOf record = some sessionId → viewConstrains record nowMs = true →
    (key, record.intent.geometry) ∈ counted

theorem foreign_none : Foreign sid none :=
  fun _ hnone => nomatch hnone

variable {record record' : ViewRecord}

theorem foreign_of_unreported
    (hquiet : sid ∉ (sessionOf record).toFinset) : Foreign sid (some record) := by
  intro found hfound hsess
  cases hfound
  exact hquiet (Option.mem_toFinset.mpr hsess)

theorem Kept.rewritten (hquiet : sid ∉ (sessionOf record).toFinset)
    (hsess : record'.intent.sessionId = record.intent.sessionId) :
    Kept sid nowMs (some record) (some record') := by
  refine .foreign _ _ (foreign_of_unreported hquiet) (foreign_of_unreported ?_)
  rw [sessionOf_congr hsess]
  exact hquiet

theorem Kept.write {written : String} (h : Kept sid nowMs (reg.views.lookup written) (some record'))
    (key : String) : Kept sid nowMs (reg.views.lookup key)
      (AList.lookup key (reg.views.insert written record')) := by
  rw [Table.lookup_insert]
  split
  · rename_i hkey
    rw [hkey]
    exact h
  · exact .same _

theorem Kept.park (hsound : Sound reg) (sock key : String) : Kept sid nowMs (reg.views.lookup key)
      ((reg.closeSocket sock nowMs).views.lookup key) := by
  rw [closeSocket_views]
  split
  · rename_i hmem
    obtain ⟨record, hrec, hlive, hsock⟩ := hsound.owned sock key hmem
    rw [hrec, Option.map_some, ViewRecord.park, if_pos hsock]
    refine .edited record _ rfl rfl ?_
    intro hbinds
    rw [viewConstrains_iff] at hbinds ⊢
    exact ⟨hbinds.1, Or.inl hlive⟩
  · exact .same _

/-- A move that reports nothing of a session keeps its count. -/
theorem Move.kept {reported : Finset SessionId} (hsound : Sound reg)
    (hmove : Move terms nowMs reg reported registry') (hquiet : sid ∉ reported)
    (hrenews : ∀ record, terms.renews record →
      viewConstrains (record.renewed nowMs) nowMs = true → viewConstrains record nowMs = true)
    (key : String) : Kept sid nowMs (reg.views.lookup key) (registry'.views.lookup key) := by
  cases hmove with
  | claims | scope | join | expel | unindex => exact .same _
  | drop dropped record save savedMs claim hrec =>
    rw [dropRecord_views]
    split
    · rename_i hkey
      subst hkey
      rw [hrec]
      exact .foreign _ _ (foreign_of_unreported hquiet) foreign_none
    · exact .same _
  | renew renewed record hrec hallow =>
    apply Kept.write
    rw [hrec]
    exact .edited record (record.renewed nowMs) rfl rfl (hrenews record hallow)
  | revise revised record cmd hrec hsess =>
    apply Kept.write
    rw [hrec]
    exact .rewritten hquiet hsess
  | lapse lapsed record hrec =>
    rw [modify_constrains hrec]
    apply Kept.write
    rw [hrec]
    exact .rewritten hquiet rfl
  | reclaim caller cmd socket record hcalled hrec hparked hsess =>
    apply Kept.write
    rw [hrec]
    exact .rewritten hquiet hsess
  | admission caller cmd socket admitted hcalled hnone hsess =>
    apply Kept.write
    rw [hnone]
    refine .foreign _ _ foreign_none ?_
    intro record hrec hother
    cases hrec
    have hnamed : cmd.sessionId = sid.value := sessionOf_eq_some.mp hother
    apply hquiet
    rw [Finset.mem_singleton]
    exact SessionId.ext (hnamed.symm.trans hsess)
  | park sock => exact Kept.park hsound sock key

namespace Counted

variable {counted : Set (String × TerminalGeometry)}

theorem later {laterMs : Nat} (h : Counted sid nowMs counted registry)
    (hle : nowMs ≤ laterMs) : Counted sid laterMs counted registry :=
  ⟨h.flagged, fun key record hrec hsess hbinds =>
    h.full key record hrec hsess (viewConstrains_mono hle hbinds)⟩

theorem kept (h : Counted sid nowMs counted reg)
    (hkept : ∀ key, Kept sid nowMs (reg.views.lookup key) (registry'.views.lookup key)) :
    Counted sid nowMs counted registry' := by
  refine ⟨?_, ?_⟩
  · intro key geometry hmem
    obtain ⟨record, hrec, hsess, hgeom, hflag⟩ := h.flagged key geometry hmem
    have hkey := hkept key
    rw [hrec] at hkey
    generalize hfound : registry'.views.lookup key = found at hkey
    cases hkey with
    | same => exact ⟨record, rfl, hsess, hgeom, hflag⟩
    | foreign _ _ hfor => exact absurd hsess (hfor record rfl)
    | edited _ record' hintent hsam =>
      refine ⟨record', rfl, ?_, hintent ▸ hgeom, hsam.trans hflag⟩
      rw [sessionOf_congr (congrArg ViewIntent.sessionId hintent)]
      exact hsess
  intro key record' hrec' hsess hbinds
  have hkey := hkept key
  rw [hrec'] at hkey
  generalize hfound : reg.views.lookup key = found at hkey
  cases hkey with
  | same => exact h.full key record' hfound hsess hbinds
  | foreign _ _ _ hfor => exact absurd hsess (hfor record' rfl)
  | edited record _ hintent _ hstays =>
    rw [hintent]
    refine h.full key record hfound ?_ (hstays hbinds)
    rw [← sessionOf_congr (congrArg ViewIntent.sessionId hintent)]
    exact hsess

theorem moves {changed : Finset SessionId} (h : Counted sid nowMs counted reg)
    (hsound : Sound reg) (hmoves : Moves terms nowMs changed reg registry') (hquiet : sid ∉ changed)
    (hrenews : ∀ record, terms.renews record →
      viewConstrains (record.renewed nowMs) nowMs = true → viewConstrains record nowMs = true) :
    Counted sid nowMs counted registry' := by
  have hboth := hmoves.keeps (P := fun reg => Sound reg ∧ Counted sid nowMs counted reg)
    (fun _ _ _ hmove hrep ⟨hsound, hcount⟩ =>
      ⟨hsound.move hmove, hcount.kept (hmove.kept hsound (fun hmem => hquiet (hrep hmem)) hrenews)⟩)
    ⟨hsound, h⟩
  exact hboth.2

theorem afresh (h : Lapsed nowMs registry) :
    Counted sid nowMs (binding registry sid nowMs) registry := by
  refine ⟨?_, ?_⟩
  · rintro key geometry ⟨record, hrec, hsess, hbinds, hgeom⟩
    exact ⟨record, hrec, sessionOf_eq_some.mpr hsess, hgeom, h.flagged hrec hbinds⟩
  · intro key record hrec hsess hbinds
    exact ⟨record, hrec, sessionOf_eq_some.mp hsess, hbinds, rfl⟩

theorem empty (h : ∀ key, Foreign sid (registry.views.lookup key)) : Counted sid nowMs ∅ registry :=
  ⟨fun _ _ hmem => absurd hmem (Set.notMem_empty _),
    fun key record hrec hsess _ => absurd hsess (h key record hrec)⟩

end Counted

theorem closeSession_foreign (h : Sound reg) (sid : SessionId) (key : String) :
    Foreign sid ((reg.closeSession sid).1.views.lookup key) := by
  intro record hrec hsess
  unfold closeSession at hrec
  rw [dropAll_views] at hrec
  split at hrec
  · cases hrec
  rename_i hkept
  apply hkept
  rw [Index.mem_ascending, h.sessions.under, sessionAt, hrec]
  exact hsess

/-! ## The sweep -/

/-- What a sweep leaves of one record. -/
def swept (nowMs : Nat) (record : ViewRecord) : Option ViewRecord :=
  if record.deadlineMs > nowMs then
    if record.constrains && !viewConstrains record nowMs then
      some { record with constrains := false }
    else some record
  else none

theorem swept_eq_some (h : swept nowMs record = some record')
    (hflag : record'.constrains = true) : viewConstrains record' nowMs = true := by
  unfold swept at h
  split at h
  · split at h
    · cases h
      cases hflag
    · rename_i hbinds
      cases h
      simpa [hflag] using hbinds
  · cases h

theorem swept_swept (record : ViewRecord) :
    (swept nowMs record).bind (swept nowMs) = swept nowMs record := by
  unfold swept
  split
  · rename_i hlease
    split
    · simp [hlease]
    · rename_i hkept
      rw [Option.bind_some, if_pos hlease, if_neg hkept]
  · rfl

theorem sweepKey_views (state : ViewRegistry × MembershipOutcome) (key other : String) :
    (sweepKey nowMs state key).1.views.lookup other =
      if other = key then (state.1.views.lookup other).bind (swept nowMs)
      else state.1.views.lookup other := by
  unfold sweepKey
  dsimp only
  split
  · rename_i hnone
    split
    · rename_i hkey
      rw [hkey, hnone]
      rfl
    · rfl
  rename_i hrec
  split
  · rename_i hlease
    split
    · rename_i hlapsed
      rw [Table.lookup_modify]
      split
      · rename_i hkey
        rw [hkey, hrec]
        simp only [Option.map_some, Option.bind_some, swept, hlease, hlapsed, if_true]
      · rfl
    rename_i hkept
    split
    · rename_i hkey
      rw [hkey, hrec]
      simp only [Option.bind_some, swept, hlease, hkept, if_true]
      rfl
    · rfl
  · rename_i hlease
    rw [dropRecord_views]
    split
    · rename_i hkey
      rw [hkey, hrec]
      simp only [Option.bind_some, swept, hlease, if_false]
    · rfl

theorem sweepLoop_views (keys : List String) (state : ViewRegistry × MembershipOutcome)
    (other : String) : (keys.foldl (sweepKey nowMs) state).1.views.lookup other =
      if other ∈ keys then (state.1.views.lookup other).bind (swept nowMs)
      else state.1.views.lookup other := by
  induction keys generalizing state with
  | nil => simp
  | cons key keys ih =>
    rw [List.foldl_cons, ih, sweepKey_views]
    by_cases hkey : other = key
    · subst hkey
      simp [Option.bind_assoc, swept_swept]
    · simp [hkey]

theorem sweep_views (order : KeyOrder) (key : String) : (reg.sweep order nowMs).1.views.lookup key =
      (reg.views.lookup key).bind (swept nowMs) := by
  unfold sweep
  rw [sweepLoop_views]
  split
  · rfl
  rename_i hkey
  rw [(order.property _).mem_iff, ← AList.mem_keys, ← AList.lookup_isSome, Bool.not_eq_true,
    Option.isSome_eq_false_iff, Option.isNone_iff_eq_none] at hkey
  rw [hkey]
  rfl

theorem Counted.sweep {counted : Set (String × TerminalGeometry)} {order : KeyOrder}
    (h : Counted sid nowMs counted (reg.sweep order nowMs).1) :
    binding (reg.sweep order nowMs).1 sid nowMs = counted := by
  ext ⟨key, geometry⟩
  constructor
  · rintro ⟨record, hrec, hsess, hbinds, hgeom⟩
    subst hgeom
    exact h.full key record hrec (sessionOf_eq_some.mpr hsess) hbinds
  intro hmem
  obtain ⟨record, hrec, hsess, hgeom, hflag⟩ := h.flagged key geometry hmem
  refine ⟨record, hrec, sessionOf_eq_some.mp hsess, ?_, hgeom⟩
  rw [sweep_views] at hrec
  obtain ⟨_, -, hswept⟩ := Option.bind_eq_some_iff.mp hrec
  exact swept_eq_some hswept hflag

end Roost.TerminalView
