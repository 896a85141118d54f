-- SUMMARY: The handful of moves the registry's operations are made of.
import Roost.Protocol.TerminalView.Commands

/-!
# Moves

Eight operations change four maps, but in few ways. `Move` lists them, each with its guard
and with the sessions it reports as changed. Every operation is a sequence of moves, so an
invariant is shown once per move and never per operation.
-/

namespace Roost.TerminalView

open Relation.ReflTransGen (refl single)

open ViewRegistry

/-! ## The records moves leave behind -/

namespace ViewRecord

/-- A lease renewed by a same-revision command. -/
def renewed (record : ViewRecord) (nowMs : Nat) : ViewRecord :=
  { record with deadlineMs := leaseDeadline nowMs }

/-- A record after a newer declaration of its own socket. -/
def revised (record : ViewRecord) (command : TerminalViewCommand) (nowMs : Nat) : ViewRecord :=
  { record with
    intent := intentOf command
    revision := command.revision
    deadlineMs := leaseDeadline nowMs }

/-- A parked record taken over by another socket of its tab. -/
def reclaimed (record : ViewRecord) (socketId : String) (command : TerminalViewCommand)
    (nowMs : Nat) : ViewRecord :=
  { record with
    socketId
    intent := intentOf command
    revision := command.revision
    deadlineMs := leaseDeadline nowMs
    parked := false
    parkedAtMs := 0
    constrains := true }

/-- The record an admission writes. -/
def admitted (key : String) (caller : Caller) (command : TerminalViewCommand) (nowMs : Nat) :
    ViewRecord where
  key
  viewId := command.viewId
  viewerKey := caller.viewerKey
  fingerprint := caller.fingerprint
  socketId := caller.socketId
  intent := intentOf command
  revision := command.revision
  deadlineMs := leaseDeadline nowMs
  parked := false
  parkedAtMs := 0
  constrains := true

end ViewRecord

/-- A command that passed the trust boundary on a registered socket. -/
structure Called (registry : ViewRegistry) (caller : Caller) (command : TerminalViewCommand)
    (socket : SocketRecord) : Prop where
  registered : registry.sockets.lookup caller.socketId = some socket
  viewer : socket.viewerKey = some caller.viewerKey
  fingerprint : socket.fingerprint = caller.fingerprint
  valid : validateViewCommand socket.viewerKey command = none
  allowed : socket.allows command.sessionId = true
  viewId : isTerminalUuid command.viewId = true
  sessionId : isTerminalUuid command.sessionId = true
  geometry : command.active = true → isTerminalGeometry (intentOf command).geometry = true

def Caller.key (caller : Caller) (command : TerminalViewCommand) : String :=
  viewKey caller.viewerKey command.viewId

/-- What a run is known to be like: which registrations it makes, and which records a
same-revision command renews. -/
structure Terms where
  registers : SocketRegistration → Prop
  renews : ViewRecord → Prop

/-- One change of the registry at a time, with the sessions it reports. -/
inductive Move (terms : Terms) (nowMs : Nat) :
    ViewRegistry → Finset SessionId → ViewRegistry → Prop where
  /-- The retained claims change. -/
  | claims (registry : ViewRegistry) (tombstones : TombstoneStore) :
      Move terms nowMs registry ∅ { registry with tombstones }
  | scope (registry : ViewRegistry) (socketId : String)
      (f : SocketRecord → Finset String) :
      Move terms nowMs registry ∅
        { registry with
          sockets := registry.sockets.modify socketId fun socket =>
            { socket with allowedSessions := f socket } }
  /-- A record goes, with every index that names it. -/
  | drop (registry : ViewRegistry) (key : String) (record : ViewRecord) (save : Bool)
      (savedMs : Nat) (claim : Option (Nat × ViewIntent))
      (hrec : registry.views.lookup key = some record) :
      Move terms nowMs registry (sessionOf record).toFinset
        (registry.dropRecord key save savedMs claim)
  /-- A same-revision command of the owning socket renews a lease. -/
  | renew (registry : ViewRegistry) (key : String) (record : ViewRecord)
      (hrec : registry.views.lookup key = some record) (hrenews : terms.renews record) :
      Move terms nowMs registry ∅
        { registry with views := registry.views.insert key (record.renewed nowMs) }
  /-- A newer declaration of the owning socket resizes a view. -/
  | revise (registry : ViewRegistry) (key : String) (record : ViewRecord)
      (command : TerminalViewCommand) (hrec : registry.views.lookup key = some record)
      (hsess : command.sessionId = record.intent.sessionId) (hact : command.active = true)
      (hgeom : isTerminalGeometry (intentOf command).geometry = true) :
      Move terms nowMs registry (sessionOf record).toFinset
        { registry with views := registry.views.insert key (record.revised command nowMs) }
  /-- A park grace is seen to have elapsed. -/
  | lapse (registry : ViewRegistry) (key : String) (record : ViewRecord)
      (hrec : registry.views.lookup key = some record)
      (hlease : nowMs < record.deadlineMs) (hdead : viewConstrains record nowMs = false) :
      Move terms nowMs registry (sessionOf record).toFinset
        { registry with
          views := registry.views.modify key fun record => { record with constrains := false } }
  /-- A parked record is taken over by a socket of the same tab. -/
  | reclaim (registry : ViewRegistry) (caller : Caller) (command : TerminalViewCommand)
      (socket : SocketRecord) (record : ViewRecord) (hcalled : Called registry caller command socket)
      (hrec : registry.views.lookup (caller.key command) = some record)
      (hparked : record.parked = true) (hsess : command.sessionId = record.intent.sessionId)
      (hact : command.active = true) (hroom : socket.views.card < terminalSocketViewCap) :
      Move terms nowMs registry (sessionOf record).toFinset
        (modifyViews
          { registry with
            views := registry.views.insert (caller.key command)
              (record.reclaimed caller.socketId command nowMs) }
          caller.socketId (insert (caller.key command)))
  /-- A new record is admitted. -/
  | admission (registry : ViewRegistry) (caller : Caller) (command : TerminalViewCommand)
      (socket : SocketRecord) (sessionId : SessionId)
      (hcalled : Called registry caller command socket)
      (hnone : registry.views.lookup (caller.key command) = none)
      (hsess : command.sessionId = sessionId.value) (hact : command.active = true)
      (hroom : socket.views.card < terminalSocketViewCap)
      (hsessionRoom : (registry.sessionViews.under sessionId).card < sessionViewCap) :
      Move terms nowMs registry {sessionId}
        (modifyViews
          { registry with
            views := registry.views.insert (caller.key command)
              (ViewRecord.admitted (caller.key command) caller command nowMs)
            sessionViews := registry.sessionViews.add sessionId (caller.key command) }
          caller.socketId (insert (caller.key command)))
  | park (registry : ViewRegistry) (socketId : String) :
      Move terms nowMs registry ∅ (registry.closeSocket socketId nowMs)
  | join (registry : ViewRegistry) (registration : SocketRegistration)
      (hregisters : terms.registers registration)
      (hfree : registry.sockets.lookup registration.socketId = none) :
      Move terms nowMs registry ∅
        { registry with
          sockets := registry.sockets.insert registration.socketId registration.record }
  /-- The sockets of a device go after its records. -/
  | expel (registry : ViewRegistry) (fingerprint : String)
      (hgone : ∀ key record, registry.views.lookup key = some record →
        record.fingerprint ≠ fingerprint) :
      Move terms nowMs registry ∅
        { registry with
          sockets := registry.sockets.retain fun _ socket => socket.fingerprint != fingerprint }
  /-- An empty session leaves the index. -/
  | unindex (registry : ViewRegistry) (sessionId : SessionId)
      (hempty : registry.sessionViews.under sessionId = ∅) :
      Move terms nowMs registry ∅
        { registry with sessionViews := registry.sessionViews.erase sessionId }

open Move

def Moves (terms : Terms) (nowMs : Nat) (changed : Finset SessionId) :
    ViewRegistry → ViewRegistry → Prop :=
  Relation.ReflTransGen fun registry registry' =>
    ∃ reported, Move terms nowMs registry reported registry' ∧ reported ⊆ changed

variable {terms : Terms} {nowMs : Nat} {changed : Finset SessionId}
  {reg registry' : ViewRegistry}

theorem Move.moves {reported : Finset SessionId} (h : Move terms nowMs reg reported registry') :
    Moves terms nowMs reported reg registry' :=
  single ⟨reported, h, Finset.Subset.refl _⟩

theorem Moves.mono {changed' : Finset SessionId} (h : Moves terms nowMs changed reg registry')
    (hsub : changed ⊆ changed') : Moves terms nowMs changed' reg registry' :=
  Relation.ReflTransGen.mono
    (fun _ _ ⟨reported, hmove, hrep⟩ => ⟨reported, hmove, hrep.trans hsub⟩) _ _ h

theorem Move.quiet (h : Move terms nowMs reg ∅ registry') :
    Moves terms nowMs changed reg registry' :=
  h.moves.mono (Finset.empty_subset _)

/-- What one move keeps, every sequence of moves keeps. -/
theorem Moves.keeps {P : ViewRegistry → Prop} (h : Moves terms nowMs changed reg registry')
    (keep : ∀ reg reported registry', Move terms nowMs reg reported registry' →
      reported ⊆ changed → P reg → P registry') (hP : P reg) : P registry' := by
  induction h with
  | refl => exact hP
  | tail _ hmove ih =>
    obtain ⟨reported, hmove, hrep⟩ := hmove
    exact keep _ reported _ hmove hrep ih

/-! ## Commands -/

/-- Every record stands under its own key. -/
def Keyed (registry : ViewRegistry) : Prop :=
  ∀ key record, registry.views.lookup key = some record → record.key = key

inductive Handled (registry : ViewRegistry) (caller : Caller) (command : TerminalViewCommand)
    (nowMs : Nat) : ViewRegistry × MembershipOutcome → Prop where
  /-- No record changes, and an active command is not accepted. -/
  | settled (tombstones : TombstoneStore) (outcome : MembershipOutcome)
      (hchange : outcome.changed = ∅)
      (hacc : command.active = true → outcome.accepts = false) :
      Handled registry caller command nowMs ({ registry with tombstones }, outcome)
  | released (record : ViewRecord) (claim : Option (Nat × ViewIntent)) (outcome : MembershipOutcome)
      (hrec : registry.views.lookup (caller.key command) = some record)
      (hinactive : command.active = false)
      (hchange : outcome.changed = (sessionOf record).toFinset) :
      Handled registry caller command nowMs
        (registry.dropRecord (caller.key command) true nowMs claim, outcome)
  /-- A same-revision command renews the lease, whether or not its intent conflicts. -/
  | renewed (record : ViewRecord) (outcome : MembershipOutcome)
      (hrec : registry.views.lookup (caller.key command) = some record)
      (hsock : record.socketId = caller.socketId) (hrev : command.revision = record.revision)
      (hchange : outcome.changed = ∅) :
      Handled registry caller command nowMs
        ({ registry with views := registry.views.insert (caller.key command) (record.renewed nowMs) },
          outcome)
  /-- A newer declaration of the owning socket. -/
  | revised (record : ViewRecord) (outcome : MembershipOutcome)
      (hrec : registry.views.lookup (caller.key command) = some record)
      (hsock : record.socketId = caller.socketId)
      (hsess : command.sessionId = record.intent.sessionId) (hact : command.active = true)
      (hchange : outcome.changed = (sessionOf record).toFinset) :
      Handled registry caller command nowMs
        ({ registry with
            views := registry.views.insert (caller.key command) (record.revised command nowMs) },
          outcome)
  /-- A parked record of another socket is taken over. -/
  | reclaimed (record : ViewRecord) (outcome : MembershipOutcome)
      (hrec : registry.views.lookup (caller.key command) = some record)
      (hsock : record.socketId ≠ caller.socketId) (hparked : record.parked = true)
      (hsess : command.sessionId = record.intent.sessionId) (hact : command.active = true)
      (hroom : registry.viewCount caller.socketId < terminalSocketViewCap)
      (hchange : outcome.changed = (sessionOf record).toFinset) :
      Handled registry caller command nowMs
        (modifyViews
          { registry with
            views := registry.views.insert (caller.key command)
              (record.reclaimed caller.socketId command nowMs) }
          caller.socketId (insert (caller.key command)), outcome)
  /-- A new record is admitted. -/
  | admitted (tombstones : TombstoneStore) (sessionId : SessionId) (outcome : MembershipOutcome)
      (hnone : registry.views.lookup (caller.key command) = none)
      (hsess : command.sessionId = sessionId.value) (hact : command.active = true)
      (hroom : registry.viewCount caller.socketId < terminalSocketViewCap)
      (hsessionRoom : (registry.sessionViews.under sessionId).card < sessionViewCap)
      (hchange : outcome.changed = {sessionId}) :
      Handled registry caller command nowMs
        (modifyViews
          { registry with
            views := registry.views.insert (caller.key command)
              (ViewRecord.admitted (caller.key command) caller command nowMs)
            sessionViews := registry.sessionViews.add sessionId (caller.key command)
            tombstones }
          caller.socketId (insert (caller.key command)), outcome)

section Commands

variable {caller : Caller} {cmd : TerminalViewCommand}

theorem handled_refuse (reason : String) : Handled reg caller cmd nowMs
      (reg, MembershipOutcome.refuse caller.socketId cmd reason) :=
  .settled reg.tombstones _ rfl fun _ => rfl

theorem handled_inactive (tombstones : TombstoneStore) (h : cmd.active = false)
    (replies : List PendingReply) :
    Handled reg caller cmd nowMs ({ reg with tombstones }, { replies }) :=
  .settled tombstones _ rfl fun hact => absurd (h ▸ hact) (by decide)

variable {record : ViewRecord}

theorem handled_release
    (hrec : reg.views.lookup (caller.key cmd) = some record) (hinactive : cmd.active = false) :
    Handled reg caller cmd nowMs (reg.release caller.socketId cmd (caller.key cmd) nowMs) := by
  refine .released record _ _ hrec hinactive ?_
  rw [hrec]
  rfl

theorem reclaim_handled
    (hrec : reg.views.lookup (caller.key cmd) = some record)
    (hsock : record.socketId ≠ caller.socketId) : Handled reg caller cmd nowMs
      (reg.reclaim caller cmd record (caller.key cmd) nowMs) := by
  unfold ViewRegistry.reclaim
  split
  · exact handled_refuse _
  rename_i hparked
  split
  · exact handled_refuse _
  split
  · exact handled_refuse _
  rename_i hsess
  split
  · rename_i hinactive
    exact handled_release hrec (by simpa using hinactive)
  rename_i hact
  split
  · exact handled_refuse _
  · rename_i hroom
    exact .reclaimed record _ hrec hsock (by simpa using hparked) (not_not.mp hsess)
      (by simpa using hact) (Nat.not_le.mp hroom) rfl

theorem update_handled (hkeyed : Keyed reg)
    (hrec : reg.views.lookup (caller.key cmd) = some record)
    (hsock : record.socketId = caller.socketId) :
    Handled reg caller cmd nowMs (reg.update caller cmd record nowMs) := by
  have hkey := hkeyed _ _ hrec
  unfold update
  split
  · exact handled_refuse _
  split
  · rename_i hrev
    have hinsert : reg.views.insert record.key
        { record with deadlineMs := ViewRecord.leaseDeadline nowMs } =
          reg.views.insert (caller.key cmd) (record.renewed nowMs) :=
      congrArg (reg.views.insert · (record.renewed nowMs)) hkey
    dsimp only
    rw [hinsert]
    split <;> exact .renewed record _ hrec hsock hrev rfl
  split
  · exact handled_refuse _
  rename_i hsess
  split
  · rename_i hinactive
    rw [hkey]
    exact handled_release hrec (by simpa using hinactive)
  rename_i hact
  have hinsert : reg.views.insert record.key (record.revised cmd nowMs) =
      reg.views.insert (caller.key cmd) (record.revised cmd nowMs) :=
    congrArg (reg.views.insert · (record.revised cmd nowMs)) hkey
  have hhandle : Handled reg caller cmd nowMs _ := .revised record
    { changed := (sessionOf record).toFinset
      replies := [MembershipOutcome.answerView (record.revised cmd nowMs) .accepted ""] }
    hrec hsock (not_not.mp hsess) (by simpa using hact) rfl
  rw [← hinsert] at hhandle
  exact hhandle

theorem admitUnclaimed_handled (tombstones : TombstoneStore)
    (hnone : reg.views.lookup (caller.key cmd) = none) : Handled reg caller cmd nowMs
      (admitUnclaimed { reg with tombstones } caller cmd (caller.key cmd) nowMs) := by
  unfold admitUnclaimed
  split
  · rename_i hinactive
    exact handled_inactive _ (by simpa using hinactive) _
  rename_i hact
  split
  · exact .settled tombstones _ rfl fun _ => rfl
  rename_i hroom
  split
  · exact .settled tombstones _ rfl fun _ => rfl
  rename_i sid htry
  split
  · exact .settled tombstones _ rfl fun _ => rfl
  rename_i hsessionRoom
  have hsess : cmd.sessionId = sid.value := by
    unfold SessionId.tryFrom at htry
    split at htry
    · cases htry
      rfl
    · cases htry
  exact .admitted tombstones sid _ hnone hsess (by simpa using hact)
    (Nat.not_le.mp hroom) (Nat.not_le.mp hsessionRoom) rfl

theorem admitView_handled (hnone : reg.views.lookup (caller.key cmd) = none) :
    Handled reg caller cmd nowMs (reg.admitView caller cmd (caller.key cmd) nowMs) := by
  unfold admitView
  split
  · exact admitUnclaimed_handled reg.tombstones hnone
  split
  · exact handled_refuse _
  split
  · exact handled_refuse _
  split
  · rename_i hinactive
    exact handled_inactive reg.tombstones (by simpa using hinactive.2) _
  · exact admitUnclaimed_handled _ hnone

theorem validateViewCommand_eq_none {viewerKey : Option String}
    (h : validateViewCommand viewerKey cmd = none) :
    isTerminalUuid cmd.viewId = true ∧ isTerminalUuid cmd.sessionId = true ∧
      (cmd.active = true → isTerminalGeometry (intentOf cmd).geometry = true) := by
  unfold validateViewCommand at h
  simp only [ite_eq_right_iff, reduceCtorEq, imp_false, ite_eq_iff, and_false, false_or] at h
  obtain ⟨-, hview, hsess, -, hgeom, -⟩ := h
  refine ⟨by simpa using hview, by simpa using hsess, ?_⟩
  intro hact
  simpa [hact, ViewIntent.geometry, intentOf] using hgeom

theorem handleViewCommand_cases (hkeyed : Keyed reg) (sock : String) (cmd : TerminalViewCommand)
    (nowMs : Nat) : (∃ outcome, reg.handleViewCommand sock cmd nowMs = (reg, outcome) ∧
        outcome.changed = ∅ ∧ outcome.accepts = false) ∨
      ∃ caller socket, caller.socketId = sock ∧ Called reg caller cmd socket ∧
        Handled reg caller cmd nowMs (reg.handleViewCommand sock cmd nowMs) := by
  unfold handleViewCommand
  split
  · exact Or.inl ⟨_, rfl, rfl, rfl⟩
  rename_i socket hsock
  split
  · exact Or.inl ⟨_, rfl, rfl, rfl⟩
  rename_i hvalid
  obtain ⟨hview, hsess, hgeom⟩ := validateViewCommand_eq_none hvalid
  split
  · exact Or.inl ⟨_, rfl, rfl, rfl⟩
  rename_i hallow
  split
  · exact Or.inl ⟨_, rfl, rfl, rfl⟩
  rename_i viewerKey hviewer
  refine Or.inr ⟨{ socketId := sock, viewerKey, fingerprint := socket.fingerprint }, socket, rfl,
    ⟨hsock, hviewer, rfl, hvalid, by simpa using hallow, hview, hsess, hgeom⟩, ?_⟩
  dsimp only
  split
  · rename_i hcur
    split
    · rename_i hother
      exact reclaim_handled hcur hother
    · rename_i hsame
      exact update_handled hkeyed hcur (not_not.mp hsame)
  · rename_i hnone
    exact admitView_handled hnone

theorem Handled.moves {socket : SocketRecord} {outcome : MembershipOutcome}
    (hcalled : Called registry caller cmd socket)
    (h : Handled registry caller cmd nowMs (registry', outcome))
    (hrenews : ∀ record, registry.views.lookup (caller.key cmd) = some record →
      record.socketId = caller.socketId → cmd.revision = record.revision → terms.renews record) :
    Moves terms nowMs outcome.changed registry registry' := by
  have hcount : registry.viewCount caller.socketId = socket.views.card := by
    simp [viewCount, hcalled.registered]
  cases h with
  | settled tombstones _ hchange =>
    rw [hchange]
    exact (claims registry tombstones).moves
  | released record claim _ hrec _ hchange =>
    rw [hchange]
    exact (drop registry _ record true nowMs claim hrec).moves
  | renewed record _ hrec hsock hrev hchange =>
    rw [hchange]
    exact (renew registry _ record hrec (hrenews record hrec hsock hrev)).moves
  | revised record _ hrec _ hsess hact hchange =>
    rw [hchange]
    exact (revise registry _ record cmd hrec hsess hact (hcalled.geometry hact)).moves
  | reclaimed record _ hrec _ hparked hsess hact hroom hchange =>
    rw [hchange]
    exact (reclaim registry caller cmd socket record hcalled hrec hparked hsess
      hact (hcount ▸ hroom)).moves
  | admitted tombstones sid _ hnone hsess hact hroom hsessionRoom hchange =>
    -- The claim the record replaces goes first.
    rw [hchange]
    have hcalled' : Called { registry with tombstones } caller cmd socket :=
      ⟨hcalled.registered, hcalled.viewer, hcalled.fingerprint, hcalled.valid, hcalled.allowed,
        hcalled.viewId, hcalled.sessionId, hcalled.geometry⟩
    have hadmits : Move terms nowMs { registry with tombstones } {sid} _ :=
      admission { registry with tombstones } caller cmd socket sid hcalled' hnone
        hsess hact (hcount ▸ hroom) hsessionRoom
    exact (claims registry tombstones).quiet.trans hadmits.moves

end Commands

/-! ## Sockets, revocation and the sweep -/

theorem dropRecord_views (key : String) (save : Bool) (nowMs : Nat)
    (claim : Option (Nat × ViewIntent)) (other : String) :
    (reg.dropRecord key save nowMs claim).views.lookup other =
      if other = key then none else reg.views.lookup other := by
  unfold dropRecord
  split
  · rename_i hnone
    split
    · rename_i h
      rw [h, hnone]
    · rfl
  · rename_i record hsome
    have herase : AList.lookup other (reg.views.erase key) =
        if other = key then none else reg.views.lookup other := Table.lookup_erase key other
    cases hsess : sessionOf record <;> cases save <;> exact herase

theorem dropRecord_moves (key : String) (save : Bool) (savedMs : Nat)
    (claim : Option (Nat × ViewIntent)) (h : ∀ record, registry.views.lookup key = some record →
      (sessionOf record).toFinset ⊆ changed) :
    Moves terms nowMs changed registry (registry.dropRecord key save savedMs claim) := by
  cases hrec : registry.views.lookup key with
  | none =>
    have hsame : registry.dropRecord key save savedMs claim = registry := by
      simp [dropRecord, hrec]
    rw [hsame]
    exact refl
  | some record =>
    exact (drop registry key record save savedMs claim hrec).moves.mono (h record hrec)

theorem dropAll_views (keys : List String) (other : String) :
    (reg.dropAll keys).views.lookup other =
      if other ∈ keys then none else reg.views.lookup other := by
  unfold dropAll
  induction keys generalizing reg with
  | nil => simp
  | cons key keys ih =>
    rw [List.foldl_cons, ih, dropRecord_views]
    by_cases hmem : other ∈ keys
    · simp [hmem]
    · by_cases hkey : other = key
      · simp [hkey]
      · simp [hmem, hkey]

theorem dropAll_moves {keys : List String}
    (h : ∀ key ∈ keys, ∀ record, reg.views.lookup key = some record →
      (sessionOf record).toFinset ⊆ changed) :
    Moves terms nowMs changed reg (reg.dropAll keys) := by
  induction keys generalizing reg with
  | nil => exact refl
  | cons key keys ih =>
    refine (dropRecord_moves key false 0 none (h key List.mem_cons_self)).trans (ih ?_)
    intro other hmem record hrec
    rw [dropRecord_views] at hrec
    split at hrec
    · cases hrec
    · exact h other (List.mem_cons_of_mem _ hmem) record hrec

theorem removeFingerprint_moves (fingerprint : String) :
    Moves terms nowMs (reg.removeFingerprint fingerprint).2.changed reg
      (reg.removeFingerprint fingerprint).1 := by
  unfold removeFingerprint
  generalize hdoomed :
    reg.views.entries.filter (fun entry => entry.2.fingerprint == fingerprint) = doomed
  have hmem : ∀ key record, ⟨key, record⟩ ∈ doomed ↔
      reg.views.lookup key = some record ∧ record.fingerprint = fingerprint := by
    intro key record
    rw [← hdoomed, List.mem_filter, Table.lookup_eq_some_iff, beq_iff_eq]
  have hdrop : Moves terms nowMs (doomed.filterMap fun entry => sessionOf entry.2).toFinset
      reg (reg.dropAll (doomed.map Sigma.fst)) := by
    apply dropAll_moves
    intro key hkey record hrec sid hsess
    obtain ⟨⟨_, found⟩, hfound, rfl⟩ := List.mem_map.mp hkey
    obtain ⟨hlook, -⟩ := (hmem _ found).mp hfound
    cases hlook.symm.trans hrec
    rw [Option.mem_toFinset] at hsess
    exact List.mem_toFinset.mpr (List.mem_filterMap.mpr ⟨_, hfound, hsess⟩)
  refine hdrop.trans ((expel _ fingerprint ?_).quiet.trans (claims _ _).quiet)
  intro key record hrec heq
  rw [dropAll_views] at hrec
  split at hrec
  · cases hrec
  · rename_i hkept
    exact hkept (List.mem_map.mpr ⟨_, (hmem key record).mpr ⟨hrec, heq⟩, rfl⟩)

theorem sweepKey_moves (terms : Terms) (nowMs : Nat) (state : ViewRegistry × MembershipOutcome)
    (key : String) : state.2.changed ⊆ (sweepKey nowMs state key).2.changed ∧
      Moves terms nowMs (sweepKey nowMs state key).2.changed state.1
        (sweepKey nowMs state key).1 := by
  obtain ⟨reg, _⟩ := state
  unfold sweepKey
  dsimp only
  split
  · exact ⟨Finset.Subset.refl _, refl⟩
  rename_i record hrec
  split
  · rename_i hlease
    split
    · rename_i hlapsed
      refine ⟨Finset.subset_union_left, ?_⟩
      have hdead : viewConstrains record nowMs = false := by
        simp only [Bool.and_eq_true, Bool.not_eq_true'] at hlapsed
        exact hlapsed.2
      exact (lapse reg key record hrec hlease hdead).moves.mono Finset.subset_union_right
    · exact ⟨Finset.Subset.refl _, refl⟩
  · refine ⟨Finset.subset_union_left, ?_⟩
    exact (drop reg key record true nowMs none hrec).moves.mono Finset.subset_union_right

theorem sweepLoop_moves (terms : Terms) (nowMs : Nat) (keys : List String)
    (state : ViewRegistry × MembershipOutcome) :
    state.2.changed ⊆ (keys.foldl (sweepKey nowMs) state).2.changed ∧
      Moves terms nowMs (keys.foldl (sweepKey nowMs) state).2.changed state.1
        (keys.foldl (sweepKey nowMs) state).1 := by
  induction keys generalizing state with
  | nil => exact ⟨Finset.Subset.refl _, refl⟩
  | cons key keys ih =>
    obtain ⟨hsub, hmoves⟩ := sweepKey_moves terms nowMs state key
    obtain ⟨hsub', hmoves'⟩ := ih (sweepKey nowMs state key)
    exact ⟨hsub.trans hsub', (hmoves.mono hsub').trans hmoves'⟩

theorem sweep_moves (order : KeyOrder) : Moves terms nowMs (reg.sweep order nowMs).2.changed reg
      (reg.sweep order nowMs).1 := by
  obtain ⟨-, hmoves⟩ :=
    sweepLoop_moves terms nowMs (order.val reg.views.keys) (reg, {})
  exact hmoves.trans (claims _ _).quiet

end Roost.TerminalView
