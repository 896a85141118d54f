-- SUMMARY: What every move of the registry keeps.
import Roost.Protocol.TerminalView.Moves

/-!
# Membership

The records are the truth; the session index and the sockets' view sets are two ways of
looking it up. A registry is sound when every record passed the trust boundary, the
session index groups the records by session, a key in a view set is a live record of that
socket, and both caps hold. Every move keeps a registry sound, and so does every run.
-/

namespace Roost.TerminalView

open Index Table ViewRecord ViewRegistry

def ViewRegistry.socketViews (registry : ViewRegistry) (socketId : String) : Finset String :=
  ((registry.sockets.lookup socketId).map SocketRecord.views).getD ∅

def ViewRegistry.sessionAt (registry : ViewRegistry) (key : String) : Option SessionId :=
  (registry.views.lookup key).bind sessionOf

/-- A record that passed the trust boundary, under its own key. -/
structure RecordOk (key : String) (record : ViewRecord) : Prop where
  stored : record.key = key
  named : key = viewKey record.viewerKey record.viewId
  viewId : isTerminalUuid record.viewId = true
  sessionId : isTerminalUuid record.intent.sessionId = true
  active : record.intent.active = true
  geometry : isTerminalGeometry record.intent.geometry = true

/-- The part of the invariant that no assumption on registrations is needed for. -/
structure Sound (registry : ViewRegistry) : Prop where
  records : ∀ key record, registry.views.lookup key = some record → RecordOk key record
  sessions : registry.sessionViews.Indexes registry.sessionAt
  owned : ∀ socketId key, key ∈ registry.socketViews socketId →
    ∃ record, registry.views.lookup key = some record ∧ record.parked = false ∧
      record.socketId = socketId
  socketCap : ∀ socketId, (registry.socketViews socketId).card ≤ terminalSocketViewCap
  sessionCap : ∀ sessionId, (registry.sessionViews.under sessionId).card ≤ sessionViewCap

variable {registry : ViewRegistry}

theorem Sound.keyed (h : Sound registry) : Keyed registry :=
  fun key record hrec => (h.records key record hrec).stored

/-! ## What moves do to view sets and records -/

section Effects

variable {registry : ViewRegistry}

variable {sock key : String} {socket : SocketRecord} {record : ViewRecord}

theorem mem_socketViews : key ∈ registry.socketViews sock ↔
      ∃ socket, registry.sockets.lookup sock = some socket ∧ key ∈ socket.views := by
  unfold socketViews
  cases registry.sockets.lookup sock <;> simp

theorem socketViews_modifyViews (sock : String) (f : Finset String → Finset String)
    (other : String) : (registry.modifyViews sock f).socketViews other =
      if other = sock then ((registry.sockets.lookup other).map (f ·.views)).getD ∅
      else registry.socketViews other := by
  unfold socketViews modifyViews
  rw [lookup_modify]
  split
  · rw [Option.map_map]
    rfl
  · rfl

section

variable (hsock : registry.sockets.lookup sock = some socket)
include hsock

theorem socketViews_of_lookup : registry.socketViews sock = socket.views := by
  rw [socketViews, hsock]
  rfl

theorem socketViews_grow (other : String) :
    (registry.modifyViews sock (insert key)).socketViews other =
      if other = sock then insert key (registry.socketViews other)
      else registry.socketViews other := by
  rw [socketViews_modifyViews]
  split
  · rename_i h
    subst h
    rw [socketViews_of_lookup hsock, hsock]
    rfl
  · rfl

theorem mem_socketViews_grow {holder other : String} :
    other ∈ (registry.modifyViews sock (insert key)).socketViews holder ↔
      (holder = sock ∧ other = key) ∨ other ∈ registry.socketViews holder := by
  rw [socketViews_grow hsock]
  split
  · rename_i hhold
    rw [Finset.mem_insert]
    simp [hhold]
  · rename_i hhold
    simp [hhold]

end

variable (sock)

theorem socketViews_scope (f : SocketRecord → Finset String) (other : String) :
    socketViews { registry with
          sockets := registry.sockets.modify sock fun socket =>
            { socket with allowedSessions := f socket } } other =
      registry.socketViews other := by
  unfold socketViews
  rw [lookup_modify]
  split
  · rw [Option.map_map]
    rfl
  · rfl

theorem socketViews_join (registration : SocketRegistration) (other : String) : socketViews
        { registry with
          sockets := registry.sockets.insert registration.socketId registration.record } other =
      if other = registration.socketId then ∅ else registry.socketViews other := by
  unfold socketViews
  rw [lookup_insert]
  split <;> rfl

theorem socketViews_closeSocket (nowMs : Nat) (other : String) :
    (registry.closeSocket sock nowMs).socketViews other =
      if other = sock then ∅ else registry.socketViews other := by
  unfold closeSocket
  split
  · rename_i hnone
    split
    · rename_i h
      rw [socketViews, h, hnone]
      rfl
    · rfl
  · unfold socketViews
    rw [lookup_erase]
    split <;> rfl

theorem socketViews_expel_subset (p : String → SocketRecord → Bool) (other : String) :
    socketViews { registry with sockets := registry.sockets.retain p } other ⊆
      registry.socketViews other := by
  intro key hkey
  obtain ⟨socket, hsock, hmem⟩ := mem_socketViews.mp hkey
  rw [lookup_retain, Option.filter_eq_some_iff] at hsock
  exact mem_socketViews.mpr ⟨socket, hsock.1, hmem⟩

theorem sockets_dropRecord (save : Bool) (nowMs : Nat)
    (claim : Option (Nat × ViewIntent)) (hrec : registry.views.lookup key = some record) :
    (registry.dropRecord key save nowMs claim).sockets =
      (registry.modifyViews record.socketId (·.erase key)).sockets := by
  unfold dropRecord
  rw [hrec]
  dsimp only
  cases sessionOf record <;> cases save <;> rfl

theorem socketViews_dropRecord (save : Bool) (nowMs : Nat)
    (claim : Option (Nat × ViewIntent)) (hrec : registry.views.lookup key = some record)
    (other : String) : (registry.dropRecord key save nowMs claim).socketViews other =
      if other = record.socketId then (registry.socketViews other).erase key
      else registry.socketViews other := by
  unfold socketViews
  rw [sockets_dropRecord save nowMs claim hrec]
  change (registry.modifyViews record.socketId (·.erase key)).socketViews other = _
  rw [socketViews_modifyViews]
  split
  · cases registry.sockets.lookup other <;> simp
  · rfl

theorem sessionViews_dropRecord (save : Bool) (nowMs : Nat)
    (claim : Option (Nat × ViewIntent)) (hrec : registry.views.lookup key = some record)
    {sid : SessionId} (hsess : sessionOf record = some sid) :
    (registry.dropRecord key save nowMs claim).sessionViews =
      registry.sessionViews.drop sid key := by
  unfold dropRecord
  rw [hrec]
  dsimp only
  rw [hsess]
  cases save <;> rfl

theorem park_park (record : ViewRecord) (sock : String) (nowMs : Nat) :
    (record.park sock nowMs).park sock nowMs = record.park sock nowMs := by
  unfold park
  split <;> rfl

theorem lookup_parkAll (nowMs : Nat) (keys : List String)
    (views : Table String ViewRecord) (other : String) : AList.lookup other (keys.foldl
        (fun views key => modify views key (·.park sock nowMs)) views) =
      if other ∈ keys then (views.lookup other).map (·.park sock nowMs)
      else views.lookup other := by
  induction keys generalizing views with
  | nil => simp
  | cons key keys ih =>
    rw [List.foldl_cons, ih, lookup_modify]
    by_cases hkey : other = key
    · subst hkey
      simp [Function.comp_def, park_park]
    · simp [hkey]

theorem closeSocket_views (nowMs : Nat) (key : String) :
    (registry.closeSocket sock nowMs).views.lookup key = if key ∈ registry.socketViews sock then
        (registry.views.lookup key).map (·.park sock nowMs) else registry.views.lookup key := by
  unfold closeSocket
  split
  · rename_i hnone
    rw [if_neg]
    intro hmem
    obtain ⟨_, hsock, -⟩ := mem_socketViews.mp hmem
    cases hnone.symm.trans hsock
  · rename_i hsock
    rw [lookup_parkAll]
    simp [socketViews, hsock]

theorem closeSocket_sockets (nowMs : Nat) (other : String) :
    (registry.closeSocket sock nowMs).sockets.lookup other =
      if other = sock then none else registry.sockets.lookup other := by
  unfold closeSocket
  split
  · rename_i hnone
    split
    · rename_i h
      rw [h, hnone]
    · rfl
  · exact lookup_erase sock other

variable {sock}

theorem modify_constrains (hrec : registry.views.lookup key = some record) :
    registry.views.modify key (fun record => { record with constrains := false }) =
      registry.views.insert key { record with constrains := false } := by
  rw [Table.modify, hrec]

theorem lookup_overwrite (hrec : registry.views.lookup key = some record) (record' : ViewRecord)
    (other : String) : AList.lookup other (registry.views.insert key record') =
      (registry.views.lookup other).map fun old => if other = key then record' else old := by
  rw [lookup_insert]
  split
  · rename_i h
    subst h
    rw [hrec]
    rfl
  · simp

theorem sessionAt_insert (reg : ViewRegistry) (key : String)
    {sid : SessionId} (hsess : sessionOf record = some sid) :
    (fun other => (AList.lookup other (reg.views.insert key record)).bind sessionOf) =
      Function.update reg.sessionAt key (some sid) := by
  funext other
  rw [lookup_insert]
  by_cases hkey : other = key
  · subst hkey
    simpa using hsess
  · simp [hkey, sessionAt]

theorem sessionAt_dropRecord (reg : ViewRegistry) (key : String) (save : Bool)
    (savedMs : Nat) (claim : Option (Nat × ViewIntent)) :
    (reg.dropRecord key save savedMs claim).sessionAt = Function.update reg.sessionAt key none := by
  funext other
  unfold sessionAt
  rw [dropRecord_views]
  by_cases hkey : other = key
  · subst hkey
    simp
  · simp [hkey]

end Effects

/-! ## Moves keep the registry sound -/

namespace Sound

variable {registry registry' : ViewRegistry} {terms : Terms} {nowMs : Nat}

theorem frame (h : Sound registry) (hviews : registry'.views = registry.views)
    (hsessions : registry'.sessionViews = registry.sessionViews)
    (hsockets : ∀ sock, registry'.socketViews sock ⊆ registry.socketViews sock) :
    Sound registry' := by
  have hsessionAt : registry'.sessionAt = registry.sessionAt := by
    funext key
    rw [sessionAt, hviews]
    rfl
  refine ⟨hviews ▸ h.records, ?_, ?_, ?_, hsessions ▸ h.sessionCap⟩
  · rw [hsessions, hsessionAt]
    exact h.sessions
  · intro sock key hkey
    rw [hviews]
    exact h.owned sock key (hsockets sock hkey)
  · intro sock
    exact Nat.le_trans (Finset.card_le_card (hsockets sock)) (h.socketCap sock)

theorem rewrite (h : Sound registry) {f : String → ViewRecord → ViewRecord}
    (hviews : ∀ key, registry'.views.lookup key = (registry.views.lookup key).map (f key))
    (hsessions : registry'.sessionViews = registry.sessionViews)
    (hf : ∀ key record, registry.views.lookup key = some record → RecordOk key (f key record) ∧
        (f key record).intent.sessionId = record.intent.sessionId)
    (howned : ∀ sock key, key ∈ registry'.socketViews sock →
      ∃ record, registry.views.lookup key = some record ∧ (f key record).parked = false ∧
        (f key record).socketId = sock)
    (hcap : ∀ sock, (registry'.socketViews sock).card ≤ terminalSocketViewCap) :
    Sound registry' := by
  have hsessionAt : registry'.sessionAt = registry.sessionAt := by
    funext key
    unfold sessionAt
    rw [hviews]
    cases hrec : registry.views.lookup key with
    | none => rfl
    | some record => exact sessionOf_congr (hf key record hrec).2
  refine ⟨?_, ?_, ?_, hcap, hsessions ▸ h.sessionCap⟩
  · intro key record' hrec'
    rw [hviews, Option.map_eq_some_iff] at hrec'
    obtain ⟨record, hrec, rfl⟩ := hrec'
    exact (hf key record hrec).1
  · rw [hsessions, hsessionAt]
    exact h.sessions
  · intro sock key hkey
    obtain ⟨record, hrec, hlive⟩ := howned sock key hkey
    exact ⟨f key record, by rw [hviews, hrec]; rfl, hlive⟩

variable {key : String} {record : ViewRecord} {socket : SocketRecord}

section

variable (h : Sound registry)
include h

theorem overwrite (record' : ViewRecord) (hrec : registry.views.lookup key = some record)
    (hok : RecordOk key record') (hsess : record'.intent.sessionId = record.intent.sessionId)
    (hsame : record'.parked = record.parked ∧ record'.socketId = record.socketId) :
    Sound { registry with views := registry.views.insert key record' } := by
  refine h.rewrite (lookup_overwrite hrec record') rfl ?_ ?_ h.socketCap
  · intro other old hold
    by_cases hkey : other = key
    · subst hkey
      cases hrec.symm.trans hold
      simpa using ⟨hok, hsess⟩
    · simpa [hkey] using h.records other old hold
  intro sock other hmem
  obtain ⟨old, hold, hlive⟩ := h.owned sock other hmem
  refine ⟨old, hold, ?_⟩
  by_cases hkey : other = key
  · subst hkey
    cases hrec.symm.trans hold
    simpa [hsame.1, hsame.2] using hlive
  · simpa [hkey] using hlive

theorem drop (save : Bool) (savedMs : Nat) (claim : Option (Nat × ViewIntent))
    (hrec : registry.views.lookup key = some record) :
    Sound (registry.dropRecord key save savedMs claim) := by
  obtain ⟨sid, hsess⟩ := sessionOf_isSome (h.records key record hrec).sessionId
  have hat : registry.sessionAt key = some sid := by
    rw [sessionAt, hrec]
    exact hsess
  refine ⟨?_, ?_, ?_, ?_, ?_⟩
  · intro other old hold
    rw [dropRecord_views] at hold
    split at hold
    · cases hold
    · exact h.records other old hold
  · rw [sessionViews_dropRecord save savedMs claim hrec hsess, sessionAt_dropRecord]
    exact h.sessions.drop hat
  · intro sock other hmem
    rw [socketViews_dropRecord save savedMs claim hrec] at hmem
    rw [dropRecord_views]
    split at hmem
    · obtain ⟨hne, hmem⟩ := Finset.mem_erase.mp hmem
      rw [if_neg hne]
      exact h.owned sock other hmem
    rename_i hsock
    obtain ⟨old, hold, hparked, hsame⟩ := h.owned sock other hmem
    rw [if_neg]
    · exact ⟨old, hold, hparked, hsame⟩
    intro hkey
    subst hkey
    cases hrec.symm.trans hold
    exact hsock hsame.symm
  · intro sock
    rw [socketViews_dropRecord save savedMs claim hrec]
    split
    · exact Nat.le_trans Finset.card_erase_le (h.socketCap sock)
    · exact h.socketCap sock
  · intro other
    rw [sessionViews_dropRecord save savedMs claim hrec hsess]
    exact card_under_drop_le h.sessionCap other

theorem card_grow {sock : String} (hsock : registry.sockets.lookup sock = some socket)
    (hroom : socket.views.card < terminalSocketViewCap) (other : String) :
    ((registry.modifyViews sock (insert key)).socketViews other).card ≤ terminalSocketViewCap := by
  rw [socketViews_grow hsock]
  split
  · rename_i heq
    subst heq
    rw [socketViews_of_lookup hsock]
    exact Nat.le_trans (Finset.card_insert_le _ _) hroom
  · exact h.socketCap other

variable {cmd : TerminalViewCommand}

theorem reclaim {caller : Caller} (nowMs : Nat)
    (hcalled : Called registry caller cmd socket)
    (hrec : registry.views.lookup (caller.key cmd) = some record) (hparked : record.parked = true)
    (hsess : cmd.sessionId = record.intent.sessionId) (hact : cmd.active = true)
    (hroom : socket.views.card < terminalSocketViewCap) : Sound (modifyViews { registry with
        views := registry.views.insert (caller.key cmd)
          (record.reclaimed caller.socketId cmd nowMs) }
      caller.socketId (insert (caller.key cmd))) := by
  have hok := h.records _ record hrec
  refine h.rewrite (lookup_overwrite hrec (record.reclaimed caller.socketId cmd nowMs)) rfl
    ?_ ?_ (h.card_grow hcalled.registered hroom)
  · intro other old hold
    by_cases hkey : other = caller.key cmd
    · subst hkey
      cases hrec.symm.trans hold
      rw [if_pos rfl]
      exact ⟨⟨hok.stored, hok.named, hok.viewId, hcalled.sessionId, hact,
        hcalled.geometry hact⟩, hsess⟩
    · rw [if_neg hkey]
      exact ⟨h.records other old hold, rfl⟩
  intro sock other hmem
  rcases (mem_socketViews_grow hcalled.registered).mp hmem with ⟨hhold, hkey⟩ | hmem
  · rw [hkey]
    refine ⟨record, hrec, ?_⟩
    rw [if_pos rfl]
    exact ⟨rfl, hhold.symm⟩
  obtain ⟨old, hold, hlive, hsock⟩ := h.owned sock other hmem
  refine ⟨old, hold, ?_⟩
  rw [if_neg]
  · exact ⟨hlive, hsock⟩
  -- A parked record is in no view set.
  intro hkey
  subst hkey
  cases hrec.symm.trans hold
  rw [hparked] at hlive
  cases hlive

theorem admission {caller : Caller} {sid : SessionId} (nowMs : Nat)
    (hcalled : Called registry caller cmd socket)
    (hnone : registry.views.lookup (caller.key cmd) = none)
    (hsess : cmd.sessionId = sid.value) (hact : cmd.active = true)
    (hroom : socket.views.card < terminalSocketViewCap)
    (hsessionRoom : (registry.sessionViews.under sid).card < sessionViewCap) :
    Sound (modifyViews { registry with
        views := registry.views.insert (caller.key cmd) (admitted (caller.key cmd) caller cmd nowMs)
        sessionViews := registry.sessionViews.add sid (caller.key cmd) }
      caller.socketId (insert (caller.key cmd))) := by
  generalize hrec : admitted (caller.key cmd) caller cmd nowMs = record
  have hat : registry.sessionAt (caller.key cmd) = none := by
    rw [sessionAt, hnone]
    rfl
  have hsessionOf : sessionOf record = some sid := by
    rw [sessionOf_eq_some, ← hrec]
    exact hsess
  refine ⟨?_, ?_, ?_, h.card_grow hcalled.registered hroom, ?_⟩
  · intro other old hold
    change AList.lookup other (registry.views.insert (caller.key cmd) record) = some old at hold
    rw [lookup_insert] at hold
    split at hold
    · rename_i hkey
      subst hkey
      cases hold
      exact hrec ▸ ⟨rfl, rfl, hcalled.viewId, hcalled.sessionId, hact, hcalled.geometry hact⟩
    · exact h.records other old hold
  · change (registry.sessionViews.add sid (caller.key cmd)).Indexes fun other =>
      (AList.lookup other (registry.views.insert (caller.key cmd) record)).bind sessionOf
    rw [sessionAt_insert registry _ hsessionOf]
    exact h.sessions.add hat
  · intro sock other hmem
    change ∃ found, AList.lookup other (registry.views.insert (caller.key cmd) record) =
      some found ∧ _
    rw [lookup_insert]
    rcases (mem_socketViews_grow hcalled.registered).mp hmem with ⟨hhold, hkey⟩ | hmem
    · rw [if_pos hkey]
      exact ⟨record, rfl, by rw [← hrec]; rfl, by rw [← hrec, hhold]; rfl⟩
    rw [if_neg]
    · exact h.owned sock other hmem
    intro hkey
    obtain ⟨_, hold, -⟩ := h.owned sock other hmem
    rw [hkey, hnone] at hold
    cases hold
  · exact card_under_add_le h.sessionCap hsessionRoom

theorem park (sock : String) (nowMs : Nat) : Sound (registry.closeSocket sock nowMs) := by
  refine h.rewrite (f := fun key record =>
      if key ∈ registry.socketViews sock then record.park sock nowMs else record)
    ?_ (by unfold closeSocket; split <;> rfl) ?_ ?_ ?_
  · intro key
    rw [closeSocket_views]
    split <;> simp
  · intro key record hrec
    have hok := h.records key record hrec
    unfold ViewRecord.park
    split
    · split
      · exact ⟨⟨hok.stored, hok.named, hok.viewId, hok.sessionId, hok.active, hok.geometry⟩, rfl⟩
      · exact ⟨hok, rfl⟩
    · exact ⟨hok, rfl⟩
  · intro other key hmem
    rw [socketViews_closeSocket] at hmem
    split at hmem
    · exact absurd hmem (Finset.notMem_empty key)
    rename_i hother
    obtain ⟨record, hrec, hparked, hsock⟩ := h.owned other key hmem
    have hsame : record.park sock nowMs = record :=
      if_neg fun heq => hother (hsock.symm.trans heq)
    exact ⟨record, hrec, by simp [hsame, hparked], by simp [hsame, hsock]⟩
  · intro other
    rw [socketViews_closeSocket]
    split
    · exact Nat.zero_le _
    · exact h.socketCap other

theorem unindex {sid : SessionId} (hempty : registry.sessionViews.under sid = ∅) :
    Sound { registry with sessionViews := registry.sessionViews.erase sid } := by
  -- The index drops a name with its last key, so there is no entry to go.
  have hnone : registry.sessionViews.lookup sid = none := by
    cases hlook : registry.sessionViews.lookup sid with
    | none => rfl
    | some keys =>
      have hkeys : keys = ∅ := by simpa [under, hlook] using hempty
      exact absurd (hkeys ▸ hlook) (h.sessions.full sid)
  have hlook : ∀ other, AList.lookup other (registry.sessionViews.erase sid) =
      registry.sessionViews.lookup other := by
    intro other
    rw [lookup_erase]
    split
    · rename_i heq
      rw [heq, hnone]
    · rfl
  refine ⟨h.records, ⟨?_, ?_⟩, h.owned, h.socketCap, ?_⟩
  · intro other key
    rw [under, hlook]
    exact h.sessions.under other key
  · intro other
    rw [hlook]
    exact h.sessions.full other
  · intro other
    rw [under, hlook]
    exact h.sessionCap other

end

theorem move {reported : Finset SessionId} (h : Sound registry)
    (hmove : Move terms nowMs registry reported registry') : Sound registry' := by
  cases hmove with
  | claims => exact h.frame rfl rfl fun _ => Finset.Subset.refl _
  | scope =>
    refine h.frame rfl rfl fun other => ?_
    rw [socketViews_scope]
  | drop key record save savedMs claim hrec => exact h.drop save savedMs claim hrec
  | renew key record hrec =>
    have hok := h.records key record hrec
    exact h.overwrite (record.renewed nowMs) hrec
      ⟨hok.stored, hok.named, hok.viewId, hok.sessionId, hok.active, hok.geometry⟩ rfl ⟨rfl, rfl⟩
  | revise key record cmd hrec hsess hact hgeom =>
    have hok := h.records key record hrec
    have hsessionId : isTerminalUuid cmd.sessionId = true := hsess ▸ hok.sessionId
    exact h.overwrite (record.revised cmd nowMs) hrec
      ⟨hok.stored, hok.named, hok.viewId, hsessionId, hact, hgeom⟩ hsess ⟨rfl, rfl⟩
  | lapse key record hrec =>
    have hok := h.records key record hrec
    rw [modify_constrains hrec]
    exact h.overwrite { record with constrains := false } hrec
      ⟨hok.stored, hok.named, hok.viewId, hok.sessionId, hok.active, hok.geometry⟩ rfl ⟨rfl, rfl⟩
  | reclaim caller cmd socket record hcalled hrec hparked hsess hact hroom =>
    exact h.reclaim nowMs hcalled hrec hparked hsess hact hroom
  | admission caller cmd socket sid hcalled hnone hsess hact hroom hsessionRoom =>
    exact h.admission nowMs hcalled hnone hsess hact hroom hsessionRoom
  | park sock => exact h.park sock nowMs
  | join =>
    refine h.frame rfl rfl fun other => ?_
    rw [socketViews_join]
    split
    · exact Finset.empty_subset _
    · exact Finset.Subset.refl _
  | expel => exact h.frame rfl rfl (socketViews_expel_subset _)
  | unindex sid hempty => exact h.unindex hempty

theorem moves {changed : Finset SessionId} (h : Sound registry)
    (hmoves : Moves terms nowMs changed registry registry') : Sound registry' :=
  hmoves.keeps (fun _ _ _ hmove _ hsound => hsound.move hmove) h

theorem closeSession_moves (h : Sound registry) (sid : SessionId) :
    Moves terms nowMs {sid} registry (registry.closeSession sid).1 := by
  unfold closeSession
  generalize hkeys : ascending (registry.sessionViews.under sid) = keys
  have hmem : ∀ key, key ∈ keys ↔ registry.sessionAt key = some sid := by
    intro key
    rw [← hkeys, mem_ascending, h.sessions.under]
  have hdrop : Moves terms nowMs {sid} registry (registry.dropAll keys) := by
    apply dropAll_moves
    intro key hkey record hrec
    have hat := (hmem key).mp hkey
    rw [sessionAt, hrec] at hat
    rw [show sessionOf record = some sid from hat]
    exact Finset.Subset.refl _
  refine hdrop.trans ((Move.unindex _ sid ?_).quiet.trans (Move.claims _ _).quiet)
  apply Finset.eq_empty_of_forall_notMem
  intro key hkey
  rw [(h.moves hdrop).sessions.under, sessionAt, dropAll_views] at hkey
  split at hkey
  · cases hkey
  · rename_i hkept
    exact hkept ((hmem key).mpr hkey)

theorem new : Sound ViewRegistry.new :=
  ⟨by simp [ViewRegistry.new], Index.indexes_empty, by simp [ViewRegistry.new, mem_socketViews],
    by simp [ViewRegistry.new, ViewRegistry.socketViews],
    by simp [ViewRegistry.new, Index.under]⟩

end Sound

/-! ## Runs -/

/-- The registration a call makes. -/
def registration? : Event → Option SocketRegistration
  | (.registerSocket registration, _) => some registration
  | _ => none

/-- The sessions a call may take records from: those it reports, and one that it closes. -/
def touched (registry : ViewRegistry) (event : Event) : Finset SessionId :=
  match event.1 with
  | .closeSession sessionId => {sessionId}
  | _ => (machine.answer registry event).changed

/-- The record whose lease a call renews: a valid command of its own socket repeats its
revision. -/
def renewal? (registry : ViewRegistry) : Event → Option ViewRecord
  | (.handleViewCommand socketId command, _) => do
    let socket ← registry.sockets.lookup socketId
    let viewerKey ← socket.viewerKey
    let record ← registry.views.lookup (viewKey viewerKey command.viewId)
    if validateViewCommand socket.viewerKey command = none ∧ socket.allows command.sessionId ∧
        record.socketId = socketId ∧ command.revision = record.revision then some record
    else none
  | _ => none

theorem renewal?_eq_some {reg : ViewRegistry} {caller : Caller} {cmd : TerminalViewCommand}
    {socket : SocketRecord} {record : ViewRecord} (hcalled : Called reg caller cmd socket)
    (hrec : reg.views.lookup (caller.key cmd) = some record)
    (hsock : record.socketId = caller.socketId) (hrev : cmd.revision = record.revision)
    (nowMs : Nat) : renewal? reg (.handleViewCommand caller.socketId cmd, nowMs) = some record := by
  unfold Caller.key at hrec
  have hvalid := hcalled.valid
  rw [hcalled.viewer] at hvalid
  simp [renewal?, hcalled.registered, hcalled.viewer, hrec, hvalid, hcalled.allowed, hsock, hrev]

/-- A call renews only a record the terms allow. -/
def Renews (terms : Terms) (registry : ViewRegistry) (event : Event) : Prop :=
  ∀ record ∈ renewal? registry event, terms.renews record

/-- Every event is a sequence of moves. -/
theorem next_moves (terms : Terms) (h : Sound registry) (event : Event)
    (hregisters : ∀ registration, registration? event = some registration → terms.registers registration)
    (hrenews : Renews terms registry event) :
    Moves terms event.2 (touched registry event) registry (machine.next registry event) := by
  obtain ⟨op, nowMs⟩ := event
  cases op with
  | registerSocket registration =>
    refine (Move.park registry registration.socketId).moves.trans
      (Move.join _ registration (hregisters registration rfl) ?_).moves
    unfold closeSocket
    split
    · assumption
    · exact AList.lookup_erase _ registry.sockets
  | closeSocket sock => exact (Move.park registry sock).moves
  | handleViewCommand sock cmd =>
    rcases handleViewCommand_cases h.keyed sock cmd nowMs with
      ⟨outcome, hsame, -⟩ | ⟨caller, socket, rfl, hcalled, hhandle⟩
    · simp only [Transducer.next, machine, hsame]
      exact Relation.ReflTransGen.refl
    · refine hhandle.moves hcalled fun record hrec hsock hrev => ?_
      exact hrenews record (renewal?_eq_some hcalled hrec hsock hrev nowMs)
  | handleResync => exact Relation.ReflTransGen.refl
  | removeFingerprint fingerprint => exact removeFingerprint_moves fingerprint
  | closeSession sid => exact h.closeSession_moves sid
  | setSessionAllowed sock => exact (Move.scope registry sock _).moves
  | sweep order => exact sweep_moves order

/-- Terms that ask for nothing. -/
def Terms.any : Terms := { registers := fun _ => True, renews := fun _ => True }

theorem renews_of_forall {terms : Terms} (h : ∀ record, terms.renews record)
    (reg : ViewRegistry) (event : Event) : Renews terms reg event :=
  fun record _ => h record

/-- Every event keeps the registry sound. -/
theorem Sound.next {reg : ViewRegistry} (h : Sound reg) (event : Event) :
    Sound (machine.next reg event) :=
  h.moves (next_moves Terms.any h event (fun _ _ => trivial)
      (renews_of_forall (fun _ => trivial) reg event))

theorem sound_run (events : List Event) : Sound (machine.run new events) :=
  Transducer.invariant Sound.new (fun _ event h => h.next event) events

end Roost.TerminalView
