-- SUMMARY: Both indices agree with the records after every run.
import Roost.Protocol.TerminalView.Membership

/-!
# Ownership

That every live record is in the view set of its socket is the other direction of a sound
registry. Revocation removes records and sockets by device, so it also needs that one
viewer key is one device.
-/

namespace Roost.TerminalView

open Table ViewRegistry

/-- A live record is in the view set of its socket, and both belong to one tab of one
device; `device` says which device a viewer key belongs to. -/
structure Owned (device : String → String) (registry : ViewRegistry) : Prop where
  live : ∀ key record, registry.views.lookup key = some record → record.parked = false →
    ∃ socket, registry.sockets.lookup record.socketId = some socket ∧ key ∈ socket.views ∧
      socket.viewerKey = some record.viewerKey
  records : ∀ key record, registry.views.lookup key = some record →
    record.fingerprint = device record.viewerKey
  sockets : ∀ socketId socket viewerKey, registry.sockets.lookup socketId = some socket →
    socket.viewerKey = some viewerKey → socket.fingerprint = device viewerKey

def Registers (device : String → String) (registration : SocketRegistration) : Prop :=
  ∀ viewerKey, registration.viewerKey = some viewerKey →
    registration.callerFingerprint = device viewerKey

namespace Owned

variable {device : String → String} {reg registry' : ViewRegistry} {terms : Terms}
  {nowMs : Nat}

theorem edit (h : Owned device reg) {g : String → SocketRecord → SocketRecord}
    (hsockets : ∀ sock, registry'.sockets.lookup sock = (reg.sockets.lookup sock).map (g sock))
    (hg : ∀ sock socket, (g sock socket).viewerKey = socket.viewerKey ∧
      (g sock socket).fingerprint = socket.fingerprint)
    (hrecords : ∀ key record, registry'.views.lookup key = some record →
      record.fingerprint = device record.viewerKey)
    (hlive : ∀ key record, registry'.views.lookup key = some record → record.parked = false →
      ∃ socket, reg.sockets.lookup record.socketId = some socket ∧
        key ∈ (g record.socketId socket).views ∧ socket.viewerKey = some record.viewerKey) :
    Owned device registry' := by
  refine ⟨?_, hrecords, ?_⟩
  · intro key record hrec hparked
    obtain ⟨socket, hsock, hmem, hviewer⟩ := hlive key record hrec hparked
    refine ⟨g record.socketId socket, ?_, hmem, (hg _ socket).1.trans hviewer⟩
    rw [hsockets, hsock]
    rfl
  intro sock socket' viewerKey hsock' hviewer
  rw [hsockets, Option.map_eq_some_iff] at hsock'
  obtain ⟨socket, hsock, rfl⟩ := hsock'
  rw [(hg sock socket).2]
  exact h.sockets sock socket viewerKey hsock ((hg sock socket).1 ▸ hviewer)

theorem overwrite (h : Owned device reg) {key : String} {record : ViewRecord}
    (record' : ViewRecord) (hrec : reg.views.lookup key = some record)
    (hsame : record'.parked = record.parked ∧ record'.socketId = record.socketId ∧
      record'.viewerKey = record.viewerKey ∧ record'.fingerprint = record.fingerprint) :
    Owned device { reg with views := reg.views.insert key record' } := by
  obtain ⟨hparked, hsock, hviewer, hfinger⟩ := hsame
  refine ⟨?_, ?_, h.sockets⟩
  · intro other found hfound hlive
    rw [lookup_insert] at hfound
    split at hfound
    · rename_i hkey
      subst hkey
      cases hfound
      rw [hsock, hviewer]
      exact h.live _ record hrec (hparked ▸ hlive)
    · exact h.live other found hfound hlive
  · intro other found hfound
    rw [lookup_insert] at hfound
    split at hfound
    · cases hfound
      rw [hfinger, hviewer]
      exact h.records key record hrec
    · exact h.records other found hfound

theorem lookup_modifyViews (sock : String) (f : Finset String → Finset String) (other : String) :
    (reg.modifyViews sock f).sockets.lookup other = (reg.sockets.lookup other).map fun socket =>
        if other = sock then { socket with views := f socket.views } else socket := by
  unfold modifyViews
  rw [lookup_modify]
  split <;> simp

section

variable (h : Owned device reg)
include h

theorem drop {key : String} {record : ViewRecord} (save : Bool) (savedMs : Nat)
    (claim : Option (Nat × ViewIntent)) (hrec : reg.views.lookup key = some record) :
    Owned device (reg.dropRecord key save savedMs claim) := by
  refine h.edit (g := fun other socket =>
      if other = record.socketId then { socket with views := socket.views.erase key } else socket)
    ?_ ?_ ?_ ?_
  · intro sock
    rw [sockets_dropRecord save savedMs claim hrec]
    exact lookup_modifyViews record.socketId (·.erase key) sock
  · intro sock socket
    split <;> exact ⟨rfl, rfl⟩
  · intro other found hfound
    rw [dropRecord_views] at hfound
    split at hfound
    · cases hfound
    · exact h.records other found hfound
  intro other found hfound hparked
  rw [dropRecord_views] at hfound
  split at hfound
  · cases hfound
  rename_i hkey
  obtain ⟨socket, hsock, hmem, hviewer⟩ := h.live other found hfound hparked
  refine ⟨socket, hsock, ?_, hviewer⟩
  split
  · exact Finset.mem_erase.mpr ⟨hkey, hmem⟩
  · exact hmem

theorem write {sock key : String} {socket : SocketRecord}
    (record : ViewRecord) (hsock : reg.sockets.lookup sock = some socket)
    (hown : record.socketId = sock) (hviewer : socket.viewerKey = some record.viewerKey)
    (hfinger : record.fingerprint = device record.viewerKey) (sessionViews : Index SessionId String) :
    Owned device (modifyViews { reg with views := reg.views.insert key record, sessionViews }
      sock (insert key)) := by
  refine h.edit (g := fun other socket =>
      if other = sock then { socket with views := insert key socket.views } else socket)
    (lookup_modifyViews sock (insert key)) ?_ ?_ ?_
  · intro other socket
    split <;> exact ⟨rfl, rfl⟩
  · intro other found hfound
    change AList.lookup other (reg.views.insert key record) = some found at hfound
    rw [lookup_insert] at hfound
    split at hfound
    · cases hfound
      exact hfinger
    · exact h.records other found hfound
  intro other found hfound hparked
  change AList.lookup other (reg.views.insert key record) = some found at hfound
  rw [lookup_insert] at hfound
  split at hfound
  · rename_i hkey
    subst hkey
    cases hfound
    rw [hown]
    exact ⟨socket, hsock, by simp, hviewer⟩
  obtain ⟨held, hheld, hmem, hviewer⟩ := h.live other found hfound hparked
  refine ⟨held, hheld, ?_, hviewer⟩
  split
  · exact Finset.mem_insert_of_mem hmem
  · exact hmem

theorem park (hsound : Sound reg) (sock : String)
    (nowMs : Nat) : Owned device (reg.closeSocket sock nowMs) := by
  refine ⟨?_, ?_, ?_⟩
  · intro key found hfound hlive
    rw [closeSocket_views] at hfound
    split at hfound
    · rename_i hmem
      obtain ⟨record, hrec, -, hsock⟩ := hsound.owned sock key hmem
      rw [hrec] at hfound
      cases hfound
      have hparked : (record.park sock nowMs).parked = true := by
        rw [ViewRecord.park, if_pos hsock]
      cases hparked.symm.trans hlive
    rename_i hkept
    obtain ⟨socket, hsock, hmem, hviewer⟩ := h.live key found hfound hlive
    refine ⟨socket, ?_, hmem, hviewer⟩
    rw [closeSocket_sockets, if_neg]
    · exact hsock
    · intro heq
      exact hkept (mem_socketViews.mpr ⟨socket, heq ▸ hsock, hmem⟩)
  · intro key found hfound
    rw [closeSocket_views] at hfound
    split at hfound
    · obtain ⟨record, hrec, rfl⟩ := Option.map_eq_some_iff.mp hfound
      have hdevice := h.records key record hrec
      unfold ViewRecord.park
      split <;> exact hdevice
    · exact h.records key found hfound
  · intro other socket viewerKey hsock hviewer
    rw [closeSocket_sockets] at hsock
    split at hsock
    · cases hsock
    · exact h.sockets other socket viewerKey hsock hviewer

theorem join {registration : SocketRegistration} (hregisters : Registers device registration)
    (hfree : reg.sockets.lookup registration.socketId = none) : Owned device { reg with
        sockets := reg.sockets.insert registration.socketId registration.record } := by
  refine ⟨?_, h.records, ?_⟩
  · intro key record hrec hparked
    obtain ⟨socket, hsock, hmem, hviewer⟩ := h.live key record hrec hparked
    refine ⟨socket, ?_, hmem, hviewer⟩
    rw [lookup_insert, if_neg]
    · exact hsock
    · intro heq
      rw [heq, hfree] at hsock
      cases hsock
  · intro other socket viewerKey hsock hviewer
    rw [lookup_insert] at hsock
    split at hsock
    · cases hsock
      exact hregisters viewerKey hviewer
    · exact h.sockets other socket viewerKey hsock hviewer

theorem expel {fingerprint : String} (hgone : ∀ key record, reg.views.lookup key = some record →
      record.fingerprint ≠ fingerprint) : Owned device { reg with
        sockets := reg.sockets.retain fun _ socket => socket.fingerprint != fingerprint } := by
  refine ⟨?_, h.records, ?_⟩
  · intro key record hrec hparked
    obtain ⟨socket, hsock, hmem, hviewer⟩ := h.live key record hrec hparked
    refine ⟨socket, ?_, hmem, hviewer⟩
    have hdevice : socket.fingerprint = record.fingerprint :=
      (h.sockets _ socket _ hsock hviewer).trans (h.records key record hrec).symm
    rw [lookup_retain, Option.filter_eq_some_iff]
    exact ⟨hsock, by simpa [hdevice] using hgone key record hrec⟩
  · intro other socket viewerKey hsock hviewer
    rw [lookup_retain, Option.filter_eq_some_iff] at hsock
    exact h.sockets other socket viewerKey hsock.1 hviewer

end

theorem move {reported : Finset SessionId} (h : Owned device reg) (hsound : Sound reg)
    (hregisters : ∀ registration, terms.registers registration → Registers device registration)
    (hmove : Move terms nowMs reg reported registry') : Owned device registry' := by
  cases hmove with
  | claims | unindex => exact ⟨h.live, h.records, h.sockets⟩
  | scope sock f =>
    refine h.edit (g := fun other socket =>
        if other = sock then { socket with allowedSessions := f socket } else socket)
      ?_ ?_ h.records ?_
    · intro other
      rw [lookup_modify]
      split <;> simp
    · intro other socket
      split <;> exact ⟨rfl, rfl⟩
    intro key record hrec hparked
    obtain ⟨socket, hsock, hmem, hviewer⟩ := h.live key record hrec hparked
    refine ⟨socket, hsock, ?_, hviewer⟩
    split <;> exact hmem
  | drop key record save savedMs claim hrec => exact h.drop save savedMs claim hrec
  | renew key record hrec =>
    exact h.overwrite (record.renewed nowMs) hrec ⟨rfl, rfl, rfl, rfl⟩
  | revise key record command hrec =>
    exact h.overwrite (record.revised command nowMs) hrec ⟨rfl, rfl, rfl, rfl⟩
  | lapse key record hrec =>
    rw [modify_constrains hrec]
    exact h.overwrite { record with constrains := false } hrec ⟨rfl, rfl, rfl, rfl⟩
  | reclaim caller command socket record hcalled hrec =>
    -- A key has one tab, so the socket that knows the key has the record's viewer key.
    have hok := hsound.records _ record hrec
    have hviewer : caller.viewerKey = record.viewerKey :=
      viewKey_viewer_inj hcalled.viewId hok.viewId hok.named
    exact h.write (record.reclaimed caller.socketId command nowMs) hcalled.registered rfl
      (hcalled.viewer.trans (congrArg some hviewer)) (h.records _ record hrec)
      reg.sessionViews
  | admission caller command socket sid hcalled =>
    have hdevice := h.sockets _ socket _ hcalled.registered hcalled.viewer
    exact h.write (ViewRecord.admitted (caller.key command) caller command nowMs)
      hcalled.registered rfl hcalled.viewer (hcalled.fingerprint.symm.trans hdevice) _
  | park sock => exact h.park hsound sock nowMs
  | join registration hregistered hfree =>
    exact h.join (hregisters registration hregistered) hfree
  | expel fingerprint hgone => exact h.expel hgone

theorem new (device : String → String) : Owned device ViewRegistry.new :=
  ⟨by simp [ViewRegistry.new], by simp [ViewRegistry.new], by simp [ViewRegistry.new]⟩

end Owned

/-- Registrations of one viewer key carry one fingerprint. -/
def OneDevice (events : List Event) : Prop :=
  ∀ registration ∈ events.filterMap registration?, ∀ other ∈ events.filterMap registration?,
    ∀ viewerKey, registration.viewerKey = some viewerKey → other.viewerKey = some viewerKey →
      registration.callerFingerprint = other.callerFingerprint

theorem OneDevice.device {events : List Event} (h : OneDevice events) :
    ∃ device, ∀ registration ∈ events.filterMap registration?, Registers device registration := by
  classical
  refine ⟨fun viewerKey =>
    if hfound : ∃ registration ∈ events.filterMap registration?,
        registration.viewerKey = some viewerKey
    then hfound.choose.callerFingerprint else "", ?_⟩
  intro registration hmem viewerKey hviewer
  have hfound : ∃ registration ∈ events.filterMap registration?,
      registration.viewerKey = some viewerKey := ⟨registration, hmem, hviewer⟩
  dsimp only
  rw [dif_pos hfound]
  exact h registration hmem _ hfound.choose_spec.1 viewerKey hviewer hfound.choose_spec.2

theorem owned_run {device : String → String} {events : List Event}
    (h : ∀ registration ∈ events.filterMap registration?, Registers device registration) :
    Owned device (machine.run new events) := by
  induction events using List.reverseRecOn with
  | nil => exact Owned.new device
  | append_singleton events event ih =>
    rw [Transducer.run_concat]
    have howned := ih fun registration hmem => h registration (by simp [hmem])
    have hsound := sound_run events
    have hmoves := next_moves { registers := Registers device, renews := fun _ => True } hsound
      event (fun registration hevent => h registration (by simp [hevent]))
      (renews_of_forall (fun _ => trivial) _ event)
    have hboth := hmoves.keeps (P := fun reg => Sound reg ∧ Owned device reg)
      (fun _ _ _ hmove _ ⟨hsound, howned⟩ =>
        ⟨hsound.move hmove, howned.move hsound (fun _ hregistered => hregistered) hmove⟩)
      ⟨hsound, howned⟩
    exact hboth.2

/-- The representation invariant: both indices agree with the records, in both directions,
within their caps, and every record is an active declaration of an in-range geometry. -/
structure Consistent (registry : ViewRegistry) : Prop where
  session : ∀ sessionId key, key ∈ registry.sessionViews.under sessionId ↔
    ∃ record, registry.views.lookup key = some record ∧ record.intent.sessionId = sessionId.value
  nonempty : ∀ sessionId, registry.sessionViews.lookup sessionId ≠ some ∅
  socket : ∀ socketId key,
    (∃ socket, registry.sockets.lookup socketId = some socket ∧ key ∈ socket.views) ↔
      ∃ record, registry.views.lookup key = some record ∧ record.parked = false ∧
        record.socketId = socketId
  socketCap : ∀ socketId socket, registry.sockets.lookup socketId = some socket →
    socket.views.card ≤ terminalSocketViewCap
  sessionCap : ∀ sessionId, (registry.sessionViews.under sessionId).card ≤ sessionViewCap
  intent : ∀ key record, registry.views.lookup key = some record →
    record.intent.active = true ∧ isTerminalGeometry record.intent.geometry = true

/-- After every run in which one viewer key is one device, the registry is consistent. -/
theorem membership_consistent (events : List Event) (hdevice : OneDevice events) :
    Consistent (machine.run new events) := by
  obtain ⟨device, hregisters⟩ := hdevice.device
  have howned := owned_run hregisters
  have hsound := sound_run events
  refine ⟨?_, hsound.sessions.full, ?_, ?_, hsound.sessionCap, ?_⟩
  · intro sid key
    rw [hsound.sessions.under]
    simp [sessionAt, Option.bind_eq_some_iff, sessionOf_eq_some]
  · intro socketId key
    rw [← mem_socketViews]
    constructor
    · exact hsound.owned socketId key
    · rintro ⟨record, hrec, hparked, hsock⟩
      obtain ⟨socket, hlook, hmem, -⟩ := howned.live key record hrec hparked
      exact mem_socketViews.mpr ⟨socket, hsock ▸ hlook, hmem⟩
  · intro socketId socket hsock
    rw [← socketViews_of_lookup hsock]
    exact hsound.socketCap socketId
  · intro key record hrec
    have hok := hsound.records key record hrec
    exact ⟨hok.active, hok.geometry⟩

def tabSocket (socketId viewerKey : String) : SocketRegistration where
  socketId
  viewerKey := some viewerKey
  callerFingerprint := "phone"
  sessionIds := {"00000000-0000-4000-8000-000000000101"}

def declare (viewId : String) (revision : Nat) (cols : UInt32) : TerminalViewCommand where
  viewId
  sessionId := "00000000-0000-4000-8000-000000000101"
  cols
  rows := 24
  revision
  active := true

/-- A view is declared on one socket, parked, and reclaimed by the next. -/
def reconnect : List Event :=
  [(.registerSocket (tabSocket "first" "phone:tab"), 0),
    (.handleViewCommand "first" (declare "00000000-0000-4000-8000-000000000001" 1 80), 0),
    (.closeSocket "first", 10),
    (.registerSocket (tabSocket "second" "phone:tab"), 20),
    (.handleViewCommand "second" (declare "00000000-0000-4000-8000-000000000001" 2 90), 30)]

theorem membership_consistent_reconnect : Consistent (machine.run new reconnect) := by
  refine membership_consistent reconnect ?_
  intro registration hmem other hother _ _ _
  have hregistr : reconnect.filterMap registration? =
      [tabSocket "first" "phone:tab", tabSocket "second" "phone:tab"] := rfl
  have hdevice : ∀ r ∈ [tabSocket "first" "phone:tab", tabSocket "second" "phone:tab"],
      r.callerFingerprint = "phone" := by decide
  exact (hdevice registration hmem).trans (hdevice other hother).symm

end Roost.TerminalView
