-- SUMMARY: When a view that was told it is accepted is live.
import Roost.Protocol.TerminalView.Ownership

/-!
# Accepted views

Three paths accept an active command. An admission and a reclaim write a live record and
put its key into the view set of the calling socket. An update only renews or revises the
record it finds under the caller's own socket id, so it leaves a parked record parked.
-/

namespace Roost.TerminalView

open ViewRecord ViewRegistry

def Live (registry : ViewRegistry) (socketId key : String) (nowMs : Nat) : Prop :=
  ∃ record, registry.views.lookup key = some record ∧ record.socketId = socketId ∧
    record.parked = false ∧
    (∃ socket, registry.sockets.lookup socketId = some socket ∧ key ∈ socket.views) ∧
    viewConstrains record nowMs = true

/-- The record under a key, if it names this socket already, is not parked and is in the
socket's view set. -/
def Attached (registry : ViewRegistry) (socketId key : String) : Prop :=
  ∀ record, registry.views.lookup key = some record → record.socketId = socketId →
    record.parked = false ∧
      ∃ socket, registry.sockets.lookup socketId = some socket ∧ key ∈ socket.views

variable {reg : ViewRegistry} {socketId key : String} {nowMs : Nat} {record : ViewRecord}

theorem live_of_leased (hrec : reg.views.lookup key = some record)
    (hsock : record.socketId = socketId) (hlease : record.deadlineMs = leaseDeadline nowMs) :
    Live reg socketId key nowMs ↔ nowMs < u64Max ∧ record.parked = false ∧
        ∃ socket, reg.sockets.lookup socketId = some socket ∧ key ∈ socket.views := by
  have hdead : nowMs < record.deadlineMs ↔ nowMs < u64Max := by
    rw [hlease]
    exact lt_saturatingAdd (by decide)
  constructor
  · rintro ⟨found, hfound, _, hparked, hmem, hconstrains⟩
    cases hrec.symm.trans hfound
    rw [viewConstrains_iff, hdead] at hconstrains
    exact ⟨hconstrains.1, hparked, hmem⟩
  rintro ⟨hnow, hparked, hmem⟩
  refine ⟨record, hrec, hsock, hparked, hmem, ?_⟩
  rw [viewConstrains_iff, hdead]
  exact ⟨hnow, Or.inl hparked⟩

theorem live_update (record' : ViewRecord)
    (hrec : reg.views.lookup key = some record) (hsock : record.socketId = socketId)
    (hsame : record'.socketId = record.socketId ∧ record'.parked = record.parked ∧
      record'.deadlineMs = leaseDeadline nowMs) :
    Live { reg with views := reg.views.insert key record' } socketId key nowMs ↔
      nowMs < u64Max ∧ Attached reg socketId key := by
  obtain ⟨hsam, hsamePark, hlease⟩ := hsame
  have hfound : AList.lookup key (reg.views.insert key record') = some record' :=
    AList.lookup_insert reg.views
  rw [live_of_leased hfound (hsam.trans hsock) hlease, hsamePark]
  constructor
  · rintro ⟨hnow, hatt⟩
    refine ⟨hnow, ?_⟩
    intro found hother _
    cases hrec.symm.trans hother
    exact hatt
  · rintro ⟨hnow, hatt⟩
    exact ⟨hnow, hatt record hrec hsock⟩

theorem live_write {socket : SocketRecord} (record' : ViewRecord)
    (sessionViews : Index SessionId String) (tombstones : TombstoneStore)
    (hsocket : reg.sockets.lookup socketId = some socket)
    (hnew : record'.socketId = socketId ∧ record'.parked = false ∧
      record'.deadlineMs = leaseDeadline nowMs)
    (hother : ∀ record, reg.views.lookup key = some record → record.socketId ≠ socketId) :
    Live (modifyViews { reg with
          views := reg.views.insert key record'
          sessionViews
          tombstones } socketId (insert key)) socketId key nowMs ↔
      nowMs < u64Max ∧ Attached reg socketId key := by
  obtain ⟨hsock, hparked, hlease⟩ := hnew
  have hfound : (modifyViews { reg with
        views := reg.views.insert key record'
        sessionViews
        tombstones } socketId (insert key)).views.lookup key = some record' :=
    AList.lookup_insert reg.views
  have hmem : key ∈ (reg.modifyViews socketId (insert key)).socketViews socketId := by
    rw [socketViews_grow hsocket, if_pos rfl]
    exact Finset.mem_insert_self _ _
  rw [live_of_leased hfound hsock hlease]
  constructor
  · rintro ⟨hnow, _⟩
    exact ⟨hnow, fun record hrec hsame => absurd hsame (hother record hrec)⟩
  · rintro ⟨hnow, _⟩
    exact ⟨hnow, hparked, mem_socketViews.mp hmem⟩

/-- In every reachable registry, an active command that is answered as accepted leaves a
live record under its key exactly when the clock is not at its end and the record under
the key, if it named this socket before, was attached to it. -/
theorem accepted_live_iff (events : List Event) (socketId : String) (command : TerminalViewCommand)
    (nowMs : Nat) (hactive : command.active = true)
    (haccepted : ((machine.run new events).handleViewCommand socketId command
      nowMs).2.accepts = true) :
    ∃ socket viewerKey, (machine.run new events).sockets.lookup socketId = some socket ∧
        socket.viewerKey = some viewerKey ∧
        (Live ((machine.run new events).handleViewCommand socketId command nowMs).1
            socketId (viewKey viewerKey command.viewId) nowMs ↔
          nowMs < u64Max ∧ Attached (machine.run new events) socketId
              (viewKey viewerKey command.viewId)) := by
  have hsound := sound_run events
  generalize machine.run new events = registry at hsound haccepted ⊢
  rcases handleViewCommand_cases hsound.keyed socketId command nowMs with
    ⟨outcome, hsame, -, hrefused⟩ | ⟨caller, socket, rfl, hcalled, hhandled⟩
  · rw [hsame, hrefused] at haccepted
    cases haccepted
  refine ⟨socket, caller.viewerKey, hcalled.registered, hcalled.viewer, ?_⟩
  change Live _ caller.socketId (caller.key command) nowMs ↔
    nowMs < u64Max ∧ Attached registry caller.socketId (caller.key command)
  generalize registry.handleViewCommand caller.socketId command nowMs = result
    at haccepted hhandled ⊢
  cases hhandled with
  | settled tombstones outcome _ hrefused =>
    rw [hrefused hactive] at haccepted
    cases haccepted
  | released record claim outcome _ hinactive =>
    rw [hactive] at hinactive
    cases hinactive
  | renewed record outcome hrecord hsocket =>
    exact live_update (record.renewed nowMs) hrecord hsocket ⟨rfl, rfl, rfl⟩
  | revised record outcome hrecord hsocket =>
    exact live_update (record.revised command nowMs) hrecord hsocket ⟨rfl, rfl, rfl⟩
  | reclaimed record outcome hrecord hsocket =>
    refine live_write (record.reclaimed caller.socketId command nowMs) registry.sessionViews
      registry.tombstones hcalled.registered ⟨rfl, rfl, rfl⟩ ?_
    intro found hfound
    cases hrecord.symm.trans hfound
    exact hsocket
  | admitted tombstones sid outcome hnone =>
    refine live_write (admitted (caller.key command) caller command nowMs) _ tombstones
      hcalled.registered ⟨rfl, rfl, rfl⟩ ?_
    intro found hfound
    cases hnone.symm.trans hfound

theorem accepted_live_iff_reconnect : ∃ socket viewerKey,
      (machine.run new (reconnect.take 4)).sockets.lookup "second" = some socket ∧
        socket.viewerKey = some viewerKey ∧
        (Live ((machine.run new (reconnect.take 4)).handleViewCommand "second"
            (declare "00000000-0000-4000-8000-000000000001" 2 90) 30).1
            "second" (viewKey viewerKey "00000000-0000-4000-8000-000000000001") 30 ↔
          30 < u64Max ∧ Attached (machine.run new (reconnect.take 4)) "second"
              (viewKey viewerKey "00000000-0000-4000-8000-000000000001")) :=
  accepted_live_iff (reconnect.take 4) "second"
    (declare "00000000-0000-4000-8000-000000000001" 2 90) 30 rfl (by decide +kernel)

/-- A view is declared and parked, and its socket id is registered again. -/
def reregister : List Event :=
  [(.registerSocket (tabSocket "only" "phone:tab"), 0),
    (.handleViewCommand "only" (declare "00000000-0000-4000-8000-000000000001" 1 80), 0),
    (.closeSocket "only", 10),
    (.registerSocket (tabSocket "only" "phone:tab"), 20)]

/-- The heartbeat that follows is accepted, and its view stays parked. -/
theorem accepted_parked_reregister : ((machine.run new reregister).handleViewCommand "only"
        (declare "00000000-0000-4000-8000-000000000001" 1 80) 30).2.accepts = true ∧
      ¬Live ((machine.run new reregister).handleViewCommand "only"
          (declare "00000000-0000-4000-8000-000000000001" 1 80) 30).1
        "only" (viewKey "phone:tab" "00000000-0000-4000-8000-000000000001") 30 := by
  refine ⟨by decide +kernel, ?_⟩
  rintro ⟨record, hrec, _, hlive, _⟩
  have hparked : (((machine.run new reregister).handleViewCommand "only"
      (declare "00000000-0000-4000-8000-000000000001" 1 80) 30).1.views.lookup
        (viewKey "phone:tab" "00000000-0000-4000-8000-000000000001")).map parked =
          some true := by decide +kernel
  rw [hrec, Option.map_some, hlive] at hparked
  cases hparked

end Roost.TerminalView
