-- SUMMARY: What a refused view command leaves behind.
import Roost.Protocol.TerminalView.Ownership

/-!
# Refused commands

A refusal leaves the registry alone, but for the lease a same-revision conflict renews. An
admission drops the view's retained claim before it looks for room, so a refusal for capacity
loses the claim.
-/

namespace Roost.TerminalView

open ViewRegistry

/-- Whether the socket was told its command is rejected. -/
def MembershipOutcome.rejects (outcome : MembershipOutcome) : Bool :=
  outcome.replies.any fun reply => decide (reply.status = .rejected)

/-- Everything is as it was, but for the lease of a record its owner repeated the revision of. -/
structure Untouched (registry next : ViewRegistry) (socketId : String)
    (command : TerminalViewCommand) (nowMs : Nat) : Prop where
  sockets : next.sockets = registry.sockets
  sessionViews : next.sessionViews = registry.sessionViews
  claims : ∀ key, next.tombstones.get key = registry.tombstones.get key
  views : next.views = registry.views ∨ ∃ key record,
    registry.views.lookup key = some record ∧ record.socketId = socketId ∧
      record.revision = command.revision ∧ intentsEqual record.intent (intentOf command) = false ∧
      next.views = registry.views.insert key (record.renewed nowMs)

variable {registry : ViewRegistry} {caller : Caller} {cmd : TerminalViewCommand} {nowMs : Nat}

theorem Untouched.refl (reg : ViewRegistry) (sock : String)
    (cmd : TerminalViewCommand) (nowMs : Nat) : Untouched reg reg sock cmd nowMs :=
  ⟨rfl, rfl, fun _ => rfl, .inl rfl⟩

variable {key : String} {record : ViewRecord}

theorem reclaim_rejected
    (h : (registry.reclaim caller cmd record key nowMs).2.rejects = true) :
    (registry.reclaim caller cmd record key nowMs).1 = registry := by
  unfold reclaim at h ⊢
  split_ifs at h ⊢ <;> first | rfl | cases h

theorem update_rejected (hkeyed : Keyed registry)
    (hrec : registry.views.lookup (caller.key cmd) = some record)
    (hsock : record.socketId = caller.socketId)
    (h : (registry.update caller cmd record nowMs).2.rejects = true) :
    Untouched registry (registry.update caller cmd record nowMs).1 caller.socketId cmd nowMs := by
  unfold update at h ⊢
  dsimp only at h ⊢
  split_ifs at h ⊢ with hstale hsame hconfl
  · exact .refl ..
  · refine ⟨rfl, rfl, fun _ => rfl, .inr ⟨_, record, hrec, hsock, hsame.symm, ?_, ?_⟩⟩
    · simpa using hconfl
    · rw [← hkeyed _ _ hrec]
      rfl
  · cases h
  · exact .refl ..
  · cases h
  · cases h

theorem admitUnclaimed_rejected
    (h : (registry.admitUnclaimed caller cmd key nowMs).2.rejects = true) :
    (registry.admitUnclaimed caller cmd key nowMs).1 = registry := by
  unfold admitUnclaimed at h ⊢
  dsimp only at h ⊢
  split_ifs at h ⊢
  · cases h
  · rfl
  split at h
  · rfl
  · split_ifs at h ⊢
    · rfl
    · cases h

def Tombstone.admits (claim : Tombstone) (command : TerminalViewCommand) : Prop :=
  ¬(command.revision < claim.revision ∨
      command.revision = claim.revision ∧ !intentsEqual claim.intent (intentOf command)) ∧
    claim.intent.sessionId = command.sessionId

theorem admitView_rejected
    (h : (registry.admitView caller cmd key nowMs).2.rejects = true)
    (hkept : ∀ claim, registry.tombstones.get key = some claim → ¬claim.admits cmd) :
    (registry.admitView caller cmd key nowMs).1 = registry := by
  unfold admitView at h ⊢
  split at h
  · exact admitUnclaimed_rejected h
  rename_i claim hclaim
  split_ifs at h ⊢ with hstale hmoved
  · rfl
  · rfl
  · cases h
  · exact absurd ⟨hstale, not_not.mp hmoved⟩ (hkept claim hclaim)

theorem admitView_drops {claim : Tombstone}
    (h : (registry.admitView caller command key nowMs).2.rejects = true)
    (hclaim : registry.tombstones.get key = some claim) (hadmits : claim.admits command) :
    (registry.admitView caller command key nowMs).1 =
      { registry with tombstones := registry.tombstones.remove key } := by
  unfold admitView at h ⊢
  simp only [hclaim, if_neg hadmits.1, if_neg (not_not.mpr hadmits.2)] at h ⊢
  split_ifs at h ⊢
  · cases h
  · exact admitUnclaimed_rejected h

theorem admitView_full {claim : Tombstone}
    (hclaim : registry.tombstones.get key = some claim) (hadmits : claim.admits command)
    (hact : command.active = true)
    (hfull : terminalSocketViewCap ≤ registry.viewCount caller.socketId) :
    registry.admitView caller command key nowMs =
      ({ registry with tombstones := registry.tombstones.remove key },
        MembershipOutcome.refuse caller.socketId command
          "terminal socket view capacity exceeded") := by
  unfold admitView
  simp only [hclaim, if_neg hadmits.1, if_neg (not_not.mpr hadmits.2), hact, Bool.not_true,
    Bool.false_eq_true, and_false, if_false]
  rw [admitUnclaimed, if_neg (by simp [hact])]
  exact if_pos hfull

/-- The command passes the checks of a claim retained for a view without a record, so admission
drops the claim. -/
def DropsClaim (registry : ViewRegistry) (socketId : String) (command : TerminalViewCommand) : Prop :=
  ∃ caller socket claim, caller.socketId = socketId ∧ Called registry caller command socket ∧
    registry.views.lookup (caller.key command) = none ∧
    registry.tombstones.get (caller.key command) = some claim ∧ claim.admits command

theorem handleViewCommand_eq_admitView {socket : SocketRecord}
    (hcalled : Called registry caller cmd socket)
    (hnone : registry.views.lookup (caller.key cmd) = none) :
    registry.handleViewCommand caller.socketId cmd nowMs =
      registry.admitView caller cmd (caller.key cmd) nowMs := by
  obtain ⟨_, _, fingerprint⟩ := caller
  have hviewer := hcalled.viewer
  obtain rfl : socket.fingerprint = fingerprint := hcalled.fingerprint
  simp only [Caller.key] at hnone hviewer ⊢
  simp only [handleViewCommand, hcalled.registered, hcalled.valid, hcalled.allowed,
    Bool.not_true, Bool.false_eq_true, if_false]
  rw [hviewer]
  simp only [hnone]

theorem untouched_iff (hkeyed : Keyed registry) (sock : String)
    (h : (registry.handleViewCommand sock command nowMs).2.rejects = true) :
    Untouched registry (registry.handleViewCommand sock command nowMs).1 sock command nowMs ↔
      ¬DropsClaim registry sock command := by
  constructor
  · rintro huntouched ⟨caller, socket, claim, rfl, hcalled, hnone, hclaim, hadmits⟩
    rw [handleViewCommand_eq_admitView hcalled hnone] at h huntouched
    have hkept := huntouched.claims (caller.key command)
    rw [admitView_drops h hclaim hadmits, hclaim] at hkept
    simp [TombstoneStore.get, TombstoneStore.remove] at hkept
  intro hkeeps
  unfold handleViewCommand at h ⊢
  split at h
  · cases h
  rename_i socket hsock
  split at h
  · exact .refl ..
  rename_i hvalid
  obtain ⟨hview, hsess, hgeom⟩ := validateViewCommand_eq_none hvalid
  split_ifs at h ⊢ with hallow
  · exact .refl ..
  split at h
  · cases h
  rename_i viewerKey hviewer
  have hcalled : Called registry ⟨sock, viewerKey, socket.fingerprint⟩ command socket :=
    ⟨hsock, hviewer, rfl, hvalid, by simpa using hallow, hview, hsess, hgeom⟩
  dsimp only at h ⊢
  split at h
  · rename_i hcur
    split_ifs at h ⊢ with hother
    · rw [reclaim_rejected h]
      exact .refl ..
    · exact update_rejected hkeyed hcur (not_not.mp hother) h
  · rename_i hnone
    rw [admitView_rejected h fun claim hclaim hadmits =>
      hkeeps ⟨_, socket, claim, rfl, hcalled, hnone, hclaim, hadmits⟩]
    exact .refl ..

/-- In every reachable registry a rejected command leaves everything but the lease it renews as it
was, exactly unless it passes the checks of a claim retained for a view without a record. -/
theorem refusal_keeps_claims (events : List Event) (socketId : String)
    (command : TerminalViewCommand) (nowMs : Nat)
    (hrejected : ((machine.run new events).handleViewCommand socketId command
      nowMs).2.rejects = true) :
    Untouched (machine.run new events)
        ((machine.run new events).handleViewCommand socketId command nowMs).1 socketId
        command nowMs ↔
      ¬DropsClaim (machine.run new events) socketId command :=
  untouched_iff (sound_run events).keyed socketId hrejected

theorem refusal_keeps_claims_stale : Untouched (machine.run new reconnect)
        ((machine.run new reconnect).handleViewCommand "second"
          (declare "00000000-0000-4000-8000-000000000001" 1 80) 40).1 "second"
        (declare "00000000-0000-4000-8000-000000000001" 1 80) 40 ↔
      ¬DropsClaim (machine.run new reconnect) "second"
        (declare "00000000-0000-4000-8000-000000000001" 1 80) :=
  refusal_keeps_claims reconnect "second" _ 40 (by decide)

/-! ## A socket that fills up -/

def onlyCaller : Caller := ⟨"only", "phone:tab", "phone"⟩

theorem onlySession_shape : hasUuidShape "00000000-0000-4000-8000-000000000101" = true := by
  decide +kernel

def onlySession : SessionId := ⟨_, onlySession_shape⟩

/-- The only socket holds these views, all of one session, and no others are on record. -/
structure Holding (registry : ViewRegistry) (claims : TombstoneStore) (keys : Finset String) :
    Prop where
  socket : registry.sockets.lookup onlyCaller.socketId =
    some { (tabSocket "only" "phone:tab").record with views := keys }
  views : ∀ key ∉ keys, registry.views.lookup key = none
  session : registry.sessionViews.under onlySession = keys
  claims : registry.tombstones = claims

section

variable {claims : TombstoneStore} {keys : Finset String} (h : Holding registry claims keys)
include h

theorem Holding.viewCount : registry.viewCount onlyCaller.socketId = keys.card := by
  rw [ViewRegistry.viewCount, h.socket]

theorem Holding.called {viewId : String} (hid : isTerminalUuid viewId = true) (rev : Nat)
    (hrev : 1 ≤ rev) : Called registry onlyCaller (declare viewId rev 80)
      { (tabSocket "only" "phone:tab").record with views := keys } := by
  have hsess : isTerminalUuid "00000000-0000-4000-8000-000000000101" = true := by
    decide +kernel
  have hgeom : isTerminalGeometry { cols := 80, rows := 24 } = true := by
    decide +kernel
  refine ⟨h.socket, rfl, rfl, ?_, ?_, hid, hsess, fun _ => hgeom⟩
  · simp [validateViewCommand, declare, tabSocket, SocketRegistration.record, hid, hsess,
      hgeom, Nat.pos_iff_ne_zero.mp hrev]
  · exact decide_eq_true (Finset.mem_singleton_self _)

theorem Holding.admit {viewId : String} (hid : isTerminalUuid viewId = true)
    (hfresh : viewKey "phone:tab" viewId ∉ keys)
    (hclaim : claims.get (viewKey "phone:tab" viewId) = none)
    (hroom : keys.card < terminalSocketViewCap) :
    Holding (registry.handleViewCommand "only" (declare viewId 1 80) nowMs).1 claims
      (insert (viewKey "phone:tab" viewId) keys) := by
  have hsess : SessionId.tryFrom (declare viewId 1 80).sessionId = .ok onlySession :=
    dif_pos onlySession.check
  have hnarrow : ¬registry.sessionCount onlySession ≥ sessionViewCap := by
    rw [sessionCount, h.session, not_le]
    exact hroom.trans (by decide)
  change Holding (registry.handleViewCommand onlyCaller.socketId _ nowMs).1 _ _
  rw [handleViewCommand_eq_admitView (h.called hid 1 le_rfl) (h.views _ hfresh), admitView, h.claims]
  simp only [Caller.key, onlyCaller, declare, hclaim]
  change Holding (registry.admitUnclaimed onlyCaller (declare viewId 1 80)
    (viewKey "phone:tab" viewId) nowMs).1 _ _
  rw [admitUnclaimed, if_neg (by simp [declare]), h.viewCount, if_neg (not_le.mpr hroom)]
  simp only [hsess, if_neg hnarrow]
  refine ⟨?_, fun key hkey => ?_, ?_, h.claims⟩
  · dsimp only [modifyViews]
    rw [Table.lookup_modify, if_pos rfl, h.socket]
    rfl
  · rw [Finset.mem_insert, not_or] at hkey
    dsimp only [modifyViews]
    rw [Table.lookup_insert, if_neg hkey.1]
    exact h.views key hkey.2
  · dsimp only [modifyViews]
    rw [Index.under_add, if_pos rfl, h.session]

end

theorem Holding.run {claims : TombstoneStore} (h : Holding registry claims ∅)
    {viewIds : List String} (hids : ∀ viewId ∈ viewIds, isTerminalUuid viewId = true ∧
      claims.get (viewKey "phone:tab" viewId) = none)
    (hnd : (viewIds.map (viewKey "phone:tab")).Nodup)
    (hroom : viewIds.length ≤ terminalSocketViewCap) :
    Holding (machine.run registry (viewIds.map fun viewId =>
        (.handleViewCommand "only" (declare viewId 1 80), 0))) claims
      (viewIds.map (viewKey "phone:tab")).toFinset := by
  induction viewIds using List.reverseRecOn with
  | nil => exact h
  | append_singleton viewIds viewId ih =>
    obtain ⟨hearlier, hlast⟩ := List.forall_mem_append.mp hids
    obtain ⟨hid, hclaim⟩ := hlast viewId (List.mem_singleton_self _)
    rw [List.map_append, List.map_singleton, List.nodup_append] at hnd
    rw [List.length_append, List.length_singleton] at hroom
    have hheld := ih hearlier hnd.1 (by omega)
    rw [List.map_append, List.map_singleton, Transducer.run_concat, List.map_append,
      List.map_singleton, List.toFinset_append, List.toFinset_cons, List.toFinset_nil,
      Finset.union_insert, Finset.union_empty]
    refine hheld.admit hid ?_ hclaim ?_
    · rw [List.mem_toFinset]
      exact fun hmem => hnd.2.2 _ hmem _ (List.mem_singleton_self _) rfl
    · rw [List.toFinset_card_of_nodup hnd.1, List.length_map]
      omega

/-- A view is released at revision 9, and its socket then fills up with others. -/
def fullSocket : List Event :=
  (.registerSocket (tabSocket "only" "phone:tab"), 0) :: (.handleViewCommand "only"
      { declare "00000000-0000-4000-8000-000000000001" 9 80 with active := false }, 0) ::
    (List.range 64).map fun view =>
      (.handleViewCommand "only"
        (declare ("00000000-0000-4000-8000-0000000002" ++ String.ofList (Nat.toDigits 16 (16 + view)))
          1 80), 0)

def manyViews : List String := (List.range 64).map fun view =>
  "00000000-0000-4000-8000-0000000002" ++ String.ofList (Nat.toDigits 16 (16 + view))

theorem holding_released : Holding (machine.run new (fullSocket.take 2))
    (machine.run new (fullSocket.take 2)).tombstones ∅ :=
  ⟨rfl, fun _ _ => rfl, rfl, rfl⟩

theorem manyViews_fresh : ∀ viewId ∈ manyViews, isTerminalUuid viewId = true ∧
    (machine.run new (fullSocket.take 2)).tombstones.get (viewKey "phone:tab" viewId) = none := by
  decide +kernel

theorem released_claim : ((machine.run new (fullSocket.take 2)).tombstones.get
    (viewKey "phone:tab" "00000000-0000-4000-8000-000000000001")).any (fun claim =>
      decide (claim.revision = 9 ∧
        claim.intent.sessionId = "00000000-0000-4000-8000-000000000101")) = true := by
  decide +kernel

theorem fullSocket_split : fullSocket = fullSocket.take 2 ++ manyViews.map fun viewId =>
    (.handleViewCommand "only" (declare viewId 1 80), 0) := by
  simp [fullSocket, manyViews]

theorem manyViews_nodup : (manyViews.map (viewKey "phone:tab")).Nodup := by
  have hdigits : ((List.range 64).map fun view => Nat.toDigits 16 (16 + view)).Nodup := by
    decide +kernel
  rw [manyViews, List.map_map]
  refine List.Nodup.map_on (fun view hview other hother heq => ?_) List.nodup_range
  refine (List.inj_on_of_nodup_map hdigits) hview hother ?_
  exact String.ofList_injective (by simpa [viewKey] using heq)

theorem full_socket_drops_claim :
    let registry := machine.run new fullSocket
    let key := viewKey "phone:tab" "00000000-0000-4000-8000-000000000001"
    let handled :=
      registry.handleViewCommand "only" (declare "00000000-0000-4000-8000-000000000001" 10 80) 1
    handled.2.rejects = true ∧ (registry.tombstones.get key).map Tombstone.revision = some 9 ∧
      handled.1.tombstones.get key = none := by
  have hstart := holding_released
  have hids := manyViews_fresh
  have hheld := released_claim
  have hrun := congrArg (machine.run new) fullSocket_split
  rw [Transducer.run_append] at hrun
  generalize machine.run new (fullSocket.take 2) = released at hstart hids hheld hrun
  rw [hrun]
  have hnd := manyViews_nodup
  have hfull := hstart.run hids hnd (by decide)
  generalize machine.run released _ = registry at hfull
  have hid : isTerminalUuid "00000000-0000-4000-8000-000000000001" = true := by decide +kernel
  obtain ⟨claim, hclaim, hfields⟩ := (Option.any_eq_true _ _).mp hheld
  obtain ⟨hrev, hsess⟩ := of_decide_eq_true hfields
  have hnone : registry.views.lookup
      (viewKey "phone:tab" "00000000-0000-4000-8000-000000000001") = none := by
    refine hfull.views _ fun hmem => ?_
    obtain ⟨viewId, hviewId, hsame⟩ := List.mem_map.mp (List.mem_toFinset.mp hmem)
    rw [← hsame, (hids viewId hviewId).2] at hclaim
    cases hclaim
  have hcount : registry.viewCount onlyCaller.socketId = terminalSocketViewCap := by
    refine hfull.viewCount.trans ?_
    rw [List.toFinset_card_of_nodup hnd]
    rfl
  have hcalled := hfull.called hid 10 (by decide)
  have hhandle := (@handleViewCommand_eq_admitView _ _ _ 1 _ hcalled hnone).trans (admitView_full
    (hfull.claims ▸ hclaim) ⟨by simp [hrev, declare], hsess⟩ rfl hcount.ge)
  dsimp only [onlyCaller] at hhandle ⊢
  rw [hhandle, hfull.claims, hclaim]
  refine ⟨rfl, congrArg some hrev, ?_⟩
  exact AList.lookup_erase _ _

end Roost.TerminalView
