-- SUMMARY: What keeps a challenged pane under a deadline, over every run.
import Roost.Client.Guarded
import Roost.Client.RepairDue
import Roost.Client.Sweep

/-!
# The watchdog

The sweep arms no probe behind an outstanding challenge, so a pane is only watched
while every challenge is under a deadline. A pass keeps it so whatever it did on the
way, and a run does as long as its chunk parts do.
-/

namespace Roost.Client

open ForegroundLiveness TerminalSession

open Roost.Cell
open TerminalSession (dialled paneStream)

/-! ## The pass -/

namespace Store

variable {store : Store} {sid : String} {owner : TerminalToken} {nowMs : Nat}

theorem lookup_modifyTerminal (store : Store) (sid other : String)
    (f : TerminalSession → TerminalSession) : (store.modifyTerminal sid f).terminal.lookup other =
      if other = sid then (store.terminal.lookup other).map f else store.terminal.lookup other :=
  Table.lookup_modify sid other f

/-- Every replica's challenge has a deadline. -/
def AllGuarded (store : Store) : Prop :=
  ∀ sessionId replica, store.terminal.lookup sessionId = some replica → replica.liveness.Guarded

/-- Every replica's challenge has a deadline, except that one session may hold a challenge
of an earlier generation: the end of the pass arms it again. -/
def AlmostGuarded (store : Store) (sessionId : String) : Prop :=
  ∀ other replica, store.terminal.lookup other = some replica → replica.liveness.Guarded ∨
      (other = sessionId ∧ replica.expectedStreamId.isSome = true ∧
        replica.foregroundView.isSome = true ∧
        ∃ owner, store.electedOwner sessionId = some owner ∧
          replica.liveness.hasPendingChallenge owner = false)

theorem AllGuarded.almost (h : store.AllGuarded) : store.AlmostGuarded sid := by
  intro other repl hlook
  exact .inl (h other repl hlook)

theorem AllGuarded.of_terminal (h : store.AllGuarded) {after : Store}
    (hsame : after.terminal = store.terminal) : after.AllGuarded := by
  intro other repl hlook
  rw [hsame] at hlook
  exact h other repl hlook

theorem requestLinkReplacement_terminal (reason : String) :
    (store.requestLinkReplacement reason).1.terminal = store.terminal := by
  unfold requestLinkReplacement
  split <;> rfl

/-- Every other session's challenge has a deadline. -/
def OthersGuarded (store : Store) (sessionId : String) : Prop :=
  ∀ other replica, other ≠ sessionId → store.terminal.lookup other = some replica →
    replica.liveness.Guarded

theorem AlmostGuarded.others (h : store.AlmostGuarded sid) : store.OthersGuarded sid := by
  intro other repl hother hlook
  rcases h other repl hlook with hguard | ⟨hsame, -⟩
  · exact hguard
  · exact absurd hsame hother

theorem OthersGuarded.modifyTerminal (h : store.OthersGuarded sid)
    (f : TerminalSession → TerminalSession) :
    (store.modifyTerminal sid f).OthersGuarded sid := by
  intro other repl hother hlook
  rw [lookup_modifyTerminal, if_neg hother] at hlook
  exact h other repl hother hlook

variable {f : TerminalSession → TerminalSession}

theorem OthersGuarded.settle (h : store.OthersGuarded sid)
    (hf : ∀ repl, store.terminal.lookup sid = some repl → (f repl).liveness.Guarded) :
    (store.modifyTerminal sid f).AllGuarded := by
  intro other repl hlook
  by_cases hother : other = sid
  · subst hother
    rw [lookup_modifyTerminal, if_pos rfl] at hlook
    obtain ⟨held, hheld, rfl⟩ := Option.map_eq_some_iff.mp hlook
    exact hf held hheld
  · exact h.modifyTerminal f other repl hother hlook

theorem OthersGuarded.settleLiveness (h : store.OthersGuarded sid)
    {f : ForegroundLiveness → ForegroundLiveness} (hf : ∀ liveness, (f liveness).Guarded) :
    (store.modifyLiveness sid f).AllGuarded := by
  apply h.settle
  intro repl _
  exact hf repl.liveness

theorem AllGuarded.modifyTerminal (h : store.AllGuarded)
    (hf : ∀ repl, store.terminal.lookup sid = some repl → (f repl).liveness.Guarded) :
    (store.modifyTerminal sid f).AllGuarded :=
  h.almost.others.settle hf

theorem electedOwner_modifyLiveness (f : ForegroundLiveness → ForegroundLiveness) :
    (store.modifyLiveness sid f).electedOwner sid = store.electedOwner sid := by
  unfold electedOwner modifyLiveness
  rw [lookup_modifyTerminal, if_pos rfl]
  cases store.terminal.lookup sid with
  | none | some => rfl

theorem watch_watched (h : store.watch sid = .watched owner) :
    ∃ repl, store.terminal.lookup sid = some repl ∧ repl.foregroundView.isSome = true ∧
      (∀ challenge, repl.liveness.challenge = some challenge →
        repl.expectedStreamId = some challenge.streamId) ∧
      store.electedOwner sid = some owner := by
  unfold watch at h
  split at h
  · cases h
  rename_i repl hreplica
  split at h
  · cases h
  rename_i hshown
  split at h
  · cases h
  rename_i hstr
  split at h
  · rename_i helect
    cases h
    rw [Option.isNone_iff_eq_none] at hshown
    refine ⟨repl, hreplica, Option.isSome_iff_ne_none.mpr hshown, ?_, helect⟩
    intro challenge hchallenge
    simpa [hchallenge] using hstr
  · cases h

theorem OthersGuarded.retire (h : store.OthersGuarded sid) (outcome : RepairOutcome) :
    (store.retire sid outcome).AllGuarded := by
  apply h.settleLiveness
  intro liveness
  split
  · rename_i hnone
    simp only [Bool.and_eq_true, Option.isNone_iff_eq_none] at hnone
    exact guarded_of_none hnone.2
  · exact guarded_of_none rfl

theorem AllGuarded.escalate (h : store.AllGuarded) :
    (store.escalate sid nowMs).1.AlmostGuarded sid := by
  unfold Store.escalate
  split
  · exact (h.almost.others.retire _).almost
  rename_i owner hwatch
  obtain ⟨repl, hreplica, hshown, hstr, helect⟩ := watch_watched hwatch
  rw [hreplica]
  dsimp only
  split
  · rename_i hpend
    intro other held hheld
    simp only [modifyLiveness, lookup_modifyTerminal] at hheld
    split at hheld
    · rename_i hother
      rw [hother, hreplica] at hheld
      cases hheld
      cases hchallenge : repl.liveness.challenge with
      | none => exact .inl (guarded_of_none hchallenge)
      | some challenge =>
        refine .inr ⟨hother, ?_, hshown, owner, ?_, ?_⟩
        · change repl.expectedStreamId.isSome = true
          rw [hstr challenge hchallenge]
          rfl
        · rw [electedOwner_modifyLiveness]
          exact helect
        · change repl.liveness.hasPendingChallenge owner = false
          simpa using hpend
    · exact .inl (h other held hheld)
  · have hesc : (store.modifyLiveness sid markEscalated).AllGuarded := by
      apply h.almost.others.settleLiveness
      intro liveness
      exact guarded_of_none rfl
    have hrearm : ((store.modifyLiveness sid
        markEscalated).modifyLiveness sid fun liveness =>
          liveness.rearmQuiet owner nowMs).AllGuarded := by
      apply hesc.almost.others.settleLiveness
      intro liveness
      exact guarded_of_quiet rfl
    split
    · exact hrearm.almost
    split
    · exact hrearm.almost
    · have hreplaced := hesc.of_terminal (requestLinkReplacement_terminal livenessReason)
      exact hreplaced.almost

theorem electedOwner_generation (helect : store.electedOwner sid = some owner) :
    ∃ repl, store.terminal.lookup sid = some repl ∧ repl.generation = some owner ∧
      store.publicationTarget sid = some owner := by
  unfold electedOwner at helect
  split at helect
  · cases helect
  rename_i hbound
  split at helect
  · rename_i htarget
    cases helect
    obtain ⟨repl, hreplica, hgen⟩ := Option.bind_eq_some_iff.mp hbound
    exact ⟨repl, hreplica, hgen, htarget⟩
  · cases helect

variable {replica : TerminalSession}

theorem scopedResync_stream {req : Effect} (h : scopedResync replica owner sid = some req) :
    ∃ streamId, replica.expectedStreamId = some streamId := by
  unfold scopedResync at h
  split at h
  · cases h
  · split at h
    · cases h
    · exact ⟨_, ‹_›⟩

theorem publishChallenge_guarded (h : store.OthersGuarded sid)
    (helect : store.electedOwner sid = some owner) {acted : Acted}
    (hacted : store.publishChallenge sid owner nowMs = some acted) : acted.1.AllGuarded := by
  obtain ⟨_, hreplica, hbound, -⟩ := electedOwner_generation helect
  unfold publishChallenge at hacted
  rw [hreplica] at hacted
  dsimp only at hacted
  split at hacted
  · cases hacted
  rename_i hpend
  split at hacted
  · cases hacted
  rename_i hreq
  cases hacted
  apply h.settle
  intro held hheld
  cases hheld.symm.trans hreplica
  obtain ⟨_, hstr⟩ := scopedResync_stream hreq
  unfold beginScopedRepair
  rw [if_neg (not_not.mpr hbound), hstr]
  simp only [hpend, Bool.false_eq_true, if_false]
  exact fun _ => .inr rfl

theorem AlmostGuarded.probe (h : store.AlmostGuarded sid) :
    (store.probe sid nowMs).1.AllGuarded := by
  unfold Store.probe
  split
  · exact h.others.retire _
  rename_i hwatch
  obtain ⟨_, -, -, -, helect⟩ := watch_watched hwatch
  have htaken : (store.modifyLiveness sid takeQuiet).OthersGuarded
      sid := h.others.modifyTerminal _
  dsimp only
  split
  · rename_i hacted
    refine publishChallenge_guarded htaken ?_ hacted
    rw [electedOwner_modifyLiveness]
    exact helect
  · apply htaken.settleLiveness
    intro liveness
    exact guarded_of_quiet rfl

/-- What the end of the pass does to a replica its owner watches. -/
def armed (owner : TerminalToken) (nowMs : Nat) (replica : TerminalSession) : TerminalSession :=
  if replica.expectedStreamId.isNone ∨ replica.foregroundView.isNone then replica
  else if replica.liveness.hasPendingChallenge owner then replica
  else { replica with liveness := replica.liveness.armQuietIfUnarmed owner nowMs }

theorem armWhenWatchable_eq (helect : store.electedOwner sid = some owner) :
    store.armWhenWatchable sid nowMs =
      store.modifyTerminal sid (armed owner nowMs) := by
  unfold armWhenWatchable
  rw [helect]
  rfl

theorem armQuietIfUnarmed_quiet (liveness : ForegroundLiveness) :
    (liveness.armQuietIfUnarmed owner nowMs).quietDueMs.isSome = true := by
  unfold armQuietIfUnarmed
  split
  · assumption
  · rfl

theorem armed_guarded (h : replica.liveness.Guarded) :
    (armed owner nowMs replica).liveness.Guarded := by
  unfold armed
  split
  · exact h
  · split
    · exact h
    · exact guarded_of_quiet (armQuietIfUnarmed_quiet _)

theorem armed_watched (hexpect : replica.expectedStreamId.isSome = true)
    (hshown : replica.foregroundView.isSome = true) :
    (armed owner nowMs replica).liveness.quietDueMs.isSome = true ∨
      (replica.liveness.hasPendingChallenge owner = true ∧ armed owner nowMs replica = replica) := by
  have hwat : ¬(replica.expectedStreamId.isNone = true ∨ replica.foregroundView.isNone = true) := by
    simp [Option.isSome_iff_ne_none.mp hexpect, Option.isSome_iff_ne_none.mp hshown]
  unfold armed
  rw [if_neg hwat]
  split
  · rename_i hpend
    exact .inr ⟨hpend, rfl⟩
  · exact .inl (armQuietIfUnarmed_quiet _)

theorem armed_expectedStreamId (repl : TerminalSession) :
    (armed owner nowMs repl).expectedStreamId = repl.expectedStreamId := by
  unfold armed
  split
  · rfl
  · split <;> rfl

theorem armed_foregroundView (repl : TerminalSession) :
    (armed owner nowMs repl).foregroundView = repl.foregroundView := by
  unfold armed
  split
  · rfl
  · split <;> rfl

theorem AlmostGuarded.armWhenWatchable (h : store.AlmostGuarded sid) :
    (store.armWhenWatchable sid nowMs).AllGuarded := by
  cases helect : store.electedOwner sid with
  | none =>
    unfold Store.armWhenWatchable
    rw [helect]
    intro other repl hlook
    rcases h other repl hlook with hguard | ⟨-, -, -, owner, hsome, -⟩
    · exact hguard
    · cases helect.symm.trans hsome
  | some =>
    rw [armWhenWatchable_eq helect]
    apply h.others.settle
    intro repl hreplica
    rcases h sid repl hreplica with hguard | ⟨-, hexpect, hshown, other, hother, hfree⟩
    · exact armed_guarded hguard
    cases helect.symm.trans hother
    rcases armed_watched hexpect hshown with hquiet | ⟨hpend, -⟩
    · exact guarded_of_quiet hquiet
    · cases hfree.symm.trans hpend

theorem AlmostGuarded.watched (h : store.AlmostGuarded sid)
    (hreplica : (store.armWhenWatchable sid nowMs).terminal.lookup sid = some replica)
    (hexpect : replica.expectedStreamId.isSome = true)
    (hshown : replica.foregroundView.isSome = true) (hbound : replica.generation = some owner)
    (htarget : store.publicationTarget sid = some owner) :
    replica.liveness.quietDueMs.isSome = true ∨ replica.liveness.proofDueMs.isSome = true := by
  have hguard := h.armWhenWatchable sid replica hreplica
  cases helect : store.electedOwner sid with
  | none =>
    unfold Store.armWhenWatchable at hreplica
    rw [helect] at hreplica
    simp only [electedOwner, hreplica, Option.bind_some, hbound, htarget, if_true] at helect
    cases helect
  | some =>
    rw [armWhenWatchable_eq helect, lookup_modifyTerminal, if_pos rfl] at hreplica
    obtain ⟨_, _, rfl⟩ := Option.map_eq_some_iff.mp hreplica
    obtain ⟨_, _, -, hsame⟩ := electedOwner_generation helect
    cases htarget.symm.trans hsame
    rw [armed_expectedStreamId] at hexpect
    rw [armed_foregroundView] at hshown
    rcases armed_watched hexpect hshown with hquiet | ⟨hpend, hkept⟩
    · exact .inl hquiet
    · rw [hkept] at hguard ⊢
      exact hguard.armed hpend

/-- A pass asked for the Sync link to be replaced. -/
def Replaces (effects : List Effect) : Prop :=
  ∃ generation reason, Effect.closeSyncLink generation reason ∈ effects

theorem requestLinkReplacement_replaces {reason : String}
    (hacc : (store.sync.linkGeneration.any fun gen => store.sync.accepts gen) = true) :
    Replaces (store.requestLinkReplacement reason).2 := by
  obtain ⟨gen, hgen, hacc⟩ := (Option.any_eq_true _ _).mp hacc
  refine ⟨gen, reason, ?_⟩
  simp [requestLinkReplacement, hgen, SyncState.requestRedial, hacc]

theorem escalate_target : (store.escalate sid nowMs).1.publicationTarget sid =
        store.publicationTarget sid ∨ Replaces (store.escalate sid nowMs).2 := by
  unfold escalate
  split
  · exact .inl rfl
  split
  · exact .inl rfl
  dsimp only
  split
  · exact .inl rfl
  split
  · exact .inl rfl
  split
  · exact .inl rfl
  · rename_i hacc
    refine .inr (requestLinkReplacement_replaces ?_)
    simpa using hacc

theorem probe_target : (store.probe sid nowMs).1.publicationTarget sid =
      store.publicationTarget sid := by
  unfold probe publishChallenge
  split
  · rfl
  dsimp only
  split
  · rename_i hacted
    split at hacted
    · cases hacted
    split at hacted
    · cases hacted
    split at hacted
    · cases hacted
    · cases hacted
      rfl
  · rfl

/-- After a pass, a replica that is expected to paint in front of the reader, on the
generation its commands go to, holds a deadline, or the pass replaced its link. -/
def Watches (store : Store) (sessionId : String) (nowMs : Nat) : Prop :=
  ∀ replica owner,
    (store.sweepForegroundLiveness sessionId nowMs).1.terminal.lookup sessionId = some replica →
    replica.expectedStreamId.isSome = true → replica.foregroundView.isSome = true →
    replica.generation = some owner →
    (store.publicationTarget sessionId = some owner ∨
      (store.sweepForegroundLiveness sessionId nowMs).1.publicationTarget sessionId = some owner) →
    replica.liveness.quietDueMs.isSome = true ∨ replica.liveness.proofDueMs.isSome = true ∨
      Replaces (store.sweepForegroundLiveness sessionId nowMs).2

/-- The two deadlines of a pass, before it arms what is unarmed. -/
def fired (store : Store) (sessionId : String) (nowMs : Nat) (proofDue quietDue : Bool) : Acted :=
  let (store, escalated) := if proofDue then store.escalate sessionId nowMs else (store, [])
  let (store, probed) := if quietDue then store.probe sessionId nowMs else (store, [])
  (store, escalated ++ probed)

theorem AllGuarded.fired (h : store.AllGuarded) (sid : String) (nowMs : Nat)
    (proofDue quietDue : Bool) :
    (store.fired sid nowMs proofDue quietDue).1.AlmostGuarded sid := by
  have hesc : (if proofDue then store.escalate sid nowMs
      else (store, [])).1.AlmostGuarded sid := by
    split
    · exact h.escalate
    · exact h.almost
  unfold Store.fired
  dsimp only
  split
  · exact hesc.probe.almost
  · exact hesc

theorem fired_target (store : Store) (sid : String) (nowMs : Nat) (proofDue quietDue : Bool) :
    (store.fired sid nowMs proofDue quietDue).1.publicationTarget sid =
        store.publicationTarget sid ∨ Replaces (store.fired sid nowMs proofDue quietDue).2 := by
  have hesc : (if proofDue then store.escalate sid nowMs
        else (store, [])).1.publicationTarget sid = store.publicationTarget sid ∨
      Replaces (if proofDue then store.escalate sid nowMs else (store, [])).2 := by
    split
    · exact escalate_target
    · exact .inl rfl
  unfold fired
  dsimp only
  rcases hesc with hsame | ⟨gen, reason, hmem⟩
  · refine .inl ?_
    split
    · rw [probe_target]
      exact hsame
    · exact hsame
  · exact .inr ⟨gen, reason, List.mem_append_left _ hmem⟩

theorem sweepForegroundLiveness_eq (hvisible : store.sync.visible = true)
    (hreplica : store.terminal.lookup sid = some replica) :
    store.sweepForegroundLiveness sid nowMs =
      (((store.fired sid nowMs (replica.liveness.proofExpiryDue nowMs)
          (replica.liveness.quietExpiryDue nowMs)).1.armWhenWatchable sid nowMs),
        (store.fired sid nowMs (replica.liveness.proofExpiryDue nowMs)
          (replica.liveness.quietExpiryDue nowMs)).2) := by
  unfold sweepForegroundLiveness
  rw [hvisible, hreplica]
  rfl

theorem armWhenWatchable_target :
    (store.armWhenWatchable sid nowMs).publicationTarget sid =
      store.publicationTarget sid := by
  unfold armWhenWatchable
  split <;> rfl

section

variable (h : store.AllGuarded)
include h

theorem AllGuarded.sweepForegroundLiveness :
    (store.sweepForegroundLiveness sid nowMs).1.AllGuarded := by
  cases hvisible : store.sync.visible with
  | false =>
    unfold Store.sweepForegroundLiveness
    rw [hvisible]
    exact h.almost.others.retire _
  | true =>
    cases hreplica : store.terminal.lookup sid with
    | none =>
      unfold Store.sweepForegroundLiveness
      rw [hvisible, hreplica]
      exact h
    | some =>
      rw [sweepForegroundLiveness_eq hvisible hreplica]
      exact (h.fired _ _ _ _).armWhenWatchable

theorem AllGuarded.watches (hvisible : store.sync.visible = true) : store.Watches sid nowMs := by
  intro replica owner hafter hexpect hshown hbound htarget
  cases hreplica : store.terminal.lookup sid with
  | none =>
    unfold Store.sweepForegroundLiveness at hafter
    rw [hvisible, hreplica] at hafter
    cases hreplica.symm.trans hafter
  | some before =>
    rw [sweepForegroundLiveness_eq hvisible hreplica] at hafter htarget ⊢
    rw [armWhenWatchable_target] at htarget
    have halmost := h.fired sid nowMs (before.liveness.proofExpiryDue nowMs)
      (before.liveness.quietExpiryDue nowMs)
    rcases store.fired_target sid nowMs (before.liveness.proofExpiryDue nowMs)
      (before.liveness.quietExpiryDue nowMs) with hsame | hreplaced
    · rw [hsame, or_self] at htarget
      have hdead := halmost.watched hafter hexpect hshown hbound (hsame.trans htarget)
      exact hdead.imp_right .inl
    · exact .inr (.inr hreplaced)

/-! ## Over every run -/

theorem AllGuarded.requestRepairIfDue :
    (store.requestRepairIfDue sid nowMs).1.AllGuarded := by
  unfold Store.requestRepairIfDue
  split
  · exact h
  split
  · exact h
  split
  · exact h
  split
  · exact h
  apply h.modifyTerminal
  intro repl hreplica
  apply beginScopedRepair_guarded
  exact h _ repl hreplica

theorem AllGuarded.handleViewState (state : ViewStateResult) :
    (store.handleViewState state nowMs).1.AllGuarded := by
  unfold Store.handleViewState
  split
  · exact h
  rename_i repl hreplica
  split
  · exact h
  rename_i view _
  obtain ⟨_, hafter⟩ := applyViewState_eq repl { state with viewId := view.viewId } nowMs
  have hviewed : (store.modifyTerminal state.sessionId fun _ =>
      (repl.applyViewState { state with viewId := view.viewId } nowMs).1).AllGuarded := by
    apply h.modifyTerminal
    intro held _
    rw [hafter]
    exact h _ repl hreplica
  dsimp only
  split
  · split
    · exact hviewed
    apply AllGuarded.requestRepairIfDue
    apply hviewed.modifyTerminal
    intro held hheld
    rw [installExpectedStream_liveness]
    exact hviewed _ held hheld
  · exact hviewed

theorem AllGuarded.publishView (viewId : String) :
    (store.publishView sid viewId nowMs).1.AllGuarded := by
  unfold Store.publishView
  split
  · exact h
  split
  · exact h
  split
  · exact h
  · apply h.modifyTerminal
    intro repl hreplica
    exact h _ repl hreplica

theorem AllGuarded.releaseSyncGeneration (gen : UInt64) :
    (store.releaseSyncGeneration gen).AllGuarded := by
  unfold Store.releaseSyncGeneration
  generalize store.terminal.keys = sessions
  induction sessions generalizing store with
  | nil => exact h
  | cons sess sessions ih =>
    apply ih
    apply h.modifyTerminal
    intro repl hreplica
    split
    · exact guarded_of_none rfl
    · exact h _ repl hreplica

end

end Store

/-- What happens to the client's replicas. -/
inductive ClientOp where
  | openReplica (sessionId workerFp : String)
  | replica (sessionId : String) (op : SessionOp)
  | requestRepairIfDue (sessionId : String) (nowMs : Nat)
  | handleViewState (state : ViewStateResult) (nowMs : Nat)
  | publishView (sessionId viewId : String) (nowMs : Nat)
  | releaseSyncGeneration (generation : UInt64)
  | sweepForegroundLiveness (sessionId : String) (nowMs : Nat)
  /-- The rest of the client moves the link, the routes and the rotations. -/
  | elsewhere (sync : SyncState) (routes : Table String TerminalToken)
      (pendingSyncViewRotation : Finset String)

namespace Store

def machine (sizes : Sizes) : Transducer Store ClientOp (List Effect) where
  step store
    | .openReplica sessionId workerFp =>
      match store.terminal.lookup sessionId with
      | some _ => (store, [])
      | none =>
        ({ store with
            terminal := store.terminal.insert sessionId (.new sessionId workerFp) }, [])
    | .replica sessionId op =>
      (store.modifyTerminal sessionId fun replica =>
        (TerminalSession.machine sizes).next replica op, [])
    | .requestRepairIfDue sessionId nowMs => store.requestRepairIfDue sessionId nowMs
    | .handleViewState state nowMs => store.handleViewState state nowMs
    | .publishView sessionId viewId nowMs => store.publishView sessionId viewId nowMs
    | .releaseSyncGeneration generation => (store.releaseSyncGeneration generation, [])
    | .sweepForegroundLiveness sessionId nowMs => store.sweepForegroundLiveness sessionId nowMs
    | .elsewhere sync routes pendingSyncViewRotation =>
      ({ store with sync, routes, pendingSyncViewRotation }, [])

/-- Every part an outstanding challenge is waiting on is a steady one. -/
def Steady (sizes : Sizes) (store : Store) : ClientOp → Prop
  | .replica sessionId op =>
    ∀ replica, store.terminal.lookup sessionId = some replica → replica.Steady sizes op
  | _ => True

/-- A steady call keeps every challenge under a deadline. -/
theorem AllGuarded.next {sizes : Sizes} {store : Store} {op : ClientOp} (h : store.AllGuarded)
    (hsteady : store.Steady sizes op) : ((machine sizes).next store op).AllGuarded := by
  cases op with
  | openReplica =>
    simp only [Transducer.next, machine]
    split
    · exact h
    intro other replica hlook
    simp only [Table.lookup_insert] at hlook
    split at hlook
    · cases hlook
      exact guarded_of_none rfl
    · exact h other replica hlook
  | replica =>
    apply h.modifyTerminal
    intro replica hreplica
    exact next_guarded sizes (h _ replica hreplica) (hsteady replica hreplica)
  | requestRepairIfDue => exact h.requestRepairIfDue
  | handleViewState state => exact h.handleViewState state
  | publishView sid viewId => exact h.publishView viewId
  | releaseSyncGeneration gen => exact h.releaseSyncGeneration gen
  | sweepForegroundLiveness => exact h.sweepForegroundLiveness
  | elsewhere => exact h.of_terminal rfl

/-- In every run whose chunk parts are steady, every pass over a session of a visible
document leaves it watched. -/
theorem run_watches (sizes : Sizes) (sync : SyncState) (ops : List ClientOp)
    (hsteady : (machine sizes).Along (Steady sizes) (.new sync) ops) (sid : String)
    (nowMs : Nat) (hvisible : ((machine sizes).run (.new sync) ops).sync.visible = true) :
    ((machine sizes).run (.new sync) ops).Watches sid nowMs := by
  have hstart : (Store.new sync).AllGuarded := by
    intro other replica hlookup
    cases hlookup
  have hguarded := hsteady.invariant hstart fun _ _ h hop => h.next hop
  exact hguarded.watches hvisible

/-! ## A pane that is answered in parts -/

/-- A visible document on its first socket, with the terminal domain ready. -/
def foreground : SyncState where
  link := some { generation := 1, processEpoch := "epoch-a", opened := true, accepting := true }
  terminalDomain := some { generation := 7, ready := true }
  visible := true

/-- A pane attaches, is published, is told its stream, and paints nothing until it is
probed. -/
def challenged : List ClientOp :=
  [.openReplica "session-1" "worker-1", .replica "session-1" (.openView "view-1" 1 2),
    .publishView "session-1" "view-1" 0,
    .handleViewState
      { sessionId := "session-1", viewId := "view-1", generation := 7, revision := 1
        accepted := true, streamId := some paneStream, effectiveCols := 1, effectiveRows := 2 } 10,
    .sweepForegroundLiveness "session-1" 100, .sweepForegroundLiveness "session-1" 6000]

/-- The first part of the baseline that answers it. -/
def answerPart (chunkCount : UInt32) : PbCellGridChunk where
  snapshotId := "00000000-0000-4000-8000-000000000002"
  chunkIndex := 0
  chunkCount := chunkCount
  part := some
    { sessionId := "session-1", streamId := paneStream, gridEpoch := "epoch", cols := 1, rows := 2
      full := true, seq := 1, viewportRows := [{ index := 0 }, { index := 1 }] }

/-- The client once that part arrived, and after it what else happens. -/
def answeredBy (chunkCount : UInt32) (ops : List ClientOp) : Store :=
  (machine wireSizes).run (.new foreground)
    (challenged ++ .replica "session-1" (.admitChunk (answerPart chunkCount) (dialled 1) 6100) :: ops)

/-- An answer of one part is a steady one. -/
theorem run_watches_answered : (answeredBy 1 []).Watches "session-1" 12000 := by
  apply run_watches
  · refine (Transducer.along_append ..).mpr ⟨?_, ?_, trivial⟩
    · exact ⟨trivial, fun _ _ => trivial, trivial, trivial, trivial, trivial, trivial⟩
    intro replica hreplica part _ _ _ _ _
    have hheld : (((machine wireSizes).run (.new foreground) challenged).terminal.lookup
        "session-1").all (fun replica => replica.foregroundView.isSome &&
          decide ((replica.admitChunk wireSizes (answerPart 1) (dialled 1) 6100).2 =
            .baselineReplaced)) = true := by
      decide +kernel
    rw [hreplica] at hheld
    simp only [Option.all_some, Bool.and_eq_true, decide_eq_true_eq] at hheld
    exact .inr ⟨hheld.1, .inl hheld.2⟩
  · decide +kernel

/-- The first of two parts clears the proof and the transfer stalls: the pane in front of
the reader is left with no deadline, no transfer and no gap to repair. -/
theorem unwatched_pane : (answeredBy 2 [.replica "session-1" (.sweep 60000)]).sync.visible = true ∧
      ((answeredBy 2 [.replica "session-1" (.sweep 60000)]).terminal.lookup "session-1").any
        (fun replica => replica.assembler.inFlight.isNone && !replica.repairLatched) ∧
      ¬(answeredBy 2 [.replica "session-1" (.sweep 60000)]).Watches "session-1" 60000 := by
  refine ⟨by decide +kernel, by decide +kernel, ?_⟩
  intro hwatches
  have hunwatched : (((answeredBy 2 [.replica "session-1" (.sweep 60000)]).sweepForegroundLiveness
      "session-1" 60000).1.terminal.lookup "session-1").any (fun replica =>
        replica.expectedStreamId.isSome && replica.foregroundView.isSome &&
          decide (replica.generation = some (dialled 1)) &&
          replica.liveness.quietDueMs.isNone && replica.liveness.proofDueMs.isNone) = true := by
    decide +kernel
  have heff : ((answeredBy 2 [.replica "session-1" (.sweep 60000)]).sweepForegroundLiveness
      "session-1" 60000).2 = [] := by
    decide +kernel
  obtain ⟨replica, hreplica, hheld⟩ := (Option.any_eq_true _ _).mp hunwatched
  simp only [Bool.and_eq_true, decide_eq_true_eq, Option.isNone_iff_eq_none] at hheld
  obtain ⟨⟨⟨⟨hexpect, hshown⟩, hbound⟩, hquiet⟩, hproof⟩ := hheld
  rcases hwatches replica (dialled 1) hreplica hexpect hshown hbound (.inl (by decide +kernel))
    with harmed | harmed | ⟨generation, reason, hmem⟩
  · rw [hquiet] at harmed
    cases harmed
  · rw [hproof] at harmed
    cases harmed
  · rw [heff] at hmem
    cases hmem

end Store

end Roost.Client
