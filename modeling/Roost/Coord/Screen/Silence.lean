-- SUMMARY: A broken replica is armed or was reported, over runs of the hub.
import Roost.Coord.Screen.Watching

/-!
# No broken replica is silent

Every operation of the hub leaves the ladders of all screens standing. The silent paths are a
full that cannot pin the leased version it replaces, a stall deadline that fires before the
stall, and a byte accepted on a spent ladder.
-/

namespace Roost.Coord

open ResidentCache Transducer

open Roost.Cell TerminalScreenResidency ScreenTurn

namespace ScreenHub

variable {sizes : Sizes} {hub : ScreenHub} {watched : Watched} {op : Op} {sid : SessionId}
  {scrn : SessionScreen}

/-! ## Frames and parts -/

variable {frame : PbCellGridFrame}

theorem validatedOf_frame {want : ExpectedStream}
    {installed : CellGridFrame} {spans : Nat} {assembled : Bool}
    (hfound : hub.sessions.lookup sid = some scrn)
    (hexpect : scrn.expected = some want) (hstr : frame.streamId = want.streamId)
    (hvalid : validatedFull sizes frame want assembled = .ok (installed, spans)) :
    hub.validatedOf sizes { sessionId := sid, frame, assembled } = some (installed, spans) := by
  unfold validatedOf
  simp [hfound, hexpect, hstr, hvalid, Except.toOption]

theorem exists_of_validatedOf {full : BroughtFull} {validated : CellGridFrame × Nat}
    (h : hub.validatedOf sizes full = some validated) :
    ∃ scrn expected, hub.sessions.lookup full.sessionId = some scrn ∧
      scrn.expected = some expected ∧ full.frame.streamId = expected.streamId ∧
      validatedFull sizes full.frame expected full.assembled = .ok validated := by
  unfold validatedOf at h
  cases hfound : hub.sessions.lookup full.sessionId with
  | none =>
    rw [hfound] at h
    cases h
  | some scrn =>
    cases hexpect : scrn.expected with
    | none =>
      rw [hfound, Option.bind_some, hexpect] at h
      cases h
    | some expected =>
      rw [hfound, Option.bind_some, hexpect] at h
      dsimp only at h
      split at h
      · cases h
      rename_i hstr
      refine ⟨scrn, expected, rfl, hexpect, not_not.mp hstr, ?_⟩
      cases hvalid : validatedFull sizes full.frame expected full.assembled with
      | error =>
        rw [hvalid] at h
        cases h
      | ok =>
        rw [hvalid] at h
        cases h
        rfl

theorem Kept.publishFrame (h : Kept watched)
    (hkeeps : watched.hub.KeepsLadder sizes (.publishFrame sid frame)) :
    Kept ((watching sizes).next watched (.publishFrame sid frame)) ∧
      watched.hub.FullAnswered sizes (.publishFrame sid frame) := by
  have hbrought : ∀ full ∈ watched.hub.fullOf sizes (.publishFrame sid frame),
      frame.full = true ∧ full =
        { sessionId := sid, frame := { frame with sessionId := sid.value }, assembled := false } := by
    intro full hfull
    simp only [fullOf, Option.mem_def] at hfull
    split at hfull
    · rename_i hisFull
      cases hfull
      exact ⟨hisFull, rfl⟩
    · cases hfull
  cases hfound : watched.hub.sessions.lookup sid with
  | none =>
    have hstep : (machine sizes).step watched.hub (.publishFrame sid frame) =
        (watched.hub, { answer := false }) := by
      simp only [machine, ScreenHub.publishFrame, hfound]
    have hnext : (machine sizes).next watched.hub (.publishFrame sid frame) = watched.hub :=
      congrArg Prod.fst hstep
    refine ⟨h.ignored hstep (fun other => ?_) (fun _ => rfl), ?_⟩
    · simp [accepts, hnext]
    intro full hfull validated hval
    obtain ⟨-, rfl⟩ := hbrought full hfull
    obtain ⟨_, _, hfound', -⟩ := exists_of_validatedOf hval
    cases hfound.symm.trans hfound'
  | some scrn =>
    have hladder := h.screens sid scrn hfound
    obtain ⟨expected, hexpect⟩ := Option.isSome_iff_exists.mp hladder.expected
    have hexpects : scrn.expected = some expected := hexpect
    have hfits : frame.full = true → frame.streamId = expected.streamId → ∀ installed spans,
        validatedFull sizes { frame with sessionId := sid.value } expected false =
          .ok (installed, spans) →
            watched.hub.residency.PinFits scrn.charge installed.rows.toNat spans := by
      intro hisFull hstr installed spans hvalid
      exact hkeeps.fits _ (if_pos hisFull) _ (validatedOf_frame hfound hexpects hstr hvalid)
        scrn hfound
    obtain ⟨hadmits, hanswered⟩ := hladder.admitFrame (watched.hub.sockets.watchersOf sid)
      { frame with sessionId := sid.value } hexpect
      (fun hidle hdelta hspent => hkeeps.fresh scrn hfound hidle hdelta hspent) hfits
    have hstep : (machine sizes).step watched.hub (.publishFrame sid frame) =
        watched.hub.within sid scrn (ScreenHub.admitFrame sizes sid
          { frame with sessionId := sid.value } expected
          (watched.hub.sockets.watchersOf sid)) := by
      simp only [machine, ScreenHub.publishFrame, hfound, hexpects]
    refine ⟨?_, ?_⟩
    · refine h.committed _ watched.hub.scheduled hstep rfl rfl rfl rfl (fun _ hmem _ => hmem)
        (fun _ hmem => hmem) (hadmits.mono ?_) ?_
      · rintro ⟨hrep, hnext⟩
        refine ⟨hrep, ?_, rfl⟩
        simp only [accepts, next, hstep]
        simp only [within, commit, hnext]
        simp [turn]
      · intro other hother
        refine ⟨?_, rfl⟩
        simp [accepts, Ne.symm hother]
    intro full hfull validated hval
    obtain ⟨hisFull, rfl⟩ := hbrought full hfull
    obtain ⟨_, _, hfound', hexpect', hstr, hvalid⟩ :=
      exists_of_validatedOf hval
    cases hfound.symm.trans hfound'
    cases hexpects.symm.trans hexpect'
    have hturned := hanswered hisFull hstr validated.1 validated.2 hvalid
    have hcur : ((machine sizes).next watched.hub (.publishFrame sid frame)).currentOf
        sid = (ScreenHub.admitFrame sizes sid
          { frame with sessionId := sid.value } expected
          (watched.hub.sockets.watchersOf sid)
          (watched.hub.turn scrn)).screen.charge.current := by
      simp only [next, hstep]
      exact currentOf_of_lookup (AList.lookup_insert _)
    simp only [answer, hstep]
    rw [hcur]
    exact hturned

variable {chunk : PbCellGridChunk} {nowMs : Nat} {reply : HubReply} {index : Nat}
  {needsSnapshot : Bool} {receivedAtMs : Int64}

theorem publishChunk_ignored
    (hnone : hub.pushOf sizes sid chunk receivedAtMs nowMs = none) :
    (machine sizes).step hub (.publishChunk sid chunk receivedAtMs nowMs) =
      (hub, { answer := false }) := by
  simp only [machine, ScreenHub.publishChunk]
  unfold pushOf at hnone
  cases hfound : hub.sessions.lookup sid with
  | none => rfl
  | some scrn =>
    rw [hfound] at hnone
    dsimp only at hnone ⊢
    split
    · rename_i hexpect hpart
      rw [hexpect, hpart] at hnone
      dsimp only at hnone
      split
      · rfl
      · rename_i hstr
        rw [if_neg hstr] at hnone
        cases hnone
    · rfl

/-- A published part keeps the ladder, and the full it completes, if it passes, is
answered. -/
theorem Kept.publishChunk (h : Kept watched)
    (hkeeps : watched.hub.KeepsLadder sizes (.publishChunk sid chunk receivedAtMs nowMs)) :
    Kept ((watching sizes).next watched (.publishChunk sid chunk receivedAtMs nowMs)) ∧
      watched.hub.FullAnswered sizes (.publishChunk sid chunk receivedAtMs nowMs) := by
  have hbrought : ∀ full ∈
      watched.hub.fullOf sizes (.publishChunk sid chunk receivedAtMs nowMs),
      full.sessionId = sid ∧ full.assembled = true ∧ ∃ snapshotId,
        watched.hub.pushOf sizes sid chunk receivedAtMs nowMs =
          some (.ok (.complete snapshotId full.frame)) := by
    intro full hfull
    simp only [fullOf, Option.mem_def] at hfull
    split at hfull
    · rename_i snapshotId _ hpush
      cases hfull
      exact ⟨rfl, rfl, snapshotId, hpush⟩
    · cases hfull
  -- A part of another stream never reaches the assembler.
  cases hpush : watched.hub.pushOf sizes sid chunk receivedAtMs nowMs with
  | none =>
    refine ⟨h.ignored (publishChunk_ignored hpush) (fun other => ?_) (fun _ => rfl), ?_⟩
    · simp [accepts, hpush]
    intro full hfull
    obtain ⟨-, -, _, hsome⟩ := hbrought full hfull
    rw [hpush] at hsome
    cases hsome
  | some pushed =>
    obtain ⟨scrn, expected, part, hfound, hexpects, hpart, hstr⟩ :
        ∃ scrn expected part, watched.hub.sessions.lookup sid = some scrn ∧
          scrn.expected = some expected ∧ chunk.part = some part ∧
          part.streamId = expected.streamId := by
      unfold pushOf at hpush
      split at hpush
      · cases hpush
      rename_i scrn hfound
      split at hpush
      · rename_i expected part hexpect hpart
        split at hpush
        · cases hpush
        · rename_i hstr
          exact ⟨scrn, expected, part, hfound, hexpect, hpart, not_not.mp hstr⟩
      · cases hpush
    have hpushed := hpush
    simp only [pushOf, hfound, hexpects, hpart] at hpushed
    replace hpushed := Option.some.inj ((if_neg (not_not.mpr hstr)).symm.trans hpushed)
    have hladder := h.screens sid scrn hfound
    have hspent : pushed.isOk = true → scrn.assembling = true → ¬scrn.Spent := by
      intro hok hasm hspent
      have href := hkeeps.fresh scrn hfound hasm hspent
      rw [hpush, Option.any_some, hok] at href
      cases href
    have hfits : ∀ snapshotId frame, pushed = .ok (.complete snapshotId frame) →
        frame.streamId = expected.streamId →
          ∀ installed spans, validatedFull sizes frame expected true = .ok (installed, spans) →
            watched.hub.residency.PinFits scrn.charge installed.rows.toNat spans := by
      intro snapshotId frame hcomplete hsame installed spans hvalid
      have hfull : watched.hub.fullOf sizes (.publishChunk sid chunk receivedAtMs nowMs) =
          some { sessionId := sid, frame, assembled := true } := by
        simp only [fullOf, hpush, hcomplete]
      exact hkeeps.fits _ hfull _ (validatedOf_frame hfound hexpects hsame hvalid) scrn hfound
    obtain ⟨hadmits, hanswered⟩ := hladder.admitChunk (watched.hub.sockets.watchersOf sid)
      { chunk with part := some { part with sessionId := sid.value } }
      (UInt64.ofNat receivedAtMs.toNatClampNeg) nowMs hexpects rfl hstr rfl hpushed hspent hfits
    have hstep : (machine sizes).step watched.hub
        (.publishChunk sid chunk receivedAtMs nowMs) =
          (let admitted := ScreenHub.admitChunk sizes sid
            { chunk with part := some { part with sessionId := sid.value } }
            (UInt64.ofNat receivedAtMs.toNatClampNeg) nowMs
            (watched.hub.sockets.watchersOf sid) (watched.hub.turn scrn)
          let hub := watched.hub.commit sid admitted.1
          ({ hub with pending := hub.pending ++ if admitted.2 then [.replay sid] else [] },
            { effects := admitted.1.effects })) := by
      simp only [machine, ScreenHub.publishChunk, hfound, hexpects, hpart, hstr, ne_eq,
        not_true_eq_false, if_false]
    refine ⟨?_, ?_⟩
    · refine h.committed _ watched.hub.scheduled hstep rfl rfl rfl rfl (fun _ hmem _ => hmem)
        (fun _ hmem => hmem) (hadmits.mono ?_) ?_
      · rintro ⟨hrep, href⟩
        refine ⟨hrep, ?_, rfl⟩
        simp [accepts, hpush, href]
      · intro other hother
        refine ⟨?_, rfl⟩
        simp [accepts, Ne.symm hother]
    intro full hfull validated hval
    obtain ⟨howner, hass, snapshotId, hcomplete⟩ := hbrought full hfull
    obtain ⟨_, _, hfound', hexpect', _, hvalid⟩ :=
      exists_of_validatedOf hval
    rw [howner] at hfound' ⊢
    rw [hass] at hvalid
    cases hfound.symm.trans hfound'
    cases hexpects.symm.trans hexpect'
    cases hpush.symm.trans hcomplete
    have hturned := hanswered snapshotId full.frame rfl validated.1 validated.2 hvalid
    have hcur : ((machine sizes).next watched.hub
        (.publishChunk sid chunk receivedAtMs nowMs)).currentOf sid =
          (ScreenHub.admitChunk sizes sid
            { chunk with part := some { part with sessionId := sid.value } }
            (UInt64.ofNat receivedAtMs.toNatClampNeg) nowMs
            (watched.hub.sockets.watchersOf sid)
            (watched.hub.turn scrn)).1.screen.charge.current := by
      simp only [next, hstep]
      exact currentOf_of_lookup (AList.lookup_insert _)
    simp only [answer, hstep]
    rw [hcur]
    exact hturned

/-! ## Streams, leases and sockets -/

theorem ladder_restarted {old : List Deadline} {reported : Prop} (turn : ScreenTurn)
    (watchers : List Watcher) (want : ExpectedStream)
    (hdrawn : ∀ due ∈ old ++ turn.scheduled, due.token < turn.tokens)
    (howned : ∀ due ∈ turn.scheduled, due.sessionId = sid) :
    Ladder sid old reported (restarted turn sid watchers want) := by
  unfold restarted
  apply Backed.armBaselineTimer
  · refine ⟨rfl, hdrawn, ?_, ?_, ?_, ?_, howned⟩
    · intro due hmem howner hawaits
      cases due <;> cases hawaits
    · intro token htimer
      cases htimer
    · intro token htimer
      cases htimer
    · intro token htimer
      cases htimer
  · rfl
  · rfl
  · rfl
  · rfl
  · rfl

theorem Kept.expectStream (h : Kept watched) (stream : String) (cols rows : UInt32) :
    Kept ((watching sizes).next watched (.expectStream sid stream cols rows)) := by
  obtain ⟨scrn, hfound, hsame, he⟩ | ⟨-, he⟩ :=
    expectStream_cases watched.hub sid stream cols rows
  · have hstep : (machine sizes).step watched.hub (.expectStream sid stream cols rows) =
        ({ watched.hub with sessions := watched.hub.sessions.insert sid scrn }, {}) := he
    have hladder := h.screens sid scrn hfound
    refine h.committed _ watched.hub.scheduled hstep rfl (List.append_nil _).symm rfl rfl
      (fun _ hmem _ => hmem) (fun _ hmem => hmem) (hladder.mono fun hrep => ?_) ?_
    · refine ⟨hrep, rfl, ?_⟩
      simp [restarts, hfound, hsame]
    · intro other hother
      refine ⟨rfl, ?_⟩
      simp [restarts, Ne.symm hother]
  have hstep : (machine sizes).step watched.hub (.expectStream sid stream cols rows) =
      watched.hub.within sid ((watched.hub.sessions.lookup sid).getD {}) fun turn =>
        restarted turn sid (watched.hub.sockets.watchersOf sid)
          { streamId := stream, cols, rows } := he
  refine h.committed _ watched.hub.scheduled hstep rfl rfl rfl rfl (fun _ hmem _ => hmem)
    (fun _ hmem => hmem) (ladder_restarted _ _ _ ?_ ?_) ?_
  · intro due hmem
    obtain hout | hnone := List.mem_append.mp hmem
    · exact h.drawn due hout
    · cases hnone
  · intro due hnone
    cases hnone
  · intro other hother
    refine ⟨rfl, ?_⟩
    simp [restarts, Ne.symm hother]

theorem Kept.dropSession (h : Kept watched) :
    Kept ((watching sizes).next watched (.dropSession sid)) := by
  constructor
  · exact h.drawn
  intro other screen hfound
  have herased : AList.lookup other (watched.hub.sessions.erase sid) = some screen := hfound
  rw [Table.lookup_erase] at herased
  split at herased
  · cases herased
  rename_i hother
  refine ladder_settled (h.screens other screen herased) (List.append_nil _).symm rfl ?_
  rintro (hrep | ⟨eff, hnone, -⟩)
  · have hacc : watched.hub.accepts sizes (.dropSession sid) other = false := rfl
    refine noted_of_reported hrep hacc ?_
    simp [restarts, Ne.symm hother]
  · cases hnone

theorem Kept.invalidate (h : Kept watched) (reason : String) :
    Kept ((watching sizes).next watched (.invalidate sid reason)) := by
  cases hfound : watched.hub.sessions.lookup sid with
  | none =>
    have hstep : (machine sizes).step watched.hub (.invalidate sid reason) =
        (watched.hub, {}) := by
      simp only [machine, ScreenHub.invalidate, hfound]
    exact h.ignored hstep (fun _ => rfl) fun _ => rfl
  | some scrn =>
    have hladder := h.screens sid scrn hfound
    obtain ⟨expected, hexpect⟩ := Option.isSome_iff_exists.mp hladder.expected
    have hexpects : scrn.expected = some expected := hexpect
    have hstep : (machine sizes).step watched.hub (.invalidate sid reason) =
        watched.hub.within sid scrn fun turn =>
          turn.resetChunks.clearHold.markInvalid.retry sid reason := by
      simp only [machine, ScreenHub.invalidate, hfound, hexpects, Option.isNone_some,
        Bool.false_eq_true, if_false]
    have hsame : SameLadder (watched.hub.turn scrn).resetChunks
        (watched.hub.turn scrn).resetChunks.clearHold.markInvalid :=
      ⟨rfl, rfl, rfl, id, rfl, rfl, fun _ hmem => hmem⟩
    have hasked := (hladder.toBooks.resetChunks.same hsame).retry rfl
      (fun htimer => by cases htimer) reason
    exact h.committed _ watched.hub.scheduled hstep rfl rfl rfl rfl (fun _ hmem _ => hmem)
      (fun _ hmem => hmem) (hasked.mono fun hrep => ⟨hrep, rfl, rfl⟩)
      fun _ _ => ⟨rfl, rfl⟩

theorem Kept.leased (h : Kept watched) {residency : TerminalScreenResidency}
    {charge : SessionCharge} (hfound : watched.hub.sessions.lookup sid = some scrn)
    (hstep : (machine sizes).step watched.hub op = ({ watched.hub with
          residency, sessions := watched.hub.sessions.insert sid { scrn with charge } },
        reply))
    (heff : reply.effects = [])
    (hvalid : charge.current.any valid = scrn.charge.current.any valid)
    (hacc : ∀ other, watched.hub.accepts sizes op other = false)
    (hrest : ∀ other, watched.hub.restarts other op = false) :
    Kept ((watching sizes).next watched op) := by
  have hladder : Ladder sid watched.hub.scheduled (watched.reported sid = true)
      { watched.hub.turn scrn with residency, screen := { scrn with charge } } :=
    (h.screens sid scrn hfound).same ⟨rfl, rfl, rfl, id, rfl, rfl, fun _ hmem => hmem⟩ hvalid
  exact h.committed _ watched.hub.scheduled hstep rfl (List.append_nil _).symm rfl heff
    (fun _ hmem _ => hmem) (fun _ hmem => hmem)
    (hladder.mono fun hrep => ⟨hrep, hacc sid, hrest sid⟩)
    fun other _ => ⟨hacc other, hrest other⟩

variable {pool : TerminalScreenResidency} {state : SessionCharge}

theorem acquireSourceLease_valid
    {gen : Nat} : (pool.acquireSourceLease state gen).2.1.current.any valid =
      state.current.any valid := by
  unfold TerminalScreenResidency.acquireSourceLease
  split
  · rfl
  rename_i hcur
  split
  · rfl
  · simp [hcur]

theorem releaseSourceLease_valid
    {gen : Nat} : (pool.releaseSourceLease state gen).2.current.any valid =
      state.current.any valid := by
  unfold TerminalScreenResidency.releaseSourceLease
  split
  · rename_i hcur
    split
    · simp [hcur]
    · rw [releasePinned_current]
  · rw [releasePinned_current]

section

variable (h : Kept watched)
include h

theorem Kept.acquireSourceLease (gen : Nat) :
    Kept ((watching sizes).next watched (.acquireSourceLease sid gen)) := by
  cases hfound : watched.hub.sessions.lookup sid with
  | none =>
    have hstep : (machine sizes).step watched.hub (.acquireSourceLease sid gen) =
        (watched.hub, { answer := false }) := by
      simp only [machine, ScreenHub.acquireSourceLease, hfound]
    exact h.ignored hstep (fun _ => rfl) fun _ => rfl
  | some scrn =>
    have hstep : (machine sizes).step watched.hub (.acquireSourceLease sid gen) =
        ({ watched.hub with
            residency := (watched.hub.residency.acquireSourceLease scrn.charge gen).1
            sessions := watched.hub.sessions.insert sid { scrn with
                charge :=
                  (watched.hub.residency.acquireSourceLease scrn.charge gen).2.1 } },
          { answer :=
              (watched.hub.residency.acquireSourceLease scrn.charge gen).2.2 }) := by
      simp only [machine, ScreenHub.acquireSourceLease, hfound]
    exact h.leased hfound hstep rfl acquireSourceLease_valid (fun _ => rfl) fun _ => rfl

theorem Kept.releaseSourceLease (gen : Nat) :
    Kept ((watching sizes).next watched (.releaseSourceLease sid gen)) := by
  cases hfound : watched.hub.sessions.lookup sid with
  | none =>
    have hstep : (machine sizes).step watched.hub (.releaseSourceLease sid gen) =
        (watched.hub, {}) := by
      simp only [machine, ScreenHub.releaseSourceLease, hfound]
    exact h.ignored hstep (fun _ => rfl) fun _ => rfl
  | some scrn =>
    have hstep : (machine sizes).step watched.hub (.releaseSourceLease sid gen) =
        ({ watched.hub with
            residency := (watched.hub.residency.releaseSourceLease scrn.charge gen).1
            sessions := watched.hub.sessions.insert sid { scrn with
                charge :=
                  (watched.hub.residency.releaseSourceLease scrn.charge gen).2 } },
          {}) := by
      simp only [machine, ScreenHub.releaseSourceLease, hfound]
    exact h.leased hfound hstep rfl releaseSourceLease_valid (fun _ => rfl) fun _ => rfl

theorem Kept.seeded {out : ScreenHub} (hfound : watched.hub.sessions.lookup sid = some scrn)
    (hstep : (machine sizes).step watched.hub op =
      (out.commit sid ((out.turn scrn).seedSource sizes sid).1, reply))
    (hsess : out.sessions = watched.hub.sessions)
    (hschedule : out.scheduled = watched.hub.scheduled) (htokens : out.tokens = watched.hub.tokens)
    (heff : reply.effects = ((out.turn scrn).seedSource sizes sid).1.effects)
    (hacc : ∀ other, watched.hub.accepts sizes op other = false)
    (hrest : ∀ other, watched.hub.restarts other op = false) :
    Kept ((watching sizes).next watched op) := by
  have hsame : SameLadder (watched.hub.turn scrn) (out.turn scrn) :=
    ⟨rfl, rfl, rfl, id, htokens, rfl, fun _ hmem => hmem⟩
  have hladder := ((h.screens sid scrn hfound).same hsame rfl).mono fun hrep =>
    And.intro hrep (And.intro (hacc sid) (hrest sid))
  refine h.committed _ watched.hub.scheduled hstep ?_ ?_ rfl heff (fun _ hmem _ => hmem)
    (fun _ hmem => hmem) hladder.seedSource fun other _ => ⟨hacc other, hrest other⟩
  · rw [← hsess]
    rfl
  · rw [← hschedule]
    rfl

theorem Kept.seedSocket (socketId : String) :
    Kept ((watching sizes).next watched (.seedSocket socketId sid)) := by
  have hstep : (machine sizes).step watched.hub (.seedSocket socketId sid) =
      watched.hub.seedSocket sizes sid socketId := rfl
  unfold ScreenHub.seedSocket at hstep
  split at hstep
  · rename_i hfound
    split at hstep
    · exact h.ignored hstep (fun _ => rfl) fun _ => rfl
    · split at hstep
      · exact h.ignored hstep (fun _ => rfl) fun _ => rfl
      · exact h.seeded hfound hstep rfl rfl rfl rfl (fun _ => rfl) fun _ => rfl
  · exact h.ignored hstep (fun _ => rfl) fun _ => rfl

theorem Kept.rebaseline (socketId : String) (checkpoint : Option ScreenCheckpoint)
    (hstep : (machine sizes).step watched.hub op =
      ((watched.hub.rebaselinePlan sizes sid socketId checkpoint).1, reply))
    (heff : reply.effects =
      (watched.hub.rebaselinePlan sizes sid socketId checkpoint).2.effects)
    (hacc : ∀ other, watched.hub.accepts sizes op other = false)
    (hrest : ∀ other, watched.hub.restarts other op = false) :
    Kept ((watching sizes).next watched op) := by
  unfold rebaselinePlan at hstep heff
  split at hstep
  · rename_i screen hwatcher hfound
    rw [hwatcher, hfound] at heff
    have hladder := h.screens sid screen hfound
    obtain ⟨expected, hexpect⟩ := Option.isSome_iff_exists.mp hladder.expected
    have hstr : screen.expectedStreamId = some expected.streamId := by
      have hexpects : screen.expected = some expected := hexpect
      simp [SessionScreen.expectedStreamId, hexpects]
    simp only [hstr] at hstep heff
    split at hstep
    · rename_i hserves
      simp only [hserves, if_true] at heff
      exact h.seeded hfound hstep rfl rfl rfl heff hacc hrest
    rename_i hserves
    simp only [hserves, Bool.false_eq_true, if_false] at heff
    have hasked : Ladder sid watched.hub.scheduled (watched.reported sid = true)
        ((watched.hub.turn screen).retry sid
          "browser checkpoint requires source baseline") := by
      cases hasm : screen.assembling with
      | true =>
        have hstays : (watched.hub.turn screen).retry sid
            "browser checkpoint requires source baseline" = watched.hub.turn screen :=
          if_pos hasm
        rw [hstays]
        exact hladder
      | false => exact hladder.toBooks.retry hasm hladder.transfer _
    exact h.committed _ watched.hub.scheduled hstep rfl rfl rfl heff
      (fun _ hmem _ => hmem) (fun _ hmem => hmem)
      (hasked.mono fun hrep => ⟨hrep, hacc sid, hrest sid⟩)
      fun other _ => ⟨hacc other, hrest other⟩
  · exact h.ignored hstep hacc hrest

theorem Kept.resyncSocket (sock : String) (ckpt : Option ScreenCheckpoint) :
    Kept ((watching sizes).next watched (.resyncSocket sock sid ckpt)) := by
  have hstep : (machine sizes).step watched.hub (.resyncSocket sock sid ckpt) =
      ((watched.hub.rebaselinePlan sizes sid sock ckpt).1,
        (watched.hub.resyncSocket sizes sid sock ckpt).2) :=
    Prod.ext (resyncSocket_hub watched.hub sid sock ckpt) rfl
  refine h.rebaseline sock ckpt hstep ?_ (fun _ => rfl) fun _ => rfl
  unfold ScreenHub.resyncSocket
  dsimp only
  split <;> rfl

end

/-! ## Pending work and deadlines -/

theorem accepts_perform (h : (hub.pending[index]?).bind HubTask.replays = none) (other : SessionId)
    : hub.accepts sizes (.perform index needsSnapshot) other = false := by
  simp [accepts, h]

section

variable (h : Kept watched)
include h

theorem Kept.runEffect
    {effect : ScreenEffect} (htask : watched.hub.pending[index]? = some (.effect effect)) :
    Kept ((watching sizes).next watched (.perform index needsSnapshot)) := by
  have hnone : (watched.hub.pending[index]?).bind HubTask.replays = none := by rw [htask]; rfl
  have hstep : (machine sizes).step watched.hub (.perform index needsSnapshot) =
      ({ watched.hub with pending := watched.hub.pending.eraseIdx index } : ScreenHub).runEffect
        sizes needsSnapshot effect := by
    simp only [machine, htask]
    rfl
  have hquiet {reply : HubReply}
      (he : (machine sizes).step watched.hub (.perform index needsSnapshot) =
        ({ watched.hub with pending := watched.hub.pending.eraseIdx index }, reply)) :
      Kept ((watching sizes).next watched (.perform index needsSnapshot)) := by
    have hnext : (machine sizes).next watched.hub (.perform index needsSnapshot) =
        { watched.hub with pending := watched.hub.pending.eraseIdx index } := congrArg Prod.fst he
    exact h.unmoved (by rw [hnext]) (by rw [hnext]; exact fun _ hmem _ => hmem)
      (by rw [hnext]; exact fun _ hmem => hmem) (by rw [hnext]) (accepts_perform hnone)
      fun _ => rfl
  cases effect with
  | begin | seed =>
    unfold ScreenHub.runEffect at hstep
    dsimp only at hstep
    split at hstep <;> exact hquiet hstep
  | delta watcher sid streamId frame gen =>
    unfold ScreenHub.runEffect at hstep
    dsimp only at hstep
    split at hstep
    · split at hstep
      · unfold reseedAfterRefusedDelta at hstep
        split at hstep
        · exact hquiet hstep
        rename_i hfound
        split at hstep
        · exact h.seeded hfound hstep rfl rfl rfl rfl (accepts_perform hnone) fun _ => rfl
        · exact hquiet hstep
      · exact hquiet hstep
    · exact hquiet hstep
  | _ => exact hquiet hstep

theorem Kept.replay (htask : watched.hub.pending[index]? = some (.replay sid))
    (hfresh : watched.hub.LadderFresh sizes (.perform index needsSnapshot)) :
    Kept ((watching sizes).next watched (.perform index needsSnapshot)) := by
  have hreplays : (watched.hub.pending[index]?).bind HubTask.replays = some sid := by
    rw [htask]
    rfl
  have hstep : (machine sizes).step watched.hub (.perform index needsSnapshot) = ({ watched.hub with
          pending := watched.hub.pending.eraseIdx index } : ScreenHub).replayHeldDeltas sizes
            sid := by
    simp only [machine, htask]
    rfl
  unfold ScreenHub.replayHeldDeltas at hstep
  split at hstep
  · have hnext : (machine sizes).next watched.hub (.perform index needsSnapshot) =
        { watched.hub with pending := watched.hub.pending.eraseIdx index } :=
      congrArg Prod.fst hstep
    refine h.unmoved (by rw [hnext]) (by rw [hnext]; exact fun _ hmem _ => hmem)
      (by rw [hnext]; exact fun _ hmem => hmem) (by rw [hnext]) (fun other => ?_) fun _ => rfl
    simp [accepts, hnext]
  rename_i scrn hfound
  have hladder := h.screens sid scrn hfound
  have hreplay := hladder.replayHeldDeltas (watched.hub.sockets.watchersOf sid)
    fun hspent => hfresh sid hreplays scrn hfound hspent
  refine h.committed _ watched.hub.scheduled hstep rfl rfl rfl rfl (fun _ hmem _ => hmem)
    (fun _ hmem => hmem) (hreplay.mono ?_) ?_
  · rintro ⟨hrep, hnext⟩
    refine ⟨hrep, ?_, rfl⟩
    simp only [accepts, next, hstep]
    have hsame : ((({ watched.hub with
        pending := watched.hub.pending.eraseIdx index } : ScreenHub).within sid scrn
          fun turn => turn.replayHeldDeltas sizes sid
            (watched.hub.sockets.watchersOf sid)).1.residency.nextGeneration) =
              watched.hub.residency.nextGeneration := hnext
    simp [hsame]
  · intro other hother
    refine ⟨?_, rfl⟩
    simp [accepts, hreplays, Ne.symm hother]

theorem Kept.fire (hstalls : watched.hub.StallsSeen (.fire index nowMs)) :
    Kept ((watching sizes).next watched (.fire index nowMs)) := by
  cases hdead : watched.hub.scheduled[index]? with
  | none =>
    have hstep : (machine sizes).step watched.hub (.fire index nowMs) = (watched.hub, {}) := by
      simp only [machine, hdead]
    exact h.ignored hstep (fun _ => rfl) fun _ => rfl
  | some due =>
    have hout : due ∈ watched.hub.scheduled := List.mem_of_getElem? hdead
    have hkept : ∀ other ∈ watched.hub.scheduled, other ≠ due →
        other ∈ watched.hub.scheduled.eraseIdx index := by
      intro other hmem hother
      obtain ⟨pos, hpos⟩ := List.mem_iff_getElem?.mp hmem
      refine List.mem_eraseIdx_iff_getElem?.mpr ⟨pos, ?_, hpos⟩
      rintro rfl
      rw [hdead] at hpos
      exact hother (Option.some.inj hpos).symm
    have hnew : ∀ other ∈ watched.hub.scheduled.eraseIdx index,
        other ∈ watched.hub.scheduled := fun _ hmem => List.mem_of_mem_eraseIdx hmem
    have hstep : (machine sizes).step watched.hub (.fire index nowMs) = ({ watched.hub with
            scheduled := watched.hub.scheduled.eraseIdx index } : ScreenHub).fire due nowMs := by
      simp only [machine, hdead]
    unfold ScreenHub.fire at hstep
    split at hstep
    · rename_i hgone
      have hnext : (machine sizes).next watched.hub (.fire index nowMs) =
          { watched.hub with scheduled := watched.hub.scheduled.eraseIdx index } :=
        congrArg Prod.fst hstep
      refine h.unmoved (by rw [hnext]) ?_ (by rw [hnext]; exact hnew) (by rw [hnext])
        (fun _ => rfl) fun _ => rfl
      rw [hnext]
      intro other hmem hthere
      apply hkept other hmem
      rintro rfl
      rw [show watched.hub.sessions.lookup other.sessionId = none from hgone] at hthere
      cases hthere
    · rename_i scrn hfound
      have hladder := h.screens due.sessionId scrn hfound
      have hfired := hladder.fire hnew rfl hout hkept (hstalls due hdead scrn hfound)
      refine h.committed _ (watched.hub.scheduled.eraseIdx index) hstep rfl rfl rfl rfl ?_ hnew
        (hfired.mono fun hrep => ⟨hrep, rfl, rfl⟩) fun _ _ => ⟨rfl, rfl⟩
      intro other hmem hother
      apply hkept other hmem
      rintro rfl
      exact hother rfl

/-! ## Runs -/

/-- An operation that keeps the ladder keeps every screen on it. -/
theorem Kept.next (hkeeps : watched.hub.KeepsLadder sizes op) :
    Kept ((watching sizes).next watched op) := by
  cases op with
  | expectStream sid streamId cols rows => exact h.expectStream streamId cols rows
  | invalidate sid reason => exact h.invalidate reason
  | dropSession => exact h.dropSession
  | publishFrame => exact (h.publishFrame hkeeps).1
  | publishChunk => exact (h.publishChunk hkeeps).1
  | acquireSourceLease sid gen => exact h.acquireSourceLease gen
  | releaseSourceLease sid gen => exact h.releaseSourceLease gen
  | registerSocket socketId =>
    have hsock : ((machine sizes).next watched.hub (.registerSocket socketId)).sessions =
          watched.hub.sessions ∧
        ((machine sizes).next watched.hub (.registerSocket socketId)).scheduled =
          watched.hub.scheduled ∧
        ((machine sizes).next watched.hub (.registerSocket socketId)).tokens =
          watched.hub.tokens + 1 := by
      simp only [next, machine, registerSocket]
      split <;> exact ⟨rfl, rfl, rfl⟩
    obtain ⟨hsess, hschedule, htokens⟩ := hsock
    exact h.unmoved hsess (hschedule ▸ fun _ hmem _ => hmem) (hschedule ▸ fun _ hmem => hmem)
      (htokens ▸ Nat.le_succ _) (fun _ => rfl) fun _ => rfl
  | unregisterSocket =>
    exact h.unmoved rfl (fun _ hmem _ => hmem) (fun _ hmem => hmem) (Nat.le_refl _) (fun _ => rfl)
      fun _ => rfl
  | setWatching socketId sid watching =>
    have hsock :
        ((machine sizes).next watched.hub (.setWatching socketId sid watching)).sessions =
          watched.hub.sessions ∧
        ((machine sizes).next watched.hub (.setWatching socketId sid watching)).scheduled =
          watched.hub.scheduled ∧
        ((machine sizes).next watched.hub (.setWatching socketId sid watching)).tokens =
          watched.hub.tokens := by
      simp only [next, machine, setWatching]
      split
      · split <;> exact ⟨rfl, rfl, rfl⟩
      · split <;> exact ⟨rfl, rfl, rfl⟩
    obtain ⟨hsess, hschedule, htokens⟩ := hsock
    exact h.unmoved hsess (hschedule ▸ fun _ hmem _ => hmem) (hschedule ▸ fun _ hmem => hmem)
      htokens.ge (fun _ => rfl) fun _ => rfl
  | seedSocket socketId => exact h.seedSocket socketId
  | resyncSocket socketId sid ckpt => exact h.resyncSocket socketId ckpt
  | rebaselinePlan socketId sid ckpt =>
    exact h.rebaseline socketId ckpt rfl rfl (fun _ => rfl) fun _ => rfl
  | perform index needsSnapshot =>
    cases htask : watched.hub.pending[index]? with
    | none =>
      have hstep : (machine sizes).step watched.hub (.perform index needsSnapshot) =
          (watched.hub, {}) := by
        simp only [machine, htask]
      exact h.ignored hstep (accepts_perform (by rw [htask]; rfl)) fun _ => rfl
    | some task =>
      cases task with
      | effect => exact h.runEffect htask
      | replay => exact h.replay htask hkeeps.fresh
  | fire => exact h.fire hkeeps.stalls

theorem Kept.fullAnswered (hkeeps : watched.hub.KeepsLadder sizes op) :
    watched.hub.FullAnswered sizes op := by
  cases op with
  | publishFrame => exact (h.publishFrame hkeeps).2
  | publishChunk => exact (h.publishChunk hkeeps).2
  | _ =>
    intro full hfull
    cases hfull

/-- On the ladder no screen is silent. -/
theorem Kept.neverSilent : NeverSilent watched := by
  intro sid screen hfound _ hbroken
  have hladder := h.screens sid screen hfound
  have hout {deadline : Deadline}
      (hmem : deadline ∈ watched.hub.scheduled ++ (watched.hub.turn screen).scheduled)
      (howner : deadline.sessionId = sid) (hawaits : screen.Awaits deadline)
      (hguards : screen.Guards deadline) : watched.hub.Armed sid screen :=
    ⟨deadline, by simpa [turn] using hmem, howner, hawaits,
      hladder.stands deadline hmem howner hawaits, hguards⟩
  obtain hbas | hreq | hchunk | htold := hladder.broken hbroken
  · obtain ⟨token, htimer⟩ := Option.isSome_iff_exists.mp hbas
    obtain ⟨_, _, hmem⟩ := hladder.baseline token htimer
    obtain ⟨-, -, -, hidle⟩ := hladder.first hbas
    exact .inl (hout hmem rfl htimer hidle)
  · obtain ⟨token, htimer⟩ := Option.isSome_iff_exists.mp hreq
    obtain ⟨⟨_, _, _, _, hmem⟩, -⟩ := hladder.request token htimer
    exact .inl (hout hmem rfl htimer trivial)
  · obtain ⟨token, htimer⟩ := Option.isSome_iff_exists.mp hchunk
    obtain ⟨_, hmem⟩ := hladder.chunk token htimer
    exact .inl (hout hmem rfl htimer (hladder.transfer hchunk))
  · obtain hrep | ⟨effect, hnone, -⟩ := htold
    · exact .inr hrep
    · cases hnone

end

/-- In every run that keeps the ladder no broken replica is silent, and a full that passes its
checks at the next step is installed or reported. -/
theorem run_neverSilent {maxRows maxSpans : Nat} {ops : List Op}
    (h : (watching sizes).Along (fun watched op => watched.hub.KeepsLadder sizes op)
      (.start maxRows maxSpans) ops) :
    NeverSilent ((watching sizes).run (.start maxRows maxSpans) ops) ∧
      ∀ op, ((watching sizes).run (.start maxRows maxSpans) ops).hub.KeepsLadder sizes op →
        ((watching sizes).run (.start maxRows maxSpans) ops).hub.FullAnswered sizes op := by
  have hkept : Kept ((watching sizes).run (.start maxRows maxSpans) ops) := by
    refine h.invariant ⟨?_, ?_⟩ fun _ _ hkept hkeeps => hkept.next hkeeps
    · intro deadline hmem
      cases hmem
    · intro sid screen hfound
      cases hfound
  exact ⟨hkept.neverSilent, fun _ hkeeps => hkept.fullAnswered hkeeps⟩

def blankDelta (baseSeq : UInt64) : PbCellGridFrame where
  streamId := blankStream
  gridEpoch := "e"
  cols := 1
  rows := 1
  baseSeq
  seq := baseSeq + 1

def halvesStream : String := "00000000-0000-4000-8000-000000000001"

theorem run_neverSilent_repaired :
    let ops : List Op :=
      [.expectStream blankSession halvesStream 1 2, .publishChunk blankSession (CellGridChunkAssembler.halfChunk 0 0) 0 5,
        .fire 1 (5 + cellGridChunkStallMs), .fire 1 0, .fire 1 0]
    NeverSilent ((watching wireSizes).run (.start 4 4) ops) ∧
      ∀ op, ((watching wireSizes).run (.start 4 4) ops).hub.KeepsLadder wireSizes op →
        ((watching wireSizes).run (.start 4 4) ops).hub.FullAnswered wireSizes op :=
  run_neverSilent (by decide +kernel)

def Silent (watched : Watched) (sessionId : SessionId) : Prop :=
  ∃ screen ∈ watched.hub.sessions.lookup sessionId, screen.expected.isSome = true ∧
    screen.hasValidCache = false ∧ ¬watched.hub.Armed sessionId screen ∧
    watched.reported sessionId = false
  deriving Decidable

theorem not_neverSilent (h : Silent watched sid) : ¬NeverSilent watched := by
  intro hnever
  obtain ⟨scrn, hfound, hexpect, hbroken, hunarm, hunrep⟩ := h
  obtain harmed | hrep := hnever sid scrn hfound hexpect hbroken
  · exact hunarm harmed
  · rw [hunrep] at hrep
    cases hrep

/-- Three ways to fall silent: a full that cannot pin the leased version it replaces, a stall
deadline that fires early, and a failure after a delta was folded on a spent ladder. -/
theorem silent_replicas :
    let refused : List Op :=
      [.expectStream blankSession blankStream 1 1,
        .publishFrame blankSession (blankFull blankStream 1), .acquireSourceLease blankSession 1,
        .invalidate blankSession "broken", .publishFrame blankSession (blankFull blankStream 2)]
    let early : List Op :=
      [.expectStream blankSession halvesStream 1 2, .publishChunk blankSession (CellGridChunkAssembler.halfChunk 0 0) 0 5,
        .fire 1 5]
    let spent : List Op :=
      [.registerSocket "socket", .setWatching "socket" blankSession true,
        .expectStream blankSession blankStream 1 1,
        .publishFrame blankSession (blankFull blankStream 1),
        .rebaselinePlan "socket" blankSession (some { gridEpoch := "e", seq := 1 }), .fire 1 0,
        .fire 1 0, .publishFrame blankSession (blankDelta 1),
        .publishFrame blankSession (blankDelta 7)]
    ¬NeverSilent ((watching wireSizes).run (.start 1 0) refused) ∧
      ¬NeverSilent ((watching wireSizes).run (.start 4 4) early) ∧
      ¬NeverSilent ((watching wireSizes).run (.start 4 4) spent) := by
  intro refused early spent
  have href : Silent ((watching wireSizes).run (.start 1 0) refused) blankSession := by
    decide +kernel
  have hearly : Silent ((watching wireSizes).run (.start 4 4) early) blankSession := by
    decide +kernel
  have hspent : Silent ((watching wireSizes).run (.start 4 4) spent) blankSession := by
    decide +kernel
  exact ⟨not_neverSilent href, not_neverSilent hearly, not_neverSilent hspent⟩

end ScreenHub
end Roost.Coord
