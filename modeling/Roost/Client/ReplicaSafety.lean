-- SUMMARY: Where a replica's grid comes from, over every run.
import Roost.Client.Session

/-!
# Replica safety

An admission refuses and leaves the grid alone, installs a baseline, or extends
what is held. Everything said about runs follows from that one case analysis: the
grid is always the fold of a full that was complete when it was accepted and the
deltas since, its sequence does not fall while its stream stays, and a ready
replica is one for the expectation that is installed.
-/

namespace Roost.Client

open Admission TerminalSession Transducer

open Roost.Cell

/-- The operations on a replica. -/
inductive SessionOp where
  | bindGeneration (token : TerminalToken)
  | releaseGeneration
  | installExpectedStream (streamId : String) (cols rows : UInt32)
  | admitFrame (frame : PbCellGridFrame) (assembled : Bool) (token : TerminalToken) (nowMs : Nat)
  | admitChunk (chunk : PbCellGridChunk) (token : TerminalToken) (nowMs : Nat)
  | sweep (nowMs : Nat)
  | markRepairSent (token : TerminalToken) (nowMs : Nat)
  | openView (viewId : String) (cols rows : UInt32)
  | resizeView (viewId : String) (cols rows : UInt32)
  | hideView (viewId : String)
  | closeView (viewId : String)
  | markViewPublished (viewId : String) (generation : UInt64) (nowMs : Nat)
  | applyViewState (result : ViewStateResult) (nowMs : Nat)
  | beginScopedRepair (owner : TerminalToken) (nowMs : Nat)
  | retireLiveness (outcome : RepairOutcome)

/-- The token an admission arrives on. -/
def SessionOp.token? : SessionOp → Option TerminalToken
  | .admitFrame _ _ token _ => some token
  | .admitChunk _ token _ => some token
  | _ => none

inductive SessionReply where
  | done
  | admitted (admission : Admission)
  | swept (dropped : Bool)
  | viewState (admission : ViewStateAdmission)
  deriving DecidableEq

namespace TerminalSession

/-- A replica as a machine over its operations. -/
def machine (sizes : Sizes) : Transducer TerminalSession SessionOp SessionReply where
  step session
    | .bindGeneration token => (session.bindGeneration token, .done)
    | .releaseGeneration => (session.releaseGeneration, .done)
    | .installExpectedStream streamId cols rows =>
      (session.installExpectedStream streamId cols rows, .done)
    | .admitFrame frame assembled token nowMs =>
      let (session, admission) := session.admitFrame sizes frame assembled token nowMs
      (session, .admitted admission)
    | .admitChunk chunk token nowMs =>
      let (session, admission) := session.admitChunk sizes chunk token nowMs
      (session, .admitted admission)
    | .sweep nowMs =>
      let (session, dropped) := session.sweep nowMs
      (session, .swept dropped)
    | .markRepairSent token nowMs => (session.markRepairSent token nowMs, .done)
    | .openView viewId cols rows => (session.openView viewId cols rows, .done)
    | .resizeView viewId cols rows => (session.resizeView viewId cols rows, .done)
    | .hideView viewId => (session.hideView viewId, .done)
    | .closeView viewId => (session.closeView viewId, .done)
    | .markViewPublished viewId generation nowMs =>
      (session.markViewPublished viewId generation nowMs, .done)
    | .applyViewState result nowMs =>
      let (session, admission) := session.applyViewState result nowMs
      (session, .viewState admission)
    | .beginScopedRepair owner nowMs => (session.beginScopedRepair owner nowMs, .done)
    | .retireLiveness outcome => (session.retireLiveness outcome, .done)

/-! ## What an admission can do -/

/-- The decoded frame of a snapshot its last part completes. -/
def assembledOffer : ChunkResult CellGridChunkAssembly → Option CellGridFrame
  | .ok (.complete _ frame) => (decodeAssembledFrame frame).toOption
  | _ => none

/-- The decoded frame an admission offers to the fold, if it gets that far. -/
def offered (sizes : Sizes) (session : TerminalSession) : SessionOp → Option CellGridFrame
  | .admitFrame frame assembled token _ =>
    if session.generation = some token ∧ frame.sessionId = session.sessionId ∧
        some frame.streamId = session.target.expectedStreamId then
      (decodeWireFrame sizes frame assembled).toOption
    else none
  | .admitChunk chunk token nowMs =>
    if session.generation = some token then
      match chunk.part with
      | none => none
      | some part =>
        if part.sessionId = session.sessionId ∧
            some part.streamId = session.target.expectedStreamId then
          assembledOffer (session.assembler.push sizes chunk nowMs).2
        else none
    else none
  | _ => none

/-- The frame or part is this session's, but of a stream the replica does not expect. -/
def Fenced (session : TerminalSession) : SessionOp → Prop
  | .admitFrame frame _ _ _ =>
    frame.sessionId = session.sessionId ∧ some frame.streamId ≠ session.target.expectedStreamId
  | .admitChunk chunk _ _ =>
    ∃ part, chunk.part = some part ∧ part.sessionId = session.sessionId ∧
      some part.streamId ≠ session.target.expectedStreamId
  | _ => False

/-- Where an admission comes to on the replica that noted what arrived: it turns away what is
not its own, holds a part, refuses, or folds the frame it offers. -/
inductive Reaches (own : Prop) (held : TerminalSession) (offer : Option CellGridFrame)
    (token : TerminalToken) (nowMs : Nat) : TerminalSession × Admission → Prop where
  | foreign (hforeign : ¬own) (what expected got : String) :
      Reaches own held offer token nowMs (held, .unbound what expected got)
  | pending : Reaches own held offer token nowMs (held, .chunkPending)
  | refused (reason : String) :
      Reaches own held offer token nowMs (held.refuse reason token nowMs)
  | folded {decoded : CellGridFrame} (hoffer : offer = some decoded) :
      Reaches own held offer token nowMs (held.admitDecoded decoded token nowMs)

/-- A replica that noted what arrived: where the wire stands, and the parts it holds. -/
structure Noted (session held : TerminalSession) : Prop where
  generation : held.generation = session.generation
  views : held.views = session.views
  latch : held.latch = session.latch
  revision : held.frameRevision = session.frameRevision
  target : ∃ inFlight, held.target = { session.target with canonicalChunkInFlight := inFlight }

theorem Noted.refl (session : TerminalSession) : Noted session session :=
  ⟨rfl, rfl, rfl, rfl, _, rfl⟩

/-- What an admission does to a replica's grid, given the frame it offers to the fold. -/
inductive Admits (target : FoldTarget) (revision : Nat) (offer : Option CellGridFrame) :
    TerminalSession → Admission → Prop where
  /-- The grid stays; only the in-flight flag may move. -/
  | untouched {after : TerminalSession} {admission : Admission} (inFlight : Bool)
      (htarget : after.target = { target with canonicalChunkInFlight := inFlight })
      (hrev : after.frameRevision = revision)
      (hanswer : admission ≠ .baselineReplaced ∧ admission ≠ .deltaApplied) :
      Admits target revision offer after admission
  /-- A complete full replaced it. -/
  | rebased {after : TerminalSession} (full : CellGridFrame) (hoffer : offer = some full)
      (hvalid : target.validFull full = true)
      (hfollows : fullFollowsCanonical target.canonical full = true)
      (htarget : after.target = { target with
        canonical := some full.normalizeCellGridFrame
        baselineReady := true
        canonicalChunkInFlight := false }) :
      Admits target revision offer after .baselineReplaced
  | extended {after : TerminalSession} (base delta grid : CellGridFrame) (inFlight : Bool)
      (hoffer : offer = some delta) (hfollows : target.Follows base delta grid)
      (htarget : after.target = { target with
        canonical := some grid.normalizeCellGridFrame
        canonicalChunkInFlight := inFlight }) :
      Admits target revision offer after .deltaApplied

section Admissions

variable {target : FoldTarget} {revision : Nat} {inFlight : Bool} {session : TerminalSession}

variable (sess : TerminalSession)

variable (token : TerminalToken)

theorem armQuietProbe_eq (nowMs : Nat) :
    ∃ liveness, sess.armQuietProbe token nowMs = { sess with liveness } := by
  unfold armQuietProbe
  split <;> exact ⟨_, rfl⟩

theorem noteAcceptedFrame_eq (nowMs : Nat) :
    ∃ liveness, sess.noteAcceptedFrame token nowMs = { sess with liveness } := by
  unfold noteAcceptedFrame
  split
  · exact ⟨_, rfl⟩
  split
  · exact ⟨_, rfl⟩
  · obtain ⟨liveness, harm⟩ := armQuietProbe_eq { sess with liveness := _ } token nowMs
    exact ⟨liveness, harm⟩

theorem noteAcceptedFrame_target
    (nowMs : Nat) : (sess.noteAcceptedFrame token nowMs).target = sess.target := by
  obtain ⟨_, hacc⟩ := noteAcceptedFrame_eq sess token nowMs
  rw [hacc]

theorem noteChunkProgress_eq (stream : String) (seq : UInt64) :
    ∃ liveness, sess.noteChunkProgress token stream seq = { sess with liveness } := by
  unfold noteChunkProgress
  split
  · exact ⟨_, rfl⟩
  · split <;> exact ⟨_, rfl⟩

theorem refuse_admits (htarget : session.target = { target with canonicalChunkInFlight := inFlight })
    (hrev : session.frameRevision = revision) (offer : Option CellGridFrame) (reason : String)
    (token : TerminalToken) (nowMs : Nat) :
    Admits target revision offer (session.refuse reason token nowMs).1
      (session.refuse reason token nowMs).2 := by
  unfold refuse
  dsimp only
  split
  · refine .untouched false ?_ hrev ⟨by simp, by simp⟩
    simp only [htarget]
  · exact .untouched inFlight htarget hrev ⟨by simp, by simp⟩

theorem admitDecoded_admits
    (htarget : session.target = { target with canonicalChunkInFlight := inFlight })
    (hrev : session.frameRevision = revision) (dec : CellGridFrame) (token : TerminalToken)
    (nowMs : Nat) : Admits target revision (some dec) (session.admitDecoded dec token nowMs).1
      (session.admitDecoded dec token nowMs).2 := by
  unfold admitDecoded
  simp only [htarget]
  rcases FoldTarget.fold_cases
      { target with canonicalChunkInFlight := session.assembler.inFlight.isSome } dec with
    ⟨reason, hfold⟩ | ⟨hvalid, hfollows, hfold⟩ | ⟨base, grid, hfollows, hfold⟩
  · simp only [hfold]
    apply refuse_admits
    · rfl
    · exact hrev
  · simp only [hfold]
    exact .rebased dec rfl hvalid hfollows (noteAcceptedFrame_target _ _ _)
  simp only [hfold]
  refine .extended base dec grid session.assembler.inFlight.isSome rfl ?_
    (noteAcceptedFrame_target _ _ _)
  exact ⟨hfollows.holds, hfollows.ready, hfollows.expected, hfollows.cols, hfollows.rows,
    hfollows.part, hfollows.applies⟩

variable (sizes : Sizes) (nowMs : Nat)

theorem assemble_reaches (own : Prop) (chunk : PbCellGridChunk) :
    ∃ held, Noted sess held ∧ held.liveness = sess.liveness ∧
      Reaches own held (assembledOffer (sess.assembler.push sizes chunk nowMs).2) token nowMs
        (sess.assemble sizes chunk token nowMs) := by
  unfold assemble
  dsimp only
  cases (sess.assembler.push sizes chunk nowMs).2 with
  | error =>
    refine ⟨_, ?_, ?_, .refused _⟩
    · exact ⟨rfl, rfl, rfl, rfl, _, rfl⟩
    · rfl
  | ok assembly =>
    cases assembly with
    | pending =>
      refine ⟨_, ?_, ?_, .pending⟩
      · exact ⟨rfl, rfl, rfl, rfl, _, rfl⟩
      · rfl
    | complete snap frame =>
      dsimp only [assembledOffer]
      cases decodeAssembledFrame frame with
      | error =>
        refine ⟨_, ?_, ?_, .refused _⟩
        · exact ⟨rfl, rfl, rfl, rfl, _, rfl⟩
        · rfl
      | ok =>
        refine ⟨_, ?_, ?_, .folded rfl⟩
        · exact ⟨rfl, rfl, rfl, rfl, _, rfl⟩
        · rfl

theorem admitFrame_reaches (frame : PbCellGridFrame) (assembled : Bool) :
    ∃ held, Noted sess held ∧ held.liveness = sess.liveness ∧
      Reaches (sess.generation = some token ∧ ¬sess.Fenced (.admitFrame frame assembled token nowMs))
        held (sess.offered sizes (.admitFrame frame assembled token nowMs)) token nowMs
        (sess.admitFrame sizes frame assembled token nowMs) := by
  unfold admitFrame
  split
  · rename_i hforeign
    exact ⟨sess, .refl sess, rfl, .foreign (fun hown => hforeign hown.1) _ _ _⟩
  rename_i hbound
  split
  · exact ⟨sess, .refl sess, rfl, .refused _⟩
  rename_i hsess
  split
  · rename_i hstr
    exact ⟨sess, .refl sess, rfl, .foreign (fun hown => hown.2 ⟨not_not.mp hsess, hstr⟩) _ _ _⟩
  rename_i hstr
  refine ⟨sess.noteWire frame.streamId frame.gridEpoch frame.seq, ?_, rfl, ?_⟩
  · exact ⟨rfl, rfl, rfl, rfl, _, rfl⟩
  rw [offered, if_pos ⟨not_not.mp hbound, not_not.mp hsess, not_not.mp hstr⟩]
  dsimp only
  cases decodeWireFrame sizes frame assembled with
  | error => exact .refused _
  | ok => exact .folded rfl

theorem admitChunk_reaches (chunk : PbCellGridChunk) :
    ∃ held, Noted sess held ∧
      (held.liveness = sess.liveness ∨ ∃ part, sess.generation = some token ∧
        chunk.part = some part ∧ part.sessionId = sess.sessionId ∧
        some part.streamId = sess.target.expectedStreamId ∧
        held.liveness = (sess.noteChunkProgress token part.streamId part.seq).liveness) ∧
      Reaches (sess.generation = some token ∧ ¬sess.Fenced (.admitChunk chunk token nowMs))
        held (sess.offered sizes (.admitChunk chunk token nowMs)) token nowMs
        (sess.admitChunk sizes chunk token nowMs) := by
  unfold admitChunk decodeChunkPart
  split
  · rename_i hforeign
    exact ⟨sess, .refl sess, .inl rfl, .foreign (fun hown => hforeign hown.1) _ _ _⟩
  rename_i hbound
  have hgen := not_not.mp hbound
  split
  · exact ⟨sess, .refl sess, .inl rfl, .refused _⟩
  rename_i part hpart
  split
  · exact ⟨sess, .refl sess, .inl rfl, .refused _⟩
  rename_i hsess
  have hown := not_not.mp hsess
  split
  · rename_i hstr
    exact ⟨sess, .refl sess, .inl rfl, .foreign (fun h => h.2 ⟨part, hpart, hown, hstr⟩) _ _ _⟩
  rename_i hstr
  have hexpect := not_not.mp hstr
  have hoffer : sess.offered sizes (.admitChunk chunk token nowMs) =
      assembledOffer (sess.assembler.push sizes chunk nowMs).2 := by
    rw [offered, if_pos hgen, hpart]
    exact if_pos ⟨hown, hexpect⟩
  obtain ⟨liveness, hprogress⟩ := noteChunkProgress_eq sess token part.streamId part.seq
  rw [hoffer, hprogress]
  obtain ⟨held, hnoted, hlive, hreach⟩ :=
    assemble_reaches ({ sess with liveness }.noteWire part.streamId part.gridEpoch part.seq) token
      sizes nowMs _ chunk
  refine ⟨held, ?_, .inr ⟨part, hgen, hpart, hown, hexpect, ?_⟩, hreach⟩
  · exact ⟨hnoted.generation, hnoted.views, hnoted.latch, hnoted.revision, hnoted.target⟩
  · rw [hprogress, hlive]
    rfl

theorem Reaches.admits {own : Prop} {held : TerminalSession} {offer : Option CellGridFrame}
    {result : TerminalSession × Admission} (h : Reaches own held offer token nowMs result)
    (hnoted : Noted sess held) :
    Admits sess.target sess.frameRevision offer result.1 result.2 := by
  obtain ⟨inFlight, htarget⟩ := hnoted.target
  cases h with
  | foreign | pending =>
    exact .untouched inFlight htarget hnoted.revision ⟨by simp [unbound], by simp [unbound]⟩
  | refused reason => exact refuse_admits htarget hnoted.revision offer reason token nowMs
  | folded hoffer =>
    rw [hoffer]
    exact admitDecoded_admits htarget hnoted.revision _ token nowMs

theorem admitFrame_admits (frame : PbCellGridFrame) (assembled : Bool) :
    Admits sess.target sess.frameRevision
      (sess.offered sizes (.admitFrame frame assembled token nowMs))
      (sess.admitFrame sizes frame assembled token nowMs).1
      (sess.admitFrame sizes frame assembled token nowMs).2 := by
  obtain ⟨_, hnoted, -, hreach⟩ := admitFrame_reaches sess token sizes nowMs frame assembled
  exact hreach.admits sess token nowMs hnoted

theorem admitChunk_admits (chunk : PbCellGridChunk) : Admits sess.target sess.frameRevision
      (sess.offered sizes (.admitChunk chunk token nowMs))
      (sess.admitChunk sizes chunk token nowMs).1 (sess.admitChunk sizes chunk token nowMs).2 := by
  obtain ⟨_, hnoted, -, hreach⟩ := admitChunk_reaches sess token sizes nowMs chunk
  exact hreach.admits sess token nowMs hnoted

end Admissions

/-! ## What a step can do -/

/-- What one operation does to the grid of a replica. -/
inductive Step (sizes : Sizes) (session : TerminalSession) (op : SessionOp) : Prop where
  /-- The grid and the expectation stay. -/
  | untouched (inFlight : Bool)
      (htarget : ((machine sizes).next session op).target =
        { session.target with canonicalChunkInFlight := inFlight })
  /-- A new expectation is installed over the same grid. -/
  | expected
      (hcan : ((machine sizes).next session op).canonical = session.canonical)
      (hready : ((machine sizes).next session op).baselineReady = true →
        ∃ frame, session.canonical = some frame ∧
          ((machine sizes).next session op).expectedStreamId = some frame.streamId ∧
          frame.cols = ((machine sizes).next session op).target.effectiveCols ∧
          frame.rows = ((machine sizes).next session op).target.effectiveRows)
  | rebased (full : CellGridFrame) (hoffer : session.offered sizes op = some full)
      (hvalid : session.target.validFull full = true)
      (hfollows : fullFollowsCanonical session.canonical full = true)
      (hanswer : (machine sizes).answer session op = .admitted .baselineReplaced)
      (htarget : ((machine sizes).next session op).target = { session.target with
        canonical := some full.normalizeCellGridFrame
        baselineReady := true
        canonicalChunkInFlight := false })
  | extended (base delta grid : CellGridFrame) (inFlight : Bool)
      (hoffer : session.offered sizes op = some delta)
      (hfollows : session.target.Follows base delta grid)
      (htarget : ((machine sizes).next session op).target = { session.target with
        canonical := some grid.normalizeCellGridFrame
        canonicalChunkInFlight := inFlight })

theorem Admits.step {sizes : Sizes} {sess after : TerminalSession} {op : SessionOp}
    {admission : Admission}
    (h : Admits sess.target sess.frameRevision (sess.offered sizes op) after admission)
    (hstep : (machine sizes).step sess op = (after, .admitted admission)) : Step sizes sess op := by
  have hnext : (machine sizes).next sess op = after := congrArg Prod.fst hstep
  have hanswer : (machine sizes).answer sess op = .admitted admission := congrArg Prod.snd hstep
  subst hnext
  cases h with
  | untouched inFlight htarget => exact .untouched inFlight htarget
  | rebased full hoffer hvalid hfollows htarget =>
    exact .rebased full hoffer hvalid hfollows hanswer htarget
  | extended base delta grid inFlight hoffer hfollows htarget =>
    exact .extended base delta grid inFlight hoffer hfollows htarget

variable (sess : TerminalSession)

theorem installExpectedStream_cases (stream : String)
    (cols rows : UInt32) : sess.installExpectedStream stream cols rows = sess ∨
      ∃ after, sess.installExpectedStream stream cols rows = after ∧
        after.target = { sess.target with
          expectedStreamId := some stream
          effectiveCols := cols
          effectiveRows := rows
          baselineReady := after.baselineReady } ∧
        (after.baselineReady = true → ∃ frame, sess.canonical = some frame ∧
          frame.streamId = stream ∧ frame.cols = cols ∧ frame.rows = rows) := by
  unfold installExpectedStream
  dsimp only
  split
  · exact .inl rfl
  split
  · refine .inr ⟨_, rfl, rfl, ?_⟩
    intro hready
    cases hready
  refine .inr ⟨_, rfl, rfl, ?_⟩
  intro hready
  obtain ⟨frame, hframe, hmatches⟩ := (Option.any_eq_true _ _).mp hready
  exact ⟨frame, hframe, of_decide_eq_true hmatches⟩

theorem openView_eq (viewId : String) (cols rows : UInt32) :
    ∃ views, sess.openView viewId cols rows = { sess with views } := by
  unfold openView
  dsimp only
  split
  · exact ⟨_, rfl⟩
  · split <;> exact ⟨_, rfl⟩

theorem applyViewState_eq (result : ViewStateResult) (nowMs : Nat) :
    ∃ views, (sess.applyViewState result nowMs).1 = { sess with views } := by
  unfold applyViewState
  split
  · exact ⟨_, rfl⟩
  dsimp only
  split
  · exact ⟨_, rfl⟩
  · split <;> exact ⟨_, rfl⟩

theorem beginScopedRepair_eq (owner : TerminalToken) (nowMs : Nat) :
    ∃ liveness, sess.beginScopedRepair owner nowMs = { sess with liveness } := by
  unfold beginScopedRepair
  split
  · exact ⟨_, rfl⟩
  split
  · exact ⟨_, rfl⟩
  dsimp only
  split <;> exact ⟨_, rfl⟩

theorem sweep_target (nowMs : Nat) :
    ∃ inFlight, (sess.sweep nowMs).1.target =
      { sess.target with canonicalChunkInFlight := inFlight } := by
  unfold sweep
  dsimp only
  split
  · exact ⟨_, rfl⟩
  split
  · unfold refuse
    dsimp only
    split <;> exact ⟨_, rfl⟩
  · exact ⟨_, rfl⟩

/-- Every operation refuses, installs a baseline, or extends the grid. -/
theorem step_cases (sizes : Sizes) (sess : TerminalSession) (op : SessionOp) :
    Step sizes sess op := by
  cases op with
  | admitFrame frame assembled token nowMs =>
    exact (admitFrame_admits sess token sizes nowMs frame assembled).step rfl
  | admitChunk chunk token nowMs =>
    exact (admitChunk_admits sess token sizes nowMs chunk).step rfl
  | installExpectedStream stream cols rows =>
    rcases installExpectedStream_cases sess stream cols rows with
        hsame | ⟨after, hafter, htarget, hready⟩
    · exact .untouched _ (congrArg target hsame)
    refine .expected ?_ ?_
    · change (sess.installExpectedStream stream cols rows).target.canonical = _
      rw [hafter, htarget]
      rfl
    change (sess.installExpectedStream stream cols rows).baselineReady = true → _
    intro h
    rw [hafter] at h
    obtain ⟨frame, hframe, hstr, hcols, hrows⟩ := hready h
    refine ⟨frame, hframe, ?_, ?_, ?_⟩
    · change (sess.installExpectedStream stream cols rows).target.expectedStreamId = _
      rw [hafter, htarget, hstr]
    · change _ = (sess.installExpectedStream stream cols rows).target.effectiveCols
      rw [hafter, htarget, hcols]
    · change _ = (sess.installExpectedStream stream cols rows).target.effectiveRows
      rw [hafter, htarget, hrows]
  | sweep nowMs =>
    obtain ⟨inFlight, htarget⟩ := sweep_target sess nowMs
    exact .untouched inFlight htarget
  | applyViewState result nowMs =>
    obtain ⟨_, hafter⟩ := applyViewState_eq sess result nowMs
    have htarget := congrArg target hafter
    exact .untouched _ htarget
  | openView viewId cols rows =>
    obtain ⟨_, hafter⟩ := openView_eq sess viewId cols rows
    have htarget := congrArg target hafter
    exact .untouched _ htarget
  | beginScopedRepair owner nowMs =>
    obtain ⟨_, hafter⟩ := beginScopedRepair_eq sess owner nowMs
    have htarget := congrArg target hafter
    exact .untouched _ htarget
  | bindGeneration | releaseGeneration | markRepairSent | resizeView | hideView =>
    exact .untouched _ rfl
  | closeView | markViewPublished | retireLiveness => exact .untouched _ rfl

/-! ## Over every run -/

/-- A run offered this frame to the fold. -/
def OfferedIn (sizes : Sizes) (start : TerminalSession) (ops : List SessionOp)
    (frame : CellGridFrame) : Prop :=
  ∃ past op rest, ops = past ++ op :: rest ∧
    ((machine sizes).run start past).offered sizes op = some frame

/-- A frame is the fold of a full the run accepted as a complete baseline, and of deltas
the run offered after it. -/
def GrownIn (sizes : Sizes) (start : TerminalSession) (ops : List SessionOp)
    (frame : CellGridFrame) : Prop :=
  ∃ past op rest full deltas, ops = past ++ op :: rest ∧
    ((machine sizes).run start past).offered sizes op = some full ∧
    ((machine sizes).run start past).target.validFull full = true ∧
    (machine sizes).answer ((machine sizes).run start past) op = .admitted .baselineReplaced ∧
    FoldsTo full deltas frame ∧
    ∀ delta ∈ deltas, OfferedIn sizes ((machine sizes).run start (past ++ [op])) rest delta

/-- What holds of a replica whatever is done to it. -/
structure ReplicaSafe (sizes : Sizes) (start : TerminalSession) : Prop where
  folds : ∀ ops frame, ((machine sizes).run start ops).canonical = some frame →
    GrownIn sizes start ops frame
  refused : ∀ ops op admission,
    (machine sizes).answer ((machine sizes).run start ops) op = .admitted admission →
    admission ≠ .baselineReplaced → admission ≠ .deltaApplied →
    ((machine sizes).run start (ops ++ [op])).canonical =
        ((machine sizes).run start ops).canonical ∧
      ((machine sizes).run start (ops ++ [op])).frameRevision =
        ((machine sizes).run start ops).frameRevision
  foreign : ∀ ops op token, SessionOp.token? op = some token →
    ((machine sizes).run start ops).generation ≠ some token →
    (machine sizes).run start (ops ++ [op]) = (machine sizes).run start ops
  monotone : ∀ ops more held frame, ((machine sizes).run start ops).canonical = some held →
    ((machine sizes).run start (ops ++ more)).canonical = some frame →
    (∀ begun, begun <+: more →
      ((machine sizes).run start (ops ++ begun)).canonical.map CellGridFrame.streamId =
        some held.streamId) →
    held.seq ≤ frame.seq
  ready : ∀ ops, ((machine sizes).run start ops).baselineReady = true →
    ∃ frame, ((machine sizes).run start ops).canonical = some frame ∧
      ((machine sizes).run start ops).expectedStreamId = some frame.streamId ∧
      frame.cols = ((machine sizes).run start ops).target.effectiveCols ∧
      frame.rows = ((machine sizes).run start ops).target.effectiveRows

section Runs

variable {sizes : Sizes} {start session : TerminalSession} {ops : List SessionOp} {op : SessionOp}
  {frame : CellGridFrame}

theorem OfferedIn.concat (h : OfferedIn sizes start ops frame) (op : SessionOp) :
    OfferedIn sizes start (ops ++ [op]) frame := by
  obtain ⟨past, offering, rest, rfl, hoffer⟩ := h
  exact ⟨past, offering, rest ++ [op], by simp, hoffer⟩

theorem GrownIn.concat (h : GrownIn sizes start ops frame) (op : SessionOp) :
    GrownIn sizes start (ops ++ [op]) frame := by
  obtain ⟨past, accepting, rest, full, deltas, rfl, hoffer, hvalid, hanswer, hfolds, hdeltas⟩ := h
  refine ⟨past, accepting, rest ++ [op], full, deltas, by simp, hoffer, hvalid, hanswer, hfolds, ?_⟩
  intro delta hmem
  exact (hdeltas delta hmem).concat op

theorem GrownIn.extended (h : GrownIn sizes start ops frame) {delta grid : CellGridFrame}
    (hoffer : ((machine sizes).run start ops).offered sizes op = some delta)
    (hpart : delta.full = false) (happly : frame.applyDelta delta = some grid) :
    GrownIn sizes start (ops ++ [op]) grid.normalizeCellGridFrame := by
  obtain ⟨past, accepting, rest, full, deltas, rfl, hfull, hvalid, hanswer, hfolds, hdeltas⟩ := h
  refine ⟨past, accepting, rest ++ [op], full, deltas ++ [delta], by simp, hfull, hvalid, hanswer,
    hfolds.delta hpart happly, ?_⟩
  intro part hmem
  rcases List.mem_append.mp hmem with hold | hnew
  · exact (hdeltas part hold).concat op
  rw [List.mem_singleton] at hnew
  subst hnew
  refine ⟨rest, op, [], by simp, ?_⟩
  rw [← run_append]
  simpa using hoffer

/-- The grid is grown from a full the run accepted. -/
theorem run_grownIn (hstart : start.canonical = none) (ops : List SessionOp) :
    ∀ frame, ((machine sizes).run start ops).canonical = some frame →
      GrownIn sizes start ops frame := by
  induction ops using List.reverseRecOn with
  | nil =>
    intro frame hframe
    rw [run_nil, hstart] at hframe
    cases hframe
  | append_singleton ops op ih =>
    intro frame hframe
    rw [run_concat] at hframe
    cases step_cases sizes ((machine sizes).run start ops) op with
    | untouched inFlight htarget =>
      have hsame := congrArg FoldTarget.canonical htarget
      exact (ih frame (hsame.symm.trans hframe)).concat op
    | expected hcan => exact (ih frame (hcan.symm.trans hframe)).concat op
    | rebased full hoffer hvalid _ hanswer htarget =>
      have hgrid := congrArg FoldTarget.canonical htarget
      cases hgrid.symm.trans hframe
      exact ⟨ops, op, [], full, [], by simp, hoffer, hvalid, hanswer, .baseline full,
        List.forall_mem_nil _⟩
    | extended base delta grid _ hoffer hfollows htarget =>
      have hgrid := congrArg FoldTarget.canonical htarget
      cases hgrid.symm.trans hframe
      exact (ih base hfollows.holds).extended hoffer hfollows.part hfollows.applies

variable {admission : Admission}

theorem Admits.kept {target : FoldTarget} {revision : Nat} {offer : Option CellGridFrame}
    {after : TerminalSession}
    (h : Admits target revision offer after admission) (hbas : admission ≠ .baselineReplaced)
    (hdelta : admission ≠ .deltaApplied) :
    after.canonical = target.canonical ∧ after.frameRevision = revision := by
  cases h with
  | untouched inFlight htarget hrev =>
    have hsame := congrArg FoldTarget.canonical htarget
    exact ⟨hsame, hrev⟩
  | rebased => exact absurd rfl hbas
  | extended => exact absurd rfl hdelta

/-- Only a baseline or a delta moves the grid. -/
theorem next_kept
    (hanswer : (machine sizes).answer session op = .admitted admission)
    (hbas : admission ≠ .baselineReplaced) (hdelta : admission ≠ .deltaApplied) :
    ((machine sizes).next session op).canonical = session.canonical ∧
      ((machine sizes).next session op).frameRevision = session.frameRevision := by
  cases op with
  | admitFrame frame assembled token nowMs =>
    cases hanswer
    exact (admitFrame_admits session token sizes nowMs frame assembled).kept hbas hdelta
  | admitChunk chunk token nowMs =>
    cases hanswer
    exact (admitChunk_admits session token sizes nowMs chunk).kept hbas hdelta
  | _ => cases hanswer

/-- Another token changes nothing. -/
theorem next_foreign {token : TerminalToken} (htoken : SessionOp.token? op = some token)
    (hfor : session.generation ≠ some token) : (machine sizes).next session op = session := by
  cases op with
  | admitFrame frame assembled other nowMs =>
    cases htoken
    change (session.admitFrame sizes frame assembled token nowMs).1 = session
    rw [admitFrame, if_pos hfor]
  | admitChunk chunk other nowMs =>
    cases htoken
    change (session.admitChunk sizes chunk token nowMs).1 = session
    rw [admitChunk, if_pos hfor]
  | _ => cases htoken

/-- On one stream a step never lowers the sequence. -/
theorem next_seq {held : CellGridFrame} (hheld : session.canonical = some held)
    (hframe : ((machine sizes).next session op).canonical = some frame)
    (hstr : frame.streamId = held.streamId) : held.seq ≤ frame.seq := by
  cases step_cases sizes session op with
  | untouched inFlight htarget =>
    have hsame := congrArg FoldTarget.canonical htarget
    cases hheld.symm.trans (hsame.symm.trans hframe)
    exact UInt64.le_refl _
  | expected hcan =>
    cases hheld.symm.trans (hcan.symm.trans hframe)
    exact UInt64.le_refl _
  | rebased full _ _ hfollows _ htarget =>
    have hgrid := congrArg FoldTarget.canonical htarget
    cases hgrid.symm.trans hframe
    rw [hheld] at hfollows
    simp only [fullFollowsCanonical, decide_eq_true_eq] at hfollows
    rcases hfollows with hother | hlater | ⟨hsame, -⟩
    · exact absurd hstr.symm hother
    · exact UInt64.le_of_lt hlater
    · exact UInt64.le_of_eq hsame.symm
  | extended base delta grid _ _ hfollows htarget =>
    have hgrid := congrArg FoldTarget.canonical htarget
    cases hgrid.symm.trans hframe
    cases hheld.symm.trans hfollows.holds
    obtain ⟨hcont, -, -, -, -, hseq⟩ := FoldsTo.applied hfollows.part hfollows.applies
    simp only [CellGridFrame.continues, decide_eq_true_eq] at hcont
    obtain ⟨-, hbase, hsucc, -⟩ := hcont
    rw [UInt64.le_iff_toNat_le]
    change held.seq.toNat ≤ grid.seq.toNat
    rw [hseq, ← hsucc, hbase]
    exact Nat.le_succ _

/-- On one stream a run never lowers the sequence. -/
theorem run_seq {held : CellGridFrame} (hheld : ((machine sizes).run start ops).canonical = some held)
    {more : List SessionOp}
    (hframe : ((machine sizes).run start (ops ++ more)).canonical = some frame)
    (hstr : ∀ begun, begun <+: more →
      ((machine sizes).run start (ops ++ begun)).canonical.map CellGridFrame.streamId =
        some held.streamId) : held.seq ≤ frame.seq := by
  induction more using List.reverseRecOn generalizing frame with
  | nil =>
    rw [List.append_nil] at hframe
    cases hheld.symm.trans hframe
    exact UInt64.le_refl _
  | append_singleton more op ih =>
    obtain ⟨_, hmiddle, hsame⟩ := Option.map_eq_some_iff.mp
      (hstr more (List.prefix_append more [op]))
    have hearlier := ih hmiddle fun begun hbegun =>
      hstr begun (hbegun.trans (List.prefix_append more [op]))
    have hlast := hstr (more ++ [op]) List.prefix_rfl
    rw [hframe, Option.map_some, Option.some.injEq] at hlast
    rw [← List.append_assoc, run_concat] at hframe
    exact UInt64.le_trans hearlier (next_seq hmiddle hframe (hlast.trans hsame.symm))

/-- A ready replica holds a grid of the stream and geometry it expects. -/
def Matched (session : TerminalSession) : Prop :=
  session.baselineReady = true →
    ∃ frame, session.canonical = some frame ∧ session.expectedStreamId = some frame.streamId ∧
      frame.cols = session.target.effectiveCols ∧ frame.rows = session.target.effectiveRows

/-- A step keeps grid and expectation matched. -/
theorem Matched.next (h : session.Matched) (op : SessionOp) :
    ((machine sizes).next session op).Matched := by
  unfold Matched baselineReady canonical expectedStreamId at h ⊢
  intro hready
  cases step_cases sizes session op with
  | untouched inFlight htarget =>
    rw [htarget] at hready ⊢
    exact h hready
  | expected hcan hmatched =>
    obtain ⟨frame, hframe, hexpect⟩ := hmatched hready
    exact ⟨frame, hcan.trans hframe, hexpect⟩
  | rebased full _ hvalid _ _ htarget =>
    rw [htarget]
    obtain ⟨hexpect, hcols, hrows⟩ := FoldTarget.validFull_expected hvalid
    exact ⟨_, rfl, hexpect, hcols, hrows⟩
  | extended base delta grid _ _ hfollows htarget =>
    rw [htarget]
    obtain ⟨-, hstr, -, hcols, hrows, -⟩ := FoldsTo.applied hfollows.part hfollows.applies
    refine ⟨_, rfl, ?_, ?_, ?_⟩
    · exact hfollows.expected.trans (congrArg some hstr.symm)
    · exact hcols.trans hfollows.cols
    · exact hrows.trans hfollows.rows

end Runs

/-- Every replica is safe over every run of its operations, whatever frames, chunks,
tokens and clocks they carry. -/
theorem replicaSafe (sizes : Sizes) (sid workerFp : String) :
    ReplicaSafe sizes (.new sid workerFp) where
  folds := run_grownIn rfl
  refused := by
    intro ops op admission hanswer hbas hdelta
    rw [run_concat]
    exact next_kept hanswer hbas hdelta
  foreign := by
    intro ops op token htoken hfor
    rw [run_concat]
    exact next_foreign htoken hfor
  monotone := by
    intro ops more held frame hheld hframe hstr
    exact run_seq hheld hframe hstr
  ready := by
    intro ops
    have hmatched := invariant (T := machine sizes) (P := Matched)
      (s := .new sid workerFp) (fun hready => by cases hready)
      (fun session op h => h.next op) ops
    exact hmatched

end TerminalSession

end Roost.Client
