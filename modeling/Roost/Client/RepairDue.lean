-- SUMMARY: Which refusals leave a repair due on their generation, over every run.
import Roost.Cell.WireSize
import Roost.Client.ReplicaSafety

/-!
# Repairs that come due

A refusal latches its generation if the latch is free. Three things stand between a
refusal and a request on its own generation: a frame of another stream is dropped
without a latch, a gap latched under an earlier generation stays that generation's,
and a request recorded for a later time holds the next one back.
-/

namespace Roost.Client

open Roost.Cell

def SessionOp.arrival? : SessionOp → Option (TerminalToken × Nat)
  | .admitFrame _ _ token nowMs => some (token, nowMs)
  | .admitChunk _ token nowMs => some (token, nowMs)
  | _ => none

namespace TerminalSession

/-- What an admission of a replica's own frame does to a latch. -/
inductive Latches (held : RepairLatch) (token : TerminalToken) (nowMs : Nat) :
    RepairLatch → Admission → Prop where
  | cleared : Latches held token nowMs .new .baselineReplaced
  | kept {admission : Admission} (hacc : ∀ reason latched, admission ≠ .refused reason latched) :
      Latches held token nowMs held admission
  | refused (why reason : String) (latched : Bool) :
      Latches held token nowMs (held.latch why token nowMs).1 (.refused reason latched)

section Admissions

variable {session : TerminalSession} {held : RepairLatch} {token : TerminalToken} {nowMs : Nat}

theorem refuse_latches (hheld : session.latch = held) (reason : String) :
    Latches held token nowMs (session.refuse reason token nowMs).1.latch
      (session.refuse reason token nowMs).2 := by
  subst hheld
  unfold refuse
  dsimp only
  split <;> exact .refused reason _ _

theorem admitDecoded_latches (hheld : session.latch = held) (decoded : CellGridFrame) :
    Latches held token nowMs (session.admitDecoded decoded token nowMs).1.latch
      (session.admitDecoded decoded token nowMs).2 := by
  subst hheld
  unfold admitDecoded
  dsimp only
  split
  · apply refuse_latches
    rfl
  · obtain ⟨_, hacc⟩ := noteAcceptedFrame_eq _ token nowMs
    rw [hacc]
    exact .cleared
  · obtain ⟨_, hacc⟩ := noteAcceptedFrame_eq _ token nowMs
    rw [hacc]
    exact .kept (by simp)

theorem Reaches.latches {own : Prop} {offer : Option CellGridFrame}
    {result : TerminalSession × Admission} (h : Reaches own session offer token nowMs result)
    (hown : own) : Latches session.latch token nowMs result.1.latch result.2 := by
  cases h with
  | foreign hforeign => exact absurd hown hforeign
  | pending => exact .kept (by simp)
  | refused reason => exact refuse_latches rfl reason
  | folded => exact admitDecoded_latches rfl _

/-- A refusal not fenced off latches a gap. -/
theorem admission_latches (sizes : Sizes) {op : SessionOp} (harr : op.arrival? = some (token, nowMs))
    (hbound : session.generation = some token) (hown : ¬session.Fenced op) :
    ∃ admission, (machine sizes).answer session op = .admitted admission ∧
      Latches session.latch token nowMs ((machine sizes).next session op).latch admission := by
  cases op with
  | admitFrame frame assembled =>
    cases harr
    obtain ⟨_, hnoted, -, hreach⟩ := admitFrame_reaches session token sizes nowMs frame assembled
    exact ⟨_, rfl, hnoted.latch ▸ hreach.latches ⟨hbound, hown⟩⟩
  | admitChunk chunk =>
    cases harr
    obtain ⟨_, hnoted, -, hreach⟩ := admitChunk_reaches session token sizes nowMs chunk
    exact ⟨_, rfl, hnoted.latch ▸ hreach.latches ⟨hbound, hown⟩⟩
  | _ => cases harr

end Admissions

/-! ## When the last request was recorded -/

/-- A request that is recorded under a token's key was recorded by then. -/
def RecordedBy (token : TerminalToken) (nowMs : Nat) (held : RepairLatch) : Prop :=
  held.sentKey = some token.key → held.sentAtMs ≤ nowMs

section Requests

variable {sizes : Sizes} {session : TerminalSession} {token other : TerminalToken} {nowMs now : Nat}

theorem Latches.recordedBy {held after : RepairLatch} {admission : Admission}
    (h : Latches held other nowMs after admission) (hrec : RecordedBy token now held) :
    RecordedBy token now after := by
  cases h with
  | cleared => exact fun hkey => by cases hkey
  | kept => exact hrec
  | refused =>
    unfold RepairLatch.latch
    split <;> exact hrec

theorem Reaches.recordedBy {own : Prop} {offer : Option CellGridFrame}
    {result : TerminalSession × Admission} (h : Reaches own session offer other nowMs result)
    (hrec : RecordedBy token now session.latch) : RecordedBy token now result.1.latch := by
  cases h with
  | foreign | pending => exact hrec
  | refused reason => exact (refuse_latches rfl reason).recordedBy hrec
  | folded => exact (admitDecoded_latches rfl _).recordedBy hrec

/-- A request recorded by now stays so. -/
theorem next_recordedBy (sizes : Sizes) (op : SessionOp) (h : RecordedBy token now session.latch)
    (hop : ∀ other sentAtMs, op = .markRepairSent other sentAtMs → other.key = token.key →
      sentAtMs ≤ now) : RecordedBy token now ((machine sizes).next session op).latch := by
  cases op with
  | admitFrame frame assembled other nowMs =>
    obtain ⟨_, hnoted, -, hreach⟩ := admitFrame_reaches session other sizes nowMs frame assembled
    exact hreach.recordedBy (hnoted.latch ▸ h)
  | admitChunk chunk other nowMs =>
    obtain ⟨_, hnoted, -, hreach⟩ := admitChunk_reaches session other sizes nowMs chunk
    exact hreach.recordedBy (hnoted.latch ▸ h)
  | installExpectedStream stream cols rows =>
    change RecordedBy token now (session.installExpectedStream stream cols rows).latch
    unfold installExpectedStream
    dsimp only
    split
    · exact h
    split
    · exact fun hkey => by cases hkey
    · exact h
  | sweep nowMs =>
    change RecordedBy token now (session.sweep nowMs).1.latch
    unfold sweep
    dsimp only
    split
    · exact h
    split
    · exact (refuse_latches rfl _).recordedBy h
    · exact h
  | markRepairSent other sentAtMs =>
    exact fun hkey => hop other sentAtMs rfl (Option.some.inj hkey)
  | applyViewState result nowMs =>
    obtain ⟨_, hafter⟩ := applyViewState_eq session result nowMs
    exact (congrArg TerminalSession.latch hafter).symm ▸ h
  | openView viewId cols rows =>
    obtain ⟨_, hafter⟩ := openView_eq session viewId cols rows
    exact (congrArg TerminalSession.latch hafter).symm ▸ h
  | beginScopedRepair owner nowMs =>
    obtain ⟨_, hafter⟩ := beginScopedRepair_eq session owner nowMs
    exact (congrArg TerminalSession.latch hafter).symm ▸ h
  | _ => exact h

/-- What the requests of a run bound, its last recorded one meets. -/
theorem run_recordedBy (sizes : Sizes) (sid fp : String) (ops : List SessionOp)
    (hsent : ∀ other sentAtMs, .markRepairSent other sentAtMs ∈ ops → other.key = token.key →
      sentAtMs ≤ now) :
    RecordedBy token now ((machine sizes).run (.new sid fp) ops).latch := by
  induction ops using List.reverseRecOn with
  | nil => exact fun _ => Nat.zero_le _
  | append_singleton ops op ih =>
    rw [Transducer.run_concat]
    refine next_recordedBy sizes op (ih fun other sentAtMs hmem => ?_) fun other sentAtMs hop => ?_
    · exact hsent other sentAtMs (List.mem_append_left _ hmem)
    · exact hsent other sentAtMs (by rw [← hop]; simp)

end Requests

/-! ## Due within a heartbeat -/

/-- A replica's own frame or part that is refused on the bound generation leaves the
latch held; and unless the gap was latched for another generation, or a request was
recorded under this one's key later than now, the repair is due one heartbeat on. -/
theorem refused_repairable (sizes : Sizes) (sid workerFp : String) (ops : List SessionOp)
    (op : SessionOp) (token : TerminalToken) (nowMs : Nat) (reason : String) (latched : Bool)
    (harrival : op.arrival? = some (token, nowMs))
    (hbound : ((machine sizes).run (.new sid workerFp) ops).generation = some token)
    (hown : ¬((machine sizes).run (.new sid workerFp) ops).Fenced op)
    (hrefused : (machine sizes).answer ((machine sizes).run (.new sid workerFp) ops) op =
      .admitted (.refused reason latched)) :
    ((machine sizes).run (.new sid workerFp) (ops ++ [op])).repairLatched = true ∧
      ((((machine sizes).run (.new sid workerFp) ops).repairLatched = true →
          ((machine sizes).run (.new sid workerFp) ops).latch.token = some token) →
        (∀ other sentAtMs, SessionOp.markRepairSent other sentAtMs ∈ ops →
          other.key = token.key → sentAtMs ≤ nowMs) →
        ((machine sizes).run (.new sid workerFp) (ops ++ [op])).repairDue token
          (nowMs + terminalViewHeartbeatMs) = true) := by
  obtain ⟨_, hanswer, hlatches⟩ := admission_latches sizes harrival hbound hown
  cases hrefused.symm.trans hanswer
  unfold repairLatched repairDue
  rw [Transducer.run_concat]
  generalize ((machine sizes).next _ op).latch = after at hlatches ⊢
  cases hlatches with
  | kept haccepted => exact absurd rfl (haccepted reason latched)
  | refused =>
    refine ⟨RepairLatch.latch_latched, ?_⟩
    intro howner hsent
    exact RepairLatch.latch_due howner (run_recordedBy sizes sid workerFp ops hsent)

/-! ## A pane across a redial -/

def dialled (socketGeneration : UInt64) : TerminalToken := .sync socketGeneration "epoch-a" 7

def paneStream : String := "00000000-0000-4000-8000-000000000001"

def strayDelta (streamId : String) : PbCellGridFrame where
  sessionId := "session-1"
  streamId := streamId
  gridEpoch := "epoch"
  cols := 1
  rows := 2
  baseSeq := 4
  seq := 5
  viewportRows := [{ index := 0 }]

/-- A pane bound to its first socket, expecting its stream. -/
def opening : List SessionOp :=
  [.bindGeneration (dialled 1), .installExpectedStream paneStream 1 2]

/-- A replica after a run that starts so. -/
def paneAfter (ops : List SessionOp) : TerminalSession :=
  (machine wireSizes).run (.new "session-1" "worker-1") (opening ++ ops)

def SessionReply.refused? : SessionReply → Bool
  | .admitted (.refused ..) => true
  | _ => false

/-- The first gap of a pane is due one heartbeat on. -/
theorem refused_repairable_pane :
    (paneAfter [.admitFrame (strayDelta paneStream) false (dialled 1) 1000]).repairDue (dialled 1)
      (1000 + terminalViewHeartbeatMs) = true := by
  have hdue := refused_repairable wireSizes "session-1" "worker-1" opening
    (.admitFrame (strayDelta paneStream) false (dialled 1) 1000) (dialled 1) 1000
    "delta_unfollowed" true rfl (by decide +kernel) (fun hfenced => hfenced.2 (by decide +kernel))
    (by decide +kernel)
  refine hdue.2 (by decide +kernel) ?_
  intro other sentAtMs hmem
  simp [opening] at hmem

/-- Three refusals on the bound generation with no request due a heartbeat later: a frame
of another stream; a gap behind one that was latched on the socket before; and a gap
behind a request recorded for a later time. -/
theorem unrepaired_gaps : (SessionReply.refused? ((machine wireSizes).answer (paneAfter [])
        (.admitFrame (strayDelta "00000000-0000-4000-8000-000000000002") false (dialled 1) 1000)) ∧
      (paneAfter [.admitFrame (strayDelta "00000000-0000-4000-8000-000000000002") false
        (dialled 1) 1000]).repairLatched = false) ∧
    (SessionReply.refused? ((machine wireSizes).answer
        (paneAfter [.admitFrame (strayDelta paneStream) false (dialled 1) 1000,
          .bindGeneration (dialled 2)])
        (.admitFrame (strayDelta paneStream) false (dialled 2) 2000)) ∧
      (paneAfter [.admitFrame (strayDelta paneStream) false (dialled 1) 1000,
        .bindGeneration (dialled 2),
        .admitFrame (strayDelta paneStream) false (dialled 2) 2000]).repairDue (dialled 2)
          (2000 + terminalViewHeartbeatMs) = false) ∧
    (SessionReply.refused? ((machine wireSizes).answer
        (paneAfter [.admitFrame (strayDelta paneStream) false (dialled 1) 1000,
          .markRepairSent (dialled 1) 9000])
        (.admitFrame (strayDelta paneStream) false (dialled 1) 2000)) ∧
      (paneAfter [.admitFrame (strayDelta paneStream) false (dialled 1) 1000,
        .markRepairSent (dialled 1) 9000,
        .admitFrame (strayDelta paneStream) false (dialled 1) 2000]).repairDue (dialled 1)
          (2000 + terminalViewHeartbeatMs) = false) := by
  decide +kernel

end TerminalSession

end Roost.Client
