-- SUMMARY: The hub with what it reported, and the steps of the ladders.
import Roost.Coord.Screen.LadderTurns
import Roost.Coord.Screen.ServedStream

/-!
# Watching the hub

Beside the hub, a run keeps which sessions were reported: their owner was asked for a fresh
stream, or told that the screen is unavailable, and no byte was accepted and no other stream
expected since.
-/

namespace Roost.Coord

open Roost.Cell TerminalScreenResidency ScreenTurn

namespace SessionScreen

variable (screen : SessionScreen)

def Guards : Deadline → Prop
  | .baseline .. => screen.assembling = false
  | .chunk .. => screen.assembling = true
  | .request .. => True

instance (deadline : Deadline) : Decidable (screen.Awaits deadline) := by
  apply @Deadline.casesOn _ deadline <;> intros <;> dsimp only [Awaits] <;> infer_instance

instance (deadline : Deadline) : Decidable (screen.Stands deadline) := by
  apply @Deadline.casesOn _ deadline <;> intros <;> dsimp only [Stands] <;> infer_instance

instance (deadline : Deadline) : Decidable (screen.Guards deadline) := by
  apply @Deadline.casesOn _ deadline <;> intros <;> dsimp only [Guards] <;> infer_instance

end SessionScreen

/-- The session whose held deltas a piece of pending work folds. -/
def HubTask.replays : HubTask → Option SessionId
  | .replay sessionId => some sessionId
  | .effect _ => none

/-- A full that reaches a replica, whole or assembled from parts. -/
structure BroughtFull where
  sessionId : SessionId
  frame : PbCellGridFrame
  assembled : Bool

namespace ScreenHub

variable (sizes : Sizes) (hub : ScreenHub)

variable (sessionId : SessionId)

/-- A deadline of the session is out that will act on its screen: a timer waits for it, it was
handed out under the current repair for the stream now expected, and it guards this stage. -/
def Armed (screen : SessionScreen) : Prop :=
  ∃ deadline ∈ hub.scheduled, deadline.sessionId = sessionId ∧ screen.Awaits deadline ∧
    screen.Stands deadline ∧ screen.Guards deadline
  deriving Decidable

/-! ## What an operation brings -/

/-- What the assembler says to a part of the expected stream. -/
def pushOf (chunk : PbCellGridChunk) (receivedAtMs : Int64)
    (nowMs : Nat) : Option (ChunkResult CellGridChunkAssembly) :=
  match hub.sessions.lookup sessionId with
  | none => none
  | some screen =>
    match screen.expected, chunk.part with
    | some expected, some part =>
      if part.streamId ≠ expected.streamId then none
      else
        let stamped := stampTerminalSnapshotReceipt screen.chunks
          { chunk with part := some { part with sessionId := sessionId.value } }
          (UInt64.ofNat receivedAtMs.toNatClampNeg)
        some (stamped.1.assembler.push sizes stamped.2 nowMs).2
    | _, _ => none

/-- The full an operation brings to a replica. -/
def fullOf : Op → Option BroughtFull
  | .publishFrame sessionId frame =>
    if frame.full then
      some { sessionId, frame := { frame with sessionId := sessionId.value }, assembled := false }
    else none
  | .publishChunk sessionId chunk receivedAtMs nowMs =>
    match hub.pushOf sizes sessionId chunk receivedAtMs nowMs with
    | some (.ok (.complete _ frame)) => some { sessionId, frame, assembled := true }
    | _ => none
  | _ => none

/-- What the checks make of a full of the stream its session expects: the frame it would be
installed as, and its spans. -/
def validatedOf (full : BroughtFull) : Option (CellGridFrame × Nat) :=
  match (hub.sessions.lookup full.sessionId).bind SessionScreen.expected with
  | none => none
  | some expected =>
    if full.frame.streamId ≠ expected.streamId then none
    else (validatedFull sizes full.frame expected full.assembled).toOption

/-- Whether a step accepts a byte for a session: a version was installed, or a part taken. -/
def accepts (op : Op) (sessionId : SessionId) : Bool :=
  let newer :=
    ((machine sizes).next hub op).residency.nextGeneration != hub.residency.nextGeneration
  match op with
  | .publishFrame owner _ => owner == sessionId && newer
  | .publishChunk owner chunk receivedAtMs nowMs =>
    owner == sessionId && (hub.pushOf sizes owner chunk receivedAtMs nowMs).any (·.isOk)
  | .perform index _ => (hub.pending[index]?).bind HubTask.replays == some sessionId && newer
  | _ => false

/-- Whether a step begins another repair for a session: another stream is expected, or the
session is dropped. -/
def restarts : Op → Bool
  | .expectStream owner streamId cols rows =>
    owner == sessionId &&
      decide (((hub.sessions.lookup owner).getD {}).expected ≠ some { streamId, cols, rows })
  | .dropSession owner => owner == sessionId
  | _ => false

/-! ## The conditions -/

/-- The full that an operation brings can pin the version it replaces, should a source still
need that one. -/
def FullFits (op : Op) : Prop :=
  ∀ full ∈ hub.fullOf sizes op, ∀ validated ∈ hub.validatedOf sizes full,
    ∀ screen ∈ hub.sessions.lookup full.sessionId,
      hub.residency.PinFits screen.charge validated.1.rows.toNat validated.2
  deriving Decidable

/-- A stall deadline that fires on the transfer it guards sees the stall. -/
def StallsSeen : Op → Prop
  | .fire index nowMs =>
    ∀ deadline ∈ hub.scheduled[index]?, ∀ screen ∈ hub.sessions.lookup deadline.sessionId,
      screen.StallSeen nowMs deadline
  | _ => True

/-- No delta is folded, and no later part of a transfer taken, while the ladder is spent. -/
def LadderFresh : Op → Prop
  | .publishFrame sessionId frame =>
    ∀ screen ∈ hub.sessions.lookup sessionId, screen.assembling = false → frame.full = false →
      screen.Spent →
        (hub.turn screen).folds sizes { frame with sessionId := sessionId.value } = false
  | .publishChunk sessionId chunk receivedAtMs nowMs =>
    ∀ screen ∈ hub.sessions.lookup sessionId, screen.assembling = true → screen.Spent →
      (hub.pushOf sizes sessionId chunk receivedAtMs nowMs).any (·.isOk) = false
  | .perform index _ =>
    ∀ sessionId ∈ (hub.pending[index]?).bind HubTask.replays,
      ∀ screen ∈ hub.sessions.lookup sessionId, screen.Spent →
        ∀ delta ∈ nextHeld screen screen.hold.frames, (hub.turn screen).folds sizes delta = false
  | _ => True

structure KeepsLadder (op : Op) : Prop where
  fits : hub.FullFits sizes op
  stalls : hub.StallsSeen op
  fresh : hub.LadderFresh sizes op

instance (op : Op) : Decidable (hub.StallsSeen op) := by
  apply @Op.casesOn _ op <;> intros <;> dsimp only [StallsSeen] <;> infer_instance

instance (op : Op) : Decidable (hub.LadderFresh sizes op) := by
  apply @Op.casesOn _ op <;> intros <;> dsimp only [LadderFresh] <;> infer_instance

instance (op : Op) : Decidable (hub.KeepsLadder sizes op) :=
  decidable_of_iff (hub.FullFits sizes op ∧ hub.StallsSeen op ∧ hub.LadderFresh sizes op)
    ⟨fun h => ⟨h.1, h.2.1, h.2.2⟩, fun h => ⟨h.fits, h.stalls, h.fresh⟩⟩

/-! ## The hub and what was reported -/

/-- The hub, and the sessions that were reported since the last byte accepted for them. -/
structure Watched where
  hub : ScreenHub
  reported : SessionId → Bool

/-- A hub that has reported nothing. -/
def Watched.start (maxResidentRows maxResidentSpans : Nat) : Watched :=
  { hub := withCaps maxResidentRows maxResidentSpans, reported := fun _ => false }

/-- The sessions reported once a step was taken. -/
def Watched.noted (watched : Watched) (op : Op) (sessionId : SessionId) : Bool :=
  ((machine sizes).answer watched.hub op).effects.any (·.reports sessionId) ||
    (watched.reported sessionId && !watched.hub.accepts sizes op sessionId &&
      !watched.hub.restarts sessionId op)

/-- The machine of the hub, which keeps what was reported beside it. -/
def watching : Transducer Watched Op HubReply where
  step watched op :=
    ({ hub := (machine sizes).next watched.hub op, reported := watched.noted sizes op },
      (machine sizes).answer watched.hub op)

/-- Every session that expects a stream and has no valid version has a deadline out that will
act on it, or was reported. -/
def NeverSilent (watched : Watched) : Prop :=
  ∀ sessionId screen, watched.hub.sessions.lookup sessionId = some screen →
    screen.expected.isSome = true → screen.hasValidCache = false →
      watched.hub.Armed sessionId screen ∨ watched.reported sessionId = true

/-- A full that passes its checks is installed or reported. -/
def FullAnswered (op : Op) : Prop :=
  ∀ full ∈ hub.fullOf sizes op, ∀ validated ∈ hub.validatedOf sizes full,
    (((machine sizes).next hub op).currentOf full.sessionId).map ResidentCache.frame =
        some validated.1 ∨
      ∃ effect ∈ ((machine sizes).answer hub op).effects, effect.reports full.sessionId = true

variable {sizes} {hub} {watched : Watched} {op : Op} {sid : SessionId}
  {screen : SessionScreen}

/-- Every screen's ladder stands, over the deadlines that are out. -/
structure Kept (watched : Watched) : Prop where
  drawn : ∀ deadline ∈ watched.hub.scheduled, deadline.token < watched.hub.tokens
  screens : ∀ sessionId screen, watched.hub.sessions.lookup sessionId = some screen →
    Ladder sessionId watched.hub.scheduled (watched.reported sessionId = true)
      (watched.hub.turn screen)

theorem noted_of_reported (h : watched.reported sid = true)
    (hacc : watched.hub.accepts sizes op sid = false)
    (hrest : watched.hub.restarts sid op = false) :
    watched.noted sizes op sid = true := by
  simp [Watched.noted, h, hacc, hrest]

/-! ## What one step keeps -/

theorem ladder_settled {old old' : List Deadline} {reported reported' : Prop} {turn : ScreenTurn}
    {hub' : ScreenHub} (h : Ladder sid old reported turn)
    (hold : old' = old ++ turn.scheduled) (htokens : hub'.tokens = turn.tokens)
    (htold : turn.Told sid reported → reported') :
    Ladder sid old' reported' (hub'.turn turn.screen) := by
  have hout : old' ++ (hub'.turn turn.screen).scheduled = old ++ turn.scheduled := by
    rw [hold]
    exact List.append_nil _
  have hset : turn.Told sid reported →
      (hub'.turn turn.screen).Told sid reported' := fun hpre => .inl (htold hpre)
  refine ⟨⟨⟨h.expected, ?_, ?_, ?_, ?_, ?_, ?_⟩, h.first, ?_⟩, h.transfer, ?_, ?_⟩
  · have hnext : (hub'.turn turn.screen).tokens = turn.tokens := htokens
    rw [hout, hnext]
    exact h.drawn
  · rw [hout]
    exact h.stands
  · rw [hout]
    exact h.baseline
  · rw [hout]
    exact h.request
  · rw [hout]
    exact h.chunk
  · intro due hmem
    cases hmem
  · intro hnone
    obtain hzero | ⟨hall, hpre⟩ := h.spent hnone
    · exact .inl hzero
    · exact .inr ⟨hall, hset hpre⟩
  · intro hlatched
    obtain hreq | hchunk | hpre | hserves := h.latched hlatched
    · exact .inl hreq
    · exact .inr (.inl hchunk)
    · exact .inr (.inr (.inl (hset hpre)))
    · exact .inr (.inr (.inr hserves))
  intro hbroken
  obtain hbas | hreq | hchunk | hpre := h.broken hbroken
  · exact .inl hbas
  · exact .inr (.inl hreq)
  · exact .inr (.inr (.inl hchunk))
  · exact .inr (.inr (.inr (hset hpre)))

theorem Kept.unmoved (h : Kept watched)
    (hsess : ((machine sizes).next watched.hub op).sessions = watched.hub.sessions)
    (hkept : ∀ deadline ∈ watched.hub.scheduled,
      (watched.hub.sessions.lookup deadline.sessionId).isSome = true →
        deadline ∈ ((machine sizes).next watched.hub op).scheduled)
    (hnew : ∀ deadline ∈ ((machine sizes).next watched.hub op).scheduled,
      deadline ∈ watched.hub.scheduled)
    (htokens : watched.hub.tokens ≤ ((machine sizes).next watched.hub op).tokens)
    (hacc : ∀ sid, watched.hub.accepts sizes op sid = false)
    (hrest : ∀ sid, watched.hub.restarts sid op = false) :
    Kept ((watching sizes).next watched op) := by
  have hdrawn : ∀ deadline ∈ ((machine sizes).next watched.hub op).scheduled,
      deadline.token < ((machine sizes).next watched.hub op).tokens :=
    fun deadline hmem => Nat.lt_of_lt_of_le (h.drawn deadline (hnew deadline hmem)) htokens
  refine ⟨hdrawn, ?_⟩
  intro sid screen hfound
  have hpre : watched.hub.sessions.lookup sid = some screen := hsess ▸ hfound
  have hladder : Ladder sid ((machine sizes).next watched.hub op).scheduled
      (watched.reported sid = true)
      { watched.hub.turn screen with tokens := ((machine sizes).next watched.hub op).tokens } := by
    refine (h.screens sid screen hpre).reschedule ?_ ?_ fun deadline hmem _ =>
      hnew deadline hmem
    · intro deadline hmem
      obtain hout | hnone := List.mem_append.mp hmem
      · exact hdrawn deadline hout
      · cases hnone
    · intro deadline hmem howner _
      exact hkept deadline hmem (by rw [howner, hpre]; rfl)
  refine ladder_settled hladder (List.append_nil _).symm rfl ?_
  rintro (hrep | ⟨effect, hnone, -⟩)
  · exact noted_of_reported hrep (hacc sid) (hrest sid)
  · cases hnone

theorem Kept.committed (h : Kept watched) (turn : ScreenTurn) (out : List Deadline)
    {next : ScreenHub} {reply : HubReply}
    (hstep : (machine sizes).step watched.hub op = (next, reply))
    (hsess : next.sessions = watched.hub.sessions.insert sid turn.screen)
    (hschedule : next.scheduled = out ++ turn.scheduled) (htokens : next.tokens = turn.tokens)
    (heff : reply.effects = turn.effects)
    (hkept : ∀ due ∈ watched.hub.scheduled, due.sessionId ≠ sid → due ∈ out)
    (hnew : ∀ due ∈ out, due ∈ watched.hub.scheduled) (hladder : Ladder sid out
      (watched.reported sid = true ∧ watched.hub.accepts sizes op sid = false ∧
        watched.hub.restarts sid op = false) turn)
    (hothers : ∀ other, other ≠ sid → watched.hub.accepts sizes op other = false ∧
      watched.hub.restarts other op = false) : Kept ((watching sizes).next watched op) := by
  have hnext : (machine sizes).next watched.hub op = next := congrArg Prod.fst hstep
  have hanswer : (machine sizes).answer watched.hub op = reply := congrArg Prod.snd hstep
  have hdrawn : ∀ due ∈ out ++ turn.scheduled, due.token < turn.tokens := hladder.drawn
  have hhub : ((watching sizes).next watched op).hub = next := hnext
  constructor
  · rw [hhub, hschedule, htokens]
    exact hdrawn
  intro other screen hfound
  rw [hhub, hsess, Table.lookup_insert] at hfound
  rw [hhub]
  split at hfound
  · rename_i hsame
    cases hfound
    subst hsame
    refine ladder_settled hladder hschedule htokens ?_
    rintro (⟨hrep, hacc, hrest⟩ | ⟨eff, hmem, hreports⟩)
    · exact noted_of_reported hrep hacc hrest
    have hnoted : ((machine sizes).answer watched.hub op).effects.any (·.reports other) = true := by
      rw [hanswer, heff]
      exact List.any_eq_true.mpr ⟨eff, hmem, hreports⟩
    simp [watching, Transducer.next, Watched.noted, hnoted]
  rename_i hother
  obtain ⟨hacc, hrest⟩ := hothers other hother
  have hladder' : Ladder other (out ++ turn.scheduled) (watched.reported other = true)
      { watched.hub.turn screen with tokens := turn.tokens } := by
    refine (h.screens other screen hfound).reschedule ?_ ?_ ?_
    · intro due hmem
      obtain hout | hnone := List.mem_append.mp hmem
      · exact hdrawn due hout
      · cases hnone
    · intro due hmem howner _
      exact List.mem_append_left _ (hkept due hmem (howner ▸ hother))
    intro due hmem howner
    obtain hout | hturn := List.mem_append.mp hmem
    · exact hnew due hout
    · exact absurd ((hladder.owned due hturn).symm.trans howner) (Ne.symm hother)
  refine ladder_settled hladder' ?_ htokens ?_
  · rw [hschedule]
    exact (List.append_nil _).symm
  · rintro (hrep | ⟨eff, hnone, -⟩)
    · exact noted_of_reported hrep hacc hrest
    · cases hnone

theorem Kept.ignored (h : Kept watched) {reply : HubReply}
    (hstep : (machine sizes).step watched.hub op = (watched.hub, reply))
    (hacc : ∀ sid, watched.hub.accepts sizes op sid = false)
    (hrest : ∀ sid, watched.hub.restarts sid op = false) :
    Kept ((watching sizes).next watched op) := by
  have hnext : (machine sizes).next watched.hub op = watched.hub := congrArg Prod.fst hstep
  exact h.unmoved (by rw [hnext]) (by rw [hnext]; exact fun _ hmem _ => hmem)
    (by rw [hnext]; exact fun _ hmem => hmem) (by rw [hnext]) hacc hrest

end ScreenHub
end Roost.Coord
