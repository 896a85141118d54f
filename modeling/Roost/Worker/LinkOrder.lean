-- SUMMARY: When a session's opened row is sent before its cells.
import Roost.Worker.LinkRows

/-!
# Opened before cells

A live link carries one durable row at a time, and its lanes do not wait for the rows behind that
one. A frame waits in the cell sink and then in its lane. Where a session's cells reach the lane only
once its opened row heads the barrier's queue, the row keeps that place, so it was sent on the socket
that carries the cells, or acknowledged on an earlier one.
-/

namespace Roost.Worker.Link

open List.Subset (refl)

open List

open CellSink LinkAnswer LinkOp Outbox

variable {link next : LinkLoop}

/-! ## Where cell frames wait -/

/-- The bytes of the cell frames a call queues. -/
def queuedBy : LinkOp → List (List UInt8)
  | .queueCells _ frames => frames.map Prod.fst
  | .write _ _ _ repair => repair.map Prod.fst
  | _ => []

namespace LinkLoop

/-- Frames wait in their own lanes. -/
def Filed (link : LinkLoop) : Prop :=
  ∀ lane, ∀ frame ∈ link.outbox.lanes lane, frame.lane = lane

/-- The call moves what the cell sink holds onto the terminal lane. -/
def movesCells (link : LinkLoop) : LinkOp → Bool
  | .moveCellFramesInto _ => link.connected
  | _ => false

/-- Where the frames that wait after a call were before it: the sink holds what it held and what the
call queued, and the terminal lane takes frames from the sink alone. -/
structure Shelves (link : LinkLoop) (op : LinkOp) (next : LinkLoop) : Prop where
  filed : link.Filed → next.Filed
  queued : ∀ frame ∈ next.cellSink.queue,
    frame ∈ link.cellSink.queue ∨ frame.bytes ∈ queuedBy op
  waiting : ∀ frame ∈ next.outbox.lanes .terminal, frame ∈ link.outbox.lanes .terminal ∨
    link.movesCells op = true ∧ ∃ queued ∈ link.cellSink.queue, queued.bytes = frame.bytes
  owed : next.cellSink.writableOwed = true → link.cellSink.writableOwed = true ∨
    link.movesCells op = true ∨ ∃ now frames, op = .queueCells now frames

variable {op : LinkOp}

/-- A call that takes frames out of the lanes or the sink puts none in. -/
theorem Shelves.of_subset (hlanes : ∀ lane, next.outbox.lanes lane ⊆ link.outbox.lanes lane)
    (hsink : next.cellSink.queue ⊆ link.cellSink.queue)
    (howed : next.cellSink.writableOwed = link.cellSink.writableOwed) : link.Shelves op next where
  filed hfiled lane frame hframe := hfiled lane frame (hlanes lane hframe)
  queued _ hframe := .inl (hsink hframe)
  waiting _ hframe := .inl (hlanes _ hframe)
  owed hnext := .inl (howed ▸ hnext)

theorem Shelves.of_same (houtbox : next.outbox = link.outbox)
    (hsink : next.cellSink = link.cellSink) : link.Shelves op next :=
  .of_subset (fun _ => houtbox ▸ refl _) (hsink ▸ refl _) (hsink ▸ rfl)

theorem applyTo_lanes (link : LinkLoop) (action : Action) :
    (link.applyTo action).outbox = link.outbox ∧
      (link.applyTo action).cellSink = link.cellSink := by
  unfold applyTo
  split
  · split <;> exact ⟨rfl, rfl⟩
  all_goals exact ⟨rfl, rfl⟩

@[simp] theorem pumped_outbox (link : LinkLoop) (result : Pump × Action) :
    (link.pumped result).outbox = link.outbox :=
  (applyTo_lanes _ _).1

@[simp] theorem pumped_cellSink (link : LinkLoop) (result : Pump × Action) :
    (link.pumped result).cellSink = link.cellSink :=
  (applyTo_lanes _ _).2

theorem reopened_lanes (link : LinkLoop) :
    link.reopenReplayBeforeUnsentSnapshot.outbox = link.outbox ∧
      link.reopenReplayBeforeUnsentSnapshot.cellSink = link.cellSink := by
  unfold reopenReplayBeforeUnsentSnapshot
  split <;> exact ⟨rfl, rfl⟩

variable (encode : JournalEvent → Nat → Except String (List UInt8))

theorem offerNewRows_lanes (link : LinkLoop) (rows : List PendingRow) :
    (link.offerNewRows encode rows).1.outbox = link.outbox ∧
      (link.offerNewRows encode rows).1.cellSink = link.cellSink := by
  induction rows generalizing link with
  | nil => exact ⟨rfl, rfl⟩
  | cons row rows ih =>
    have hoff : (link.reopenReplayBeforeUnsentSnapshot.offerRow encode row).1.outbox = link.outbox ∧
        (link.reopenReplayBeforeUnsentSnapshot.offerRow encode row).1.cellSink = link.cellSink := by
      have hreopen := link.reopened_lanes
      unfold offerRow enqueueDurableAt
      split
      · exact hreopen
      split
      · exact hreopen
      · split
        · exact hreopen
        · simpa only [pumped_outbox, pumped_cellSink] using hreopen
    unfold offerNewRows
    split
    · exact ih link
    split
    · rename_i hres
      rw [hres] at hoff
      exact ⟨(ih _).1.trans hoff.1, (ih _).2.trans hoff.2⟩
    · rename_i hres
      rw [hres] at hoff
      exact hoff

/-- The calls of the durable path leave the lanes and the sink alone. -/
theorem durable_lanes (link : LinkLoop) {op : LinkOp} (hop : match op with
      | .eventAcknowledged _ | .applyDurableAcks _ | .syncDurableRows _
      | .refreshSnapshotBlocking _ _ | .authoriseSnapshot _ _ _ | .noteDurableAppeared => True
      | _ => False) : (link.serve encode op).1.outbox = link.outbox ∧
      (link.serve encode op).1.cellSink = link.cellSink := by
  cases op with
  | eventAcknowledged clientSeq =>
    have hnoted : ∀ {link : LinkLoop}, (link.noteDurableAck clientSeq).outbox = link.outbox ∧
        (link.noteDurableAck clientSeq).cellSink = link.cellSink := by
      intro link
      unfold noteDurableAck
      split <;> exact ⟨rfl, rfl⟩
    have hrel : (link.releaseAcknowledgedMirrorHead clientSeq).outbox = link.outbox ∧
        (link.releaseAcknowledgedMirrorHead clientSeq).cellSink = link.cellSink := by
      unfold releaseAcknowledgedMirrorHead
      split
      · split <;> exact ⟨rfl, rfl⟩
      · exact ⟨rfl, rfl⟩
    simp only [serve, eventAcknowledged]
    split
    · simp only [pumped_outbox, pumped_cellSink]
      exact hnoted
    · simp only [pumped_outbox, pumped_cellSink]
      exact ⟨hnoted.1.trans hrel.1, hnoted.2.trans hrel.2⟩
  | applyDurableAcks => exact ⟨rfl, rfl⟩
  | syncDurableRows =>
    simp only [serve, syncDurableRows]
    split
    · split
      · exact offerNewRows_lanes encode _ _
      · exact ⟨rfl, rfl⟩
    · exact ⟨rfl, rfl⟩
  | refreshSnapshotBlocking =>
    simp only [serve, refreshSnapshotBlocking]
    split
    · simp only [pumped_outbox, pumped_cellSink]
      split
      · exact link.reopened_lanes
      · exact ⟨rfl, rfl⟩
    · exact ⟨rfl, rfl⟩
  | authoriseSnapshot =>
    simp only [serve, authoriseSnapshot]
    split
    · exact ⟨rfl, rfl⟩
    split
    · exact ⟨rfl, rfl⟩
    split
    · exact ⟨rfl, rfl⟩
    split
    · split
      · exact ⟨rfl, rfl⟩
      · split <;> exact ⟨rfl, rfl⟩
    · exact ⟨rfl, rfl⟩
    · exact ⟨rfl, rfl⟩
  | noteDurableAppeared =>
    simp only [serve, noteDurableAppeared, pumped_outbox, pumped_cellSink, and_self]
  | _ => exact hop.elim

/-- The writer takes frames out of the lanes; only the repair of a refused sink reaches the sink. -/
theorem shelves_write (link : LinkLoop) (now : Nat) (notified : Bool) (status : Option (List UInt8))
    (repair : List (List UInt8 × String)) : link.Shelves (.write now notified status repair)
      (link.write now notified status repair).1 := by
  have hchosen := link.chooses now notified status repair
  have htaken : ∀ {outbox : Outbox} {frame : Option Pending} {lane : Lane},
      link.outbox.takeFrom lane = (outbox, frame) →
      link.Shelves (.write now notified status repair) { link with outbox := outbox } := by
    intro outbox frame lane hres
    refine .of_subset (fun other => ?_) (refl _) rfl
    have hsubset : (link.outbox.takeFrom lane).1.lanes other ⊆ link.outbox.lanes other :=
      takeFrom_subset lane other
    rw [hres] at hsubset
    exact hsubset
  unfold LinkLoop.write
  generalize link.nextWrite now notified status repair = chosen at hchosen ⊢
  cases hchosen with
  | pong taken => exact htaken taken
  | durable =>
    dsimp only
    split <;> exact .of_same rfl rfl
  | snapshot | wait | status => exact .of_same rfl rfl
  | cells lanes owed taken => exact htaken taken
  | @repair queued sink frames lanes owed first written drained told moved =>
    have hrest : sink.queue ⊆ queued.queue := by
      have hloop := (drainLoop_within now .new queued.queue).2
      cases moved
      exact hloop
    refine ⟨id, fun frame hframe => ?_, fun _ hframe => .inl hframe, fun _ => .inl owed⟩
    have hqueued := hrest hframe
    rw [told] at hqueued
    rcases enqueueAll_queue hqueued with hold | hnew
    · exact .inl hold
    · exact .inr hnew
  | lane =>
    have hdrain : link.Shelves (.write now notified status repair)
        { link with outbox := (link.outbox.drainOne now).1 } :=
      .of_subset (fun other => drainOne_subset now other) (refl _) rfl
    cases (link.outbox.drainOne now).2 <;> exact hdrain

theorem shelves_move (hconnected : link.connected = true) (now : Nat) :
    link.Shelves (.moveCellFramesInto now) (link.moveCellFramesInto now) := by
  obtain ⟨hwithin, hrest⟩ := drainLoop_within now link.outbox link.cellSink.queue
  refine ⟨fun hfiled lane frame hframe => ?_, fun frame hframe => .inl (hrest hframe),
    fun frame hframe => ?_, fun _ => .inr (.inl hconnected)⟩
  · rcases hwithin lane frame hframe with hold | hnew
    · exact hfiled lane frame hold
    · exact hnew.1
  · rcases hwithin .terminal frame hframe with hold | ⟨-, -, hmoved⟩
    · exact .inl hold
    · exact .inr ⟨hconnected, hmoved⟩

theorem shelves_admit (op : LinkOp) {frame : Pending} (hlane : frame.lane ≠ .terminal) :
    link.Shelves op (link.admitToLane frame) := by
  unfold LinkLoop.admitToLane
  split
  · rename_i outbox hadmitted
    have hwithin : link.outbox.Within outbox fun other => other.lane ≠ .terminal :=
      admitFrame_within hlane hadmitted
    refine ⟨fun hfiled lane other hother => ?_, fun _ hother => .inl hother,
      fun other hother => ?_, .inl⟩
    · rcases hwithin lane other hother with hold | hnew
      · exact hfiled lane other hold
      · exact hnew.1
    · rcases hwithin .terminal other hother with hold | hnew
      · exact .inl hold
      · exact absurd hnew.1 hnew.2
  · exact .of_same rfl rfl

/-- Every call shelves. -/
theorem shelves_step (link : LinkLoop) (op : LinkOp) : link.Shelves op (link.step encode op).1 := by
  have hsame : ∀ {op : LinkOp}, (link.serve encode op).1.outbox = link.outbox ∧
        (link.serve encode op).1.cellSink = link.cellSink →
      link.Shelves op (if link.connected then link.serve encode op else (link, .done)).1 := by
    intro op hlanes
    split
    · exact .of_same hlanes.1 hlanes.2
    · exact .of_same rfl rfl
  cases op with
  | restart =>
    exact ⟨fun _ _ _ hframe => absurd hframe not_mem_nil,
      fun _ hframe => absurd hframe not_mem_nil, fun _ hframe => absurd hframe not_mem_nil,
      fun howed => (by cases howed)⟩
  | session | onOpen =>
    simp only [LinkLoop.step]
    split <;> exact .of_same rfl rfl
  | noteStoreChanged | activate => exact .of_same rfl rfl
  | queueCells now frames =>
    exact ⟨id, fun _ hframe => enqueueAll_queue hframe, fun _ hframe => .inl hframe,
      fun _ => .inr (.inr ⟨now, frames, rfl⟩)⟩
  | setAttached => exact .of_subset (fun _ => refl _) (refl _) rfl
  | discardQueued => exact .of_subset (fun _ => refl _) (nil_subset _) rfl
  | detachLink =>
    simp only [LinkLoop.step]
    split
    · refine .of_subset (fun lane => ?_) (refl _) rfl
      refine List.Subset.trans (discard_subset _ lane) ?_
      refine List.Subset.trans (discard_subset _ lane) ?_
      refine List.Subset.trans (discard_subset _ lane) ?_
      exact discard_subset _ lane
    · exact .of_same rfl rfl
  | helloAcknowledged =>
    simp only [LinkLoop.step]
    split
    · simp only [LinkLoop.serve, helloAcknowledged]
      refine .of_subset (fun lane => ?_) ?_ ?_
      · rw [pumped_outbox]
        split
        · exact discard_subset _ lane
        · exact refl _
      · rw [pumped_cellSink]
        exact refl _
      · rw [pumped_cellSink]
    · exact .of_same rfl rfl
  | moveCellFramesInto now =>
    simp only [LinkLoop.step]
    split
    · rename_i hconnected
      exact shelves_move hconnected now
    · exact .of_same rfl rfl
  | admitToLane lane bytes label now =>
    simp only [LinkLoop.step]
    split
    · simp only [LinkLoop.serve]
      split
      · exact .of_same rfl rfl
      · rename_i hlane
        exact shelves_admit _ (not_or.mp hlane).2
    · exact .of_same rfl rfl
  | write now notified status repair =>
    simp only [LinkLoop.step]
    split
    · exact link.shelves_write now notified status repair
    · exact .of_same rfl rfl
  | _ => exact hsame (link.durable_lanes encode trivial)

/-! ## The row keeps its place -/

/-- What the rows behind do not touch stays true of the queue until the row is acknowledged. -/
theorem place_step {n : Nat} (place : List PendingEvent → Prop)
    (hbehind : ∀ queue added, place queue → place (queue ++ added))
    (hbefore : ∀ head rest, place (head :: rest) → head.seq ≠ n → place rest)
    (haimed : link.pump.Aimed) (hop : ∀ now held, op ≠ .restart now held)
    (h : place link.pump.durable) : op = .eventAcknowledged n ∧ link.connected = true ∨
      place (link.step encode op).1.pump.durable := by
  by_cases hack : op = .eventAcknowledged n ∧ link.connected = false
  · obtain ⟨rfl, hdown⟩ := hack
    right
    simpa [LinkLoop.step, hdown] using h
  have hstep : (link.step encode op).1.pump.Aimed ∧
      (op = .eventAcknowledged n ∨ place (link.step encode op).1.pump.durable) := by
    refine step_pump encode (P := fun pump => pump.Aimed ∧ (_ ∨ place pump.durable)) ?_
      (fun now held hnew => absurd hnew (hop now held)) ⟨haimed, .inr h⟩
    rintro pump call hcall ⟨haim, hplace⟩
    refine ⟨haim.step call, ?_⟩
    rcases hplace with hplace | hplace
    · exact .inl hplace
    rcases Pump.durable_step pump call with ⟨added, hqueue⟩ | ⟨seq, hseq, hflies, hqueue⟩
    · exact .inr (hqueue ▸ hbehind _ _ hplace)
    by_cases hsame : seq = n
    · exact .inl (hsame ▸ hcall seq hseq)
    obtain ⟨head, rest, hdurable, rfl⟩ := haim.head hflies
    rw [hdurable] at hplace hqueue
    exact .inr (hqueue ▸ hbefore head rest hplace hsame)
  refine hstep.2.imp_left fun hacked => ⟨hacked, ?_⟩
  by_contra hdown
  exact hack ⟨hacked, Bool.eq_false_iff.mpr hdown⟩

/-! ## Cells behind their row -/

variable (link)

/-- The row is still to be offered. -/
def Unoffered (n : Nat) : Prop :=
  n ∈ link.journal.file.events.keys ∧ link.durableOfferedThrough < n
  deriving Decidable

/-- The row is still to be offered, or another row is unacknowledged before it. -/
def Overtaken (n : Nat) : Prop :=
  link.Unoffered n ∨ n ∈ link.pump.durable.tail.map (·.seq)
  deriving Decidable

/-- The call leaves frames of interest in a sink that is owed room, or queues them there: the repair
writes what such a sink holds without the lanes. -/
def queuesOwed (cells : List UInt8 → Bool) : LinkOp → Bool
  | .queueCells now frames =>
    (link.queueCells now frames).cellSink.writableOwed &&
      (link.queueCells now frames).cellSink.queue.any fun frame => cells frame.bytes
  | .write _ _ _ repair =>
    link.cellSink.writableOwed && repair.any fun frame => cells frame.1
  | _ => false

/-- Cells reach the terminal lane only once their session's row was offered and no other row is
unacknowledged before it; a sink that is owed room takes them only once the row was offered. -/
def RowFirst (n : Nat) (cells : List UInt8 → Bool) (link : LinkLoop) (op : LinkOp) : Prop :=
  link.KeepsDraw op ∧
    (link.movesCells op = true → link.cellSink.queue.any (fun frame => cells frame.bytes) = true →
      ¬ link.Overtaken n) ∧
    (link.queuesOwed cells op = true → ¬ link.Unoffered n)
  deriving Decidable

/-- The row stands at the head of the barrier's queue. -/
def Heads (n : Nat) : Prop := link.pump.durable.head?.map (·.seq) = some n

variable {link}

section Row

variable {n : Nat} {event : JournalEvent} {acked written : Prop}
variable {encode} (h : link.Carries encode n event acked written)
include h

theorem Carries.queued (hoffered : ¬ link.Unoffered n) :
    acked ∨ n ∈ link.pump.durable.map (·.seq) :=
  h.kept.imp_right fun ⟨hkey, hplace⟩ => hplace.resolve_left fun hwaits => hoffered ⟨hkey, hwaits⟩

theorem Carries.heads (hfirst : ¬ link.Overtaken n) : acked ∨ link.Heads n := by
  rw [Overtaken, not_or] at hfirst
  refine (h.queued hfirst.1).imp_right fun hqueued => ?_
  cases hdurable : link.pump.durable with
  | nil => simp [hdurable] at hqueued
  | cons =>
    rw [hdurable, map_cons, mem_cons] at hqueued
    have hsame := hqueued.resolve_right (by simpa [hdurable] using hfirst.2)
    simp [Heads, hdurable, hsame]

/-- A row that heads the queue of a live link with nothing authorised was written on its socket. -/
theorem Carries.sent (hsteady : link.pump.Steady) (hopen : link.Open) (hheads : link.Heads n) :
    written := by
  have hflies : link.pump.inFlight = some n := by
    cases hflying : link.pump.inFlight with
    | none => simp [Heads, hsteady.driven hopen.live hflying] at hheads
    | some flying => exact (hsteady.aimed flying hflying).symm.trans hheads
  refine (h.written hflies).resolve_left fun hdue => ?_
  rw [hopen.unauthorised] at hdue
  cases hdue

end Row

end LinkLoop

def LinkAnswer.terminalFrames : LinkAnswer → List Pending
  | .handed (some (.queued frame)) => if frame.lane = .terminal then [frame] else []
  | .handed (some (.repair frames)) => frames
  | _ => []

namespace LinkLoop

variable (encode : JournalEvent → Nat → Except String (List UInt8)) {frame : Pending}

/-- A Terminal-lane frame goes out while the lanes are open, from its lane, or by a repair with no
durable event left to write. -/
theorem Filed.handed (h : link.Filed) {now : Nat} {notified : Bool}
    {status : Option (List UInt8)} {repair : List (List UInt8 × String)}
    (hframe : frame ∈ (handed (link.write now notified status repair).2).terminalFrames) :
    link.Open ∧ (frame ∈ link.outbox.lanes .terminal ∨
      (link.cellSink.writableOwed = true ∧ link.durable = []) ∧
        ((∃ queued ∈ link.cellSink.queue, queued.bytes = frame.bytes) ∨
          frame.bytes ∈ repair.map Prod.fst)) := by
  have hchosen := link.chooses now notified status repair
  unfold LinkLoop.write at hframe
  generalize link.nextWrite now notified status repair = chosen at hchosen hframe
  cases hchosen with
  | pong taken =>
    rename_i pong
    have hlane : pong.lane = .liveness :=
      h .liveness pong (takeFrom_mem (congrArg Prod.snd taken))
    simp [terminalFrames, hlane] at hframe
  | durable =>
    revert hframe
    dsimp only
    split <;> exact fun hframe => absurd hframe not_mem_nil
  | snapshot | wait | status => exact absurd hframe not_mem_nil
  | cells lanes owed taken =>
    rename_i outbox first
    have hmem : first ∈ link.outbox.lanes .terminal := takeFrom_mem (congrArg Prod.snd taken)
    have hsame : frame = first := by
      simpa [terminalFrames, h .terminal first hmem] using hframe
    exact ⟨lanes, .inl (hsame ▸ hmem)⟩
  | repair lanes owed first written drained told moved =>
    rename_i queued _ _
    have hmoved : ∃ waiting ∈ queued.queue, waiting.bytes = frame.bytes := by
      have hwithin := (drainLoop_within now .new queued.queue).1
      cases moved
      rcases hwithin .terminal frame hframe with hnone | ⟨-, -, hqueued⟩
      · exact absurd hnone not_mem_nil
      · exact hqueued
    obtain ⟨waiting, hwaiting, hbytes⟩ := hmoved
    rw [told] at hwaiting
    refine ⟨lanes, .inr ⟨⟨owed, written⟩, ?_⟩⟩
    rcases enqueueAll_queue hwaiting with hold | hnew
    · exact .inl ⟨waiting, hold, hbytes⟩
    · exact .inr (hbytes ▸ hnew)
  | lane lanes owed still =>
    cases hdrain : (link.outbox.drainOne now).2 with
    | none =>
      rw [hdrain] at hframe
      exact absurd hframe not_mem_nil
    | some first =>
      rw [hdrain] at hframe
      obtain ⟨lane, hmem⟩ := drainOne_mem hdrain
      have hlane := h lane first hmem
      simp only [Option.map_some, terminalFrames] at hframe
      split at hframe
      · rename_i hterminal
        obtain rfl := mem_singleton.mp hframe
        obtain rfl := hlane.symm.trans hterminal
        exact ⟨lanes, .inl hmem⟩
      · exact absurd hframe not_mem_nil

theorem terminalFrames_write {op : LinkOp}
    (h : frame ∈ (link.step encode op).2.terminalFrames) :
    ∃ now notified status repair, op = .write now notified status repair ∧
      frame ∈ (handed (link.write now notified status repair).2).terminalFrames := by
  cases op with
  | write now notified status repair =>
    simp only [LinkLoop.step] at h
    split at h
    · exact ⟨now, notified, status, repair, rfl, h⟩
    · exact absurd h not_mem_nil
  | session | onOpen =>
    simp only [LinkLoop.step] at h
    split at h <;> exact absurd h not_mem_nil
  | admitToLane lane bytes label now =>
    simp only [LinkLoop.step, LinkLoop.serve] at h
    repeat' split at h
    all_goals exact absurd h not_mem_nil
  | detachLink | helloAcknowledged _ | eventAcknowledged _ | applyDurableAcks _
  | refreshSnapshotBlocking _ _ | authoriseSnapshot _ _ _ | noteDurableAppeared
  | moveCellFramesInto _ | syncDurableRows _ =>
    simp only [LinkLoop.step, LinkLoop.serve] at h
    split at h <;> exact absurd h not_mem_nil
  | restart _ _ | noteStoreChanged | activate | queueCells _ _ | setAttached _ | discardQueued =>
    exact absurd h not_mem_nil

end LinkLoop

/-! ## Every run -/

section Runs

variable (encode : JournalEvent → Nat → Except String (List UInt8)) (n : Nat)
  (event : JournalEvent) (ops : List LinkOp)

/-- The row was in the outbox at some point of the run. -/
def Committed : Prop := ∃ early, early <+: ops ∧ (linkAfter encode early).Stores n event

/-- The row was handed to the socket that is up, framed under its number. -/
def Sent : Prop :=
  ∃ early op since frame, ops = early ++ op :: since ∧
    (linkCalls encode).answer (linkAfter encode early) op = .handed (some (.durable n frame)) ∧
    frame.seq = some n ∧ encode event n = .ok frame.bytes ∧
    ∀ later ∈ since, LinkLoop.endsSocket later = false

/-- The row was acknowledged on some socket. -/
def Acked : Prop :=
  ∃ early since, ops = early ++ .eventAcknowledged n :: since ∧
    (linkAfter encode early).connected = true

/-- The row was acknowledged on a socket that has ended. -/
def AckedEarlier : Prop :=
  ∃ early since, ops = early ++ .eventAcknowledged n :: since ∧
    (linkAfter encode early).connected = true ∧
    ∃ later ∈ since, LinkLoop.endsSocket later = true

def RowWaits (link : LinkLoop) : Prop :=
  link.Stores n event ∧
    (link.durableOfferedThrough < n ∨ n ∈ link.pump.durable.map (·.seq)) ∧
    ∀ frame ∈ link.durable, frame.seq = some n → encode event n = .ok frame.bytes

variable {encode n event ops}

theorem Committed.extend (h : Committed encode n event ops) (op : LinkOp) :
    Committed encode n event (ops ++ [op]) := by
  obtain ⟨early, hearly, hstores⟩ := h
  exact ⟨early, hearly.trans (prefix_append _ _), hstores⟩

theorem linkAfter_concat (ops : List LinkOp) (op : LinkOp) :
    linkAfter encode (ops ++ [op]) = ((linkAfter encode ops).step encode op).1 :=
  Transducer.run_concat _ _ _ _

theorem sound_after (h : (linkCalls encode).Along LinkLoop.KeepsDraw .absent ops) :
    (linkAfter encode ops).Sound :=
  LinkLoop.sound_run encode h

theorem steady_after (ops : List LinkOp) : (linkAfter encode ops).pump.Steady := by
  refine (linkCalls encode).invariant (P := fun link => link.pump.Steady) Pump.steady_new ?_ ops
  intro link op h
  exact LinkLoop.step_pump encode (fun _ call _ h => h.step call) (fun _ _ _ => Pump.steady_new) h

theorem tracks_after (hkind : event.kind ≠ "agent_reference")
    (h : (linkCalls encode).Along LinkLoop.KeepsDraw .absent ops) :
    (linkAfter encode ops).Tracks encode n event (Committed encode n event ops)
      (Acked encode n ops) (Sent encode n event ops) := by
  -- From the right: each call is one step of what is tracked.
  induction ops using reverseRecOn with
  | nil =>
    refine ⟨fun _ hqueue => absurd hqueue not_mem_nil, Nat.one_pos,
      fun hn => absurd hn not_mem_nil, fun hcommit => ?_⟩
    obtain ⟨_, hearly, _, hstored, -⟩ := hcommit
    rw [prefix_nil.mp hearly] at hstored
    cases hstored
  | append_singleton ops op ih =>
    rw [Transducer.along_concat] at h
    have hcommit : ∀ {early}, early <+: ops ++ [op] → (linkAfter encode early).Stores n event →
        Committed encode n event ops ∨
          ((linkAfter encode ops).step encode op).1.Stores n event := by
      intro early hearly hstores
      rcases prefix_concat_iff.mp hearly with rfl | hearlier
      · exact .inr (linkAfter_concat ops op ▸ hstores)
      · exact .inl ⟨early, hearlier, hstores⟩
    rw [linkAfter_concat]
    refine (ih h.1).step (sound_after h.1) (steady_after ops) h.2 hkind
      (fun hstores => ⟨ops, prefix_rfl, hstores⟩)
      (fun ⟨early, hearly, hstores⟩ => hcommit hearly hstores) ?_ ?_ ?_ ?_
    · rintro ⟨early, since, rfl, hconn⟩
      exact ⟨early, since ++ [op], by simp, hconn⟩
    · rintro rfl hconn
      exact ⟨ops, [], rfl, hconn⟩
    · rintro hlasts ⟨early, earlier, since, frame, rfl, hhand, hseq, hbytes, hsince⟩
      refine ⟨early, earlier, since ++ [op], frame, by simp, hhand, hseq, hbytes, ?_⟩
      intro later hlater
      rcases mem_append.mp hlater with hlater | hlast
      · exact hsince later hlater
      · exact mem_singleton.mp hlast ▸ hlasts
    · intro frame hhand hseq hbytes
      exact ⟨ops, op, [], frame, rfl, hhand, hseq, hbytes, by simp⟩

/-- Where a session's frames wait after a run: behind a row that was committed, in an owed sink
behind a row in the barrier's queue, and in the lane behind a row that heads the queue. -/
structure Ordered (encode : JournalEvent → Nat → Except String (List UInt8)) (n : Nat)
    (event : JournalEvent) (cells : List UInt8 → Bool) (ops : List LinkOp) : Prop where
  filed : (linkAfter encode ops).Filed
  queued : ∀ frame ∈ (linkAfter encode ops).cellSink.queue, cells frame.bytes = true →
    Committed encode n event ops ∧ ((linkAfter encode ops).cellSink.writableOwed = true →
      Acked encode n ops ∨ n ∈ (linkAfter encode ops).pump.durable.map (·.seq))
  waiting : ∀ frame ∈ (linkAfter encode ops).outbox.lanes .terminal, cells frame.bytes = true →
    Committed encode n event ops ∧ (Acked encode n ops ∨ (linkAfter encode ops).Heads n)

theorem place_after {op : LinkOp} (place : List PendingEvent → Prop)
    (hbehind : ∀ queue added, place queue → place (queue ++ added))
    (hbefore : ∀ head rest, place (head :: rest) → head.seq ≠ n → place rest)
    (hop : ∀ now held, op ≠ .restart now held)
    (h : Acked encode n ops ∨ place (linkAfter encode ops).pump.durable) :
    Acked encode n (ops ++ [op]) ∨ place (linkAfter encode (ops ++ [op])).pump.durable := by
  rcases h with ⟨early, since, hops, hconnected⟩ | hplace
  · exact .inl ⟨early, since ++ [op], by simp [hops], hconnected⟩
  rw [linkAfter_concat]
  refine (LinkLoop.place_step encode place hbehind hbefore (steady_after ops).aimed hop hplace).imp_left ?_
  rintro ⟨rfl, hconnected⟩
  exact ⟨ops, [], rfl, hconnected⟩

variable {cells : List UInt8 → Bool}

/-- One call keeps the frames in order: it queues them after the commit, moves them to the lane only
behind the row at the head, and no call but an acknowledgement moves that row. -/
theorem Ordered.step {op : LinkOp} (h : Ordered encode n event cells ops)
    (hrow : Committed encode n event ops →
      (linkAfter encode ops).Carries encode n event (Acked encode n ops) (Sent encode n event ops))
    (hfirst : (linkAfter encode ops).RowFirst n cells op)
    (hqueued : ∀ bytes ∈ queuedBy op, cells bytes = true → Committed encode n event ops) :
    Ordered encode n event cells (ops ++ [op]) := by
  have hshelves := (linkAfter encode ops).shelves_step encode op
  rw [← linkAfter_concat] at hshelves
  by_cases hrestart : ∃ now held, op = .restart now held
  · -- A new process holds no frame.
    obtain ⟨_, _, rfl⟩ := hrestart
    refine ⟨hshelves.filed h.filed, fun frame hframe => ?_, fun frame hframe => ?_⟩
    · rw [linkAfter_concat] at hframe
      exact absurd hframe not_mem_nil
    · rw [linkAfter_concat] at hframe
      exact absurd hframe not_mem_nil
  have hop : ∀ now held, op ≠ .restart now held := fun now held hop => hrestart ⟨now, held, hop⟩
  have hsink : ∀ frame ∈ (linkAfter encode (ops ++ [op])).cellSink.queue,
      cells frame.bytes = true → Committed encode n event ops := by
    intro frame hframe hcells
    rcases hshelves.queued frame hframe with hold | hnew
    · exact (h.queued frame hold hcells).1
    · exact hqueued frame.bytes hnew hcells
  have hmoved : (linkAfter encode ops).movesCells op = true →
      ∀ frame ∈ (linkAfter encode ops).cellSink.queue, cells frame.bytes = true →
        ¬ (linkAfter encode ops).Overtaken n := fun hmoves frame hframe hcells =>
    hfirst.2.1 hmoves (any_eq_true.mpr ⟨frame, hframe, hcells⟩)
  have hheads : Acked encode n ops ∨ (linkAfter encode ops).Heads n →
      Acked encode n (ops ++ [op]) ∨ (linkAfter encode (ops ++ [op])).Heads n := by
    refine place_after (fun queue => queue.head?.map (·.seq) = some n) ?_ ?_ hop
    · rintro (_ | ⟨head, rest⟩) added hplace
      · cases hplace
      · exact hplace
    · exact fun head rest hplace hother => absurd (Option.some.inj hplace) hother
  refine ⟨hshelves.filed h.filed, fun frame hframe hcells => ?_, fun frame hframe hcells => ?_⟩
  · have hcommitted := hsink frame hframe hcells
    refine ⟨hcommitted.extend op, fun howed => ?_⟩
    refine place_after (fun queue => n ∈ queue.map (·.seq)) (by simp +contextual)
      (fun head rest hplace hother => ?_) hop ?_
    · rw [map_cons, mem_cons] at hplace
      exact hplace.resolve_left hother.symm
    by_cases hqueues : (linkAfter encode ops).queuesOwed cells op = true
    · exact (hrow hcommitted).queued (hfirst.2.2 hqueues)
    have hunqueued : ∀ now frames, op ≠ .queueCells now frames := by
      rintro now frames rfl
      refine hqueues ?_
      rw [linkAfter_concat] at hframe howed
      exact Bool.and_eq_true_iff.mpr ⟨howed, any_eq_true.mpr ⟨frame, hframe, hcells⟩⟩
    rcases hshelves.queued frame hframe with hold | hnew
    · rcases hshelves.owed howed with hwas | hmoves | ⟨now, frames, hcall⟩
      · exact (h.queued frame hold hcells).2 hwas
      · have hbefore := hmoved hmoves frame hold hcells
        exact (hrow hcommitted).queued fun hwaits => hbefore (.inl hwaits)
      · exact absurd hcall (hunqueued now frames)
    · cases op with
      | queueCells now frames => exact absurd rfl (hunqueued now frames)
      | write =>
        obtain ⟨given, hgiven, hsame⟩ := mem_map.mp hnew
        rcases hshelves.owed howed with hwas | hmoves | ⟨later, frames, hcall⟩
        · refine absurd (Bool.and_eq_true_iff.mpr ⟨hwas, any_eq_true.mpr ?_⟩) hqueues
          exact ⟨given, hgiven, hsame ▸ hcells⟩
        · cases hmoves
        · cases hcall
      | _ => exact absurd hnew not_mem_nil
  · rcases hshelves.waiting frame hframe with hold | ⟨hmoves, queued, hqueue, hbytes⟩
    · obtain ⟨hcommitted, hfront⟩ := h.waiting frame hold hcells
      exact ⟨hcommitted.extend op, hheads hfront⟩
    · rw [← hbytes] at hcells
      have hcommitted := (h.queued queued hqueue hcells).1
      have hbefore := hmoved hmoves queued hqueue hcells
      exact ⟨hcommitted.extend op, hheads ((hrow hcommitted).heads hbefore)⟩

/-- The frames are in order after every run that keeps the condition. -/
theorem frames_after (hkind : event.kind ≠ "agent_reference")
    (hfirst : (linkCalls encode).Along (LinkLoop.RowFirst n cells) .absent ops)
    (hqueued : ∀ early op, early ++ [op] <+: ops → ∀ bytes ∈ queuedBy op, cells bytes = true →
      Committed encode n event early) : Ordered encode n event cells ops := by
  induction ops using reverseRecOn with
  | nil =>
    exact ⟨fun _ _ hframe => absurd hframe not_mem_nil, fun _ hframe => absurd hframe not_mem_nil,
      fun _ hframe => absurd hframe not_mem_nil⟩
  | append_singleton ops op ih =>
    rw [Transducer.along_concat] at hfirst
    have hkeeps : (linkCalls encode).Along LinkLoop.KeepsDraw .absent ops :=
      hfirst.1.strengthen (P := fun _ => True) trivial (fun _ _ _ _ => trivial) fun _ _ _ h => h.1
    have hearlier := ih hfirst.1 fun early op hearly =>
      hqueued early op (hearly.trans (prefix_append _ _))
    exact hearlier.step (tracks_after hkind hkeeps).row hfirst.2
      (hqueued ops op prefix_rfl)

/-- A session's opened row precedes its cells. In every run that drops no draw, and in which the
session's cells reach the lane only once the row was offered with no other row unacknowledged before
it (and an owed sink only once it was offered): if the row was committed before those frames were
queued, and was acknowledged only on sockets that had been handed it, then whenever such a frame is
handed to the socket the row was handed to that socket before, or acknowledged on an earlier one. -/
theorem opened_precedes_cells {cells : List UInt8 → Bool} {last : LinkOp}
    (hopened : event.kind = "opened")
    (hfirst : (linkCalls encode).Along (LinkLoop.RowFirst n cells) .absent (ops ++ [last]))
    (hqueued : ∀ early op, early ++ [op] <+: ops ++ [last] → ∀ bytes ∈ queuedBy op,
      cells bytes = true → Committed encode n event early)
    (hanswered : ∀ early, early ++ [.eventAcknowledged n] <+: ops →
      (linkAfter encode early).connected = true → Sent encode n event early)
    {frame : Pending}
    (hframe : frame ∈ ((linkCalls encode).answer (linkAfter encode ops) last).terminalFrames)
    (hcells : cells frame.bytes = true) :
    Sent encode n event ops ∨ AckedEarlier encode n ops := by
  have hkind : event.kind ≠ "agent_reference" := by simp [hopened]
  rw [Transducer.along_concat] at hfirst
  have hkeeps : (linkCalls encode).Along LinkLoop.KeepsDraw .absent ops :=
    hfirst.1.strengthen (P := fun _ => True) trivial (fun _ _ _ _ => trivial) fun _ _ _ h => h.1
  have hrow : Committed encode n event ops → (linkAfter encode ops).Carries encode n event
      (Acked encode n ops) (Sent encode n event ops) := (tracks_after hkind hkeeps).row
  have hordered := frames_after hkind hfirst.1 fun early op hearly =>
    hqueued early op (hearly.trans (prefix_append _ _))
  obtain ⟨_, _, _, repair, rfl, hwritten⟩ :=
    LinkLoop.terminalFrames_write encode hframe
  obtain ⟨hopen, hplace⟩ := hordered.filed.handed hwritten
  have hheads : Acked encode n ops ∨ Committed encode n event ops ∧ (linkAfter encode ops).Heads n := by
    rcases hplace with hlane | ⟨⟨howed, hempty⟩, hsink⟩
    · have hwaits := hordered.waiting frame hlane hcells
      exact hwaits.2.imp_right fun hhead => ⟨hwaits.1, hhead⟩
    -- A repair runs with nothing in the mirror, so a row in the queue was acknowledged.
    have hnone : (linkAfter encode ops).pump.durable = [] := by
      have hmirrored := (sound_after hkeeps).mirrored
      rw [hempty, map_nil] at hmirrored
      exact map_eq_nil_iff.mp hmirrored.symm
    suffices hqueue : Acked encode n ops ∨ n ∈ (linkAfter encode ops).pump.durable.map (·.seq) from
      .inl (hqueue.resolve_right (by simp [hnone]))
    rcases hsink with ⟨queued, hqueue, hbytes⟩ | hrepair
    · exact (hordered.queued queued hqueue (hbytes ▸ hcells)).2 howed
    · have hcommitted := hqueued ops _ prefix_rfl frame.bytes hrepair hcells
      obtain ⟨given, hgiven, hsame⟩ := mem_map.mp hrepair
      refine (hrow hcommitted).queued (hfirst.2.2.2 ?_)
      exact Bool.and_eq_true_iff.mpr ⟨howed, any_eq_true.mpr ⟨given, hgiven, hsame ▸ hcells⟩⟩
  by_cases hacked : Acked encode n ops
  · obtain ⟨early, since, rfl, hconnected⟩ := hacked
    by_cases hends : ∃ later ∈ since, LinkLoop.endsSocket later = true
    · exact .inr ⟨early, since, rfl, hconnected, hends⟩
    -- The acknowledgement came on the socket that is up, which had been handed the row.
    obtain ⟨before, op, after, sent, rfl, hhanded, hseq, hbytes, hafter⟩ :=
      hanswered early ⟨since, by simp⟩ hconnected
    refine .inl ⟨before, op, after ++ .eventAcknowledged n :: since, sent, by simp, hhanded, hseq,
      hbytes, fun later hlater => ?_⟩
    rcases mem_append.mp hlater with hlater | hlater
    · exact hafter later hlater
    · rcases mem_cons.mp hlater with rfl | hlater
      · rfl
      · exact Bool.eq_false_iff.mpr fun hcontra => hends ⟨later, hlater, hcontra⟩
  · obtain ⟨hcommitted, hhead⟩ := hheads.resolve_left hacked
    exact .inl ((hrow hcommitted).sent (steady_after ops) hopen hhead)

/-- No committed row is lost. In every run that drops no draw, across crashes, drops and redials, a
row that no acknowledgement named is in the outbox as it was written, to be offered or in the pump,
and its frame carries its own event. -/
theorem committed_row_waits (hkind : event.kind ≠ "agent_reference")
    (hkeeps : (linkCalls encode).Along LinkLoop.KeepsDraw .absent ops)
    (hcommitted : Committed encode n event ops) (hunacked : ¬Acked encode n ops) :
    RowWaits encode n event (linkAfter encode ops) := by
  have hcarries := (tracks_after hkind hkeeps).row hcommitted
  obtain ⟨hkey, hplace⟩ := hcarries.kept.resolve_left hunacked
  obtain ⟨stored, hstored⟩ := OrderedMap.mem_keys_iff.mp hkey
  exact ⟨⟨stored, hstored, hcarries.same stored hstored⟩, hplace, hcarries.framed⟩

end Runs

/-- Frame a row as its number. -/
def framed (_ : JournalEvent) (seq : Nat) : Except String (List UInt8) := .ok [UInt8.ofNat seq]

def turnedLive : List LinkOp :=
  [.restart 0 false, .onOpen, .helloAcknowledged false,
    .authoriseSnapshot (.ok ⟨"snapshot", "", ""⟩) true none, .write 0 false none [],
    .eventAcknowledged 1, .setAttached true]

/-- A session opens, its row is written, and then its cells are queued. -/
def openedAlone : List LinkOp :=
  turnedLive ++ [.session (.append ⟨"opened", "b", "null"⟩ none none), .noteStoreChanged,
    .syncDurableRows true, .write 0 false none [], .queueCells 0 [([7], "cells")],
    .moveCellFramesInto 0]

theorem openedAlone_sends_row :
    Sent framed 2 ⟨"opened", "b", "null"⟩ openedAlone ∨ AckedEarlier framed 2 openedAlone := by
  have hfirst : (linkCalls framed).Along (LinkLoop.RowFirst 2 fun bytes => bytes == [7]) .absent
      (openedAlone ++ [.write 0 false none []]) := by decide +kernel
  have hstores : (linkAfter framed (openedAlone.take 8)).Stores 2 ⟨"opened", "b", "null"⟩ :=
    ⟨⟨⟨"opened", "b", "null"⟩, 4⟩, by decide +kernel, rfl⟩
  -- The cells are queued after the eighth call, which committed the row.
  have hplaces : ∀ i : Fin (openedAlone ++ [write 0 false none []]).length,
      queuedBy ((openedAlone ++ [write 0 false none []]).get i) = [] ∨ 8 ≤ i.val := by
    decide +kernel
  have hframe : ⟨.terminal, [7], 0, "cells"⟩ ∈ ((linkCalls framed).answer
      (linkAfter framed openedAlone) (.write 0 false none [])).terminalFrames := by decide +kernel
  have hqueue : ∀ early op, early ++ [op] <+: openedAlone ++ [.write 0 false none []] →
      ∀ bytes ∈ queuedBy op, (bytes == [7]) = true →
        Committed framed 2 ⟨"opened", "b", "null"⟩ early := by
    intro early op hearly bytes hbytes _
    have hlen : early.length < (openedAlone ++ [write 0 false none []]).length := by
      simpa [Nat.lt_succ_iff] using hearly.length_le
    have hop : (openedAlone ++ [write 0 false none []]).get ⟨early.length, hlen⟩ = op := by
      obtain ⟨_, hsince⟩ := hearly
      simp [← hsince]
    rcases hplaces ⟨early.length, hlen⟩ with hnone | hlate
    · rw [hop] at hnone
      rw [hnone] at hbytes
      exact absurd hbytes not_mem_nil
    · refine ⟨openedAlone.take 8, ?_, hstores⟩
      refine prefix_of_prefix_length_le ?_ ((prefix_append early [op]).trans hearly) hlate
      exact (List.take_prefix 8 openedAlone).trans (prefix_append _ _)
  have hanswered : ∀ early, early ++ [.eventAcknowledged 2] <+: openedAlone →
      (linkAfter framed early).connected = true →
      Sent framed 2 ⟨"opened", "b", "null"⟩ early := by
    intro early hearly _
    have hmem : eventAcknowledged 2 ∈ openedAlone :=
      hearly.subset (mem_append_right _ mem_cons_self)
    simp [openedAlone, turnedLive] at hmem
  exact opened_precedes_cells rfl hfirst hqueue hanswered hframe rfl

/-- The row of a session that opened, on a link that dropped and was dialled again. -/
theorem committed_row_waits_redial : RowWaits framed 2 ⟨"opened", "b", "null"⟩
    (linkAfter framed (openedAlone ++ [.detachLink, .onOpen])) := by
  refine committed_row_waits (by decide) (by decide +kernel) ⟨openedAlone.take 8, ?_,
    ⟨⟨"opened", "b", "null"⟩, 4⟩, by decide +kernel, rfl⟩ ?_
  · exact (List.take_prefix 8 _).trans (prefix_append _ _)
  · rintro ⟨early, since, hops, -⟩
    have hmem : eventAcknowledged 2 ∈ openedAlone ++ [.detachLink, .onOpen] := hops ▸ by simp
    simp [openedAlone, turnedLive] at hmem

/-- Two sessions open while the first row is in flight, and the cells of the second are queued. -/
def openedBehind : List LinkOp :=
  turnedLive ++ [.session (.append ⟨"opened", "a", "null"⟩ none none), .noteStoreChanged,
    .syncDurableRows true, .write 0 false none [],
    .session (.append ⟨"opened", "b", "null"⟩ none none), .noteStoreChanged,
    .syncDurableRows true, .queueCells 0 [([7], "cells")], .moveCellFramesInto 0]

/-- The row that was handed to the socket. -/
def LinkAnswer.durableRow : LinkAnswer → Option Nat
  | .handed (some (.durable seq _)) => some seq
  | _ => none

/-- The row of the second session was committed before its cells were queued, was never handed to a
socket nor acknowledged, and its cells are written. -/
theorem cells_overtake_opened : (3, ⟨⟨"opened", "b", "null"⟩, 4⟩) ∈
      (linkAfter framed (openedBehind.take 13)).journal.file.events.entries ∧
    (openedBehind.take 13).all (fun op => (queuedBy op).isEmpty) ∧
    some 3 ∉ ((linkCalls framed).answers .absent openedBehind).map durableRow ∧
    (∀ op ∈ openedBehind, op ≠ .eventAcknowledged 3) ∧
    ((linkCalls framed).answer (linkAfter framed openedBehind)
      (.write 0 false none [])).terminalFrames = [⟨.terminal, [7], 0, "cells"⟩] := by
  refine ⟨by decide +kernel, by decide +kernel, by decide +kernel, ?_, by decide +kernel⟩
  simp [openedBehind, turnedLive]

end Roost.Worker.Link
