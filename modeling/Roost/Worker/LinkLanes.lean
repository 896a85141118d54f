-- SUMMARY: The lanes of the coordinator link: caps and drain order.
import Mathlib.Tactic.Ring

/-!
# The lanes of the link

Frames wait in lanes under one cap on their number and one on their bytes, and leave in a fixed order
with the terminal lane next to last; raw metadata past its age goes first. A cell sink queues frames
for the terminal lane, and remembers that it refused one.
-/

namespace Roost.Worker.Link

/-- How many frames may be waiting across every lane. -/
def pendingCap : Nat := 1024

/-- How many bytes may be waiting across every lane. -/
def pendingBytesCap : Nat := 8 * 1024 * 1024

def rawMetadataMaxAge : Nat := 100

/-- Which lane a frame belongs to. -/
inductive Lane where
  | liveness
  | durable
  | control
  | terminal
  | rawMetadata
  deriving DecidableEq

def Lane.drainOrder : List Lane := [.liveness, .durable, .control, .terminal, .rawMetadata]

def Lane.isDroppable (lane : Lane) : Bool := decide (lane = .rawMetadata)

/-- A frame waiting to go upstream. -/
structure Pending where
  lane : Lane
  bytes : List UInt8
  queuedAt : Nat
  label : String
  deriving DecidableEq

/-- Why a frame was not admitted. -/
inductive AdmitError where
  | full (pending cap : Nat)
  | overBytes (bytes cap : Nat)
  | frameTooLarge (bytes cap : Nat)

/-- The lanes, with what they hold counted. -/
structure Outbox where
  lanes : Lane → List Pending
  frameCount : Nat
  byteCount : Nat

namespace Outbox

def new : Outbox := ⟨fun _ => [], 0, 0⟩

variable (outbox : Outbox)

def withLane (lane : Lane) (frames : List Pending) : Outbox :=
  { outbox with lanes := Function.update outbox.lanes lane frames }

def takeFrom (lane : Lane) : Outbox × Option Pending :=
  match outbox.lanes lane with
  | [] => (outbox, none)
  | frame :: rest =>
    ({ outbox.withLane lane rest with
        frameCount := outbox.frameCount - 1
        byteCount := outbox.byteCount - frame.bytes.length },
      some frame)

/-- Drop everything in one lane. -/
def discard (lane : Lane) : Outbox :=
  { outbox.withLane lane [] with
    frameCount := outbox.frameCount - (outbox.lanes lane).length
    byteCount := outbox.byteCount - ((outbox.lanes lane).map (·.bytes.length)).sum }

/-- Append a frame to its lane. -/
def push (frame : Pending) : Outbox :=
  { outbox.withLane frame.lane (outbox.lanes frame.lane ++ [frame]) with
    frameCount := outbox.frameCount + 1
    byteCount := outbox.byteCount + frame.bytes.length }

/-- Offer an encoded frame; a full outbox refuses it, or drops the oldest raw metadata for it. -/
def admitFrame (frame : Pending) : Except AdmitError Outbox :=
  let size := frame.bytes.length
  if pendingBytesCap < size then .error (.frameTooLarge size pendingBytesCap)
  else if pendingCap ≤ outbox.frameCount ∨ pendingBytesCap < outbox.byteCount + size then
    if frame.lane.isDroppable then .ok ((outbox.takeFrom frame.lane).1.push frame)
    else if pendingCap ≤ outbox.frameCount then .error (.full outbox.frameCount pendingCap)
    else .error (.overBytes outbox.byteCount pendingBytesCap)
  else .ok (outbox.push frame)

def takeFirst : List Lane → Outbox × Option Pending
  | [] => (outbox, none)
  | lane :: lanes =>
    match outbox.takeFrom lane with
    | (taken, some frame) => (taken, some frame)
    | (_, none) => takeFirst lanes

/-- Take the next frame, in the order the contract requires. -/
def drainOne (now : Nat) : Outbox × Option Pending :=
  match outbox.lanes .rawMetadata with
  | frame :: _ =>
    if rawMetadataMaxAge ≤ now - frame.queuedAt then outbox.takeFrom .rawMetadata
    else outbox.takeFirst Lane.drainOrder
  | [] => outbox.takeFirst Lane.drainOrder

/-- Every frame of the second outbox waited in the first, in the lane it waits in now, or is new
there. -/
def Within (outbox outbox' : Outbox) (new : Pending → Prop) : Prop :=
  ∀ lane, ∀ frame ∈ outbox'.lanes lane, frame ∈ outbox.lanes lane ∨ (frame.lane = lane ∧ new frame)

variable {outbox} {outbox' outbox'' : Outbox} {new : Pending → Prop}

theorem Within.of_subset (h : ∀ lane, outbox'.lanes lane ⊆ outbox.lanes lane) :
    outbox.Within outbox' new :=
  fun lane _ hframe => .inl (h lane hframe)

theorem Within.trans (h : outbox.Within outbox' new) (h' : outbox'.Within outbox'' new) :
    outbox.Within outbox'' new := by
  intro lane frame hframe
  rcases h' lane frame hframe with hframe | hnew
  · exact h lane frame hframe
  · exact .inr hnew

theorem withLane_subset {lane : Lane} {frames : List Pending} (h : frames ⊆ outbox.lanes lane)
    (other : Lane) : (outbox.withLane lane frames).lanes other ⊆ outbox.lanes other := by
  unfold withLane
  by_cases hsame : other = lane
  · subst hsame
    simpa using h
  · simp [hsame]

theorem takeFrom_subset (lane other : Lane) :
    (outbox.takeFrom lane).1.lanes other ⊆ outbox.lanes other := by
  unfold takeFrom
  split
  · exact List.Subset.refl _
  rename_i frame rest hlane
  refine withLane_subset ?_ other
  rw [hlane]
  exact List.subset_cons_self frame rest

variable {frame : Pending}

theorem takeFrom_mem {lane : Lane} (h : (outbox.takeFrom lane).2 = some frame) :
    frame ∈ outbox.lanes lane := by
  unfold takeFrom at h
  split at h
  · cases h
  rename_i hlane
  cases h
  rw [hlane]
  exact List.mem_cons_self

theorem discard_subset (lane other : Lane) :
    (outbox.discard lane).lanes other ⊆ outbox.lanes other :=
  withLane_subset (List.nil_subset _) other

theorem push_within (hnew : new frame) : outbox.Within (outbox.push frame) new := by
  intro lane other hother
  by_cases hlane : lane = frame.lane
  · subst hlane
    simp only [push, withLane, Function.update_self, List.mem_append, List.mem_singleton] at hother
    rcases hother with hother | rfl
    · exact .inl hother
    · exact .inr ⟨rfl, hnew⟩
  · simp only [push, withLane, Function.update_of_ne hlane] at hother
    exact .inl hother

theorem admitFrame_within (hnew : new frame)
    (h : outbox.admitFrame frame = .ok outbox') : outbox.Within outbox' new := by
  unfold admitFrame at h
  dsimp only at h
  split_ifs at h
  · cases h
    exact (Within.of_subset fun lane => takeFrom_subset frame.lane lane).trans (push_within hnew)
  · cases h
    exact push_within hnew

theorem takeFirst_subset (lanes : List Lane) (other : Lane) :
    (outbox.takeFirst lanes).1.lanes other ⊆ outbox.lanes other := by
  induction lanes with
  | nil => exact List.Subset.refl _
  | cons lane lanes ih =>
    unfold takeFirst
    have htaken : (outbox.takeFrom lane).1.lanes other ⊆ outbox.lanes other :=
      takeFrom_subset lane other
    split
    · rename_i hres
      rw [hres] at htaken
      exact htaken
    · exact ih

theorem takeFirst_mem {lanes : List Lane}
    (h : (outbox.takeFirst lanes).2 = some frame) : ∃ lane, frame ∈ outbox.lanes lane := by
  induction lanes with
  | nil => cases h
  | cons lane lanes ih =>
    unfold takeFirst at h
    split at h
    · rename_i hres
      cases h
      exact ⟨lane, takeFrom_mem (congrArg Prod.snd hres)⟩
    · exact ih h

theorem drainOne_subset (now : Nat) (other : Lane) :
    (outbox.drainOne now).1.lanes other ⊆ outbox.lanes other := by
  unfold drainOne
  split
  · split
    · exact takeFrom_subset _ _
    · exact takeFirst_subset _ _
  · exact takeFirst_subset _ _

theorem drainOne_mem {now : Nat} (h : (outbox.drainOne now).2 = some frame) :
    ∃ lane, frame ∈ outbox.lanes lane := by
  unfold drainOne at h
  split at h
  · split at h
    · exact ⟨.rawMetadata, takeFrom_mem h⟩
    · exact takeFirst_mem h
  · exact takeFirst_mem h

end Outbox

/-- The coordinator link as a receiver of cell frames. Its frames all wait for the terminal lane. -/
structure CellSink where
  queue : List Pending
  byteCount : Nat
  attached : Bool
  /-- A frame was refused since the session layer was last told there is room. -/
  writableOwed : Bool

namespace CellSink

def new : CellSink := ⟨[], 0, false, false⟩

variable (sink : CellSink)

/-- Queue an encoded frame; a detached or a full sink refuses it. -/
def enqueue (bytes : List UInt8) (label : String) (now : Nat) : CellSink :=
  if sink.attached = false ∨ pendingBytesCap < bytes.length ∨ pendingCap ≤ sink.queue.length ∨
      pendingBytesCap < sink.byteCount + bytes.length then
    { sink with writableOwed := true }
  else
    { sink with
      queue := sink.queue ++ [⟨.terminal, bytes, now, label⟩]
      byteCount := sink.byteCount + bytes.length }

def discardQueued : CellSink := { sink with queue := [], byteCount := 0 }

/-- Move frames onto the terminal lane until one is refused; that one is lost. -/
def drainLoop (now : Nat) (outbox : Outbox) : List Pending → Outbox × List Pending × Bool
  | [] => (outbox, [], false)
  | frame :: rest =>
    match outbox.admitFrame { frame with lane := .terminal, queuedAt := now } with
    | .ok outbox => drainLoop now outbox rest
    | .error _ => (outbox, rest, true)

/-- Move everything the sink holds onto the link's terminal lane. -/
def drainInto (outbox : Outbox) (now : Nat) : CellSink × Outbox :=
  let (outbox, rest, refused) := drainLoop now outbox sink.queue
  ({ sink with
      queue := rest
      byteCount := (rest.map (·.bytes.length)).sum
      writableOwed := sink.writableOwed || refused },
    outbox)

variable {sink} {frame : Pending}

theorem enqueue_queue {bytes : List UInt8} {label : String} {now : Nat}
    (h : frame ∈ (sink.enqueue bytes label now).queue) :
    frame ∈ sink.queue ∨ frame.bytes = bytes := by
  unfold enqueue at h
  split at h
  · exact .inl h
  rcases List.mem_append.mp h with hold | hnew
  · exact .inl hold
  · rw [List.mem_singleton.mp hnew]
    exact .inr rfl

theorem enqueueAll_queue {frames : List (List UInt8 × String)} {now : Nat}
    (h : frame ∈ (frames.foldl (fun sink frame => sink.enqueue frame.1 frame.2 now) sink).queue) :
    frame ∈ sink.queue ∨ frame.bytes ∈ frames.map Prod.fst := by
  induction frames generalizing sink with
  | nil => exact .inl h
  | cons first frames ih =>
    rcases ih h with hqueue | hlater
    · rcases enqueue_queue hqueue with hold | hnew
      · exact .inl hold
      · exact .inr (by simp [hnew])
    · exact .inr (List.mem_cons_of_mem _ hlater)

theorem drainLoop_within (now : Nat) (outbox : Outbox) (frames : List Pending) :
    (outbox.Within (drainLoop now outbox frames).1 fun frame =>
        frame.lane = .terminal ∧ ∃ queued ∈ frames, queued.bytes = frame.bytes) ∧
      (drainLoop now outbox frames).2.1 ⊆ frames := by
  induction frames generalizing outbox with
  | nil => exact ⟨.of_subset fun _ => List.Subset.refl _, List.Subset.refl _⟩
  | cons first frames ih =>
    unfold drainLoop
    split
    · rename_i moved hmoved
      obtain ⟨hwithin, hrest⟩ := ih moved
      refine ⟨Outbox.Within.trans (Outbox.admitFrame_within ?_ hmoved) ?_,
        List.subset_cons_of_subset _ hrest⟩
      · exact ⟨rfl, first, List.mem_cons_self, rfl⟩
      intro lane frame hframe
      rcases hwithin lane frame hframe with hold | ⟨hlane, hterm, queued, hqueue, hbytes⟩
      · exact .inl hold
      · exact .inr ⟨hlane, hterm, queued, List.mem_cons_of_mem _ hqueue, hbytes⟩
    · exact ⟨.of_subset fun _ => List.Subset.refl _, List.subset_cons_self _ _⟩

end CellSink

end Roost.Worker.Link
