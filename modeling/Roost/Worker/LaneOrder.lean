-- SUMMARY: Control transactions exclude each other and start in queue order.
import Roost.Worker.ControlLanes

/-!
# Exclusion and order on the control lanes

A call that looked up a lane keeps it to the end of its run. If no such lane is taken out of
the table, a channel has one lane for all of its calls, and that lane's line orders them. A
lane that is taken out between another call's look-up and its count leaves two lanes for one
channel.
-/

namespace Roost.Worker.ControlLanes

open Function (update_apply update_of_ne)
open Option (any_some some)

open List

open Gate Table Transducer

variable {κ τ : Type} [DecidableEq κ] [DecidableEq τ] {lanes : ControlLanes κ τ} {task : τ}
  {call : Call κ}

/-! ## One lane for a channel -/

/-- Every call on a lane is on its channel's lane, and a lane's line is the calls in it. -/
structure Sound (lanes : ControlLanes κ τ) : Prop where
  made : ∀ {task call}, lanes.calls task = some call → call.lane < lanes.allocated
  tabled : ∀ {channel lane}, lanes.control.lookup channel = some lane → lane < lanes.allocated
  own : ∀ {channel channel' lane}, lanes.control.lookup channel = some lane →
    lanes.control.lookup channel' = some lane → channel = channel'
  current : ∀ {task call}, lanes.calls task = some call → call.stage.onLane →
    lanes.control.lookup call.channel = some call.lane
  fair : ∀ lane, (lanes.lanes lane).gate.Fair
  line : ∀ {lane task}, task ∈ (lanes.lanes lane).gate.line ↔
    ∃ call, lanes.calls task = some call ∧ call.lane = lane ∧ call.stage.inLine
  held : ∀ {task call}, lanes.calls task = some call → call.stage = .running →
    (lanes.lanes call.lane).gate.holder = some task

omit [DecidableEq τ] in
theorem sound_new : (new : ControlLanes κ τ).Sound where
  made h := by cases h
  tabled h := by cases h
  own h := by cases h
  current h := by cases h
  fair _ := fair_idle
  line := by simp [new, Lane.new]
  held h := by cases h

/-- The state a call's step leaves: one lane is changed, and the call is at another stage. -/
def moved (lanes : ControlLanes κ τ) (task : τ) (call : Call κ) (f : Lane τ → Lane τ)
    (stage : Stage) : ControlLanes κ τ :=
  (lanes.modifyLane call.lane f).setCall task { call with stage }

section Moved

variable {f : Lane τ → Lane τ} {stage : Stage}

omit [DecidableEq κ] in
theorem calls_moved (other : τ) : (lanes.moved task call f stage).calls other =
    if other = task then some { call with stage } else lanes.calls other := by
  simp only [moved, setCall, modifyLane, update_apply]

omit [DecidableEq κ] in
theorem lanes_moved (lane : Nat) : (lanes.moved task call f stage).lanes lane =
    if lane = call.lane then f (lanes.lanes call.lane) else lanes.lanes lane := by
  simp only [moved, setCall, modifyLane, update_apply]

variable (h : lanes.Sound) (hcall : lanes.calls task = some call)
include h hcall

theorem Sound.moved
    (hlane : stage.onLane → call.stage.onLane) (hfair : (f (lanes.lanes call.lane)).gate.Fair)
    (hline : ∀ other, other ∈ (f (lanes.lanes call.lane)).gate.line ↔
      if other = task then stage.inLine = true else other ∈ (lanes.lanes call.lane).gate.line)
    (hheld : stage = .running → (f (lanes.lanes call.lane)).gate.holder = some task)
    (hkeep : ∀ other, other ≠ task → (lanes.lanes call.lane).gate.holder = some other →
      (f (lanes.lanes call.lane)).gate.holder = some other) :
    (lanes.moved task call f stage).Sound where
  made := by
    intro other found hfound
    rw [calls_moved] at hfound
    split at hfound
    · cases hfound
      have hmade := h.made hcall
      exact hmade
    · exact h.made hfound
  tabled := h.tabled
  own := h.own
  current := by
    intro other found hfound hon
    rw [calls_moved] at hfound
    split at hfound
    · cases hfound
      have hcur := h.current hcall (hlane hon)
      exact hcur
    · exact h.current hfound hon
  fair lane := by
    rw [lanes_moved]
    split
    · exact hfair
    · exact h.fair lane
  line := by
    intro lane other
    rw [lanes_moved, calls_moved]
    by_cases hother : other = task
    · subst hother
      by_cases hl : lane = call.lane
      · subst hl
        simp [hline]
      have hnot : other ∉ (lanes.lanes lane).gate.line := by
        rw [h.line]
        rintro ⟨found, hfound, hfoundLane, -⟩
        rw [hcall, some.injEq] at hfound
        subst hfound
        exact hl hfoundLane.symm
      simp [hl, Ne.symm hl, hnot]
    · by_cases hl : lane = call.lane
      · subst hl
        rw [if_pos rfl, hline, if_neg hother, if_neg hother, h.line]
      · rw [if_neg hl, if_neg hother, h.line]
  held := by
    intro other found hfound hrun
    rw [calls_moved] at hfound
    rw [lanes_moved]
    split at hfound
    · rename_i hother
      cases hfound
      rw [if_pos rfl, hother]
      exact hheld hrun
    rename_i hother
    have hhold := h.held hfound hrun
    split
    · rename_i hl
      rw [hl] at hhold
      exact hkeep other hother hhold
    · exact hhold

theorem Sound.moved_same
    (hgate : (f (lanes.lanes call.lane)).gate = (lanes.lanes call.lane).gate)
    (hlane : stage.onLane → call.stage.onLane) (hline : stage.inLine = call.stage.inLine)
    (hheld : stage = .running → (lanes.lanes call.lane).gate.holder = some task) :
    (lanes.moved task call f stage).Sound := by
  refine h.moved hcall hlane ?_ ?_ ?_ ?_
  · rw [hgate]
    exact h.fair _
  · intro other
    rw [hgate]
    split
    · rename_i hother
      subst hother
      rw [h.line, hline]
      constructor
      · rintro ⟨found, hfound, -, hin⟩
        rw [hcall, some.injEq] at hfound
        rwa [hfound]
      · exact fun hin => ⟨call, hcall, rfl, hin⟩
    · rfl
  · rw [hgate]
    exact hheld
  · rw [hgate]
    exact fun _ _ hhold => hhold

theorem Sound.moved_leave
    (hgate : (f (lanes.lanes call.lane)).gate = (lanes.lanes call.lane).gate.leave task)
    (hlane : stage.onLane = false) (hout : stage.inLine = false) :
    (lanes.moved task call f stage).Sound := by
  have hfair := h.fair call.lane
  refine h.moved hcall (by simp [hlane]) ?_ ?_ ?_ ?_
  · rw [hgate]
    exact hfair.leave
  · intro other
    rw [hgate, line_leave, hfair.once.mem_erase_iff]
    split
    · rename_i hother
      simp [hother, hout]
    · rename_i hother
      simp [hother]
  · intro hrun
    rw [hrun] at hout
    cases hout
  · intro other hother hhold
    rw [hgate, leave, if_neg]
    · exact hhold
    · rw [hhold, some.injEq]
      exact hother

end Moved

theorem Sound.enter (h : lanes.Sound) (hnew : lanes.calls task = none)
    (hlane : lanes.control.lookup call.channel = some call.lane) (hfound : call.stage = .found) :
    (lanes.setCall task call).Sound where
  made := by
    intro other found hcall
    simp only [setCall, update_apply] at hcall
    split at hcall
    · cases hcall
      have hmade := h.tabled hlane
      exact hmade
    · have hmade := h.made hcall
      exact hmade
  tabled := h.tabled
  own := h.own
  current := by
    intro other found hcall hon
    simp only [setCall, update_apply] at hcall
    split at hcall
    · cases hcall
      exact hlane
    · exact h.current hcall hon
  fair := h.fair
  line := by
    intro lane other
    simp only [setCall, update_apply]
    rw [h.line]
    by_cases hother : other = task
    · subst hother
      simp [hnew, hfound, Stage.inLine]
    · simp [hother]
  held := by
    intro other found hcall hrun
    simp only [setCall, update_apply] at hcall
    split at hcall
    · cases hcall
      rw [hfound] at hrun
      cases hrun
    · exact h.held hcall hrun

omit [DecidableEq τ] in
theorem Sound.lane (h : lanes.Sound) (chan : κ) : (lanes.lane chan).1.Sound ∧
    (lanes.lane chan).1.control.lookup chan = some (lanes.lane chan).2 := by
  unfold ControlLanes.lane
  cases hctl : lanes.control.lookup chan with
  | some => exact ⟨h, hctl⟩
  | none =>
    refine ⟨?_, AList.lookup_insert lanes.control⟩
    constructor
    · intro task call hcall
      exact Nat.lt_succ_of_lt (h.made hcall)
    · intro other lane hlane
      rw [lookup_insert] at hlane
      split at hlane
      · cases hlane
        exact Nat.lt_succ_self _
      · exact Nat.lt_succ_of_lt (h.tabled hlane)
    · intro other other' lane hlane hlane'
      rw [lookup_insert] at hlane hlane'
      split at hlane
      · cases hlane
        split at hlane'
        · simp_all
        · exact absurd (h.tabled hlane') (Nat.lt_irrefl _)
      split at hlane'
      · cases hlane'
        exact absurd (h.tabled hlane) (Nat.lt_irrefl _)
      · exact h.own hlane hlane'
    · intro task call hcall hon
      have hcur := h.current hcall hon
      rw [lookup_insert, if_neg]
      · exact hcur
      · intro heq
        rw [heq, hctl] at hcur
        cases hcur
    · intro lane
      simp only [update_apply]
      split
      · exact fair_idle
      · exact h.fair lane
    · intro lane task
      simp only [update_apply]
      split
      · rename_i hlane
        subst hlane
        constructor
        · intro hmem
          cases hmem
        · rintro ⟨call, hcall, hlane, -⟩
          exact absurd (hlane ▸ h.made hcall) (Nat.lt_irrefl _)
      · exact h.line
    · intro task call hcall hrun
      simp only [update_apply]
      rw [if_neg (Nat.ne_of_lt (h.made hcall))]
      exact h.held hcall hrun

omit [DecidableEq τ] in
theorem Sound.forgetIfIdle (h : lanes.Sound)
    (hkeeps : lanes.removes call → ∀ other found, lanes.calls other = some found →
      found.lane = call.lane → found.stage.onLane = false) : (lanes.forgetIfIdle call).Sound := by
  unfold ControlLanes.forgetIfIdle
  split
  · rename_i hrem
    constructor
    · exact h.made
    · intro chan lane hlane
      rw [lookup_erase] at hlane
      split at hlane
      · cases hlane
      · exact h.tabled hlane
    · intro chan channel' lane hlane hlane'
      rw [lookup_erase] at hlane hlane'
      split at hlane
      · cases hlane
      · split at hlane'
        · cases hlane'
        · exact h.own hlane hlane'
    · intro task found hfound hon
      have hcur := h.current hfound hon
      rw [lookup_erase, if_neg]
      · exact hcur
      intro heq
      rw [heq, hrem.1, some.injEq] at hcur
      have hoff := hkeeps hrem task found hfound hcur.symm
      rw [hoff] at hon
      cases hon
    · exact h.fair
    · exact h.line
    · exact h.held
  · exact h

/-! ## What a step does -/

/-- Everything one step can do to the lanes. -/
inductive Took (lanes : ControlLanes κ τ) :
    LaneOp κ τ → ControlLanes κ τ → Option (LaneEvent κ τ) → Prop
  | idle (op : LaneOp κ τ) : Took lanes op lanes none
  | lookup {task : τ} (channel : κ) (kind : ControlKind) (hnew : lanes.calls task = none) :
    Took lanes (.lookup task channel kind) ((lanes.lane channel).1.setCall task
      { channel, kind, lane := (lanes.lane channel).2, stage := .found }) none
  /-- A step outside the line. -/
  | pass {op : LaneOp κ τ} {task : τ} {call : Call κ} {f : Lane τ → Lane τ} {stage : Stage}
    (hcall : lanes.calls task = some call) (hgate : ∀ lane, (f lane).gate = lane.gate)
    (hpre : call.stage.inLine = false ∧ call.stage ≠ .withdrawn)
    (hafter : stage.inLine = false ∧ stage ≠ .withdrawn ∧ stage ≠ .found)
    (hlane : stage.onLane → call.stage = .found) :
    Took lanes op (lanes.moved task call f stage) none
  | acquire {task : τ} {call : Call κ} (hcall : lanes.calls task = some call)
    (hstage : call.stage = .counted) :
    Took lanes (.acquire task) (lanes.moved task call (fun lane =>
      { lane with gate := lane.gate.acquire task }) .queued) (some (.queued call.channel task))
  | start {task : τ} {call : Call κ} (hcall : lanes.calls task = some call)
    (hstage : call.stage = .queued)
    (hhold : (lanes.lanes call.lane).gate.holder = some task) :
    Took lanes (.start task) (lanes.moved task call (fun lane =>
      { lane with running := some call.kind }) .running) (some (.started call.channel task))
  /-- A call leaves the line, after its run or before it. -/
  | leave {op : LaneOp κ τ} {task : τ} {call : Call κ} {f : Lane τ → Lane τ} {stage : Stage}
    (hcall : lanes.calls task = some call)
    (hstage : call.stage = .running ∧ (stage = .released ∨ stage = .aborted) ∨
      call.stage = .queued ∧ stage = .withdrawn)
    (hgate : ∀ lane, (call.stage = .running → lane.gate.holder = some task) →
      (f lane).gate = lane.gate.leave task) :
    Took lanes op (lanes.moved task call f stage) none
  | forget {task : τ} {call : Call κ} (hcall : lanes.calls task = some call)
    (hstage : call.stage = .forgetting) :
    Took lanes (.forget task) ((lanes.forgetIfIdle call).setCall task
      { call with stage := .done }) none

theorem took_atStage {op : LaneOp κ τ} {stage : Stage}
    {f : Call κ → ControlLanes κ τ × Option (LaneEvent κ τ)}
    (hstep : ∀ call, lanes.calls task = some call → call.stage = stage →
      Took lanes op (f call).1 (f call).2) :
    Took lanes op (lanes.atStage task stage f).1 (lanes.atStage task stage f).2 := by
  unfold atStage
  split
  · exact .idle op
  rename_i call hcall
  split
  · rename_i hstage
    exact hstep call hcall hstage
  · exact .idle op

omit [DecidableEq κ] in
theorem moved_id (stage : Stage) :
    lanes.moved task call id stage = lanes.setCall task { call with stage } := by
  simp [moved, modifyLane]

/-- What one operation does to the lanes. -/
theorem took_next (lanes : ControlLanes κ τ) (op : LaneOp κ τ) :
    Took lanes op (machine.next lanes op) (machine.answer lanes op) := by
  cases op with
  | lookup task chan kind =>
    simp only [Transducer.next, answer, machine, lookupStep]
    cases hcall : lanes.calls task with
    | some => exact .idle _
    | none => exact .lookup chan kind hcall
  | count task =>
    refine took_atStage fun call hcall hstage => ?_
    refine .pass hcall (fun _ => rfl) ?_ ?_ fun _ => hstage
    · rw [hstage]
      decide
    · decide
  | acquire =>
    exact took_atStage fun call hcall hstage => .acquire hcall hstage
  | start task =>
    refine took_atStage fun call hcall hstage => ?_
    split
    · rename_i hhold
      exact .start hcall hstage hhold
    · exact .idle _
  | release =>
    refine took_atStage fun call hcall hstage => ?_
    refine .leave hcall (.inl ⟨hstage, .inl rfl⟩) fun lane hheld => ?_
    rw [leave, if_pos (hheld hstage)]
  | discount task =>
    refine took_atStage fun call hcall hstage => ?_
    refine .pass hcall (fun _ => rfl) ?_ ?_ fun hon => ?_
    · rw [hstage]
      decide
    · decide
    · cases hon
  | check task =>
    refine took_atStage fun call hcall hstage => ?_
    rw [← moved_id]
    refine .pass hcall (fun _ => rfl) ?_ ?_ fun hon => ?_
    · rw [hstage]
      decide
    · split <;> decide
    · split at hon <;> cases hon
  | forget =>
    exact took_atStage fun call hcall hstage => .forget hcall hstage
  | cancel task =>
    simp only [Transducer.next, answer, machine, cancelStep]
    cases hcall : lanes.calls task with
    | none => exact .idle _
    | some call =>
      dsimp only
      split
      · rename_i hstage
        exact .leave hcall (.inr ⟨hstage, rfl⟩) fun _ _ => rfl
      · rename_i hstage
        exact .leave hcall (.inl ⟨hstage, .inr rfl⟩) fun _ _ => rfl
      · exact .idle _

theorem Sound.took {op : LaneOp κ τ} {lanes' : ControlLanes κ τ}
    {event : Option (LaneEvent κ τ)} (h : lanes.Sound) (htook : Took lanes op lanes' event)
    (hkeeps : KeepsFoundLanes lanes op) : lanes'.Sound := by
  cases htook with
  | idle => exact h
  | @lookup task chan kind hnew =>
    obtain ⟨hsound, hlane⟩ := h.lane chan
    refine hsound.enter ?_ hlane rfl
    unfold ControlLanes.lane
    split <;> exact hnew
  | @pass _ task call f stage hcall hgate hpre hafter hlane =>
    refine h.moved_same hcall (hgate _) (fun hon => ?_) (hafter.1.trans hpre.1.symm) ?_
    · rw [hlane hon]
      rfl
    · intro hrun
      rw [hrun] at hafter
      cases hafter.1
  | @acquire task call hcall hstage =>
    have hfair := h.fair call.lane
    have hnew : task ∉ (lanes.lanes call.lane).gate.line := by
      rw [h.line]
      rintro ⟨found, hfound, -, hin⟩
      rw [hcall, some.injEq] at hfound
      rw [← hfound, hstage] at hin
      cases hin
    refine h.moved hcall (fun _ => by rw [hstage]; rfl) (hfair.acquire hnew) ?_ ?_ ?_
    · intro other
      rw [line_acquire hfair, mem_append, mem_singleton]
      by_cases hother : other = task
      · simp [hother, Stage.inLine]
      · simp [hother]
    · intro hrun
      cases hrun
    · intro other _ hhold
      simp only [acquire, hhold]
  | @start task call hcall hstage hhold =>
    refine h.moved_same hcall rfl (fun _ => ?_) ?_ fun _ => hhold
    · rw [hstage]
      rfl
    · rw [hstage]
      rfl
  | @leave _ task call f stage hcall hstage hgate =>
    have hout : stage.onLane = false ∧ stage.inLine = false := by
      rcases hstage with ⟨-, rfl | rfl⟩ | ⟨-, rfl⟩ <;> decide
    exact h.moved_leave hcall (hgate _ (h.held hcall)) hout.1 hout.2
  | @forget task call hcall hstage =>
    have hsound := h.forgetIfIdle (hkeeps call hcall hstage)
    have hcalls : (lanes.forgetIfIdle call).calls task = some call := by
      unfold ControlLanes.forgetIfIdle
      split <;> exact hcall
    rw [← moved_id]
    refine hsound.moved_same hcalls rfl (fun hon => ?_) ?_ fun hrun => ?_
    · cases hon
    · rw [hstage]
      rfl
    · cases hrun

/-! ## The order of the starts -/

omit [DecidableEq κ] [DecidableEq τ] in
/-- The transaction has its place in a line and has not started. -/
def waits (lanes : ControlLanes κ τ) (task : τ) : Bool :=
  (lanes.calls task).any fun call => decide (call.stage = .queued)

/-- The transactions of a channel that are still to start, in line order. -/
def pending (lanes : ControlLanes κ τ) (channel : κ) : List τ :=
  match lanes.control.lookup channel with
  | none => []
  | some lane => (lanes.lanes lane).gate.line.filter lanes.waits

/-- What the log of a run says of its state. -/
structure Ordered (past : List (LaneOp κ τ × Option (LaneEvent κ τ)))
    (lanes : ControlLanes κ τ) : Prop where
  order : ∀ channel, (queuedOf channel past).filter (fun task => !lanes.withdrew task) =
    startedOf channel past ++ lanes.pending channel
  queued : ∀ {channel task}, task ∈ queuedOf channel past → ∃ call, lanes.calls task = some call ∧
    call.stage ≠ .found ∧ call.stage ≠ .counted
  started : ∀ {channel task}, task ∈ startedOf channel past → ∃ call,
    lanes.calls task = some call ∧ call.stage ≠ .found ∧ call.stage ≠ .counted ∧
      call.stage ≠ .queued
  once : ∀ channel, (queuedOf channel past).Nodup

section Logs

variable {past : List (LaneOp κ τ × Option (LaneEvent κ τ))} {op : LaneOp κ τ} {chan other : κ}

omit [DecidableEq τ] in
theorem queuedOf_concat_none : queuedOf chan (past ++ [(op, none)]) = queuedOf chan past := by
  simp [queuedOf]

omit [DecidableEq τ] in
theorem startedOf_concat_none : startedOf chan (past ++ [(op, none)]) = startedOf chan past := by
  simp [startedOf]

omit [DecidableEq τ] in
theorem queuedOf_concat_queued : queuedOf chan (past ++ [(op, some (.queued other task))]) =
    queuedOf chan past ++ if other = chan then [task] else [] := by
  unfold queuedOf
  rw [filterMap_append]
  split <;> simp_all

omit [DecidableEq τ] in
theorem startedOf_concat_queued :
    startedOf chan (past ++ [(op, some (.queued other task))]) = startedOf chan past := by
  simp [startedOf]

omit [DecidableEq τ] in
theorem queuedOf_concat_started :
    queuedOf chan (past ++ [(op, some (.started other task))]) = queuedOf chan past := by
  simp [queuedOf]

omit [DecidableEq τ] in
theorem startedOf_concat_started : startedOf chan (past ++ [(op, some (.started other task))]) =
    startedOf chan past ++ if other = chan then [task] else [] := by
  unfold startedOf
  rw [filterMap_append]
  split <;> simp_all

end Logs

section Steps

variable {past : List (LaneOp κ τ × Option (LaneEvent κ τ))} {op : LaneOp κ τ}
  {lanes' : ControlLanes κ τ} {f : Lane τ → Lane τ} {stage : Stage} {chan : κ}

omit [DecidableEq κ] in
theorem withdrew_moved (other : τ) : (lanes.moved task call f stage).withdrew other =
    if other = task then decide (stage = .withdrawn) else lanes.withdrew other := by
  unfold withdrew
  rw [calls_moved]
  split <;> rfl

omit [DecidableEq κ] in
theorem waits_moved (other : τ) : (lanes.moved task call f stage).waits other =
    if other = task then decide (stage = .queued) else lanes.waits other := by
  unfold waits
  rw [calls_moved]
  split <;> rfl

omit [DecidableEq κ] [DecidableEq τ] in
theorem withdrew_of_call (hcall : lanes.calls task = some call) :
    lanes.withdrew task = decide (call.stage = .withdrawn) := by
  rw [withdrew, hcall, any_some]

omit [DecidableEq κ] [DecidableEq τ] in
theorem waits_of_call (hcall : lanes.calls task = some call) :
    lanes.waits task = decide (call.stage = .queued) := by
  rw [waits, hcall, any_some]

omit [DecidableEq τ] in
theorem pending_congr (hctl : lanes'.control.lookup channel = lanes.control.lookup channel)
    (hline : ∀ lane, lanes.control.lookup channel = some lane →
      (lanes'.lanes lane).gate.line.filter lanes'.waits =
        (lanes.lanes lane).gate.line.filter lanes.waits) :
    lanes'.pending channel = lanes.pending channel := by
  unfold pending
  rw [hctl]
  cases hlane : lanes.control.lookup channel with
  | none => rfl
  | some lane => exact hline lane hlane

omit [DecidableEq τ] in
theorem pending_of_lane {lane : Nat} (hlane : lanes.control.lookup chan = some lane) :
    lanes.pending chan = (lanes.lanes lane).gate.line.filter lanes.waits := by
  rw [pending, hlane]

omit [DecidableEq τ] in
theorem Sound.not_mem_line (h : lanes.Sound) (hcall : lanes.calls task = some call)
    (hout : call.stage.inLine = false) (lane : Nat) : task ∉ (lanes.lanes lane).gate.line := by
  rw [h.line]
  rintro ⟨found, hfound, -, hin⟩
  rw [hcall, some.injEq] at hfound
  rw [← hfound, hout] at hin
  cases hin

omit [DecidableEq τ] in
theorem Ordered.quiet (h : Ordered past lanes) (hwithdrawn : ∀ channel,
      ∀ task ∈ queuedOf channel past, lanes'.withdrew task = lanes.withdrew task)
    (hpend : ∀ channel, lanes'.pending channel = lanes.pending channel)
    (hqueue : ∀ {channel task}, task ∈ queuedOf channel past → ∃ call,
      lanes'.calls task = some call ∧ call.stage ≠ .found ∧ call.stage ≠ .counted)
    (hstart : ∀ {channel task}, task ∈ startedOf channel past → ∃ call,
      lanes'.calls task = some call ∧ call.stage ≠ .found ∧ call.stage ≠ .counted ∧
        call.stage ≠ .queued) : Ordered (past ++ [(op, none)]) lanes' where
  order channel := by
    rw [queuedOf_concat_none, startedOf_concat_none, hpend, ← h.order]
    exact filter_congr fun task hmem => by rw [hwithdrawn channel task hmem]
  queued := by
    intro channel task hmem
    rw [queuedOf_concat_none] at hmem
    exact hqueue hmem
  started := by
    intro channel task hmem
    rw [startedOf_concat_none] at hmem
    exact hstart hmem
  once channel := by
    rw [queuedOf_concat_none]
    exact h.once channel

theorem Ordered.lookup (h : Ordered past lanes) (hsound : lanes.Sound) (kind : ControlKind)
    (hnew : lanes.calls task = none) :
    Ordered (past ++ [(op, none)]) ((lanes.lane chan).1.setCall task
      { channel := chan, kind, lane := (lanes.lane chan).2, stage := .found }) := by
  have hcalls : (lanes.lane chan).1.calls = lanes.calls := by
    unfold ControlLanes.lane
    split <;> rfl
  have hother : ∀ other, other ≠ task → ((lanes.lane chan).1.setCall task
      { channel := chan, kind, lane := (lanes.lane chan).2, stage := .found }).calls other =
        lanes.calls other := by
    intro other hne
    simp only [setCall, update_of_ne hne, hcalls]
  have hne : ∀ {other call}, lanes.calls other = some call → other ≠ task := by
    rintro other call hcall rfl
    rw [hnew] at hcall
    cases hcall
  refine h.quiet ?_ ?_ ?_ ?_
  · intro c other hmem
    obtain ⟨_, hcall, -⟩ := h.queued hmem
    rw [withdrew, withdrew, hother other (hne hcall)]
  · intro c
    have hline : ∀ lane, ((lanes.lanes lane).gate.line.filter ((lanes.lane chan).1.setCall task
        { channel := chan, kind, lane := (lanes.lane chan).2, stage := .found }).waits) =
          (lanes.lanes lane).gate.line.filter lanes.waits := by
      intro lane
      refine filter_congr fun other hmem => ?_
      obtain ⟨_, hcall, -⟩ := hsound.line.mp hmem
      rw [waits, waits, hother other (hne hcall)]
    unfold ControlLanes.lane at hline ⊢
    cases hctl : lanes.control.lookup chan with
    | some lane =>
      simp only [hctl] at hline ⊢
      exact pending_congr rfl fun lane _ => hline lane
    | none =>
      simp only [hctl] at hline ⊢
      by_cases hc : c = chan
      · subst hc
        -- The lane that was made is empty, and the channel had none.
        simp [pending, setCall, hctl, Lane.new]
      refine pending_congr ?_ fun lane hlane => ?_
      · exact (lookup_insert _ _ _).trans (if_neg hc)
      · have hold := Nat.ne_of_lt (hsound.tabled hlane)
        simp only [setCall, update_of_ne hold]
        exact hline lane
  · intro c other hmem
    obtain ⟨call, hcall, hstage⟩ := h.queued hmem
    exact ⟨call, (hother other (hne hcall)).trans hcall, hstage⟩
  · intro c other hmem
    obtain ⟨call, hcall, hstage⟩ := h.started hmem
    exact ⟨call, (hother other (hne hcall)).trans hcall, hstage⟩

theorem Ordered.pass (h : Ordered past lanes) (hcall : lanes.calls task = some call)
    (hgate : ∀ lane, (f lane).gate = lane.gate)
    (hpre : call.stage.inLine = false ∧ call.stage ≠ .withdrawn)
    (hafter : stage.inLine = false ∧ stage ≠ .withdrawn ∧ stage ≠ .found)
    (hlane : stage.onLane → call.stage = .found) :
    Ordered (past ++ [(op, none)]) (lanes.moved task call f stage) := by
  have hnotQueued : ∀ {stage : Stage}, stage.inLine = false → stage ≠ .queued := by
    rintro _ hin rfl
    cases hin
  -- A call that was in the log is past its count, and so it is after the step.
  have hcount : call.stage ≠ .found → stage ≠ .counted := by
    rintro hfound rfl
    exact hfound (hlane rfl)
  have hlines : ∀ lane, ((lanes.moved task call f stage).lanes lane).gate =
      (lanes.lanes lane).gate := by
    intro lane
    rw [lanes_moved]
    split
    · rename_i heq
      rw [heq, hgate]
    · rfl
  refine h.quiet ?_ ?_ ?_ ?_
  · intro c other _
    rw [withdrew_moved]
    split
    · rename_i heq
      rw [heq, withdrew_of_call hcall]
      simp [hpre.2, hafter.2.1]
    · rfl
  · intro c
    refine pending_congr rfl fun lane _ => ?_
    rw [hlines]
    refine filter_congr fun other _ => ?_
    rw [waits_moved]
    split
    · rename_i heq
      rw [heq, waits_of_call hcall]
      simp [hnotQueued hpre.1, hnotQueued hafter.1]
    · rfl
  · intro c other hmem
    obtain ⟨found, hfound, hpast⟩ := h.queued hmem
    rw [calls_moved]
    split
    · rename_i heq
      rw [heq, hcall, some.injEq] at hfound
      exact ⟨_, rfl, hafter.2.2, hcount (hfound ▸ hpast.1)⟩
    · exact ⟨found, hfound, hpast⟩
  · intro c other hmem
    obtain ⟨found, hfound, hpast⟩ := h.started hmem
    rw [calls_moved]
    split
    · rename_i heq
      rw [heq, hcall, some.injEq] at hfound
      exact ⟨_, rfl, hafter.2.2, hcount (hfound ▸ hpast.1), hnotQueued hafter.1⟩
    · exact ⟨found, hfound, hpast⟩

theorem pending_moved_other (hsound : lanes.Sound) (hcall : lanes.calls task = some call)
    (hon : call.stage.onLane) (hchannel : channel ≠ call.channel) :
    (lanes.moved task call f stage).pending channel = lanes.pending channel := by
  have hcur := hsound.current hcall hon
  refine pending_congr rfl fun lane hlane => ?_
  have hne : lane ≠ call.lane := by
    intro heq
    rw [heq] at hlane
    exact hchannel (hsound.own hlane hcur)
  rw [lanes_moved, if_neg hne]
  refine filter_congr fun other hmem => ?_
  rw [waits_moved, if_neg]
  intro heq
  obtain ⟨_, hfound, hfoundLane, -⟩ := hsound.line.mp hmem
  rw [heq, hcall, some.injEq] at hfound
  exact hne (hfound ▸ hfoundLane.symm)

section

variable (h : Ordered past lanes) (hsound : lanes.Sound) (hcall : lanes.calls task = some call)
include h hsound hcall

theorem Ordered.acquire (hstage : call.stage = .counted) :
    Ordered (past ++ [(op, some (.queued call.channel task))]) (lanes.moved task call
      (fun lane => { lane with gate := lane.gate.acquire task }) .queued) := by
  have hon : call.stage.onLane = true := by
    rw [hstage]
    rfl
  have hcur := hsound.current hcall hon
  -- A call that counted itself in asks for the permit the first time.
  have hnotQueued : ∀ {c}, task ∉ queuedOf c past := by
    intro c hmem
    obtain ⟨_, hfound, -, hcount⟩ := h.queued hmem
    rw [hcall, some.injEq] at hfound
    exact hcount (hfound ▸ hstage)
  refine ⟨?_, ?_, ?_, ?_⟩
  · intro c
    have hold : (queuedOf c past).filter (fun other =>
        !(lanes.moved task call (fun lane => { lane with gate := lane.gate.acquire task })
          .queued).withdrew other) = startedOf c past ++ lanes.pending c := by
      rw [← h.order]
      refine filter_congr fun other hmem => ?_
      rw [withdrew_moved, if_neg]
      intro heq
      exact hnotQueued (heq ▸ hmem)
    rw [queuedOf_concat_queued, startedOf_concat_queued, filter_append, hold, append_assoc]
    congr 1
    by_cases hc : call.channel = c
    · subst hc
      rw [if_pos rfl, pending_of_lane hcur]
      have hcur' : (lanes.moved task call (fun lane =>
          { lane with gate := lane.gate.acquire task }) .queued).control.lookup call.channel =
            some call.lane := hcur
      rw [pending_of_lane hcur', lanes_moved, if_pos rfl, line_acquire (hsound.fair _),
        filter_append]
      have hout := hsound.not_mem_line hcall (by rw [hstage]; rfl) call.lane
      congr 1
      · refine filter_congr fun other hmem => ?_
        rw [waits_moved, if_neg]
        intro heq
        exact hout (heq ▸ hmem)
      · simp [withdrew_moved, waits_moved]
    · rw [if_neg hc, pending_moved_other hsound hcall hon (Ne.symm hc)]
      simp
  · intro c other hmem
    rw [queuedOf_concat_queued, mem_append] at hmem
    rw [calls_moved]
    split
    · exact ⟨_, rfl, by simp, by simp⟩
    rename_i hother
    rcases hmem with hold | hnow
    · exact h.queued hold
    · split at hnow
      · exact absurd (mem_singleton.mp hnow) hother
      · cases hnow
  · intro c other hmem
    rw [startedOf_concat_queued] at hmem
    obtain ⟨found, hfound, hpast⟩ := h.started hmem
    rw [calls_moved, if_neg]
    · exact ⟨found, hfound, hpast⟩
    · intro heq
      rw [heq, hcall, some.injEq] at hfound
      exact hpast.2.1 (hfound ▸ hstage)
  · intro c
    rw [queuedOf_concat_queued, nodup_append]
    refine ⟨h.once c, ?_, ?_⟩
    · split
      · exact nodup_singleton task
      · exact nodup_nil
    intro other hother member hmember heq
    split at hmember
    · rw [mem_singleton] at hmember
      exact hnotQueued (hmember ▸ heq ▸ hother)
    · cases hmember

theorem Ordered.start (hstage : call.stage = .queued)
    (hhold : (lanes.lanes call.lane).gate.holder = some task) :
    Ordered (past ++ [(op, some (.started call.channel task))]) (lanes.moved task call
      (fun lane => { lane with running := some call.kind }) .running) := by
  have hon : call.stage.onLane = true := by
    rw [hstage]
    rfl
  have hcur := hsound.current hcall hon
  refine ⟨?_, ?_, ?_, ?_⟩
  · intro c
    have hold : (queuedOf c past).filter (fun other =>
        !(lanes.moved task call (fun lane => { lane with running := some call.kind })
          .running).withdrew other) = startedOf c past ++ lanes.pending c := by
      rw [← h.order]
      refine filter_congr fun other _ => ?_
      rw [withdrew_moved]
      split
      · rename_i heq
        rw [heq, withdrew_of_call hcall]
        simp [hstage]
      · rfl
    rw [queuedOf_concat_started, startedOf_concat_started, hold, append_assoc]
    congr 1
    by_cases hc : call.channel = c
    · subst hc
      rw [if_pos rfl, pending_of_lane hcur]
      have hcur' : (lanes.moved task call (fun lane =>
          { lane with running := some call.kind }) .running).control.lookup call.channel =
            some call.lane := hcur
      rw [pending_of_lane hcur', lanes_moved, if_pos rfl]
      have hline := line_of_holder hhold
      have honce := (hsound.fair call.lane).once
      rw [hline, nodup_cons] at honce
      rw [show (lanes.lanes call.lane).gate.line = task :: (lanes.lanes call.lane).gate.waiters
        from hline]
      rw [filter_cons_of_pos (by rw [waits_of_call hcall]; simp [hstage]),
        filter_cons_of_neg (by simp [waits_moved]), singleton_append]
      congr 1
      refine filter_congr fun other hmem => ?_
      rw [waits_moved, if_neg]
      intro heq
      exact honce.1 (heq ▸ hmem)
    · rw [if_neg hc, pending_moved_other hsound hcall hon (Ne.symm hc), nil_append]
  · intro c other hmem
    rw [queuedOf_concat_started] at hmem
    rw [calls_moved]
    split
    · exact ⟨_, rfl, by simp, by simp⟩
    · exact h.queued hmem
  · intro c other hmem
    rw [startedOf_concat_started, mem_append] at hmem
    rw [calls_moved]
    split
    · exact ⟨_, rfl, by simp, by simp, by simp⟩
    rename_i hother
    rcases hmem with hold | hnow
    · exact h.started hold
    · split at hnow
      · exact absurd (mem_singleton.mp hnow) hother
      · cases hnow
  · intro c
    rw [queuedOf_concat_started]
    exact h.once c

theorem Ordered.finish (hstage : call.stage = .running)
    (hafter : stage = .released ∨ stage = .aborted)
    (hgate : (f (lanes.lanes call.lane)).gate = (lanes.lanes call.lane).gate.leave task) :
    Ordered (past ++ [(op, none)]) (lanes.moved task call f stage) := by
  have hhold := hsound.held hcall hstage
  have hplain : stage ≠ .withdrawn ∧ stage ≠ .queued ∧ stage ≠ .found ∧ stage ≠ .counted := by
    rcases hafter with rfl | rfl <;> decide
  refine h.quiet ?_ ?_ ?_ ?_
  · intro c other _
    rw [withdrew_moved]
    split
    · rename_i heq
      rw [heq, withdrew_of_call hcall]
      simp [hstage, hplain.1]
    · rfl
  · intro c
    refine pending_congr rfl fun lane _ => ?_
    have hwaits : (lanes.moved task call f stage).waits = lanes.waits := by
      funext other
      rw [waits_moved]
      split
      · rename_i heq
        rw [heq, waits_of_call hcall]
        simp [hstage, hplain.2.1]
      · rfl
    rw [hwaits, lanes_moved]
    split
    · rename_i heq
      rw [heq, hgate, leave, if_pos hhold, line_release, line_of_holder hhold, filter_cons_of_neg]
      rw [waits_of_call hcall]
      simp [hstage]
    · rfl
  · intro c other hmem
    rw [calls_moved]
    split
    · exact ⟨_, rfl, hplain.2.2.1, hplain.2.2.2⟩
    · exact h.queued hmem
  · intro c other hmem
    rw [calls_moved]
    split
    · exact ⟨_, rfl, hplain.2.2.1, hplain.2.2.2, hplain.2.1⟩
    · exact h.started hmem

theorem Ordered.withdraw (hstage : call.stage = .queued)
    (hgate : (f (lanes.lanes call.lane)).gate = (lanes.lanes call.lane).gate.leave task) :
    Ordered (past ++ [(op, none)]) (lanes.moved task call f .withdrawn) := by
  have hon : call.stage.onLane = true := by
    rw [hstage]
    rfl
  have hcur := hsound.current hcall hon
  have hnotStarted : ∀ {c}, task ∉ startedOf c past := by
    intro c hmem
    obtain ⟨_, hfound, -, -, hqueue⟩ := h.started hmem
    rw [hcall, some.injEq] at hfound
    exact hqueue (hfound ▸ hstage)
  -- The log loses the task, and so does what is pending.
  have hpend : ∀ c, (lanes.moved task call f .withdrawn).pending c =
      (lanes.pending c).filter fun other => decide (other ≠ task) := by
    intro c
    by_cases hc : c = call.channel
    · subst hc
      have hcur' : (lanes.moved task call f .withdrawn).control.lookup call.channel =
          some call.lane := hcur
      rw [pending_of_lane hcur, pending_of_lane hcur', lanes_moved, if_pos rfl, hgate,
        line_leave, (hsound.fair _).once.erase_eq_filter, filter_filter,
        filter_filter]
      refine filter_congr fun other _ => ?_
      rw [waits_moved]
      by_cases hother : other = task <;> simp [hother]
    rw [pending_moved_other hsound hcall hon hc]
    refine (filter_eq_self.mpr fun other hmem => ?_).symm
    rw [decide_eq_true_eq]
    rintro rfl
    unfold pending at hmem
    cases hlane : lanes.control.lookup c with
    | none =>
      rw [hlane] at hmem
      cases hmem
    | some =>
      rw [hlane] at hmem
      obtain ⟨_, hfound, hfoundLane, -⟩ := hsound.line.mp (mem_filter.mp hmem).1
      rw [hcall, some.injEq] at hfound
      rw [← hfound] at hfoundLane
      rw [← hfoundLane] at hlane
      exact hc (hsound.own hlane hcur)
  refine ⟨?_, ?_, ?_, ?_⟩
  · intro c
    have hlog : (queuedOf c past).filter (fun other =>
        !(lanes.moved task call f .withdrawn).withdrew other) =
          ((queuedOf c past).filter fun other => !lanes.withdrew other).filter
            fun other => decide (other ≠ task) := by
      rw [filter_filter]
      refine filter_congr fun other _ => ?_
      rw [withdrew_moved]
      by_cases hother : other = task <;> simp [hother]
    rw [queuedOf_concat_none, startedOf_concat_none, hlog, h.order, filter_append, hpend]
    congr 1
    refine filter_eq_self.mpr fun other hmem => ?_
    rw [decide_eq_true_eq]
    rintro rfl
    exact hnotStarted hmem
  · intro c other hmem
    rw [queuedOf_concat_none] at hmem
    rw [calls_moved]
    split
    · exact ⟨_, rfl, by simp, by simp⟩
    · exact h.queued hmem
  · intro c other hmem
    rw [startedOf_concat_none] at hmem
    rw [calls_moved, if_neg]
    · exact h.started hmem
    · rintro rfl
      exact hnotStarted hmem
  · intro c
    rw [queuedOf_concat_none]
    exact h.once c

theorem Ordered.forget (hstage : call.stage = .forgetting)
    (hkeeps : lanes.removes call → ∀ other found, lanes.calls other = some found →
      found.lane = call.lane → found.stage.onLane = false) :
    Ordered (past ++ [(op, none)]) ((lanes.forgetIfIdle call).setCall task
      { call with stage := .done }) := by
  have hcalls : ∀ other, ((lanes.forgetIfIdle call).setCall task
      { call with stage := .done }).calls other =
        if other = task then some { call with stage := .done } else lanes.calls other := by
    intro other
    unfold ControlLanes.forgetIfIdle
    split <;> simp only [setCall, update_apply]
  have hwaits : ((lanes.forgetIfIdle call).setCall task { call with stage := .done }).waits =
      lanes.waits := by
    funext other
    unfold waits
    rw [hcalls]
    split
    · rename_i heq
      rw [heq, hcall]
      simp [hstage]
    · rfl
  refine h.quiet ?_ ?_ ?_ ?_
  · intro c other _
    unfold withdrew
    rw [hcalls]
    split
    · rename_i heq
      rw [heq, hcall]
      simp [hstage]
    · rfl
  · intro c
    by_cases hrem : lanes.removes call ∧ c = call.channel
    · obtain ⟨hrem, rfl⟩ := hrem
      have hgone : ((lanes.forgetIfIdle call).setCall task
          { call with stage := .done }).control.lookup call.channel = none := by
        rw [ControlLanes.forgetIfIdle, if_pos hrem]
        exact AList.lookup_erase call.channel lanes.control
      rw [pending_of_lane hrem.1, pending, hgone]
      refine (filter_eq_nil_iff.mpr fun other hmem => ?_).symm
      obtain ⟨found, hfound, hfoundLane, -⟩ := hsound.line.mp hmem
      have hoff := hkeeps hrem other found hfound hfoundLane
      rw [waits_of_call hfound, decide_eq_true_eq]
      intro hqueue
      rw [hqueue] at hoff
      cases hoff
    · refine pending_congr ?_ fun lane _ => ?_
      · unfold ControlLanes.forgetIfIdle
        split
        · rename_i hyes
          have hc : c ≠ call.channel := fun heq => hrem ⟨hyes, heq⟩
          exact (lookup_erase _ _).trans (if_neg hc)
        · rfl
      · rw [hwaits]
        unfold ControlLanes.forgetIfIdle
        split <;> rfl
  · intro c other hmem
    rw [hcalls]
    split
    · exact ⟨_, rfl, by simp, by simp⟩
    · exact h.queued hmem
  · intro c other hmem
    rw [hcalls]
    split
    · exact ⟨_, rfl, by simp, by simp, by simp⟩
    · exact h.started hmem

omit hcall in
theorem Ordered.took {event : Option (LaneEvent κ τ)} (htook : Took lanes op lanes' event)
    (hkeeps : KeepsFoundLanes lanes op) : Ordered (past ++ [(op, event)]) lanes' := by
  cases htook with
  | idle =>
    refine h.quiet ?_ ?_ h.queued h.started
    · exact fun _ _ _ => rfl
    · exact fun _ => rfl
  | lookup chan kind hnew => exact h.lookup hsound kind hnew
  | pass hcall hgate hpre hafter hlane => exact h.pass hcall hgate hpre hafter hlane
  | acquire hcall hstage => exact h.acquire hsound hcall hstage
  | start hcall hstage hhold => exact h.start hsound hcall hstage hhold
  | leave hcall hstage hgate =>
    have hgate := hgate _ (hsound.held hcall)
    rcases hstage with ⟨hrun, hafter⟩ | ⟨hqueue, rfl⟩
    · exact h.finish hsound hcall hrun hafter hgate
    · exact h.withdraw hsound hcall hqueue hgate
  | forget hcall hstage => exact h.forget hsound hcall hstage (hkeeps _ hcall hstage)

end

end Steps

/-! ## Runs -/

omit [DecidableEq τ] in
theorem ordered_new : Ordered [] (new : ControlLanes κ τ) where
  order _ := rfl
  queued h := by cases h
  started h := by cases h
  once _ := nodup_nil

omit [DecidableEq τ] in
theorem Sound.exclusive (h : lanes.Sound) {chan : κ} {task task' : τ}
    (hruns : lanes.Runs task chan) (hruns' : lanes.Runs task' chan) : task = task' := by
  obtain ⟨_, hcall, rfl, hrun⟩ := hruns
  obtain ⟨_, hcall', hchannel, hrun'⟩ := hruns'
  have hcur := h.current hcall (by rw [hrun]; rfl)
  have hcur' := h.current hcall' (by rw [hrun']; rfl)
  have hheld := h.held hcall hrun
  have hheld' := h.held hcall' hrun'
  rw [hchannel, hcur, some.injEq] at hcur'
  rw [← hcur', hheld, some.injEq] at hheld'
  exact hheld'

/-- In every state of a run that takes no lane out of the table while another transaction is
between its look-up and its release, at most one transaction of a channel is running, and the
transactions that started are, in order, the first of those that joined the channel's line
and were not dropped before their start. -/
theorem enqueue_exclusive_inOrder {ops : List (LaneOp κ τ)}
    (hkeeps : machine.Along KeepsFoundLanes (new : ControlLanes κ τ) ops) :
    let lanes := machine.run (new : ControlLanes κ τ) ops
    let past := machine.trace (new : ControlLanes κ τ) ops
    (∀ channel task task', lanes.Runs task channel → lanes.Runs task' channel → task = task') ∧
      ∀ channel, (queuedOf channel past).Nodup ∧ ∃ later,
        (queuedOf channel past).filter (fun task => !lanes.withdrew task) =
          startedOf channel past ++ later := by
  have hkept : Sound (machine.run (new : ControlLanes κ τ) ops) ∧
      Ordered (machine.trace (new : ControlLanes κ τ) ops) (machine.run new ops) := by
    refine hkeeps.traced (P := fun past lanes => lanes.Sound ∧ Ordered past lanes)
      ⟨sound_new, ordered_new⟩ ?_
    rintro past lanes op ⟨hsound, hord⟩ hstep
    exact ⟨hsound.took (took_next lanes op) hstep, hord.took hsound (took_next lanes op) hstep⟩
  obtain ⟨hsound, hord⟩ := hkept
  exact ⟨fun channel task task' => hsound.exclusive, fun channel =>
    ⟨hord.once channel, _, hord.order channel⟩⟩

/-- One transaction passes its lane from the look-up on. -/
def passage (task : τ) (channel : κ) (kind : ControlKind) : List (LaneOp κ τ) :=
  [.lookup task channel kind, .count task, .acquire task, .start task]

def departure (task : τ) : List (LaneOp κ τ) :=
  [.release task, .discount task, .check task, .forget task]

/-- A second transaction waits for the first, and the last one out takes the lane with it. -/
theorem enqueue_exclusive_inOrder_two :
    let ops : List (LaneOp Nat Bool) := passage false 7 .terminalStream ++
      [.lookup true 7 .terminalKill, .count true, .acquire true] ++ departure false ++
      [.start true] ++ departure true
    machine.Along KeepsFoundLanes new ops ∧
      (queuedOf 7 (machine.trace new ops)).Nodup ∧ ∃ later,
        (queuedOf 7 (machine.trace new ops)).filter
            (fun task => !(machine.run new ops).withdrew task) =
          startedOf 7 (machine.trace new ops) ++ later := by
  intro ops
  have hkeeps : machine.Along KeepsFoundLanes new ops := by decide
  exact ⟨hkeeps, (enqueue_exclusive_inOrder hkeeps).2 7⟩

/-- A transaction ends while another has looked its lane up and not counted itself in. -/
def forgottenLane : List (LaneOp Nat Nat) :=
  passage 1 7 .terminalStream ++ [.release 1, .lookup 2 7 .terminalStream] ++
    [.discount 1, .check 1, .forget 1] ++ [.count 2, .acquire 2, .start 2] ++
    passage 3 7 .terminalKill

/-- The lane is taken from under the second transaction, the third makes another, and both
run. -/
theorem forgottenLane_runs_two :
    let lanes := machine.run new forgottenLane
    lanes.Runs 2 7 ∧ lanes.Runs 3 7 := by
  refine ⟨⟨⟨7, .terminalStream, 0, .running⟩, ?_⟩, ⟨⟨7, .terminalKill, 1, .running⟩, ?_⟩⟩
  · decide
  · decide

end Roost.Worker.ControlLanes
