-- SUMMARY: A gate that lets one task through at a time, in the order they asked.
import Mathlib.Data.List.Nodup

/-!
# Fair gates

A fair gate has one permit. A task that asks while the permit is free takes it; any other
waits, and a permit that comes back goes to the task that has waited longest. The holder and
the waiters together are one line, and every operation is an edit of that line.
-/

namespace Roost

/-- A gate with one permit: who holds it, and who waits for it, oldest first. -/
structure Gate (τ : Type) where
  holder : Option τ
  waiters : List τ

namespace Gate

variable {τ : Type} [DecidableEq τ] (gate : Gate τ) (task : τ)

def idle : Gate τ := ⟨none, []⟩

/-- Ask for the permit: a free one is taken, else the task waits. -/
def acquire : Gate τ :=
  match gate.holder with
  | none => { gate with holder := some task }
  | some _ => { gate with waiters := gate.waiters ++ [task] }

/-- The permit comes back and goes to the task that waited longest. -/
def release : Gate τ := ⟨gate.waiters.head?, gate.waiters.tail⟩

/-- A task gives up its place: the permit, if it had come to it, or its wait. -/
def leave : Gate τ :=
  if gate.holder = some task then gate.release
  else { gate with waiters := gate.waiters.erase task }

/-- Everyone at the gate, in the order they pass it. -/
def line : List τ := gate.holder.toList ++ gate.waiters

/-- No task waits at a free gate, and no task stands in line twice. -/
structure Fair : Prop where
  free : gate.holder = none → gate.waiters = []
  once : gate.line.Nodup

variable {gate task}

omit [DecidableEq τ] in
@[simp] theorem line_idle : (idle : Gate τ).line = [] := rfl

omit [DecidableEq τ] in
theorem fair_idle : (idle : Gate τ).Fair := ⟨fun _ => rfl, List.nodup_nil⟩

omit [DecidableEq τ] in
theorem line_of_holder (h : gate.holder = some task) : gate.line = task :: gate.waiters := by
  rw [line, h]
  rfl

omit [DecidableEq τ] in
theorem line_acquire (h : gate.Fair) : (gate.acquire task).line = gate.line ++ [task] := by
  unfold acquire line
  cases hhold : gate.holder with
  | none => simp [h.free hhold]
  | some => simp

omit [DecidableEq τ] in
@[simp] theorem line_release : gate.release.line = gate.waiters := by
  unfold release line
  cases gate.waiters with
  | nil | cons => rfl

theorem line_leave : (gate.leave task).line = gate.line.erase task := by
  unfold leave
  split
  · rename_i hhold
    rw [line_release, line_of_holder hhold, List.erase_cons_head]
  rename_i hhold
  unfold line
  cases hsome : gate.holder with
  | none => simp
  | some holder =>
    have hne : holder ≠ task := fun heq => hhold (heq ▸ hsome)
    simp [hne]

omit [DecidableEq τ] in
theorem Fair.acquire (h : gate.Fair) (hnew : task ∉ gate.line) : (gate.acquire task).Fair := by
  refine ⟨fun hfree => ?_, ?_⟩
  · unfold Gate.acquire at hfree
    cases hhold : gate.holder with
    | none | some => simp [hhold] at hfree
  rw [line_acquire h]
  exact List.nodup_append.mpr ⟨h.once, List.nodup_singleton task, by
    intro other hother _ hmem heq
    rw [List.mem_singleton] at hmem
    exact hnew (hmem ▸ heq ▸ hother)⟩

omit [DecidableEq τ] in
theorem Fair.release (h : gate.Fair) : gate.release.Fair := by
  refine ⟨fun hfree => ?_, ?_⟩
  · unfold Gate.release at hfree ⊢
    cases hwait : gate.waiters with
    | nil => rfl
    | cons => simp [hwait] at hfree
  · rw [line_release]
    exact (List.nodup_append.mp h.once).2.1

theorem Fair.leave (h : gate.Fair) : (gate.leave task).Fair := by
  refine ⟨fun hfree => ?_, ?_⟩
  · unfold Gate.leave at hfree ⊢
    split
    · rename_i hhold
      rw [if_pos hhold] at hfree
      exact h.release.free hfree
    · rename_i hhold
      rw [if_neg hhold] at hfree
      simp [h.free hfree]
  · rw [line_leave]
    exact h.once.erase task

end Gate

end Roost
