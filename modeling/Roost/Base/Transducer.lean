-- SUMMARY: Deterministic machines that answer each operation, and their run rules.
import Mathlib.Algebra.Ring.Nat
import Mathlib.Data.List.Induction

/-!
# Transducers

A transducer answers every operation and moves its state. A run feeds it a list
of operations. The rules of this file turn a fact about one step into a fact
about every run: plainly, for the runs whose steps all meet a condition, and for
invariants that also mention the operations already taken.
-/

namespace Roost

/-- A machine over states `σ` that answers operations `ω` with `ρ`. -/
structure Transducer (σ ω ρ : Type) where
  step : σ → ω → σ × ρ

namespace Transducer

variable {σ ω ρ : Type} (T : Transducer σ ω ρ)

/-- The state one operation leaves behind. -/
def next (s : σ) (o : ω) : σ := (T.step s o).1

/-- The answer one operation is given. -/
def answer (s : σ) (o : ω) : ρ := (T.step s o).2

/-- The state a list of operations leaves behind. -/
def run (s : σ) (ops : List ω) : σ := ops.foldl T.next s

def answers : σ → List ω → List ρ
  | _, [] => []
  | s, o :: ops => T.answer s o :: answers (T.next s o) ops

/-- The operations of a run, each with the answer it was given. -/
def trace : σ → List ω → List (ω × ρ)
  | _, [] => []
  | s, o :: ops => (o, T.answer s o) :: trace (T.next s o) ops

variable (s : σ)

@[simp] theorem run_nil : T.run s [] = s := rfl

@[simp] theorem run_cons (o : ω) (ops : List ω) : T.run s (o :: ops) = T.run (T.next s o) ops := rfl

theorem run_append (ops ops' : List ω) : T.run s (ops ++ ops') = T.run (T.run s ops) ops' := by
  simp [run, List.foldl_append]

@[simp] theorem run_concat (ops : List ω) (o : ω) :
    T.run s (ops ++ [o]) = T.next (T.run s ops) o := by
  simp [run_append]

@[simp] theorem answers_nil : T.answers s [] = [] := rfl

@[simp] theorem answers_cons (o : ω) (ops : List ω) :
    T.answers s (o :: ops) = T.answer s o :: T.answers (T.next s o) ops := rfl

theorem answers_append (ops ops' : List ω) :
    T.answers s (ops ++ ops') = T.answers s ops ++ T.answers (T.run s ops) ops' := by
  induction ops generalizing s with
  | nil => rfl
  | cons o ops ih => simp [ih]

@[simp] theorem answers_concat (ops : List ω) (o : ω) :
    T.answers s (ops ++ [o]) = T.answers s ops ++ [T.answer (T.run s ops) o] := by
  simp [answers_append]

theorem trace_append (ops ops' : List ω) :
    T.trace s (ops ++ ops') = T.trace s ops ++ T.trace (T.run s ops) ops' := by
  induction ops generalizing s with
  | nil => rfl
  | cons o ops ih => simp [trace, ih]

@[simp] theorem trace_concat (ops : List ω) (o : ω) :
    T.trace s (ops ++ [o]) = T.trace s ops ++ [(o, T.answer (T.run s ops) o)] := by
  simp [trace_append, trace]

/-- Every operation of the run meets `C` in the state it finds. -/
def Along (C : σ → ω → Prop) : σ → List ω → Prop
  | _, [] => True
  | s, o :: ops => C s o ∧ Along C (T.next s o) ops

instance decidableAlong (C : σ → ω → Prop) [∀ s o, Decidable (C s o)] :
    ∀ s ops, Decidable (T.Along C s ops)
  | _, [] => .isTrue trivial
  | s, o :: ops =>
    haveI := decidableAlong C (T.next s o) ops
    inferInstanceAs (Decidable (C s o ∧ T.Along C (T.next s o) ops))

variable {T}

variable {C : σ → ω → Prop} {s : σ} {ops : List ω} {P : σ → Prop}

theorem along_append {ops' : List ω} :
    T.Along C s (ops ++ ops') ↔ T.Along C s ops ∧ T.Along C (T.run s ops) ops' := by
  induction ops generalizing s with
  | nil => simp [Along]
  | cons o ops ih => simp [Along, ih, and_assoc]

theorem along_concat {o : ω} : T.Along C s (ops ++ [o]) ↔ T.Along C s ops ∧ C (T.run s ops) o := by
  simp [along_append, Along]

theorem Along.history {P : List ω → σ → Prop} (start : P [] s)
    (keep : ∀ ops t o, P ops t → C t o → P (ops ++ [o]) (T.next t o)) (h : T.Along C s ops) : P ops (T.run s ops) := by
  -- Induction from the right: the last step extends the history the rule is about.
  induction ops using List.reverseRecOn with
  | nil => exact start
  | append_singleton ops o ih =>
    rw [along_concat] at h
    rw [run_concat]
    exact keep ops _ o (ih h.1) h.2

/-- What a step keeps of state and trace, a run keeps. -/
theorem Along.traced {P : List (ω × ρ) → σ → Prop} (start : P [] s)
    (keep : ∀ past t o, P past t → C t o → P (past ++ [(o, T.answer t o)]) (T.next t o)) (h : T.Along C s ops) : P (T.trace s ops) (T.run s ops) := by
  induction ops using List.reverseRecOn with
  | nil => exact start
  | append_singleton ops o ih =>
    rw [along_concat] at h
    rw [run_concat, trace_concat]
    exact keep _ _ o (ih h.1) h.2

theorem Along.invariant (start : P s)
    (keep : ∀ t o, P t → C t o → P (T.next t o)) (h : T.Along C s ops) : P (T.run s ops) :=
  h.history (P := fun _ => P) start fun _ t o => keep t o

theorem Along.strengthen {D : σ → ω → Prop} (start : P s)
    (keep : ∀ t o, P t → C t o → P (T.next t o)) (imp : ∀ t o, P t → C t o → D t o) (h : T.Along C s ops) : T.Along D s ops := by
  induction ops generalizing s with
  | nil => trivial
  | cons o ops ih => exact ⟨imp s o start h.1, ih (keep s o start h.1) h.2⟩

theorem along_true (s : σ) (ops : List ω) : T.Along (fun _ _ => True) s ops := by
  induction ops generalizing s with
  | nil => trivial
  | cons o ops ih => exact ⟨trivial, ih _⟩

theorem history {P : List ω → σ → Prop} (start : P [] s)
    (keep : ∀ ops t o, P ops t → P (ops ++ [o]) (T.next t o)) (ops : List ω) :
    P ops (T.run s ops) :=
  (along_true s ops).history start fun ops t o h _ => keep ops t o h

theorem answered {P : List ρ → σ → Prop} (start : P [] s)
    (keep : ∀ past t o, P past t → P (past ++ [T.answer t o]) (T.next t o)) (ops : List ω) :
    P (T.answers s ops) (T.run s ops) := by
  induction ops using List.reverseRecOn with
  | nil => exact start
  | append_singleton ops o ih =>
    rw [run_concat, answers_concat]
    exact keep _ _ o ih

theorem invariant (start : P s)
    (keep : ∀ t o, P t → P (T.next t o)) (ops : List ω) : P (T.run s ops) :=
  (along_true s ops).invariant start fun t o h _ => keep t o h

/-! ## Simulation -/

section Simulation

variable {τ : Type} {U : Transducer τ ω ρ} {R : σ → τ → Prop}
  (keep : ∀ s t o, R s t → T.answer s o = U.answer t o ∧ R (T.next s o) (U.next t o))
include keep

/-- A simulated step gives a simulated run. -/
theorem run_of_simulation {s : σ} {t : τ} (start : R s t) (ops : List ω) :
    R (T.run s ops) (U.run t ops) := by
  induction ops generalizing s t with
  | nil => exact start
  | cons o ops ih => exact ih (keep s t o start).2

theorem answers_of_simulation {s : σ} {t : τ} (start : R s t) (ops : List ω) :
    T.answers s ops = U.answers t ops := by
  induction ops generalizing s t with
  | nil => rfl
  | cons o ops ih =>
    rw [answers_cons, answers_cons, (keep s t o start).1, ih (keep s t o start).2]

end Simulation

end Transducer
end Roost
