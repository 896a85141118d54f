-- SUMMARY: Logs in which every entry is backed by the entries before it.
import Mathlib.Data.List.Basic

/-!
# Backed logs

What may be written to a log often depends on what was written before. A log is backed when each
of its entries was allowed by the entries before it; writing at the end keeps what was backed.
-/

namespace Roost

variable {α : Type}

/-- Every entry of a log is allowed by the entries before it. -/
def Backed (P : List α → α → Prop) (log : List α) : Prop :=
  ∀ ⦃before entry after⦄, log = before ++ entry :: after → P before entry

namespace Backed

variable {P Q : List α → α → Prop} {log more : List α} {entry : α}

theorem nil : Backed P [] := by
  intro before entry after h
  cases before <;> cases h

theorem append (h : Backed P log) (hmore : Backed (fun before => P (log ++ before)) more) :
    Backed P (log ++ more) := by
  intro before found after heq
  rcases List.append_eq_append_iff.mp heq with ⟨early, rfl, hlater⟩ | ⟨left, hlog, hleft⟩
  · exact hmore hlater
  cases left with
  | nil =>
    rw [List.append_nil] at hlog
    rw [← hlog]
    have hfirst : P (log ++ []) found := hmore hleft.symm
    rwa [List.append_nil] at hfirst
  | cons =>
    injection hleft with heq hrest
    subst heq
    exact h hlog

theorem of_forall (h : ∀ entry ∈ log, ∀ before, P before entry) : Backed P log := by
  intro before entry after heq
  exact h entry (heq ▸ List.mem_append_right _ List.mem_cons_self) before

end Backed

end Roost
