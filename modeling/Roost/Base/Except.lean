-- SUMMARY: Inversion rules for checks in `Except` or `Option` that succeed.
import Mathlib.Data.List.Forall2

/-!
# Checks that succeed

A validator is a chain of guards and sub-validators in `Except`. The rules below
read a successful chain backwards, one link at a time, so that a caller never
unfolds the monad.
-/

namespace Except

variable {ε α β : Type}

variable {x : Except ε α} {a : α} {xs ys : List α} {f : α → Except ε β}

@[simp] theorem bind_eq_ok {b : β} :
    x >>= f = .ok b ↔ ∃ a, x = .ok a ∧ f a = .ok b := by
  cases x with
  | error | ok => simp [bind, Except.bind]

@[simp] theorem ite_error_eq_ok {c : Prop} [Decidable c] {e : ε} :
    (if c then .error e else x) = .ok a ↔ ¬c ∧ x = .ok a := by
  by_cases h : c <;> simp [h]

@[simp] theorem mapError_eq_ok {δ : Type} {f : ε → δ} : x.mapError f = .ok a ↔ x = .ok a := by
  cases x <;> simp [Except.mapError]

theorem toOption_eq_some : x.toOption = some a ↔ x = .ok a := by
  cases x <;> simp [Except.toOption]

/-- A missing value is the given error. -/
def okOr (o : Option α) (e : ε) : Except ε α :=
  match o with
  | none => .error e
  | some a => .ok a

@[simp] theorem okOr_eq_ok {o : Option α} {e : ε} : okOr o e = .ok a ↔ o = some a := by
  cases o <;> simp [okOr]

theorem mapM_eq_ok {ys : List β} :
    xs.mapM f = .ok ys ↔ List.Forall₂ (fun x y => f x = .ok y) xs ys := by
  induction xs generalizing ys with
  | nil =>
    simp only [List.mapM_nil, List.forall₂_nil_left_iff]
    exact ⟨fun h => (Except.ok.inj h).symm, fun h => by rw [h]; rfl⟩
  | cons x xs ih =>
    simp only [List.mapM_cons, bind_eq_ok, List.forall₂_cons_left_iff]
    constructor
    · rintro ⟨y, hy, ys', hys', h⟩
      exact ⟨y, ys', hy, ih.mp hys', (Except.ok.inj h).symm⟩
    · rintro ⟨y, ys', hy, hys', rfl⟩
      exact ⟨y, hy, ys', ih.mpr hys', rfl⟩

theorem mapM_accepts (h : ∀ x ∈ xs, ∃ y, f x = .ok y) :
    ∃ ys, xs.mapM f = .ok ys := by
  induction xs with
  | nil => exact ⟨[], rfl⟩
  | cons x xs ih =>
    obtain ⟨y, hy⟩ := h x List.mem_cons_self
    obtain ⟨ys, hys⟩ := ih fun x' hmem => h x' (List.mem_cons_of_mem _ hmem)
    refine ⟨y :: ys, ?_⟩
    exact mapM_eq_ok.mpr (.cons hy (mapM_eq_ok.mp hys))

theorem forM_eq_ok {f : α → Except ε Unit} : xs.forM f = .ok () ↔ ∀ x ∈ xs, f x = .ok () := by
  induction xs with
  | nil => simp [pure, Except.pure]
  | cons x xs ih =>
    rw [List.forall_mem_cons, ← ih]
    show (f x >>= fun _ => xs.forM f) = .ok () ↔ _
    rw [bind_eq_ok]
    exact ⟨fun ⟨_, hx, hxs⟩ => ⟨hx, hxs⟩, fun ⟨hx, hxs⟩ => ⟨(), hx, hxs⟩⟩

theorem mapM_zipIdx_eq_ok {f : α × Nat → Except ε α} {P : α → Prop}
    (hf : ∀ x i y, f (x, i) = .ok y ↔ P x ∧ y = x) :
    xs.zipIdx.mapM f = .ok ys ↔ (∀ x ∈ xs, P x) ∧ ys = xs := by
  rw [mapM_eq_ok]
  generalize 0 = start
  induction xs generalizing ys start with
  | nil => simp
  | cons x xs ih =>
    rw [List.zipIdx_cons, List.forall₂_cons_left_iff, List.forall_mem_cons]
    constructor
    · rintro ⟨y, ys', hy, hys', rfl⟩
      obtain ⟨hx, rfl⟩ := (hf x start y).mp hy
      obtain ⟨hxs, rfl⟩ := (ih (start + 1)).mp hys'
      exact ⟨⟨hx, hxs⟩, rfl⟩
    · rintro ⟨⟨hx, hxs⟩, rfl⟩
      exact ⟨x, xs, (hf x start x).mpr ⟨hx, rfl⟩, (ih (start + 1)).mpr ⟨hxs, rfl⟩, rfl⟩

theorem forM_zipIdx_eq_ok {f : α × Nat → Except ε Unit} {P : α → Prop}
    (hf : ∀ x i, f (x, i) = .ok () ↔ P x) : xs.zipIdx.forM f = .ok () ↔ ∀ x ∈ xs, P x := by
  rw [forM_eq_ok]
  constructor
  · intro h x hmem
    obtain ⟨i, hi⟩ := List.mem_iff_getElem?.mp hmem
    exact (hf x i).mp (h (x, i) (List.mem_zipIdx_iff_getElem?.mpr hi))
  · rintro h ⟨x, i⟩ hmem
    exact (hf x i).mpr (h x (List.mem_of_getElem? (List.mem_zipIdx_iff_getElem?.mp hmem)))

/-! ## Loops that check while they accumulate -/

variable {σ : Type} {f : σ → α → Except ε σ} {R : List α → σ → Prop}

private theorem foldlM_keeps_from
    (step : ∀ xs s x s', R xs s → f s x = .ok s' → R (xs ++ [x]) s') {s out : σ} (start : R xs s) (h : ys.foldlM f s = .ok out) :
    R (xs ++ ys) out := by
  induction ys generalizing xs s with
  | nil =>
    cases h
    simpa using start
  | cons y ys ih =>
    rw [List.foldlM_cons, bind_eq_ok] at h
    obtain ⟨next, hnext, hrest⟩ := h
    rw [List.append_cons]
    exact ih (step xs s y next start hnext) hrest

theorem foldlM_keeps
    (step : ∀ xs s x s', R xs s → f s x = .ok s' → R (xs ++ [x]) s') {s out : σ} (start : R [] s) (h : ys.foldlM f s = .ok out) : R ys out :=
  foldlM_keeps_from step start h

private theorem foldlM_accepts_from {Q : List α → Prop}
    (step : ∀ xs s x s', R xs s → f s x = .ok s' → R (xs ++ [x]) s')
    (accept : ∀ xs s x, R xs s → Q (xs ++ [x]) → ∃ s', f s x = .ok s')
    (closed : ∀ xs ys, Q (xs ++ ys) → Q xs) {s : σ} (start : R xs s) (hQ : Q (xs ++ ys)) :
    ∃ out, ys.foldlM f s = .ok out := by
  induction ys generalizing xs s with
  | nil => exact ⟨s, rfl⟩
  | cons y ys ih =>
    rw [List.append_cons] at hQ
    obtain ⟨next, hnext⟩ := accept xs s y start (closed _ _ hQ)
    obtain ⟨out, hout⟩ := ih (step xs s y next start hnext) hQ
    refine ⟨out, ?_⟩
    rw [List.foldlM_cons, bind_eq_ok]
    exact ⟨next, hnext, hout⟩

theorem foldlM_accepts {Q : List α → Prop}
    (step : ∀ xs s x s', R xs s → f s x = .ok s' → R (xs ++ [x]) s')
    (accept : ∀ xs s x, R xs s → Q (xs ++ [x]) → ∃ s', f s x = .ok s')
    (closed : ∀ xs ys, Q (xs ++ ys) → Q xs) {s : σ} (start : R [] s) (hQ : Q ys) : ∃ out, ys.foldlM f s = .ok out :=
  foldlM_accepts_from step accept closed start hQ

end Except

namespace Option

variable {α β : Type}

theorem mapM_eq_some {f : α → Option β} {xs : List α} {ys : List β} :
    xs.mapM f = some ys ↔ List.Forall₂ (fun x y => f x = some y) xs ys := by
  induction xs generalizing ys with
  | nil =>
    simp only [List.mapM_nil, List.forall₂_nil_left_iff]
    exact ⟨fun h => (Option.some.inj h).symm, fun h => by rw [h]; rfl⟩
  | cons x xs ih =>
    simp only [List.mapM_cons, List.forall₂_cons_left_iff]
    constructor
    · intro h
      obtain ⟨y, hy, h⟩ := Option.bind_eq_some_iff.mp h
      obtain ⟨ys', hys', h⟩ := Option.bind_eq_some_iff.mp h
      exact ⟨y, ys', hy, ih.mp hys', (Option.some.inj h).symm⟩
    · rintro ⟨y, ys', hy, hys', rfl⟩
      refine Option.bind_eq_some_iff.mpr ⟨y, hy, ?_⟩
      exact Option.bind_eq_some_iff.mpr ⟨ys', ih.mpr hys', rfl⟩

end Option
