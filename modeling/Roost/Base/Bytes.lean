-- SUMMARY: Byte slices and fixed-width big-endian numbers, with their round trips.
import Mathlib.Data.List.Induction
import Mathlib.Tactic.Ring

/-!
# Byte strings

`slice? xs lo hi` is a bounds-checked slice. `beBytes w n` writes the low `w` bytes of `n`, most significant first, and
`fromBe` reads a byte string of any length. Reading is exact on what writing
produced below `256 ^ w`, and writing is exact on every byte string of length `w`.
-/

namespace Roost

/-! ## Slices -/

def slice? {α : Type} (xs : List α) (lo hi : Nat) : Option (List α) :=
  if lo ≤ hi ∧ hi ≤ xs.length then some ((xs.take hi).drop lo) else none

variable {α : Type} {xs part : List α} {lo w n : Nat}

theorem slice?_eq_some {hi : Nat} : slice? xs lo hi = some part ↔
      lo ≤ hi ∧ hi ≤ xs.length ∧ (xs.drop lo).take (hi - lo) = part := by
  simp [slice?, List.drop_take, and_assoc]

theorem slice?_width :
    slice? xs lo (lo + w) = some part ↔ part.length = w ∧ lo ≤ xs.length ∧ part <+: xs.drop lo := by
  rw [slice?_eq_some, Nat.add_sub_cancel_left]
  constructor
  · rintro ⟨-, hhi, rfl⟩
    exact ⟨by simp; omega, by omega, List.take_prefix _ _⟩
  rintro ⟨rfl, hlo, hpre⟩
  have hlen := hpre.length_le
  rw [List.length_drop] at hlen
  exact ⟨by omega, by omega, (List.prefix_iff_eq_take.mp hpre).symm⟩

theorem append_prefix_drop {a b : List α} :
    a ++ b <+: xs.drop lo ↔ a <+: xs.drop lo ∧ b <+: xs.drop (lo + a.length) := by
  rw [← List.drop_drop]
  constructor
  · rintro ⟨t, ht⟩
    rw [← ht, List.append_assoc, List.drop_left]
    exact ⟨List.prefix_append _ _, List.prefix_append _ _⟩
  rintro ⟨⟨t, ht⟩, hb⟩
  rw [← ht, List.drop_left] at hb
  rw [← ht]
  exact (List.prefix_append_right_inj a).mpr hb

theorem getElem?_eq_some_iff_prefix {x : α} : xs[lo]? = some x ↔ [x] <+: xs.drop lo := by
  rw [← List.head?_drop]
  cases xs.drop lo with
  | nil => simp
  | cons => simp [eq_comm]

/-! ## Big-endian numbers -/

/-- The `w` big-endian bytes of `n`; what does not fit is dropped. -/
def beBytes : Nat → Nat → List UInt8
  | 0, _ => []
  | w + 1, n => beBytes w (n / 256) ++ [UInt8.ofNat (n % 256)]

variable (bytes : List UInt8)

/-- The number a big-endian byte string stands for. -/
def fromBe : Nat :=
  bytes.foldl (fun n b => n * 256 + b.toNat) 0

@[simp] theorem beBytes_length (w n : Nat) : (beBytes w n).length = w := by
  induction w generalizing n with
  | zero => rfl
  | succ w ih => simp [beBytes, ih]

@[simp] theorem fromBe_nil : fromBe [] = 0 := rfl

theorem fromBe_concat (b : UInt8) : fromBe (bytes ++ [b]) = fromBe bytes * 256 + b.toNat := by
  simp [fromBe, List.foldl_append]

theorem fromBe_lt : fromBe bytes < 256 ^ bytes.length := by
  induction bytes using List.reverseRecOn with
  | nil => simp
  | append_singleton bytes b ih =>
    have hb : b.toNat < 256 := b.toNat_lt
    rw [fromBe_concat, List.length_append, List.length_singleton, pow_succ]
    omega

theorem fromBe_beBytes (h : n < 256 ^ w) : fromBe (beBytes w n) = n := by
  induction w generalizing n with
  | zero =>
    have : n = 0 := by simpa using h
    simp [beBytes, this]
  | succ w ih =>
    have hdiv : n / 256 < 256 ^ w := Nat.div_lt_of_lt_mul (by rw [pow_succ'] at h; exact h)
    have hbyte : (UInt8.ofNat (n % 256)).toNat = n % 256 :=
      UInt8.toNat_ofNat_of_lt' (Nat.mod_lt n (by decide))
    rw [beBytes, fromBe_concat, ih hdiv, hbyte]
    omega

theorem beBytes_fromBe : beBytes bytes.length (fromBe bytes) = bytes := by
  induction bytes using List.reverseRecOn with
  | nil => rfl
  | append_singleton bytes b ih =>
    have hb : b.toNat < 256 := b.toNat_lt
    have hdiv : (fromBe bytes * 256 + b.toNat) / 256 = fromBe bytes := by omega
    have hmod : (fromBe bytes * 256 + b.toNat) % 256 = b.toNat := by omega
    rw [List.length_append, List.length_singleton, beBytes, fromBe_concat, hdiv, hmod, ih,
      UInt8.ofNat_toNat]

/-- Read a big-endian number of `w` bytes at an offset, if it is all there. -/
def readBe? (w : Nat) (bytes : List UInt8) (lo : Nat) : Option Nat :=
  (slice? bytes lo (lo + w)).map fromBe

theorem readBe?_eq_some (hw : 0 < w) {bytes : List UInt8} :
    readBe? w bytes lo = some n ↔ n < 256 ^ w ∧ beBytes w n <+: bytes.drop lo := by
  simp only [readBe?, Option.map_eq_some_iff, slice?_width]
  constructor
  · rintro ⟨part, ⟨rfl, -, hpre⟩, rfl⟩
    exact ⟨fromBe_lt part, by rwa [beBytes_fromBe]⟩
  rintro ⟨hlt, hpre⟩
  have hlen := hpre.length_le
  rw [beBytes_length, List.length_drop] at hlen
  exact ⟨beBytes w n, ⟨beBytes_length w n, by omega, hpre⟩, fromBe_beBytes hlt⟩

/-! ## Little-endian numbers -/

/-- The `w` little-endian bytes of `n`; what does not fit is dropped. -/
def leBytes (w n : Nat) : List UInt8 := (beBytes w n).reverse

/-- The number a little-endian byte string stands for. -/
def fromLe : Nat := fromBe bytes.reverse

@[simp] theorem leBytes_length (w n : Nat) : (leBytes w n).length = w := by
  simp [leBytes]

theorem fromLe_leBytes (h : n < 256 ^ w) : fromLe (leBytes w n) = n := by
  rw [fromLe, leBytes, List.reverse_reverse, fromBe_beBytes h]

end Roost
