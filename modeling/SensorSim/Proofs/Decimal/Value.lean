import Mathlib
import SensorSim.Proofs.Decimal.Range

/-!
# The values of floating-point numbers

A finite number stands for a rational one. Finite numbers are ordered by these (`le_iff`), and the
nearest integer is found from them (`nearestInt32_mem_iff`).
-/

namespace SensorSim.Decimal

open Float.Model (UnpackedFloat)
open Float.Model.UnpackedFloat (Sign)

/-! ## Signs -/

/-- A rational number with a sign before it. -/
def signed (s : Sign) (v : ℚ) : ℚ :=
  (s.apply 1 : ℤ) * v

/-- A positive sign changes nothing. -/
@[simp] lemma signed_positive (v : ℚ) : signed .positive v = v := by
  simp [signed, Sign.apply]

/-- A negative sign negates. -/
@[simp] lemma signed_negative (v : ℚ) : signed .negative v = -v := by
  simp [signed, Sign.apply]

/-- The sign of what is negative negates, and the other one changes nothing. -/
lemma signed_signOf (negative : Bool) (v : ℚ) : signed (signOf negative) v = if negative then -v else v := by
  cases negative <;> simp [signOf]

/-- A sign leaves the absolute value as it is. -/
lemma abs_signed (s : Sign) (v : ℚ) : |signed s v| = |v| := by
  cases s <;> simp

/-- Signs multiply with the numbers that bear them. -/
lemma signed_mul (s₁ s₂ : Sign) (v₁ v₂ : ℚ) : signed (s₁ * s₂) (v₁ * v₂) = signed s₁ v₁ * signed s₂ v₂ := by
  have units : (s₁ * s₂).apply 1 = s₁.apply 1 * s₂.apply 1 := by
    cases s₁ <;> cases s₂ <;> rfl
  simp only [signed, units]
  push_cast
  ring

/-- Signs divide with the numbers that bear them. -/
lemma signed_div (s₁ s₂ : Sign) (v₁ v₂ : ℚ) : signed (s₁ / s₂) (v₁ / v₂) = signed s₁ v₁ / signed s₂ v₂ := by
  cases s₁ <;> cases s₂
  · exact (signed_positive _).trans (by simp)
  · exact (signed_negative _).trans (by simp [neg_div])
  · exact (signed_negative _).trans (by simp [div_neg])
  · exact (signed_positive _).trans (by simp)

/-- The opposite sign gives the opposite number. -/
lemma signed_neg (s : Sign) (v : ℚ) : signed (-s) v = -signed s v := by
  cases s
  · exact (signed_positive _).trans (by simp)
  · exact (signed_negative _).trans (by simp)

/-! ## Values -/

/-- The rational number that a finite number stands for. A number that is not finite gives zero. -/
def toRat (x : Float) : ℚ :=
  match parts x with
  | .finite negative m e => if negative then -(m * 2 ^ e) else m * 2 ^ e
  | _ => 0

/-- The value of a number without a negative sign, by its parts. -/
lemma toRat_of_parts {x : Float} {m : ℕ} {e : ℤ} (given : parts x = .finite false m e) : toRat x = m * 2 ^ e := by
  simp [toRat, given]

/-- A zero is unpacked as zero. -/
lemma unpack_zero (s : Sign) : (zero s).toModel.unpack = .zero s := by
  cases s <;> rfl

/-- An infinity is unpacked as infinity. -/
lemma unpack_infinite (s : Sign) : (infinite s).toModel.unpack = .infinity s := by
  cases s <;> rfl

/-- A number is finite when what its bits stand for is. -/
lemma isFinite_eq (x : Float) : x.isFinite = x.toModel.unpack.isFinite :=
  rfl

/-- Zeros are finite. -/
lemma isFinite_zero (s : Sign) : (zero s).isFinite := by
  rw [isFinite_eq, unpack_zero]
  rfl

/-- Infinities are not finite. -/
lemma not_isFinite_infinite (s : Sign) : (infinite s).isFinite = false := by
  rw [isFinite_eq, unpack_infinite]
  rfl

/-- What is not a number is not finite. -/
lemma not_isFinite_notANumber : (Float.ofModel (.pack .notANumber)).isFinite = false := by
  decide +kernel

/-- The parts of a zero are those of the bottom of the range, with no mantissa. -/
lemma parts_zero (negative : Bool) : parts (zero (signOf negative)) = .finite negative 0 (-1074) := by
  cases negative <;> rfl

/-- Both zeros have the value zero. -/
@[simp] lemma toRat_zero (s : Sign) : toRat (zero s) = 0 := by
  cases s <;> simp [toRat, show parts (zero .negative) = _ from parts_zero true,
    show parts (zero .positive) = _ from parts_zero false]

/-- The sign tells whether a number is negative. -/
lemma signOf_injective : Function.Injective signOf := by
  intro a b h
  cases a <;> cases b <;> first | rfl | cases h

/-- The parts of a floating-point number are those of the number that it was made of. -/
lemma Binary.parts_toFloat (b : Binary) (negative : Bool) :
    parts (b.toFloat (signOf negative)) = .finite negative b.mantissa b.exponent := by
  obtain ⟨negative', h | ⟨b', given, same⟩⟩ := exists_of_isFinite (b.isFinite_toFloat (signOf negative))
  · have unpacked := b.unpack_toFloat (signOf negative)
    rw [h.2, unpack_zero] at unpacked
    cases unpacked
  · have unpacked := b.unpack_toFloat (signOf negative)
    rw [same, unpack_toFloat, Binary.unpacked, Binary.unpacked, UnpackedFloat.finite.injEq] at unpacked
    obtain ⟨sign, mantissa, exponent⟩ := unpacked
    rw [given, signOf_injective sign, mantissa, exponent]

/-- Every sign is that of what is negative or not. -/
lemma exists_signOf (s : Sign) : ∃ negative, s = signOf negative := by
  cases s
  · exact ⟨true, rfl⟩
  · exact ⟨false, rfl⟩

/-- A floating-point number has the value of the number that it was made of, with the sign. -/
@[simp] lemma Binary.toRat_toFloat (b : Binary) (s : Sign) : toRat (b.toFloat s) = signed s b.value := by
  obtain ⟨negative, rfl⟩ := exists_signOf s
  rw [toRat, b.parts_toFloat, signed_signOf]
  rfl

/-- A finite number is a zero or a number of the format with a sign. -/
lemma cases_of_isFinite {x : Float} (finite : x.isFinite) :
    (∃ s, x = zero s) ∨ ∃ (b : Binary) (s : Sign), x = b.toFloat s := by
  obtain ⟨negative, ⟨-, rfl⟩ | ⟨b, -, rfl⟩⟩ := exists_of_isFinite finite
  · exact .inl ⟨_, rfl⟩
  · exact .inr ⟨b, _, rfl⟩

/-- The numbers of the format are positive. -/
lemma Binary.value_pos (b : Binary) : 0 < b.value :=
  mul_pos (by exact_mod_cast b.pos) (zpow_pos two_pos _)

/-- The absolute value of a finite number is zero or a number of the format. -/
lemma abs_toRat {x : Float} (finite : x.isFinite) : |toRat x| = 0 ∨ ∃ b : Binary, |toRat x| = b.value := by
  rcases cases_of_isFinite finite with ⟨s, rfl⟩ | ⟨b, s, rfl⟩
  · exact .inl (by simp)
  · exact .inr ⟨b, by rw [b.toRat_toFloat, abs_signed, abs_of_pos b.value_pos]⟩

/-- For every finite number there is one of the opposite value. -/
lemma exists_toRat_eq_neg {x : Float} (finite : x.isFinite) : ∃ t : Float, t.isFinite ∧ toRat t = -toRat x := by
  rcases cases_of_isFinite finite with ⟨s, rfl⟩ | ⟨b, s, rfl⟩
  · exact ⟨zero s, isFinite_zero s, by simp⟩
  · exact ⟨b.toFloat (-s), b.isFinite_toFloat _, by rw [b.toRat_toFloat, b.toRat_toFloat, signed_neg]⟩

/-- No number of the format is below the smallest one. -/
lemma Binary.two_mul_underflow_le_value (b : Binary) : 2 * underflow ≤ b.value := by
  have one : (1 : ℚ) ≤ b.mantissa := by exact_mod_cast b.pos
  calc 2 * underflow = 2 ^ (-1074 : ℤ) := (zpow_one_add₀ two_ne_zero (-1075)).symm
    _ ≤ 2 ^ b.exponent := zpow_le_zpow_right₀ one_le_two b.least
    _ ≤ b.value := le_mul_of_one_le_left (zpow_pos two_pos _).le one

/-- No number of the format comes up to the overflow. -/
lemma Binary.value_lt_overflow (b : Binary) : b.value < overflow := by
  have last : (b.mantissa : ℚ) + 1 ≤ 2 ^ 53 := by exact_mod_cast b.lt
  have double : (2 : ℚ) ^ (971 : ℤ) = 2 * 2 ^ (970 : ℤ) := by
    rw [← zpow_one_add₀ two_ne_zero]
    norm_num
  calc b.value ≤ (2 ^ 53 - 1) * 2 ^ (971 : ℤ) :=
        mul_le_mul (by linarith) (zpow_le_zpow_right₀ one_le_two b.greatest) (zpow_pos two_pos _).le (by norm_num)
    _ = (2 ^ 54 - 2) * 2 ^ (970 : ℤ) := by
      rw [double]
      ring
    _ < overflow := mul_lt_mul_of_pos_right (by norm_num) (zpow_pos two_pos _)

/-- A positive number is at least the smallest one. -/
lemma two_mul_underflow_le {x : Float} (finite : x.isFinite) (pos : 0 < toRat x) : 2 * Binary.underflow ≤ toRat x := by
  rcases abs_toRat finite with none | ⟨b, same⟩
  · exact absurd (abs_eq_zero.1 none) pos.ne'
  · rw [← abs_of_pos pos, same]
    exact b.two_mul_underflow_le_value

/-- No finite number comes up to the overflow. -/
lemma abs_toRat_lt_overflow {x : Float} (finite : x.isFinite) : |toRat x| < Binary.overflow := by
  rcases abs_toRat finite with none | ⟨b, same⟩
  · rw [none]
    exact (zpow_pos two_pos _).trans_le Binary.overflow_bounds.1
  · rw [same]
    exact b.value_lt_overflow

/-! ## Order -/

/-- One number is at most another when the comparison of what their bits stand for says so. -/
lemma le_iff_compare (x y : Float) :
    x ≤ y ↔ (x.toModel.unpack.compare y.toModel.unpack).any Ordering.isLE = true := by
  show decide (x.toModel ≤ y.toModel) = true ↔ _
  rw [decide_eq_true_eq]
  rfl

/-- One number is below another when the comparison of what their bits stand for says so. -/
lemma lt_iff_compare (x y : Float) : x < y ↔ x.toModel.unpack.compare y.toModel.unpack = some .lt := by
  show decide (x.toModel < y.toModel) = true ↔ _
  rw [decide_eq_true_eq]
  exact beq_iff_eq

/-- Numbers of the format compare as their values do. -/
lemma Binary.isLE_compare (b b' : Binary) :
    ((compare b.exponent b'.exponent).then (compare b.mantissa b'.mantissa)).isLE ↔ b.value ≤ b'.value := by
  rw [value_le_iff]
  rcases lt_trichotomy b.exponent b'.exponent with less | same | more
  · simp [Int.compare_eq_lt.2 less, less]
  · simp [same, Nat.isLE_compare]
  · simp [Int.compare_eq_gt.2 more, more.not_gt, more.ne']

/-- Finite numbers are ordered by their values. -/
lemma le_iff {x y : Float} (hx : x.isFinite) (hy : y.isFinite) : x ≤ y ↔ toRat x ≤ toRat y := by
  rw [le_iff_compare]
  rcases cases_of_isFinite hx with ⟨s, rfl⟩ | ⟨b, s, rfl⟩ <;> rcases cases_of_isFinite hy with ⟨s', rfl⟩ | ⟨b', s', rfl⟩
  · simp [unpack_zero, UnpackedFloat.compare]
  · have pos := b'.value_pos
    rw [unpack_zero, b'.unpack_toFloat, toRat_zero, b'.toRat_toFloat]
    cases s' <;> simp [Binary.unpacked, UnpackedFloat.compare, pos, pos.le]
  · have pos := b.value_pos
    rw [unpack_zero, b.unpack_toFloat, toRat_zero, b.toRat_toFloat]
    cases s <;> simp [Binary.unpacked, UnpackedFloat.compare, pos, pos.le]
  · have pos := b.value_pos
    have pos' := b'.value_pos
    rw [b.unpack_toFloat, b'.unpack_toFloat, b.toRat_toFloat, b'.toRat_toFloat]
    cases s <;> cases s'
    · simp [Binary.unpacked, UnpackedFloat.compare, Ordering.swap_then, Int.compare_swap, Nat.compare_swap,
        ← b'.isLE_compare b]
    · simp [Binary.unpacked, UnpackedFloat.compare]
      linarith
    · simp [Binary.unpacked, UnpackedFloat.compare]
      linarith
    · simp [Binary.unpacked, UnpackedFloat.compare, ← b.isLE_compare b']

/-- A finite number is unpacked as zero or with a sign, a mantissa and an exponent. -/
lemma unpacked_of_isFinite {x : Float} (finite : x.isFinite) :
    (∃ s, x.toModel.unpack = .zero s) ∨ ∃ s m e pos, x.toModel.unpack = .finite s m e pos := by
  rcases cases_of_isFinite finite with ⟨s, rfl⟩ | ⟨b, s, rfl⟩
  · exact .inl ⟨s, unpack_zero s⟩
  · exact .inr ⟨_, _, _, _, b.unpack_toFloat s⟩

/-- What lies between two finite numbers is finite. -/
lemma isFinite_of_le_of_le {a x b : Float} (ha : a.isFinite) (hb : b.isFinite) (low : a ≤ x) (high : x ≤ b) :
    x.isFinite := by
  rw [le_iff_compare] at low high
  rw [isFinite_eq]
  cases h : x.toModel.unpack with
  | zero | finite => rfl
  | notANumber =>
    rcases unpacked_of_isFinite ha with ⟨s, ha⟩ | ⟨s, m, e, pos, ha⟩ <;> rw [ha, h] at low <;> cases low
  | infinity s =>
    cases s with
    | negative =>
      rcases unpacked_of_isFinite ha with ⟨s, ha⟩ | ⟨s, m, e, pos, ha⟩ <;> rw [ha, h] at low <;> cases low
    | positive =>
      rcases unpacked_of_isFinite hb with ⟨s, hb⟩ | ⟨s, m, e, pos, hb⟩ <;> rw [hb, h] at high <;> cases high

/-- No finite number is above infinity. -/
lemma le_infinite {x : Float} (finite : x.isFinite) : x ≤ infinite .positive := by
  rw [le_iff_compare, unpack_infinite]
  rcases unpacked_of_isFinite finite with ⟨s, h⟩ | ⟨s, m, e, pos, h⟩ <;> rw [h] <;> rfl

/-- No finite number is below negative infinity. -/
lemma infinite_le {x : Float} (finite : x.isFinite) : infinite .negative ≤ x := by
  rw [le_iff_compare, unpack_infinite]
  rcases unpacked_of_isFinite finite with ⟨s, h⟩ | ⟨s, m, e, pos, h⟩ <;> rw [h] <;> rfl

/-! ## Nearest integers -/

/-- Rounding to a natural number goes up from a half on. -/
lemma le_nearestNat_iff {k m : ℕ} {e : ℤ} : k ≤ nearestNat m e ↔ (k : ℚ) ≤ m * 2 ^ e + 1 / 2 := by
  unfold nearestNat
  split
  · rename_i nonneg
    obtain ⟨j, rfl⟩ := Int.eq_ofNat_of_zero_le nonneg
    have whole : (m : ℚ) * 2 ^ (j : ℤ) = (m * 2 ^ j : ℕ) := by
      push_cast
      rw [zpow_natCast]
    rw [whole, Int.toNat_natCast, Nat.pow_eq]
    refine ⟨fun h => ?_, fun h => ?_⟩
    · have order : (k : ℚ) ≤ (m * 2 ^ j : ℕ) := by exact_mod_cast h
      linarith
    · have order : (k : ℚ) < (m * 2 ^ j : ℕ) + 1 := by linarith
      exact Nat.le_of_lt_succ (by exact_mod_cast order)
  · rename_i negative
    obtain ⟨j, rfl⟩ : ∃ j : ℕ, e = -j := ⟨e.natAbs, by omega⟩
    have scale : (0 : ℚ) < 2 ^ j := by positivity
    have value : (m : ℚ) * 2 ^ (-j : ℤ) + 1 / 2 = (2 * m + 2 ^ j) / 2 ^ (j + 1) := by
      rw [zpow_neg, zpow_natCast, pow_succ]
      field_simp
    rw [neg_neg, Int.toNat_natCast, Nat.pow_eq, Nat.pow_eq, Nat.le_div_iff_mul_le (by positivity), value,
      le_div_iff₀ (by positivity)]
    exact_mod_cast Iff.rfl

/-- The nearest integer of 32 bits is one of the first `n` natural numbers, of which there are fewer
than these integers, exactly when the number lies between half below zero and half below `n`. -/
lemma nearestInt32_mem_iff {x : Float} (finite : x.isFinite) {n : ℕ} (pos : 0 < n) (lt : n < 2 ^ 31) :
    0 ≤ nearestInt32 x ∧ nearestInt32 x < n ↔ -(1 / 2) < toRat x ∧ toRat x < n - 1 / 2 := by
  obtain ⟨negative, m, e, given⟩ : ∃ negative m e, parts x = .finite negative m e := by
    obtain ⟨negative, ⟨given, -⟩ | ⟨b, given, -⟩⟩ := exists_of_isFinite finite
    · exact ⟨_, _, _, given⟩
    · exact ⟨_, _, _, given⟩
  have nonneg : (0 : ℚ) ≤ m * 2 ^ e := mul_nonneg (Nat.cast_nonneg m) (zpow_pos two_pos _).le
  have one : (1 : ℚ) ≤ n := by exact_mod_cast pos
  simp only [nearestInt32, nearestBetween, toRat, given, leastInt32, greatestInt32]
  cases negative with
  | true =>
    have below : ¬1 ≤ nearestNat m e ↔ ¬(1 : ℚ) ≤ m * 2 ^ e + 1 / 2 := by
      rw [le_nearestNat_iff, Nat.cast_one]
    simp only [if_true]
    refine ⟨fun h => ⟨?_, by linarith⟩, fun h => ?_⟩
    · have less := below.1 (by omega)
      linarith
    · have less := below.2 (by linarith)
      omega
  | false =>
    have above : ¬n ≤ nearestNat m e ↔ ¬(n : ℚ) ≤ m * 2 ^ e + 1 / 2 := by
      rw [le_nearestNat_iff]
    simp only [Bool.false_eq_true, if_false]
    refine ⟨fun h => ⟨by linarith, ?_⟩, fun h => ?_⟩
    · have less := above.1 (by omega)
      linarith
    · have less := above.2 (by linarith)
      omega

end SensorSim.Decimal
