import Mathlib
import SensorSim.Proofs.Decimal.Nearest
import SensorSim.Proofs.Decimal.Value

/-!
# Rounded results

The operations give the rounded results (`rounds_div`, `rounds_mul`, `rounds_sub`): what is rounded
is never taken past another number, and is never changed by more than a part of 2 ^ 53 and half of
the smallest number (`Rounds`). So a result that is the value of a number is exact.
-/

namespace SensorSim.Decimal

open Float.Model (UnpackedFloat)
open Float.Model.UnpackedFloat (Sign)

/-- A number is the rounded value: no finite number lies between the two, and it is infinite or
near. -/
structure Rounds (v : ℚ) (x : Float) : Prop where
  le_of_le : ∀ {t : Float}, t.isFinite → v ≤ toRat t → x ≤ t
  ge_of_ge : ∀ {t : Float}, t.isFinite → toRat t ≤ v → t ≤ x
  error : x.isFinite → |toRat x - v| ≤ |v| / 2 ^ 53 + Binary.underflow

/-- A finite number rounds itself. -/
lemma rounds_toRat {x : Float} (finite : x.isFinite) : Rounds (toRat x) x where
  le_of_le ht := (le_iff finite ht).2
  ge_of_ge ht := (le_iff ht finite).2
  error _ := by
    rw [sub_self, abs_zero]
    exact add_nonneg (by positivity) Binary.underflow_pos.le

namespace Rounds

variable {v : ℚ} {x t : Float}

/-- Between finite numbers no infinity is reached. -/
lemma isFinite {a b : Float} (h : Rounds v x) (ha : a.isFinite) (hb : b.isFinite) (low : toRat a ≤ v)
    (high : v ≤ toRat b) : x.isFinite :=
  isFinite_of_le_of_le ha hb (h.ge_of_ge ha low) (h.le_of_le hb high)

/-- A value that a finite number has is not changed. -/
lemma eq_of_eq (h : Rounds v x) (ht : t.isFinite) (same : toRat t = v) : x.isFinite ∧ toRat x = v := by
  have finite := h.isFinite ht ht same.le same.ge
  have above := (le_iff finite ht).1 (h.le_of_le ht same.ge)
  have below := (le_iff ht finite).1 (h.ge_of_ge ht same.le)
  exact ⟨finite, (le_antisymm above below).trans same⟩

end Rounds

/-- The sign makes no difference to rounding. -/
lemma rounds_of_magnitude {v a : ℚ} {s : Sign} {x : Float} (finite : x.isFinite) (value : toRat x = signed s a)
    (pos : 0 < v) (nonneg : 0 ≤ a) (above : ∀ {t : Float}, t.isFinite → v ≤ |toRat t| → a ≤ |toRat t|)
    (below : ∀ {t : Float}, t.isFinite → |toRat t| ≤ v → |toRat t| ≤ a)
    (near : |a - v| ≤ v / 2 ^ 53 + Binary.underflow) :
    Rounds (signed s v) x := by
  refine ⟨fun {t} ht h => ?_, fun {t} ht h => ?_, fun _ => ?_⟩
  · rw [le_iff finite ht, value]
    cases s with
    | negative =>
      rw [signed_negative] at h ⊢
      rcases le_or_gt 0 (toRat t) with up | down
      · linarith
      · -- Below zero the order of the magnitudes is the other way round.
        have less := below ht (by rw [abs_of_neg down]; linarith)
        rw [abs_of_neg down] at less
        linarith
    | positive =>
      rw [signed_positive] at h ⊢
      have up : 0 < toRat t := pos.trans_le h
      have more := above ht (by rwa [abs_of_pos up])
      rwa [abs_of_pos up] at more
  · rw [le_iff ht finite, value]
    cases s with
    | negative =>
      rw [signed_negative] at h ⊢
      have down : toRat t < 0 := by linarith
      have more := above ht (by rw [abs_of_neg down]; linarith)
      rw [abs_of_neg down] at more
      linarith
    | positive =>
      rw [signed_positive] at h ⊢
      rcases le_or_gt (toRat t) 0 with down | up
      · linarith
      · have less := below ht (by rwa [abs_of_pos up])
        rwa [abs_of_pos up] at less
  · have apart : signed s a - signed s v = signed s (a - v) := by
      simp only [signed]
      ring
    rwa [value, apart, abs_signed, abs_signed, abs_of_pos pos]

/-- What is rounded apart from its sign is rounded. -/
lemma Rounded.rounds {v : ℚ} {s : Sign} {x : Float} (h : Rounded v s x) (pos : 0 < v) : Rounds (signed s v) x := by
  cases h with
  | zero small =>
    refine rounds_of_magnitude (a := 0) (isFinite_zero s) (by simp [signed]) pos le_rfl (fun _ _ => abs_nonneg _)
      (fun ht low => ?_) ?_
    · rcases abs_toRat ht with none | ⟨b, same⟩
      · exact none.le
      · rw [same] at low
        linarith [b.two_mul_underflow_le_value, Binary.underflow_pos]
    · rw [zero_sub, abs_neg, abs_of_pos pos]
      linarith [div_nonneg pos.le (by norm_num : (0 : ℚ) ≤ 2 ^ 53)]
  | @binary b near =>
    refine rounds_of_magnitude (b.isFinite_toFloat s) (b.toRat_toFloat s) pos b.value_pos.le (fun ht high => ?_)
      (fun ht low => ?_) near.error
    · rcases abs_toRat ht with none | ⟨b', same⟩
      · rw [none] at high
        exact absurd high pos.not_ge
      · rw [same] at high ⊢
        exact near.value_le_of_le high
    · rcases abs_toRat ht with none | ⟨b', same⟩
      · rw [none]
        exact b.value_pos.le
      · rw [same] at low ⊢
        exact near.le_value_of_le low
  | infinite large =>
    -- No finite number reaches the overflow, so every one of them is on the near side of infinity.
    refine ⟨fun ht h => ?_, fun ht h => ?_, fun finite => ?_⟩
    · cases s with
      | negative => exact infinite_le ht
      | positive =>
        rw [signed_positive] at h
        exact absurd (large.trans (h.trans (le_abs_self _))) (abs_toRat_lt_overflow ht).not_ge
    · cases s with
      | positive => exact le_infinite ht
      | negative =>
        rw [signed_negative] at h
        exact absurd (large.trans ((le_neg.1 h).trans (neg_le_abs _))) (abs_toRat_lt_overflow ht).not_ge
    · rw [not_isFinite_infinite] at finite
      cases finite

/-! ## Operations -/

/-- Nothing is rounded to a zero of either sign. -/
lemma rounds_zero (s : Sign) : Rounds 0 (zero s) := by
  have own := rounds_toRat (isFinite_zero s)
  rwa [toRat_zero] at own

section

variable {x y : Float}

/-- A quotient is the quotient of the values, rounded once. -/
lemma rounds_div (hx : x.isFinite) (hy : y.isFinite) (nonzero : toRat y ≠ 0) : Rounds (toRat x / toRat y) (x / y) := by
  rcases cases_of_isFinite hy with ⟨s', rfl⟩ | ⟨b', s', rfl⟩
  · exact absurd (toRat_zero s') nonzero
  rcases cases_of_isFinite hx with ⟨s, rfl⟩ | ⟨b, s, rfl⟩
  · rw [div_eq, unpack_zero, b'.unpack_toFloat, toRat_zero, zero_div]
    exact rounds_zero (s / s')
  · rw [div_eq, b.unpack_toFloat, b'.unpack_toFloat, b.toRat_toFloat, b'.toRat_toFloat, ← signed_div]
    have pos := div_pos b.value_pos b'.value_pos
    exact ((isRounding_div b.pos b'.pos b.exponent b'.exponent s s').rounded pos.le).rounds pos

/-- A product is the product of the values, rounded once. -/
lemma rounds_mul (hx : x.isFinite) (hy : y.isFinite) : Rounds (toRat x * toRat y) (x * y) := by
  rcases cases_of_isFinite hx with ⟨s, rfl⟩ | ⟨b, s, rfl⟩ <;> rcases cases_of_isFinite hy with ⟨s', rfl⟩ | ⟨b', s', rfl⟩
  · rw [mul_eq, unpack_zero, unpack_zero, toRat_zero, zero_mul]
    exact rounds_zero (s * s')
  · rw [mul_eq, unpack_zero, b'.unpack_toFloat, toRat_zero, zero_mul]
    exact rounds_zero (s * s')
  · rw [mul_eq, unpack_zero, b.unpack_toFloat, toRat_zero, mul_zero]
    exact rounds_zero (s * s')
  · rw [mul_eq, b.unpack_toFloat, b'.unpack_toFloat, b.toRat_toFloat, b'.toRat_toFloat, ← signed_mul]
    have pos := mul_pos b.value_pos b'.value_pos
    exact ((isRounding_mul b.pos b'.pos (b.two_pow_le_mul b') s s').rounded pos.le).rounds pos

/-- An integer times a power of two is rounded once when it is brought into the format. -/
lemma rounds_normalize (m e : ℤ) (s : Sign) : Rounds (m * 2 ^ e) (.ofModel (.pack (.normalize .binary64 m e s))) := by
  have scale : (0 : ℚ) < 2 ^ e := zpow_pos two_pos _
  rcases lt_trichotomy m 0 with down | rfl | up
  · have rounded : Rounds _ (.ofModel (.pack (.round .binary64 .negative (-m).toNat e))) :=
      ((isRounding_round (m := (-m).toNat) (by omega) e .negative).rounded (by positivity)).rounds
        (mul_pos (by exact_mod_cast (by omega : 0 < (-m).toNat)) scale)
    have same : signed .negative ((-m).toNat * 2 ^ e) = m * 2 ^ e := by
      have whole : (((-m).toNat : ℤ) : ℚ) = -m := by exact_mod_cast Int.toNat_of_nonneg (by omega : 0 ≤ -m)
      rw [signed_negative, ← Int.cast_natCast, whole]
      ring
    rw [same] at rounded
    rw [UnpackedFloat.normalize, Int.compare_eq_lt.2 down]
    exact rounded
  · rw [Int.cast_zero, zero_mul]
    exact rounds_zero s
  · have rounded : Rounds _ (.ofModel (.pack (.round .binary64 .positive m.toNat e))) :=
      ((isRounding_round (m := m.toNat) (by omega) e .positive).rounded (by positivity)).rounds
        (mul_pos (by exact_mod_cast (by omega : 0 < m.toNat)) scale)
    have same : signed .positive (m.toNat * 2 ^ e) = m * 2 ^ e := by
      have whole : ((m.toNat : ℤ) : ℚ) = m := by exact_mod_cast Int.toNat_of_nonneg up.le
      rw [signed_positive, ← Int.cast_natCast, whole]
    rw [same] at rounded
    rw [UnpackedFloat.normalize, Int.compare_eq_gt.2 up]
    exact rounded

/-- Given more bits, a mantissa stands for the same value at a smaller exponent. -/
lemma Binary.apply_decreased (b : Binary) (s : Sign) {e : ℤ} (h : e ≤ b.exponent) :
    (s.apply (UnpackedFloat.decreaseExponent b.mantissa b.exponent e).1 : ℤ) * (2 : ℚ) ^ e = signed s b.value := by
  have shifted : ((UnpackedFloat.decreaseExponent b.mantissa b.exponent e).1 : ℚ) * 2 ^ e = b.value := by
    simp only [UnpackedFloat.decreaseExponent, Nat.shiftLeft_eq]
    push_cast
    rw [mul_assoc, ← zpow_natCast, ← zpow_add₀ two_ne_zero, Int.toNat_of_nonneg (by omega), sub_add_cancel, value]
  rw [← shifted]
  cases s <;> simp [Sign.apply]

/-- A difference is computed on what the bits of both numbers stand for. -/
lemma sub_eq (x y : Float) : x - y = .ofModel (.pack (.sub .binary64 x.toModel.unpack y.toModel.unpack)) :=
  rfl

/-- A difference is the difference of the values, rounded once. -/
lemma rounds_sub (hx : x.isFinite) (hy : y.isFinite) : Rounds (toRat x - toRat y) (x - y) := by
  rcases cases_of_isFinite hx with ⟨s, rfl⟩ | ⟨b, s, rfl⟩ <;> rcases cases_of_isFinite hy with ⟨s', rfl⟩ | ⟨b', s', rfl⟩
  · rw [sub_eq, unpack_zero, unpack_zero, toRat_zero, toRat_zero, sub_zero, UnpackedFloat.sub]
    split
    · exact rounds_zero s
    · exact rounds_zero .positive
  · rw [sub_eq, unpack_zero, b'.unpack_toFloat, toRat_zero, zero_sub, b'.toRat_toFloat, ← signed_neg,
      ← b'.toRat_toFloat]
    exact rounds_toRat (b'.isFinite_toFloat (-s'))
  · rw [sub_eq, unpack_zero, b.unpack_toFloat, toRat_zero, sub_zero]
    exact rounds_toRat (b.isFinite_toFloat s)
  · have exponents : min b.exponent b'.exponent ≤ b.exponent ∧ min b.exponent b'.exponent ≤ b'.exponent :=
      ⟨min_le_left _ _, min_le_right _ _⟩
    rw [sub_eq, b.unpack_toFloat, b'.unpack_toFloat, b.toRat_toFloat, b'.toRat_toFloat,
      ← b.apply_decreased s exponents.1, ← b'.apply_decreased s' exponents.2, ← sub_mul, ← Int.cast_sub]
    exact rounds_normalize _ _ _

/-- A number is small in absolute value when it is finite and its value is. -/
lemma abs_le_iff (hy : y.isFinite) : x.abs ≤ y ↔ x.isFinite ∧ |toRat x| ≤ toRat y := by
  have absolute : x.abs = .ofModel (.pack x.toModel.unpack.abs) := rfl
  cases finite : x.isFinite with
  | true =>
    obtain ⟨same, value⟩ : x.abs.isFinite ∧ toRat x.abs = |toRat x| := by
      rcases cases_of_isFinite finite with ⟨s, rfl⟩ | ⟨b, s, rfl⟩
      · rw [absolute, unpack_zero, toRat_zero, abs_zero]
        exact ⟨isFinite_zero .positive, toRat_zero .positive⟩
      · rw [absolute, b.unpack_toFloat, b.toRat_toFloat, abs_signed, abs_of_pos b.value_pos]
        exact ⟨b.isFinite_toFloat .positive, (b.toRat_toFloat .positive).trans (signed_positive _)⟩
    rw [le_iff same hy, value]
    simp
  | false =>
    simp only [Bool.false_eq_true, false_and, iff_false]
    intro less
    rw [le_iff_compare, absolute] at less
    rw [isFinite_eq] at finite
    cases h : x.toModel.unpack with
    | zero | finite =>
      rw [h] at finite
      cases finite
    | notANumber =>
      rw [h] at less
      cases less
    | infinity s =>
      have top : (infinite .positive).toModel.unpack.compare y.toModel.unpack = some .gt := by
        rw [unpack_infinite]
        rcases unpacked_of_isFinite hy with ⟨s, hy⟩ | ⟨s, m, e, pos, hy⟩ <;> rw [hy] <;> rfl
      rw [h] at less
      change ((infinite .positive).toModel.unpack.compare y.toModel.unpack).any Ordering.isLE = true at less
      rw [top] at less
      cases less

/-- A quotient of a number that is not finite is not finite. -/
lemma not_isFinite_div (hx : x.isFinite = false) (hy : y.isFinite) : (x / y).isFinite = false := by
  rw [isFinite_eq] at hx
  rw [div_eq]
  cases h : x.toModel.unpack with
  | zero | finite =>
    rw [h] at hx
    cases hx
  | notANumber => cases y.toModel.unpack <;> exact not_isFinite_notANumber
  | infinity s =>
    rcases unpacked_of_isFinite hy with ⟨s', hy⟩ | ⟨s', m, e, pos, hy⟩ <;> rw [hy] <;> exact not_isFinite_infinite _

/-- A difference from a number that is not finite is not finite either. -/
lemma not_isFinite_sub (hx : x.isFinite = false) (hy : y.isFinite) : (x - y).isFinite = false := by
  rw [isFinite_eq] at hx
  rw [sub_eq]
  cases h : x.toModel.unpack with
  | zero | finite =>
    rw [h] at hx
    cases hx
  | notANumber => cases y.toModel.unpack <;> exact not_isFinite_notANumber
  | infinity s =>
    rcases unpacked_of_isFinite hy with ⟨s', hy⟩ | ⟨s', m, e, pos, hy⟩ <;> rw [hy] <;> exact not_isFinite_infinite _

end

/-! ## Natural numbers and powers of two -/

/-- A natural number of 53 bits times a power of two is the value of a number. -/
lemma exists_toRat {c : ℕ} (lt : c < 2 ^ 53) {j : ℤ} (least : -1022 ≤ j) (greatest : j ≤ 971) :
    ∃ t : Float, t.isFinite ∧ toRat t = c * 2 ^ j := by
  rcases Nat.eq_zero_or_pos c with rfl | pos
  · exact ⟨zero .positive, isFinite_zero _, by simp⟩
  · refine ⟨(Binary.exact c j pos lt least greatest).toFloat .positive, Binary.isFinite_toFloat _ _, ?_⟩
    rw [Binary.toRat_toFloat, signed_positive, Binary.value_exact]

/-- A natural number of 53 bits becomes just itself. -/
lemma toRat_ofNat {n : ℕ} (lt : n < 2 ^ 53) : (Float.ofNat n).isFinite ∧ toRat (Float.ofNat n) = n := by
  rcases Nat.eq_zero_or_pos n with rfl | pos
  · exact ⟨rfl, (toRat_zero .positive).trans Nat.cast_zero.symm⟩
  have same : Float.ofNat n = (Binary.exact n 0 pos lt (by norm_num) (by norm_num)).toFloat .positive := by
    refine nearest_eq (k := 0) ?_
    have value := (Binary.exact n 0 pos lt (by norm_num) (by norm_num)).isNearest_value
    rwa [Binary.value_exact, zpow_zero] at value
  rw [same, Binary.toRat_toFloat, signed_positive, Binary.value_exact, zpow_zero, mul_one]
  exact ⟨Binary.isFinite_toFloat _ _, rfl⟩

/-- One is exact. -/
lemma toRat_one : (1.0 : Float).isFinite ∧ toRat 1.0 = 1 := by
  refine ⟨by decide +kernel, ?_⟩
  rw [toRat_of_parts (m := 4503599627370496) (e := -52) (by decide +kernel)]
  norm_num

/-- Two is exact. -/
lemma toRat_two : (2.0 : Float).isFinite ∧ toRat 2.0 = 2 := by
  refine ⟨by decide +kernel, ?_⟩
  rw [toRat_of_parts (m := 4503599627370496) (e := -51) (by decide +kernel)]
  norm_num

end SensorSim.Decimal
