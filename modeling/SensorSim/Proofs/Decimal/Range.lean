import Mathlib
import SensorSim.Proofs.Decimal.Operations

/-!
# Rounding over the whole range

What is too small is rounded to zero, what is too large to infinity, and all between to the nearest
number of the format (`IsRounding.rounded`). No other number of the format lies between a number and
the nearest one, and the two differ by no more than a part of 2 ^ 53 and half of the smallest number
(`Binary.IsNearest.error`).
-/

namespace SensorSim.Decimal

open Float.Model (Format UnpackedFloat totalExponent)
open Float.Model.UnpackedFloat (Sign Accuracy roundWithAccuracy shiftToTargetExponent)

/-! ## What is rounded to -/

/-- An infinity with a sign. -/
def infinite (s : Sign) : Float :=
  .ofModel (.pack (.infinity s))

/-- What a positive number is rounded to, with a sign: to zero, to the nearest number of the format,
or to infinity. -/
inductive Rounded (v : ℚ) (s : Sign) : Float → Prop where
  | zero (small : v ≤ Binary.underflow) : Rounded v s (zero s)
  | binary {b : Binary} (near : b.IsNearest v) : Rounded v s (b.toFloat s)
  | infinite (large : Binary.overflow ≤ v) : Rounded v s (infinite s)

section

variable {v : ℚ} {n : ℕ} {k : ℤ} {acc : Accuracy}

/-- A mantissa that is not zero is one of a number that is not too small. -/
lemma Locates.log2_lt (h : Locates (.ofMantissaAndAccuracy n acc) (v / 2 ^ k)) (nonzero : n ≠ 0) {j : ℤ}
    (small : v < 2 ^ j) : n.log2 + k < j := by
  have low := (h.between (by rwa [mantissa_ofMantissaAndAccuracy]) 0).1
  rw [mantissa_ofMantissaAndAccuracy, zpow_zero, div_one, sub_zero] at low
  exact lt_of_two_zpow_lt (low.trans_lt small)

/-- Below half of the smallest number of the format everything is rounded to zero. -/
lemma roundWithAccuracy_of_small (nonneg : 0 ≤ v) (small : v ≤ Binary.underflow) (s : Sign)
    (h : Locates (.ofMantissaAndAccuracy n acc) (v / 2 ^ k))
    (fine : k ≤ Format.binary64.targetExponent (totalExponent n k)) :
    roundWithAccuracy .binary64 s n k acc = .zero s := by
  have bottom : Format.binary64.targetExponent (totalExponent n k) = -1074 := by
    rw [targetExponent_eq] at fine ⊢
    by_cases zero : n = 0
    · rw [zero, Nat.log2_zero] at fine ⊢
      omega
    · have low := h.log2_lt zero (small.trans_lt (Binary.underflow_lt le_rfl le_rfl))
      omega
  rw [bottom] at fine
  have half : v / 2 ^ (-1074 : ℤ) ≤ 1 / 2 := by
    rw [div_le_iff₀ (zpow_pos two_pos _), one_div, ← zpow_neg_one, ← zpow_add₀ two_ne_zero]
    exact small
  have least : 0 ≤ v / 2 ^ (-1074 : ℤ) := div_nonneg nonneg (zpow_pos two_pos _).le
  have rounded := (h.shifted fine).roundedMantissa_eq (m := 0)
    (by rwa [Nat.cast_zero, sub_zero, abs_of_nonneg least]) fun _ => rfl
  unfold roundWithAccuracy
  rw [shiftToTargetExponent, bottom, shiftToExponent_eq n acc fine]
  simp only [rounded]
  rfl

/-- From the overflow on, a mantissa at the largest exponent does not keep to 53 bits. -/
lemma le_of_near_of_large (large : Binary.overflow ≤ v) {m : ℕ} (near : |v / 2 ^ (971 : ℤ) - m| ≤ 1 / 2)
    (even : |v / 2 ^ (971 : ℤ) - m| = 1 / 2 → m % 2 = 0) : 2 ^ 53 ≤ m := by
  by_contra less
  have top := Binary.overflow_le_iff.1 large
  obtain ⟨-, above⟩ := abs_le.1 near
  have cap : (m : ℚ) + 1 ≤ 2 ^ 53 := by exact_mod_cast not_le.1 less
  -- What remains is the last mantissa, half below the overflow, and it is odd.
  have tie : |v / 2 ^ (971 : ℤ) - m| = 1 / 2 := by
    rw [abs_of_nonneg (by linarith)]
    linarith
  have odd : m + 1 = 2 ^ 53 := by
    have exact : (m : ℚ) + 1 = 2 ^ 53 := by linarith
    exact_mod_cast exact
  have parity := even tie
  omega

/-- Whatever is past the largest exponent is packed as infinity. -/
lemma pack_of_large {m : ℕ} {e : ℤ} (large : 972 ≤ e) (s : Sign) (pos : 0 < m) :
    UnpackedFloat.pack .binary64 (.finite s m e pos) = UnpackedFloat.pack .binary64 (.infinity s) := by
  have bias : e + (Format.binary64.exponentBias : ℤ) + (52 : ℕ) = e + 1075 := by
    have value : Format.binary64.exponentBias = 1023 := rfl
    rw [value]
    omega
  simp only [UnpackedFloat.pack, bias]
  exact if_pos (by norm_num; omega)

/-- From the overflow on everything is rounded to infinity. -/
lemma pack_roundWithAccuracy_of_large (large : Binary.overflow ≤ v) (s : Sign)
    (h : Locates (.ofMantissaAndAccuracy n acc) (v / 2 ^ k))
    (fine : k ≤ Format.binary64.targetExponent (totalExponent n k)) :
    UnpackedFloat.pack .binary64 (roundWithAccuracy .binary64 s n k acc) =
      UnpackedFloat.pack .binary64 (.infinity s) := by
  have least : 2 ^ (1023 : ℤ) ≤ v := Binary.overflow_bounds.1.trans large
  have nonzero : n ≠ 0 := by
    rintro rfl
    have below := h.bounds.2
    rw [mantissa_ofMantissaAndAccuracy, Nat.cast_zero, zero_add, div_lt_one (zpow_pos two_pos _)] at below
    have wide := lt_of_two_zpow_lt (least.trans_lt below)
    rw [targetExponent_eq, Nat.log2_zero] at fine
    omega
  have wide : 1023 ≤ (n.log2 : ℤ) + k := by
    have top := (h.between (by rwa [mantissa_ofMantissaAndAccuracy]) 0).2
    rw [mantissa_ofMantissaAndAccuracy, zpow_zero, div_one, sub_zero] at top
    have exponent := lt_of_two_zpow_lt (least.trans_lt top)
    omega
  obtain ⟨t, target, place⟩ : ∃ t, Format.binary64.targetExponent (totalExponent n k) = t ∧ n.log2 + k = t + 52 :=
    ⟨n.log2 + k - 52, by rw [targetExponent_eq]; omega, by omega⟩
  rw [target] at fine
  have full := (h.between (by rwa [mantissa_ofMantissaAndAccuracy]) t).1
  have fits := (h.between (by rwa [mantissa_ofMantissaAndAccuracy]) t).2
  rw [mantissa_ofMantissaAndAccuracy, place, add_sub_cancel_left] at full fits
  norm_num at full fits
  obtain ⟨m, near, even⟩ := exists_nearest_nat ((by norm_num : (0 : ℚ) ≤ 4503599627370496).trans full)
  have rounded := (h.shifted fine).roundedMantissa_eq near even
  have least' : 2 ^ 52 ≤ m := ge_of_near near (by push_cast; linarith)
  have most : m ≤ 2 ^ 53 := le_of_near near (by push_cast; linarith)
  rcases Nat.lt_or_ge m (2 ^ 53) with less | most'
  · have last : t ≠ 971 := by
      rintro rfl
      exact (le_of_near_of_large large near even).not_gt less
    rw [roundWithAccuracy_eq s (by omega) less (by omega) target fine rounded (.inl ⟨rfl, rfl⟩)]
    exact pack_of_large (by omega) s _
  · obtain rfl : m = 2 ^ 53 := Nat.le_antisymm most most'
    rw [roundWithAccuracy_eq s (by norm_num) (by norm_num) (by omega) target fine rounded (.inr ⟨rfl, rfl, rfl⟩)]
    exact pack_of_large (by omega) s _

/-- What was computed of a number is rounded, wherever the number lies. -/
lemma IsRounding.rounded {s : Sign} {u : UnpackedFloat} (h : IsRounding v s u) (nonneg : 0 ≤ v) :
    Rounded v s (.ofModel (.pack u)) := by
  obtain ⟨n, k, acc, rfl, located, fine⟩ := h
  rcases le_or_gt v Binary.underflow with small | least
  · rw [roundWithAccuracy_of_small nonneg small s located fine]
    exact .zero small
  rcases lt_or_ge v Binary.overflow with greatest | large
  · obtain ⟨b, near⟩ := Binary.exists_isNearest least greatest
    rw [roundWithAccuracy_of_nearest near s located fine]
    exact .binary near
  · have packed := pack_roundWithAccuracy_of_large large s located fine
    have same : Float.Model.pack (roundWithAccuracy .binary64 s n k acc) = .pack (.infinity s) := by
      simp only [Float.Model.pack, packed]
    rw [same]
    exact .infinite large

end

/-! ## Neighbours -/

namespace Binary

variable {b b' : Binary} {v : ℚ}

/-- Of two numbers the one with the larger exponent is larger. -/
lemma value_lt_of_exponent_lt (h : b.exponent < b'.exponent) : b.value < b'.value := by
  have least := b.least
  have lt : (b.mantissa : ℚ) < 2 ^ 53 := by exact_mod_cast b.lt
  have normal : (2 : ℚ) ^ 52 ≤ b'.mantissa := by exact_mod_cast b'.normal.resolve_right (by omega)
  calc b.value < 2 ^ 53 * 2 ^ b.exponent := mul_lt_mul_of_pos_right lt (zpow_pos two_pos _)
    _ = 2 ^ 52 * 2 ^ (b.exponent + 1) := by
      rw [zpow_add_one₀ two_ne_zero]
      ring
    _ ≤ 2 ^ 52 * 2 ^ b'.exponent :=
      mul_le_mul_of_nonneg_left (zpow_le_zpow_right₀ one_le_two (by omega)) (by norm_num)
    _ ≤ b'.value := mul_le_mul_of_nonneg_right normal (zpow_pos two_pos _).le

/-- Numbers of the format are ordered by their exponents first. -/
lemma value_le_iff : b.value ≤ b'.value ↔
    b.exponent < b'.exponent ∨ b.exponent = b'.exponent ∧ b.mantissa ≤ b'.mantissa := by
  rcases lt_trichotomy b.exponent b'.exponent with less | same | more
  · exact iff_of_true (value_lt_of_exponent_lt less).le (.inl less)
  · rw [value, value, same, mul_le_mul_iff_left₀ (zpow_pos two_pos _), Nat.cast_le]
    simp
  · exact iff_of_false (value_lt_of_exponent_lt more).not_ge (by omega)

/-- In units of the last bit of a number, a number with at least its exponent is whole. -/
lemma exists_units (h : b.exponent ≤ b'.exponent) : ∃ n : ℕ, b'.value = n * 2 ^ b.exponent := by
  refine ⟨b'.mantissa * 2 ^ (b'.exponent - b.exponent).toNat, ?_⟩
  push_cast
  rw [value, mul_assoc, ← zpow_natCast, ← zpow_add₀ two_ne_zero, Int.toNat_of_nonneg (by omega), sub_add_cancel]

/-- The next larger number is at least one last bit away. -/
lemma succ_le (h : b.value < b'.value) : (b.mantissa + 1) * 2 ^ b.exponent ≤ b'.value := by
  have order : b.exponent ≤ b'.exponent := by
    by_contra more
    exact (value_lt_of_exponent_lt (not_le.1 more)).not_gt h
  obtain ⟨n, units⟩ := exists_units order
  rw [units] at h ⊢
  have less : b.mantissa < n := by exact_mod_cast lt_of_mul_lt_mul_right h (zpow_pos two_pos _).le
  exact mul_le_mul_of_nonneg_right (by exact_mod_cast less) (zpow_pos two_pos _).le

/-- The next smaller number is at least one last bit away, or half of one below a power of two. -/
lemma le_pred (h : b'.value < b.value) : b'.value ≤ (b.mantissa - 1) * 2 ^ b.exponent ∨
    b.mantissa = 2 ^ 52 ∧ b.exponent ≠ -1074 ∧ b'.value ≤ (b.mantissa - 1 / 2) * 2 ^ b.exponent := by
  have scale : (0 : ℚ) < 2 ^ b.exponent := zpow_pos two_pos _
  rcases le_or_gt b.exponent b'.exponent with order | less
  · obtain ⟨n, units⟩ := exists_units order
    rw [units] at h ⊢
    have less : n < b.mantissa := by exact_mod_cast lt_of_mul_lt_mul_right h scale.le
    have room : (n : ℚ) + 1 ≤ b.mantissa := by exact_mod_cast less
    exact .inl (mul_le_mul_of_nonneg_right (by linarith) scale.le)
  · have least := b'.least
    have full := b.normal.resolve_right (by omega)
    have lt : (b'.mantissa : ℚ) + 1 ≤ 2 ^ 53 := by exact_mod_cast b'.lt
    have below : b'.value ≤ (2 ^ 52 - 1 / 2) * 2 ^ b.exponent :=
      calc b'.value ≤ (2 ^ 53 - 1) * 2 ^ b'.exponent :=
            mul_le_mul_of_nonneg_right (by linarith) (zpow_pos two_pos _).le
        _ ≤ (2 ^ 53 - 1) * 2 ^ (b.exponent - 1) :=
          mul_le_mul_of_nonneg_left (zpow_le_zpow_right₀ one_le_two (by omega)) (by norm_num)
        _ = (2 ^ 52 - 1 / 2) * 2 ^ b.exponent := by
          rw [zpow_sub_one₀ two_ne_zero]
          ring
    rcases full.eq_or_lt with power | more
    · refine .inr ⟨power.symm, by omega, ?_⟩
      rw [← power]
      exact_mod_cast below
    · have room : (2 : ℚ) ^ 52 + 1 ≤ b.mantissa := by exact_mod_cast more
      exact .inl (below.trans (mul_le_mul_of_nonneg_right (by linarith) scale.le))

/-- What is nearest is not taken past a number above. -/
lemma IsNearest.value_le_of_le (near : b.IsNearest v) (h : v ≤ b'.value) : b.value ≤ b'.value := by
  have scale : (0 : ℚ) < 2 ^ b.exponent := zpow_pos two_pos _
  by_contra passed
  rcases le_pred (not_le.1 passed) with below | ⟨power, narrow, below⟩
  · have low := near.bounds.1
    rw [le_div_iff₀ scale] at low
    nlinarith
  · have low := near.narrow power narrow
    rw [le_div_iff₀ scale] at low
    nlinarith

/-- What is nearest is not taken past a number below. -/
lemma IsNearest.le_value_of_le (near : b.IsNearest v) (h : b'.value ≤ v) : b'.value ≤ b.value := by
  have scale : (0 : ℚ) < 2 ^ b.exponent := zpow_pos two_pos _
  by_contra passed
  have above := succ_le (not_le.1 passed)
  have high := near.bounds.2
  rw [div_le_iff₀ scale] at high
  nlinarith

/-- What is nearest is near. -/
lemma IsNearest.error (near : b.IsNearest v) : |b.value - v| ≤ v / 2 ^ 53 + underflow := by
  have scale : (0 : ℚ) < 2 ^ b.exponent := zpow_pos two_pos _
  have tiny := underflow_pos
  obtain ⟨low, high⟩ := near.bounds
  rw [le_div_iff₀ scale] at low
  rw [div_le_iff₀ scale] at high
  have distance : |b.value - v| ≤ 1 / 2 * 2 ^ b.exponent := by
    rw [value, abs_le]
    constructor <;> linarith
  by_cases bottom : b.exponent = -1074
  · have half : 1 / 2 * (2 : ℚ) ^ b.exponent = underflow := by
      rw [bottom, one_div, ← zpow_neg_one, ← zpow_add₀ two_ne_zero]
      rfl
    have pos := near.pos
    linarith [div_nonneg pos.le (by norm_num : (0 : ℚ) ≤ 2 ^ 53)]
  have full := b.normal.resolve_right bottom
  rcases full.eq_or_lt with power | more
  · -- Below a power of two the neighbour is half as far away.
    have narrow := near.narrow power.symm bottom
    rw [le_div_iff₀ scale] at narrow
    rw [← power] at narrow high
    push_cast at narrow high
    rw [value, ← power, abs_le]
    push_cast
    constructor <;> linarith
  · have room : (2 : ℚ) ^ 52 + 1 ≤ b.mantissa := by exact_mod_cast more
    have wide : (2 ^ 52 : ℚ) * 2 ^ b.exponent ≤ v := by nlinarith
    linarith

end Binary

end SensorSim.Decimal
