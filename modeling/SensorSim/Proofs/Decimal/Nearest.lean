import Mathlib
import SensorSim.Decimal.Reading
import SensorSim.Proofs.Decimal.Operations

/-!
# Reading the nearest number

The number that is read from a decimal is nearest to it, whichever way it is computed
(`nearest_eq`): from two numbers of the format where the digits and the power of ten are such, and
exactly otherwise.
-/

namespace SensorSim.Decimal

open Float.Model (Format UnpackedFloat)

variable {b : Binary}

/-! ## Exact numbers -/

namespace Binary

/-- A natural number of 53 bits is brought to exactly 53. -/
lemma two_pow_le_shift {c : ℕ} (pos : 0 < c) (lt : c < 2 ^ 53) :
    2 ^ 52 ≤ c * 2 ^ (52 - c.log2) ∧ c * 2 ^ (52 - c.log2) < 2 ^ 53 := by
  have bits := (Nat.log2_lt pos.ne').2 lt
  have next : c < 2 ^ (c.log2 + 1) := Nat.lt_log2_self
  refine ⟨?_, ?_⟩
  · calc 2 ^ 52 = 2 ^ c.log2 * 2 ^ (52 - c.log2) := by
          rw [← Nat.pow_add]
          congr 1
          omega
      _ ≤ c * 2 ^ (52 - c.log2) := Nat.mul_le_mul_right _ (Nat.log2_self_le pos.ne')
  · calc c * 2 ^ (52 - c.log2) < 2 ^ (c.log2 + 1) * 2 ^ (52 - c.log2) :=
          Nat.mul_lt_mul_of_pos_right next (by positivity)
      _ = 2 ^ 53 := by
        rw [← Nat.pow_add]
        congr 1
        omega

/-- A natural number of 53 bits times a power of two. -/
def exact (c : ℕ) (j : ℤ) (pos : 0 < c) (lt : c < 2 ^ 53) (least : -1022 ≤ j) (greatest : j ≤ 971) : Binary where
  mantissa := c * 2 ^ (52 - c.log2)
  exponent := j - (52 - c.log2 : ℕ)
  pos := by positivity
  lt := (two_pow_le_shift pos lt).2
  least := by omega
  greatest := by omega
  normal := .inl (two_pow_le_shift pos lt).1

section

variable {c : ℕ} {j : ℤ} {pos : 0 < c} {lt : c < 2 ^ 53} {least : -1022 ≤ j} {greatest : j ≤ 971}

/-- A natural number of at most 53 bits times a power of two is exact. -/
lemma value_exact : (exact c j pos lt least greatest).value = c * 2 ^ j := by
  simp only [value, exact]
  push_cast
  rw [zpow_sub₀ two_ne_zero, zpow_natCast]
  field_simp

end

end Binary

/-- A power of ten whose odd part has 53 bits. -/
def powerOfTen (e : Fin 23) : Binary :=
  .exact (5 ^ e.val) e (by positivity) ((Nat.pow_le_pow_right (by norm_num) (Nat.le_of_lt_succ e.isLt)).trans_lt
    (by norm_num)) (by omega) (by omega)

/-- The small powers of ten are exact. -/
lemma value_powerOfTen (e : Fin 23) : (powerOfTen e).value = 10 ^ e.val := by
  rw [powerOfTen, Binary.value_exact, zpow_natCast, Nat.cast_pow, ← mul_pow]
  norm_num

/-- The first powers of ten stand in a table. -/
lemma exactlyRepresentablePowersOfTen_eq (e : Fin 23) :
    Float.exactlyRepresentablePowersOfTen[e] = (powerOfTen e).toFloat .positive := by
  have bits : ∀ e : Fin 23, Float.exactlyRepresentablePowersOfTen[e].toBits.toNat =
      false.toNat * 2 ^ 63 + (powerOfTen e).biased * 2 ^ 52 + (powerOfTen e).mantissa % 2 ^ 52 := by
    decide +kernel
  refine eq_of_toBits ?_
  rw [bits, ← Binary.toNat_toBits]
  rfl

/-- A natural number of 64 bits becomes the nearest number. -/
lemma toFloat_of_nearest {n : UInt64} (near : b.IsNearest n.toNat) : n.toFloat = b.toFloat .positive := by
  have pos : 0 < n.toNat := by exact_mod_cast near.pos
  have rounded : UnpackedFloat.ofUInt64 .binary64 n = b.unpacked .positive := by
    have order : compare (n.toNat : ℤ) 0 = .gt := by
      rw [Int.compare_eq_gt]
      omega
    rw [UnpackedFloat.ofUInt64, UnpackedFloat.ofNat, UnpackedFloat.ofInt, UnpackedFloat.normalize, order]
    exact (isRounding_round pos 0 .positive).eq_of_nearest (by simpa using near)
  rw [UInt64.toFloat, Float.Model.ofUInt64, rounded]
  rfl

/-! ## Decimals -/

/-- A decimal that a number is nearest to has digits. -/
lemma Binary.IsNearest.digits_pos {c : ℕ} {k : ℤ} (near : b.IsNearest (c * 10 ^ k)) : 0 < c := by
  have product := near.pos
  by_contra absent
  simp [Nat.eq_zero_of_not_pos absent] at product

/-- A decimal of few digits is computed from two numbers of the format. -/
lemma ofScientific_of_small {c : ℕ} {k : ℤ} (near : b.IsNearest (c * 10 ^ k)) (small : c < 2 ^ 53)
    (place : k.natAbs ≤ 22) : Float.ofScientific c (k < 0) k.natAbs = b.toFloat .positive := by
  have pos := near.digits_pos
  let digits : Binary := .exact c 0 pos small (by norm_num) (by norm_num)
  let power : Fin 23 := ⟨k.natAbs, Nat.lt_succ_of_le place⟩
  have value : digits.value = c := by
    rw [Binary.value_exact, zpow_zero, mul_one]
  have front : c.toUInt64.toFloat = digits.toFloat .positive := by
    refine toFloat_of_nearest ?_
    have same : (c.toUInt64.toNat : ℚ) = digits.value := by
      rw [value, UInt64.toNat_ofNat', Nat.mod_eq_of_lt (by omega)]
    rw [same]
    exact digits.isNearest_value
  rw [Float.ofScientific, dif_pos ⟨small, place⟩]
  show (if decide (k < 0) = true then c.toUInt64.toFloat / Float.exactlyRepresentablePowersOfTen[power]
    else c.toUInt64.toFloat * Float.exactlyRepresentablePowersOfTen[power]) = _
  rw [front, exactlyRepresentablePowersOfTen_eq]
  by_cases negative : k < 0
  · rw [if_pos (decide_eq_true negative)]
    refine Binary.toFloat_div ?_ .positive .positive
    have inverse : (10 : ℚ) ^ k.natAbs = (10 ^ k)⁻¹ := by
      rw [← zpow_natCast, ← zpow_neg]
      congr 1
      omega
    rw [value, value_powerOfTen, inverse, div_inv_eq_mul]
    exact near
  · rw [if_neg (by simpa using negative)]
    refine Binary.toFloat_mul ?_ .positive .positive
    have same : (10 : ℚ) ^ k.natAbs = 10 ^ k := by
      rw [← zpow_natCast]
      congr 1
      omega
    rw [value, value_powerOfTen, same]
    exact near

/-- Any other decimal is computed exactly and rounded once. -/
lemma unpacked_ofScientific {c : ℕ} {k : ℤ} (near : b.IsNearest (c * 10 ^ k)) :
    UnpackedFloat.ofScientific .binary64 c k = b.unpacked .positive := by
  obtain ⟨least, greatest⟩ := near.range
  have pos := near.digits_pos
  have one : (1 : ℚ) ≤ c := by exact_mod_cast pos
  -- The range of the format keeps the exponent within the bounds past which nothing is computed.
  have high : k ≤ 2048 := by
    by_contra large
    have power : (2 : ℚ) ^ k < 2 ^ (1024 : ℤ) :=
      calc (2 : ℚ) ^ k ≤ 10 ^ k := zpow_le_zpow_left₀ (by omega) two_pos.le (by norm_num)
        _ ≤ c * 10 ^ k := le_mul_of_one_le_left (zpow_pos (by norm_num) _).le one
        _ < 2 ^ (1024 : ℤ) := greatest
    have exponent := lt_of_two_zpow_lt power
    omega
  have low : -((2 ^ 11 : ℤ) + c.log2) ≤ k := by
    by_contra small
    have top : (c : ℚ) < 2 ^ (c.log2 + 1) := by exact_mod_cast Nat.lt_log2_self (n := c)
    have power : (2 : ℚ) ^ (-1075 : ℤ) < 2 ^ ((c.log2 + 1 : ℕ) + k) :=
      calc (2 : ℚ) ^ (-1075 : ℤ) ≤ c * 10 ^ k := least
        _ < 2 ^ (c.log2 + 1) * 10 ^ k := mul_lt_mul_of_pos_right top (zpow_pos (by norm_num) _)
        _ ≤ 2 ^ (c.log2 + 1) * 2 ^ k := by
          obtain ⟨n, rfl⟩ : ∃ n : ℕ, k = -n := ⟨k.natAbs, by omega⟩
          rw [zpow_neg, zpow_neg, zpow_natCast, zpow_natCast]
          exact mul_le_mul_of_nonneg_left (inv_anti₀ (by positivity) (pow_le_pow_left₀ two_pos.le (by norm_num) n))
            (by positivity)
        _ = 2 ^ ((c.log2 + 1 : ℕ) + k) := by rw [zpow_add₀ two_ne_zero, zpow_natCast]
    have exponent := lt_of_two_zpow_lt power
    omega
  rw [UnpackedFloat.ofScientific, dif_neg pos.ne', if_neg (by show ¬k > 2 ^ 11; omega), if_neg (not_lt.2 low)]
  have bits : Format.binary64.mantissaBits = 53 := rfl
  simp only [bits, Nat.shiftLeft_eq]
  split
  · -- A whole power multiplies, with 53 bits more so that the product is long enough to be rounded.
    rename_i nonneg
    have value : (c : ℚ) * 10 ^ k = (c * 2 ^ 53 : ℕ) * 2 ^ (-(53 : ℕ) : ℤ) * ((10 ^ k.toNat : ℕ) * 2 ^ (0 : ℤ)) := by
      obtain ⟨n, rfl⟩ := Int.eq_ofNat_of_zero_le nonneg
      rw [Int.toNat_natCast, zpow_natCast, zpow_neg, zpow_natCast, zpow_zero]
      push_cast
      field_simp
      norm_num
    rw [value] at near
    have power : 0 < 10 ^ k.toNat := by positivity
    refine (isRounding_mul _ _ (.inl ?_) .positive .positive).eq_of_nearest near
    calc 2 ^ 52 ≤ 1 * 2 ^ 53 * 1 := by norm_num
      _ ≤ c * 2 ^ 53 * 10 ^ k.toNat := Nat.mul_le_mul (Nat.mul_le_mul_right _ pos) power
  · rename_i negative
    have value : (c : ℚ) * 10 ^ k = c * 2 ^ (0 : ℤ) / ((10 ^ (-k).toNat : ℕ) * 2 ^ (0 : ℤ)) := by
      rw [zpow_zero, mul_one, mul_one]
      push_cast
      rw [← zpow_natCast, Int.toNat_of_nonneg (by omega), zpow_neg, div_inv_eq_mul]
    rw [value] at near
    exact (isRounding_div _ _ _ _ .positive .positive).eq_of_nearest near

/-- The number read from a decimal is the nearest one. -/
lemma nearest_eq {c : ℕ} {k : ℤ} (near : b.IsNearest (c * 10 ^ k)) : nearest c k = b.toFloat .positive := by
  by_cases small : c < 2 ^ 53 ∧ k.natAbs ≤ 22
  · exact ofScientific_of_small near small.1 small.2
  have exponent : (if decide (k < 0) = true then Int.negOfNat k.natAbs else Int.ofNat k.natAbs) = k := by
    by_cases negative : k < 0
    · rw [if_pos (decide_eq_true negative), Int.negOfNat_eq, Int.ofNat_eq_natCast]
      omega
    · rw [if_neg (by simpa using negative), Int.ofNat_eq_natCast]
      omega
  rw [nearest, Float.ofScientific, dif_neg small]
  simp only [exponent, Float.Model.ofScientific, unpacked_ofScientific near]
  rfl

/-! ## Natural numbers -/

/-- A natural number of 64 bits becomes a number of the format that is neither half as large nor
twice. -/
lemma exists_ofNat_eq {n : ℕ} (pos : 0 < n) (lt : n < 2 ^ 64) :
    ∃ b : Binary, Float.ofNat n = b.toFloat .positive ∧ 2 ^ (-1 : ℤ) ≤ b.value ∧ b.value < 2 ^ (65 : ℤ) := by
  have one : (1 : ℚ) ≤ n := by exact_mod_cast pos
  have range : (n : ℚ) < 2 ^ (64 : ℤ) := by exact_mod_cast lt
  obtain ⟨b, near⟩ := Binary.exists_isNearest (Binary.underflow_lt (j := 0) (by norm_num) (by simpa using one))
    (Binary.lt_overflow (by norm_num) range)
  obtain ⟨high, low⟩ := near.value_bounds
  refine ⟨b, ?_, ?_, ?_⟩
  · show nearest n 0 = _
    refine nearest_eq ?_
    rw [zpow_zero, mul_one]
    exact near
  · rw [zpow_neg_one]
    linarith
  · rw [show (65 : ℤ) = 64 + 1 by norm_num, zpow_add_one₀ two_ne_zero]
    linarith

/-- The quotient of two natural numbers of 64 bits is finite. -/
lemma isFinite_ofNat_div_ofNat {m n : ℕ} (hm : 0 < m) (hm' : m < 2 ^ 64) (hn : 0 < n) (hn' : n < 2 ^ 64) :
    (Float.ofNat m / Float.ofNat n).isFinite := by
  obtain ⟨b₁, e₁, low₁, high₁⟩ := exists_ofNat_eq hm hm'
  obtain ⟨b₂, e₂, low₂, high₂⟩ := exists_ofNat_eq hn hn'
  have pos₂ : 0 < b₂.value := (zpow_pos two_pos _).trans_le low₂
  have low : 2 ^ (-66 : ℤ) ≤ b₁.value / b₂.value := by
    rw [le_div_iff₀ pos₂]
    calc (2 : ℚ) ^ (-66 : ℤ) * b₂.value ≤ 2 ^ (-66 : ℤ) * 2 ^ (65 : ℤ) :=
          mul_le_mul_of_nonneg_left high₂.le (zpow_pos two_pos _).le
      _ = 2 ^ (-1 : ℤ) := (zpow_add₀ two_ne_zero _ _).symm
      _ ≤ b₁.value := low₁
  have high : b₁.value / b₂.value < 2 ^ (66 : ℤ) := by
    rw [div_lt_iff₀ pos₂]
    calc b₁.value < 2 ^ (65 : ℤ) := high₁
      _ = 2 ^ (66 : ℤ) * 2 ^ (-1 : ℤ) := zpow_add₀ two_ne_zero 66 (-1)
      _ ≤ 2 ^ (66 : ℤ) * b₂.value := mul_le_mul_of_nonneg_left low₂ (zpow_pos two_pos _).le
  obtain ⟨b, near⟩ := Binary.exists_isNearest (Binary.underflow_lt (by norm_num) low)
    (Binary.lt_overflow (by norm_num) high)
  rw [e₁, e₂, Binary.toFloat_div near]
  exact b.isFinite_toFloat _

end SensorSim.Decimal
