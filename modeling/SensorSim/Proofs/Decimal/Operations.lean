import Mathlib
import SensorSim.Proofs.Decimal.Parts

/-!
# Quotients and products

The operations give the number of the format that is nearest to the exact result, wherever it has
one (`Binary.toFloat_div`, `Binary.toFloat_mul`).
-/

namespace SensorSim.Decimal

open Float.Model (Format UnpackedFloat totalExponent)
open Float.Model.UnpackedFloat (Sign accuracyOfFraction divCore)

/-- A remainder says where a quotient lies between two natural numbers. -/
lemma locates_accuracyOfFraction (n : ℕ) {d : ℕ} (h : 0 < d) :
    Locates (.ofMantissaAndAccuracy (n / d) (accuracyOfFraction (n % d) d)) (n / d) := by
  have pos : (0 : ℚ) < d := by exact_mod_cast h
  have whole : (n : ℚ) / d = (n / d : ℕ) + (n % d : ℕ) / d := by
    rw [div_eq_iff pos.ne', add_mul, div_mul_cancel₀ _ pos.ne', mul_comm]
    exact_mod_cast (Nat.div_add_mod n d).symm
  have rest : ((n % d : ℕ) : ℚ) < d := by exact_mod_cast Nat.mod_lt n h
  rw [whole]
  generalize n / d = q
  generalize n % d = r at rest ⊢
  unfold accuracyOfFraction
  split
  · rename_i zero
    rw [locates_exact, zero, Nat.cast_zero, zero_div, add_zero]
  rename_i nonzero
  have positive : (0 : ℚ) < r := by exact_mod_cast Nat.pos_of_ne_zero nonzero
  have part : (0 : ℚ) < r / d := div_pos positive pos
  -- Twice the remainder against the divisor tells on which side of the middle the rest lies.
  rcases Nat.lt_trichotomy (2 * r) d with less | half | more
  · rw [Nat.compare_eq_lt.2 less, locates_below]
    have below : (2 : ℚ) * r < d := by exact_mod_cast less
    have half : (r : ℚ) / d < 1 / 2 := by
      rw [div_lt_div_iff₀ pos two_pos]
      linarith
    exact ⟨by linarith, by linarith⟩
  · rw [Nat.compare_eq_eq.2 half, locates_middle]
    have half : (r : ℚ) / d = 1 / 2 := by
      rw [div_eq_div_iff pos.ne' two_ne_zero, ← half]
      push_cast
      ring
    rw [half]
  · rw [Nat.compare_eq_gt.2 more, locates_above]
    have above : (d : ℚ) < 2 * r := by exact_mod_cast more
    have half : 1 / 2 < (r : ℚ) / d := by
      rw [div_lt_div_iff₀ two_pos pos]
      linarith
    have whole : (r : ℚ) / d < 1 := (div_lt_one pos).2 rest
    exact ⟨by linarith, by linarith⟩

/-- A quotient is computed to as many bits as are kept, with its remainder. -/
lemma isRounding_div {m₁ m₂ : ℕ} (h₁ : 0 < m₁) (h₂ : 0 < m₂) (e₁ e₂ : ℤ) (s₁ s₂ : Sign) :
    IsRounding (m₁ * 2 ^ e₁ / (m₂ * 2 ^ e₂)) (s₁ / s₂)
      (.div .binary64 (.finite s₁ m₁ e₁ h₁) (.finite s₂ m₂ e₂ h₂)) := by
  have target : ∃ t, divCore .binary64 m₁ e₁ m₂ e₂ =
      (m₁ * 2 ^ (e₁ - e₂ - t).toNat / m₂, t, accuracyOfFraction (m₁ * 2 ^ (e₁ - e₂ - t).toNat % m₂) m₂) ∧
      t ≤ e₁ - e₂ ∧ t ≤ Format.binary64.targetExponent (totalExponent m₁ e₁ - totalExponent m₂ e₂) := by
    refine ⟨_, ?_, min_le_left _ _, min_le_right _ _⟩
    simp only [divCore, Nat.shiftLeft_eq]
  obtain ⟨t, core, finer, fine⟩ := target
  have scaled : (m₁ * 2 ^ e₁ / (m₂ * 2 ^ e₂) : ℚ) / 2 ^ t = (m₁ * 2 ^ (e₁ - e₂ - t).toNat : ℕ) / m₂ := by
    push_cast
    rw [← zpow_natCast, Int.toNat_of_nonneg (by omega), zpow_sub₀ two_ne_zero, zpow_sub₀ two_ne_zero]
    field_simp
  simp only [UnpackedFloat.div, core]
  refine ⟨_, t, _, rfl, ?_, ?_⟩
  · rw [scaled]
    exact locates_accuracyOfFraction _ h₂
  · rw [targetExponent_eq]
    rw [targetExponent_eq_max, totalExponent, totalExponent] at fine
    rcases le_or_gt t (-1074) with bottom | above
    · exact le_max_of_le_right bottom
    · -- The dividend was given 53 bits more than the divisor has, so that 52 of them are in the quotient.
      have wide : 2 ^ 52 ≤ m₁ * 2 ^ (e₁ - e₂ - t).toNat / m₂ := by
        rw [Nat.le_div_iff_mul_le h₂]
        calc 2 ^ 52 * m₂ ≤ 2 ^ 52 * 2 ^ (m₂.log2 + 1) := Nat.mul_le_mul_left _ Nat.lt_log2_self.le
          _ = 2 ^ (m₂.log2 + 53) := by ring
          _ ≤ 2 ^ (m₁.log2 + (e₁ - e₂ - t).toNat) := Nat.pow_le_pow_right two_pos (by omega)
          _ = 2 ^ m₁.log2 * 2 ^ (e₁ - e₂ - t).toNat := Nat.pow_add _ _ _
          _ ≤ m₁ * 2 ^ (e₁ - e₂ - t).toNat := Nat.mul_le_mul_right _ (Nat.log2_self_le h₁.ne')
      have bits := (Nat.le_log2 (by omega)).2 wide
      omega

/-- A product is computed exactly; it has at least 53 bits, or lies at the bottom of the range. -/
lemma isRounding_mul {m₁ m₂ : ℕ} (h₁ : 0 < m₁) (h₂ : 0 < m₂) {e₁ e₂ : ℤ}
    (full : 2 ^ 52 ≤ m₁ * m₂ ∨ e₁ + e₂ ≤ -1074) (s₁ s₂ : Sign) :
    IsRounding (m₁ * 2 ^ e₁ * (m₂ * 2 ^ e₂)) (s₁ * s₂)
      (.mul .binary64 (.finite s₁ m₁ e₁ h₁) (.finite s₂ m₂ e₂ h₂)) := by
  refine ⟨m₁ * m₂, e₁ + e₂, .exact, rfl, ?_, ?_⟩
  · rw [locates_exact]
    push_cast
    rw [zpow_add₀ two_ne_zero]
    field_simp
  · rw [targetExponent_eq]
    rcases full with full | bottom
    · have bits := (Nat.le_log2 (by omega)).2 full
      omega
    · exact le_max_of_le_right bottom

/-- Shifting up by some bits adds as many to the logarithm. -/
lemma log2_mul_two_pow {m : ℕ} (h : 0 < m) (k : ℕ) : (m * 2 ^ k).log2 = m.log2 + k := by
  rw [Nat.log2_eq_iff (by positivity)]
  refine ⟨?_, ?_⟩
  · rw [Nat.pow_add]
    exact Nat.mul_le_mul_right _ (Nat.log2_self_le h.ne')
  · rw [Nat.add_right_comm, Nat.pow_add]
    exact Nat.mul_lt_mul_of_pos_right Nat.lt_log2_self (by positivity)

/-- A natural number times a power of two is given more bits, if it has too few. -/
lemma isRounding_round {m : ℕ} (h : 0 < m) (e : ℤ) (s : Sign) :
    IsRounding (m * 2 ^ e) s (.round .binary64 s m e) := by
  simp only [UnpackedFloat.round, UnpackedFloat.decreaseExponent, Nat.shiftLeft_eq]
  generalize shift : (e - Format.binary64.targetExponent (totalExponent m e)).toNat = k
  refine ⟨_, _, _, rfl, ?_, ?_⟩
  · rw [locates_exact]
    push_cast
    rw [zpow_sub₀ two_ne_zero, zpow_natCast]
    field_simp
  · rw [targetExponent_eq] at shift ⊢
    rw [log2_mul_two_pow h]
    omega

/-- A quotient is computed on what the bits of both numbers stand for. -/
lemma div_eq (x y : Float) : x / y = .ofModel (.pack (.div .binary64 x.toModel.unpack y.toModel.unpack)) :=
  rfl

/-- A product is computed on what the bits of both numbers stand for. -/
lemma mul_eq (x y : Float) : x * y = .ofModel (.pack (.mul .binary64 x.toModel.unpack y.toModel.unpack)) :=
  rfl

namespace Binary

variable {b b₁ b₂ : Binary}

/-- Of two numbers one is normal, or both lie at the bottom of the range. -/
lemma two_pow_le_mul (b₁ b₂ : Binary) :
    2 ^ 52 ≤ b₁.mantissa * b₂.mantissa ∨ b₁.exponent + b₂.exponent ≤ -1074 := by
  have pos₁ := b₁.pos
  have pos₂ := b₂.pos
  rcases b₁.normal with full | bottom₁
  · exact .inl (full.trans (Nat.le_mul_of_pos_right _ pos₂))
  rcases b₂.normal with full | bottom₂
  · exact .inl (full.trans (Nat.le_mul_of_pos_left _ pos₁))
  · exact .inr (by omega)

/-- The quotient of two numbers of the format is the number nearest to the quotient of their
values. -/
lemma toFloat_div (near : b.IsNearest (b₁.value / b₂.value)) (s₁ s₂ : Sign) :
    b₁.toFloat s₁ / b₂.toFloat s₂ = b.toFloat (s₁ / s₂) := by
  rw [div_eq, unpack_toFloat, unpack_toFloat, unpacked, unpacked, (isRounding_div _ _ _ _ _ _).eq_of_nearest near]
  rfl

/-- The product of two numbers of the format is the number nearest to the product of their
values. -/
lemma toFloat_mul (near : b.IsNearest (b₁.value * b₂.value)) (s₁ s₂ : Sign) :
    b₁.toFloat s₁ * b₂.toFloat s₂ = b.toFloat (s₁ * s₂) := by
  rw [mul_eq, unpack_toFloat, unpack_toFloat, unpacked, unpacked,
    (isRounding_mul _ _ (b₁.two_pow_le_mul b₂) _ _).eq_of_nearest near]
  rfl

end Binary

end SensorSim.Decimal
