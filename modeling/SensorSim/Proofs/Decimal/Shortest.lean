import Mathlib
import SensorSim.Decimal.Shortest
import SensorSim.Proofs.Decimal.Rounding

/-!
# The shortest digits are nearest

The span of a number of the format is made of decimals to which the number is nearest
(`isNearest_of_holds`), and a grid that is fine enough has a point in it (`Binary.exists_coarsest`).
So the digits that are printed are those of such a decimal (`Binary.isNearest_shortest`).
-/

namespace SensorSim.Decimal

/-- A power with an integer exponent as a quotient of two with natural ones. -/
lemma zpow_eq_div {a : ℚ} (ha : a ≠ 0) (k : ℤ) : a ^ k = a ^ k.toNat / a ^ (-k).toNat := by
  rw [eq_div_iff (pow_ne_zero _ ha), ← zpow_natCast, ← zpow_natCast, ← zpow_add₀ ha]
  congr 1
  omega

/-! ## Spans -/

/-- A point lies in a span when it does so as a rational number. -/
lemma Span.holds_iff {s : Span} {c : ℕ} {k : ℤ} : s.holds c k ↔
    if s.closed then s.lower ≤ (c * 10 ^ k * s.denominator : ℚ) ∧ (c * 10 ^ k * s.denominator : ℚ) ≤ s.upper
    else s.lower < (c * 10 ^ k * s.denominator : ℚ) ∧ (c * 10 ^ k * s.denominator : ℚ) < s.upper := by
  have unit : (0 : ℚ) < 10 ^ (-k).toNat := by positivity
  have point : (c * 10 ^ k * s.denominator : ℚ) = (c * 10 ^ k.toNat * s.denominator : ℕ) / 10 ^ (-k).toNat := by
    rw [zpow_eq_div (by norm_num)]
    push_cast
    ring
  rw [point, le_div_iff₀ unit, div_le_iff₀ unit, lt_div_iff₀ unit, div_lt_iff₀ unit, Span.holds]
  simp only [Nat.pow_eq]
  split <;> simp only [Bool.and_eq_true, decide_eq_true_eq] <;> norm_cast

/-- The least of a span, in quarters of the last place. -/
def leastQuarter (m : ℕ) (e : ℤ) : ℕ :=
  if m = 2 ^ 52 ∧ e ≠ -1074 then 4 * m - 1 else 4 * m - 2

/-- In quarters of the last place, the span of a number reaches from its least to two above it, with
these ends where the mantissa is even. -/
lemma holds_ofBinary_iff {m : ℕ} {e : ℤ} {c : ℕ} {k : ℤ} : (Span.ofBinary m e).holds c k ↔
    if m % 2 = 0 then leastQuarter m e ≤ (c * 10 ^ k / 2 ^ (e - 2) : ℚ) ∧ (c * 10 ^ k / 2 ^ (e - 2) : ℚ) ≤ 4 * m + 2
    else leastQuarter m e < (c * 10 ^ k / 2 ^ (e - 2) : ℚ) ∧ (c * 10 ^ k / 2 ^ (e - 2) : ℚ) < 4 * m + 2 := by
  have scale : (0 : ℚ) < 2 ^ (e - 2).toNat := by positivity
  have grid : (c * 10 ^ k * (Span.ofBinary m e).denominator : ℚ) = c * 10 ^ k / 2 ^ (e - 2) * 2 ^ (e - 2).toNat := by
    have opposite : -(e - 2) = 2 - e := by ring
    simp only [zpow_eq_div two_ne_zero (e - 2), opposite, Span.ofBinary, Nat.pow_eq]
    push_cast
    field_simp
  have lower : ((Span.ofBinary m e).lower : ℚ) = leastQuarter m e * 2 ^ (e - 2).toNat := by
    simp only [Span.ofBinary, leastQuarter, Nat.pow_eq]
    push_cast
    rfl
  have upper : ((Span.ofBinary m e).upper : ℚ) = (4 * m + 2) * 2 ^ (e - 2).toNat := by
    simp only [Span.ofBinary, Nat.pow_eq]
    push_cast
    rfl
  rw [Span.holds_iff, grid, lower, upper]
  simp only [mul_le_mul_iff_left₀ scale, mul_lt_mul_iff_left₀ scale, Span.ofBinary, decide_eq_true_eq]

namespace Binary

variable {b : Binary} {c : ℕ} {k : ℤ}

/-- A decimal in the span of a number is nearest to the number. -/
lemma isNearest_of_holds (h : (Span.ofBinary b.mantissa b.exponent).holds c k) : b.IsNearest (c * 10 ^ k) := by
  have pos := b.pos
  have quarters : (c * 10 ^ k / 2 ^ (b.exponent - 2) : ℚ) = 4 * (c * 10 ^ k / 2 ^ b.exponent) := by
    rw [zpow_sub₀ two_ne_zero]
    field_simp
    norm_num
  have least : (4 * b.mantissa - 2 : ℚ) ≤ leastQuarter b.mantissa b.exponent := by
    have bound : 4 * b.mantissa ≤ leastQuarter b.mantissa b.exponent + 2 := by
      unfold leastQuarter
      split <;> omega
    have bound : (4 * b.mantissa : ℚ) ≤ leastQuarter b.mantissa b.exponent + 2 := by exact_mod_cast bound
    linarith
  -- The neighbour below a power of two is half as far away, and the span is as much shorter there.
  have narrow : b.mantissa = 2 ^ 52 → b.exponent ≠ -1074 →
      (4 * b.mantissa - 1 : ℚ) ≤ leastQuarter b.mantissa b.exponent := by
    intro power above
    rw [leastQuarter, if_pos ⟨power, above⟩]
    push_cast [Nat.cast_sub (show 1 ≤ 4 * b.mantissa by omega)]
    rfl
  rw [holds_ofBinary_iff, quarters] at h
  have within : (leastQuarter b.mantissa b.exponent : ℚ) ≤ 4 * (c * 10 ^ k / 2 ^ b.exponent) ∧
      4 * (c * 10 ^ k / 2 ^ b.exponent : ℚ) ≤ 4 * b.mantissa + 2 := by
    split at h
    · exact h
    · exact ⟨h.1.le, h.2.le⟩
  obtain ⟨low, high⟩ := within
  refine ⟨?_, ?_, ?_⟩
  · rw [abs_le]
    constructor <;> linarith
  · intro tie
    by_contra odd
    rw [if_neg odd] at h
    rcases eq_or_eq_neg_of_abs_eq tie with up | down <;> linarith
  · intro power above
    have floor := narrow power above
    linarith

/-- A decimal less than half the last place above a number is in its span. -/
lemma holds_of_above (above : b.value < c * 10 ^ k) (below : (c * 10 ^ k : ℚ) < b.value + 2 ^ (b.exponent - 1)) :
    (Span.ofBinary b.mantissa b.exponent).holds c k := by
  have scale : (0 : ℚ) < 2 ^ (b.exponent - 2) := zpow_pos two_pos _
  have value : b.value = 4 * b.mantissa * 2 ^ (b.exponent - 2) := by
    rw [Binary.value, zpow_sub₀ two_ne_zero]
    field_simp
    norm_num
  have half : (2 : ℚ) ^ (b.exponent - 1) = 2 * 2 ^ (b.exponent - 2) := by
    rw [← zpow_one_add₀ two_ne_zero]
    congr 1
    ring
  have low : (4 * b.mantissa : ℚ) < c * 10 ^ k / 2 ^ (b.exponent - 2) := by
    rw [lt_div_iff₀ scale, ← value]
    exact above
  have high : (c * 10 ^ k / 2 ^ (b.exponent - 2) : ℚ) < 4 * b.mantissa + 2 := by
    rw [div_lt_iff₀ scale, add_mul, ← value, ← half]
    exact below
  have least : (leastQuarter b.mantissa b.exponent : ℚ) ≤ 4 * b.mantissa := by
    have bound : leastQuarter b.mantissa b.exponent ≤ 4 * b.mantissa := by
      unfold leastQuarter
      split <;> omega
    exact_mod_cast bound
  rw [holds_ofBinary_iff]
  split <;> constructor <;> linarith

end Binary

/-! ## Grids -/

/-- What a grid is asked for lies in the span. -/
lemma Span.holds_of_onGrid? {s : Span} {c : ℕ} {k : ℤ} (h : s.onGrid? k = some c) : s.holds c k := by
  simp only [Span.onGrid?] at h
  split at h
  · rename_i below above
    split at h <;> cases h <;> assumption
  · rename_i below above
    cases h
    exact below
  · rename_i below above
    cases h
    exact above
  · cases h

/-- The coarsest decimal of a span that is found is held by it. -/
lemma Span.holds_of_coarsest? {s : Span} {d : Digits} {fuel : ℕ} {k : ℤ} (h : s.coarsest? fuel k = some d) :
    s.holds d.digits d.exponent := by
  induction fuel generalizing k with
  | zero => cases h
  | succ fuel ih =>
    rw [Span.coarsest?] at h
    cases grid : s.onGrid? k with
    | some c =>
      rw [grid] at h
      cases h
      exact Span.holds_of_onGrid? grid
    | none =>
      rw [grid] at h
      exact ih h

/-- The search ends at the latest with a grid that has a point in the span. -/
lemma Span.exists_coarsest? {s : Span} {fuel j : ℕ} {k : ℤ} (steps : j < fuel) {c : ℕ}
    (grid : s.onGrid? (k - j) = some c) : ∃ d, s.coarsest? fuel k = some d := by
  induction fuel generalizing j k with
  | zero => omega
  | succ fuel ih =>
    rw [Span.coarsest?]
    cases here : s.onGrid? k with
    | some c => exact ⟨_, rfl⟩
    | none =>
      cases j with
      | zero =>
        rw [Nat.cast_zero, sub_zero, here] at grid
        cases grid
      | succ j =>
        refine ih (j := j) (by omega) ?_
        rw [← grid]
        congr 1
        push_cast
        ring

namespace Binary

/-- The value of a number as its span has it. -/
lemma value_eq_div (b : Binary) : b.value =
    (Span.ofBinary b.mantissa b.exponent).value / (Span.ofBinary b.mantissa b.exponent).denominator := by
  have opposite : -(b.exponent - 2) = 2 - b.exponent := by ring
  have quarters : b.value = 4 * b.mantissa * 2 ^ (b.exponent - 2) := by
    rw [Binary.value, zpow_sub₀ two_ne_zero]
    field_simp
    norm_num
  rw [quarters, zpow_eq_div two_ne_zero, opposite]
  simp only [Span.ofBinary, Nat.pow_eq]
  push_cast
  ring

/-- A grid whose step is less than half the last place has a point just above every number. -/
lemma exists_onGrid? (b : Binary) {k : ℤ} (fine : (10 : ℚ) ^ k < 2 ^ (b.exponent - 1)) :
    ∃ c, (Span.ofBinary b.mantissa b.exponent).onGrid? k = some c := by
  have value := b.value_eq_div
  have den : 0 < (Span.ofBinary b.mantissa b.exponent).denominator := Nat.pow_pos two_pos
  have held := fun c => b.holds_of_above (c := c) (k := k)
  generalize Span.ofBinary b.mantissa b.exponent = s at value den held ⊢
  have step : (0 : ℚ) < 10 ^ k := zpow_pos (by norm_num) _
  have unit : 0 < s.denominator * 10 ^ k.toNat := by positivity
  have ratio : b.value = (s.value * 10 ^ (-k).toNat : ℕ) / (s.denominator * 10 ^ k.toNat : ℕ) * 10 ^ k := by
    rw [value, zpow_eq_div (by norm_num) k]
    push_cast
    field_simp
  simp only [Span.onGrid?, Nat.pow_eq]
  generalize s.value * 10 ^ (-k).toNat = n at ratio ⊢
  generalize s.denominator * 10 ^ k.toNat = u at unit ratio ⊢
  have below : ((n / u : ℕ) : ℚ) * 10 ^ k ≤ b.value := by
    rw [ratio]
    exact mul_le_mul_of_nonneg_right Nat.cast_div_le step.le
  have above : b.value < ((n / u + 1 : ℕ) : ℚ) * 10 ^ k := by
    rw [ratio]
    refine mul_lt_mul_of_pos_right ?_ step
    rw [div_lt_iff₀' (by exact_mod_cast unit)]
    exact_mod_cast Nat.lt_mul_div_succ n unit
  have point : s.holds (n / u + 1) k := by
    refine held _ above ?_
    push_cast
    linarith
  rw [point]
  cases s.holds (n / u) k <;> exact ⟨_, rfl⟩

end Binary

/-! ## The first digit -/

/-- Counting down from a place ends at one that is not too high, when there is one within reach. -/
lemma leadingPlace_le {n d : ℕ} (pos : 0 < d) {fuel : ℕ} {k : ℤ} (reach : (10 : ℚ) ^ (k - fuel) ≤ n / d) :
    (10 : ℚ) ^ leadingPlace n d fuel k ≤ n / d := by
  induction fuel generalizing k with
  | zero =>
    rw [Nat.cast_zero, sub_zero] at reach
    exact reach
  | succ fuel ih =>
    rw [leadingPlace]
    split
    · rename_i below
      rw [zpow_eq_div (by norm_num), div_le_div_iff₀ (by positivity) (by exact_mod_cast pos), mul_comm]
      exact_mod_cast below
    · refine ih ?_
      convert reach using 2
      push_cast
      ring

/-! ## The digits -/

namespace Digits

def value (d : Digits) : ℚ :=
  d.digits * 10 ^ d.exponent

/-- Zeros at the end of the digits can go into the exponent. -/
lemma value_strip (d : Digits) (fuel : ℕ) : (d.strip fuel).value = d.value := by
  induction fuel generalizing d with
  | zero => rfl
  | succ fuel ih =>
    rw [strip]
    split
    · rename_i zero
      rw [ih]
      have whole : (d.digits : ℚ) = (d.digits / 10 : ℕ) * 10 := by
        exact_mod_cast (Nat.div_mul_cancel (Nat.dvd_of_mod_eq_zero zero.2)).symm
      rw [value, value, whole, zpow_add_one₀ (by norm_num)]
      ring
    · rfl

end Digits

/-- The number is nearest to the decimal of its shortest digits. -/
lemma Binary.isNearest_shortest (b : Binary) : b.IsNearest (shortest b.mantissa b.exponent).value := by
  have value := b.value_eq_div
  have den : 0 < (Span.ofBinary b.mantissa b.exponent).denominator := Nat.pow_pos two_pos
  have scale : (0 : ℚ) < 2 ^ b.exponent := zpow_pos two_pos _
  have reach : (10 : ℚ) ^ ((310 : ℤ) - (700 : ℕ)) ≤ b.value :=
    calc (10 : ℚ) ^ ((310 : ℤ) - (700 : ℕ)) = (10 ^ 390)⁻¹ := by
          rw [← zpow_natCast, ← zpow_neg]
          norm_num
      _ ≤ ((2 ^ 3) ^ 390)⁻¹ := inv_anti₀ (by positivity) (pow_le_pow_left₀ (by norm_num) (by norm_num) _)
      _ = 2 ^ (-1170 : ℤ) := by rw [← pow_mul, zpow_neg, zpow_ofNat]
      _ ≤ 2 ^ (-1074 : ℤ) := zpow_le_zpow_right₀ one_le_two (by norm_num)
      _ ≤ 2 ^ b.exponent := zpow_le_zpow_right₀ one_le_two b.least
      _ ≤ b.value := le_mul_of_one_le_left scale.le (by exact_mod_cast b.pos)
  have first := leadingPlace_le den (value ▸ reach)
  rw [← value] at first
  rw [shortest]
  generalize leadingPlace _ _ 700 310 = top at first ⊢
  -- Seventeen places behind the leading one are finer than the numbers of the format.
  have fine : (10 : ℚ) ^ (top - (17 : ℕ)) < 2 ^ (b.exponent - 1) :=
    calc (10 : ℚ) ^ (top - (17 : ℕ)) = 10 ^ top / 10 ^ 17 := by
          rw [zpow_sub₀ (by norm_num), zpow_natCast]
      _ ≤ b.value / 10 ^ 17 := div_le_div_of_nonneg_right first (by norm_num)
      _ < 2 ^ 53 * 2 ^ b.exponent / 10 ^ 17 := by
        refine div_lt_div_of_pos_right (mul_lt_mul_of_pos_right ?_ scale) (by norm_num)
        exact_mod_cast b.lt
      _ ≤ 2 ^ (b.exponent - 1) := by
        rw [zpow_sub_one₀ two_ne_zero]
        linarith
  obtain ⟨c, grid⟩ := b.exists_onGrid? fine
  obtain ⟨d, found⟩ := Span.exists_coarsest? (by norm_num : 17 < 18) grid
  simp only [found, Option.getD_some, Digits.value_strip]
  exact b.isNearest_of_holds (Span.holds_of_coarsest? found)

end SensorSim.Decimal
