import Mathlib

/-!
# Rounding to the nearest number

The operations on numbers with a sign, a mantissa of 53 bits and an exponent compute a quotient or a
product exactly, up to what a mantissa and two more bits keep of it (`Locates`), and then round it.
Where a mantissa and an exponent are those of a number, and what was computed is nearest to that
number, rounding gives just them (`roundWithAccuracy_of_nearest`).
-/

namespace SensorSim.Decimal

open Float.Model (Format UnpackedFloat totalExponent)
open Float.Model.UnpackedFloat (Sign ExtendedMantissa Accuracy roundWithAccuracy shiftToTargetExponent shiftToExponent)

/-! ## Natural numbers next to rational ones -/

section

variable {q : ℚ} {m c : ℕ}

/-- A natural number within half of `q` is at most `c`, where `q` is less than half above `c`. -/
lemma le_of_near (near : |q - m| ≤ 1 / 2) (h : q < c + 1 / 2) : m ≤ c := by
  have close : (m : ℚ) < c + 1 := by linarith [(abs_le.1 near).1]
  exact Nat.le_of_lt_succ (by exact_mod_cast close)

/-- A natural number within half of `q` is at least `c`, where `q` is less than half below `c`. -/
lemma ge_of_near (near : |q - m| ≤ 1 / 2) (h : c - 1 / 2 < q) : c ≤ m := by
  have close : (c : ℚ) < m + 1 := by linarith [(abs_le.1 near).2]
  exact Nat.le_of_lt_succ (by exact_mod_cast close)

/-- A natural number next to a rational one, the even one of two that are equally near. -/
lemma exists_nearest_nat (nonneg : 0 ≤ q) : ∃ m : ℕ, |q - m| ≤ 1 / 2 ∧ (|q - m| = 1 / 2 → m % 2 = 0) := by
  have low := Nat.floor_le nonneg
  have high := Nat.lt_floor_add_one q
  generalize ⌊q⌋₊ = n at low high
  have down : |q - n| = q - n := abs_of_nonneg (by linarith)
  have up : |q - (n + 1 : ℕ)| = n + 1 - q := by
    push_cast
    rw [abs_of_nonpos (by linarith)]
    ring
  rcases lt_trichotomy (q - n) (1 / 2) with less | tie | more
  · exact ⟨n, by linarith, fun h => by linarith⟩
  · rcases Nat.mod_two_eq_zero_or_one n with even | odd
    · exact ⟨n, by linarith, fun _ => even⟩
    · exact ⟨n + 1, by linarith, fun _ => by omega⟩
  · exact ⟨n + 1, by linarith, fun h => by linarith⟩

end

/-! ## Mantissas with two more bits -/

/-- A mantissa with its two more bits says where a number lies between the mantissa and the next
one: on it, below the middle, in the middle or above. -/
def Locates (em : ExtendedMantissa) (x : ℚ) : Prop :=
  match em.roundBit, em.stickyBit with
  | false, false => x = em.mantissa
  | false, true => em.mantissa < x ∧ x < em.mantissa + 1 / 2
  | true, false => x = em.mantissa + 1 / 2
  | true, true => em.mantissa + 1 / 2 < x ∧ x < em.mantissa + 1

namespace Locates

variable {em : ExtendedMantissa} {x : ℚ}

/-- A number lies between its mantissa and the next one. -/
lemma bounds (h : Locates em x) : em.mantissa ≤ x ∧ x < em.mantissa + 1 := by
  obtain ⟨n, r, s⟩ := em
  cases r <;> cases s <;> simp only [Locates] at h ⊢ <;> constructor <;> linarith

/-- The mantissa is halved, and its last bit becomes the first of the two. -/
lemma shiftRightOne (h : Locates em x) : Locates em.shiftRightOne (x / 2) := by
  obtain ⟨n, r, s⟩ := em
  have halves : ((n % 2 : ℕ) : ℚ) + 2 * ((n / 2 : ℕ) : ℚ) = n := by
    exact_mod_cast Nat.mod_add_div n 2
  rcases Nat.mod_two_eq_zero_or_one n with even | odd
  · rw [even] at halves
    cases r <;> cases s <;> simp [Locates, ExtendedMantissa.shiftRightOne, even] at h halves ⊢
    · linarith
    · constructor <;> linarith
    · constructor <;> linarith
    · constructor <;> linarith
  · rw [odd] at halves
    cases r <;> cases s <;> simp [Locates, ExtendedMantissa.shiftRightOne, odd] at h halves ⊢
    · linarith
    · constructor <;> linarith
    · constructor <;> linarith
    · constructor <;> linarith

/-- Shifting by some bits divides by their power of two. -/
lemma shiftRight (h : Locates em x) (k : ℕ) : Locates (em >>> k) (x / 2 ^ k) := by
  induction k with
  | zero =>
    rw [pow_zero, div_one]
    exact h
  | succ k ih =>
    rw [pow_succ, ← div_div]
    exact ih.shiftRightOne

/-- Of two mantissas the nearer one is chosen, and the even one of two that are equally near. -/
lemma roundedMantissa_eq (h : Locates em x) {m : ℕ} (near : |x - m| ≤ 1 / 2) (even : |x - m| = 1 / 2 → m % 2 = 0) :
    em.roundedMantissa = m := by
  obtain ⟨below, above⟩ := abs_le.1 near
  obtain ⟨low, high⟩ := h.bounds
  have least : em.mantissa ≤ m := ge_of_near near (by linarith)
  have most : m ≤ em.mantissa + 1 := le_of_near near (by push_cast; linarith)
  obtain ⟨n, r, s⟩ := em
  rcases Nat.lt_or_ge n m with up | down
  · obtain rfl : m = n + 1 := Nat.le_antisymm most up
    push_cast at near even below above
    cases r <;> cases s <;> simp only [Locates] at h
    · linarith
    · linarith
    · have tie : |x - (n + 1)| = 1 / 2 := by
        rw [h, abs_of_nonpos (by linarith)]
        ring
      have parity := even tie
      simp only [ExtendedMantissa.roundedMantissa, ExtendedMantissa.accuracy, Accuracy.roundToNearestEven]
      omega
    · rfl
  · obtain rfl : n = m := Nat.le_antisymm least down
    cases r <;> cases s <;> simp only [Locates] at h
    · rfl
    · rfl
    · have tie : |x - n| = 1 / 2 := by
        rw [h, abs_of_nonneg (by linarith)]
        ring
      have parity := even tie
      simp only [ExtendedMantissa.roundedMantissa, ExtendedMantissa.accuracy, Accuracy.roundToNearestEven]
      omega
    · linarith

end Locates

/-! ## Numbers of the format -/

/-- Powers of two are ordered by their exponents. -/
lemma lt_of_two_zpow_lt {i j : ℤ} (h : (2 : ℚ) ^ i < 2 ^ j) : i < j :=
  (zpow_lt_zpow_iff_right₀ one_lt_two).1 h

/-- A positive number of the format: a mantissa of 53 bits, or of fewer at the bottom of the range,
times a power of two. -/
structure Binary where
  mantissa : ℕ
  exponent : ℤ
  pos : 0 < mantissa
  lt : mantissa < 2 ^ 53
  least : -1074 ≤ exponent
  greatest : exponent ≤ 971
  normal : 2 ^ 52 ≤ mantissa ∨ exponent = -1074

namespace Binary

def value (b : Binary) : ℚ :=
  b.mantissa * 2 ^ b.exponent

/-- The number with a sign, as the operations work on it. -/
def unpacked (b : Binary) (s : Sign) : UnpackedFloat :=
  .finite s b.mantissa b.exponent b.pos

/-- No other number of the format is nearer, and one that is as near has an odd mantissa. A power of
two has its neighbour below half as far away, but for the bottom of the range. -/
structure IsNearest (b : Binary) (v : ℚ) : Prop where
  near : |v / 2 ^ b.exponent - b.mantissa| ≤ 1 / 2
  even : |v / 2 ^ b.exponent - b.mantissa| = 1 / 2 → b.mantissa % 2 = 0
  narrow : b.mantissa = 2 ^ 52 → b.exponent ≠ -1074 → b.mantissa - 1 / 4 ≤ v / 2 ^ b.exponent

variable {b : Binary} {v : ℚ}

/-- A number is nearest to its own value. -/
lemma isNearest_value (b : Binary) : b.IsNearest b.value := by
  have own : b.value / 2 ^ b.exponent = b.mantissa :=
    mul_div_cancel_right₀ _ (zpow_ne_zero _ two_ne_zero)
  refine ⟨?_, ?_, ?_⟩
  · rw [own, sub_self, abs_zero]
    norm_num
  · rw [own, sub_self, abs_zero]
    intro h
    norm_num at h
  · intro _ _
    rw [own]
    linarith

/-- What a number is nearest to lies at most half a last bit away. -/
lemma IsNearest.bounds (h : b.IsNearest v) :
    (b.mantissa : ℚ) - 1 / 2 ≤ v / 2 ^ b.exponent ∧ v / 2 ^ b.exponent ≤ b.mantissa + 1 / 2 := by
  obtain ⟨below, above⟩ := abs_le.1 h.near
  constructor <;> linarith

/-- What is nearest to a number of the format is neither too small nor too large. -/
lemma IsNearest.range (near : b.IsNearest v) : 2 ^ (-1075 : ℤ) ≤ v ∧ v < 2 ^ (1024 : ℤ) := by
  obtain ⟨low, high⟩ := near.bounds
  have scale : (0 : ℚ) < 2 ^ b.exponent := zpow_pos two_pos _
  have one : (1 : ℚ) ≤ b.mantissa := by exact_mod_cast b.pos
  have last : (b.mantissa : ℚ) + 1 ≤ 2 ^ 53 := by exact_mod_cast b.lt
  rw [le_div_iff₀ scale] at low
  rw [div_le_iff₀ scale] at high
  refine ⟨?_, ?_⟩
  · calc (2 : ℚ) ^ (-1075 : ℤ) ≤ 2 ^ (b.exponent - 1) := zpow_le_zpow_right₀ one_le_two (by have := b.least; omega)
      _ = 1 / 2 * 2 ^ b.exponent := by
        rw [zpow_sub_one₀ two_ne_zero]
        ring
      _ ≤ (b.mantissa - 1 / 2) * 2 ^ b.exponent := mul_le_mul_of_nonneg_right (by linarith) scale.le
      _ ≤ v := low
  · calc v ≤ (b.mantissa + 1 / 2) * 2 ^ b.exponent := high
      _ < 2 ^ 53 * 2 ^ b.exponent := mul_lt_mul_of_pos_right (by linarith) scale
      _ = 2 ^ (53 + b.exponent) := by
        rw [zpow_add₀ two_ne_zero, zpow_ofNat]
      _ ≤ 2 ^ (1024 : ℤ) := zpow_le_zpow_right₀ one_le_two (by have := b.greatest; omega)

/-- What a number of the format is nearest to is positive. -/
lemma IsNearest.pos (near : b.IsNearest v) : 0 < v :=
  (zpow_pos two_pos _).trans_le near.range.1

/-- A number is nearest only to what lies between half and twice its value. -/
lemma IsNearest.value_bounds (near : b.IsNearest v) : b.value ≤ 2 * v ∧ v ≤ 2 * b.value := by
  obtain ⟨low, high⟩ := near.bounds
  have scale : (0 : ℚ) < 2 ^ b.exponent := zpow_pos two_pos _
  have one : (1 : ℚ) ≤ b.mantissa := by exact_mod_cast b.pos
  rw [le_div_iff₀ scale] at low
  rw [div_le_iff₀ scale] at high
  unfold Binary.value
  constructor <;> nlinarith

/-- Up to here a number is rounded to zero: half of the smallest number of the format. -/
def underflow : ℚ :=
  2 ^ (-1075 : ℤ)

/-- The underflow is not zero. -/
lemma underflow_pos : 0 < underflow :=
  zpow_pos two_pos _

/-- From the smallest number of the format on, a number is above the underflow. -/
lemma underflow_lt {j : ℤ} (h : -1074 ≤ j) (above : 2 ^ j ≤ v) : underflow < v :=
  (zpow_lt_zpow_right₀ one_lt_two (by omega)).trans_le above

/-- From here on a number is rounded to infinity: half a last bit above the largest number of the
format. -/
def overflow : ℚ :=
  (2 ^ 54 - 1) * 2 ^ (970 : ℤ)

/-- The overflow lies in the topmost range of exponents. -/
lemma overflow_bounds : 2 ^ (1023 : ℤ) ≤ overflow ∧ overflow < 2 ^ (1024 : ℤ) := by
  have scale : (0 : ℚ) < 2 ^ (970 : ℤ) := zpow_pos two_pos _
  have low : (2 : ℚ) ^ (1023 : ℤ) = 2 ^ 53 * 2 ^ (970 : ℤ) := by
    rw [← zpow_ofNat, ← zpow_add₀ two_ne_zero]
    norm_num
  have high : (2 : ℚ) ^ (1024 : ℤ) = 2 ^ 54 * 2 ^ (970 : ℤ) := by
    rw [← zpow_ofNat, ← zpow_add₀ two_ne_zero]
    norm_num
  rw [low, high]
  exact ⟨mul_le_mul_of_nonneg_right (by norm_num) scale.le, mul_lt_mul_of_pos_right (by norm_num) scale⟩

/-- At the largest exponent the overflow is half below 53 bits. -/
lemma overflow_le_iff : overflow ≤ v ↔ 2 ^ 53 - 1 / 2 ≤ v / 2 ^ (971 : ℤ) := by
  rw [le_div_iff₀ (zpow_pos two_pos _), show (971 : ℤ) = 970 + 1 by norm_num, zpow_add_one₀ two_ne_zero,
    show (2 ^ 53 - 1 / 2 : ℚ) * (2 ^ (970 : ℤ) * 2) = overflow by rw [overflow]; ring]

/-- Below the last power of two that fits, a number is below the overflow. -/
lemma lt_overflow {j : ℤ} (h : j ≤ 1023) (below : v < 2 ^ j) : v < overflow :=
  below.trans_le ((zpow_le_zpow_right₀ one_le_two h).trans overflow_bounds.1)

/-- What is too small for 53 bits, but not too small for any, has a nearest number of the format. -/
lemma exists_isNearest_of_lt (least : underflow < v) (small : v < 2 ^ (-1022 : ℤ)) : ∃ b : Binary, b.IsNearest v := by
  have scale : (0 : ℚ) < 2 ^ (-1074 : ℤ) := zpow_pos two_pos _
  have half : 1 / 2 < v / 2 ^ (-1074 : ℤ) := by
    rw [lt_div_iff₀ scale, one_div, ← zpow_neg_one, ← zpow_add₀ two_ne_zero]
    exact least
  have ceiling : v / 2 ^ (-1074 : ℤ) < 2 ^ 52 := by
    rw [div_lt_iff₀ scale, ← zpow_ofNat, ← zpow_add₀ two_ne_zero]
    exact small
  obtain ⟨m, near, even⟩ := exists_nearest_nat (half.trans' (by norm_num)).le
  have one_le : 1 ≤ m := ge_of_near near (by rw [Nat.cast_one]; linarith)
  have most : m ≤ 2 ^ 52 := le_of_near near (ceiling.trans (by norm_num))
  exact ⟨⟨m, -1074, one_le, by omega, le_rfl, by norm_num, .inr rfl⟩, near, even, fun _ bottom => absurd rfl bottom⟩

/-- Every rational number that is neither too small nor too large has a nearest number of the
format. -/
lemma exists_isNearest (least : underflow < v) (greatest : v < overflow) : ∃ b : Binary, b.IsNearest v := by
  rcases lt_or_ge v (2 ^ (-1022 : ℤ)) with small | normal
  · exact exists_isNearest_of_lt least small
  have pos : 0 < v := underflow_pos.trans least
  have low := Int.zpow_log_le_self (b := 2) (by norm_num) pos
  have high := Int.lt_zpow_succ_log_self (b := 2) (by norm_num) v
  generalize Int.log 2 v = l at low high
  push_cast at low high
  -- The mantissa is what stays above the place of the last of 53 bits.
  have bottom : -1022 < l + 1 := lt_of_two_zpow_lt (normal.trans_lt high)
  have top : l < 1024 := lt_of_two_zpow_lt ((low.trans_lt greatest).trans overflow_bounds.2)
  have scale : (0 : ℚ) < 2 ^ (l - 52) := zpow_pos two_pos _
  have floor : (2 : ℚ) ^ 52 ≤ v / 2 ^ (l - 52) := by
    rw [le_div_iff₀ scale, ← zpow_ofNat, ← zpow_add₀ two_ne_zero]
    simpa using low
  have ceiling : v / 2 ^ (l - 52) < 2 ^ 53 := by
    rw [div_lt_iff₀ scale, ← zpow_ofNat, ← zpow_add₀ two_ne_zero, show (53 : ℤ) + (l - 52) = l + 1 by ring]
    exact high
  obtain ⟨m, near, even⟩ := exists_nearest_nat (div_pos pos scale).le
  obtain ⟨below, above⟩ := abs_le.1 near
  have least' : 2 ^ 52 ≤ m := ge_of_near near (by push_cast; linarith)
  have most : m ≤ 2 ^ 53 := le_of_near near (by push_cast; linarith)
  rcases Nat.lt_or_ge m (2 ^ 53) with fits | full
  · refine ⟨⟨m, l - 52, by omega, fits, by omega, by omega, .inl least'⟩, near, even, ?_⟩
    rintro rfl -
    push_cast
    linarith
  · -- Rounding up past the last mantissa gives a power of two, which is twice as far from its neighbour above.
    obtain rfl : m = 2 ^ 53 := Nat.le_antisymm most full
    push_cast at below
    have room : l ≠ 1023 := by
      rintro rfl
      rw [show (1023 - 52 : ℤ) = 971 by norm_num] at below
      exact greatest.not_ge (overflow_le_iff.2 (by linarith))
    have half : v / 2 ^ (l - 51) = v / 2 ^ (l - 52) / 2 := by
      rw [show l - 51 = l - 52 + 1 by ring, zpow_add_one₀ two_ne_zero, div_div]
    refine ⟨⟨2 ^ 52, l - 51, by norm_num, by norm_num, by omega, by omega, .inl le_rfl⟩, ?_, fun _ => by norm_num, ?_⟩
    · rw [half, abs_le]
      push_cast
      constructor <;> linarith
    · intro _ _
      rw [half]
      push_cast
      linarith

end Binary

/-! ## Exponents -/

/-- The exponent that is aimed at keeps 53 bits, unless it would be too small. -/
lemma targetExponent_eq_max (e : ℤ) : Format.binary64.targetExponent e = max (e - 53) (-1074) := by
  simp only [Format.targetExponent, Format.mantissaBits, Format.minExponent]
  norm_num

/-- The exponent that is aimed at, by the logarithm of the mantissa. -/
lemma targetExponent_eq (n : ℕ) (k : ℤ) :
    Format.binary64.targetExponent (totalExponent n k) = max (n.log2 + k - 52) (-1074) := by
  rw [targetExponent_eq_max, totalExponent]
  omega

/-- A mantissa that is not zero says between which powers of two a number lies. -/
lemma Locates.between {em : ExtendedMantissa} {k : ℤ} {v : ℚ} (h : Locates em (v / 2 ^ k)) (pos : em.mantissa ≠ 0)
    (e : ℤ) : (2 : ℚ) ^ (em.mantissa.log2 + k - e) ≤ v / 2 ^ e ∧ v / 2 ^ e < 2 ^ (em.mantissa.log2 + k - e + 1) := by
  obtain ⟨low, high⟩ := h.bounds
  have least : (2 : ℚ) ^ em.mantissa.log2 ≤ em.mantissa := by
    exact_mod_cast Nat.log2_self_le pos
  have most : (em.mantissa : ℚ) + 1 ≤ 2 ^ (em.mantissa.log2 + 1) := by
    exact_mod_cast Nat.lt_log2_self (n := em.mantissa)
  have scale : (0 : ℚ) < 2 ^ (k - e) := zpow_pos two_pos _
  have shifted : v / 2 ^ e = v / 2 ^ k * 2 ^ (k - e) := by
    rw [zpow_sub₀ two_ne_zero]
    field_simp
  rw [shifted, add_sub_assoc, add_assoc, add_comm (k - e) 1, ← add_assoc, zpow_add₀ two_ne_zero,
    zpow_add₀ two_ne_zero (_ + 1), zpow_natCast, ← Nat.cast_succ, zpow_natCast]
  refine ⟨?_, ?_⟩
  · exact mul_le_mul_of_nonneg_right (least.trans low) scale.le
  · exact mul_lt_mul_of_pos_right (high.trans_le most) scale

/-- What is nearest to a number is rounded at the exponent of the number, or one below it where the
number is a power of two. -/
lemma Binary.IsNearest.targetExponent {b : Binary} {v : ℚ} (near : b.IsNearest v) {em : ExtendedMantissa} {k : ℤ}
    (h : Locates em (v / 2 ^ k)) (fine : k ≤ max ((em.mantissa.log2 : ℤ) + k - 52) (-1074)) :
    max ((em.mantissa.log2 : ℤ) + k - 52) (-1074) = b.exponent ∨
    max ((em.mantissa.log2 : ℤ) + k - 52) (-1074) + 1 = b.exponent ∧ b.mantissa = 2 ^ 52 ∧
      b.exponent ≠ -1074 ∧ v / 2 ^ b.exponent < 2 ^ 52 := by
  obtain ⟨low, high⟩ := near.bounds
  have least := b.least
  have below : v / 2 ^ b.exponent < 2 ^ 53 := by
    have bound : (b.mantissa : ℚ) + 1 ≤ 2 ^ 53 := by exact_mod_cast b.lt
    linarith
  by_cases zero : em.mantissa = 0
  · -- Then all of the number lies below the last bit, which is only so at the bottom of the range.
    rw [zero, Nat.log2_zero] at fine ⊢
    left
    rcases b.normal with normal | bottom
    · have small : v / 2 ^ k < 1 := by
        have bound := h.bounds.2
        rw [zero, Nat.cast_zero, zero_add] at bound
        exact bound
      have scale : v / 2 ^ b.exponent = v / 2 ^ k * 2 ^ (k - b.exponent) := by
        rw [zpow_sub₀ two_ne_zero]
        field_simp
      have shrinks : (2 : ℚ) ^ (k - b.exponent) ≤ 1 := zpow_le_one_of_nonpos₀ one_le_two (by omega)
      have large : (2 : ℚ) ^ 52 ≤ b.mantissa := by exact_mod_cast normal
      have pos : (0 : ℚ) < 2 ^ (k - b.exponent) := zpow_pos two_pos _
      nlinarith
    · rw [bottom]
      omega
  · obtain ⟨least', most⟩ := h.between zero b.exponent
    have top : (em.mantissa.log2 : ℤ) + k - b.exponent < 53 :=
      lt_of_two_zpow_lt (least'.trans_lt (by exact_mod_cast below))
    by_cases bottom : b.exponent = -1074
    · left
      omega
    have normal : (2 : ℚ) ^ 52 ≤ b.mantissa := by exact_mod_cast b.normal.resolve_right bottom
    have wide : 51 < (em.mantissa.log2 : ℤ) + k - b.exponent + 1 := by
      refine lt_of_two_zpow_lt (lt_of_le_of_lt ?_ most)
      calc (2 : ℚ) ^ (51 : ℤ) ≤ 2 ^ 52 - 1 / 2 := by norm_num
        _ ≤ v / 2 ^ b.exponent := by linarith
    by_cases full : (em.mantissa.log2 : ℤ) + k - b.exponent = 52
    · left
      omega
    · -- The number has one bit less than its nearest, which can only have been rounded up to a power of two.
      have half : (em.mantissa.log2 : ℤ) + k - b.exponent = 51 := by omega
      have less : v / 2 ^ b.exponent < 2 ^ 52 := by
        rw [half] at most
        exact_mod_cast most
      have power : b.mantissa ≤ 2 ^ 52 := le_of_near near.near (by push_cast; linarith)
      exact .inr ⟨by omega, Nat.le_antisymm power (b.normal.resolve_right bottom), bottom, less⟩

/-! ## Rounding -/

/-- The accuracy changes nothing of the mantissa. -/
@[simp] lemma mantissa_ofMantissaAndAccuracy (n : ℕ) (acc : Accuracy) :
    (ExtendedMantissa.ofMantissaAndAccuracy n acc).mantissa = n := by
  rcases acc with _ | (_ | _ | _) <;> rfl

/-- What is exact lies on the mantissa. -/
@[simp] lemma locates_exact {n : ℕ} {x : ℚ} : Locates (.ofMantissaAndAccuracy n .exact) x ↔ x = n :=
  Iff.rfl

/-- What is inexact from below lies under the middle. -/
@[simp] lemma locates_below {n : ℕ} {x : ℚ} :
    Locates (.ofMantissaAndAccuracy n (.inexact .lt)) x ↔ n < x ∧ x < n + 1 / 2 :=
  Iff.rfl

/-- What is inexact by half lies in the middle. -/
@[simp] lemma locates_middle {n : ℕ} {x : ℚ} :
    Locates (.ofMantissaAndAccuracy n (.inexact .eq)) x ↔ x = n + 1 / 2 :=
  Iff.rfl

/-- What is inexact from above lies over the middle. -/
@[simp] lemma locates_above {n : ℕ} {x : ℚ} :
    Locates (.ofMantissaAndAccuracy n (.inexact .gt)) x ↔ n + 1 / 2 < x ∧ x < n + 1 :=
  Iff.rfl

/-- Shifting up to a larger exponent divides by the power of two between the two. -/
lemma shiftToExponent_eq (n : ℕ) (acc : Accuracy) {k t : ℤ} (h : k ≤ t) :
    shiftToExponent n k acc t = (ExtendedMantissa.ofMantissaAndAccuracy n acc >>> (t - k).toNat, t) := by
  rw [shiftToExponent]
  refine Prod.ext rfl ?_
  show k + ((t - k).toNat : ℤ) = t
  omega

/-- A mantissa that keeps to its bits stays as it is. -/
lemma shiftToExponent_of_le (n : ℕ) (acc : Accuracy) {k t : ℤ} (h : t ≤ k) :
    shiftToExponent n k acc t = (ExtendedMantissa.ofMantissaAndAccuracy n acc, k) := by
  rw [shiftToExponent, Int.toNat_of_nonpos (by omega)]
  refine Prod.ext rfl ?_
  show k + ((0 : ℕ) : ℤ) = k
  omega

/-- A mantissa is shifted again after rounding, for rounding up may have taken it past its bits. -/
lemma shift_rounded {m₀ m : ℕ} {e t : ℤ} (pos : 0 < m₀) (lt : m₀ < 2 ^ 53) (least : -1074 ≤ e)
    (h : t = e ∧ m = m₀ ∨ t + 1 = e ∧ m₀ = 2 ^ 52 ∧ m = 2 ^ 53) :
    ∃ em : ExtendedMantissa, em.mantissa = m₀ ∧ shiftToTargetExponent .binary64 m t .exact = (em, e) := by
  rw [shiftToTargetExponent, targetExponent_eq]
  rcases h with ⟨rfl, rfl⟩ | ⟨above, half, rfl⟩
  · have bits : m.log2 < 53 := (Nat.log2_lt pos.ne').2 lt
    refine ⟨.ofMantissaAndAccuracy m .exact, mantissa_ofMantissaAndAccuracy _ _, ?_⟩
    exact shiftToExponent_of_le _ _ (by omega)
  · have up : max (((2 ^ 53 : ℕ).log2 : ℤ) + t - 52) (-1074) = e := by
      rw [Nat.log2_two_pow]
      omega
    refine ⟨.shiftRightOne (.ofMantissaAndAccuracy (2 ^ 53) .exact), ?_, ?_⟩
    · rw [half]
      rfl
    rw [up, shiftToExponent_eq _ _ (by omega), show (e - t).toNat = 1 by omega]
    rfl

/-- What is shifted up to the target exponent is located there. -/
lemma Locates.shifted {n : ℕ} {k t : ℤ} {acc : Accuracy} {v : ℚ}
    (h : Locates (.ofMantissaAndAccuracy n acc) (v / 2 ^ k))
    (fine : k ≤ t) : Locates (ExtendedMantissa.ofMantissaAndAccuracy n acc >>> (t - k).toNat) (v / 2 ^ t) := by
  have scale : v / 2 ^ k / 2 ^ (t - k).toNat = v / 2 ^ t := by
    rw [div_div, ← zpow_natCast, ← zpow_add₀ two_ne_zero]
    congr 2
    omega
  rw [← scale]
  exact h.shiftRight _

/-- Rounding gives the mantissa that was rounded to, brought back to its bits. -/
lemma roundWithAccuracy_eq {n m₀ m : ℕ} {k e t : ℤ} {acc : Accuracy} (s : Sign) (pos : 0 < m₀) (lt : m₀ < 2 ^ 53)
    (least : -1074 ≤ e) (target : Format.binary64.targetExponent (totalExponent n k) = t) (fine : k ≤ t)
    (rounded : (ExtendedMantissa.ofMantissaAndAccuracy n acc >>> (t - k).toNat).roundedMantissa = m)
    (h : t = e ∧ m = m₀ ∨ t + 1 = e ∧ m₀ = 2 ^ 52 ∧ m = 2 ^ 53) :
    roundWithAccuracy .binary64 s n k acc = .finite s m₀ e pos := by
  obtain ⟨em, mantissa, final⟩ := shift_rounded pos lt least h
  unfold roundWithAccuracy
  rw [shiftToTargetExponent, target, shiftToExponent_eq n acc fine]
  simp only [rounded, final, mantissa, pos.ne', dif_neg, not_false_eq_true]

/-- Rounding what was computed nearest to a number gives the mantissa and the exponent of the
number. -/
lemma roundWithAccuracy_of_nearest {b : Binary} {v : ℚ} (near : b.IsNearest v) (s : Sign) {n : ℕ} {k : ℤ}
    {acc : Accuracy} (h : Locates (.ofMantissaAndAccuracy n acc) (v / 2 ^ k))
    (fine : k ≤ Format.binary64.targetExponent (totalExponent n k)) :
    roundWithAccuracy .binary64 s n k acc = b.unpacked s := by
  have exponents := near.targetExponent h (by simpa [targetExponent_eq] using fine)
  rw [mantissa_ofMantissaAndAccuracy, ← targetExponent_eq] at exponents
  have shifted := h.shifted fine
  generalize target : Format.binary64.targetExponent (totalExponent n k) = t at fine exponents shifted
  rcases exponents with same | ⟨above, half, narrow, less⟩
  · rw [same] at shifted
    exact roundWithAccuracy_eq s b.pos b.lt b.least target fine
      (by rw [same, shifted.roundedMantissa_eq near.near near.even]) (.inl ⟨same, rfl⟩)
  · -- Twice the distance from a power of two is no more than a half, and the power of two is even.
    have rounded := shifted.roundedMantissa_eq (m := 2 ^ 53) ?_ fun _ => by norm_num
    · exact roundWithAccuracy_eq s b.pos b.lt b.least target fine rounded (.inr ⟨above, half, rfl⟩)
    have low := near.narrow half narrow
    have double : v / 2 ^ t = 2 * (v / 2 ^ b.exponent) := by
      rw [← above, zpow_add_one₀ two_ne_zero]
      field_simp
    rw [half] at low
    push_cast at low ⊢
    rw [double, abs_le]
    constructor <;> linarith

/-- A number was computed up to what is kept of it and then rounded. -/
def IsRounding (v : ℚ) (s : Sign) (u : UnpackedFloat) : Prop :=
  ∃ (n : ℕ) (k : ℤ) (acc : Accuracy), u = roundWithAccuracy .binary64 s n k acc ∧
    Locates (.ofMantissaAndAccuracy n acc) (v / 2 ^ k) ∧ k ≤ Format.binary64.targetExponent (totalExponent n k)

/-- Where a number of the format is nearest, rounding gives it. -/
lemma IsRounding.eq_of_nearest {v : ℚ} {s : Sign} {u : UnpackedFloat} (h : IsRounding v s u) {b : Binary}
    (near : b.IsNearest v) : u = b.unpacked s := by
  obtain ⟨n, k, acc, rfl, located, fine⟩ := h
  exact roundWithAccuracy_of_nearest near s located fine

end SensorSim.Decimal
