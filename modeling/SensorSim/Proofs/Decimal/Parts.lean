import Mathlib
import SensorSim.Decimal.Binary
import SensorSim.Proofs.Decimal.Rounding

/-!
# Numbers and their parts

A finite number is a zero or a number of the format with a sign, and these are its parts
(`exists_of_isFinite`). What the operations compute is packed into bits, and what they take is
unpacked from them; nothing is lost in between (`Binary.unpack_toFloat`).
-/

namespace SensorSim.Decimal

open Float.Model (Format UnpackedFloat)
open Float.Model.UnpackedFloat (Sign packComponents unpackSign unpackExponent unpackMantissa)

/-! ## Fields of the bits -/

/-- The sign, the exponent and the mantissa stand in the bits from the top down. -/
lemma toNat_packComponents (s : Sign) (e : BitVec 11) (m : BitVec 52) :
    (packComponents .binary64 s e m).toNat = s.toBitVec.toNat * 2 ^ 63 + e.toNat * 2 ^ 52 + m.toNat := by
  rw [packComponents, BitVec.toNat_append, BitVec.toNat_append, ← Nat.shiftLeft_add_eq_or_of_lt e.isLt,
    ← Nat.shiftLeft_add_eq_or_of_lt m.isLt, Nat.shiftLeft_eq, Nat.shiftLeft_eq]
  ring

/-- The mantissa is the lowest 52 bits. -/
lemma toNat_unpackMantissa (b : BitVec Format.binary64.numBits) : (unpackMantissa b).toNat = b.toNat % 2 ^ 52 := by
  simp [unpackMantissa, Nat.shiftRight_eq_div_pow]

/-- The exponent is the eleven bits above the mantissa. -/
lemma toNat_unpackExponent (b : BitVec Format.binary64.numBits) :
    (unpackExponent b).toNat = b.toNat / 2 ^ 52 % 2048 := by
  simp [unpackExponent, Nat.shiftRight_eq_div_pow]

/-- The sign is the topmost bit. -/
lemma toNat_unpackSign (b : BitVec Format.binary64.numBits) : (unpackSign b).toNat = b.toNat / 2 ^ 63 := by
  have bits : b.toNat < 2 ^ 64 := b.isLt
  simp only [unpackSign, BitVec.toNat_cast, BitVec.extractLsb_toNat, Nat.shiftRight_eq_div_pow]
  norm_num
  omega

/-- The sign of a number that is negative or not. -/
def signOf (negative : Bool) : Sign :=
  if negative then .negative else .positive

/-- The sign of what is negative is a bit that is set. -/
lemma toNat_signOf (negative : Bool) : (signOf negative).toBitVec.toNat = negative.toNat := by
  cases negative <;> rfl

/-- A bit stands for the sign of what is negative exactly when it is set. -/
lemma ofBitVec_eq_signOf (b : BitVec 1) : Sign.ofBitVec b = signOf (decide (b.toNat = 1)) := by
  have two : b = 0#1 ∨ b = 1#1 := by
    revert b
    decide
  rcases two with rfl | rfl <;> rfl

/-- What bits stand for, by the natural number in each of their fields. -/
lemma unpack_eq (b : BitVec Format.binary64.numBits) {s : Sign} {e m : ℕ}
    (sign : signOf (decide (b.toNat / 2 ^ 63 = 1)) = s) (exponent : b.toNat / 2 ^ 52 % 2048 = e)
    (mantissa : b.toNat % 2 ^ 52 = m) : UnpackedFloat.unpack .binary64 b =
      if e = 2047 then if m = 0 then .infinity s else .notANumber
      else if e = 0 then if h : m = 0 then .zero s else .finite s m (-1074) (Nat.pos_of_ne_zero h)
      else .finite s (2 ^ 52 + m) (e - 1075) (by positivity) := by
  have bias : (Format.binary64.exponentBias : ℤ) + (52 : ℕ) = 1075 := rfl
  rw [← toNat_unpackSign, ← ofBitVec_eq_signOf] at sign
  rw [← toNat_unpackExponent] at exponent
  rw [← toNat_unpackMantissa] at mantissa
  have full : unpackExponent b = -1#_ ↔ e = 2047 := by
    rw [← exponent, ← BitVec.toNat_inj]
    rfl
  have low : unpackExponent b = 0#_ ↔ e = 0 := by
    rw [← exponent, ← BitVec.toNat_inj]
    rfl
  have empty : unpackMantissa b = 0#_ ↔ m = 0 := by
    rw [← mantissa, ← BitVec.toNat_inj]
    rfl
  have leading : (1#1 ++ unpackMantissa b).toNat = 2 ^ 52 + m := by
    rw [← mantissa, BitVec.toNat_append, ← Nat.shiftLeft_add_eq_or_of_lt (unpackMantissa b).isLt]
    rfl
  simp only [UnpackedFloat.unpack, sign, full, low, empty, leading, exponent, mantissa, bias]
  split
  · rfl
  split
  · rename_i zero
    subst zero
    rfl
  · rfl

/-! ## Packing -/

namespace Binary

/-- The exponent as it stands in the bits, where zero marks the bottom of the range. -/
def biased (b : Binary) : ℕ :=
  if 2 ^ 52 ≤ b.mantissa then (b.exponent + 1075).toNat else 0

/-- The exponent of a number is below the one that marks what is not finite. -/
lemma biased_lt (b : Binary) : b.biased < 2047 := by
  have greatest := b.greatest
  unfold biased
  split <;> omega

/-- A number of the format as a floating-point number. -/
def toFloat (b : Binary) (s : Sign) : Float :=
  .ofModel (.pack (b.unpacked s))

/-- A number is packed as its exponent and its mantissa, whose leading bit goes without saying. -/
lemma pack_unpacked (b : Binary) (s : Sign) : UnpackedFloat.pack .binary64 (b.unpacked s) =
    packComponents .binary64 s (BitVec.ofNat 11 b.biased) (BitVec.ofNat 52 b.mantissa) := by
  have greatest := b.greatest
  have lt := b.lt
  have bias : (b.exponent + (Format.binary64.exponentBias : ℤ) + (52 : ℕ)) = b.exponent + 1075 := by
    have value : Format.binary64.exponentBias = 1023 := rfl
    rw [value]
    omega
  simp only [UnpackedFloat.pack, unpacked, bias]
  rw [if_neg (by norm_num; omega)]
  by_cases normal : 2 ^ 52 ≤ b.mantissa
  · have bits : b.mantissa.log2 = 52 := (Nat.log2_eq_iff b.pos.ne').2 ⟨normal, b.lt⟩
    rw [if_pos (by rw [bits]; rfl), biased, if_pos normal]
  · have bits : b.mantissa.log2 < 52 := (Nat.log2_lt b.pos.ne').2 (Nat.lt_of_not_le normal)
    have unfull : b.mantissa.log2 + 1 ≠ Format.binary64.mantissaBits := by
      show b.mantissa.log2 + 1 ≠ 53
      omega
    rw [if_neg unfull, biased, if_neg normal]

/-- The bits of a number as a natural number. -/
lemma toNat_pack (b : Binary) (s : Sign) : (UnpackedFloat.pack .binary64 (b.unpacked s)).toNat =
    s.toBitVec.toNat * 2 ^ 63 + b.biased * 2 ^ 52 + b.mantissa % 2 ^ 52 := by
  have bits := b.biased_lt
  rw [pack_unpacked, toNat_packComponents, BitVec.toNat_ofNat, BitVec.toNat_ofNat, Nat.mod_eq_of_lt (by omega)]

/-- What was packed is unpacked again. -/
lemma unpack_pack (b : Binary) (s : Sign) :
    UnpackedFloat.unpack .binary64 (UnpackedFloat.pack .binary64 (b.unpacked s)) = b.unpacked s := by
  have lt := b.lt
  have pos := b.pos
  have least := b.least
  have bits := b.biased_lt
  have bit := s.toBitVec.isLt
  have sign : signOf (decide (s.toBitVec.toNat = 1)) = s := by
    cases s <;> rfl
  have fields := b.toNat_pack s
  rw [unpack_eq (s := s) (e := b.biased) (m := b.mantissa % 2 ^ 52), if_neg (by omega)]
  · by_cases normal : 2 ^ 52 ≤ b.mantissa
    · have value : b.biased = (b.exponent + 1075).toNat := if_pos normal
      rw [if_neg (by omega)]
      simp only [unpacked, UnpackedFloat.finite.injEq, true_and]
      omega
    · have value : b.biased = 0 := if_neg normal
      have exponent : b.exponent = -1074 := b.normal.resolve_left normal
      rw [if_pos value, dif_neg (by omega)]
      simp only [unpacked, UnpackedFloat.finite.injEq, true_and]
      omega
  · have quotient : (UnpackedFloat.pack .binary64 (b.unpacked s)).toNat / 2 ^ 63 = s.toBitVec.toNat := by omega
    rw [quotient, sign]
  · omega
  · omega

/-- The operations take just the number. -/
lemma unpack_toFloat (b : Binary) (s : Sign) : (b.toFloat s).toModel.unpack = b.unpacked s :=
  b.unpack_pack s

/-- The numbers of the format are finite. -/
lemma isFinite_toFloat (b : Binary) (s : Sign) : (b.toFloat s).isFinite := by
  show (b.toFloat s).toModel.unpack.isFinite
  rw [unpack_toFloat]
  rfl

end Binary

/-! ## Parts -/

/-- A zero with a sign. -/
def zero (s : Sign) : Float :=
  .ofModel (.pack (.zero s))

/-- Floating-point numbers with the same bits are the same. -/
lemma eq_of_toBits {x y : Float} (h : x.toBits.toNat = y.toBits.toNat) : x = y := by
  obtain ⟨⟨bits, valid⟩⟩ := x
  obtain ⟨⟨bits', valid'⟩⟩ := y
  obtain rfl : bits = bits' := UInt64.toNat_inj.1 h
  rfl

/-- A zero has no bits but its sign. -/
lemma toNat_toBits_zero (negative : Bool) : (zero (signOf negative)).toBits.toNat = negative.toNat * 2 ^ 63 := by
  cases negative <;> rfl

/-- The bits of a floating-point number are those of the number that it was made of. -/
lemma Binary.toNat_toBits (b : Binary) (negative : Bool) : (b.toFloat (signOf negative)).toBits.toNat =
    negative.toNat * 2 ^ 63 + b.biased * 2 ^ 52 + b.mantissa % 2 ^ 52 := by
  rw [← toNat_signOf]
  exact b.toNat_pack _

/-- A finite number is a zero or a number of the format, and these are its parts. -/
lemma exists_of_isFinite {x : Float} (finite : x.isFinite) : ∃ negative,
    (parts x = .finite negative 0 (-1074) ∧ x = zero (signOf negative)) ∨
    ∃ b : Binary, parts x = .finite negative b.mantissa b.exponent ∧ x = b.toFloat (signOf negative) := by
  have size : x.toBits.toNat < 2 ^ 64 := x.toBits.toNat_lt
  have bit : x.toBits.toNat / 2 ^ 63 = (decide (x.toBits.toNat / 2 ^ 63 = 1)).toNat := by
    rcases (by omega : x.toBits.toNat / 2 ^ 63 = 0 ∨ x.toBits.toNat / 2 ^ 63 = 1) with h | h <;> rw [h] <;> rfl
  have field : x.toModel.toBits.toBitVec.toNat = x.toBits.toNat := rfl
  have stands := unpack_eq x.toModel.toBits.toBitVec rfl rfl rfl
  rw [field] at stands
  refine ⟨decide (x.toBits.toNat / 2 ^ 63 = 1), ?_⟩
  generalize hn : decide (x.toBits.toNat / 2 ^ 63 = 1) = negative at *
  generalize he : x.toBits.toNat / 2 ^ 52 % 2048 = e at *
  generalize hm : x.toBits.toNat % 2 ^ 52 = m at *
  -- The greatest exponent marks what is not finite.
  have exponent : e ≠ 2047 := by
    rintro rfl
    change x.toModel.unpack.isFinite = true at finite
    rw [Float.Model.unpack, stands, if_pos rfl] at finite
    split at finite <;> cases finite
  have given : parts x = if e = 0 then .finite negative m (-1074) else .finite negative (2 ^ 52 + m) (e - 1075) := by
    simp only [parts, Nat.pow_eq, hn, he, hm]
    rw [if_neg exponent]
  by_cases bottom : e = 0
  · rw [if_pos bottom] at given
    rcases Nat.eq_zero_or_pos m with rfl | pos
    · refine .inl ⟨given, eq_of_toBits ?_⟩
      rw [toNat_toBits_zero]
      omega
    · let b : Binary := ⟨m, -1074, pos, by omega, le_rfl, by norm_num, .inr rfl⟩
      have biased : b.biased = 0 := if_neg (by show ¬2 ^ 52 ≤ m; omega)
      refine .inr ⟨b, given, eq_of_toBits ?_⟩
      rw [b.toNat_toBits, biased, show b.mantissa = m from rfl]
      omega
  · rw [if_neg bottom] at given
    let b : Binary :=
      ⟨2 ^ 52 + m, e - 1075, by positivity, by omega, by omega, by omega, .inl (Nat.le_add_right _ _)⟩
    have biased : b.biased = ((e : ℤ) - 1075 + 1075).toNat := if_pos (Nat.le_add_right _ _)
    refine .inr ⟨b, given, eq_of_toBits ?_⟩
    rw [b.toNat_toBits, biased, show b.mantissa = 2 ^ 52 + m from rfl]
    omega

end SensorSim.Decimal
