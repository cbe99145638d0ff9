/-!
# Floating-point numbers taken apart

A finite number is `± m · 2 ^ e` with natural `m`. `parts` reads sign, `m` and `e` off the bits, and
the roundings to integers are done on them in exact arithmetic.
-/

namespace SensorSim.Decimal

/-- A floating-point number by kind. -/
inductive Parts where
  | nan
  | infinite (negative : Bool)
  | finite (negative : Bool) (mantissa : Nat) (exponent : Int)
deriving DecidableEq, Repr

/-- The parts of a number: a finite one is `mantissa * 2 ^ exponent` up to its sign. -/
def parts (x : Float) : Parts :=
  let bits := x.toBits.toNat
  let negative := decide (bits / Nat.pow 2 63 = 1)
  let biased : Nat := bits / Nat.pow 2 52 % 2048
  let fraction := bits % Nat.pow 2 52
  if biased = 2047 then
    if fraction = 0 then .infinite negative else .nan
  else if biased = 0 then .finite negative fraction (-1074)
  else .finite negative (Nat.pow 2 52 + fraction) ((biased : Int) - 1075)

/-- The natural number nearest to `m * 2 ^ e`, a half going up. -/
def nearestNat (m : Nat) (e : Int) : Nat :=
  if 0 ≤ e then m * Nat.pow 2 e.toNat
  else (2 * m + Nat.pow 2 (-e).toNat) / Nat.pow 2 ((-e).toNat + 1)

/-- The integer nearest to a number, a half going away from zero; a number that is not finite has
none. -/
def nearestInt? (x : Float) : Option Int :=
  match parts x with
  | .finite negative m e =>
    let n := nearestNat m e
    some (if negative then -(n : Int) else n)
  | _ => none

/-- A number rounded to the nearest integer, a half going away from zero. A number that is not
finite stays as it is. -/
def roundAway (x : Float) : Float :=
  match nearestInt? x with
  | some n => Float.ofInt n
  | none => x

/-- The nearest integer, a half going away from zero, brought between a least and a greatest one; a
number that is not a number gives zero. -/
def nearestBetween (least greatest : Int) (x : Float) : Int :=
  match parts x with
  | .nan => 0
  | .infinite true => least
  | .infinite false => greatest
  | .finite negative m e =>
    let n : Int := nearestNat m e
    max least (min greatest (if negative then -n else n))

/-- The smallest and the largest integer of 32 bits, `-2 ^ 31` and `2 ^ 31 - 1`. -/
def leastInt32 : Int := -2147483648

@[inherit_doc leastInt32]
def greatestInt32 : Int := 2147483647

/-- The nearest integer of 32 bits. -/
def nearestInt32 (x : Float) : Int :=
  nearestBetween leastInt32 greatestInt32 x

/-- The nearest integer of 64 bits, from `-2 ^ 63` to `2 ^ 63 - 1`. -/
def nearestInt64 (x : Float) : Int :=
  nearestBetween (-9223372036854775808) 9223372036854775807 x

/-- The part of a number above the largest integer that does not exceed it, up to rounding: it lies
in `[0, 1]`. A number that is not finite has no such part and gives no number. -/
def wrapUnit (x : Float) : Float :=
  if x.isFinite then
    let r := if x.abs < 9007199254740992.0 then x - x.toInt64.toFloat else 0.0
    if r < 0.0 then r + 1.0 else r
  else 0.0 / 0.0

/-- Bringing the nearest integer between two bounds around zero keeps to them. -/
theorem nearestBetween_mem {least greatest : Int} (h : least ≤ 0) (h' : 0 ≤ greatest) (x : Float) :
    least ≤ nearestBetween least greatest x ∧ nearestBetween least greatest x ≤ greatest := by
  simp only [nearestBetween]
  split <;> omega

/-- The nearest 32-bit integer is one of 32 bits. -/
theorem nearestInt32_mem (x : Float) :
    leastInt32 ≤ nearestInt32 x ∧ nearestInt32 x ≤ greatestInt32 :=
  nearestBetween_mem (by decide) (by decide) x

end SensorSim.Decimal
