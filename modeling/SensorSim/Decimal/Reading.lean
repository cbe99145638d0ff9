import SensorSim.Text.Integer

/-!
# Reading numbers

The grammar of a floating-point number: an optional sign, then `inf`, `infinity` or `nan` in any
case, or digits with an optional point (at least one digit on either side of it) and an optional
exponent. The value is the nearest number, ties to even, and what is too large is infinite.
-/

namespace SensorSim.Decimal

def natOfDigits (ds : List Char) : Nat :=
  ds.foldl (fun n c => n * 10 + (c.toNat - '0'.toNat)) 0

/-- The digits at the front of a text and what follows them. -/
def spanDigits (cs : List Char) : List Char × List Char :=
  (cs.takeWhile Char.isDigit, cs.dropWhile Char.isDigit)

/-- Splits an optional sign off a text: whether it is a minus sign, and the rest. -/
def splitSign : List Char → Bool × List Char
  | '+' :: cs => (false, cs)
  | '-' :: cs => (true, cs)
  | cs => (false, cs)

/-- Reads the exponent that ends a number: nothing, or a mark with a signed run of digits. -/
def readExponent? : List Char → Option Int
  | [] => some 0
  | c :: cs =>
    if c = 'e' ∨ c = 'E' then
      let (negative, rest) := splitSign cs
      let (ds, rest) := spanDigits rest
      if ds ≠ [] ∧ rest = [] then
        some (if negative then -(natOfDigits ds : Int) else natOfDigits ds)
      else none
    else none

/-- The digits before and after the point, and what follows them. -/
def splitPoint (cs : List Char) : List Char × List Char × List Char :=
  let (whole, rest) := spanDigits cs
  match rest with
  | '.' :: rest =>
    let (places, rest) := spanDigits rest
    (whole, places, rest)
  | rest => (whole, [], rest)

/-- The nearest number to `m * 10 ^ e`. -/
def nearest (m : Nat) (e : Int) : Float :=
  Float.ofScientific m (e < 0) e.natAbs

/-- Reads a number without its sign. -/
def readUnsigned? (cs : List Char) : Option Float :=
  let lower := cs.map Char.toLower
  if lower = "inf".toList ∨ lower = "infinity".toList then some (1.0 / 0.0)
  else if lower = "nan".toList then some (0.0 / 0.0)
  else
    let (whole, places, rest) := splitPoint cs
    if whole = [] ∧ places = [] then none
    else
      (readExponent? rest).map fun e => nearest (natOfDigits (whole ++ places)) (e - places.length)

def read? (cs : List Char) : Option Float :=
  let (negative, rest) := splitSign cs
  (readUnsigned? rest).map fun x => if negative then -x else x

/-- Nothing is lost when the leading digits are split off. -/
theorem spanDigits_append (cs : List Char) : (spanDigits cs).1 ++ (spanDigits cs).2 = cs :=
  List.takeWhile_append_dropWhile

/-- No number is read from an empty text. -/
theorem read?_nil : read? [] = none := by
  simp [read?, splitSign, readUnsigned?, splitPoint, spanDigits]

end SensorSim.Decimal
