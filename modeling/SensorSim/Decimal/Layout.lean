import SensorSim.Decimal.Shortest

/-!
# Numbers as text

Two layouts of the shortest digits. `plain` is positional for every magnitude and shows a whole
number without a point. `full` marks every number as fractional and takes an exponent for very small
and very large magnitudes.
-/

namespace SensorSim.Decimal

/-- The digits of a natural number, most significant first. -/
def digitsOf (n : Nat) : List Char :=
  (toString n).toList

/-- Puts the point of `digits * 10 ^ exponent`, with a zero in front of a bare point. -/
def positional (d : Digits) : List Char :=
  let ds := digitsOf d.digits
  if 0 ≤ d.exponent then ds ++ List.replicate d.exponent.toNat '0'
  else
    let places := (-d.exponent).toNat
    let padded := List.replicate (places + 1 - ds.length) '0' ++ ds
    let whole := padded.length - places
    padded.take whole ++ '.' :: padded.drop whole

/-- Puts the point after the first digit and adds the power of ten. -/
def scientific (d : Digits) : List Char :=
  let ds := digitsOf d.digits
  let power := d.exponent + (ds.length - 1 : Nat)
  let head := match ds with
    | first :: rest@(_ :: _) => first :: '.' :: rest
    | _ => ds
  head ++ 'e' :: (toString power).toList

def signText (negative : Bool) : List Char :=
  if negative then ['-'] else []

/-- The positional text of a number: the fewest digits that read back, no exponent, no trailing
point. -/
def plain (x : Float) : String :=
  match parts x with
  | .nan => "NaN"
  | .infinite negative => String.ofList (signText negative ++ "inf".toList)
  | .finite negative 0 _ => String.ofList (signText negative ++ ['0'])
  | .finite negative m e => String.ofList (signText negative ++ positional (shortest m e))

/-- Whether the layout for diagnostics writes `digits * 10 ^ exponent` with an exponent: below
`10 ^ -4` and from `10 ^ 16`. -/
def needsExponent (d : Digits) : Bool :=
  let power := d.exponent + ((digitsOf d.digits).length - 1 : Nat)
  power < -4 || 16 ≤ power

/-- The text of a number in diagnostics: as `plain`, but a whole number ends in `.0` and very small
and very large magnitudes carry an exponent. -/
def full (x : Float) : String :=
  match parts x with
  | .nan => "NaN"
  | .infinite negative => String.ofList (signText negative ++ "inf".toList)
  | .finite negative 0 _ => String.ofList (signText negative ++ "0.0".toList)
  | .finite negative m e =>
    let d := shortest m e
    let body :=
      if needsExponent d then scientific d
      else if 0 ≤ d.exponent then positional d ++ ".0".toList
      else positional d
    String.ofList (signText negative ++ body)

end SensorSim.Decimal
