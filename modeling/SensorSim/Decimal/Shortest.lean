import SensorSim.Decimal.Binary

/-!
# The shortest digits of a number

The decimal with the fewest digits that lies in the interval of reals rounding to a given number,
and of those the nearest to the number. All arithmetic is exact.
-/

namespace SensorSim.Decimal

/-- The decimal `digits * 10 ^ exponent`. -/
structure Digits where
  digits : Nat
  exponent : Int
deriving DecidableEq, Repr

/-- A positive number with the interval of reals that round to it, all in units of
`1 / denominator`. -/
structure Span where
  value : Nat
  lower : Nat
  upper : Nat
  denominator : Nat
  closed : Bool
deriving Repr

/-- The span of `m * 2 ^ e`. Below a power of two the neighbour is half as far away, except at the
bottom of the range, and the ends belong to the interval when `m` is even. -/
def Span.ofBinary (m : Nat) (e : Int) : Span :=
  let narrow := m = Nat.pow 2 52 ∧ e ≠ -1074
  let scale := Nat.pow 2 (e - 2).toNat
  { value := 4 * m * scale
    lower := (if narrow then 4 * m - 1 else 4 * m - 2) * scale
    upper := (4 * m + 2) * scale
    denominator := Nat.pow 2 (2 - e).toNat
    closed := m % 2 = 0 }

/-- How many decimal places left of the point the number `n / d` starts, counted down from `k`: the
first `j ≤ k` with `10 ^ j ≤ n / d`, by at most `fuel` steps. -/
def leadingPlace (n d : Nat) : Nat → Int → Int
  | 0, k => k
  | fuel + 1, k =>
    if d * Nat.pow 10 k.toNat ≤ n * Nat.pow 10 (-k).toNat then k else leadingPlace n d fuel (k - 1)

/-- The point `c * 10 ^ k` lies in the span. -/
def Span.holds (s : Span) (c : Nat) (k : Int) : Bool :=
  let point := c * Nat.pow 10 k.toNat * s.denominator
  let unit := Nat.pow 10 (-k).toNat
  if s.closed then s.lower * unit ≤ point && point ≤ s.upper * unit
  else s.lower * unit < point && point < s.upper * unit

/-- The point of the grid of step `10 ^ k` that lies in the span and is nearest to its value; of two
equally near the larger. -/
def Span.onGrid? (s : Span) (k : Int) : Option Nat :=
  let unit := s.denominator * Nat.pow 10 k.toNat
  let scaled := s.value * Nat.pow 10 (-k).toNat
  let below := scaled / unit
  let above := below + 1
  match s.holds below k, s.holds above k with
  | true, true => some (if 2 * (scaled - below * unit) < unit then below else above)
  | true, false => some below
  | false, true => some above
  | false, false => none

/-- The first grid with a point in the span, refining the step from `10 ^ k` at most `fuel`
times. -/
def Span.coarsest? (s : Span) : Nat → Int → Option Digits
  | 0, _ => none
  | fuel + 1, k =>
    match s.onGrid? k with
    | some c => some ⟨c, k⟩
    | none => s.coarsest? fuel (k - 1)

/-- Moves trailing zeros of the digits into the exponent, at most `fuel` of them. -/
def Digits.strip : Nat → Digits → Digits
  | 0, d => d
  | fuel + 1, d =>
    if d.digits ≠ 0 ∧ d.digits % 10 = 0 then Digits.strip fuel ⟨d.digits / 10, d.exponent + 1⟩ else d

/-- The shortest decimal that rounds to `m * 2 ^ e`, which is positive. Seventeen digits always
suffice. -/
def shortest (m : Nat) (e : Int) : Digits :=
  let s := Span.ofBinary m e
  let top := leadingPlace s.value s.denominator 700 310
  ((s.coarsest? 18 top).getD ⟨m, 0⟩).strip 20

end SensorSim.Decimal
