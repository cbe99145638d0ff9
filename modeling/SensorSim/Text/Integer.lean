/-!
# Decimal integers of a fixed range

Reading an integer written in decimal digits into a range of machine integers. The digits are taken
from the left, and the first one that is no digit or leaves the range decides the fault.
-/

namespace SensorSim.Text

/-- The ranges of integers that can be asked for. -/
inductive IntegerRange where
  | unsigned32
  | unsigned64
  | size
  | signed32
  | signed64
deriving DecidableEq, Repr

namespace IntegerRange

def bits : IntegerRange → Nat
  | unsigned32 | signed32 => 32
  | unsigned64 | size | signed64 => 64

def isSigned : IntegerRange → Bool
  | unsigned32 | unsigned64 | size => false
  | signed32 | signed64 => true

/-- The short name of a range, as messages give it. -/
def name : IntegerRange → String
  | unsigned32 => "u32"
  | unsigned64 => "u64"
  | size => "usize"
  | signed32 => "i32"
  | signed64 => "i64"

def greatest (range : IntegerRange) : Nat :=
  if range.isSigned then Nat.pow 2 (range.bits - 1) - 1 else Nat.pow 2 range.bits - 1

def leastMagnitude (range : IntegerRange) : Nat :=
  if range.isSigned then Nat.pow 2 (range.bits - 1) else 0

end IntegerRange

/-- Why a text is no integer of the range asked for. -/
inductive IntegerFault where
  | empty
  | invalidDigit
  | tooLarge
  | tooSmall
deriving DecidableEq, Repr

def IntegerFault.message : IntegerFault → String
  | empty => "cannot parse integer from empty string"
  | invalidDigit => "invalid digit found in string"
  | tooLarge => "number too large to fit in target type"
  | tooSmall => "number too small to fit in target type"

def digitValue? (c : Char) : Option Nat :=
  if c.isDigit then some (c.toNat - '0'.toNat) else none

/-- Reads digits onto the magnitude `m`, which must not pass `bound`. -/
def readMagnitude (bound : Nat) (overflow : IntegerFault) :
    Nat → List Char → Except IntegerFault Nat
  | m, [] => .ok m
  | m, c :: cs =>
    match digitValue? c with
    | none => .error .invalidDigit
    | some d =>
      if m * 10 + d ≤ bound then readMagnitude bound overflow (m * 10 + d) cs else .error overflow

/-- Reads an integer of a range: digits behind an optional plus sign, or a minus sign where the
range has negative integers. -/
def readInteger (range : IntegerRange) : List Char → Except IntegerFault Int
  | [] => .error .empty
  | '+' :: c :: cs => do return (← readMagnitude range.greatest .tooLarge 0 (c :: cs))
  | '-' :: c :: cs =>
    if range.isSigned then
      do return -(← readMagnitude range.leastMagnitude .tooSmall 0 (c :: cs) : Int)
    else .error .invalidDigit
  | cs => do return (← readMagnitude range.greatest .tooLarge 0 cs)

/-- Reading digits onto a magnitude within the bound never leaves the bound. -/
theorem readMagnitude_le {bound : Nat} {f : IntegerFault} {m n : Nat} {cs : List Char}
    (hm : m ≤ bound) (h : readMagnitude bound f m cs = .ok n) : n ≤ bound := by
  induction cs generalizing m with
  | nil =>
    simp only [readMagnitude, Except.ok.injEq] at h
    omega
  | cons c cs ih =>
    simp only [readMagnitude] at h
    split at h
    · cases h
    · split at h
      · rename_i hle
        exact ih hle h
      · cases h

end SensorSim.Text
