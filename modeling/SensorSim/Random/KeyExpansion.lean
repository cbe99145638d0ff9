/-!
# Keys from seeds

A key of eight words made from a seed of 64 bits by the permuted congruential generator with 64 bits
of state and 32 bits of output.
-/

namespace SensorSim.Random

/-- The factor and the addend of the congruential step. -/
def stepFactor : UInt64 := 6364136223846793005

@[inherit_doc stepFactor]
def stepAddend : UInt64 := 11634580027462260723

def nextState (s : UInt64) : UInt64 :=
  s * stepFactor + stepAddend

def rotateRight (x n : UInt32) : UInt32 :=
  (x >>> n) ||| (x <<< ((32 - n) % 32))

def output (s : UInt64) : UInt32 :=
  rotateRight (((s >>> 18) ^^^ s) >>> 27).toUInt32 (s >>> 59).toUInt32

def outputs : Nat → UInt64 → List UInt32
  | 0, _ => []
  | n + 1, s => output (nextState s) :: outputs n (nextState s)

/-- The key of a seed. -/
def keyOfSeed (seed : UInt64) : List UInt32 :=
  outputs 8 seed

/-- As many outputs are drawn as asked for. -/
theorem length_outputs (n : Nat) (s : UInt64) : (outputs n s).length = n := by
  induction n generalizing s with
  | zero => rfl
  | succ n ih => simp [outputs, ih]

end SensorSim.Random
