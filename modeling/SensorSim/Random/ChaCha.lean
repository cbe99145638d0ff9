import SensorSim.Random.KeyExpansion

/-!
# The ChaCha stream

The stream of words that the ChaCha function with eight rounds gives for a key: the blocks with the
numbers 0, 1, 2, …, under a nonce of zero. A stream draws its words one after the other, a number of
64 bits from two words, and a number in `[0, 1)` from its upper 53 bits.
-/

namespace SensorSim.Random

abbrev Block := Vector UInt32 16

def rotateLeft (x n : UInt32) : UInt32 :=
  (x <<< n) ||| (x >>> (32 - n))

/-- Mixes four words of a block. -/
def quarterRound (s : Block) (a b c d : Fin 16) : Block :=
  let s := s.set a (s[a] + s[b])
  let s := s.set d (rotateLeft (s[d] ^^^ s[a]) 16)
  let s := s.set c (s[c] + s[d])
  let s := s.set b (rotateLeft (s[b] ^^^ s[c]) 12)
  let s := s.set a (s[a] + s[b])
  let s := s.set d (rotateLeft (s[d] ^^^ s[a]) 8)
  let s := s.set c (s[c] + s[d])
  s.set b (rotateLeft (s[b] ^^^ s[c]) 7)

/-- Mixes the columns, then the diagonals of a block. -/
def doubleRound (s : Block) : Block :=
  let s := quarterRound s 0 4 8 12
  let s := quarterRound s 1 5 9 13
  let s := quarterRound s 2 6 10 14
  let s := quarterRound s 3 7 11 15
  let s := quarterRound s 0 5 10 15
  let s := quarterRound s 1 6 11 12
  let s := quarterRound s 2 7 8 13
  quarterRound s 3 4 9 14

/-- How often a block is mixed. -/
def doubleRounds : Nat := 4

/-- The words that every block starts with. -/
def constants : List UInt32 := [0x61707865, 0x3320646e, 0x79622d32, 0x6b206574]

/-- The block with a number before it is mixed: the constants, the key, the number as two words, and
a nonce of zero. -/
def initialBlock (key : List UInt32) (number : UInt64) : Block :=
  let words := constants ++ key ++ [number.toUInt32, (number >>> 32).toUInt32, 0, 0]
  Vector.ofFn fun i => words.getD i 0

/-- A block mixed the given number of times. -/
def mix : Nat → Block → Block
  | 0, s => s
  | n + 1, s => mix n (doubleRound s)

def block (key : List UInt32) (number : UInt64) : Block :=
  let s := initialBlock key number
  Vector.zipWith (· + ·) (mix doubleRounds s) s

/-- The word at a place of the stream of a key. -/
def wordAt (key : List UInt32) (i : Nat) : UInt32 :=
  (block key (UInt64.ofNat (i / 16))).get ⟨i % 16, Nat.mod_lt i (by decide)⟩

/-- A stream that has given some of its words. -/
structure Stream where
  key : List UInt32
  /-- The words of the last block that are still to be given. -/
  pending : List UInt32
  /-- The number of the block that follows. -/
  next : UInt64

namespace Stream

def ofSeed (seed : UInt64) : Stream :=
  ⟨keyOfSeed seed, [], 0⟩

def word (s : Stream) : UInt32 × Stream :=
  match s.pending with
  | w :: rest => (w, { s with pending := rest })
  | [] =>
    match (block s.key s.next).toList with
    | w :: rest => (w, { s with pending := rest, next := s.next + 1 })
    | [] => (0, s)

/-- Draws a number of 64 bits: two words, the lower first. -/
def word64 (s : Stream) : UInt64 × Stream :=
  let (low, s) := s.word
  let (high, s) := s.word
  (low.toUInt64 ||| (high.toUInt64 <<< 32), s)

/-- The distance of neighbouring numbers that are drawn. -/
def grain : Float := 1.0 / 9007199254740992.0

/-- The number in `[0, 1)` that 64 bits stand for. -/
def unitOf (bits : UInt64) : Float :=
  (bits >>> 11).toFloat * grain

/-- Draws a number in `[0, 1)`. -/
def unit (s : Stream) : Float × Stream :=
  let (bits, s) := s.word64
  (unitOf bits, s)

end Stream

end SensorSim.Random
