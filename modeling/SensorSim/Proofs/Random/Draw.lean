import Mathlib
import SensorSim.Random.ChaCha

/-!
# Draws by place

What a stream still gives is determined by its key and by how many words it has given
(`Stream.upTo`): its next word is the one at that place, and the number that it draws next is made
of the two words from there. So the numbers drawn from a seed can be named by their places (`draw`),
whoever draws them and in whatever portions.
-/

namespace SensorSim.Random

/-- The number in `[0, 1)` at a place among those that are drawn one after the other from a seed. -/
def draw (seed : UInt64) (n : Nat) : Float :=
  let word := wordAt (keyOfSeed seed)
  Stream.unitOf ((word (2 * n)).toUInt64 ||| ((word (2 * n + 1)).toUInt64 <<< 32))

namespace Stream

/-- The stream of a key that has given a number of words: the rest of the block that they end in is
pending. -/
def upTo (key : List UInt32) (n : Nat) : Stream where
  key := key
  pending := if n % 16 = 0 then [] else (block key (UInt64.ofNat (n / 16))).toList.drop (n % 16)
  next := UInt64.ofNat ((n + 15) / 16)

variable (key : List UInt32) (n : Nat)

/-- A new stream has given no words. -/
lemma ofSeed_eq_upTo (seed : UInt64) : ofSeed seed = upTo (keyOfSeed seed) 0 :=
  rfl

/-- The words of a block from the place of a word on: that word, and those that follow in the
block. -/
lemma drop_block : (block key (UInt64.ofNat (n / 16))).toList.drop (n % 16) =
    wordAt key n :: (block key (UInt64.ofNat (n / 16))).toList.drop (n % 16 + 1) := by
  rw [List.drop_eq_getElem_cons (by rw [Vector.length_toList]; omega)]
  rfl

/-- The next word of a stream is the one at the place that it has come to. -/
lemma word_upTo : (upTo key n).word = (wordAt key n, upTo key (n + 1)) := by
  have words := drop_block key n
  by_cases fresh : n % 16 = 0
  · -- All blocks so far are used up, and the next one is begun.
    have number : (n + 15) / 16 = n / 16 := by omega
    have after : (n + 1 + 15) / 16 = n / 16 + 1 := by omega
    have same : (n + 1) / 16 = n / 16 := by omega
    have second : (n + 1) % 16 = n % 16 + 1 := by omega
    rw [fresh, List.drop_zero, ← fresh] at words
    rw [word, upTo, upTo, if_pos fresh, number, after, same, second, if_neg (Nat.succ_ne_zero _), UInt64.ofNat_add]
    dsimp only
    rw [words, fresh, zero_add, List.drop_succ_cons, List.drop_zero]
    have one : UInt64.ofNat 1 = 1 := rfl
    rw [one]
  · have after : (n + 1 + 15) / 16 = (n + 15) / 16 := by omega
    rw [word, upTo, upTo, if_neg fresh, words, after]
    by_cases last : n % 16 = 15
    · rw [if_pos (by omega), List.drop_eq_nil_of_le (by rw [Vector.length_toList]; omega)]
    · have second : (n + 1) % 16 = n % 16 + 1 := by omega
      have same : (n + 1) / 16 = n / 16 := by omega
      rw [second, same, if_neg (Nat.succ_ne_zero _)]

/-- The number that is drawn next is the one at the place that a stream has come to. -/
lemma unit_upTo (seed : UInt64) :
    (upTo (keyOfSeed seed) (2 * n)).unit = (draw seed n, upTo (keyOfSeed seed) (2 * (n + 1))) := by
  simp only [unit, word64, word_upTo, draw]
  rfl

end Stream

end SensorSim.Random
