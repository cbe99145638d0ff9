/-!
# Blank characters

The characters that separate words, trimming, and the cut of a text into words. `runs` keeps every
character that is not a separator, in order, and none of its pieces is empty.
-/

namespace SensorSim.Text

/-- The code points with the Unicode property `White_Space`, as ranges. -/
def blankRanges : List (Nat × Nat) :=
  [(0x09, 0x0d), (0x20, 0x20), (0x85, 0x85), (0xa0, 0xa0), (0x1680, 0x1680), (0x2000, 0x200a),
    (0x2028, 0x2029), (0x202f, 0x202f), (0x205f, 0x205f), (0x3000, 0x3000)]

/-- Whether a character has the property `White_Space`. -/
def isBlank (c : Char) : Bool :=
  blankRanges.any fun (lo, hi) => lo ≤ c.toNat && c.toNat ≤ hi

def trim (cs : List Char) : List Char :=
  (((cs.dropWhile isBlank).reverse).dropWhile isBlank).reverse

/-- The maximal runs of characters that are not separators, in order. -/
def runs (separates : Char → Bool) (cs : List Char) : List (List Char) :=
  (cs.splitOnP separates).filter fun r => !r.isEmpty

/-- The words of a text: its maximal runs without a blank. -/
def words (cs : List Char) : List (List Char) :=
  runs isBlank cs

/-- Every blank of core's ASCII class is a blank here. -/
theorem isBlank_of_isWhitespace {c : Char} (h : c.isWhitespace) : isBlank c := by
  simp only [Char.isWhitespace, Bool.or_eq_true, decide_eq_true_eq] at h
  rcases h with ((rfl | rfl) | rfl) | rfl <;> decide

/-- A run is never empty. -/
theorem ne_nil_of_mem_runs {p : Char → Bool} {cs r : List Char} (h : r ∈ runs p cs) : r ≠ [] := by
  simp only [runs, List.mem_filter, Bool.not_eq_true', List.isEmpty_eq_false_iff] at h
  exact h.2

end SensorSim.Text
