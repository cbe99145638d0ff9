import Mathlib
import SensorSim.Decimal.Layout
import SensorSim.Text.Blank
import SensorSim.Proofs.Decimal.Nearest
import SensorSim.Proofs.Decimal.Shortest

/-!
# Positional text is read back

The positional text of a finite number is one word of digits, with a sign and a point, and reading
it gives the number (`read?_plain`).
-/

namespace SensorSim.Decimal


/-! ## Digits -/

/-- A text of digits only. -/
def AllDigits (cs : List Char) : Prop :=
  ∀ c ∈ cs, c.isDigit

/-- Digits are read by the base of ten. -/
lemma natOfDigits_eq (cs : List Char) : natOfDigits cs = Nat.ofDigitChars 10 cs 0 := by
  simp only [natOfDigits, Nat.ofDigitChars_eq_foldl, Nat.mul_comm]

/-- A natural number is written to the base of ten. -/
lemma digitsOf_eq (n : ℕ) : digitsOf n = Nat.toDigits 10 n := by
  rw [digitsOf, Nat.toString_eq_repr, Nat.toList_repr]

/-- Every number has a digit, zero included. -/
lemma digitsOf_ne_nil (n : ℕ) : digitsOf n ≠ [] := by
  rw [digitsOf_eq]
  exact Nat.toDigits_ne_nil

/-- A natural number is written with digits only. -/
lemma allDigits_digitsOf (n : ℕ) : AllDigits (digitsOf n) := by
  intro c hc
  rw [digitsOf_eq] at hc
  exact Nat.isDigit_of_mem_toDigits (by norm_num) (by norm_num) hc

/-- The digits of a number are read as the number. -/
@[simp] lemma natOfDigits_digitsOf (n : ℕ) : natOfDigits (digitsOf n) = n := by
  rw [natOfDigits_eq, digitsOf_eq, Nat.ofDigitChars_ten_toDigits]

/-- Zeros behind the digits multiply by powers of ten. -/
lemma natOfDigits_append_zeros (cs : List Char) (k : ℕ) :
    natOfDigits (cs ++ List.replicate k '0') = natOfDigits cs * 10 ^ k := by
  rw [natOfDigits_eq, natOfDigits_eq, Nat.ofDigitChars_append, Nat.ofDigitChars_replicate_zero, Nat.mul_comm]

/-- Zeros before the digits change nothing. -/
lemma natOfDigits_zeros_append (cs : List Char) (k : ℕ) :
    natOfDigits (List.replicate k '0' ++ cs) = natOfDigits cs := by
  rw [natOfDigits_eq, natOfDigits_eq, Nat.ofDigitChars_append, Nat.ofDigitChars_replicate_zero, Nat.mul_zero]

/-- Zeros are digits. -/
lemma allDigits_zeros (k : ℕ) : AllDigits (List.replicate k '0') := by
  intro c hc
  rw [List.eq_of_mem_replicate hc]
  rfl

/-- The digits stand between 48 and 57. -/
lemma toNat_of_isDigit {c : Char} (h : c.isDigit) : 48 ≤ c.toNat ∧ c.toNat ≤ 57 := by
  simp only [Char.isDigit, Bool.and_eq_true, decide_eq_true_eq] at h
  exact h

/-- A digit separates no words. -/
lemma isBlank_of_isDigit {c : Char} (h : c.isDigit) : Text.isBlank c = false := by
  obtain ⟨low, high⟩ := toNat_of_isDigit h
  simp [Text.isBlank, Text.blankRanges]
  omega

/-- A digit has no lower case. -/
lemma toLower_of_isDigit {c : Char} (h : c.isDigit) : c.toLower = c := by
  obtain ⟨low, high⟩ := toNat_of_isDigit h
  refine dif_neg fun upper => ?_
  have least : 65 ≤ c.toNat := upper.1
  omega

namespace AllDigits

variable {cs ds : List Char}

/-- Digits behind digits are digits. -/
lemma append (h : AllDigits cs) (h' : AllDigits ds) : AllDigits (cs ++ ds) := by
  intro c hc
  rcases List.mem_append.1 hc with hc | hc
  · exact h c hc
  · exact h' c hc

/-- Some of the characters of digits only are digits only. -/
lemma mono (h : AllDigits ds) (sub : cs ⊆ ds) : AllDigits cs :=
  fun c hc => h c (sub hc)

/-- The leading digits of a text are all of those in front of what is no digit. -/
lemma spanDigits_append (h : AllDigits cs) {rest : List Char} (stop : ∀ c ∈ rest.head?, c.isDigit = false) :
    spanDigits (cs ++ rest) = (cs, rest) := by
  rw [spanDigits, List.takeWhile_append_of_pos h, List.dropWhile_append_of_pos h]
  cases rest with
  | nil => simp
  | cons c rest =>
    have mark := stop c rfl
    rw [List.takeWhile_cons_of_neg (by simp [mark]), List.dropWhile_cons_of_neg (by simp [mark]), List.append_nil]

end AllDigits

/-! ## Reading -/

section

variable {ds ps : List Char}

/-- In a text of digits nothing is left behind the leading ones. -/
lemma spanDigits_of_digits (digits : AllDigits ds) : spanDigits ds = (ds, []) := by
  have stop : ∀ c ∈ ([] : List Char).head?, c.isDigit = false := nofun
  have span := digits.spanDigits_append stop
  rw [List.append_nil] at span
  exact span

/-- Digits without a point are all before it. -/
lemma splitPoint_whole (digits : AllDigits ds) : splitPoint ds = (ds, [], []) := by
  simp only [splitPoint, spanDigits_of_digits digits]

/-- Digits with a point are split there. -/
lemma splitPoint_point (digits : AllDigits ds) (places : AllDigits ps) :
    splitPoint (ds ++ '.' :: ps) = (ds, ps, []) := by
  have front : spanDigits (ds ++ '.' :: ps) = (ds, '.' :: ps) := digits.spanDigits_append (by simp)
  simp only [splitPoint, front, spanDigits_of_digits places]

/-- A text that starts with a digit and splits at its point is a number. -/
lemma readUnsigned?_of_splitPoint {cs : List Char} {c : Char} (h : c.isDigit)
    (split : splitPoint (c :: cs) = (ds, ps, [])) (nonempty : ds ≠ []) :
    readUnsigned? (c :: cs) = .some (nearest (natOfDigits (ds ++ ps)) (-ps.length)) := by
  have letter : ∀ d : Char, d.isDigit = false → ∀ word, (c :: cs).map Char.toLower ≠ d :: word := by
    intro d hd word e
    have first := (List.cons.inj e).1
    rw [toLower_of_isDigit h] at first
    rw [first, hd] at h
    cases h
  rw [readUnsigned?, if_neg, if_neg]
  · simp only [split, nonempty, false_and, if_false, readExponent?, Option.map_some, zero_sub]
  · exact letter 'n' (by decide) _
  · rw [not_or]
    exact ⟨letter 'i' (by decide) _, letter 'i' (by decide) _⟩

/-- Digits are read as the number nearest to a natural number. -/
lemma readUnsigned?_whole (digits : AllDigits ds) (nonempty : ds ≠ []) :
    readUnsigned? ds = .some (nearest (natOfDigits ds) 0) := by
  obtain ⟨c, cs, rfl⟩ := List.exists_cons_of_ne_nil nonempty
  rw [readUnsigned?_of_splitPoint (digits c List.mem_cons_self) (splitPoint_whole digits) nonempty, List.append_nil]
  rfl

/-- Each digit behind the point divides by ten once more. -/
lemma readUnsigned?_point (digits : AllDigits ds) (nonempty : ds ≠ []) (places : AllDigits ps) :
    readUnsigned? (ds ++ '.' :: ps) = .some (nearest (natOfDigits (ds ++ ps)) (-ps.length)) := by
  obtain ⟨c, cs, rfl⟩ := List.exists_cons_of_ne_nil nonempty
  exact readUnsigned?_of_splitPoint (digits c List.mem_cons_self) (splitPoint_point digits places) nonempty

end

/-- Positional text is digits, or digits with a point between them. -/
lemma positional_cases (d : Digits) :
    (AllDigits (positional d) ∧ positional d ≠ [] ∧ (natOfDigits (positional d) : ℚ) = d.value) ∨
    ∃ ds ps, positional d = ds ++ '.' :: ps ∧ AllDigits ds ∧ AllDigits ps ∧ ds ≠ [] ∧
      (natOfDigits (ds ++ ps) * 10 ^ (-ps.length : ℤ) : ℚ) = d.value := by
  unfold positional
  dsimp only
  split
  · rename_i nonneg
    refine .inl ⟨(allDigits_digitsOf _).append (allDigits_zeros _), ?_, ?_⟩
    · exact List.append_ne_nil_of_left_ne_nil (digitsOf_ne_nil _) _
    · rw [natOfDigits_append_zeros, natOfDigits_digitsOf, Digits.value]
      push_cast
      rw [← zpow_natCast, Int.toNat_of_nonneg nonneg]
  · rename_i negative
    generalize hp : (-d.exponent).toNat = places
    generalize padded : List.replicate (places + 1 - (digitsOf d.digits).length) '0' ++ digitsOf d.digits = cs
    have digits : AllDigits cs := padded ▸ (allDigits_zeros _).append (allDigits_digitsOf _)
    have long : places < cs.length := by
      rw [← padded, List.length_append, List.length_replicate]
      omega
    have cut := List.take_append_drop (cs.length - places) cs
    refine .inr ⟨_, _, rfl, digits.mono (List.take_subset _ _), digits.mono (List.drop_subset _ _), ?_, ?_⟩
    · rw [ne_eq, ← List.length_eq_zero_iff, List.length_take]
      omega
    · have exponent : (-((cs.drop (cs.length - places)).length : ℤ)) = d.exponent := by
        rw [List.length_drop]
        omega
      rw [cut, exponent, ← padded, natOfDigits_zeros_append, natOfDigits_digitsOf, Digits.value]

/-- Positional text is read as a decimal of the same value. -/
lemma readUnsigned?_positional (d : Digits) :
    ∃ c k, readUnsigned? (positional d) = some (nearest c k) ∧ (c * 10 ^ k : ℚ) = d.value := by
  rcases positional_cases d with ⟨digits, nonempty, value⟩ | ⟨ds, ps, text, digits, places, nonempty, value⟩
  · exact ⟨_, 0, readUnsigned?_whole digits nonempty, by rw [zpow_zero, mul_one, value]⟩
  · exact ⟨_, _, text ▸ readUnsigned?_point digits nonempty places, value⟩

/-- Positional text starts with a digit and has at most a point besides. -/
lemma exists_positional_eq (d : Digits) :
    ∃ c cs, positional d = c :: cs ∧ c.isDigit ∧ ∀ e ∈ cs, e.isDigit ∨ e = '.' := by
  rcases positional_cases d with ⟨digits, nonempty, -⟩ | ⟨ds, ps, text, digits, places, nonempty, -⟩
  · obtain ⟨c, cs, text⟩ := List.exists_cons_of_ne_nil nonempty
    rw [text] at digits ⊢
    exact ⟨c, cs, rfl, digits c List.mem_cons_self, fun e he => .inl (digits e (List.mem_cons_of_mem _ he))⟩
  · obtain ⟨c, cs, rfl⟩ := List.exists_cons_of_ne_nil nonempty
    refine ⟨c, cs ++ '.' :: ps, text, digits c List.mem_cons_self, fun e he => ?_⟩
    rcases List.mem_append.1 he with front | behind
    · exact .inl (digits e (List.mem_cons_of_mem _ front))
    rcases List.mem_cons.1 behind with rfl | behind
    · exact .inr rfl
    · exact .inl (places e behind)

/-- A sign is read apart from the digits behind it. -/
lemma read?_signText (negative : Bool) {c : Char} (h : c.isDigit) (cs : List Char) :
    read? (signText negative ++ c :: cs) = (readUnsigned? (c :: cs)).map fun x => if negative then -x else x := by
  cases negative
  · have unsigned : splitSign (c :: cs) = (false, c :: cs) := by
      unfold splitSign
      split
      · rename_i e
        rw [(List.cons.inj e).1] at h
        cases h
      · rename_i e
        rw [(List.cons.inj e).1] at h
        cases h
      · rfl
    show read? (c :: cs) = _
    rw [read?, unsigned]
  · rfl

/-- Negation changes the sign and nothing else. -/
lemma Binary.neg_toFloat (b : Binary) : -b.toFloat .positive = b.toFloat .negative := by
  show Float.ofModel (.pack (b.toFloat .positive).toModel.unpack.neg) = _
  rw [unpack_toFloat]
  rfl

/-- Nothing is read as the positive zero. -/
lemma nearest_zero : nearest 0 0 = zero .positive :=
  eq_of_toBits (by decide +kernel)

/-- Negation makes the positive zero the negative one. -/
lemma neg_zero_positive : -zero .positive = zero .negative :=
  eq_of_toBits (by decide +kernel)

/-- The positional text of a finite number is a sign, a digit, and more digits with at most a point
between them. -/
lemma plain_cases {x : Float} (finite : x.isFinite) : ∃ negative c cs y,
    (plain x).toList = signText negative ++ c :: cs ∧ c.isDigit ∧ (∀ e ∈ cs, e.isDigit ∨ e = '.') ∧
    readUnsigned? (c :: cs) = some y ∧ (if negative then -y else y) = x := by
  obtain ⟨negative, ⟨parts, rfl⟩ | ⟨b, parts, rfl⟩⟩ := exists_of_isFinite finite
  · refine ⟨negative, '0', [], nearest 0 0, ?_, by decide, nofun, ?_, ?_⟩
    · rw [plain, parts]
      exact String.toList_ofList
    · exact readUnsigned?_whole (allDigits_zeros 1) (List.cons_ne_nil _ _)
    · rw [nearest_zero]
      cases negative
      · rfl
      · exact neg_zero_positive
  · obtain ⟨c, cs, text, first, rest⟩ := exists_positional_eq (shortest b.mantissa b.exponent)
    obtain ⟨n, k, read, value⟩ := readUnsigned?_positional (shortest b.mantissa b.exponent)
    refine ⟨negative, c, cs, b.toFloat .positive, ?_, first, rest, ?_, ?_⟩
    · rw [plain, parts, ← text]
      obtain ⟨m, hm⟩ := Nat.exists_eq_add_one_of_ne_zero b.pos.ne'
      rw [hm]
      exact String.toList_ofList
    · rw [← text, read, nearest_eq (value ▸ b.isNearest_shortest)]
    · cases negative
      · rfl
      · exact b.neg_toFloat

/-- The positional text of a finite number is read as the number. -/
lemma read?_plain {x : Float} (finite : x.isFinite) : read? (plain x).toList = some x := by
  obtain ⟨negative, c, cs, y, text, first, -, read, value⟩ := plain_cases finite
  rw [text, read?_signText negative first, read, Option.map_some, value]

/-- The positional text of a finite number is a single word. -/
lemma isBlank_plain {x : Float} (finite : x.isFinite) : ∀ c ∈ (plain x).toList, Text.isBlank c = false := by
  obtain ⟨negative, c, cs, y, text, first, rest, -, -⟩ := plain_cases finite
  intro e he
  rw [text] at he
  rcases List.mem_append.1 he with sign | body
  · cases negative
    · cases sign
    · rw [List.mem_singleton.1 sign]
      decide
  rcases List.mem_cons.1 body with rfl | behind
  · exact isBlank_of_isDigit first
  rcases rest e behind with digit | rfl
  · exact isBlank_of_isDigit digit
  · decide

end SensorSim.Decimal
