import Mathlib
import SensorSim.Field.TableFile.Synthetic
import SensorSim.Proofs.Decimal.Layout
import SensorSim.Proofs.Field.TableFile
import SensorSim.Proofs.Text.Cut

/-!
# Synthetic table files are read back

The text of a synthetic table file describes its table (`describes_synthetic`): its lines are cut
into the words of a header and of one record for each cell, and every word is read as the number
that was printed. So the file is read, and every cell has the value that was computed for it
(`read_synthetic`).
-/

namespace SensorSim.Field.TableFile

open Text

/-! ## Words of lines -/

/-- A blank ends a word. -/
lemma words_append_cons {c : Char} (h : isBlank c) (cs ds : List Char) :
    words (cs ++ c :: ds) = words cs ++ words ds :=
  runs_append_cons h cs ds

/-- A text without a blank is a single word. -/
lemma words_eq_singleton {cs : List Char} (h : ∀ c ∈ cs, isBlank c = false) (nonempty : cs ≠ []) : words cs = [cs] :=
  runs_eq_singleton h nonempty

/-- The words of a text are those of its lines. -/
lemma words_join (lines : List String) :
    words (String.join (lines.map fun l => l ++ "\n")).toList = lines.flatMap fun l => words l.toList := by
  induction lines with
  | nil => rfl
  | cons l lines ih =>
    have line : (String.join ((l :: lines).map fun l => l ++ "\n")).toList =
        l.toList ++ '\n' :: (String.join (lines.map fun l => l ++ "\n")).toList := by
      rw [List.map_cons, String.join_cons, String.toList_append, String.toList_append, List.append_assoc]
      rfl
    rw [line, words_append_cons (by decide), ih, List.flatMap_cons]

/-! ## Words of numbers -/

/-- Digits are read onto a magnitude when the bound is kept to. -/
lemma readMagnitude_of_digits {bound : ℕ} {f : IntegerFault} {cs : List Char} (digits : Decimal.AllDigits cs) {m : ℕ}
    (within : Nat.ofDigitChars 10 cs m ≤ bound) : readMagnitude bound f m cs = .ok (Nat.ofDigitChars 10 cs m) := by
  induction cs generalizing m with
  | nil => rfl
  | cons c cs ih =>
    have digit : digitValue? c = some (c.toNat - '0'.toNat) := if_pos (digits c List.mem_cons_self)
    rw [Nat.ofDigitChars_cons, Nat.mul_comm 10 m] at within ⊢
    have keeps : m * 10 + (c.toNat - '0'.toNat) ≤ bound := by
      refine Nat.le_trans ?_ within
      rw [Nat.ofDigitChars_eq_ofDigitChars_zero]
      exact Nat.le_add_right_of_le (Nat.le_mul_of_pos_left _ (by positivity))
    simp only [readMagnitude, digit]
    rw [if_pos keeps]
    exact ih (fun c hc => digits c (List.mem_cons_of_mem _ hc)) within

/-- The digits of a natural number of 64 bits are read as the number. -/
lemma writesNatural_toString {n : ℕ} (lt : n < 2 ^ 64) : WritesNatural (toString n).toList n := by
  have value : Nat.ofDigitChars 10 (Decimal.digitsOf n) 0 = n := by
    rw [← Decimal.natOfDigits_eq, Decimal.natOfDigits_digitsOf]
  have within : Nat.ofDigitChars 10 (Decimal.digitsOf n) 0 ≤ IntegerRange.size.greatest := by
    rw [value]
    exact Nat.le_of_lt_succ lt
  have read := readMagnitude_of_digits (f := .tooLarge) (Decimal.allDigits_digitsOf n) within
  have digits := Decimal.allDigits_digitsOf n
  obtain ⟨c, cs, text⟩ := List.exists_cons_of_ne_nil (Decimal.digitsOf_ne_nil n)
  rw [value] at read
  show readInteger .size (Decimal.digitsOf n) = _
  rw [text] at read digits ⊢
  unfold readInteger
  split
  · rename_i e
    cases e
  · rename_i e
    cases (List.cons.inj e).1
    cases digits _ List.mem_cons_self
  · rename_i e
    cases (List.cons.inj e).1
    cases digits _ List.mem_cons_self
  · rw [read]
    rfl

/-- The positional text of a finite number is read as the number. -/
lemma writesNumber_plain {x : Float} (finite : x.isFinite) : WritesNumber (Decimal.plain x).toList x :=
  ⟨Decimal.read?_plain finite, finite⟩

/-- The digits of a natural number of 64 bits are also read as the nearest number. -/
lemma writesNumber_toString {n : ℕ} (pos : 0 < n) (lt : n < 2 ^ 64) :
    WritesNumber (toString n).toList (Float.ofNat n) := by
  obtain ⟨b, number, -⟩ := Decimal.exists_ofNat_eq pos lt
  have digits := Decimal.allDigits_digitsOf n
  have read := Decimal.readUnsigned?_whole digits (Decimal.digitsOf_ne_nil n)
  obtain ⟨c, cs, text⟩ := List.exists_cons_of_ne_nil (Decimal.digitsOf_ne_nil n)
  have unsigned := Decimal.read?_signText false (digits c (text ▸ List.mem_cons_self)) cs
  rw [← text, read, Decimal.natOfDigits_digitsOf] at unsigned
  exact ⟨unsigned, number ▸ b.isFinite_toFloat _⟩

/-! ## Cells -/

variable {d : Dimensions}

/-- The cells are those of a product, counted from one. -/
lemma cellsOf_eq (d : Dimensions) : cellsOf d =
    (List.range d.x ×ˢ List.range d.y ×ˢ List.range d.z).map fun c => (c.1 + 1, c.2.1 + 1, c.2.2 + 1) := by
  simp only [cellsOf, SProd.sprod, List.product, List.map_flatMap, List.map_map]
  rfl

/-- The cells are those of the grid, counted from one. -/
lemma mem_cellsOf {c : ℕ × ℕ × ℕ} :
    c ∈ cellsOf d ↔ ∃ ix iy iz, d.Holds ix iy iz ∧ (ix + 1, iy + 1, iz + 1) = c := by
  simp only [cellsOf_eq, List.mem_map, Prod.exists, List.mem_product, List.mem_range, Dimensions.Holds]

/-- There are as many cells as the dimensions say. -/
lemma length_cellsOf (d : Dimensions) : (cellsOf d).length = d.cells := by
  rw [cellsOf_eq, List.length_map, List.length_product, List.length_product, List.length_range, List.length_range,
    List.length_range, Dimensions.cells, Nat.mul_assoc]

/-- Every cell comes once. -/
lemma nodup_cellsOf (d : Dimensions) : (cellsOf d).Nodup := by
  rw [cellsOf_eq]
  refine (List.nodup_range.product (List.nodup_range.product List.nodup_range)).map ?_
  intro a b e
  simpa [Prod.ext_iff] using e

/-- No axis is longer than there are cells. -/
lemma axis_le_cells (positive : d.Positive) : d.x ≤ d.cells ∧ d.y ≤ d.cells ∧ d.z ≤ d.cells := by
  obtain ⟨hx, hy, hz⟩ := positive
  refine ⟨?_, ?_, ?_⟩
  · exact (Nat.le_mul_of_pos_right _ hy).trans (Nat.le_mul_of_pos_right _ hz)
  · exact (Nat.le_mul_of_pos_left _ hx).trans (Nat.le_mul_of_pos_right _ hz)
  · exact Nat.le_mul_of_pos_left _ (Nat.mul_pos hx hy)

/-! ## Header -/

/-- What the header of a synthetic table file says. -/
def syntheticSays (d : Dimensions) : Header :=
  ⟨⟨55 * micrometre, 55 * micrometre, 300 * micrometre⟩, d⟩

/-- The sizes in the header are extents. -/
lemma isExtent_syntheticSays (d : Dimensions) :
    isExtent (syntheticSays d).size.x ∧ isExtent (syntheticSays d).size.y ∧ isExtent (syntheticSays d).size.z := by
  have extents : isExtent (55 * micrometre) ∧ isExtent (300 * micrometre) := by decide +kernel
  exact ⟨extents.1, extents.1, extents.2⟩

/-- The digits of a natural number are a single word. -/
lemma words_toString (n : ℕ) : words (toString n).toList = [(toString n).toList] := by
  refine words_eq_singleton ?_ (Decimal.digitsOf_ne_nil n)
  exact fun c hc => Decimal.isBlank_of_isDigit (Decimal.allDigits_digitsOf n c hc)

/-- Three natural numbers and a word with blanks between them are four words. -/
lemma words_spaced (i j k : ℕ) {t : String} (word : words t.toList = [t.toList]) :
    words (toString i ++ " " ++ toString j ++ " " ++ toString k ++ " " ++ t).toList =
      [(toString i).toList, (toString j).toList, (toString k).toList, t.toList] := by
  have apart : (toString i ++ " " ++ toString j ++ " " ++ toString k ++ " " ++ t).toList = (toString i).toList ++
      ' ' :: ((toString j).toList ++ ' ' :: ((toString k).toList ++ ' ' :: t.toList)) := by
    simp only [String.toList_append, List.append_assoc]
    rfl
  have blank : isBlank ' ' := by decide
  rw [apart, words_append_cons blank, words_append_cons blank, words_append_cons blank, words_toString, words_toString,
    words_toString, word]
  rfl

/-- The lines of the header write what the header says. -/
lemma writesHeader_syntheticHeader (positive : d.Positive) (countable : d.cells < 2 ^ 64) :
    WritesHeader ((syntheticHeader d).tail.flatMap fun l => words l.toList) (syntheticSays d) := by
  obtain ⟨hx, hy, hz⟩ := axis_le_cells positive
  have axes := words_spaced d.x d.y d.z (t := "0") (by decide)
  refine ⟨["0", "0", "0", "0", "1", "0", "0", "0"].map String.toList, ["300", "55", "55"].map String.toList,
    ["0", "0", "0", "0"].map String.toList, [(toString d.x).toList, (toString d.y).toList, (toString d.z).toList],
    [['0']], 300, 55, 55, ?_, rfl, ?_, rfl, ?_, rfl, rfl⟩
  · have last : s!"{d.x} {d.y} {d.z} 0" = toString d.x ++ " " ++ toString d.y ++ " " ++ toString d.z ++ " " ++ "0" := by
      -- The line ends in one piece, the blank and the zero behind it.
      show toString d.x ++ " " ++ toString d.y ++ " " ++ toString d.z ++ (" " ++ "0") = _
      rw [← String.append_assoc]
    have front : (["0 0", "0 0 1", "0 0 0", "300 55 55", "0 0 0 0"].flatMap fun l => words l.toList) =
        ["0", "0", "0", "0", "1", "0", "0", "0", "300", "55", "55", "0", "0", "0", "0"].map String.toList := by
      decide
    have lines : (syntheticHeader d).tail =
        ["0 0", "0 0 1", "0 0 0", "300 55 55", "0 0 0 0"] ++ [s!"{d.x} {d.y} {d.z} 0"] := rfl
    rw [lines, List.flatMap_append, front, List.flatMap_singleton, last, axes]
    rfl
  · refine forall₂_triple_iff.2 ⟨_, _, _, rfl, ?_, ?_, ?_⟩
    · exact writesNumber_toString (n := 300) (by norm_num) (by norm_num)
    · exact writesNumber_toString (n := 55) (by norm_num) (by norm_num)
    · exact writesNumber_toString (n := 55) (by norm_num) (by norm_num)
  · exact forall₂_triple_iff.2 ⟨_, _, _, rfl, writesNatural_toString (by omega), writesNatural_toString (by omega),
      writesNatural_toString (by omega)⟩

/-! ## Records -/

/-- The record that the line of a cell writes. -/
def syntheticRecordSays (d : Dimensions) (c : ℕ × ℕ × ℕ) : Record :=
  ⟨c.1 - 1, c.2.1 - 1, c.2.2 - 1, [Float.ofNat c.2.2 / Float.ofNat d.z]⟩

/-- The line of a cell writes the record of the cell. -/
lemma writesRecord_syntheticRecord (positive : d.Positive) (countable : d.cells < 2 ^ 64) {c : ℕ × ℕ × ℕ}
    (hc : c ∈ cellsOf d) :
    WritesRecord (words (syntheticRecord d c.1 c.2.1 c.2.2).toList) (syntheticRecordSays d c) := by
  obtain ⟨ix, iy, iz, holds, rfl⟩ := mem_cellsOf.1 hc
  obtain ⟨hx, hy, hz⟩ := holds
  obtain ⟨hx', hy', hz'⟩ := axis_le_cells positive
  have finite := Decimal.isFinite_ofNat_div_ofNat (m := iz + 1) (n := d.z) (by omega) (by omega) (by omega) (by omega)
  have nonempty : (Decimal.plain (Float.ofNat (iz + 1) / Float.ofNat d.z)).toList ≠ [] := by
    -- No number is read from an empty text.
    intro empty
    have read := Decimal.read?_plain finite
    rw [empty, Decimal.read?_nil] at read
    cases read
  refine ⟨[(toString (ix + 1)).toList, (toString (iy + 1)).toList, (toString (iz + 1)).toList],
    [(Decimal.plain (Float.ofNat (iz + 1) / Float.ofNat d.z)).toList], ?_, ?_, ?_⟩
  · exact words_spaced _ _ _ (words_eq_singleton (Decimal.isBlank_plain finite) nonempty)
  · exact forall₂_triple_iff.2 ⟨_, _, _, rfl, writesNatural_toString (by omega), writesNatural_toString (by omega),
      writesNatural_toString (by omega)⟩
  · exact .cons (writesNumber_plain finite) .nil

/-! ## Reading back -/

/-- Behind a first line comes what is behind its line end. -/
lemma behindTitle_append {cs : List Char} (h : ∀ c ∈ cs, c ≠ '\n') (rest : List Char) :
    behindTitle (cs ++ '\n' :: rest) = rest := by
  rw [behindTitle, List.dropWhile_append_of_pos fun c hc => decide_eq_true (h c hc)]
  rfl

/-- The lines behind the title. -/
def syntheticLines (d : Dimensions) : List String :=
  (syntheticHeader d).tail ++ (cellsOf d).map fun c => syntheticRecord d c.1 c.2.1 c.2.2

/-- The characters of the text are the title, a line end and the other lines. -/
lemma toList_synthetic (d : Dimensions) : (synthetic d).toList = "synthetic weighting potential".toList ++
    '\n' :: (String.join ((syntheticLines d).map fun l => l ++ "\n")).toList := by
  have lines : synthetic d =
      String.join (("synthetic weighting potential" :: syntheticLines d).map fun l => l ++ "\n") := rfl
  rw [lines, List.map_cons, String.join_cons, String.toList_append, String.toList_append, List.append_assoc]
  rfl

/-- The words behind the title are those of the other lines. -/
lemma words_behindTitle_synthetic (d : Dimensions) : words (behindTitle (synthetic d).toList) =
    ((syntheticHeader d).tail.flatMap fun l => words l.toList) ++
      ((cellsOf d).map fun c => words (syntheticRecord d c.1 c.2.1 c.2.2).toList).flatten := by
  have single : ∀ c ∈ "synthetic weighting potential".toList, c ≠ '\n' := by simp
  rw [toList_synthetic, behindTitle_append single, words_join, syntheticLines, List.flatMap_append,
    List.flatMap_map, ← List.flatMap_def]

/-- The text of a synthetic table file describes its table. -/
lemma describes_synthetic {limit room : ℕ} (positive : d.Positive) (countable : d.cells < 2 ^ 64)
    (text : (synthetic d).utf8ByteSize ≤ limit) (table : d.cells * 8 ≤ limit) (memory : d.cells * 8 ≤ room) :
    Describes (synthetic d) limit room 1 (syntheticSays d) ((cellsOf d).map (syntheticRecordSays d)) where
  nonempty := by
    intro empty
    have chars := toList_synthetic d
    rw [empty] at chars
    cases chars
  within := text
  written := by
    refine ⟨_, (cellsOf d).map fun c => words (syntheticRecord d c.1 c.2.1 c.2.2).toList, [], ?_,
      writesHeader_syntheticHeader positive countable, ?_⟩
    · rw [words_behindTitle_synthetic, List.append_nil]
    · rw [List.forall₂_map_left_iff, List.forall₂_map_right_iff, List.forall₂_same]
      exact fun c hc => writesRecord_syntheticRecord positive countable hc
  extents := isExtent_syntheticSays d
  positive := positive
  countable := Nat.le_of_lt_succ countable
  bytes_le_limit := by
    show d.cells * 1 * 8 ≤ limit
    omega
  bytes_le_room := by
    show d.cells * 1 * 8 ≤ room
    omega
  complete := by
    rw [List.length_map, length_cellsOf]
    rfl
  fits := by
    intro r hr
    obtain ⟨c, hc, rfl⟩ := List.mem_map.1 hr
    obtain ⟨ix, iy, iz, holds, rfl⟩ := mem_cellsOf.1 hc
    exact ⟨holds, rfl⟩
  distinct := by
    rw [List.map_map]
    refine (nodup_cellsOf d).map_on ?_
    intro a ha b hb e
    obtain ⟨ix, iy, iz, -, rfl⟩ := mem_cellsOf.1 ha
    obtain ⟨jx, jy, jz, -, rfl⟩ := mem_cellsOf.1 hb
    have same : (ix, iy, iz) = (jx, jy, jz) := e
    cases same
    rfl

/-- The text that is written for a grid of any size is read back, where the limit is not below the
text nor the table and there is memory for the table: the table has the dimensions of the grid and
the extents of one pixel, and the value of a cell rises evenly with its depth, multiplied by the
units. -/
theorem read_synthetic (label : String) (units : Float) (limit memory : ℕ) (d : Dimensions) (positive : d.Positive)
    (addressable : limit < 2 ^ 63) (text : (synthetic d).utf8ByteSize ≤ limit) (table : 8 * d.cells ≤ limit)
    (room : 8 * d.cells ≤ memory) :
    ∃ t : Table Float, read label units limit (synthetic d).toUTF8 memory = .ok t ∧ t.dimensions = d ∧
      t.size = ⟨55 * 1e-3, 55 * 1e-3, 300 * 1e-3⟩ ∧
      ∀ ix iy iz, d.Holds ix iy iz → t.get? ix iy iz = some (Float.ofNat (iz + 1) / Float.ofNat d.z * units) := by
  have describes : Describes (synthetic d) limit (min greatestObject memory) 1 (syntheticSays d)
      ((cellsOf d).map (syntheticRecordSays d)) := by
    -- What keeps to such a limit is not larger than the largest object.
    refine describes_synthetic positive (by omega) text (by omega) ?_
    rw [greatestObject]
    omega
  have countable : limit ≤ greatestCount := by
    rw [greatestCount]
    omega
  obtain ⟨t, read, dimensions, size, samples⟩ := read_of_describes (α := Float) label units countable describes
  refine ⟨t, read, dimensions, size, fun ix iy iz holds => ?_⟩
  exact describes.get?_eq dimensions samples (List.mem_map_of_mem (mem_cellsOf.2 ⟨ix, iy, iz, holds, rfl⟩))

/-- The column of two cells that `read_synthetic` is tried on. -/
def column : Dimensions := ⟨1, 1, 2⟩

/-- The file of a column is read back, and its second cell has the whole value. -/
theorem read_synthetic_column : column.Positive ∧ (synthetic column).utf8ByteSize ≤ 4096 ∧
    ∃ t : Table Float, read "column.init" 0.5 4096 (synthetic column).toUTF8 4096 = .ok t ∧ t.dimensions = column ∧
      t.size = ⟨55 * 1e-3, 55 * 1e-3, 300 * 1e-3⟩ ∧
      t.get? 0 0 1 = some (Float.ofNat 2 / Float.ofNat 2 * 0.5) := by
  have positive : column.Positive := by decide
  have text : (synthetic column).utf8ByteSize ≤ 4096 := by decide +kernel
  refine ⟨positive, text, ?_⟩
  obtain ⟨t, read, dimensions, size, value⟩ :=
    read_synthetic "column.init" 0.5 4096 4096 column positive (by norm_num) text (by decide) (by decide)
  exact ⟨t, read, dimensions, size, value 0 0 1 (by decide)⟩

end SensorSim.Field.TableFile
