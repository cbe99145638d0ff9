import Mathlib
import SensorSim.Proofs.Field.TableFile

/-!
# Looking up samples

The cells of a grid and the places in its row of samples are in one-to-one correspondence
(`existsUnique_cell`), so a table gives a sample for exactly the cells of its grid, and each sample
for one of them. A place given by fractions has a sample unless a fraction is off an axis that has
several bins (`sample?_eq_none_iff`). No product or sum on the way to a sample is larger than its
index (`lookup_of_build`).
-/

namespace SensorSim.Field

/-! ## Cells -/

namespace Dimensions

variable {d : Dimensions}

/-- The cell at a place in the row of all cells. -/
def cellAt (d : Dimensions) (i : Nat) : Nat × Nat × Nat :=
  (i / d.z / d.y, i / d.z % d.y, i % d.z)

/-- Every place in the row is that of a cell of the grid. -/
lemma holds_cellAt (positive : d.Positive) {i : Nat} (h : i < d.cells) :
    d.Holds (d.cellAt i).1 (d.cellAt i).2.1 (d.cellAt i).2.2 := by
  obtain ⟨-, hy, hz⟩ := positive
  refine ⟨?_, Nat.mod_lt _ hy, Nat.mod_lt _ hz⟩
  show i / d.z / d.y < d.x
  rw [Nat.div_lt_iff_lt_mul hy, Nat.div_lt_iff_lt_mul hz]
  exact h

/-- The index of the cell with an index is that index. -/
lemma index_cellAt (d : Dimensions) (i : Nat) : d.index (d.cellAt i).1 (d.cellAt i).2.1 (d.cellAt i).2.2 = i := by
  show (i / d.z / d.y * d.y + i / d.z % d.y) * d.z + i % d.z = i
  rw [Nat.div_add_mod', Nat.div_add_mod']

/-- Every place in the row is that of exactly one cell of the grid. -/
lemma existsUnique_cell (positive : d.Positive) {i : Nat} (h : i < d.cells) :
    ∃! c : Nat × Nat × Nat, d.Holds c.1 c.2.1 c.2.2 ∧ d.index c.1 c.2.1 c.2.2 = i := by
  refine ⟨d.cellAt i, ⟨holds_cellAt positive h, d.index_cellAt i⟩, ?_⟩
  intro c e
  obtain ⟨holds, place⟩ := e
  exact (index_inj holds (holds_cellAt positive h)).1 (place.trans (d.index_cellAt i).symm)

/-- The cells along one axis, and those in a plane of two, are no more than all. -/
lemma le_cells (positive : d.Positive) : d.x ≤ d.cells ∧ d.x * d.y ≤ d.cells := by
  obtain ⟨-, hy, hz⟩ := positive
  have plane : d.x * d.y ≤ d.cells := Nat.le_mul_of_pos_right _ hz
  exact ⟨(Nat.le_mul_of_pos_right _ hy).trans plane, plane⟩

/-- The index of a cell is found without passing it on the way. -/
lemma le_index {ix iy iz : Nat} (holds : d.Holds ix iy iz) :
    ix * d.y ≤ ix * d.y + iy ∧ ix * d.y + iy ≤ (ix * d.y + iy) * d.z ∧
    (ix * d.y + iy) * d.z ≤ d.index ix iy iz :=
  ⟨Nat.le_add_right _ _, Nat.le_mul_of_pos_right _ (Nat.zero_lt_of_lt holds.2.2), Nat.le_add_right _ _⟩

end Dimensions

namespace Table

/-! ## Fractions -/

/-- A number is a fraction of an axis. -/
def IsFraction (f : Float) : Prop :=
  f.isFinite = true ∧ 0.0 ≤ f ∧ f ≤ 1.0

instance (f : Float) : Decidable (IsFraction f) :=
  inferInstanceAs (Decidable (_ ∧ _ ∧ _))

/-- Along an axis of several bins, a place is given by a fraction. -/
def Along (bins : Nat) (f : Float) : Prop :=
  1 < bins → IsFraction f

/-- A place has a bin when it is given by a fraction or there is only one. -/
lemma isSome_bin?_iff {bins : Nat} (positive : 0 < bins) {f : Float} : (bin? f bins).isSome ↔ Along bins f := by
  rw [bin?, Along, IsFraction]
  by_cases single : bins = 1
  · rw [if_pos single]
    exact ⟨fun _ several => absurd single (by omega), fun _ => rfl⟩
  · have several : 1 < bins := by omega
    rw [if_neg single]
    simp only [several, forall_const, Bool.and_eq_true, decide_eq_true_eq, and_assoc]
    split
    · rename_i within
      exact ⟨fun _ => within, fun _ => rfl⟩
    · rename_i outside
      exact ⟨nofun, fun within => absurd within outside⟩

/-- A place has one of the bins of an axis. -/
lemma exists_bin? {bins : Nat} (positive : 0 < bins) {f : Float} (along : Along bins f) :
    ∃ i < bins, bin? f bins = some i := by
  obtain ⟨i, h⟩ := Option.isSome_iff_exists.1 ((isSome_bin?_iff positive).2 along)
  exact ⟨i, bin?_lt positive h, h⟩

/-- Along an axis of one bin every number gives the same bin. -/
lemma bin?_congr {bins : Nat} (positive : 0 < bins) {f g : Float} (same : 1 < bins → f = g) :
    bin? f bins = bin? g bins := by
  by_cases single : bins = 1
  · rw [bin?, bin?, if_pos single, if_pos single]
  · rw [same (by omega)]

section

variable {α : Type} {t : Table α} {fx fy fz : Float}

/-- A place has no sample exactly when it is off an axis. -/
lemma sample?_eq_none_iff : t.sample? fx fy fz = none ↔
    ¬ Along t.dimensions.x fx ∨ ¬ Along t.dimensions.y fy ∨ ¬ Along t.dimensions.z fz := by
  obtain ⟨px, py, pz⟩ := t.positive
  rw [← isSome_bin?_iff px, ← isSome_bin?_iff py, ← isSome_bin?_iff pz, sample?]
  cases hx : bin? fx t.dimensions.x with
  | none => simp
  | some ix =>
    cases hy : bin? fy t.dimensions.y with
    | none => simp
    | some iy =>
      cases hz : bin? fz t.dimensions.z with
      | none => simp
      | some iz =>
        have stored := (t.isSome_get? ix iy iz).2 ⟨bin?_lt px hx, bin?_lt py hy, bin?_lt pz hz⟩
        simpa using Option.isSome_iff_ne_none.1 stored

/-- Every place along the axes has the sample of the cell of its bins. -/
lemma exists_sample? (hx : Along t.dimensions.x fx) (hy : Along t.dimensions.y fy) (hz : Along t.dimensions.z fz) :
    ∃ ix iy iz, t.dimensions.Holds ix iy iz ∧ t.sample? fx fy fz = t.get? ix iy iz := by
  obtain ⟨px, py, pz⟩ := t.positive
  obtain ⟨ix, lx, hx⟩ := exists_bin? px hx
  obtain ⟨iy, ly, hy⟩ := exists_bin? py hy
  obtain ⟨iz, lz, hz⟩ := exists_bin? pz hz
  refine ⟨ix, iy, iz, ⟨lx, ly, lz⟩, ?_⟩
  rw [sample?, hx, hy, hz]
  rfl

/-- Where there is one bin, it does not matter what a place is given by. -/
lemma sample?_congr {gx gy gz : Float} (hx : 1 < t.dimensions.x → fx = gx) (hy : 1 < t.dimensions.y → fy = gy)
    (hz : 1 < t.dimensions.z → fz = gz) : t.sample? fx fy fz = t.sample? gx gy gz := by
  obtain ⟨px, py, pz⟩ := t.positive
  rw [sample?, sample?, bin?_congr px hx, bin?_congr py hy, bin?_congr pz hz]

/-- A table that was built has as many samples as its grid has cells, and their number was found
without a product that is too large. It gives a sample for exactly the cells of the grid; the index
of such a cell is found without a number beyond the last index, and every sample is that of exactly
one of them. A place has no sample exactly when it is off an axis of several bins, and otherwise it
has that of a cell, which is in the first bin of every axis with only one, whatever the place is
given by along that axis. -/
theorem lookup_of_build {samples : Array α} {d : Dimensions} {size : Geometry.Vec3}
    (built : build samples d size = .ok t) :
    (0 < d.x ∧ 0 < d.y ∧ 0 < d.z) ∧
    (d.x ≤ greatestCount ∧ d.x * d.y ≤ greatestCount ∧ d.x * d.y * d.z ≤ greatestCount) ∧
    samples.size = d.x * d.y * d.z ∧
    (∀ ix iy iz, (t.get? ix iy iz).isSome ↔ ix < d.x ∧ iy < d.y ∧ iz < d.z) ∧
    (∀ ix iy iz, d.Holds ix iy iz →
      ix * d.y ≤ t.cellCount - 1 ∧ ix * d.y + iy ≤ t.cellCount - 1 ∧ (ix * d.y + iy) * d.z ≤ t.cellCount - 1 ∧
      (ix * d.y + iy) * d.z + iz ≤ t.cellCount - 1 ∧
      t.get? ix iy iz = samples[(ix * d.y + iy) * d.z + iz]?) ∧
    (∀ i < samples.size, ∃! c : Nat × Nat × Nat, d.Holds c.1 c.2.1 c.2.2 ∧ (c.1 * d.y + c.2.1) * d.z + c.2.2 = i) ∧
    (∀ fx fy fz, t.sample? fx fy fz = none ↔
      (1 < d.x ∧ ¬ IsFraction fx) ∨ (1 < d.y ∧ ¬ IsFraction fy) ∨ (1 < d.z ∧ ¬ IsFraction fz)) ∧
    ∀ fx fy fz, (1 < d.x → IsFraction fx) → (1 < d.y → IsFraction fy) → (1 < d.z → IsFraction fz) →
      (∃ ix iy iz sample, d.Holds ix iy iz ∧ (d.x = 1 → ix = 0) ∧ (d.y = 1 → iy = 0) ∧ (d.z = 1 → iz = 0) ∧
        samples[(ix * d.y + iy) * d.z + iz]? = some sample ∧ t.sample? fx fy fz = some sample) ∧
      ∀ gx gy gz, (1 < d.x → fx = gx) → (1 < d.y → fy = gy) → (1 < d.z → fz = gz) →
        t.sample? fx fy fz = t.sample? gx gy gz := by
  obtain ⟨positive, -, countable, filled, rfl, rfl, -, -⟩ := build_eq_ok_iff.1 built
  obtain ⟨axis, plane⟩ := Dimensions.le_cells positive
  refine ⟨positive, ⟨axis.trans countable, plane.trans countable, countable⟩, filled, t.isSome_get?,
    fun ix iy iz holds => ?_, fun i hi => ?_, fun fx fy fz => ?_, fun fx fy fz hx hy hz => ⟨?_, fun gx gy gz => ?_⟩⟩
  · obtain ⟨row, column, cell⟩ := Dimensions.le_index holds
    -- The steps of the index only grow, so none is beyond the last index.
    have last : t.dimensions.index ix iy iz ≤ t.cellCount - 1 := by
      rw [cellCount, filled]
      exact Nat.le_sub_one_of_lt (Dimensions.index_lt_cells holds)
    exact ⟨row.trans (column.trans (cell.trans last)), column.trans (cell.trans last), cell.trans last, last,
      if_pos holds⟩
  · rw [filled] at hi
    exact Dimensions.existsUnique_cell positive hi
  · rw [sample?_eq_none_iff]
    simp only [Along, Classical.not_imp]
  · obtain ⟨ix, iy, iz, holds, found⟩ := exists_sample? hx hy hz
    obtain ⟨sample, stored⟩ := Option.isSome_iff_exists.1 ((t.isSome_get? ix iy iz).2 holds)
    have read := stored
    rw [get?, if_pos holds] at read
    refine ⟨ix, iy, iz, sample, holds, fun single => ?_, fun single => ?_, fun single => ?_, read, found.trans stored⟩
    · exact Nat.lt_one_iff.1 (single ▸ holds.1)
    · exact Nat.lt_one_iff.1 (single ▸ holds.2.1)
    · exact Nat.lt_one_iff.1 (single ▸ holds.2.2)
  · exact sample?_congr

/-- Four samples in a plane, with one bin across it. -/
def sheet : Table Float where
  samples := #[1.0, 2.0, 3.0, 4.0]
  dimensions := ⟨2, 1, 2⟩
  size := ⟨1.0, 1.0, 1.0⟩
  positive := by decide
  filled := rfl

/-- Every number finds the last sample across the sheet, and along it a number beyond the end finds
none. -/
theorem lookup_of_build_sheet : build sheet.samples sheet.dimensions sheet.size = .ok sheet ∧
    sheet.sample? 1.0 7.0 0.5 = some 4.0 ∧ sheet.sample? 1.0 (0.0 / 0.0) 0.5 = some 4.0 ∧
    sheet.sample? 1.0 0.5 1.5 = none := by
  have built : build sheet.samples sheet.dimensions sheet.size = .ok sheet :=
    build_eq_ok_iff.2 ⟨sheet.positive, by decide +kernel, by decide, sheet.filled, rfl, rfl, rfl, rfl⟩
  obtain ⟨-, -, -, -, -, -, off, found⟩ := lookup_of_build built
  have corner : sheet.sample? 1.0 7.0 0.5 = some 4.0 := by decide +kernel
  have along : IsFraction 1.0 ∧ IsFraction 0.5 ∧ ¬ IsFraction 1.5 := by decide +kernel
  have across := (found 1.0 7.0 0.5 (fun _ => along.1) nofun fun _ => along.2.1).2
    1.0 (0.0 / 0.0) 0.5 (fun _ => rfl) nofun fun _ => rfl
  exact ⟨built, corner, across.symm.trans corner, (off _ _ _).2 (.inr (.inr ⟨by decide, along.2.2⟩))⟩

end

end Table

end SensorSim.Field
