import SensorSim.Field.Sample

/-!
# Field tables

A field sampled on a regular grid. The samples are stored with the last axis fastest, there is one
for every cell, and no axis is empty. A table is asked either for a cell or for a place given as a
fraction of its extent along each axis.
-/

namespace SensorSim.Field

open SensorSim.Geometry

/-- The number of cells along each axis of a grid. -/
structure Dimensions where
  x : Nat
  y : Nat
  z : Nat
deriving DecidableEq, Repr, Inhabited

namespace Dimensions

def cells (d : Dimensions) : Nat :=
  d.x * d.y * d.z

/-- No axis is empty. -/
def Positive (d : Dimensions) : Prop :=
  0 < d.x ∧ 0 < d.y ∧ 0 < d.z

instance (d : Dimensions) : Decidable d.Positive :=
  inferInstanceAs (Decidable (_ ∧ _ ∧ _))

/-- A cell lies on the grid. -/
def Holds (d : Dimensions) (ix iy iz : Nat) : Prop :=
  ix < d.x ∧ iy < d.y ∧ iz < d.z

instance (d : Dimensions) (ix iy iz : Nat) : Decidable (d.Holds ix iy iz) :=
  inferInstanceAs (Decidable (_ ∧ _ ∧ _))

/-- The place of a cell in the row of all cells, the last axis running fastest. -/
def index (d : Dimensions) (ix iy iz : Nat) : Nat :=
  (ix * d.y + iy) * d.z + iz

instance : ToString Dimensions := ⟨fun d => s!"[{d.x}, {d.y}, {d.z}]"⟩

/-- A cell of the grid has its place within the row of all cells. -/
theorem index_lt_cells {d : Dimensions} {ix iy iz : Nat} (h : d.Holds ix iy iz) :
    d.index ix iy iz < d.cells := by
  obtain ⟨hx, hy, hz⟩ := h
  have inPlane : ix * d.y + iy + 1 ≤ d.x * d.y :=
    calc ix * d.y + iy + 1 ≤ ix * d.y + d.y := by omega
      _ = (ix + 1) * d.y := (Nat.succ_mul _ _).symm
      _ ≤ d.x * d.y := Nat.mul_le_mul_right _ hx
  calc (ix * d.y + iy) * d.z + iz < (ix * d.y + iy) * d.z + d.z := by omega
    _ = (ix * d.y + iy + 1) * d.z := (Nat.succ_mul _ _).symm
    _ ≤ d.x * d.y * d.z := Nat.mul_le_mul_right _ inPlane

end Dimensions

/-- The largest count and size of a 64-bit machine, `2 ^ 64 - 1`. -/
def greatestCount : Nat := 18446744073709551615

/-- Why samples do not make a table. -/
inductive TableFault where
  | emptyAxis (dimensions : Dimensions)
  | badExtents (size : Vec3)
  | tooManyCells (dimensions : Dimensions)
  | sampleCount (expected : Nat) (dimensions : Dimensions) (found : Nat)

def TableFault.message : TableFault → String
  | emptyAxis d => s!"dimensions {d} contain a zero"
  | badExtents s => "extents [" ++ Decimal.full s.x ++ ", " ++ Decimal.full s.y ++ ", " ++
      Decimal.full s.z ++ "] must be finite and positive"
  | tooManyCells d => s!"dimensions {d} overflow"
  | sampleCount expected d found => s!"expected {expected} samples for dimensions {d}, got {found}"

/-- A number that can be the extent of a table: finite and positive. -/
def isExtent (x : Float) : Bool :=
  x.isFinite && 0.0 < x

/-- A field sampled on a regular grid. -/
structure Table (α : Type) where
  samples : Array α
  dimensions : Dimensions
  /-- The extents along each axis in millimetres. -/
  size : Vec3
  /-- The file from which the table was read. -/
  source : Option String := none
  positive : dimensions.Positive
  filled : samples.size = dimensions.cells

namespace Table

variable {α : Type}

/-- The table of some samples, when they fill a grid of the given dimensions and extents. -/
def build (samples : Array α) (dimensions : Dimensions) (size : Vec3) : Except TableFault (Table α) :=
  if hp : dimensions.Positive then
    if isExtent size.x && isExtent size.y && isExtent size.z then
      if dimensions.cells ≤ greatestCount then
        if hs : samples.size = dimensions.cells then
          .ok { samples, dimensions, size, positive := hp, filled := hs }
        else .error (.sampleCount dimensions.cells dimensions samples.size)
      else .error (.tooManyCells dimensions)
    else .error (.badExtents size)
  else .error (.emptyAxis dimensions)

def cellCount (t : Table α) : Nat :=
  t.samples.size

def cellSize (t : Table α) : Vec3 :=
  ⟨t.size.x / Float.ofNat t.dimensions.x, t.size.y / Float.ofNat t.dimensions.y,
    t.size.z / Float.ofNat t.dimensions.z⟩

def get? (t : Table α) (ix iy iz : Nat) : Option α :=
  if t.dimensions.Holds ix iy iz then t.samples[t.dimensions.index ix iy iz]? else none

/-- The bin that a fraction of an axis falls in. A single bin takes every fraction; otherwise the
fraction must lie in `[0, 1]`, and `1` belongs to the last bin. -/
def bin? (fraction : Float) (bins : Nat) : Option Nat :=
  if bins = 1 then some 0
  else if fraction.isFinite && 0.0 ≤ fraction && fraction ≤ 1.0 then
    some (min (fraction * Float.ofNat bins).toUInt64.toNat (bins - 1))
  else none

/-- The sample at a place given by its fraction of the extent along each axis. -/
def sample? (t : Table α) (fx fy fz : Float) : Option α := do
  let ix ← bin? fx t.dimensions.x
  let iy ← bin? fy t.dimensions.y
  let iz ← bin? fz t.dimensions.z
  t.get? ix iy iz

/-- A fraction that falls into a bin falls into one that exists. -/
theorem bin?_lt {fraction : Float} {bins i : Nat} (hb : 0 < bins) (h : bin? fraction bins = some i) :
    i < bins := by
  unfold bin? at h
  split at h
  · simp only [Option.some.injEq] at h
    omega
  · split at h
    · simp only [Option.some.injEq] at h
      omega
    · cases h

/-- A table has a sample for exactly the cells of its grid. -/
theorem isSome_get? (t : Table α) (ix iy iz : Nat) :
    (t.get? ix iy iz).isSome ↔ t.dimensions.Holds ix iy iz := by
  unfold get?
  split
  · rename_i h
    have := Dimensions.index_lt_cells h
    rw [← t.filled] at this
    simp [this, h]
  · rename_i h
    simp [h]

end Table

end SensorSim.Field
