import Std.Data.HashMap
import SensorSim.Field.Table
import SensorSim.Field.TableFile.Token

/-!
# Header and records of a table file

The header gives the extents and the dimensions of the table. A record gives the place of a cell and
its value; as many records follow as there are cells, in any order, and no cell may come twice.
-/

namespace SensorSim.Field.TableFile

open SensorSim.Geometry Reader

/-- What a table file says about its table. -/
structure Header where
  /-- The extents in millimetres. -/
  size : Vec3
  dimensions : Dimensions

/-- A micrometre in millimetres. -/
def micrometre : Float := 1e-3

/-- Reads the header. Extents are written in micrometres, the thickness first. -/
def header : Reader Header := do
  skip "seed and cluster length" 2
  skip "incident direction" 3
  skip "magnetic field" 3
  let thickness ← number "thickness"
  let sizeX ← number "x pixel size"
  let sizeY ← number "y pixel size"
  skip "temperature, flux, rhe and new_drde" 4
  let nx ← natural "x dimension"
  let ny ← natural "y dimension"
  let nz ← natural "z dimension"
  skip "dimension trailer" 1
  return {
    size := ⟨sizeX * micrometre, sizeY * micrometre, thickness * micrometre⟩
    dimensions := ⟨nx, ny, nz⟩ }

/-- A cell and the components of its value. -/
structure Record where
  ix : Nat
  iy : Nat
  iz : Nat
  components : List Float

/-- Marks the faults of a reader as those of a record. -/
def ofRecord {α : Type} (ordinal : Nat) (r : Reader α) : Reader α := fun tokens =>
  match r tokens with
  | .ok result => .ok result
  | .error fault => .error (.inRecord ordinal fault)

/-- Reads a record with a value of `width` components. -/
def record (dims : Dimensions) (width ordinal : Nat) : Reader Record := do
  let ix ← place "x index" dims.x
  let iy ← place "y index" dims.y
  let iz ← place "z index" dims.z
  let components ← ofRecord ordinal (numbers "field value" width)
  return ⟨ix, iy, iz, components⟩

/-- The values read so far, by the place of their cell in the row of all cells. -/
abbrev Values (α : Type) := Std.HashMap Nat α

/-- Reads the given number of records onto the values read so far. -/
def records {α : Type} [Sample α] (dims : Dimensions) (units : Float) :
    Nat → Nat → Values α → Reader (Values α)
  | 0, _, cells => pure cells
  | n + 1, ordinal, cells => do
    let r ← record dims (Sample.width α) ordinal
    let i := dims.index r.ix r.iy r.iz
    if cells.contains i then throw (.repeated ordinal (r.ix + 1) (r.iy + 1) (r.iz + 1))
    records dims units n (ordinal + 1)
      (cells.insert i (Sample.scaled (Sample.ofComponents r.components) units))

/-- The values of all cells in order. -/
def row {α : Type} [Sample α] (dims : Dimensions) (cells : Values α) : Array α :=
  Array.ofFn fun i : Fin dims.cells => cells.getD i.val Sample.zero

end SensorSim.Field.TableFile
