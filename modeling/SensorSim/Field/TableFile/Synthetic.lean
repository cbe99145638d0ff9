import SensorSim.Decimal.Layout
import SensorSim.Field.Table

/-!
# Synthetic table files

The text of a table file of a weighting potential that rises evenly with depth.
-/

namespace SensorSim.Field.TableFile

/-- The lines before the records. -/
def syntheticHeader (d : Dimensions) : List String :=
  ["synthetic weighting potential", "0 0", "0 0 1", "0 0 0", "300 55 55", "0 0 0 0",
    s!"{d.x} {d.y} {d.z} 0"]

/-- The line of a cell, counted from one. -/
def syntheticRecord (d : Dimensions) (ix iy iz : Nat) : String :=
  s!"{ix} {iy} {iz} {Decimal.plain (Float.ofNat iz / Float.ofNat d.z)}"

/-- The cells of a grid counted from one, the last axis running fastest. -/
def cellsOf (d : Dimensions) : List (Nat × Nat × Nat) :=
  (List.range d.x).flatMap fun ix =>
    (List.range d.y).flatMap fun iy =>
      (List.range d.z).map fun iz => (ix + 1, iy + 1, iz + 1)

/-- The text of a file with every cell of a grid. -/
def synthetic (d : Dimensions) : String :=
  let lines := syntheticHeader d ++ (cellsOf d).map fun (ix, iy, iz) => syntheticRecord d ix iy iz
  String.join (lines.map fun l => l ++ "\n")

def syntheticName (d : Dimensions) : String :=
  s!"weights_{d.x}x{d.y}x{d.z}.init"

end SensorSim.Field.TableFile
