import SensorSim.Field.TableFile
import SensorSim.Sensor.Detector
import SensorSim.Stage.Error

/-!
# Profiles of a weighting potential

A weighting potential sampled in the middle of equal bins: along the depth under one point, and over
depth and three pitches across for the neighbouring pixel. The scan is stored depth by depth. Each
of the two lists is given all of its room before its first sample is taken.
-/

namespace SensorSim.Stage

open SensorSim.Geometry
open Sensor (Detector)

/-- The samples of a weighting potential. -/
structure Profile where
  position : Point2
  /-- Depths and potentials of pixel `(0, 0)` under the position. -/
  alongDepth : List (Float × Float)
  across : Float × Float
  depth : Float × Float
  steps : Nat
  /-- Potentials of pixel `(1, 0)`, the bins across running fastest. -/
  scan : List Float

namespace Profile

/-- The middle of a bin when a width from `start` on is cut into `steps` bins. -/
def middle (steps : Nat) (start width : Float) (j : Nat) : Float :=
  start + (Float.ofNat j + 0.5) / Float.ofNat steps * width

/-- Makes room for numbers of eight bytes. There is none for a list that is larger than any
object. -/
def reserve (numbers : Nat) : Except StageError Unit :=
  if Field.TableFile.greatestObject < numbers * 8 then .error .overflow else .ok ()

/-- The weighting potential of a pixel, or the failure of the stage that asks for it. -/
def potentialAt (d : Detector) (pos : Point3) (pixel : Pixel) : Except StageError Float :=
  (d.potentialOf pos pixel).mapError .fieldQuery

/-- Samples the weighting potential of a detector. The bins of a scan may be too many to be counted
in a machine word; a list has no room for so many, however they are counted. -/
def sample (d : Detector) (position : Point2) (steps : Nat) : Except StageError Profile := do
  let range := d.model.depth
  let pitch := d.model.pitch.x
  let left := -1.5 * pitch
  let depthAt := middle steps range.least (range.greatest - range.least)
  let acrossAt := middle steps left (3.0 * pitch)
  reserve (2 * steps)
  let alongDepth ← (List.range steps).mapM fun j => do
    let z := depthAt j
    return (z, ← potentialAt d ⟨position.x, position.y, z⟩ ⟨0, 0⟩)
  reserve (steps * steps)
  let rows ← (List.range steps).mapM fun j =>
    (List.range steps).mapM fun k => potentialAt d ⟨acrossAt k, 0.0, depthAt j⟩ ⟨1, 0⟩
  return {
    position, alongDepth, steps
    across := (left, 1.5 * pitch)
    depth := (range.least, range.greatest)
    scan := rows.flatten }

def scanAt? (p : Profile) (depthBin acrossBin : Nat) : Option Float :=
  if depthBin < p.steps ∧ acrossBin < p.steps then p.scan[depthBin * p.steps + acrossBin]? else none

end Profile

end SensorSim.Stage
