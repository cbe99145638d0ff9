import SensorSim.Geometry.Depth

/-!
# How a table fits a sensor

A table is laid out around a pixel, so it should be as thick as the depleted region and span a whole
number of pixels. A table that does not fit is still usable: a misfit is reported and nothing more.
-/

namespace SensorSim.Field

open SensorSim.Geometry
open Decimal (plain roundAway)

/-- A way in which a table does not fit a sensor. -/
inductive Misfit where
  | thickness (field depleted : Float)
  | pitchMultiple (field pitch : Vec2)

def Misfit.message : Misfit → String
  | thickness field depleted =>
    s!"field thickness is {plain field} mm but the depleted region is {plain depleted} mm"
  | pitchMultiple field pitch =>
    s!"field size is {field} mm but expecting a multiple of the pixel pitch {pitch} mm"

/-- Whether an extent is a whole number of pitches, at least one, up to rounding. -/
def isMultiple (extent pitch : Float) : Bool :=
  if pitch ≤ 0.0 || !extent.isFinite || !pitch.isFinite then false
  else
    let n := roundAway (extent / pitch)
    1.0 ≤ n && approxEqual extent (n * pitch)

/-- The ways in which a table of the given extents does not fit a sensor. -/
def misfits (size : Vec3) (depleted : DepthRange) (pitch : Vec2) : List Misfit :=
  (if approxEqual size.z depleted.span then [] else [.thickness size.z depleted.span]) ++
    (if isMultiple size.x pitch.x && isMultiple size.y pitch.y then []
      else [.pitchMultiple ⟨size.x, size.y⟩ pitch])

end SensorSim.Field
