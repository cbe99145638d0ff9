import SensorSim.Stage.Basic

/-!
# Choosing a field

What the stages that install fields have in common: the value that says how the field is made, and
the fit of a table to the sensor.
-/

namespace SensorSim.Stage

open Config SensorSim.Field SensorSim.Geometry

def alternatives (names : List String) : String :=
  " or ".intercalate (names.map fun n => s!"'{n}'")

/-- Reads which of the given ways of making a field is asked for. -/
def fieldChoice (c : Section) (names : List String) : Except ConfigError String := do
  let choice ← c.get Reading.text "model"
  if choice ∈ names then return choice
  else throw (c.invalid "model" s!"model should be {alternatives names}, got '{choice}'")

/-- The extents of a table along rows and columns in pitches. -/
def tableScale (size : Vec3) (pitch : Vec2) : Vec2 :=
  ⟨size.x / pitch.x, size.y / pitch.y⟩

end SensorSim.Stage
