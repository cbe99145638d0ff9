import SensorSim.Stage.FieldChoice

/-!
# The electric-field reader

Installs an electric field on a detector: from a table file, constant, or linear in depth. The field
may take up less than the whole depth of the sensor, counted from the readout side.
-/

namespace SensorSim.Stage

open Config SensorSim.Field SensorSim.Geometry Sensor

/-- A stage that installs an electric field. -/
structure FieldReader where
  detector : String

namespace FieldReader

/-- The depths that the field takes up in a sensor. -/
def depleted (c : Section) (sensor : DepthRange) : Except ConfigError DepthRange := do
  if c.has "depletion_depth" then
    let depth ← c.get Reading.number "depletion_depth"
    if depth ≤ 0.0 || depth > sensor.span then
      throw (c.invalid "depletion_depth"
        s!"must be in (0, {Decimal.plain sensor.span}] mm, got {Decimal.plain depth}")
    return ⟨sensor.greatest - depth, sensor.greatest⟩
  else return sensor

/-- Installs the field that the configuration asks for. -/
def setUp (ctx : SetupContext) : SetupM FieldReader Unit := do
  let c := ctx.config
  let choice ← SetupM.ofConfig (fieldChoice c ["init", "constant", "linear"])
  let model := (← SetupM.detector).model
  let depth ← SetupM.ofConfig (depleted c model.depth)
  if choice = "init" then
    let path ← SetupM.ofConfig (c.getExistingPath ctx.files "file_name")
    let table ← SetupM.fieldTable path
    SetupM.reportAll (misfits table.size depth model.pitch)
    SetupM.installField
      (.ofGrid ⟨table, tableScale table.size model.pitch, ⟨0.0, 0.0⟩, .periodic⟩ depth)
  else if choice = "constant" then
    let bias ← SetupM.ofConfig (c.get Reading.number "bias_voltage")
    SetupM.installField (.ofFunction (constantField bias depth) depth .constant)
  else
    let bias ← SetupM.ofConfig (c.get Reading.number "bias_voltage")
    let depletion ← SetupM.ofConfig (c.getOr Reading.number "depletion_voltage" bias)
    SetupM.installField (.ofFunction (linearField bias depletion depth) depth .linear)

end FieldReader

instance : Stage FieldReader where
  name _ := "ElectricFieldReader"
  detector? r := some r.detector
  setUp := FieldReader.setUp
  run _ r := return (.ok (), r)

end SensorSim.Stage
