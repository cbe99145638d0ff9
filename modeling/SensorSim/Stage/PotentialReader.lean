import SensorSim.Stage.FieldChoice
import SensorSim.Stage.Profile

/-!
# The weighting-potential reader

Installs a weighting potential on a detector: from a table file, or that of a pad. On request it
samples what it has installed.
-/

namespace SensorSim.Stage

open Config SensorSim.Field SensorSim.Geometry Sensor

/-- A stage that installs a weighting potential. -/
structure PotentialReader where
  detector : String
  profile : Option Profile := none

namespace PotentialReader

/-- Installs the weighting potential that the configuration asks for. -/
def install (ctx : SetupContext) : SetupM PotentialReader Unit := do
  let c := ctx.config
  let choice ← SetupM.ofConfig (fieldChoice c ["init", "pad"])
  let model := (← SetupM.detector).model
  if choice = "init" then
    let path ← SetupM.ofConfig (c.getExistingPath ctx.files "file_name")
    let table ← SetupM.potentialTable path
    SetupM.reportAll (misfits table.size model.depth model.pitch)
    SetupM.installPotential
      (.ofGrid ⟨table, tableScale table.size model.pitch, ⟨0.0, 0.0⟩, .bounded⟩ model.depth)
  else
    SetupM.installPotential (.ofFunction (padPotential model.implant model.depth) model.depth .custom)

/-- Samples the installed potential when the configuration asks for it. -/
def sample (ctx : SetupContext) : SetupM PotentialReader Unit := do
  let c := ctx.config
  if ← SetupM.ofConfig (c.getOr Reading.boolean "output_plots" false) then
    let steps ← SetupM.ofConfig (c.getOr (Reading.natural .size) "output_plots_steps" 500)
    if steps = 0 then throw (.config (c.invalid "output_plots_steps" "must be at least 1"))
    let position ← SetupM.ofConfig (c.getOr Reading.point2 "output_plots_position" ⟨0.0, 0.0⟩)
    let profile ← SetupM.orFail id (Profile.sample (← SetupM.detector) position steps)
    modify fun r => { r with profile := some profile }

/-- Installs a weighting potential and samples it on request. -/
def setUp (ctx : SetupContext) : SetupM PotentialReader Unit := do
  install ctx
  sample ctx

end PotentialReader

instance : Stage PotentialReader where
  name _ := "WeightingPotentialReader"
  detector? r := some r.detector
  setUp := PotentialReader.setUp
  run _ r := return (.ok (), r)

end SensorSim.Stage
