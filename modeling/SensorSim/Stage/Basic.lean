import SensorSim.Stage.Setup
import SensorSim.Stage.Run

/-!
# Stages

A stage has a name, may belong to a detector, and acts in three phases: it is set up once, it runs
in every event, and it is closed once. Its state is a value that each phase hands on.
-/

namespace SensorSim.Stage

/-- What a stage knows when it is closed. -/
structure CloseContext where
  stage : Bus.StageId
  detector : Option Sensor.Detector
  /-- The number of events that were completed. -/
  events : Nat

end SensorSim.Stage

namespace SensorSim

open Stage (StageError Setup SetupContext Run RunContext CloseContext)

/-- The types whose values are stages. Each phase gives its outcome and the stage afterwards. -/
class Stage (μ : Type) where
  /-- The name of the stage in messages. -/
  name : μ → String
  /-- The detector that the stage belongs to. -/
  detector? : μ → Option String
  /-- The setup. -/
  setUp : SetupContext → μ → Setup (Except StageError Unit × μ)
  /-- What the stage does in an event. -/
  run : RunContext → μ → Run (Except StageError Unit × μ)
  /-- The end of the run. -/
  close : CloseContext → μ → Except StageError Unit × μ := fun _ s => (.ok (), s)

end SensorSim
