import SensorSim.Run.Plan
import SensorSim.Config.Diagnostic

/-!
# Diagnostics of plans
-/

namespace SensorSim.Run

def Member.describe {μ : Type} [Stage μ] (m : Member μ) : String :=
  let detector := match Stage.detector? m.stage with
    | some d => "Some(DetectorId(" ++ Text.quote d ++ "))"
    | none => "None"
  "ModuleEntry \x7b module: " ++ Text.quote (Stage.name m.stage) ++ ", detector: " ++ detector ++
    ", config: " ++ m.config.describe ++ " \x7d"

end SensorSim.Run
