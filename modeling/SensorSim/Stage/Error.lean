import SensorSim.Config.Section
import SensorSim.Field.TableFile.Fault
import SensorSim.Sensor.Detector
import SensorSim.Bus.Error

/-!
# Failures of stages

A stage fails with an error of one of the layers below it, or for a reason of its own. A recoverable
failure costs one event, any other ends the run.
-/

namespace SensorSim.Stage

/-- Why a stage fails. -/
inductive StageError where
  | config (error : Config.ConfigError)
  | tableFile (error : Field.TableFileError)
  | fieldQuery (error : Sensor.FieldQueryError)
  | bus (error : Bus.BusError)
  | missingDetector
  | executionFailed (reason : String)
  | nonRecoverable (reason : String)
  /-- A list was to be larger than any object in memory can be. No one handles this one: it ends the
  program. -/
  | overflow
deriving DecidableEq, Repr

namespace StageError

/-- Whether a run goes on after the failure. -/
def isRecoverable : StageError → Bool
  | tableFile _ | missingDetector | nonRecoverable _ | overflow => false
  | config _ | fieldQuery _ | bus _ | executionFailed _ => true

/-- The wording of the error that a failure comes from, when it is one of a layer below. -/
def cause? : StageError → Option String
  | config e => some e.message
  | tableFile e => some e.message
  | fieldQuery e => some e.message
  | bus e => some e.message
  | _ => none

def message : StageError → String
  | config e => s!"configuration error: {e.message}"
  | tableFile e => s!"field file error: {e.message}"
  | fieldQuery e => s!"field query failed: {e.message}"
  | bus e => s!"messenger error: {e.message}"
  | missingDetector => "module is not bound to a detector"
  | executionFailed reason => s!"execution failed: {reason}"
  | nonRecoverable reason => s!"non-recoverable failure: {reason}"
  | overflow => "capacity overflow"

end StageError

end SensorSim.Stage
