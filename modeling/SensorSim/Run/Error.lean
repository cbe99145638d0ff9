import SensorSim.Stage.Error
import SensorSim.Order.Schedule

/-!
# Failures of a simulation

A simulation fails to be set up, an event fails, or a stage fails to be closed. Each failure of a
stage names the stage and the detector that it belongs to.
-/

namespace SensorSim.Run

open Stage (StageError)
open SensorSim.Order (OrderError)

/-- The words that name the detector of a stage, if it has one. -/
def onDetector : Option String → String
  | some d => s!" on '{d}'"
  | none => ""

/-- Why a simulation cannot be set up. -/
inductive SetupError where
  | noStages
  | duplicateDetector (name : String)
  | unknownDetector (stage detector : String)
  | tooManyStages (count : Nat)
  | noCeiling
  | stageFailed (stage : String) (detector : Option String) (cause : StageError)
  | order (error : OrderError)
deriving DecidableEq, Repr

namespace SetupError

def message : SetupError → String
  | noStages => "no modules registered"
  | duplicateDetector name => s!"detector '{name}' defined twice"
  | unknownDetector stage detector => s!"module {stage} is bound to unknown detector '{detector}'"
  | tooManyStages count => s!"module count {count} exceeds u32::MAX"
  | noCeiling => "max_field_file_bytes must be non-zero"
  | stageFailed stage detector cause =>
    s!"module {stage}{onDetector detector} failed to initialize: {cause.message}"
  | order e => s!"pipeline order: {e.message}"

/-- The wording of the error that a failure comes from. -/
def cause? : SetupError → Option String
  | stageFailed _ _ cause => some cause.message
  | order e => some e.message
  | _ => none

end SetupError

/-- The failure of a stage in an event. -/
structure EventError where
  event : Nat
  stage : String
  detector : Option String
  cause : StageError
deriving DecidableEq, Repr

namespace EventError

/-- Whether a run goes on after the failure. -/
def isRecoverable (e : EventError) : Bool :=
  e.cause.isRecoverable

def message (e : EventError) : String :=
  s!"event {e.event}: module {e.stage}{onDetector e.detector} failed: {e.cause.message}"

end EventError

/-- The failure of a stage to be closed. -/
structure CloseError where
  stage : String
  detector : Option String
  cause : StageError
deriving DecidableEq, Repr

def CloseError.message (e : CloseError) : String :=
  s!"module {e.stage}{onDetector e.detector} failed to finalize: {e.cause.message}"

end SensorSim.Run
