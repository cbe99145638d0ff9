import SensorSim.Run.Error
import SensorSim.Stage.Basic

/-!
# Plans

A plan names the detectors and the stages of a simulation. A plan is valid when it has a stage, no
detector name comes twice, every stage belongs to a detector of the plan or to none, and the ceiling
for files is not zero.
-/

namespace SensorSim.Run

open Config (Section)
open Sensor (Model)

/-- A detector of a plan. -/
structure DetectorPlan where
  name : String
  model : Model

/-- A stage of a plan with its configuration. -/
structure Member (μ : Type) where
  stage : μ
  config : Section

/-- The detectors and the stages of a simulation. -/
structure Plan (μ : Type) where
  detectors : List DetectorPlan
  members : List (Member μ)
  /-- The ceiling for the size of one table file in bytes. -/
  limit : Nat := Field.defaultLimit

/-- The largest number of stages, `2 ^ 32 - 1`. -/
def greatestStageCount : Nat := 4294967295

/-- The first name that comes a second time. -/
def firstRepeated? : List String → List String → Option String
  | _, [] => none
  | seen, n :: rest => if n ∈ seen then some n else firstRepeated? (n :: seen) rest

namespace Plan

variable {μ : Type} [Stage μ]

/-- The first stage that belongs to a detector that is not among the given ones, with that
detector. -/
def firstUnbound? (names : List String) : List (Member μ) → Option (μ × String)
  | [] => none
  | m :: rest =>
    match Stage.detector? m.stage with
    | none => firstUnbound? names rest
    | some d => if d ∈ names then firstUnbound? names rest else some (m.stage, d)

def validate (p : Plan μ) : Except SetupError Unit := do
  if p.members = [] then throw .noStages
  if greatestStageCount < p.members.length then throw (.tooManyStages p.members.length)
  let names := p.detectors.map DetectorPlan.name
  if let some name := firstRepeated? [] names then throw (.duplicateDetector name)
  if let some (stage, detector) := firstUnbound? names p.members then
    throw (.unknownDetector (Stage.name stage) detector)
  if p.limit = 0 then throw .noCeiling

end Plan

end SensorSim.Run
