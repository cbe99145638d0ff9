import SensorSim.Run.Simulation
import SensorSim.Stage.Standard

/-!
# Reference setups

Two sensors and the full chain of stages on one of them.
-/

namespace SensorSim.Run

open Sensor (Model)
open Stage (Standard)

/-- A small sensor for tests. -/
def testModel : Model where
  name := "test"
  columns := 16
  rows := 16
  pitch := ⟨0.055, 0.055⟩
  implant := ⟨0.05, 0.05⟩
  thickness := 0.2

/-- A sensor of 256 by 256 pixels. -/
def timepixModel : Model where
  name := "timepix"
  columns := 256
  rows := 256
  pitch := ⟨0.055, 0.055⟩
  implant := ⟨0.05, 0.05⟩
  thickness := 0.3

/-- The name of the detector of the reference chain. -/
def referenceDetector : String := "dut"

/-- The full chain of stages on one sensor, with a seed and a number of pairs to deposit. -/
def referencePlan (seed pairs : Nat) : Plan Standard where
  detectors := [⟨referenceDetector, timepixModel⟩]
  members := [
    ⟨.potentialReader { detector := referenceDetector },
      .ofList "WeightingPotentialReader" [("model", "pad")]⟩,
    ⟨.fieldReader { detector := referenceDetector },
      .ofList "ElectricFieldReader"
        [("model", "linear"), ("bias_voltage", "150"), ("depletion_voltage", "50")]⟩,
    ⟨.deposition { detector := referenceDetector },
      .ofList "SimpleDeposition"
        [("number_of_charges", toString pairs), ("position", "7.0 7.0 0.0"), ("spread", "0.02"),
          ("seed", toString seed)]⟩,
    ⟨.projection { detector := referenceDetector }, .ofList "ProjectionPropagation" []⟩,
    ⟨.transfer { detector := referenceDetector }, .ofList "PulseTransfer" []⟩]

/-- The reference chain with a recorder of pixel charges at its end. -/
def recordedReferencePlan (seed pairs : Nat) : Plan Standard :=
  let plan := referencePlan seed pairs
  { plan with members := plan.members ++ [⟨.recorder { kind := .pixel }, .ofList "Capture" []⟩] }

/-- All messages that the recorders among some stages have kept. -/
def recorded (slots : List (Slot Standard)) : List Bus.Message :=
  slots.flatMap fun slot =>
    match slot.stage with
    | .recorder r => r.messages
    | _ => []

end SensorSim.Run
