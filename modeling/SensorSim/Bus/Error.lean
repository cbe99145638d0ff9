import SensorSim.Bus.Declaration

/-!
# Violations of the bus contract
-/

namespace SensorSim.Bus

/-- Why the bus refuses what a stage asks for. -/
inductive BusError where
  /-- A message overlaps one that was dispatched before in the same event. -/
  | duplicateProducer (kind : Kind) (detector : Option String) (event : Nat) (first second : StageId)
  /-- A required message was not dispatched. -/
  | noMessage (stage : StageId) (kind : Kind) (detector : Option String) (event : Nat)
  /-- A stage asks for what it did not subscribe to. -/
  | notSubscribed (stage : StageId) (kind : Kind) (detector : Option String)
  /-- A declaration was made while an event was in progress. -/
  | closed (stage : StageId) (event : Nat)
  /-- A message was dispatched while no event was in progress. -/
  | noEvent (stage : StageId) (kind : Kind)
deriving DecidableEq, Repr

/-- The words that name a detector, if there is one. -/
def forDetector : Option String → String
  | some d => s!" for detector '{d}'"
  | none => ""

def BusError.message : BusError → String
  | duplicateProducer kind detector event first second =>
    s!"module {second} dispatched {kind}{forDetector detector} in event {event}, " ++
      s!"already produced by module {first}"
  | noMessage stage kind detector event =>
    s!"module {stage} requires {kind}{forDetector detector} but none was dispatched in event {event}"
  | notSubscribed stage kind detector =>
    s!"module {stage} is not subscribed to {kind}{forDetector detector}"
  | closed stage event => s!"module {stage} declared a subscription during event {event}"
  | noEvent stage kind => s!"module {stage} dispatched {kind} outside of an event"

end SensorSim.Bus
