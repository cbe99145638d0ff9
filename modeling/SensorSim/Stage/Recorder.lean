import SensorSim.Stage.Basic

/-!
# Recorders

A stage that keeps every message of one kind, whatever detector it is for.
-/

namespace SensorSim.Stage

open Bus

/-- A stage that keeps the messages of a kind. -/
structure Recorder where
  kind : Kind
  messages : List Message := []

namespace Recorder

/-- The messages kept from one event. -/
def ofEvent (r : Recorder) (event : Nat) : List Message :=
  r.messages.filter fun m => m.event == event

/-- Subscribes to the kind for any detector. -/
def setUp (_ : SetupContext) : SetupM Recorder Unit := do
  SetupM.subscribeOwn (← get).kind .optional

def run (_ : RunContext) : RunM Recorder Unit := do
  let found ← RunM.fetchAll (← get).kind
  modify fun r => { r with messages := r.messages ++ found }

end Recorder

instance : Stage Recorder where
  name _ := "Capture"
  detector? _ := none
  setUp := Recorder.setUp
  run := Recorder.run

end SensorSim.Stage
