import SensorSim.Stage.Basic

/-!
# Relays

A stage that takes and gives empty messages of chosen kinds, fails where it is told to, and notes
when it was called. It stands in for any stage where only the flow of messages matters.
-/

namespace SensorSim.Stage

open Bus

/-- A stage that takes and gives empty messages. -/
structure Relay where
  name : String
  detector : Option String := none
  gives : List Kind := []
  takes : List (Kind × Requirement) := []
  setupFailure : Option StageError := none
  /-- The failures to raise, by event; of two for one event the first counts. -/
  failures : List (Nat × StageError) := []
  /-- The events in which the stage ran. -/
  ran : List Nat := []
  /-- The counts of completed events with which the stage was closed. -/
  closed : List Nat := []

namespace Relay

/-- Declares what the stage takes, then what it gives. -/
def setUp (_ : SetupContext) : SetupM Relay Unit := do
  let r ← get
  if let some e := r.setupFailure then throw e
  r.takes.forM fun (kind, requirement) => SetupM.subscribeOwn kind requirement
  r.gives.forM SetupM.publish

/-- Takes a message of a kind: the one for the detector of the stage, or all of them. -/
def take (r : Relay) (ctx : RunContext) (kind : Kind) : RunM Relay Unit := do
  match r.detector with
  | some _ => let _ ← RunM.fetch ctx kind
  | none => let _ ← RunM.fetchAll kind

/-- Notes the event, fails if told to, and otherwise takes and gives messages. -/
def run (ctx : RunContext) : RunM Relay Unit := do
  modify fun r => { r with ran := r.ran ++ [ctx.event] }
  let r ← get
  if let some e := r.failures.lookup ctx.event then throw e
  r.takes.forM fun (kind, _) => r.take ctx kind
  r.gives.forM fun kind => do
    let _ ← RunM.dispatchMessage { records := .none kind, detector := r.detector }

end Relay

instance : Stage Relay where
  name := Relay.name
  detector? := Relay.detector
  setUp := Relay.setUp
  run := Relay.run
  close ctx r := (.ok (), { r with closed := r.closed ++ [ctx.events] })

end SensorSim.Stage
