import SensorSim.Stage.Basic

/-!
# Scripts

A stage made of single actions. In each phase the actions are played in order and the outcome of
each is written down. The first failure ends the phase, unless the action is only an attempt.
-/

namespace SensorSim.Stage

variable {ν : Type}

/-- The outcomes of actions in the order in which they were played, each under the name of its
action. -/
abbrev Transcript (ν : Type) := List (String × Except StageError ν)

/-- One action of a phase, with a value that is worth writing down. -/
structure Action (M : Type → Type) (ν : Type) where
  name : String
  act : M ν
  /-- Whether the phase goes on after a failure. -/
  attempt : Bool := false

def Action.play {M : Type → Type} [Monad M] [MonadExceptOf StageError M] [MonadStateOf (Transcript ν) M]
    (a : Action M ν) : M Unit := do
  let outcome : Except StageError ν ← tryCatch (Except.ok <$> a.act) fun e => pure (.error e)
  modify fun t => t ++ [(a.name, outcome)]
  match outcome with
  | .ok _ => pure ()
  | .error e => if a.attempt then pure () else throw e

/-- The steps of the closing phase: they may fail, and what was written down stays. -/
abbrev CloseM (ν : Type) := ExceptT StageError (StateM (Transcript ν))

/-- A stage given by its actions in each phase. -/
structure Script (ν : Type) where
  name : String
  detector : Option String := none
  setUp : SetupContext → List (Action (SetupM (Transcript ν)) ν) := fun _ => []
  run : RunContext → List (Action (RunM (Transcript ν)) ν) := fun _ => []
  close : CloseContext → List (Action (CloseM ν) ν) := fun _ => []
  transcript : Transcript ν := []

namespace Script

def withTranscript (s : Script ν) (t : Transcript ν) : Script ν :=
  { s with transcript := t }

end Script

instance : Stage (Script ν) where
  name := Script.name
  detector? := Script.detector
  setUp ctx s :=
    Prod.map id s.withTranscript <$> ((s.setUp ctx).forM Action.play : SetupM _ Unit) s.transcript
  run ctx s :=
    Prod.map id s.withTranscript <$> ((s.run ctx).forM Action.play : RunM _ Unit) s.transcript
  close ctx s :=
    Prod.map id s.withTranscript (((s.close ctx).forM Action.play : CloseM ν Unit) s.transcript)

end SensorSim.Stage
