import SensorSim.Stage.Program
import SensorSim.Stage.Error
import SensorSim.Bus.Basic

/-!
# Running a stage

During an event a stage takes messages from the bus and gives messages to it, always in its own
name, and looks at the detector that it belongs to. What it may do is a program: it can neither
start nor end an event, nor declare anything, nor change a detector.
-/

namespace SensorSim.Stage

open Bus Sensor

/-- What a stage may ask for during an event. -/
inductive RunQuestion where
  | fetch (kind : Kind) (detector : String)
  | fetchAll (kind : Kind)
  | dispatch (message : Message)

def RunQuestion.Reply : RunQuestion → Type
  | fetch .. => Except BusError (Option Message)
  | fetchAll _ => Except BusError (List Message)
  | dispatch _ => Except BusError Message

abbrev Run := Program RunQuestion RunQuestion.Reply

/-- Answers a question of the stage with the given number. -/
def RunQuestion.answer (stage : StageId) : (q : RunQuestion) → Bus → q.Reply × Bus
  | fetch kind detector, b => (b.fetch stage kind detector, b)
  | fetchAll kind, b => (b.fetchAll stage kind, b)
  | dispatch m, b =>
    match b.dispatch stage m with
    | .ok (sent, b) => (.ok sent, b)
    | .error e => (.error e, b)

/-- What a stage knows during an event. -/
structure RunContext where
  stage : StageId
  event : Nat
  detector : Option Detector

/-- A step of a stage with state `μ` during an event: it may fail, and what it has done so far stays
done. -/
abbrev RunM (μ : Type) := ExceptT StageError (StateT μ Run)

namespace RunContext

/-- The detector that the stage belongs to. -/
def getDetector {m : Type → Type} [Monad m] [MonadExcept StageError m] (ctx : RunContext) : m Detector :=
  match ctx.detector with
  | some d => return d
  | none => throw .missingDetector

end RunContext

namespace RunM

variable {μ α : Type}

def ask (q : RunQuestion) : RunM μ q.Reply :=
  ExceptT.lift (StateT.lift (Program.question q))

/-- Goes on with a value, or fails with the error, as a failure of the stage. -/
def orFail {ε : Type} (wrap : ε → StageError) : Except ε α → RunM μ α
  | .ok a => pure a
  | .error e => throw (wrap e)

/-- The message of a kind for a detector. -/
def fetchFor (kind : Kind) (detector : String) : RunM μ (Option Message) := do
  orFail .bus (← ask (.fetch kind detector) : Except BusError (Option Message))

/-- The message of a kind for the detector of the stage. -/
def fetch (ctx : RunContext) (kind : Kind) : RunM μ (Option Message) := do
  fetchFor kind (← ctx.getDetector).name

/-- All messages of a kind. -/
def fetchAll (kind : Kind) : RunM μ (List Message) := do
  orFail .bus (← ask (.fetchAll kind) : Except BusError (List Message))

def dispatchMessage (m : Message) : RunM μ Message := do
  orFail .bus (← ask (.dispatch m) : Except BusError Message)

/-- Dispatches records for the detector of the stage, or for none. -/
def dispatch (ctx : RunContext) (records : Records) : RunM μ Message :=
  dispatchMessage { records, detector := ctx.detector.map Detector.name }

def ofQuery (r : Except FieldQueryError α) : RunM μ α :=
  orFail .fieldQuery r

end RunM

end SensorSim.Stage
