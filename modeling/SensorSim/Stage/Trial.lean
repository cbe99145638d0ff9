import SensorSim.Stage.Basic

/-!
# Trials

A single stage driven by hand, without a pipeline: it is set up, fed with messages, run and closed
on a workbench of its own. An onlooker sees every message that is dispatched.
-/

namespace SensorSim.Stage

open Bus (Kind Scope Requirement Message StageId)

/-- A stage on a workbench. -/
structure Trial (μ : Type) where
  stage : μ
  id : StageId
  config : Config.Section
  files : Files.FileSystem
  bench : Workbench
  /-- The number of the stage that sees every message. -/
  onlooker : StageId
  /-- The number of the stage in whose name messages are fed. -/
  feeder : StageId

/-- What came of an event of a trial. -/
structure TrialEvent where
  /-- The messages that were fed, or why they were refused. -/
  fed : List (Except Bus.BusError Message)
  outcome : Except StageError Unit
  /-- The messages that the onlooker sees, kind by kind. -/
  seen : List Message
  /-- The number of messages dispatched. -/
  count : Nat

namespace Trial

variable {μ : Type}

/-- Lets the onlooker see every kind of message. -/
def watch (t : Trial μ) : Trial μ :=
  let bus := Kind.all.foldl
    (fun b kind => (settle b (b.subscribe ⟨t.onlooker, kind, .any, .optional⟩)).2) t.bench.bus
  { t with bench := { t.bench with bus } }

def subscribe (t : Trial μ) (kind : Kind) (scope : Scope) (requirement : Requirement) :
    Except Bus.BusError Unit × Trial μ :=
  let (outcome, bus) := settle t.bench.bus (t.bench.bus.subscribe ⟨t.id, kind, scope, requirement⟩)
  (outcome, { t with bench := { t.bench with bus } })

/-- The subscriptions, without those of the onlooker. -/
def subscriptions (t : Trial μ) : List Bus.Subscription :=
  t.bench.bus.subscriptions.filter fun s => s.stage != t.onlooker

/-- Feeds messages in order: what came of each, and the bus afterwards. -/
def feed (feeder : StageId) : List Message → Bus → List (Except Bus.BusError Message) × Bus
  | [], b => ([], b)
  | m :: rest, b =>
    let (r, b) := RunQuestion.answer feeder (.dispatch m) b
    let (rs, b) := feed feeder rest b
    (r :: rs, b)

variable [Stage μ]

/-- Sets the stage up. -/
def setUp (t : Trial μ) : Except StageError Unit × Trial μ :=
  let program := Stage.setUp ⟨t.id, t.config, t.files⟩ t.stage
  let ((outcome, stage), bench) := Program.run (SetupQuestion.answer t.id t.files) program t.bench
  (outcome, { t with stage, bench })

/-- Runs the stage in an event into which messages are fed. -/
def event (t : Trial μ) (number : Nat) (messages : List Message) : TrialEvent × Trial μ :=
  let (fed, bus) := feed t.feeder messages (t.bench.bus.beginEvent number)
  let program := Stage.run ⟨t.id, number, t.bench.detector⟩ t.stage
  let ((outcome, stage), bus) := Program.run (RunQuestion.answer t.id) program bus
  let seen := Kind.all.flatMap fun kind => (bus.fetchAll t.onlooker kind).toOption.getD []
  let bench := { t.bench with bus := bus.endEvent }
  ({ fed, outcome, seen, count := bus.count }, { t with stage, bench })

def close (t : Trial μ) (events : Nat) : Except StageError Unit × Trial μ :=
  let (outcome, stage) := Stage.close ⟨t.id, t.bench.detector, events⟩ t.stage
  (outcome, { t with stage })

end Trial

end SensorSim.Stage
