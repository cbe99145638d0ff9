import SensorSim.Run.Plan
import SensorSim.Run.Notice

/-!
# Simulations

A simulation holds the stages of a plan after their setup. In an event the stages run in order until
one fails; the bus is emptied before and after. A run goes on after recoverable failures. Closing a
simulation closes every stage once.
-/

namespace SensorSim.Run

open Bus (StageId)
open SensorSim.Field (TableStores)
open Files (FileSystem)
open Sensor (Detector)
open Stage (Workbench SetupQuestion RunQuestion Program)

/-- A stage in a simulation. -/
structure Slot (μ : Type) where
  stage : μ
  config : Config.Section
  /-- The detector that the stage belongs to. -/
  detector : Option String

/-- What is known about an event: the stages that ran, and how many messages were dispatched. -/
structure EventMetrics where
  stages : List String := []
  messages : Nat := 0
deriving DecidableEq, Repr, Inhabited

/-- A simulation that has been set up. -/
structure Simulation (μ : Type) where
  slots : List (Slot μ)
  /-- The stages in the order in which they run. -/
  order : List StageId
  detectors : List Detector
  bus : Bus
  tables : TableStores
  /-- The number of the next event. -/
  nextEvent : Nat := 1
  /-- The number of events that were completed. -/
  completed : Nat := 0
  /-- The metrics of the last event. -/
  metrics : EventMetrics := {}
  closed : Bool := false
  /-- The notices so far, in order. -/
  journal : List Notice := []

def findDetector? (detectors : List Detector) (name : String) : Option Detector :=
  detectors.find? fun d => d.name == name

/-- Puts a detector in the place of the one of the same name. -/
def replaceDetector (detectors : List Detector) (d : Detector) : List Detector :=
  detectors.map fun e => if e.name == d.name then d else e

variable {μ : Type} [Stage μ]

/-! ## Setup -/

/-- What the setup of the stages works on. -/
structure Site (μ : Type) where
  /-- The stages set up so far, the last one included when it failed. -/
  done : List (Slot μ) := []
  detectors : List Detector
  bus : Bus := .empty
  tables : TableStores
  journal : List Notice := []

/-- A failed setup with the stages as it left them. -/
structure SetupFailure (μ : Type) where
  error : SetupError
  stages : List μ
  journal : List Notice

namespace Site

/-- The site before the first stage of a plan. -/
def ofPlan (p : Plan μ) : Site μ where
  detectors := p.detectors.map fun d => { name := d.name, model := d.model }
  tables := .ofLimit p.limit

/-- Sets up a stage on the detector that it belongs to. -/
def setUpStage (files : FileSystem) (m : Member μ) (site : Site μ) : Except SetupError Unit × Site μ :=
  let bound := Stage.detector? m.stage
  match bound, bound.bind (findDetector? site.detectors) with
  | some name, none =>
    (.error (.unknownDetector (Stage.name m.stage) name),
      { site with done := site.done ++ [⟨m.stage, m.config, bound⟩] })
  | _, detector =>
    let id : StageId := site.done.length
    let ((outcome, stage), bench) :=
      Program.run (SetupQuestion.answer id files) (Stage.setUp ⟨id, m.config, files⟩ m.stage)
        ({ bus := site.bus, tables := site.tables, detector } : Workbench)
    let site : Site μ :=
      { done := site.done ++ [⟨stage, m.config, bound⟩]
        detectors := match bench.detector with
          | some d => replaceDetector site.detectors d
          | none => site.detectors
        bus := bench.bus
        tables := bench.tables
        journal := site.journal ++ bench.misfits.map .misfit }
    match outcome with
    | .ok () => (.ok (), site)
    | .error e => (.error (.stageFailed (Stage.name stage) bound e), site)

/-- Sets up stages in order until one fails. The members that were not reached come with the
outcome. -/
def setUpAll (files : FileSystem) :
    List (Member μ) → Site μ → Except (SetupError × List (Member μ)) Unit × Site μ
  | [], site => (.ok (), site)
  | m :: rest, site =>
    match setUpStage files m site with
    | (.ok (), site) => setUpAll files rest site
    | (.error e, site) => (.error (e, rest), site)

end Site

/-- The simulation of a plan: every stage is set up in the order of the plan, then the stages are
put in the order in which they run. -/
def Simulation.ofPlan (files : FileSystem) (p : Plan μ) : Except (SetupFailure μ) (Simulation μ) :=
  match p.validate with
  | .error error => .error { error, stages := p.members.map Member.stage, journal := [] }
  | .ok () =>
    match Site.setUpAll files p.members (Site.ofPlan p) with
    | (.error (error, rest), site) =>
      .error {
        error
        stages := site.done.map Slot.stage ++ rest.map Member.stage
        journal := site.journal }
    | (.ok (), site) =>
      let schedule := Order.schedule site.done.length site.bus
      let journal := site.journal ++ Notice.ofSchedule schedule
      match schedule.stages with
      | .error e => .error { error := .order e, stages := site.done.map Slot.stage, journal }
      | .ok order =>
        .ok {
          slots := site.done
          order
          detectors := site.detectors
          bus := site.bus
          tables := site.tables
          journal }

/-! ## Events -/

/-- What a pass through the stages in an event works on. -/
structure Pass (μ : Type) where
  slots : List (Slot μ)
  bus : Bus
  /-- The names of the stages that ran, the last one included when it failed. -/
  ran : List String := []

namespace Pass

def runStage (detectors : List Detector) (event : Nat) (id : StageId) (p : Pass μ) :
    Except EventError Unit × Pass μ :=
  match p.slots[id]? with
  | none => (.ok (), p)
  | some slot =>
    match slot.detector, slot.detector.bind (findDetector? detectors) with
    | some name, none =>
      (.error ⟨event, Stage.name slot.stage, some name, .missingDetector⟩, p)
    | _, detector =>
      let ((outcome, stage), bus) :=
        Program.run (RunQuestion.answer id) (Stage.run ⟨id, event, detector⟩ slot.stage) p.bus
      let p : Pass μ :=
        { slots := p.slots.set id { slot with stage }
          bus
          ran := p.ran ++ [Stage.name stage] }
      match outcome with
      | .ok () => (.ok (), p)
      | .error e => (.error ⟨event, Stage.name stage, slot.detector, e⟩, p)

/-- Runs stages in order until one fails. -/
def runAll (detectors : List Detector) (event : Nat) :
    List StageId → Pass μ → Except EventError Unit × Pass μ
  | [], p => (.ok (), p)
  | id :: rest, p =>
    match runStage detectors event id p with
    | (.ok (), p) => runAll detectors event rest p
    | (.error e, p) => (.error e, p)

end Pass

namespace Simulation

/-- Runs the next event. Its number is used up whether or not it succeeds. -/
def runEvent (s : Simulation μ) : Except EventError EventMetrics × Simulation μ :=
  let event := s.nextEvent
  let (outcome, pass) :=
    Pass.runAll s.detectors event s.order { slots := s.slots, bus := s.bus.beginEvent event }
  let metrics : EventMetrics := { stages := pass.ran, messages := pass.bus.count }
  let after : Simulation μ :=
    { s with slots := pass.slots, bus := pass.bus.endEvent, nextEvent := event + 1, metrics }
  match outcome with
  | .ok () => (.ok metrics, { after with completed := s.completed + 1 })
  | .error e => (.error e, { after with journal := s.journal ++ [.ofEventError e] })

end Simulation

/-- The outcome of a run. -/
structure RunSummary where
  /-- The number of events that were completed. -/
  completed : Nat := 0
  /-- The events that were abandoned. -/
  failed : List EventError := []
  /-- The event that ended the run. -/
  aborted : Option EventError := none
deriving DecidableEq, Repr, Inhabited

namespace Simulation

/-- Runs up to the given number of events, and less when one fails in a way that ends the run. -/
def run : Nat → Simulation μ → RunSummary × Simulation μ
  | 0, s => ({}, s)
  | n + 1, s =>
    match s.runEvent with
    | (.ok _, s) =>
      let (summary, s) := run n s
      ({ summary with completed := summary.completed + 1 }, s)
    | (.error e, s) =>
      if e.isRecoverable then
        let (summary, s) := run n s
        ({ summary with failed := e :: summary.failed }, s)
      else ({ aborted := some e }, s)

def closeStage (id : StageId) (s : Simulation μ) : Option CloseError × Simulation μ :=
  match s.slots[id]? with
  | none => (none, s)
  | some slot =>
    let detector := slot.detector.bind (findDetector? s.detectors)
    let (outcome, stage) := Stage.close ⟨id, detector, s.completed⟩ slot.stage
    let s := { s with slots := s.slots.set id { slot with stage } }
    match outcome with
    | .ok () => (none, s)
    | .error cause =>
      let e : CloseError := ⟨Stage.name stage, slot.detector, cause⟩
      (some e, { s with journal := s.journal ++ [.closeFailed e] })

/-- Closes stages in order, all of them: the failures in order. -/
def closeAll : List StageId → Simulation μ → List CloseError × Simulation μ
  | [], s => ([], s)
  | id :: rest, s =>
    let (e, s) := closeStage id s
    let (es, s) := closeAll rest s
    (e.toList ++ es, s)

/-- Closes every stage in the order in which they run, and reports the first failure. Closing a
simulation again does nothing. -/
def close (s : Simulation μ) : Except CloseError Unit × Simulation μ :=
  if s.closed then (.ok (), s)
  else
    match closeAll s.order { s with closed := true } with
    | ([], s) => (.ok (), s)
    | (e :: _, s) => (.error e, s)

def stageName? (s : Simulation μ) (id : StageId) : Option String :=
  s.slots[id]?.map fun slot => Stage.name slot.stage

def stageCount (s : Simulation μ) : Nat :=
  s.slots.length

def detector? (s : Simulation μ) (name : String) : Option Detector :=
  findDetector? s.detectors name

end Simulation

end SensorSim.Run
