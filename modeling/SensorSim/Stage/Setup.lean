import SensorSim.Stage.Program
import SensorSim.Stage.Error
import SensorSim.Bus.Basic
import SensorSim.Field.TableStore
import SensorSim.Field.Fit

/-!
# Setting up a stage

Before the first event every stage reads its configuration, declares what it takes and gives, and
may install fields on the detector that it belongs to. What it may do is a program: declarations
carry the number of the stage itself, and no other detector can be reached.
-/

namespace SensorSim.Stage

open Bus SensorSim.Field Sensor SensorSim.Geometry
open Config (Section)
open Files (FileSystem)

/-- What a stage may ask for while it is set up. -/
inductive SetupQuestion where
  | subscribe (kind : Kind) (scope : Scope) (requirement : Requirement)
  | publish (kind : Kind) (scope : Scope)
  | detector
  | installPotential (field : InstalledField Float)
  | installField (field : InstalledField Vec3)
  | potentialTable (path : String)
  | fieldTable (path : String)
  | storeSizes
  | report (misfit : Misfit)

def SetupQuestion.Reply : SetupQuestion → Type
  | subscribe .. | publish .. => Except BusError Unit
  | detector => Option Detector
  | installPotential _ | installField _ | report _ => Unit
  | potentialTable _ => Except TableFileError (SharedTable Float)
  | fieldTable _ => Except TableFileError (SharedTable Vec3)
  | storeSizes => Nat × Nat

abbrev Setup := Program SetupQuestion SetupQuestion.Reply

/-- What a stage works on while it is set up. -/
structure Workbench where
  bus : Bus
  tables : TableStores
  /-- The detector that the stage belongs to. -/
  detector : Option Detector
  /-- The misfits reported so far. -/
  misfits : List Misfit := []

/-- Keeps a changed value, or the old one together with the error. -/
def settle {ε σ : Type} (old : σ) : Except ε σ → Except ε Unit × σ
  | .ok new => (.ok (), new)
  | .error e => (.error e, old)

/-- Answers a question of the stage with the given number. -/
def SetupQuestion.answer (stage : StageId) (files : FileSystem) :
    (q : SetupQuestion) → Workbench → q.Reply × Workbench
  | subscribe kind scope requirement, w =>
    let (r, bus) := settle w.bus (w.bus.subscribe ⟨stage, kind, scope, requirement⟩)
    (r, { w with bus })
  | publish kind scope, w =>
    let (r, bus) := settle w.bus (w.bus.publish ⟨stage, kind, scope⟩)
    (r, { w with bus })
  | detector, w => (w.detector, w)
  | installPotential f, w =>
    ((), { w with detector := w.detector.map fun d => { d with potential := some f } })
  | installField f, w =>
    ((), { w with detector := w.detector.map fun d => { d with field := some f } })
  | potentialTable path, w =>
    let (r, potentials) := w.tables.potentials.get files path
    (r, { w with tables := { w.tables with potentials } })
  | fieldTable path, w =>
    let (r, fields) := w.tables.fields.get files path
    (r, { w with tables := { w.tables with fields } })
  | storeSizes, w => ((w.tables.potentials.size, w.tables.fields.size), w)
  | report misfit, w => ((), { w with misfits := w.misfits ++ [misfit] })

/-- What a stage knows while it is set up. -/
structure SetupContext where
  stage : StageId
  config : Section
  files : FileSystem

/-- A step of the setup of a stage with state `μ`: it may fail, and what it has done so far stays
done. -/
abbrev SetupM (μ : Type) := ExceptT StageError (StateT μ Setup)

namespace SetupM

variable {μ α : Type}

def ask (q : SetupQuestion) : SetupM μ q.Reply :=
  ExceptT.lift (StateT.lift (Program.question q))

/-- Goes on with a value, or fails with the error, as a failure of the stage. -/
def orFail {ε : Type} (wrap : ε → StageError) : Except ε α → SetupM μ α
  | .ok a => pure a
  | .error e => throw (wrap e)

def ofConfig (r : Except Config.ConfigError α) : SetupM μ α :=
  orFail .config r

def detector : SetupM μ Detector := do
  match (← ask .detector : Option Detector) with
  | some d => return d
  | none => throw .missingDetector

/-- The scope of the stage: its detector, or any. -/
def ownScope : SetupM μ Scope := do
  return Scope.own ((← ask .detector : Option Detector).map Detector.name)

def subscribe (kind : Kind) (scope : Scope) (requirement : Requirement) : SetupM μ Unit := do
  orFail .bus (← ask (.subscribe kind scope requirement) : Except BusError Unit)

/-- Subscribes to a kind of message in the scope of the stage. -/
def subscribeOwn (kind : Kind) (requirement : Requirement) : SetupM μ Unit := do
  subscribe kind (← ownScope) requirement

/-- Declares that the stage gives a kind of message in its scope. -/
def publish (kind : Kind) : SetupM μ Unit := do
  let scope ← ownScope
  orFail .bus (← ask (.publish kind scope) : Except BusError Unit)

/-- Installs a weighting potential on the detector of the stage. -/
def installPotential (f : InstalledField Float) : SetupM μ Unit := do
  let _ ← detector
  ask (.installPotential f)

/-- Installs an electric field on the detector of the stage. -/
def installField (f : InstalledField Vec3) : SetupM μ Unit := do
  let _ ← detector
  ask (.installField f)

def potentialTable (path : String) : SetupM μ (Table Float) := do
  let r : Except TableFileError (SharedTable Float) ← ask (.potentialTable path)
  return (← orFail .tableFile r).table

def fieldTable (path : String) : SetupM μ (Table Vec3) := do
  let r : Except TableFileError (SharedTable Vec3) ← ask (.fieldTable path)
  return (← orFail .tableFile r).table

def reportAll (misfits : List Misfit) : SetupM μ Unit :=
  misfits.forM fun m => ask (.report m)

end SetupM

end SensorSim.Stage
