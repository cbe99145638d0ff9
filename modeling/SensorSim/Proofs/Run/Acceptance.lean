import Mathlib
import SensorSim.Proofs.Run.Setup
import SensorSim.Proofs.Stage.Pairs

/-!
# Plans that are set up

A valid plan is set up when the setup of every stage succeeds on the sensor of its detector and what
is required closes no cycle (`exists_ofPlan`). A stage accepts its configuration when the values
that it reads pass its checks.
-/

namespace SensorSim

open Files (FileSystem)

namespace Stage

open Bus Config
open SensorSim.Field (padPotential constantField)
open Sensor (Detector Model)

/-! ## Stages -/

/-- The setup of a stage with this configuration succeeds on a detector with this sensor, whatever
is installed there already. -/
def Accepts (files : FileSystem) (s : Standard) (c : Section) (model : Model) : Prop :=
  ∀ (i : StageId) (w : Workbench) (d : Detector), w.bus.event = none → w.detector = some d → d.model = model →
    ∃ s' w', Program.run (SetupQuestion.answer i files) (Stage.setUp ⟨i, c, files⟩ s) w = ((.ok (), s'), w')

section

variable {i : StageId} {files : FileSystem} {μ : Type} {w : Workbench} {d : Detector} {c : Section} {model : Model}

/-- Outside of an event a stage may declare what it takes and gives. -/
lemma exists_exec_declare (i : StageId) (files : FileSystem) (m : μ) (idle : w.bus.event = none) (taken given : Kind) :
    ∃ w', exec (SetupQuestion.answer i files) m w (do
      SetupM.subscribeOwn taken .required
      SetupM.publish given) = ((.ok (), m), w') := by
  obtain ⟨w₁, first, declares⟩ := exec_subscribeOwn i files m idle taken .required
  obtain ⟨w₂, second, -⟩ := exec_publish i files m (declares.event.trans idle) given
  exact ⟨w₂, (exec_bind_ok first _).trans second⟩

/-- A projection is set up on any sensor. -/
lemma Projection.accepts (x : Projection) : Accepts files (.projection x) c model := by
  intro i w d idle here own
  obtain ⟨w', h⟩ := exists_exec_declare i files x idle .deposited .drifted
  exact ⟨_, w', run_of_exec h Standard.projection⟩

/-- A transfer is set up on any sensor. -/
lemma Induction.accepts (x : Induction) : Accepts files (.transfer x) c model := by
  intro i w d idle here own
  obtain ⟨w', h⟩ := exists_exec_declare i files x idle .drifted .pixel
  exact ⟨_, w', run_of_exec h Standard.transfer⟩

/-- A deposition is set up when its settings pass the checks. -/
lemma Deposition.accepts {x x' : Deposition} (settles : Deposition.Settles c model x x') :
    Accepts files (.deposition x) c model := by
  rintro i w d idle here rfl
  obtain ⟨w', published, -⟩ := exec_publish i files x' idle .deposited
  exact ⟨_, w', run_of_exec ((Deposition.exec_setUp settles here).trans published) Standard.deposition⟩

/-- A reader that installs the potential of a pad, and is not to sample it, is set up. -/
lemma PotentialReader.accepts_pad {x : PotentialReader} (choice : fieldChoice c ["init", "pad"] = .ok "pad")
    (unsampled : c.getOr Reading.boolean "output_plots" false = .ok false) :
    Accepts files (.potentialReader x) c model := by
  intro i w d idle here own
  obtain ⟨w', installed, -⟩ := exec_installPotential i files x here
    (.ofFunction (padPotential d.model.implant d.model.depth) d.model.depth .custom)
  have first : exec (SetupQuestion.answer i files) x w (PotentialReader.install ⟨i, c, files⟩) = ((.ok (), x), w') := by
    rw [PotentialReader.install, exec_ofConfig _ choice, exec_bind_ok (exec_detector _ here), if_neg (by decide)]
    exact installed
  have second : exec (SetupQuestion.answer i files) x w' (PotentialReader.sample ⟨i, c, files⟩) =
      ((.ok (), x), w') := by
    rw [PotentialReader.sample, exec_ofConfig _ unsampled]
    rfl
  exact ⟨_, w', run_of_exec ((exec_bind_ok first _).trans second) Standard.potentialReader⟩

/-- A reader that installs a constant field over the whole depth is set up. -/
lemma FieldReader.accepts_constant {x : FieldReader} {bias : Float}
    (choice : fieldChoice c ["init", "constant", "linear"] = .ok "constant") (whole : c.has "depletion_depth" = false)
    (read_bias : c.get Reading.number "bias_voltage" = .ok bias) : Accepts files (.fieldReader x) c model := by
  intro i w d idle here own
  obtain ⟨w', installed, -⟩ := exec_installField i files x here
    (.ofFunction (constantField bias d.model.depth) d.model.depth .constant)
  have depth : FieldReader.depleted c d.model.depth = .ok d.model.depth := by
    rw [FieldReader.depleted, whole]
    rfl
  have h : exec (SetupQuestion.answer i files) x w (FieldReader.setUp ⟨i, c, files⟩) = ((.ok (), x), w') := by
    rw [FieldReader.setUp, exec_ofConfig _ choice, exec_bind_ok (exec_detector _ here), exec_ofConfig _ depth,
      if_neg (by decide), if_pos rfl, exec_ofConfig _ read_bias]
    exact installed
  exact ⟨_, w', run_of_exec h Standard.fieldReader⟩

end

end Stage

namespace Run

open Bus (StageId)
open Stage (Standard Accepts SetupQuestion Program Workbench)
open Sensor (Detector)
open SensorSim.Order (Acyclic)

/-! ## Plans -/

/-- Every stage belongs to a detector of these, and accepts its configuration there. -/
def AllAccept (files : FileSystem) (plans : List DetectorPlan) (members : List (Member Standard)) : Prop :=
  ∀ m ∈ members, ∃ x ∈ plans, Stage.detector? m.stage = some x.name ∧ Accepts files m.stage m.config x.model

variable {files : FileSystem}

/-- Stages that accept their configurations are all set up, one after the other. -/
lemma Fitted.exists_setUpAll {plans : List DetectorPlan} {members : List (Member Standard)} {stages : List Standard}
    {site : Site Standard} (w : Fitted plans stages site) (distinct : (plans.map DetectorPlan.name).Nodup)
    (accept : AllAccept files plans members) : ∃ site', Site.setUpAll files members site = (.ok (), site') := by
  induction members generalizing stages site with
  | nil => exact ⟨site, rfl⟩
  | cons m rest ih =>
    obtain ⟨x, hx, own, accepts⟩ := accept m (List.mem_cons_self ..)
    have known : x.name ∈ site.detectors.map Detector.name := by
      rw [w.names]
      exact List.mem_map_of_mem hx
    obtain ⟨d, found⟩ := exists_findDetector?_iff.2 known
    obtain ⟨y, hy, name, model⟩ := w.sensors x.name d found
    obtain rfl : y = x := List.inj_on_of_nodup_map distinct hy hx name
    have there : ∀ name, Stage.detector? m.stage = some name → ∃ d, findDetector? site.detectors name = some d := by
      intro name h
      cases own.symm.trans h
      exact ⟨d, found⟩
    have here : (Stage.detector? m.stage).bind (findDetector? site.detectors) = some d := by
      rw [own, Option.bind_some, found]
    obtain ⟨s, bench, run⟩ := accepts site.done.length (site.bench m) d w.idle here model.symm
    have step := setUpStage_eq there run
    obtain ⟨s', -, w', -⟩ := w.setUpStage step
    obtain ⟨site', later⟩ := ih w' fun m hm => accept m (List.mem_cons_of_mem _ hm)
    refine ⟨site', ?_⟩
    rw [Site.setUpAll, step]
    exact later

/-- A valid plan is set up when its stages accept their configurations and what they require closes
no cycle. -/
lemma exists_ofPlan {p : Plan Standard} (valid : p.validate = .ok ()) (accept : AllAccept files p.detectors p.members)
    (acyclic : Acyclic (Needs (p.members.map fun m => m.stage.blank))) :
    ∃ s, Simulation.ofPlan files p = .ok s := by
  have start := fitted_ofPlan p
  obtain ⟨site, all⟩ := start.exists_setUpAll (nodup_of_validate valid) accept
  obtain ⟨stages, same, w, -⟩ := start.setUpAll rfl all
  rw [List.nil_append] at w
  have count : site.done.length = stages.length := by
    simpa using congrArg List.length w.slots
  have known := declaredBelow_of_holds w.holds
  rw [← count] at known
  have required : Acyclic (Order.Supplies site.bus .required) := by
    rw [← same] at acyclic
    exact acyclic.mono fun u v supplies => ((needs_iff_supplies w.holds).2 supplies).blank
  obtain ⟨order, scheduled⟩ := Order.exists_schedule known required
  rw [Simulation.ofPlan, valid]
  simp only [all, scheduled]
  exact ⟨_, rfl⟩

end Run

end SensorSim
