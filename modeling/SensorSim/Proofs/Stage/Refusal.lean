import Mathlib
import SensorSim.Proofs.Stage.Conduct
import SensorSim.Proofs.Stage.Profile

/-!
# The detector after a setup that failed

A setup that fails has kept what it did so far. The stage that installs an electric field reads all
that it needs before it installs anything, so its detector is as it was
(`FieldReader.spares_setUp`). The stage that installs a weighting potential reads the settings of
its samples afterwards: when one of these is bad, or asks for more samples than there is room for,
the setup fails and the new potential stands (`detector_of_setUp_error`).
-/

namespace SensorSim.Stage

open Config
open Bus (StageId)
open SensorSim.Geometry (Point2)
open SensorSim.Field (padPotential TableStores SharedTable Misfit)
open Files (FileSystem)
open Sensor (Detector Model InstalledField)

/-! ## Steps that do not touch the detector -/

/-- A question whose answer leaves the detector as it is. -/
def SetupQuestion.IsLook : SetupQuestion → Prop
  | installPotential _ | installField _ => False
  | _ => True

section

variable {μ α β : Type} {i : StageId} {files : FileSystem}

/-- A look at the workbench leaves the detector as it is. -/
lemma SetupQuestion.IsLook.detector_eq {q : SetupQuestion} (h : q.IsLook) (w : Workbench) :
    (q.answer i files w).2.detector = w.detector := by
  cases q with
  | installPotential f | installField f => exact h.elim
  | _ => rfl

/-- A step that leaves the detector as it is. -/
def Looks (x : SetupM μ α) : Prop :=
  Keeps SetupQuestion.IsLook (fun _ => True) x

namespace Looks

/-- Steps that only look leave the detector as it is, whatever comes of them. -/
lemma detector_eq {x : SetupM μ α} (h : Looks x) (m : μ) (w : Workbench) :
    (exec (SetupQuestion.answer i files) m w x).2.detector = w.detector :=
  ((h m trivial).run (SetupQuestion.answer i files) (P := fun w' => w'.detector = w.detector)
    (fun _ w' look kept => (look.detector_eq w').trans kept) rfl).2

lemma ask {q : SetupQuestion} (h : q.IsLook) : Looks (SetupM.ask q : SetupM μ q.Reply) :=
  Keeps.question h

lemma orFail {ε : Type} (wrap : ε → StageError) (r : Except ε α) : Looks (SetupM.orFail wrap r : SetupM μ α) := by
  cases r with
  | ok a => exact Keeps.pure a
  | error e => exact Keeps.throw _

lemma ofConfig (r : Except ConfigError α) : Looks (SetupM.ofConfig r : SetupM μ α) :=
  orFail .config r

lemma detector : Looks (SetupM.detector : SetupM μ Detector) := by
  refine (ask (q := .detector) trivial).bind fun d => ?_
  cases d with
  | some d => exact Keeps.pure d
  | none => exact Keeps.throw _

lemma potentialTable (path : String) : Looks (SetupM.potentialTable path : SetupM μ _) :=
  (ask (q := .potentialTable path) trivial).bind fun r => (orFail .tableFile r).bind fun t => Keeps.pure t.table

lemma fieldTable (path : String) : Looks (SetupM.fieldTable path : SetupM μ _) :=
  (ask (q := .fieldTable path) trivial).bind fun r => (orFail .tableFile r).bind fun t => Keeps.pure t.table

lemma reportAll (misfits : List Misfit) : Looks (SetupM.reportAll misfits : SetupM μ Unit) :=
  Keeps.forM fun x _ => ask (q := .report x) trivial

end Looks

/-! ## Steps that fail before they touch the detector -/

variable (i files) in
/-- Where a step fails, the detector is as it was. -/
def Spares (x : SetupM μ α) : Prop :=
  ∀ m w e m' w', exec (SetupQuestion.answer i files) m w x = ((.error e, m'), w') → w'.detector = w.detector

/-- A step that leaves the detector as it is may come before one that fails in time. -/
lemma Looks.spares_bind {x : SetupM μ α} (h : Looks x) {f : α → SetupM μ β} (hf : ∀ a, Spares i files (f a)) :
    Spares i files (x >>= f) := by
  intro m w e m'' w'' failed
  have kept : (exec (SetupQuestion.answer i files) m w x).2.detector = w.detector := h.detector_eq m w
  rw [exec_bind] at failed
  split at failed
  · rename_i a m' w' first
    rw [first] at kept
    exact (hf a m' w' e m'' w'' failed).trans kept
  · rename_i e' m' w' first
    rw [first] at kept
    cases failed
    exact kept

/-- What is asked of the detector once it is known to be there does not fail. -/
lemma spares_ask (q : SetupQuestion) : Spares i files (SetupM.ask q : SetupM μ q.Reply) := by
  intro m w e m' w' failed
  cases failed

/-- A reader of fields fails only before it installs one. -/
lemma FieldReader.spares_setUp (ctx : SetupContext) : Spares i files (FieldReader.setUp ctx) := by
  refine (Looks.ofConfig _).spares_bind fun choice => Looks.detector.spares_bind fun d => ?_
  refine (Looks.ofConfig _).spares_bind fun depth => ?_
  have install : ∀ f, Spares i files (SetupM.installField f : SetupM FieldReader Unit) := fun f =>
    Looks.detector.spares_bind fun _ => spares_ask _
  split
  · refine (Looks.ofConfig _).spares_bind fun path => (Looks.fieldTable path).spares_bind fun table => ?_
    exact (Looks.reportAll _).spares_bind fun _ => install _
  · split
    · exact (Looks.ofConfig _).spares_bind fun bias => install _
    · exact (Looks.ofConfig _).spares_bind fun bias => (Looks.ofConfig _).spares_bind fun depletion => install _

end

/-! ## The weighting potential -/

namespace PotentialReader

variable {i : StageId} {files : FileSystem} {c : Section} {m m' : PotentialReader} {w w' : Workbench} {d : Detector}

/-- A configuration asks for a weighting potential that can be made for a sensor. -/
inductive Asks (c : Section) (files : FileSystem) (tables : TableStores) (model : Model) :
    InstalledField Float → Prop where
  | table {path : String} {t : SharedTable Float} (choice : fieldChoice c ["init", "pad"] = .ok "init")
      (found : c.getExistingPath files "file_name" = .ok path) (read : (tables.potentials.get files path).1 = .ok t) :
      Asks c files tables model
        (.ofGrid ⟨t.table, tableScale t.table.size model.pitch, ⟨0.0, 0.0⟩, .bounded⟩ model.depth)
  | pad (choice : fieldChoice c ["init", "pad"] = .ok "pad") :
      Asks c files tables model (.ofFunction (padPotential model.implant model.depth) model.depth .custom)

/-- What is wrong with the settings of the samples: whether they are wanted, how many, and where.
When nothing is, there may still be no room for as many. -/
inductive SamplingFault (c : Section) : StageError → Prop where
  | wanted {e : ConfigError} (h : c.getOr Reading.boolean "output_plots" false = .error e) : SamplingFault c (.config e)
  | steps {e : ConfigError} (wanted : c.getOr Reading.boolean "output_plots" false = .ok true)
      (h : c.getOr (Reading.natural .size) "output_plots_steps" 500 = .error e) : SamplingFault c (.config e)
  | zero (wanted : c.getOr Reading.boolean "output_plots" false = .ok true)
      (h : c.getOr (Reading.natural .size) "output_plots_steps" 500 = .ok 0) :
      SamplingFault c (.config (c.invalid "output_plots_steps" "must be at least 1"))
  | position {n : Nat} {e : ConfigError} (wanted : c.getOr Reading.boolean "output_plots" false = .ok true)
      (steps : c.getOr (Reading.natural .size) "output_plots_steps" 500 = .ok n) (nonzero : n ≠ 0)
      (h : c.getOr Reading.point2 "output_plots_position" ⟨0.0, 0.0⟩ = .error e) : SamplingFault c (.config e)
  | crowded {n : Nat} {pos : Point2} (wanted : c.getOr Reading.boolean "output_plots" false = .ok true)
      (steps : c.getOr (Reading.natural .size) "output_plots_steps" 500 = .ok n)
      (position : c.getOr Reading.point2 "output_plots_position" ⟨0.0, 0.0⟩ = .ok pos) (h : 2 ^ 30 ≤ n) :
      SamplingFault c .overflow

/-- The model of a field is one of those to choose from. -/
lemma eq_of_fieldChoice {choice : String} {names : List String} (h : fieldChoice c names = .ok choice) :
    choice ∈ names := by
  unfold fieldChoice at h
  cases read : c.get Reading.text "model" with
  | error e =>
    rw [read] at h
    cases h
  | ok name =>
    rw [read] at h
    change (if name ∈ names then Except.ok name else _) = _ at h
    split at h
    · cases h
      assumption
    · cases h

/-- A reader of potentials that cannot install one leaves the detector as it was. -/
lemma spares_install (ctx : SetupContext) : Spares i files (install ctx) := by
  refine (Looks.ofConfig _).spares_bind fun choice => Looks.detector.spares_bind fun d => ?_
  have install : ∀ f, Spares i files (SetupM.installPotential f : SetupM PotentialReader Unit) := fun f =>
    Looks.detector.spares_bind fun _ => spares_ask _
  dsimp only
  split
  · refine (Looks.ofConfig _).spares_bind fun path => (Looks.potentialTable path).spares_bind fun table => ?_
    exact (Looks.reportAll _).spares_bind fun _ => install _
  · exact install _

/-- A table is what the store answers, or its error. -/
lemma exec_potentialTable {path : String} {r : Except Field.TableFileError (SharedTable Float)}
    (read : (w.tables.potentials.get files path).1 = r) :
    exec (SetupQuestion.answer i files) m w (SetupM.potentialTable path) =
      (((r.map (·.table)).mapError .tableFile, m), ((SetupQuestion.potentialTable path).answer i files w).2) := by
  refine (exec_bind_ok (exec_setup_ask m w (.potentialTable path)) _).trans ?_
  change exec _ _ _ (SetupM.orFail .tableFile (w.tables.potentials.get files path).1 >>= _) = _
  rw [read]
  cases r <;> rfl

/-- Misfits are reported without fail. -/
lemma exec_reportAll (i : StageId) (files : FileSystem) (m : PotentialReader) (misfits : List Misfit) (w : Workbench) :
    ∃ w', exec (SetupQuestion.answer i files) m w (SetupM.reportAll misfits) = ((.ok (), m), w') ∧
      w'.detector = w.detector := by
  induction misfits generalizing w with
  | nil => exact ⟨w, rfl, rfl⟩
  | cons x rest ih =>
    obtain ⟨w', done, kept⟩ := ih { w with misfits := w.misfits ++ [x] }
    exact ⟨w', (exec_bind_ok (exec_setup_ask m w (.report x)) _).trans done, kept⟩

/-- A potential that is asked for and can be made is installed. -/
lemma exec_install {f : InstalledField Float} (here : w.detector = some d) (asked : Asks c files w.tables d.model f) :
    ∃ w', exec (SetupQuestion.answer i files) m w (install ⟨i, c, files⟩) = ((.ok (), m), w') ∧
      w'.detector = some { d with potential := some f } := by
  cases asked with
  | table choice found read =>
    have tabled := exec_potentialTable (i := i) (m := m) read
    obtain ⟨w₁, reported, kept⟩ := exec_reportAll i files m
      (Field.misfits _ d.model.depth d.model.pitch) ((SetupQuestion.potentialTable _).answer i files w).2
    obtain ⟨w', installed, stands⟩ := exec_installPotential i files m (kept.trans here) _
    refine ⟨w', ?_, stands⟩
    rw [install, exec_ofConfig _ choice, exec_bind_ok (exec_detector _ here), if_pos rfl, exec_ofConfig _ found,
      exec_bind_ok tabled, exec_bind_ok reported]
    exact installed
  | pad choice =>
    obtain ⟨w', installed, stands⟩ := exec_installPotential i files m here _
    refine ⟨w', ?_, stands⟩
    rw [install, exec_ofConfig _ choice, exec_bind_ok (exec_detector _ here), if_neg (by decide)]
    exact installed

/-- When a potential was installed, one that can be made was asked for. -/
lemma asks_of_exec_install
    (run : exec (SetupQuestion.answer i files) m w (install ⟨i, c, files⟩) = ((.ok (), m'), w')) :
    ∃ d f, w.detector = some d ∧ Asks c files w.tables d.model f := by
  obtain ⟨choice, chosen, onDetector⟩ := exec_ofConfig_eq_ok run
  obtain ⟨d, m₁, w₁, found, made⟩ := exec_bind_eq_ok onDetector
  obtain ⟨here, rfl, rfl⟩ := exec_detector_eq_ok found
  by_cases table : choice = "init"
  · rw [if_pos table] at made
    obtain ⟨path, reached, tabled⟩ := exec_ofConfig_eq_ok made
    cases read : (w₁.tables.potentials.get files path).1 with
    | ok t => exact ⟨d, _, here, .table (table ▸ chosen) reached read⟩
    | error e =>
      rw [exec_bind_error (exec_potentialTable read)] at tabled
      cases tabled
  · have pad : choice = "pad" := by simpa [table] using eq_of_fieldChoice chosen
    exact ⟨d, _, here, .pad (pad ▸ chosen)⟩

/-! ### Samples -/

/-- Where a potential stands, the samples fail for each of these reasons and touch nothing. -/
lemma exec_sample_of_fault {f : InstalledField Float} {e : StageError} (here : w.detector = some d)
    (installed : d.potential = some f) (fault : SamplingFault c e) :
    exec (SetupQuestion.answer i files) m w (sample ⟨i, c, files⟩) = ((.error e, m), w) := by
  cases fault with
  | wanted h => rw [sample, exec_ofConfig_error m h]
  | steps wanted h => rw [sample, exec_ofConfig m wanted, if_pos rfl, exec_ofConfig_error m h]
  | zero wanted h =>
    rw [sample, exec_ofConfig m wanted, if_pos rfl, exec_ofConfig m h]
    rfl
  | position wanted steps nonzero h =>
    rw [sample, exec_ofConfig m wanted, if_pos rfl, exec_ofConfig m steps, if_neg nonzero]
    exact exec_ofConfig_error m h _
  | @crowded n pos wanted steps position h =>
    have nonzero : n ≠ 0 := (Nat.two_pow_pos 30).trans_le h |>.ne'
    rw [sample, exec_ofConfig m wanted, if_pos rfl, exec_ofConfig m steps, if_neg nonzero, exec_ofConfig m position,
      exec_bind_ok (exec_detector m here), Profile.sample_of_crowded pos installed h]
    rfl

/-- The samples fail for no other reason. -/
lemma fault_of_exec_sample {f : InstalledField Float} {e : StageError} (here : w.detector = some d)
    (installed : d.potential = some f)
    (failed : exec (SetupQuestion.answer i files) m w (sample ⟨i, c, files⟩) = ((.error e, m'), w')) :
    SamplingFault c e := by
  -- The settings are read in one order, and each fault that comes first is the one that is named.
  have named : ∀ e', SamplingFault c e' → SamplingFault c e := by
    intro e' h
    rw [exec_sample_of_fault here installed h] at failed
    cases failed
    exact h
  cases wanted : c.getOr Reading.boolean "output_plots" false with
  | error fault => exact named _ (.wanted wanted)
  | ok plots =>
    rw [sample, exec_ofConfig m wanted] at failed
    cases plots with
    | false => cases failed
    | true =>
      rw [if_pos rfl] at failed
      cases steps : c.getOr (Reading.natural .size) "output_plots_steps" 500 with
      | error fault => exact named _ (.steps wanted steps)
      | ok n =>
        by_cases zero : n = 0
        · exact named _ (.zero wanted (zero ▸ steps))
        · rw [exec_ofConfig m steps, if_neg zero] at failed
          cases position : c.getOr Reading.point2 "output_plots_position" ⟨0.0, 0.0⟩ with
          | error fault => exact named _ (.position wanted steps zero position)
          | ok p =>
            rcases Nat.lt_or_ge n (2 ^ 30) with few | many
            · have sampled := Profile.sample_of_potential p installed few
              rw [exec_ofConfig m position, exec_bind_ok (exec_detector m here), sampled] at failed
              cases failed
            · exact named _ (.crowded wanted steps position many)

/-- Where the setup fails, no potential was installed, or one was and the samples failed. -/
lemma cases_of_exec_setUp {e : StageError}
    (failed : exec (SetupQuestion.answer i files) m w (setUp ⟨i, c, files⟩) = ((.error e, m'), w')) :
    (w'.detector = w.detector ∧ ∀ d f, w.detector = some d → ¬ Asks c files w.tables d.model f) ∨
      ∃ d f, w.detector = some d ∧ Asks c files w.tables d.model f ∧ SamplingFault c e ∧
        w'.detector = some { d with potential := some f } := by
  rw [setUp, exec_bind] at failed
  split at failed
  · rename_i m₁ w₁ first
    obtain ⟨d, f, here, asked⟩ := asks_of_exec_install first
    obtain ⟨w₂, first', stands⟩ := exec_install (i := i) (m := m) here asked
    obtain ⟨rfl, rfl⟩ : m = m₁ ∧ w₂ = w₁ := by
      rw [first'] at first
      cases first
      exact ⟨rfl, rfl⟩
    have bad := fault_of_exec_sample stands rfl failed
    rw [exec_sample_of_fault stands rfl bad] at failed
    cases failed
    exact .inr ⟨d, f, here, asked, bad, stands⟩
  · rename_i e' m₁ w₁ first
    cases failed
    refine .inl ⟨spares_install _ m w e m' w' first, fun d f here asked => ?_⟩
    obtain ⟨w₂, first', -⟩ := exec_install (i := i) (m := m) here asked
    rw [first'] at first
    cases first

/-- A bad setting of the samples makes the setup fail after the potential was installed. -/
lemma exec_setUp_of_fault {f : InstalledField Float} {e : StageError} (i : StageId) (m : PotentialReader)
    (here : w.detector = some d) (asked : Asks c files w.tables d.model f) (bad : SamplingFault c e) :
    ∃ w', exec (SetupQuestion.answer i files) m w (setUp ⟨i, c, files⟩) = ((.error e, m), w') ∧
      w'.detector = some { d with potential := some f } := by
  obtain ⟨w', first, stands⟩ := exec_install (i := i) (m := m) here asked
  exact ⟨w', (exec_bind_ok first _).trans (exec_sample_of_fault stands rfl bad), stands⟩

end PotentialReader

/-! ## Setups that fail -/

/-- When a setup that installs an electric field fails, the detector is as it was. When one that
installs a weighting potential fails, the detector is as it was, and there was nothing to be
installed, or else the new potential stands and what is wrong with the settings of the samples is
the failure. Each such fault always leads to that. -/
theorem detector_of_setUp_error (i : StageId) (files : FileSystem) (c : Section) (w : Workbench) :
    (∀ (r : FieldReader) e r' w',
      Program.run (SetupQuestion.answer i files) (Stage.setUp ⟨i, c, files⟩ r) w = ((.error e, r'), w') →
        w'.detector = w.detector) ∧
    (∀ (r : PotentialReader) e r' w',
      Program.run (SetupQuestion.answer i files) (Stage.setUp ⟨i, c, files⟩ r) w = ((.error e, r'), w') →
        (w'.detector = w.detector ∧
            ∀ d f, w.detector = some d → ¬ PotentialReader.Asks c files w.tables d.model f) ∨
          ∃ d f, w.detector = some d ∧ PotentialReader.Asks c files w.tables d.model f ∧
            PotentialReader.SamplingFault c e ∧ w'.detector = some { d with potential := some f }) ∧
    ∀ (r : PotentialReader) d f e, w.detector = some d → PotentialReader.Asks c files w.tables d.model f →
      PotentialReader.SamplingFault c e → ∃ r' w',
        Program.run (SetupQuestion.answer i files) (Stage.setUp ⟨i, c, files⟩ r) w =
          ((.error e, r'), w') ∧ w'.detector = some { d with potential := some f } := by
  refine ⟨fun r e r' w' failed => ?_, fun r e r' w' failed => ?_, fun r d f e here asked bad => ?_⟩
  · exact FieldReader.spares_setUp _ r w e r' w' failed
  · exact PotentialReader.cases_of_exec_setUp failed
  · exact ⟨r, PotentialReader.exec_setUp_of_fault i r here asked bad⟩

/-- A sensor of one pixel that has no fields yet. -/
def bare : Detector where
  name := "bare"
  model :=
    { name := "bare", columns := 1, rows := 1, pitch := ⟨1.0, 1.0⟩, implant := ⟨1.0, 1.0⟩, thickness := 1.0 }

/-- The configuration of the potential of a pad, with samples that have no steps. -/
def unsampled : Section :=
  .ofList "WeightingPotentialReader" [("model", "pad"), ("output_plots", "true"), ("output_plots_steps", "0")]

/-- The configuration asks for the potential of a pad. -/
lemma asks_unsampled (files : FileSystem) (tables : TableStores) (model : Model) :
    PotentialReader.Asks unsampled files tables model
      (.ofFunction (padPotential model.implant model.depth) model.depth .custom) :=
  .pad (by decide +kernel)

/-- It asks for samples of no steps, which is a fault. -/
lemma samplingFault_unsampled :
    PotentialReader.SamplingFault unsampled
      (.config (unsampled.invalid "output_plots_steps" "must be at least 1")) :=
  .zero (by decide +kernel) (by decide +kernel)

/-- The setup fails, and the sensor has the potential of the pad. -/
theorem detector_of_setUp_error_unsampled :
    ∃ r w', Program.run (SetupQuestion.answer 0 .empty)
        (Stage.setUp ⟨0, unsampled, .empty⟩ ({ detector := "bare" } : PotentialReader))
        { bus := {}, tables := .ofLimit 0, detector := some bare } =
      ((.error (.config (unsampled.invalid "output_plots_steps" "must be at least 1")), r), w') ∧
      w'.detector = some { bare with
        potential := some (.ofFunction (padPotential bare.model.implant bare.model.depth) bare.model.depth .custom) } :=
  (detector_of_setUp_error 0 .empty unsampled { bus := {}, tables := .ofLimit 0, detector := some bare }).2.2
    { detector := "bare" } bare _ _ rfl (asks_unsampled _ _ _) samplingFault_unsampled

/-- Not every setup that fails leaves the fields as they were. -/
theorem not_forall_detector_of_setUp_error :
    ¬ ∀ (i : StageId) (files : FileSystem) (c : Section) (w : Workbench) (d : Detector), w.detector = some d →
      (∀ (r : FieldReader) e r' w' d',
        Program.run (SetupQuestion.answer i files) (Stage.setUp ⟨i, c, files⟩ r) w = ((.error e, r'), w') →
          w'.detector = some d' → d'.potential = d.potential ∧ d'.field = d.field) ∧
      ∀ (r : PotentialReader) e r' w' d',
        Program.run (SetupQuestion.answer i files) (Stage.setUp ⟨i, c, files⟩ r) w = ((.error e, r'), w') →
          w'.detector = some d' → d'.potential = d.potential ∧ d'.field = d.field := by
  intro kept
  obtain ⟨w', failed, stands⟩ := PotentialReader.exec_setUp_of_fault
    (w := { bus := {}, tables := .ofLimit 0, detector := some bare }) 0 { detector := "bare" } rfl
    (asks_unsampled .empty _ _) samplingFault_unsampled
  have same := ((kept 0 .empty unsampled _ bare rfl).2 _ _ _ _ _ failed stands).1
  cases same

end SensorSim.Stage
