import Mathlib
import SensorSim.Stage.Basic

/-!
# Executing the steps of a stage

A step of a stage is a program with a failure and the state of the stage on top. `exec` runs it on a
state of the surroundings, and the lemmas say what it does step by step: a failure ends the
execution and keeps what was done so far.
-/

namespace SensorSim.Stage

open Sensor (Detector)

section

variable {Q : Type} {Reply : Q → Type} {μ σ α β : Type}

/-- A step of a stage with state `μ` that asks the questions `Q`. -/
abbrev Step (Q : Type) (Reply : Q → Type) (μ α : Type) :=
  ExceptT StageError (StateT μ (Program Q Reply)) α

variable (handle : (q : Q) → σ → Reply q × σ) (m : μ) (s : σ)

/-- Runs a step: its outcome, the stage afterwards, and the surroundings afterwards. -/
def exec (x : Step Q Reply μ α) : (Except StageError α × μ) × σ :=
  Program.run handle (x m) s

/-- A program whose result is changed runs as before. -/
lemma run_map (f : α → β) (p : Program Q Reply α) :
    Program.run handle (f <$> p) s = (f (Program.run handle p s).1, (Program.run handle p s).2) := by
  show Program.run handle (p >>= fun a => pure (f a)) s = _
  rw [Program.run_bind, Program.run_pure]

@[simp] lemma exec_pure (a : α) : exec handle m s (pure a : Step Q Reply μ α) = ((.ok a, m), s) :=
  rfl

@[simp] lemma exec_get : exec handle m s (get : Step Q Reply μ μ) = ((.ok m, m), s) :=
  rfl

@[simp] lemma exec_modify (f : μ → μ) :
    exec handle m s (modify f : Step Q Reply μ PUnit) = ((.ok ⟨⟩, f m), s) :=
  rfl

/-- Steps in sequence: the second is executed where the first succeeds. -/
lemma exec_bind (x : Step Q Reply μ α) (f : α → Step Q Reply μ β) :
    exec handle m s (x >>= f) =
      match exec handle m s x with
      | ((.ok a, m'), s') => exec handle m' s' (f a)
      | ((.error e, m'), s') => ((.error e, m'), s') := by
  show Program.run handle (x m >>= fun r => ExceptT.bindCont f r.1 r.2) s = _
  rw [Program.run_bind]
  unfold exec
  rcases Program.run handle (x m) s with ⟨⟨_ | a, m'⟩, s'⟩
  · rfl
  · rfl

variable {handle m s}

/-- Where the first of two steps succeeds, the second goes on from there. -/
lemma exec_bind_ok {x : Step Q Reply μ α} {a : α} {m' : μ} {s' : σ}
    (h : exec handle m s x = ((.ok a, m'), s')) (f : α → Step Q Reply μ β) :
    exec handle m s (x >>= f) = exec handle m' s' (f a) := by
  rw [exec_bind, h]

/-- Where the first of two steps fails, nothing more is done. -/
lemma exec_bind_error {x : Step Q Reply μ α} {e : StageError} {m' : μ} {s' : σ}
    (h : exec handle m s x = ((.error e, m'), s')) (f : α → Step Q Reply μ β) :
    exec handle m s (x >>= f) = ((.error e, m'), s') := by
  rw [exec_bind, h]

/-- Steps in sequence succeed when the first does, and then the second. -/
lemma exec_bind_eq_ok {x : Step Q Reply μ α} {f : α → Step Q Reply μ β} {b : β} {m'' : μ} {s'' : σ}
    (h : exec handle m s (x >>= f) = ((.ok b, m''), s'')) :
    ∃ a m' s', exec handle m s x = ((.ok a, m'), s') ∧ exec handle m' s' (f a) = ((.ok b, m''), s'') := by
  rw [exec_bind] at h
  split at h
  · exact ⟨_, _, _, ‹_›, h⟩
  · cases h

/-- A stage in a larger type of stages succeeds where its own step does. -/
lemma run_of_exec {ν : Type} {x : Step Q Reply μ α} {a : α} {m' : μ} {s' : σ}
    (h : exec handle m s x = ((.ok a, m'), s')) (wrap : μ → ν) :
    Program.run handle (Prod.map id wrap <$> x m) s = ((.ok a, wrap m'), s') := by
  rw [exec] at h
  rw [run_map, h]
  rfl

end

/-! ## Setup -/

section

variable {μ : Type} {id : Bus.StageId} {files : Files.FileSystem} (m : μ) (w : Workbench)

/-- A question of the setup is answered by the workbench. -/
@[simp] lemma exec_setup_ask (q : SetupQuestion) :
    exec (SetupQuestion.answer id files) m w (SetupM.ask q) =
      ((.ok (q.answer id files w).1, m), (q.answer id files w).2) :=
  rfl

variable {w} {m' : μ} {w' : Workbench}

/-- A stage that is set up on a detector is given it. -/
lemma exec_detector {d : Detector} (here : w.detector = some d) :
    exec (SetupQuestion.answer id files) m w (SetupM.detector : SetupM μ Detector) = ((.ok d, m), w) := by
  simp only [SetupM.detector, exec_bind, exec_setup_ask, SetupQuestion.answer, here]
  rfl

/-- Where the configuration is read, the step goes on with what it says. -/
lemma exec_ofConfig {α β : Type} {r : Except Config.ConfigError α} {a : α} (read : r = .ok a) (f : α → SetupM μ β) :
    exec (SetupQuestion.answer id files) m w (SetupM.ofConfig r >>= f) =
      exec (SetupQuestion.answer id files) m w (f a) := by
  rw [read]
  exact exec_bind_ok rfl f

/-- Where the configuration cannot be read, the step fails for that and nothing more is done. -/
lemma exec_ofConfig_error {α β : Type} {r : Except Config.ConfigError α} {e : Config.ConfigError}
    (unread : r = .error e)
    (f : α → SetupM μ β) :
    exec (SetupQuestion.answer id files) m w (SetupM.ofConfig r >>= f) = ((.error (.config e), m), w) := by
  rw [unread]
  exact exec_bind_error rfl f

/-- A weighting potential is installed on the detector that is there. -/
lemma exec_installPotential (id : Bus.StageId) (files : Files.FileSystem) (m : μ) {d : Detector}
    (here : w.detector = some d) (f : Sensor.InstalledField Float) :
    ∃ w', exec (SetupQuestion.answer id files) m w (SetupM.installPotential f) = ((.ok (), m), w') ∧
      w'.detector = some { d with potential := some f } := by
  refine ⟨_, (exec_bind_ok (exec_detector m here) _).trans rfl, ?_⟩
  exact congrArg (Option.map fun d : Detector => { d with potential := some f }) here

/-- An electric field is installed on the detector that is there. -/
lemma exec_installField (id : Bus.StageId) (files : Files.FileSystem) (m : μ) {d : Detector}
    (here : w.detector = some d) (f : Sensor.InstalledField Geometry.Vec3) :
    ∃ w', exec (SetupQuestion.answer id files) m w (SetupM.installField f) = ((.ok (), m), w') ∧
      w'.detector = some { d with field := some f } := by
  refine ⟨_, (exec_bind_ok (exec_detector m here) _).trans rfl, ?_⟩
  exact congrArg (Option.map fun d : Detector => { d with field := some f }) here

variable {m}

/-- A detector that was given is the one on the workbench. -/
lemma exec_detector_eq_ok {d : Detector}
    (h : exec (SetupQuestion.answer id files) m w (SetupM.detector : SetupM μ Detector) = ((.ok d, m'), w')) :
    w.detector = some d ∧ m' = m ∧ w' = w := by
  cases here : w.detector with
  | some d' =>
    rw [exec_detector m here] at h
    cases h
    exact ⟨rfl, rfl, rfl⟩
  | none =>
    simp only [SetupM.detector, exec_bind, exec_setup_ask, SetupQuestion.answer, here] at h
    cases h

/-- What is done with a value that is read is done when the value can be read. -/
lemma exec_ofConfig_eq_ok {α β : Type} {r : Except Config.ConfigError α} {f : α → SetupM μ β} {b : β}
    (h : exec (SetupQuestion.answer id files) m w (SetupM.ofConfig r >>= f) = ((.ok b, m'), w')) :
    ∃ a, r = .ok a ∧ exec (SetupQuestion.answer id files) m w (f a) = ((.ok b, m'), w') := by
  cases r with
  | ok a => exact ⟨a, rfl, by rwa [exec_ofConfig m rfl] at h⟩
  | error e => cases h

end

/-! ## Events -/

section

variable {μ : Type} {id : Bus.StageId} (m : μ) (b : Bus)

/-- A question in an event is answered by the bus. -/
@[simp] lemma exec_run_ask (q : RunQuestion) :
    exec (RunQuestion.answer id) m b (RunM.ask q) = ((.ok (q.answer id b).1, m), (q.answer id b).2) :=
  rfl

end

end SensorSim.Stage
