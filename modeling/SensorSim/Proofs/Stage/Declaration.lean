import Mathlib
import SensorSim.Stage.Standard
import SensorSim.Proofs.Bus.Declaration
import SensorSim.Proofs.Stage.Execution

/-!
# What stages declare

What each stage of the library takes and gives, read off the stage, and what the steps of a setup
declare. The setup of a relay fails exactly when it was told to fail.
-/

namespace SensorSim.Stage

open Bus
open Files (FileSystem)

namespace Standard

/-- The kinds of message that a stage gives in an event, in order. -/
def gives : Standard → List Kind
  | .deposition _ => [.deposited]
  | .projection _ => [.drifted]
  | .transfer _ => [.pixel]
  | .relay r => r.gives
  | .potentialReader _ | .fieldReader _ | .recorder _ => []

/-- The kinds of message that a stage takes in an event, in order, and whether it can do without. -/
def takes : Standard → List (Kind × Requirement)
  | .projection _ => [(.deposited, .required)]
  | .transfer _ => [(.drifted, .required)]
  | .relay r => r.takes
  | .recorder r => [(r.kind, .optional)]
  | .deposition _ | .potentialReader _ | .fieldReader _ => []

/-- The scope of a stage: the detector that it belongs to, or any. -/
def ownScope (s : Standard) : Scope :=
  .own (Stage.detector? s)

/-- A stage that stands in for others where only the flow of messages matters. -/
def IsFixture : Standard → Prop
  | .relay _ | .recorder _ => True
  | _ => False

/-- The subscriptions that a stage declares. -/
def subscriptions (s : Standard) (i : StageId) : List Subscription :=
  s.takes.map fun t => ⟨i, t.1, s.ownScope, t.2⟩

/-- The publications that a stage declares. -/
def publications (s : Standard) (i : StageId) : List Publication :=
  s.gives.map fun k => ⟨i, k, s.ownScope⟩

/-- What stages in a row declare, each under its number. -/
def declared {δ : Type} (declares : Standard → StageId → List δ) (stages : List Standard) : List δ :=
  stages.zipIdx.flatMap fun x => declares x.1 x.2

section

variable {δ : Type} {declares : Standard → StageId → List δ} {stages : List Standard}

/-- What stages declare is what one of them declares by its number. -/
lemma mem_declared {t : δ} :
    t ∈ declared declares stages ↔ ∃ (i : StageId) (s : Standard), stages[i]? = some s ∧ t ∈ declares s i := by
  simp only [declared, List.mem_flatMap, Prod.exists, List.mem_zipIdx_iff_getElem?]
  exact exists_comm

/-- One more stage declares its own last. -/
lemma declared_snoc (s : Standard) :
    declared declares (stages ++ [s]) = declared declares stages ++ declares s stages.length := by
  simp [declared, List.zipIdx_append]

/-- A bus holds exactly what stages in a row declare. -/
abbrev HeldBy (stages : List Standard) (b : Bus) : Prop :=
  b.Holds (declared subscriptions stages) (declared publications stages)

end

end Standard

/-- Between two states of a workbench these declarations were made and nothing else was done. -/
structure Workbench.Declares (w w' : Workbench) (subscribed : List Subscription)
    (published : List Publication) : Prop where
  detector : w'.detector = w.detector
  event : w'.bus.event = w.bus.event
  store : w'.bus.store = w.bus.store
  holds : ∀ {s p}, w.bus.Holds s p → w'.bus.Holds (s ++ subscribed) (p ++ published)

/-- The scope that a workbench gives its stage. -/
def Workbench.scope (w : Workbench) : Scope :=
  .own (w.detector.map Sensor.Detector.name)

namespace Workbench.Declares

variable {w w₁ w₂ w₃ : Workbench} {s s' : List Subscription} {p p' : List Publication}

lemma refl (w : Workbench) : w.Declares w [] [] :=
  ⟨rfl, rfl, rfl, fun h => by simpa using h⟩

/-- What is declared in two steps is what the first declares and then what the second does. -/
lemma trans (h : w₁.Declares w₂ s p) (h' : w₂.Declares w₃ s' p') :
    w₁.Declares w₃ (s ++ s') (p ++ p') where
  detector := h'.detector.trans h.detector
  event := h'.event.trans h.event
  store := h'.store.trans h.store
  holds hb := by
    rw [← List.append_assoc, ← List.append_assoc]
    exact h'.holds (h.holds hb)

/-- Declarations leave the scope as it is. -/
lemma scope_eq (h : w₁.Declares w₂ s p) : w₂.scope = w₁.scope := by
  rw [Workbench.scope, h.detector, Workbench.scope]

end Workbench.Declares

/-! ## Steps of the setup -/

section

variable {μ : Type} (i : StageId) (files : FileSystem) (m : μ) {w : Workbench}

/-- Outside of an event a stage subscribes in its own scope. -/
lemma exec_subscribeOwn (idle : w.bus.event = none) (k : Kind) (r : Requirement) :
    ∃ w', exec (SetupQuestion.answer i files) m w (SetupM.subscribeOwn k r) = ((.ok (), m), w') ∧
      w.Declares w' [⟨i, k, w.scope, r⟩] [] := by
  refine ⟨{ w with bus := w.bus.withSubscription ⟨i, k, w.scope, r⟩ }, ?_, ?_⟩
  · have answer := subscribe_of_idle idle ⟨i, k, .own (w.detector.map Sensor.Detector.name), r⟩
    simp only [SetupM.subscribeOwn, SetupM.subscribe, SetupM.ownScope, exec_bind, exec_setup_ask, exec_pure,
      SetupQuestion.answer]
    rw [answer]
    rfl
  · exact ⟨rfl, rfl, rfl, fun h => by simpa using h.subscribe _⟩

/-- Outside of an event a stage publishes in its own scope. -/
lemma exec_publish (idle : w.bus.event = none) (k : Kind) :
    ∃ w', exec (SetupQuestion.answer i files) m w (SetupM.publish k) = ((.ok (), m), w') ∧
      w.Declares w' [] [⟨i, k, w.scope⟩] := by
  have answer := publish_of_idle idle ⟨i, k, .own (w.detector.map Sensor.Detector.name)⟩
  obtain ⟨event, store⟩ := publish_frame answer
  refine ⟨{ w with bus := w.bus.withPublication ⟨i, k, w.scope⟩ }, ?_, ?_⟩
  · simp only [SetupM.publish, SetupM.ownScope, exec_bind, exec_setup_ask, exec_pure, SetupQuestion.answer]
    rw [answer]
    rfl
  · exact ⟨rfl, event, store, fun h => by simpa using h.publish _⟩

/-- Steps that each make declarations in the scope of the stage make all of these in order. -/
lemma exec_forM_declares {β : Type} (step : β → SetupM μ Unit) (subscribed : Scope → β → List Subscription)
    (published : Scope → β → List Publication)
    (each : ∀ {w : Workbench}, w.bus.event = none → ∀ x,
      ∃ w', exec (SetupQuestion.answer i files) m w (step x) = ((.ok (), m), w') ∧
        w.Declares w' (subscribed w.scope x) (published w.scope x))
    (idle : w.bus.event = none) (xs : List β) :
    ∃ w', exec (SetupQuestion.answer i files) m w (xs.forM step) = ((.ok (), m), w') ∧
      w.Declares w' (xs.flatMap (subscribed w.scope)) (xs.flatMap (published w.scope)) := by
  induction xs generalizing w with
  | nil => exact ⟨w, rfl, .refl w⟩
  | cons x rest ih =>
    obtain ⟨w₁, h₁, d₁⟩ := each idle x
    obtain ⟨w₂, h₂, d₂⟩ := ih (d₁.event.trans idle)
    rw [d₁.scope_eq] at d₂
    exact ⟨w₂, (exec_bind_ok h₁ _).trans h₂, d₁.trans d₂⟩

end

/-! ## Whole setups -/

section

variable (i : StageId) (files : FileSystem) {w : Workbench}

/-- A relay that was not told to fail declares what it takes and gives. -/
lemma Relay.exec_setUp (idle : w.bus.event = none) (ctx : SetupContext) {r : Relay}
    (quiet : r.setupFailure = none) :
    ∃ w', exec (SetupQuestion.answer i files) r w (Relay.setUp ctx) = ((.ok (), r), w') ∧
      w.Declares w' (r.takes.map fun t => ⟨i, t.1, w.scope, t.2⟩) (r.gives.map fun k => ⟨i, k, w.scope⟩) := by
  obtain ⟨w₁, h₁, d₁⟩ := exec_forM_declares i files r (fun t => SetupM.subscribeOwn t.1 t.2)
    (fun scope t => [⟨i, t.1, scope, t.2⟩]) (fun _ _ => [])
    (fun idle t => exec_subscribeOwn i files r idle t.1 t.2) idle r.takes
  obtain ⟨w₂, h₂, d₂⟩ := exec_forM_declares i files r SetupM.publish (fun _ _ => [])
    (fun scope k => [⟨i, k, scope⟩]) (fun idle k => exec_publish i files r idle k) (d₁.event.trans idle) r.gives
  refine ⟨w₂, ?_, ?_⟩
  · rw [Relay.setUp, exec_bind_ok (exec_get ..), quiet]
    exact (exec_bind_ok h₁ _).trans h₂
  · rw [d₁.scope_eq] at d₂
    have nothing : ∀ {β γ : Type} (l : List β), (l.flatMap fun _ => ([] : List γ)) = [] :=
      fun l => List.flatMap_eq_nil_iff.2 fun _ _ => rfl
    simpa [List.map_eq_flatMap, nothing] using d₁.trans d₂

/-- A relay that was told to fail declares nothing. -/
lemma Relay.exec_setUp_error (ctx : SetupContext) {r : Relay} {e : StageError} (told : r.setupFailure = some e) :
    exec (SetupQuestion.answer i files) r w (Relay.setUp ctx) = ((.error e, r), w) := by
  rw [Relay.setUp, exec_bind_ok (exec_get ..), told]
  rfl

end

end SensorSim.Stage
