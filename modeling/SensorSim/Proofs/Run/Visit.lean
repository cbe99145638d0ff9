import Mathlib
import SensorSim.Proofs.Run.Validity

/-!
# The stages that are visited in an event

In an event the stages are visited in order until one fails. `Pass.Visits` says which stages are,
with what each finds and leaves, and every event of a simulation is such a pass
(`Simulation.exists_visits`). What is kept of the event, the names of the stages, the number of
messages and the failure, is read off the visits.
-/

namespace SensorSim

open Bus (StageId)

namespace Stage

/-! ## What a program is told -/

section

variable {Q : Type} {Reply : Q → Type} {α σ : Type}

/-- The questions that a program asks in order, each with its reply. -/
def Program.dialogue (handle : (q : Q) → σ → Reply q × σ) : Program Q Reply α → σ → List ((q : Q) × Reply q)
  | done _, _ => []
  | ask q next, s => ⟨q, (handle q s).1⟩ :: dialogue handle (next (handle q s).1) (handle q s).2

end

/-- A message was to be dispatched, and it was. -/
def RunQuestion.isSent : (q : RunQuestion) × q.Reply → Bool
  | ⟨.dispatch _, reply⟩ => Except.isOk (reply : Except Bus.BusError Bus.Message)
  | ⟨.fetch .., _⟩ | ⟨.fetchAll _, _⟩ => false

/-- The messages on the bus are more by those that a program dispatched. -/
lemma count_run {α : Type} (i : StageId) (p : Run α) (b : Bus) :
    (Program.run (RunQuestion.answer i) p b).2.count =
      b.count + (p.dialogue (RunQuestion.answer i) b).countP RunQuestion.isSent := by
  induction p generalizing b with
  | done a => rfl
  | ask q next ih =>
    rw [Program.run, Program.dialogue, ih, List.countP_cons, Nat.add_comm (List.countP ..), ← Nat.add_assoc]
    refine congrArg (· + _) ?_
    cases q with
    | fetch kind d => rfl
    | fetchAll kind => rfl
    | dispatch m =>
      rw [RunQuestion.answer]
      cases sent : b.dispatch i m with
      | error e => rfl
      | ok result =>
        obtain ⟨m', b'⟩ := result
        obtain ⟨event, -, -, -, rfl⟩ := Bus.dispatch_eq_ok_iff.1 sent
        exact List.length_append

end Stage

namespace Run

open Stage (StageError RunContext RunQuestion Program)
open Sensor (Detector)
open Files (FileSystem)

/-! ## Visits -/

/-- A stage is visited: what it is told, the slot that it stands in, and the bus as it finds it. -/
structure Visit (μ : Type) where
  context : RunContext
  slot : Slot μ
  bus : Bus

variable {μ : Type} [Stage μ]

namespace Visit

variable (v : Visit μ)

/-- What the stage does. -/
def program : Stage.Run (Except StageError Unit × μ) :=
  Stage.run v.context v.slot.stage

/-- What comes of it: the outcome, the stage afterwards, and the bus as it leaves it. -/
def result : (Except StageError Unit × μ) × Bus :=
  Program.run (RunQuestion.answer v.context.stage) v.program v.bus

def id : StageId :=
  v.context.stage

def outcome : Except StageError Unit :=
  v.result.1.1

/-- The slot afterwards. -/
def left : Slot μ :=
  { v.slot with stage := v.result.1.2 }

def name : String :=
  Stage.name v.left.stage

/-- The number of messages that the stage dispatched. -/
def sent : Nat :=
  (v.program.dialogue (RunQuestion.answer v.context.stage) v.bus).countP RunQuestion.isSent

/-- The failure of an event for this cause in this stage. -/
def failure (cause : StageError) : EventError :=
  ⟨v.context.event, v.name, v.slot.detector, cause⟩

end Visit

namespace Pass

/-- The visit of the stage in a slot. -/
def visit (detectors : List Detector) (event : Nat) (i : StageId) (x : Slot μ) (p : Pass μ) : Visit μ where
  context := x.context detectors event i
  slot := x
  bus := p.bus

/-- The pass after a visit. -/
def leave (p : Pass μ) (v : Visit μ) : Pass μ where
  slots := p.slots.set v.id v.left
  bus := v.result.2
  ran := p.ran ++ [v.name]

/-- A pass through stages in order visits these stages, with this outcome and this end: each stands
in its slot and its detector is there; the pass goes on while they succeed, and ends with the first
that fails. -/
inductive Visits (detectors : List Detector) (event : Nat) :
    List StageId → Pass μ → List (Visit μ) → Except EventError Unit → Pass μ → Prop
  | done (p : Pass μ) : Visits detectors event [] p [] (.ok ()) p
  | goes {i : StageId} {rest : List StageId} {p p' : Pass μ} {x : Slot μ} {vs : List (Visit μ)}
      {outcome : Except EventError Unit} (here : p.slots[i]? = some x)
      (there : ∀ name, x.detector = some name → ∃ d, findDetector? detectors name = some d)
      (succeeds : (p.visit detectors event i x).outcome = .ok ())
      (next : Visits detectors event rest (p.leave (p.visit detectors event i x)) vs outcome p') :
      Visits detectors event (i :: rest) p (p.visit detectors event i x :: vs) outcome p'
  | fails {i : StageId} {rest : List StageId} {p : Pass μ} {x : Slot μ} {cause : StageError}
      (here : p.slots[i]? = some x)
      (there : ∀ name, x.detector = some name → ∃ d, findDetector? detectors name = some d)
      (failed : (p.visit detectors event i x).outcome = .error cause) :
      Visits detectors event (i :: rest) p [p.visit detectors event i x]
        (.error ((p.visit detectors event i x).failure cause)) (p.leave (p.visit detectors event i x))

variable {detectors : List Detector} {event : Nat} {order : List StageId} {p p' : Pass μ}

/-- The turn of a stage whose detector is there is its visit. -/
lemma runStage_eq_visit {i : StageId} {x : Slot μ} (here : p.slots[i]? = some x)
    (there : ∀ name, x.detector = some name → ∃ d, findDetector? detectors name = some d) :
    p.runStage detectors event i =
      ((p.visit detectors event i x).outcome.mapError (p.visit detectors event i x).failure,
        p.leave (p.visit detectors event i x)) :=
  runStage_eq here there rfl

/-- Where all stages stand in their slots and their detectors are there, a pass has its visits. -/
lemma exists_visits (known : ∀ i ∈ order, ∃ owner, (p.slots.map Slot.detector)[i]? = some owner ∧
      ∀ name, owner = some name → ∃ d, findDetector? detectors name = some d) :
    ∃ vs, Visits detectors event order p vs (p.runAll detectors event order).1
      (p.runAll detectors event order).2 := by
  induction order generalizing p with
  | nil => exact ⟨[], .done p⟩
  | cons i rest ih =>
    obtain ⟨⟨owner, hx, there⟩, known⟩ := List.forall_mem_cons.1 known
    rw [List.getElem?_map, Option.map_eq_some_iff] at hx
    obtain ⟨x, here, rfl⟩ := hx
    have turn : p.runStage detectors event i = _ := runStage_eq_visit here there
    rw [runAll, turn]
    cases outcome : (p.visit detectors event i x).outcome with
    | error cause => exact ⟨_, .fails here there outcome⟩
    | ok done =>
      have owners := (Frame.runStage detectors event p i).owners
      rw [turn] at owners
      obtain ⟨vs, next⟩ := ih (p := p.leave (p.visit detectors event i x)) (owners ▸ known)
      exact ⟨_, .goes here there outcome next⟩

section

variable {vs : List (Visit μ)} {outcome : Except EventError Unit}

/-- The stages that are visited are the first ones of the order: all of it, where the pass succeeds,
and else those up to one that fails, whose failure is that of the pass. All others succeed. -/
lemma Visits.cases (h : Visits detectors event order p vs outcome p') :
    (outcome = .ok () ∧ vs.map Visit.id = order ∧ ∀ v ∈ vs, v.outcome = .ok ()) ∨
    ∃ front v cause, vs = front ++ [v] ∧ outcome = .error (v.failure cause) ∧ vs.map Visit.id <+: order ∧
      (∀ u ∈ front, u.outcome = .ok ()) ∧ v.outcome = .error cause := by
  induction h with
  | done p => exact .inl ⟨rfl, rfl, List.forall_mem_nil _⟩
  | goes here there succeeds next ih =>
    rcases ih with ⟨whole, stages, all⟩ | ⟨front, v, cause, rfl, broken, stages, all, failed⟩
    · refine .inl ⟨whole, ?_, ?_⟩
      · rw [List.map_cons, stages]
        rfl
      · rw [List.forall_mem_cons]
        exact ⟨succeeds, all⟩
    · refine .inr ⟨_ :: front, v, cause, rfl, broken, ?_, ?_, failed⟩
      · exact (List.prefix_cons_inj _).2 stages
      · rw [List.forall_mem_cons]
        exact ⟨succeeds, all⟩
  | fails here there failed => exact .inr ⟨[], _, _, rfl, rfl, ⟨_, rfl⟩, List.forall_mem_nil _, failed⟩

/-- A visit is one in the event of the pass. -/
lemma Visits.event_eq (h : Visits detectors event order p vs outcome p') : ∀ v ∈ vs, v.context.event = event := by
  induction h with
  | done p => exact List.forall_mem_nil _
  | goes here there succeeds next ih =>
    rw [List.forall_mem_cons]
    exact ⟨rfl, ih⟩
  | fails here there failed =>
    rw [List.forall_mem_singleton]
    rfl

/-- A pass notes the names of the stages that it visits. -/
lemma Visits.ran_eq (h : Visits detectors event order p vs outcome p') : p'.ran = p.ran ++ vs.map Visit.name := by
  induction h with
  | done p => exact (List.append_nil _).symm
  | goes here there succeeds next ih =>
    rw [ih, leave, List.append_assoc]
    rfl
  | fails here there failed => rfl

/-- The messages on the bus are more by those that the visited stages dispatched. -/
lemma Visits.count_eq (h : Visits detectors event order p vs outcome p') :
    p'.bus.count = p.bus.count + (vs.map Visit.sent).sum := by
  have one : ∀ (p : Pass μ) i x, (p.leave (p.visit detectors event i x)).bus.count =
      p.bus.count + (p.visit detectors event i x).sent := fun p i x => Stage.count_run i _ p.bus
  induction h with
  | done p => rfl
  | goes here there succeeds next ih => rw [ih, one, List.map_cons, List.sum_cons, Nat.add_assoc]
  | fails here there failed => rw [one, List.map_singleton, List.sum_singleton]

/-- Stages are visited in the order, however far the pass gets. -/
lemma Visits.stages_prefix (h : Visits detectors event order p vs outcome p') : vs.map Visit.id <+: order := by
  rcases h.cases with ⟨-, stages, -⟩ | ⟨front, v, cause, -, -, stages, -⟩
  · exact ⟨[], by rw [stages, List.append_nil]⟩
  · exact stages

/-- The stage in a place is visited exactly when those in front of it succeed. -/
lemma Visits.mem_stages_iff (h : Visits detectors event order p vs outcome p') {i : StageId} :
    i ∈ vs.map Visit.id ↔
      ∃ front rest, order = front ++ i :: rest ∧ (p.runAll detectors event front).1 = .ok () := by
  induction h with
  | done p => simp
  | @goes j rest p p' x vs outcome here there succeeds next ih =>
    -- A pass that gets past the first stage is the pass of the others.
    have onward : ∀ front, p.runAll detectors event (j :: front) =
        (p.leave (p.visit detectors event j x)).runAll detectors event front := by
      intro front
      rw [runAll, runStage_eq_visit here there, succeeds]
      rfl
    rw [List.map_cons, List.mem_cons, ih]
    refine ⟨?_, ?_⟩
    · rintro (rfl | ⟨front, back, rfl, ok⟩)
      · exact ⟨[], rest, rfl, rfl⟩
      · exact ⟨j :: front, back, rfl, by rw [onward, ok]⟩
    · rintro ⟨front, back, split, ok⟩
      cases front with
      | nil =>
        cases split
        exact .inl rfl
      | cons k front =>
        cases split
        rw [onward] at ok
        exact .inr ⟨front, back, rfl, ok⟩
  | @fails j rest p x cause here there failed =>
    rw [List.map_singleton, List.mem_singleton]
    refine ⟨?_, ?_⟩
    · rintro rfl
      exact ⟨[], rest, rfl, rfl⟩
    · rintro ⟨front, back, split, ok⟩
      cases front with
      | nil =>
        cases split
        rfl
      | cons k front =>
        cases split
        rw [runAll, runStage_eq_visit here there, failed] at ok
        cases ok

/-- Stages that are not visited stay as they are. -/
lemma Visits.slots_of_notMem (h : Visits detectors event order p vs outcome p') {i : StageId}
    (away : i ∉ vs.map Visit.id) : p'.slots[i]? = p.slots[i]? := by
  have one : ∀ (p : Pass μ) (v : Visit μ), i ≠ v.id → (p.leave v).slots[i]? = p.slots[i]? :=
    fun p v other => List.getElem?_set_ne other.symm
  induction h with
  | done p => rfl
  | goes here there succeeds next ih =>
    rw [List.map_cons, List.mem_cons, not_or] at away
    exact (ih away.2).trans (one _ _ away.1)
  | fails here there failed =>
    rw [List.map_singleton, List.mem_singleton] at away
    exact one _ _ away

/-- A stage is visited as it stands in its slot, and stays there as its visit leaves it. -/
lemma Visits.slots_of_mem (h : Visits detectors event order p vs outcome p') (once : order.Nodup) :
    ∀ v ∈ vs, p.slots[v.id]? = some v.slot ∧ p'.slots[v.id]? = some v.left := by
  have one : ∀ (p : Pass μ) j x, p.slots[j]? = some x →
      (p.leave (p.visit detectors event j x)).slots[j]? = some (p.visit detectors event j x).left := by
    intro p j x here
    exact List.getElem?_set_self (List.getElem?_eq_some_iff.1 here).1
  induction h with
  | done p => exact List.forall_mem_nil _
  | @goes j rest p p' x vs outcome here there succeeds next ih =>
    obtain ⟨new, once⟩ := List.nodup_cons.1 once
    have later : ∀ u ∈ vs, u.id ≠ j := by
      rintro u hu rfl
      exact new (next.stages_prefix.subset (List.mem_map_of_mem hu))
    rw [List.forall_mem_cons]
    refine ⟨⟨here, ?_⟩, fun u hu => ?_⟩
    · have away : j ∉ vs.map Visit.id := by
        intro again
        obtain ⟨u, hu, same⟩ := List.mem_map.1 again
        exact later u hu same
      exact (next.slots_of_notMem away).trans (one p j x here)
    · obtain ⟨found, left⟩ := ih once u hu
      refine ⟨?_, left⟩
      rw [← found]
      exact (List.getElem?_set_ne (later u hu).symm).symm
  | fails here there failed =>
    rw [List.forall_mem_singleton]
    exact ⟨here, one _ _ _ here⟩

end

end Pass

/-! ## Events -/

namespace Simulation

variable (t : Simulation μ)

/-- The next event visits these stages. -/
def Visits (vs : List (Visit μ)) : Prop :=
  t.start.Visits t.detectors t.nextEvent t.order vs t.pass.1 t.pass.2

/-- In the next event all stages in front of one succeed, so that its turn comes. -/
def ComesTo (i : StageId) : Prop :=
  ∃ front rest, t.order = front ++ i :: rest ∧ (t.start.runAll t.detectors t.nextEvent front).1 = .ok ()

/-- The metrics are of the last event: the stages that ran in it, and the messages dispatched. -/
lemma metrics_runEvent : t.runEvent.2.metrics = { stages := t.pass.2.ran, messages := t.pass.2.bus.count } := by
  unfold runEvent pass start
  dsimp only
  split <;> rfl

variable {t} {files : FileSystem} {p : Plan μ} {s : Simulation μ}

/-- Once a plan is set up, an event visits stages whatever was called before, none of them twice. -/
lemma exists_visits (accepted : ofPlan files p = .ok s) (calls : List Call) :
    (∃ vs, (s.replay calls).Visits vs) ∧ (s.replay calls).order.Nodup := by
  obtain ⟨sound, -⟩ := sound_of_ofPlan accepted
  have valid := validate_of_ofPlan accepted
  have stays := stays_of_ofPlan accepted calls
  refine ⟨Pass.exists_visits fun i hi => ?_, ?_⟩
  · rw [stays.order, (order_perm_of_ofPlan accepted).mem_iff, List.mem_range] at hi
    show ∃ owner, ((s.replay calls).slots.map Slot.detector)[i]? = some owner ∧ _
    rw [stays.owners_eq sound, List.getElem?_map, List.getElem?_eq_getElem hi]
    refine ⟨_, rfl, fun name own => ?_⟩
    exact stays.exists_findDetector? valid sound (List.getElem_mem hi) own
  · rw [stays.order]
    exact nodup_order_of_ofPlan accepted

/-- What is kept of an event is read off its visits. -/
lemma Visits.runEvent {vs : List (Visit μ)} (h : t.Visits vs) (once : t.order.Nodup) :
    (vs.map Visit.id).Nodup ∧ vs.map Visit.id <+: t.order ∧
    ((t.runEvent.1 = .ok t.runEvent.2.metrics ∧ vs.map Visit.id = t.order ∧ ∀ v ∈ vs, v.outcome = .ok ()) ∨
      ∃ front v cause, vs = front ++ [v] ∧ (∀ u ∈ front, u.outcome = .ok ()) ∧ v.outcome = .error cause ∧
        t.runEvent.1 = .error ⟨t.nextEvent, v.name, v.slot.detector, cause⟩) ∧
    t.runEvent.2.metrics = { stages := vs.map Visit.name, messages := (vs.map Visit.sent).sum } := by
  have metrics : t.runEvent.2.metrics = { stages := vs.map Visit.name, messages := (vs.map Visit.sent).sum } := by
    rw [t.metrics_runEvent, Pass.Visits.ran_eq h, Pass.Visits.count_eq h]
    exact congrArg (EventMetrics.mk _) (Nat.zero_add _)
  refine ⟨(Pass.Visits.stages_prefix h).sublist.nodup once, Pass.Visits.stages_prefix h, ?_, metrics⟩
  rcases Pass.Visits.cases h with ⟨whole, stages, all⟩ | ⟨front, v, cause, split, broken, -, all, failed⟩
  · refine .inl ⟨?_, stages, all⟩
    rw [runEvent_fst, whole, metrics_runEvent]
    rfl
  · refine .inr ⟨front, v, cause, split, all, failed, ?_⟩
    have event : v.context.event = t.nextEvent := by
      apply Pass.Visits.event_eq h
      rw [split]
      exact List.mem_append_right _ (List.mem_singleton_self v)
    rw [runEvent_fst, broken, ← event]
    rfl

/-- A stage stands in its slot as its visit leaves it, and as it was where it was not visited. -/
lemma Visits.slots {vs : List (Visit μ)} (h : t.Visits vs) (once : t.order.Nodup) :
    (∀ v ∈ vs, t.slots[v.id]? = some v.slot ∧ t.runEvent.2.slots[v.id]? = some v.left) ∧
    (∀ i ∉ vs.map Visit.id, t.runEvent.2.slots[i]? = t.slots[i]?) ∧ ∀ i, i ∈ vs.map Visit.id ↔ t.ComesTo i := by
  rw [t.runEvent_snd.1]
  exact ⟨Pass.Visits.slots_of_mem h once, fun i => Pass.Visits.slots_of_notMem h, fun i => Pass.Visits.mem_stages_iff h⟩

end Simulation

end Run

end SensorSim
