import Mathlib
import SensorSim.Proofs.Run.Pass
import SensorSim.Proofs.Run.Block
import SensorSim.Proofs.Run.Site

/-!
# What events leave alone

Between two events the bus is as the setup left it, with no event in progress and no message stored:
whatever the stages do in an event, and wherever it breaks off, the declarations are kept
(`Pass.Frame.runAll`) and the rest is dropped. The detectors, the field tables and the order of the
stages are not touched by any call (`Simulation.Stays.replay`).
-/

namespace SensorSim.Run

open Bus (StageId)
open Stage (RunQuestion Program)
open Sensor (Detector)
open Files (FileSystem)

/-! ## Passes -/

section

variable {μ : Type}

/-- A stage that is put back in its place belongs to the same detector. -/
lemma map_detector_set {slots : List (Slot μ)} {i : StageId} {x : Slot μ} (hx : slots[i]? = some x) (stage : μ) :
    (slots.set i { x with stage }).map Slot.detector = slots.map Slot.detector := by
  obtain ⟨hi, rfl⟩ := List.getElem?_eq_some_iff.1 hx
  refine List.ext_getElem? fun j => ?_
  rw [List.map_set, List.getElem?_set]
  split
  · rename_i here
    rw [← here, List.length_map, if_pos hi, List.getElem?_map, hx, Option.map_some]
  · rfl

/-- Between two states of a pass nothing was declared, and the stages still belong to their
detectors. -/
structure Pass.Frame (p p' : Pass μ) : Prop where
  subscriptions : p'.bus.subscriptions = p.bus.subscriptions
  publications : p'.bus.publications = p.bus.publications
  owners : p'.slots.map Slot.detector = p.slots.map Slot.detector

namespace Pass.Frame

variable {p p' p'' : Pass μ}

lemma refl (p : Pass μ) : Frame p p :=
  ⟨rfl, rfl, rfl⟩

/-- What is kept between two states and between the later and a third is kept between the first and
the third. -/
lemma trans (h : Frame p p') (h' : Frame p' p'') : Frame p p'' :=
  ⟨h'.subscriptions.trans h.subscriptions, h'.publications.trans h.publications, h'.owners.trans h.owners⟩

variable [Stage μ] (detectors : List Detector) (event : Nat)

/-- A stage declares nothing in its turn. -/
lemma runStage (p : Pass μ) (i : StageId) : Frame p (p.runStage detectors event i).2 := by
  cases hx : p.slots[i]? with
  | none =>
    rw [Pass.runStage, hx]
    exact refl p
  | some x =>
    by_cases there : ∀ name, x.detector = some name → ∃ d, findDetector? detectors name = some d
    · obtain ⟨subscriptions, publications⟩ := run_frame i (Stage.run (x.context detectors event i) x.stage) p.bus
      rcases run : Program.run (RunQuestion.answer i) (Stage.run (x.context detectors event i) x.stage) p.bus with
        ⟨⟨outcome, stage⟩, bus⟩
      rw [run] at subscriptions publications
      rw [runStage_eq hx there run]
      exact ⟨subscriptions, publications, map_detector_set hx stage⟩
    · push Not at there
      obtain ⟨name, own, missing⟩ := there
      have gone : findDetector? detectors name = none := Option.eq_none_iff_forall_ne_some.2 missing
      rw [Pass.runStage, hx]
      simp only [own, Option.bind_some, gone]
      exact refl p

/-- However far a pass gets, it declares nothing. -/
lemma runAll (p : Pass μ) (order : List StageId) : Frame p (p.runAll detectors event order).2 := by
  induction order generalizing p with
  | nil => exact refl p
  | cons i rest ih =>
    have step := runStage detectors event p i
    rw [Pass.runAll]
    split
    · rename_i next run
      rw [run] at step
      exact step.trans (ih next)
    · rename_i run
      rw [run] at step
      exact step

end Pass.Frame

/-! ## Simulations -/

namespace Simulation

/-- A simulation is between two events, and what was set up is as it was. -/
structure Stays (s t : Simulation μ) : Prop where
  bus : t.bus = s.bus
  detectors : t.detectors = s.detectors
  tables : t.tables = s.tables
  order : t.order = s.order
  owners : t.slots.map Slot.detector = s.slots.map Slot.detector

lemma Stays.refl (s : Simulation μ) : Stays s s :=
  ⟨rfl, rfl, rfl, rfl, rfl⟩

variable [Stage μ]

/-- An event leaves the field tables as they are and closes nothing. -/
lemma runEvent_frame (s : Simulation μ) :
    s.runEvent.2.tables = s.tables ∧ s.runEvent.2.closed = s.closed := by
  unfold runEvent
  dsimp only
  split <;> exact ⟨rfl, rfl⟩

/-- An event drops its messages, so a bus that was idle and empty is so again. -/
lemma bus_runEvent {s : Simulation μ} (idle : s.bus.event = none ∧ s.bus.store = []) : s.runEvent.2.bus = s.bus := by
  have kept := Pass.Frame.runAll s.detectors s.nextEvent s.start s.order
  rw [s.runEvent_snd.2.1, Bus.endEvent]
  obtain ⟨subscriptions, publications, -⟩ := kept
  show Bus.mk s.pass.2.bus.subscriptions s.pass.2.bus.publications none [] = s.bus
  rw [show s.pass.2.bus.subscriptions = s.bus.subscriptions from subscriptions,
    show s.pass.2.bus.publications = s.bus.publications from publications, ← idle.1, ← idle.2]

namespace Stays

variable {s t : Simulation μ}

/-- An event leaves what was set up as it was. -/
lemma runEvent (idle : s.bus.event = none ∧ s.bus.store = []) (h : Stays s t) : Stays s t.runEvent.2 := by
  obtain ⟨slots, -, detectors, order⟩ := t.runEvent_snd
  refine ⟨?_, detectors.trans h.detectors, t.runEvent_frame.1.trans h.tables, order.trans h.order, ?_⟩
  · rw [bus_runEvent (h.bus ▸ idle), h.bus]
  · rw [slots, ← h.owners]
    exact (Pass.Frame.runAll t.detectors t.nextEvent t.start t.order).owners

/-- Closing a stage leaves what was set up as it was. -/
lemma closeStage (h : Stays s t) (i : StageId) : Stays s (t.closeStage i).2 := by
  rcases t.closeStage_cases i with same | ⟨x, journal, hx, put⟩
  · rw [same]
    exact h
  · rw [put]
    exact ⟨h.bus, h.detectors, h.tables, h.order, (map_detector_set hx _).trans h.owners⟩

/-- Whatever is called, what was set up stays as it was. -/
lemma replay (idle : s.bus.event = none ∧ s.bus.store = []) (calls : List Call) : Stays s (s.replay calls) := by
  have kept : Invariant (Stays s) :=
    { runEvent := fun _ h => h.runEvent idle
      closeStage := fun _ i h => h.closeStage i
      shut := fun _ h => ⟨h.bus, h.detectors, h.tables, h.order, h.owners⟩ }
  exact kept.replay (refl s) calls

end Stays

/-- Whatever is called on the simulation of a plan, what was set up stays as it was. -/
lemma stays_of_ofPlan {files : FileSystem} {p : Plan μ} {s : Simulation μ} (accepted : ofPlan files p = .ok s)
    (calls : List Call) : Stays s (s.replay calls) :=
  Stays.replay (sound_of_ofPlan accepted).1.declared.idle calls

/-- Once a plan is set up, the bus is idle and empty. Whatever the stages do in an event and
whatever was called before it, and whether the event succeeds or breaks off in one of them,
afterwards the bus is just as the setup left it. The detectors with their fields, the field tables
and the order are those of the setup as well, and it stays as it is whether the stages were closed.
The number of the event is used up, and an event counts as completed exactly when it succeeds. -/
theorem runEvent_restores (files : FileSystem) (p : Plan μ) (s : Simulation μ)
    (accepted : Simulation.ofPlan files p = .ok s) :
    (s.bus.event = none ∧ s.bus.store = []) ∧
    ∀ calls t, s.replay calls = t →
      t.runEvent.2.bus = s.bus ∧
      (t.runEvent.2.detectors = t.detectors ∧ t.detectors = s.detectors) ∧
      (t.runEvent.2.tables = t.tables ∧ t.tables = s.tables) ∧
      (t.runEvent.2.order = t.order ∧ t.order = s.order) ∧
      t.runEvent.2.closed = t.closed ∧
      t.runEvent.2.nextEvent = t.nextEvent + 1 ∧
      t.runEvent.2.completed = t.completed + (if t.runEvent.1.isOk then 1 else 0) := by
  have idle := (sound_of_ofPlan accepted).1.declared.idle
  refine ⟨idle, ?_⟩
  rintro calls t rfl
  have before := stays_of_ofPlan accepted calls
  obtain ⟨-, -, detectors, order⟩ := (s.replay calls).runEvent_snd
  obtain ⟨tables, closed⟩ := (s.replay calls).runEvent_frame
  refine ⟨(before.runEvent idle).bus, ⟨detectors, before.detectors⟩, ⟨tables, before.tables⟩, ⟨order, before.order⟩,
    closed, nextEvent_runEvent _, ?_⟩
  rw [(s.replay calls).runEvent_counts.1, List.countP_singleton]

end Simulation

end

/-- A stage that gives deposits, and one that takes them and fails in the first event. -/
def jammedChain : Plan Stage.Standard where
  detectors := []
  members :=
    [⟨.relay { name := "source", gives := [.deposited] }, default⟩,
      ⟨.relay
        { name := "sink", takes := [(.deposited, .required)], failures := [(1, .nonRecoverable "jam")] }, default⟩]

/-- The first event breaks off after a message was dispatched, which is gone afterwards, and the
second succeeds. -/
theorem runEvent_restores_jammedChain :
    ∃ s, Simulation.ofPlan .empty jammedChain = .ok s ∧
      s.runEvent.1 = .error ⟨1, "sink", none, .nonRecoverable "jam"⟩ ∧ s.runEvent.2.metrics.messages = 1 ∧
      s.runEvent.2.bus = s.bus ∧ s.bus.store = [] ∧ s.runEvent.2.completed = s.completed ∧
      s.runEvent.2.runEvent.2.completed = s.runEvent.2.completed + 1 := by
  have runs : (Simulation.ofPlan .empty jammedChain).toOption.map
      (fun s => (s.runEvent.1, s.runEvent.2.metrics.messages, s.runEvent.2.runEvent.1.isOk)) =
      some (.error ⟨1, "sink", none, .nonRecoverable "jam"⟩, 1, true) := by
    decide +kernel
  obtain ⟨s, accepted, shown⟩ := toOption_map_eq_some_iff.1 runs
  obtain ⟨first, rest⟩ := Prod.mk.inj shown
  obtain ⟨messages, second⟩ := Prod.mk.inj rest
  obtain ⟨⟨-, empty⟩, frame⟩ := Simulation.runEvent_restores .empty jammedChain s accepted
  obtain ⟨bus, -, -, -, -, -, completed⟩ := frame [] s rfl
  obtain ⟨-, -, -, -, -, -, later⟩ := frame [.runEvent] s.runEvent.2 rfl
  rw [first] at completed
  rw [second] at later
  exact ⟨s, accepted, first, messages, bus, empty, completed, later⟩

end SensorSim.Run
