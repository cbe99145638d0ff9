import Mathlib
import SensorSim.Proofs.Run.History
import SensorSim.Proofs.Stage.Charge

/-!
# Events that are completed

On detectors with all fields no stage fails for a reason of its own. So a feasible event is
completed there, whatever the stages are (`Standing.completes`).
-/

namespace SensorSim.Run

open Bus (StageId Entry Scope Message)
open Stage (Standard)
open Sensor (Detector)

/-! ## Passes on furnished detectors -/

/-- The detectors of the stages have all fields. -/
def Furnished (detectors : List Detector) (stages : List Standard) : Prop :=
  ∀ s ∈ stages, ∀ d, (Stage.detector? s).bind (findDetector? detectors) = some d → ∀ k, d.has k

/-- A pass of an event in which the messages stored are those expected, up to their records. -/
structure Expected (stages : List Standard) (event : Nat) (store : List Entry) (p : Pass Standard) : Prop where
  slots : SlotsOf stages p.slots
  event : p.bus.event = some event
  holds : Standard.HeldBy stages p.bus
  labels : p.bus.store.map Entry.label = store.map Entry.label

section

variable {detectors : List Detector} {stages : List Standard} {event : Nat} {store store' : List Entry}

/-- A stage works on messages whatever their records are. -/
lemma Works.congr {s : Standard} {i : StageId} (w : Works s store i event)
    (same : store'.map Entry.label = store.map Entry.label) : Works s store' i event where
  silent := w.silent
  served k hk := by
    obtain ⟨e, he, kind, scopes⟩ := w.served k hk
    have labelled := List.mem_map_of_mem (f := Entry.label) he
    rw [← same] at labelled
    obtain ⟨e', he', label⟩ := List.mem_map.1 labelled
    obtain ⟨-, label⟩ := Prod.mk.inj label
    obtain ⟨kind', detector⟩ := Prod.mk.inj label
    refine ⟨e', he', kind'.trans kind, ?_⟩
    rw [detector]
    exact scopes
  free := by
    apply w.free.congr
    rw [List.map_append, List.map_append, same]

variable {p : Pass Standard}

/-- A stage that can work in an event succeeds in its turn, and what is stored stays as expected. -/
lemma Expected.runStage (bound : Bound detectors stages) (furnished : Furnished detectors stages)
    (w : Expected stages event store p) {i : StageId} {s : Standard} (hs : stages[i]? = some s)
    (works : Works s store i event) :
    ∃ p', p.runStage detectors event i = (.ok (), p') ∧ Expected stages event (store ++ s.sent i event) p' := by
  obtain ⟨x, hx, same, own, there, whose⟩ := w.slots.exists_bound bound hs
  have hm := List.mem_of_getElem? hs
  obtain ⟨takes, -, -, detector, -⟩ := Standard.congr_fresh same
  have fields : ∀ d, (x.context detectors event i).detector = some d → ∀ k, d.has k := by
    intro d here
    apply furnished s hm d
    rw [← own]
    exact here
  have stored := works.congr w.labels
  have free := (List.pairwise_append.1 stored.free).1
  obtain ⟨through, sent⟩ := runsThrough_congr event same p.bus i
  have fed := through.2 ((runsThrough_iff event w.holds hs).2 stored)
  have visible : ∀ d, (x.context detectors event i).detector = some d → ∀ k, (k, .required) ∈ x.stage.takes →
      ∃ e ∈ p.bus.store, e.message.kind = k ∧ e.message.visibleTo d.name := by
    intro d here k hk
    rw [takes] at hk
    obtain ⟨e, he, kind, scopes⟩ := stored.served k hk
    have named := congrArg (Option.map Detector.name) here
    rw [Slot.detector_context, whose, detector, Option.map_some] at named
    rw [Standard.ownScope, named, Scope.own_overlaps_some] at scopes
    exact ⟨e, he, kind, Message.visibleTo_iff.2 scopes⟩
  obtain ⟨stage, given, run, labels⟩ := Stage.run_of_runsThrough _ whose fields w.event free fed visible
  have again := (Stage.exists_signed (x.context detectors event i) whose i w.event).1
  rw [run] at again
  refine ⟨_, runStage_eq hx there run, ?_⟩
  refine { slots := w.slots.set hx again, event := w.event, holds := w.holds.congr rfl rfl, labels := ?_ }
  show (p.bus.store ++ given).map Entry.label = _
  rw [List.map_append, List.map_append, labels, w.labels, Slot.event_context, sent]

/-- Where all stages work in turn on the expected messages, a pass succeeds, and gives the expected
ones. -/
lemma Expected.runAll (bound : Bound detectors stages) (furnished : Furnished detectors stages)
    (w : Expected stages event store p) {order : List StageId} (known : ∀ i ∈ order, i < stages.length)
    (through : Through stages event store order) :
    ∃ p', p.runAll detectors event order = (.ok (), p') ∧
      Expected stages event (store ++ order.flatMap (sentBy stages event)) p' := by
  induction order generalizing p store with
  | nil =>
    refine ⟨p, rfl, ?_⟩
    rw [List.flatMap_nil, List.append_nil]
    exact w
  | cons i rest ih =>
    obtain ⟨s, hs⟩ : ∃ s, stages[i]? = some s :=
      ⟨_, List.getElem?_eq_getElem (known i (List.mem_cons_self ..))⟩
    obtain ⟨works, later⟩ := through s hs
    obtain ⟨p₁, first, w₁⟩ := w.runStage bound furnished hs works
    obtain ⟨p₂, run, w₂⟩ := ih w₁ (fun j hj => known j (List.mem_cons_of_mem _ hj)) later
    refine ⟨p₂, ?_, ?_⟩
    · rw [Pass.runAll, first]
      exact run
    · rw [List.append_assoc] at w₂
      rw [List.flatMap_cons, sentBy_eq hs]
      exact w₂

end

/-! ## Events on furnished detectors -/

section

variable {stages : List Standard} {respected : Bus.Requirement → Prop} {s : Simulation Standard}

/-- On detectors with all fields a feasible event is completed. What is dispatched in it are the
messages that the stages give, up to their records. -/
lemma Standing.completes (w : Standing stages respected s) (required : respected .required)
    (furnished : Furnished s.detectors stages) (feasible : Feasible stages s.nextEvent) :
    ∃ metrics, s.runEvent.1 = .ok metrics ∧ metrics.messages = s.dispatched.length ∧
      s.dispatched.map Entry.label = (s.order.flatMap (sentBy stages s.nextEvent)).map Entry.label := by
  have start : Expected stages s.nextEvent [] s.start := ⟨w.slots, rfl, w.holds.congr rfl rfl, rfl⟩
  have through := (through_iff_feasible (w.needs required)).2 feasible
  obtain ⟨p, run, done⟩ := start.runAll w.bound furnished w.known through
  have store := w.store_pass
  have fst := s.runEvent_fst
  rw [Simulation.pass, run] at store fst
  refine ⟨_, fst, ?_, ?_⟩
  · rw [← store]
    rfl
  · rw [← store]
    exact done.labels

end

end SensorSim.Run
