import Mathlib
import SensorSim.Run.Simulation
import SensorSim.Proofs.Stage.Delivery

/-!
# A pass through relays and recorders

In an event the stages run in order until one fails. A pass never changes what the stages declare
and do, nor what was declared on the bus, and it succeeds exactly when every stage in turn works on
the messages of those before it (`runAll_of_underway`).
-/

namespace SensorSim

open Bus (StageId Entry Free)

namespace Run

open Stage (Standard RunQuestion Program)
open Sensor (Detector)

/-! ## Detectors -/

/-- The detector that is found by a name has the name. -/
lemma findDetector?_name {detectors : List Detector} {name : String} {d : Detector}
    (h : findDetector? detectors name = some d) : d.name = name := by
  have found := List.find?_some h
  simpa using found

/-- Every stage belongs to one of the detectors or to none. -/
def Bound (detectors : List Detector) (stages : List Standard) : Prop :=
  ∀ s ∈ stages, ∀ name, Stage.detector? s = some name → ∃ d, findDetector? detectors name = some d

/-- The detector that a bound stage is given is the one that it belongs to. -/
lemma Bound.own {detectors : List Detector} {stages : List Standard} (bound : Bound detectors stages)
    {s : Standard} (hs : s ∈ stages) :
    ((Stage.detector? s).bind (findDetector? detectors)).map Detector.name = Stage.detector? s := by
  cases h : Stage.detector? s with
  | none => rfl
  | some name =>
    obtain ⟨d, hd⟩ := bound s hs name h
    rw [Option.bind_some, hd, Option.map_some, findDetector?_name hd]

/-! ## Slots -/

/-- The slots hold these stages, up to what the stages noted of their calls. -/
def SlotsOf (stages : List Standard) (slots : List (Slot Standard)) : Prop :=
  slots.map (fun x => (x.stage.fresh, x.detector)) = stages.map fun s => (s.fresh, Stage.detector? s)

namespace SlotsOf

variable {stages : List Standard} {slots : List (Slot Standard)} {i : StageId}

/-- A stage stands in its slot, up to what it noted, with its detector. -/
lemma exists_slot (h : SlotsOf stages slots) {s : Standard} (hs : stages[i]? = some s) :
    ∃ x, slots[i]? = some x ∧ x.stage.fresh = s.fresh ∧ x.detector = Stage.detector? s := by
  have same := congrArg (fun l => l[i]?) h
  simp only [List.getElem?_map, hs, Option.map_some, Option.map_eq_some_iff, Prod.mk.injEq] at same
  exact same

/-- Where the detectors are there, the one that is found for the slot is that of the stage in it. -/
lemma exists_bound (h : SlotsOf stages slots) {detectors : List Detector} (bound : Bound detectors stages)
    {s : Standard} (hs : stages[i]? = some s) :
    ∃ x, slots[i]? = some x ∧ x.stage.fresh = s.fresh ∧ x.detector = Stage.detector? s ∧
      (∀ name, x.detector = some name → ∃ d, findDetector? detectors name = some d) ∧
      (x.detector.bind (findDetector? detectors)).map Detector.name = Stage.detector? x.stage := by
  obtain ⟨x, hx, same, own⟩ := h.exists_slot hs
  have hm := List.mem_of_getElem? hs
  obtain ⟨-, -, -, detector, -⟩ := Standard.congr_fresh same
  refine ⟨x, hx, same, own, ?_, ?_⟩
  · rw [own]
    exact bound s hm
  · rw [own, detector]
    exact bound.own hm

/-- What stands in a slot declares and does the same as the stage in that place. -/
lemma exists_stage (h : SlotsOf stages slots) {x : Slot Standard} (hx : slots[i]? = some x) :
    ∃ s, stages[i]? = some s ∧ x.stage.fresh = s.fresh := by
  have same := congrArg (fun l => l[i]?) h
  simp only [List.getElem?_map, hx, Option.map_some] at same
  obtain ⟨s, hs, eq⟩ := Option.map_eq_some_iff.1 same.symm
  exact ⟨s, hs, (congrArg Prod.fst eq).symm⟩

/-- A slot may be given to a stage that differs only in what it noted. -/
lemma set (h : SlotsOf stages slots) {x : Slot Standard} (hx : slots[i]? = some x) {s : Standard}
    (same : s.fresh = x.stage.fresh) : SlotsOf stages (slots.set i { x with stage := s }) := by
  obtain ⟨hi, rfl⟩ := List.getElem?_eq_some_iff.1 hx
  rw [SlotsOf, List.map_set, same, ← h]
  exact List.ext_getElem? fun j => by
    rw [List.getElem?_set]
    split
    · rename_i e
      simp [← e, hi]
    · rfl

end SlotsOf

/-! ## One stage -/

/-- A program of an event changes nothing on the bus but its messages. -/
lemma run_frame {α : Type} (i : StageId) (x : Stage.Run α) (b : Bus) :
    (Program.run (RunQuestion.answer i) x b).2.subscriptions = b.subscriptions ∧
    (Program.run (RunQuestion.answer i) x b).2.publications = b.publications := by
  refine Program.run_invariant (P := fun b' : Bus => b'.subscriptions = b.subscriptions ∧
    b'.publications = b.publications) (fun q b' h => ?_) x ⟨rfl, rfl⟩
  cases q with
  | fetch k d => exact h
  | fetchAll k => exact h
  | dispatch m =>
    cases hd : b'.dispatch i m with
    | error e => simpa only [RunQuestion.answer, hd] using h
    | ok result =>
      obtain ⟨sent, b''⟩ := result
      obtain ⟨event, -, -, -, rfl⟩ := Bus.dispatch_eq_ok_iff.1 hd
      simpa only [RunQuestion.answer, hd] using h

/-- What the stage in a slot is told in an event. -/
def Slot.context {μ : Type} (x : Slot μ) (detectors : List Detector) (event : Nat) (i : StageId) : Stage.RunContext :=
  ⟨i, event, x.detector.bind (findDetector? detectors)⟩

/-- A stage is shown the detector that it belongs to, if it is there. -/
@[simp] lemma Slot.detector_context {μ : Type} (x : Slot μ) (detectors : List Detector) (event : Nat) (i : StageId) :
    (x.context detectors event i).detector = x.detector.bind (findDetector? detectors) :=
  rfl

/-- A stage is shown the number of the event. -/
@[simp] lemma Slot.event_context {μ : Type} (x : Slot μ) (detectors : List Detector) (event : Nat) (i : StageId) :
    (x.context detectors event i).event = event :=
  rfl

/-- A stage whose detector is there runs and is put back in its place. -/
lemma runStage_eq {μ : Type} [Stage μ] {detectors : List Detector} {event : Nat} {i : StageId} {p : Pass μ}
    {x : Slot μ} (hx : p.slots[i]? = some x)
    (there : ∀ name, x.detector = some name → ∃ d, findDetector? detectors name = some d)
    {outcome : Except Stage.StageError Unit} {stage : μ} {bus : Bus}
    (run : Program.run (RunQuestion.answer i)
      (Stage.run (x.context detectors event i) x.stage) p.bus = ((outcome, stage), bus)) :
    p.runStage detectors event i =
      (outcome.mapError fun cause => ⟨event, Stage.name stage, x.detector, cause⟩,
      { slots := p.slots.set i { x with stage }, bus, ran := p.ran ++ [Stage.name stage] }) := by
  obtain ⟨start, config, detector⟩ := x
  rw [Pass.runStage, hx]
  cases detector with
  | none =>
    simp only [Slot.context, Option.bind_none] at run ⊢
    rw [run]
    cases outcome <;> rfl
  | some name =>
    obtain ⟨d, found⟩ := there name rfl
    simp only [Slot.context, Option.bind_some, found] at run ⊢
    rw [run]
    cases outcome <;> rfl

/-! ## Stages in order -/

/-- A stage works on the messages stored so far: it was not told to fail, what it requires is stored
for a detector of its scope or for none, and no message clashes with one that it gives. -/
structure Works (s : Standard) (store : List Entry) (i : StageId) (event : Nat) : Prop where
  silent : ∀ e, (event, e) ∉ s.failures
  served : ∀ k, (k, .required) ∈ s.takes →
    ∃ e ∈ store, e.message.kind = k ∧ (Bus.Scope.own e.message.detector).overlaps s.ownScope
  free : Free (store ++ s.sent i event)

/-- Every stage of an order works on the messages stored so far and those of the stages before
it. -/
def Through (stages : List Standard) (event : Nat) : List Entry → List StageId → Prop
  | _, [] => True
  | store, i :: rest =>
    ∀ s, stages[i]? = some s → Works s store i event ∧ Through stages event (store ++ s.sent i event) rest

/-- A pass is under way: nothing failed yet, and no two messages clash. -/
structure Underway (stages : List Standard) (event : Nat) (p : Pass Standard) : Prop where
  slots : SlotsOf stages p.slots
  event : p.bus.event = some event
  holds : Standard.HeldBy stages p.bus
  free : Free p.bus.store

section

variable {detectors : List Detector} {stages : List Standard} (event : Nat)

/-- Where the bus holds what the stages declare, a stage runs through exactly when it works on the
messages stored so far. -/
lemma runsThrough_iff {b : Bus} (holds : Standard.HeldBy stages b) {i : StageId} {s : Standard}
    (hs : stages[i]? = some s) : s.RunsThrough b i event ↔ Works s b.store i event := by
  refine ⟨?_, ?_⟩
  · intro h
    obtain ⟨silent, granted, free⟩ := h
    refine ⟨silent, fun k hk => ?_, free⟩
    exact ((Stage.grants_iff holds hs k).1 (granted _ hk)).2 hk
  · intro h
    obtain ⟨silent, served, free⟩ := h
    refine ⟨silent, fun t ht => ?_, free⟩
    exact (Stage.grants_iff holds hs t.1).2 ⟨⟨t.2, ht⟩, served t.1⟩

/-- What a stage needs to run through is not a matter of what it noted. -/
lemma runsThrough_congr {s s' : Standard} (same : s'.fresh = s.fresh) (b : Bus) (i : StageId) :
    (s'.RunsThrough b i event ↔ s.RunsThrough b i event) ∧ s'.sent i event = s.sent i event := by
  obtain ⟨takes, gives, failures, detector, -⟩ := Standard.congr_fresh same
  have sent : s'.sent i event = s.sent i event := by
    rw [Standard.sent, Standard.sent, gives, detector]
  rw [Standard.RunsThrough, Standard.RunsThrough, sent, takes, failures, detector]
  exact ⟨Iff.rfl, rfl⟩

variable {event} (fixture : ∀ s ∈ stages, s.IsFixture) (bound : Bound detectors stages)
include fixture bound

/-- A stage that works stores its messages; one that does not fails. -/
lemma runStage_of_underway {p : Pass Standard} (w : Underway stages event p) {i : StageId} {s : Standard}
    (hs : stages[i]? = some s) :
    ∃ p', SlotsOf stages p'.slots ∧ p'.bus.subscriptions = p.bus.subscriptions ∧
      p'.bus.publications = p.bus.publications ∧
      ((Works s p.bus.store i event ∧ p.runStage detectors event i = (.ok (), p') ∧
        p'.bus.event = some event ∧ p'.bus.store = p.bus.store ++ s.sent i event) ∨
      (¬ Works s p.bus.store i event ∧ ∃ e, p.runStage detectors event i = (.error e, p'))) := by
  -- What stands in the slot has noted its earlier events, which matters to none of this.
  obtain ⟨x, hx, same, own, there, whose⟩ := w.slots.exists_bound bound hs
  have hm := List.mem_of_getElem? hs
  obtain ⟨-, -, -, detector, kind⟩ := Standard.congr_fresh same
  obtain ⟨stage, again, cases⟩ :=
    Stage.run_fixture (i := i) (kind.2 (fixture s hm)) (x.context detectors event i) whose w.event w.free
  obtain ⟨through, sent⟩ := runsThrough_congr event same p.bus i
  obtain ⟨subscriptions, publications⟩ := run_frame i (Stage.run (x.context detectors event i) x.stage) p.bus
  have works := runsThrough_iff event w.holds hs
  rw [Slot.event_context, through, works, sent] at cases
  have put := w.slots.set hx again
  rcases cases with ⟨h, run⟩ | ⟨h, e, bus, run⟩
  · rw [run] at subscriptions publications
    have ran := runStage_eq hx there run
    refine ⟨_, ?_, ?_, ?_, .inl ⟨h, ran, ?_, ?_⟩⟩
    · exact put
    · exact subscriptions
    · exact publications
    · exact w.event
    · rfl
  · rw [run] at subscriptions publications
    have ran := runStage_eq hx there run
    exact ⟨_, put, subscriptions, publications, .inr ⟨h, _, ran⟩⟩

/-- A pass through known stages succeeds exactly when all of them work in turn. -/
lemma runAll_of_underway {order : List StageId} (known : ∀ i ∈ order, i < stages.length) {p : Pass Standard}
    (w : Underway stages event p) :
    (p.runAll detectors event order).1 = .ok () ↔ Through stages event p.bus.store order := by
  induction order generalizing p with
  | nil => exact ⟨fun _ => trivial, fun _ => rfl⟩
  | cons i rest ih =>
    obtain ⟨s, hs⟩ : ∃ s, stages[i]? = some s :=
      ⟨_, List.getElem?_eq_getElem (known i (List.mem_cons_self ..))⟩
    have only : ∀ {P : Standard → Prop}, (∀ s', stages[i]? = some s' → P s') ↔ P s := by
      simp [hs]
    obtain ⟨p', slots, subscriptions, publications, ⟨works, run, ev, store⟩ | ⟨fails, e, run⟩⟩ :=
      runStage_of_underway fixture bound w hs
    · have w' : Underway stages event p' :=
        ⟨slots, ev, w.holds.congr subscriptions publications, by rw [store]; exact works.free⟩
      have later := ih (fun j hj => known j (List.mem_cons_of_mem _ hj)) w'
      rw [Pass.runAll, run, Through, only, later, store]
      exact ⟨fun h => ⟨works, h⟩, fun h => h.2⟩
    · rw [Pass.runAll, run, Through, only]
      refine ⟨?_, fun h => absurd h.1 fails⟩
      intro h
      cases h

end

end Run

end SensorSim
