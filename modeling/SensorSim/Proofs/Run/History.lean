import Mathlib
import SensorSim.Proofs.Run.Call
import SensorSim.Proofs.Run.Course
import SensorSim.Proofs.Run.Setup

/-!
# The history of a simulation

Whatever is called on a simulation, its stages stay in their places and in their order, and what
they declared stays declared (`Standing.replay`). A stage that records messages keeps those that it
has, and adds to them only messages of the event in progress, so what it has of an event that is
over never changes (`heard_replay`).
-/

namespace SensorSim.Run

open Bus (StageId Entry)
open Stage (Standard)
open SensorSim.Order (Supplies)

namespace Simulation

variable {μ : Type} [Stage μ] (s : Simulation μ)

/-- The turns of the next event. -/
def turns : List Turn :=
  s.start.turns s.detectors s.nextEvent s.order

/-- The messages dispatched in the next event, in order. -/
def dispatched : List Entry :=
  s.turns.flatMap Turn.sent

end Simulation

/-! ## Standing -/

namespace Standing

variable {stages : List Standard} {respected : Bus.Requirement → Prop} {s : Simulation Standard}

/-- A simulation stands on its slots, its detectors, its order and what is declared on its bus. -/
lemma congr (w : Standing stages respected s) {s' : Simulation Standard} (slots : SlotsOf stages s'.slots)
    (detectors : s'.detectors = s.detectors) (order : s'.order = s.order)
    (subscriptions : s'.bus.subscriptions = s.bus.subscriptions)
    (publications : s'.bus.publications = s.bus.publications) : Standing stages respected s' where
  slots := slots
  bound := detectors ▸ w.bound
  holds := w.holds.congr subscriptions publications
  perm := order ▸ w.perm
  respects r hr u v supplies := by
    rw [order]
    apply w.respects r hr u v
    rwa [Supplies, subscriptions, publications] at supplies

/-- Every stage in the order is there. -/
lemma known (w : Standing stages respected s) : ∀ i ∈ s.order, i < stages.length := by
  intro i hi
  exact List.mem_range.1 (w.perm.mem_iff.1 hi)

/-- Every stage is in the order once. -/
lemma nodup (w : Standing stages respected s) : s.order.Nodup :=
  w.perm.nodup_iff.2 List.nodup_range

/-- An event starts with nothing stored. -/
lemma course (w : Standing stages respected s) : Course stages s.nextEvent s.start where
  slots := w.slots
  stamped := nofun
  event := rfl

/-- What the pass of the next event did are its turns. -/
lemma takes (w : Standing stages respected s) : Takes stages s.nextEvent s.start s.pass.2 s.turns :=
  w.course.runAll w.bound w.known

/-- What is stored at the end of an event was dispatched in it. -/
lemma store_pass (w : Standing stages respected s) : s.pass.2.bus.store = s.dispatched := by
  rw [w.takes.bus]
  exact List.nil_append _

/-- An event leaves a simulation standing. -/
lemma runEvent (w : Standing stages respected s) : Standing stages respected s.runEvent.2 := by
  obtain ⟨slots, bus, detectors, order⟩ := s.runEvent_snd
  have takes := w.takes
  refine w.congr (slots ▸ takes.slots) detectors order ?_ ?_
  · rw [bus, takes.bus]
    rfl
  · rw [bus, takes.bus]
    rfl

/-- Closing a stage leaves a simulation standing. -/
lemma closeStage (w : Standing stages respected s) (i : StageId) : Standing stages respected (s.closeStage i).2 := by
  obtain ⟨-, bus, detectors, order, slots⟩ := s.closeStage_snd i
  have kept : SlotsOf stages (s.closeStage i).2.slots := by
    rcases slots with same | ⟨x, m, hx, fresh, -, put⟩
    · rw [same]
      exact w.slots
    · rw [put]
      exact w.slots.set hx fresh
  exact w.congr kept detectors order (by rw [bus]) (by rw [bus])

/-- Every call leaves a simulation standing. -/
lemma invariant : Simulation.Invariant (Standing stages respected) where
  runEvent _ w := w.runEvent
  closeStage _ i w := w.closeStage i
  shut _ w := w.congr w.slots rfl rfl rfl rfl

/-- Whatever is called in whatever order, the simulation stands. -/
lemma replay (w : Standing stages respected s) (calls : List Simulation.Call) :
    Standing stages respected (s.replay calls) :=
  invariant.replay w calls

/-! ## What is recorded -/

/-- What is recorded in an event comes behind what was recorded before, and is of the event. -/
lemma heard_runEvent (w : Standing stages respected s) (i : StageId) :
    ∃ found, heardAt s.runEvent.2.slots i = heardAt s.slots i ++ found ∧ ∀ m ∈ found, m.event = s.nextEvent := by
  obtain ⟨found, noted, stamped, -⟩ := w.takes.heard i
  rw [s.runEvent_snd.1]
  exact ⟨found, noted, stamped⟩

/-- Nothing is recorded when a stage is closed. -/
lemma heard_closeStage (s : Simulation Standard) (i j : StageId) :
    heardAt (s.closeStage i).2.slots j = heardAt s.slots j := by
  obtain ⟨-, -, -, -, same | ⟨x, m, hx, -, heard, put⟩⟩ := s.closeStage_snd i
  · rw [same]
  · rw [put, heardAt, List.getElem?_set]
    split
    · rename_i hj
      subst hj
      rw [if_pos (List.getElem?_eq_some_iff.1 hx).1, Option.elim_some, heardAt, hx, Option.elim_some, heard]
    · rfl

/-- What is recorded is of events that are over. -/
lemma heard_lt_replay (w : Standing stages respected s) (h : ∀ i, ∀ m ∈ heardAt s.slots i, m.event < s.nextEvent)
    (calls : List Simulation.Call) (i : StageId) :
    ∀ m ∈ heardAt (s.replay calls).slots i, m.event < (s.replay calls).nextEvent := by
  have kept : Simulation.Invariant fun t => Standing stages respected t ∧
      ∀ i, ∀ m ∈ heardAt t.slots i, m.event < t.nextEvent := by
    refine ⟨fun t h => ⟨h.1.runEvent, fun i m hm => ?_⟩, fun t i h => ⟨h.1.closeStage i, fun j m hm => ?_⟩, fun t h =>
      ⟨invariant.shut t h.1, h.2⟩⟩
    · obtain ⟨found, noted, stamped⟩ := h.1.heard_runEvent i
      rw [Simulation.nextEvent_runEvent]
      rw [noted] at hm
      rcases List.mem_append.1 hm with hm | hm
      · exact Nat.lt_succ_of_lt (h.2 i m hm)
      · exact stamped m hm ▸ Nat.lt_succ_self _
    · rw [(t.closeStage_snd i).1]
      rw [heard_closeStage] at hm
      exact h.2 j m hm
  exact (kept.replay ⟨w, h⟩ calls).2 i

/-- What is recorded of an event that is over stays as it is. -/
lemma heard_replay (w : Standing stages respected s) {n : Nat} (past : n < s.nextEvent)
    (calls : List Simulation.Call) (i : StageId) :
    (heardAt (s.replay calls).slots i).filter (fun m => m.event == n) =
      (heardAt s.slots i).filter fun m => m.event == n := by
  have kept : Simulation.Invariant fun t => Standing stages respected t ∧ n < t.nextEvent ∧
      (heardAt t.slots i).filter (fun m => m.event == n) = (heardAt s.slots i).filter fun m => m.event == n := by
    refine ⟨fun t h => ⟨h.1.runEvent, ?_, ?_⟩, fun t j h => ⟨h.1.closeStage j, ?_, ?_⟩, fun t h =>
      ⟨invariant.shut t h.1, h.2⟩⟩
    · rw [Simulation.nextEvent_runEvent]
      exact Nat.lt_succ_of_lt h.2.1
    · obtain ⟨found, noted, stamped⟩ := h.1.heard_runEvent i
      have others : found.filter (fun m => m.event == n) = [] := by
        rw [List.filter_eq_nil_iff]
        intro m hm
        rw [stamped m hm, beq_iff_eq]
        exact ne_of_gt h.2.1
      rw [noted, List.filter_append, others, List.append_nil, h.2.2]
    · rw [(t.closeStage_snd j).1]
      exact h.2.1
    · rw [heard_closeStage]
      exact h.2.2
  exact (kept.replay ⟨w, past, rfl⟩ calls).2.2

end Standing

end SensorSim.Run
