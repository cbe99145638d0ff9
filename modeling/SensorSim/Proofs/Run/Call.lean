import Mathlib
import SensorSim.Run.Simulation
import SensorSim.Proofs.Stage.Conduct

/-!
# Calls on a simulation

What an event, a run and the end of a run change of a simulation. `Simulation.Invariant` is what
every step of a call keeps, and `Invariant.replay` says that it then holds after any calls.
-/

namespace SensorSim.Run

open Bus (StageId)
open Stage (Standard)

namespace Simulation

/-- A call on a simulation. -/
inductive Call where
  | runEvent
  | run (count : Nat)
  | close

section

variable {μ : Type} [Stage μ]

/-- The simulation after a call, which may have failed. -/
def apply (s : Simulation μ) : Call → Simulation μ
  | .runEvent => s.runEvent.2
  | .run count => (s.run count).2
  | .close => s.close.2

/-- The simulation after some calls in order. -/
def replay (s : Simulation μ) (calls : List Call) : Simulation μ :=
  calls.foldl apply s

/-- An event takes its number, whatever comes of it. -/
lemma nextEvent_runEvent (s : Simulation μ) : s.runEvent.2.nextEvent = s.nextEvent + 1 := by
  unfold runEvent
  dsimp only
  split <;> rfl

/-- Events in a row take their numbers one after the other. -/
lemma nextEvent_replay_replicate (s : Simulation μ) (n : Nat) :
    (s.replay (List.replicate n .runEvent)).nextEvent = s.nextEvent + n := by
  induction n generalizing s with
  | zero => rfl
  | succ n ih =>
    rw [List.replicate_succ]
    refine (ih s.runEvent.2).trans ?_
    rw [nextEvent_runEvent, Nat.add_right_comm, Nat.add_assoc]

/-- What every event, every closing of a stage and the note that all are closed keep. -/
structure Invariant (P : Simulation μ → Prop) : Prop where
  runEvent : ∀ s, P s → P s.runEvent.2
  closeStage : ∀ s i, P s → P (s.closeStage i).2
  shut : ∀ s, P s → P { s with closed := true }

namespace Invariant

variable {P : Simulation μ → Prop} {s : Simulation μ}

/-- What every event keeps is kept by a run of events. -/
lemma run (kept : Invariant P) (h : P s) (count : Nat) : P (s.run count).2 := by
  induction count generalizing s with
  | zero => exact h
  | succ n ih =>
    have next := kept.runEvent s h
    have rest := ih next
    rw [Simulation.run]
    split
    · rename_i run
      rwa [run] at rest
    · rename_i run
      rw [run] at next rest
      split
      · exact rest
      · exact next

/-- What every closing of a stage keeps is kept when stages are closed in any order. -/
lemma closeAll (kept : Invariant P) (h : P s) (order : List StageId) : P (s.closeAll order).2 := by
  induction order generalizing s with
  | nil => exact h
  | cons i rest ih => exact ih (kept.closeStage s i h)

/-- What every closing of a stage keeps is kept when the simulation is closed. -/
lemma close (kept : Invariant P) (h : P s) : P s.close.2 := by
  unfold Simulation.close
  split
  · exact h
  · have all := kept.closeAll (kept.shut s h) s.order
    split <;> rename_i run <;> rwa [run] at all

/-- What every call keeps holds after any calls. -/
lemma replay (kept : Invariant P) (h : P s) (calls : List Call) : P (s.replay calls) := by
  induction calls generalizing s with
  | nil => exact h
  | cons c rest ih =>
    apply ih
    cases c with
    | runEvent => exact kept.runEvent s h
    | run count => exact kept.run h count
    | close => exact kept.close h

end Invariant

end

/-! ## What a call changes -/

section

variable {μ : Type} [Stage μ] (s : Simulation μ)

/-- The pass of the next event before its first turn. -/
def start : Pass μ :=
  { slots := s.slots, bus := s.bus.beginEvent s.nextEvent }

/-- The outcome of the next event, and its pass at the end. -/
def pass : Except EventError Unit × Pass μ :=
  s.start.runAll s.detectors s.nextEvent s.order

/-- The result of an event is that of its pass, with the stages that ran and the messages on the
bus. -/
lemma runEvent_fst :
    s.runEvent.1 = s.pass.1.map fun _ => { stages := s.pass.2.ran, messages := s.pass.2.bus.count } := by
  unfold runEvent pass start
  dsimp only
  split <;> rename_i h <;> rw [h] <;> rfl

/-- After an event the stages are as its pass left them, the bus has ended the event, and the
detectors and the order are as before. -/
lemma runEvent_snd :
    s.runEvent.2.slots = s.pass.2.slots ∧ s.runEvent.2.bus = s.pass.2.bus.endEvent ∧
      s.runEvent.2.detectors = s.detectors ∧ s.runEvent.2.order = s.order := by
  unfold runEvent pass start
  dsimp only
  split <;> exact ⟨rfl, rfl, rfl, rfl⟩

/-- An event succeeds exactly when its pass does. -/
lemma runEvent_eq_ok_iff : (∃ metrics, s.runEvent.1 = .ok metrics) ↔ s.pass.1 = .ok () := by
  rw [runEvent_fst]
  rcases s.pass with ⟨_ | _, p⟩
  · simp [Except.map]
  · simp [Except.map]

/-- Closing a stage puts it back in its place, and changes nothing else but the journal. -/
lemma closeStage_cases (i : StageId) : (s.closeStage i).2 = s ∨ ∃ x journal, s.slots[i]? = some x ∧
    (s.closeStage i).2 =
      { s with
        slots := s.slots.set i
          { x with stage := (Stage.close ⟨i, x.detector.bind (findDetector? s.detectors), s.completed⟩ x.stage).2 }
        journal } := by
  unfold closeStage
  split
  · exact .inl rfl
  · rename_i x hx
    dsimp only
    split
    · exact .inr ⟨x, _, hx, rfl⟩
    · exact .inr ⟨x, _, hx, rfl⟩

end

/-- Closing a stage changes nothing but what the stage in that place has noted of being closed. -/
lemma closeStage_snd (s : Simulation Standard) (i : StageId) :
    (s.closeStage i).2.nextEvent = s.nextEvent ∧ (s.closeStage i).2.bus = s.bus ∧
      (s.closeStage i).2.detectors = s.detectors ∧ (s.closeStage i).2.order = s.order ∧
      ((s.closeStage i).2.slots = s.slots ∨
        ∃ x m, s.slots[i]? = some x ∧ m.fresh = x.stage.fresh ∧ m.heard = x.stage.heard ∧
          (s.closeStage i).2.slots = s.slots.set i { x with stage := m }) := by
  have closed : ∀ ctx m, (Stage.close ctx m : _ × Standard).2.fresh = m.fresh ∧
      (Stage.close ctx m : _ × Standard).2.heard = m.heard := by
    intro ctx m
    cases m <;> exact ⟨rfl, rfl⟩
  rcases s.closeStage_cases i with same | ⟨x, journal, hx, put⟩
  · rw [same]
    exact ⟨rfl, rfl, rfl, rfl, .inl rfl⟩
  · obtain ⟨fresh, heard⟩ := closed ⟨i, x.detector.bind (findDetector? s.detectors), s.completed⟩ x.stage
    rw [put]
    exact ⟨rfl, rfl, rfl, rfl, .inr ⟨x, _, hx, fresh, heard, rfl⟩⟩

/-- No call changes the detectors. -/
lemma detectors_replay (s : Simulation Standard) (calls : List Call) : (s.replay calls).detectors = s.detectors := by
  have kept : Invariant fun t : Simulation Standard => t.detectors = s.detectors :=
    { runEvent := fun t h => t.runEvent_snd.2.2.1.trans h
      closeStage := fun t i h => (t.closeStage_snd i).2.2.1.trans h
      shut := fun _ h => h }
  exact kept.replay rfl calls

end Simulation

end SensorSim.Run
