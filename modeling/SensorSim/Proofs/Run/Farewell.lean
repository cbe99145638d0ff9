import Mathlib
import SensorSim.Stage.Choice
import SensorSim.Stage.Script
import SensorSim.Proofs.Run.CallLog

/-!
# The end of a run

When a simulation is closed first, every stage is closed, one after the other in the order in which
they run, whether or not others fail: `Simulation.Farewells` says what each is told and leaves.
Closing it again does nothing, so a stage that writes down when it is closed has done so once in the
end, and never where nothing was closed (`Notes`).
-/

namespace SensorSim

open Bus (StageId)
open Files (FileSystem)

namespace Stage

/-- Stages of some sort write down what they are told when they are closed, and nothing else. -/
structure Notes {μ α : Type} [Stage μ] (sort : μ → Prop) (log : μ → List α) (note : CloseContext → α) : Prop where
  run : ∀ i ctx b m, sort m → sort (Program.run (RunQuestion.answer i) (Stage.run ctx m) b).1.2 ∧
    log (Program.run (RunQuestion.answer i) (Stage.run ctx m) b).1.2 = log m
  close : ∀ ctx m, sort m → sort (Stage.close ctx m).2 ∧ log (Stage.close ctx m).2 = log m ++ [note ctx]

/-- Relays write down how many events were completed. -/
lemma notes_relay {μ : Type} [Stage μ] {wrap : Relay → μ} (carries : Carries wrap)
    (close : ∀ ctx r, Stage.close ctx (wrap r) = Prod.map id wrap (Stage.close ctx r)) {log : μ → List Nat}
    (reads : ∀ r, log (wrap r) = r.closed) : Notes (fun m => ∃ r, m = wrap r) log CloseContext.events where
  run := by
    rintro i ctx b _ ⟨r, rfl⟩
    rw [carries.stage_run, reads, reads]
    exact ⟨⟨_, rfl⟩, rfl⟩
  close := by
    rintro ctx _ ⟨r, rfl⟩
    rw [close, reads]
    exact ⟨⟨_, rfl⟩, reads _⟩

end Stage

namespace Run

open Stage (StageError CloseContext Notes Relay)

/-! ## Farewells -/

/-- A stage is closed: what it is told, and the slot that it stands in. -/
structure Farewell (μ : Type) where
  context : CloseContext
  slot : Slot μ

variable {μ : Type} [Stage μ]

namespace Farewell

variable (f : Farewell μ)

def id : StageId :=
  f.context.stage

/-- What comes of it: the outcome, and the stage afterwards. -/
def result : Except StageError Unit × μ :=
  Stage.close f.context f.slot.stage

def outcome : Except StageError Unit :=
  f.result.1

/-- The slot afterwards. -/
def left : Slot μ :=
  { f.slot with stage := f.result.2 }

/-- The failure for this cause in this stage. -/
def failure (cause : StageError) : CloseError :=
  ⟨Stage.name f.left.stage, f.slot.detector, cause⟩

/-- The failure of the stage, if it fails. -/
def failure? : Option CloseError :=
  match f.outcome with
  | .ok () => none
  | .error cause => some (f.failure cause)

end Farewell

namespace Simulation

/-- The farewell of the stage in a slot. -/
def farewell (s : Simulation μ) (i : StageId) (x : Slot μ) : Farewell μ where
  context := ⟨i, x.detector.bind (findDetector? s.detectors), s.completed⟩
  slot := x

/-- The simulation after a farewell. -/
def leave (s : Simulation μ) (f : Farewell μ) : Simulation μ :=
  { s with
    slots := s.slots.set f.id f.left
    journal := s.journal ++ f.failure?.toList.map .closeFailed }

/-- Stages in order take these farewells, up to this end: each stands in its slot, and whether it
fails makes no difference to those that follow. -/
inductive Farewells : List StageId → Simulation μ → List (Farewell μ) → Simulation μ → Prop
  | done (s : Simulation μ) : Farewells [] s [] s
  | next {i : StageId} {rest : List StageId} {s s' : Simulation μ} {x : Slot μ} {fs : List (Farewell μ)}
      (here : s.slots[i]? = some x) (others : Farewells rest (s.leave (s.farewell i x)) fs s') :
      Farewells (i :: rest) s (s.farewell i x :: fs) s'

/-- Closing a stage is its farewell. -/
lemma closeStage_eq {s : Simulation μ} {i : StageId} {x : Slot μ} (here : s.slots[i]? = some x) :
    s.closeStage i = ((s.farewell i x).failure?, s.leave (s.farewell i x)) := by
  simp only [closeStage, here, leave, Farewell.failure?, Farewell.outcome, Farewell.left, Farewell.failure, Farewell.id,
    Farewell.result, farewell]
  rcases Stage.close ⟨i, x.detector.bind (findDetector? s.detectors), s.completed⟩ x.stage with ⟨_ | _, stage⟩
  · rfl
  · simp

/-- Where all stages stand in their slots, closing them in order has their farewells. -/
lemma exists_farewells {order : List StageId} {s : Simulation μ} (known : ∀ i ∈ order, i < s.slots.length) :
    ∃ fs, Farewells order s fs (s.closeAll order).2 ∧ (s.closeAll order).1 = fs.filterMap Farewell.failure? := by
  induction order generalizing s with
  | nil => exact ⟨[], .done s, rfl⟩
  | cons i rest ih =>
    obtain ⟨hi, known⟩ := List.forall_mem_cons.1 known
    have here : s.slots[i]? = some s.slots[i] := List.getElem?_eq_getElem hi
    have kept : ∀ j ∈ rest, j < (s.leave (s.farewell i s.slots[i])).slots.length := by
      intro j hj
      rw [leave, List.length_set]
      exact known j hj
    obtain ⟨fs, others, failures⟩ := ih kept
    rw [closeAll, closeStage_eq here]
    refine ⟨_, .next here others, ?_⟩
    dsimp only
    rw [failures, List.filterMap_cons]
    cases (s.farewell i s.slots[i]).failure? <;> rfl

section

variable {order : List StageId} {s s' : Simulation μ} {fs : List (Farewell μ)}

/-- Each stage in the order takes one farewell. -/
lemma Farewells.ids_eq (h : Farewells order s fs s') : fs.map Farewell.id = order := by
  induction h with
  | done s => rfl
  | next here others ih =>
    rw [List.map_cons, ih]
    rfl

/-- Every stage is told its detector and the number of events that were completed when the first was
closed. -/
lemma Farewells.context_eq (h : Farewells order s fs s') :
    ∀ f ∈ fs, f.context = ⟨f.id, f.slot.detector.bind (findDetector? s.detectors), s.completed⟩ := by
  induction h with
  | done s => exact List.forall_mem_nil _
  | next here others ih => exact List.forall_mem_cons.2 ⟨rfl, ih⟩

/-- Farewells change the slots and note the failures in order. -/
lemma Farewells.eq (h : Farewells order s fs s') :
    s' = { s with
      slots := s'.slots
      journal := s.journal ++ (fs.filterMap Farewell.failure?).map .closeFailed } := by
  induction h with
  | done s => simp
  | @next i rest s s' x fs here others ih =>
    rw [ih, leave]
    simp only [List.filterMap_cons, List.append_assoc]
    cases (s.farewell i x).failure? <;> rfl

/-- Stages that are not closed stay as they are. -/
lemma Farewells.slots_of_notMem (h : Farewells order s fs s') {i : StageId} (away : i ∉ order) :
    s'.slots[i]? = s.slots[i]? := by
  induction h with
  | done s => rfl
  | next here others ih =>
    rw [List.mem_cons, not_or] at away
    exact (ih away.2).trans (List.getElem?_set_ne (Ne.symm away.1))

/-- A stage is closed as it stands in its slot, and stays there as its farewell leaves it. -/
lemma Farewells.slots_of_mem (h : Farewells order s fs s') (once : order.Nodup) :
    ∀ f ∈ fs, s.slots[f.id]? = some f.slot ∧ s'.slots[f.id]? = some f.left := by
  induction h with
  | done s => exact List.forall_mem_nil _
  | @next i rest s s' x fs here others ih =>
    obtain ⟨new, once⟩ := List.nodup_cons.1 once
    refine List.forall_mem_cons.2 ⟨⟨here, ?_⟩, fun f hf => ?_⟩
    · refine (others.slots_of_notMem new).trans ?_
      exact List.getElem?_set_self (List.getElem?_eq_some_iff.1 here).1
    · have other : i ≠ f.id := by
        rintro rfl
        exact new (others.ids_eq ▸ List.mem_map_of_mem hf)
      obtain ⟨found, left⟩ := ih once f hf
      refine ⟨?_, left⟩
      rw [← found]
      exact (List.getElem?_set_ne other).symm

end

/-! ## Closing once -/

section

variable {s t : Simulation μ}

/-- The first time that a simulation is closed, all stages take their farewells, and the first of
the failures is reported. -/
lemma exists_farewells_close (opened : t.closed = false) (known : ∀ i ∈ t.order, i < t.slots.length) :
    ∃ fs, Farewells t.order { t with closed := true } fs t.close.2 ∧
      t.close.1 = match fs.filterMap Farewell.failure? with
        | [] => .ok ()
        | e :: _ => .error e := by
  obtain ⟨fs, farewells, failures⟩ := exists_farewells (s := { t with closed := true }) known
  refine ⟨fs, ?_⟩
  rw [close, if_neg (by rw [opened]; decide)]
  rcases all : closeAll t.order { t with closed := true } with ⟨es, s'⟩
  rw [all] at farewells failures
  rw [← failures]
  cases es <;> exact ⟨farewells, rfl⟩

/-- Of some farewells none fails, or there is a first one that does. -/
lemma failures_cases (fs : List (Farewell μ)) :
    (fs.filterMap Farewell.failure? = [] ∧ ∀ f ∈ fs, f.outcome = .ok ()) ∨
    ∃ front f back cause, fs = front ++ f :: back ∧ (∀ g ∈ front, g.outcome = .ok ()) ∧ f.outcome = .error cause ∧
      ∃ es, fs.filterMap Farewell.failure? = f.failure cause :: es := by
  induction fs with
  | nil => exact .inl ⟨rfl, List.forall_mem_nil _⟩
  | cons f rest ih =>
    rw [List.filterMap_cons, Farewell.failure?]
    cases outcome : f.outcome with
    | error cause => exact .inr ⟨[], f, rest, cause, rfl, List.forall_mem_nil _, outcome, _, rfl⟩
    | ok done =>
      rcases ih with ⟨clean, all⟩ | ⟨front, g, back, cause, rfl, all, failed, first⟩
      · exact .inl ⟨clean, List.forall_mem_cons.2 ⟨outcome, all⟩⟩
      · exact .inr ⟨f :: front, g, back, cause, rfl, List.forall_mem_cons.2 ⟨outcome, all⟩, failed, first⟩

/-- No call opens a simulation that was closed. -/
lemma invariant_closed : Invariant fun t : Simulation μ => t.closed = true where
  runEvent t closed := by rw [(runEvent_frame t).2, closed]
  closeStage t i closed := by
    rcases t.closeStage_cases i with same | ⟨x, journal, -, put⟩
    · rw [same, closed]
    · rw [put]
      exact closed
  shut _ _ := rfl

/-- Once closed, a simulation is marked as closed. -/
lemma closed_close (t : Simulation μ) : t.close.2.closed = true := by
  rw [close]
  split
  · assumption
  · have all := invariant_closed.closeAll (s := { t with closed := true }) rfl t.order
    split <;> rename_i run <;> rwa [run] at all

/-- A simulation is closed once a call has closed it. -/
lemma closed_replay {calls : List Call} (closes : .close ∈ calls) : (s.replay calls).closed = true := by
  obtain ⟨before, after, rfl⟩ := List.append_of_mem closes
  rw [replay, List.foldl_append]
  exact invariant_closed.replay (closed_close _) after

end

/-! ## What is written down -/

section

variable {α : Type} {sort : μ → Prop} {log : μ → List α} {note : CloseContext → α} {files : FileSystem} {p : Plan μ}
  {s t : Simulation μ} {i : StageId} {owner : Option String} {entries : List α}

/-- In a place stands a stage of a sort and of a detector, which has written these entries down. -/
def Shows (sort : μ → Prop) (log : μ → List α) (t : Simulation μ) (i : StageId) (owner : Option String)
    (entries : List α) : Prop :=
  ∃ x, t.slots[i]? = some x ∧ x.detector = owner ∧ sort x.stage ∧ log x.stage = entries

/-- In an event nothing is written down. -/
lemma Shows.runEvent (notes : Notes sort log note) (h : Shows sort log t i owner entries) {vs : List (Visit μ)}
    (visits : t.Visits vs) (once : t.order.Nodup) : Shows sort log t.runEvent.2 i owner entries := by
  obtain ⟨x, here, own, fits, shown⟩ := h
  obtain ⟨visited, still, -⟩ := visits.slots once
  by_cases turn : i ∈ vs.map Visit.id
  · obtain ⟨v, hv, rfl⟩ := List.mem_map.1 turn
    obtain ⟨found, left⟩ := visited v hv
    cases found.symm.trans here
    obtain ⟨fits, kept⟩ := notes.run v.context.stage v.context v.bus v.slot.stage fits
    exact ⟨v.left, left, own, fits, kept.trans shown⟩
  · exact ⟨x, (still i turn).trans here, own, fits, shown⟩

/-- In events in a row nothing is written down. -/
lemma Shows.after (notes : Notes sort log note) (accepted : ofPlan files p = .ok s) (calls : List Call)
    (h : Shows sort log (s.replay calls) i owner entries) (k : Nat) :
    Shows sort log ((s.replay calls).after k) i owner entries := by
  induction k with
  | zero => exact h
  | succ k ih =>
    have visits := exists_visits accepted (calls ++ List.replicate k .runEvent)
    rw [replay, List.foldl_append] at visits
    obtain ⟨⟨vs, visits⟩, once⟩ :
        (∃ vs, ((s.replay calls).after k).Visits vs) ∧ ((s.replay calls).after k).order.Nodup := visits
    rw [after_succ_eq]
    exact ih.runEvent notes visits once

/-- The first time that a simulation is closed, every stage in the order writes it down. -/
lemma Shows.close (notes : Notes sort log note) (h : Shows sort log t i owner entries) {fs : List (Farewell μ)}
    (farewells : Farewells t.order { t with closed := true } fs t.close.2) (once : t.order.Nodup)
    (known : i ∈ t.order) :
    Shows sort log t.close.2 i owner (entries ++ [note ⟨i, owner.bind (findDetector? t.detectors), t.completed⟩]) := by
  obtain ⟨x, here, own, fits, shown⟩ := h
  rw [← farewells.ids_eq] at known
  obtain ⟨f, hf, rfl⟩ := List.mem_map.1 known
  obtain ⟨found, left⟩ := farewells.slots_of_mem once f hf
  cases found.symm.trans here
  obtain ⟨fits, noted⟩ := notes.close f.context f.slot.stage fits
  refine ⟨f.left, left, own, fits, noted.trans ?_⟩
  rw [shown, farewells.context_eq f hf, own]

end

/-! ## Whole runs -/

section

variable {files : FileSystem} {p : Plan μ} {s : Simulation μ} (accepted : ofPlan files p = .ok s)
include accepted

/-- There is a slot for every stage of the plan. -/
lemma length_slots_of_ofPlan : s.slots.length = p.members.length := by
  rw [← s.slots.length_map Slot.detector, (Stays.refl s).owners_eq (sound_of_ofPlan accepted).1, List.length_map]

/-- Every stage has its turn to be closed. -/
lemma mem_order_of_ofPlan {i : StageId} : i ∈ s.order ↔ i < s.slots.length := by
  rw [(order_perm_of_ofPlan accepted).mem_iff, List.mem_range, length_slots_of_ofPlan accepted]

/-- A simulation that was just set up is not closed. -/
lemma closed_of_ofPlan : s.closed = false := by
  obtain ⟨site, order, -, -, rfl⟩ := exists_site_of_ofPlan accepted
  rfl

variable {before : List Call} (unclosed : Call.close ∉ before)
include unclosed

omit accepted in
/-- Calls among which none closes are events in a row. -/
lemma exists_after_of_unclosed (s : Simulation μ) : ∃ k, s.replay before = s.after k :=
  exists_after_of_replay s before (.inr fun _ hc same => unclosed (same ▸ hc))

/-- When it is closed after calls that close nothing, a simulation takes leave of all stages. -/
lemma exists_farewells_replay :
    ∃ fs, Farewells s.order { s.replay before with closed := true } fs (s.replay before).close.2 ∧
      (s.replay before).close.1 = match fs.filterMap Farewell.failure? with
        | [] => .ok ()
        | e :: _ => .error e := by
  have stays := stays_of_ofPlan accepted before
  rw [← stays.order]
  refine exists_farewells_close ?_ fun i hi => ?_
  · obtain ⟨k, block⟩ := exists_after_of_unclosed unclosed s
    rw [block, closed_after, closed_of_ofPlan accepted]
  · rw [stays.order, mem_order_of_ofPlan accepted] at hi
    rwa [← (s.replay before).slots.length_map Slot.detector, stays.owners, List.length_map]

section

variable {α : Type} {sort : μ → Prop} {log : μ → List α} {note : CloseContext → α} (notes : Notes sort log note)
  {i : StageId} {x : Slot μ} (here : s.slots[i]? = some x) (fits : sort x.stage)
include notes here fits

/-- Where nothing is closed nothing is written down. -/
lemma shows_of_unclosed : Shows sort log (s.replay before) i x.detector (log x.stage) := by
  have start : Shows sort log s i x.detector (log x.stage) := ⟨x, here, rfl, fits, rfl⟩
  obtain ⟨k, block⟩ := exists_after_of_unclosed unclosed s
  rw [block]
  exact start.after notes accepted [] k

/-- The first time that the simulation is closed a stage writes it down, and nothing after that. -/
lemma shows_of_closed (after : List Call) :
    Shows sort log (s.replay (before ++ .close :: after)) i x.detector
      (log x.stage ++ [note ⟨i, x.detector.bind (findDetector? s.detectors), (s.replay before).completed⟩]) := by
  have stays := stays_of_ofPlan accepted before
  obtain ⟨fs, farewells, -⟩ := exists_farewells_replay accepted unclosed
  have known : i ∈ (s.replay before).order := by
    rw [stays.order, mem_order_of_ofPlan accepted]
    exact (List.getElem?_eq_some_iff.1 here).1
  have once := nodup_order_of_ofPlan accepted
  rw [← stays.order] at farewells once
  have written := (shows_of_unclosed accepted unclosed notes here fits).close notes farewells once known
  rw [stays.detectors] at written
  -- Once the simulation is closed, all that is called are events.
  have closed : s.replay (before ++ [.close]) = (s.replay before).close.2 := by
    rw [replay, List.foldl_append]
    rfl
  obtain ⟨k, block⟩ := exists_after_of_replay (s.replay before).close.2 after (.inl (closed_close _))
  have rest : s.replay (before ++ .close :: after) = (s.replay (before ++ [.close])).after k := by
    rw [closed, ← block, replay, List.foldl_append]
    rfl
  rw [← closed] at written
  rw [rest]
  exact written.after notes accepted _ k

end

end

/-- The stages of a plan that is set up are in the order once each. Up to the first time that the
simulation is closed nothing is closed; then all stages are closed one after the other in the order,
whichever of them fail. Each is told its detector and how many events were completed so far. The
first failure is reported, and all of them are noted as errors in their order. Closing the
simulation after that does nothing. So whatever is called before and after it, a stage that writes
down when it is closed has done so once, and not at all where nothing was closed. -/
theorem replay_closes_once (files : FileSystem) (p : Plan μ) (s : Simulation μ) (accepted : ofPlan files p = .ok s) :
    s.order.Perm (List.range s.slots.length) ∧
    (∀ before, Call.close ∉ before → ∀ t, s.replay before = t → ∃ fs : List (Farewell μ),
      Farewells s.order { t with closed := true } fs t.close.2 ∧ fs.map Farewell.id = s.order ∧
      (∀ f ∈ fs, t.slots[f.id]? = some f.slot ∧ t.close.2.slots[f.id]? = some f.left ∧
        f.context = ⟨f.id, f.slot.detector.bind (findDetector? s.detectors), t.completed⟩) ∧
      ((t.close.1 = .ok () ∧ ∀ f ∈ fs, f.outcome = .ok ()) ∨
        ∃ front f back cause, fs = front ++ f :: back ∧ (∀ g ∈ front, g.outcome = .ok ()) ∧ f.outcome = .error cause ∧
          t.close.1 = .error ⟨Stage.name f.left.stage, f.slot.detector, cause⟩) ∧
      ∃ notices : List Notice, t.close.2.journal = t.journal ++ notices ∧ (∀ n ∈ notices, n.level = .error) ∧
        notices = (fs.filterMap Farewell.failure?).map .closeFailed) ∧
    (∀ calls, Call.close ∈ calls → (s.replay calls).close = (.ok (), s.replay calls)) ∧
    ∀ (α : Type) (sort : μ → Prop) (log : μ → List α) (note : CloseContext → α), Notes sort log note →
      ∀ i x, s.slots[i]? = some x → sort x.stage →
        (∀ calls, Call.close ∉ calls → Shows sort log (s.replay calls) i x.detector (log x.stage)) ∧
        ∀ before after, Call.close ∉ before →
          Shows sort log (s.replay (before ++ .close :: after)) i x.detector
            (log x.stage ++ [note ⟨i, x.detector.bind (findDetector? s.detectors), (s.replay before).completed⟩]) := by
  refine ⟨?_, ?_, fun calls closes => close_of_closed (closed_replay closes), ?_⟩
  · rw [length_slots_of_ofPlan accepted]
    exact order_perm_of_ofPlan accepted
  · rintro before unclosed t rfl
    obtain ⟨fs, farewells, outcome⟩ := exists_farewells_replay accepted unclosed
    -- The detectors that the stages are told are those of the setup, as no call changes them.
    have journal := congrArg Simulation.journal farewells.eq
    refine ⟨fs, farewells, farewells.ids_eq, fun f hf => ?_, ?_, _, journal, ?_, rfl⟩
    · obtain ⟨found, left⟩ := farewells.slots_of_mem (nodup_order_of_ofPlan accepted) f hf
      refine ⟨found, left, ?_⟩
      rw [← (stays_of_ofPlan accepted before).detectors]
      exact farewells.context_eq f hf
    · rcases failures_cases fs with ⟨clean, all⟩ | ⟨front, f, back, cause, split, all, failed, es, failures⟩
      · rw [clean] at outcome
        exact .inl ⟨outcome, all⟩
      · rw [failures] at outcome
        exact .inr ⟨front, f, back, cause, split, all, failed, outcome⟩
    · intro n hn
      obtain ⟨e, -, rfl⟩ := List.mem_map.1 hn
      rfl
  · intro α sort log note notes i x here fits
    exact ⟨fun calls unclosed => shows_of_unclosed accepted unclosed notes here fits,
      fun before after unclosed => shows_of_closed accepted unclosed notes here fits after⟩

end Simulation

/-- A relay that takes the deposits of one that follows it, and between and after them two stages
that cannot be closed. -/
def stuckPlan : Plan (Relay ⊕ Stage.Script Unit) where
  detectors := []
  members :=
    [⟨.inl { name := "sink", takes := [(.deposited, .required)] }, default⟩,
      ⟨.inr { name := "left", close := fun _ => [⟨"close", throw (.executionFailed "stuck"), false⟩] }, default⟩,
      ⟨.inl { name := "source", gives := [.deposited], failures := [(2, .executionFailed "dry")] }, default⟩,
      ⟨.inr { name := "right", close := fun _ => [⟨"close", throw (.executionFailed "jammed"), false⟩] }, default⟩]

/-- What the relays have written down of being closed. -/
def closings : Relay ⊕ Stage.Script Unit → List Nat :=
  Sum.elim Relay.closed fun _ => []

/-- Of three events two are completed. Then the first of the two failures is reported, and in the
end the relay behind it has written down these two events. -/
theorem replay_closes_once_stuckPlan : ∃ s, Simulation.ofPlan .empty stuckPlan = .ok s ∧ s.order = [1, 2, 0, 3] ∧
    (∃ f : Farewell (Relay ⊕ Stage.Script Unit), f.outcome = .error (.executionFailed "stuck") ∧
      (s.replay [.runEvent, .run 2]).close.1 = .error ⟨"left", none, .executionFailed "stuck"⟩) ∧
    (s.replay [.runEvent, .run 2, .close, .runEvent]).close.1 = .ok () ∧
    Simulation.Shows (fun m => ∃ r, m = .inl r) closings
      (s.replay [.runEvent, .run 2, .close, .runEvent, .close]) 0 none
      [2] := by
  have notes : Notes (fun m => ∃ r, m = .inl r) closings CloseContext.events :=
    Stage.notes_relay ⟨fun _ _ => rfl, fun _ _ => rfl⟩ (fun _ _ => rfl) fun _ => rfl
  have runs : (Simulation.ofPlan .empty stuckPlan).toOption.map (fun s =>
      (s.order, (s.replay [.runEvent, .run 2]).completed, (s.replay [.runEvent, .run 2]).close.1)) =
      some ([1, 2, 0, 3], 2, .error ⟨"left", none, .executionFailed "stuck"⟩) := by
    decide +kernel
  have start : (Simulation.ofPlan .empty stuckPlan).toOption.bind (fun s =>
      s.slots[0]?.map fun x => (x.detector, x.stage.isLeft, closings x.stage)) = some (none, true, []) := by
    decide +kernel
  obtain ⟨s, accepted, shown⟩ := toOption_map_eq_some_iff.1 runs
  simp only [Prod.mk.injEq] at shown
  obtain ⟨order, completed, reported⟩ := shown
  rw [accepted] at start
  obtain ⟨x, here, told⟩ := Option.map_eq_some_iff.1 start
  obtain ⟨own, left, empty⟩ : x.detector = none ∧ x.stage.isLeft = true ∧ closings x.stage = [] := by
    simpa using told
  obtain ⟨-, closes, again, counts⟩ := Simulation.replay_closes_once .empty stuckPlan s accepted
  obtain ⟨fs, -, -, -, outcome, -⟩ := closes [.runEvent, .run 2] (by simp) _ rfl
  obtain ⟨-, once⟩ := counts Nat _ _ _ notes 0 x here (by
    obtain ⟨r, hr⟩ := Sum.isLeft_iff.1 left
    exact ⟨r, hr⟩)
  have written := once [.runEvent, .run 2] [.runEvent, .close] (by simp)
  rw [own, empty, completed] at written
  refine ⟨s, accepted, order, ?_, ?_, written⟩
  · rcases outcome with ⟨whole, -⟩ | ⟨front, f, back, cause, -, -, failed, first⟩
    · rw [reported] at whole
      cases whole
    · rw [reported, Except.error.injEq, CloseError.mk.injEq] at first
      exact ⟨f, failed.trans (by rw [first.2.2]), reported⟩
  · rw [again [.runEvent, .run 2, .close, .runEvent] (by simp)]

end Run

end SensorSim
