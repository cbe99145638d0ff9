import Mathlib
import SensorSim.Proofs.Except
import SensorSim.Proofs.Run.Call

/-!
# Blocks of events

A run attempts a block of consecutive events: as many as it was asked for, or those up to the first
that fails in a way that ends the run. `run_eq` says that the summary is read off the outcomes of
these events one by one and that the simulation is the one after them. So the summary tells the
outcomes of the block apart (`Partitions`), the counters and the journal of the simulation go along
with it, and a run may be made in two parts.
-/

namespace SensorSim.Run

open Bus (StageId)
open Sensor (Detector)

/-! ## Outcomes -/

/-- The failure of an event that a run goes on after. -/
def abandoned? : Except EventError EventMetrics → Option EventError
  | .ok _ => none
  | .error e => if e.isRecoverable then some e else none

/-- The failure of an event that ends a run. -/
def fatal? : Except EventError EventMetrics → Option EventError
  | .ok _ => none
  | .error e => if e.isRecoverable then none else some e

/-- What there is to say about the outcome of an event. -/
def reports : Except EventError EventMetrics → List Notice
  | .ok _ => []
  | .error e => [.ofEventError e]

section

variable {o : Except EventError EventMetrics} {e : EventError}

/-- An event is abandoned for a failure that is recoverable. -/
lemma abandoned?_eq_some_iff : abandoned? o = some e ↔ o = .error e ∧ e.isRecoverable := by
  cases o with
  | ok metrics => simp [abandoned?]
  | error f =>
    simp only [abandoned?, Option.ite_none_right_eq_some, Except.error.injEq, Option.some.injEq]
    refine ⟨?_, ?_⟩
    · rintro ⟨recoverable, rfl⟩
      exact ⟨rfl, recoverable⟩
    · rintro ⟨rfl, recoverable⟩
      exact ⟨recoverable, rfl⟩

/-- An event ends a run by a failure that is not recoverable. -/
lemma fatal?_eq_some_iff : fatal? o = some e ↔ o = .error e ∧ ¬ e.isRecoverable := by
  cases o with
  | ok metrics => simp [fatal?]
  | error f =>
    simp only [fatal?, Option.ite_none_left_eq_some, Except.error.injEq, Option.some.injEq]
    refine ⟨?_, ?_⟩
    · rintro ⟨fatal, rfl⟩
      exact ⟨rfl, fatal⟩
    · rintro ⟨rfl, fatal⟩
      exact ⟨fatal, rfl⟩

end

namespace RunSummary

/-- The summary of some events by their outcomes. -/
def ofOutcomes (os : List (Except EventError EventMetrics)) : RunSummary where
  completed := os.countP Except.isOk
  failed := os.filterMap abandoned?
  aborted := os.findSome? fatal?

/-- The summaries of two runs as one. -/
def append (r t : RunSummary) : RunSummary where
  completed := r.completed + t.completed
  failed := r.failed ++ t.failed
  aborted := r.aborted.or t.aborted

/-- A run of no events adds nothing. -/
lemma nil_append (r : RunSummary) : append {} r = r := by
  rw [append, Nat.zero_add, List.nil_append, Option.none_or]

/-- Three runs in a row are summed up alike from either end. -/
lemma append_assoc (r t u : RunSummary) : (r.append t).append u = r.append (t.append u) := by
  simp only [append, Nat.add_assoc, List.append_assoc, Option.or_assoc]

section

variable {e : EventError} (os os' : List (Except EventError EventMetrics))

/-- An event that succeeds is counted. -/
lemma ofOutcomes_ok (metrics : EventMetrics) : ofOutcomes [.ok metrics] = { completed := 1 } :=
  rfl

/-- An event that the run goes on after is named as failed and not counted. -/
lemma ofOutcomes_abandoned (recoverable : e.isRecoverable) : ofOutcomes [.error e] = { failed := [e] } := by
  simp [ofOutcomes, abandoned?, fatal?, Except.isOk, Except.toBool, recoverable]

/-- An event that ends the run is named as that and not counted. -/
lemma ofOutcomes_fatal (fatal : ¬ e.isRecoverable) : ofOutcomes [.error e] = { aborted := some e } := by
  simp [ofOutcomes, abandoned?, fatal?, Except.isOk, Except.toBool, fatal]

/-- The summary of two blocks of events is that of the one with that of the other. -/
lemma ofOutcomes_append : ofOutcomes (os ++ os') = (ofOutcomes os).append (ofOutcomes os') := by
  simp [ofOutcomes, append, List.findSome?_append]

/-- The first event is summed up before the others. -/
lemma ofOutcomes_cons (o : Except EventError EventMetrics) :
    ofOutcomes (o :: os) = (ofOutcomes [o]).append (ofOutcomes os) :=
  ofOutcomes_append [o] os

end

/-- Where no event ends the run, the summary counts each one as completed or names its failure, and
there is a notice of each failure. -/
lemma ofOutcomes_of_going {os : List (Except EventError EventMetrics)} (going : ∀ o ∈ os, fatal? o = none) :
    (ofOutcomes os).aborted = none ∧ (ofOutcomes os).completed + (ofOutcomes os).failed.length = os.length ∧
      os.flatMap reports = (ofOutcomes os).failed.map .abandoned := by
  induction os with
  | nil => exact ⟨rfl, rfl, rfl⟩
  | cons o os ih =>
    obtain ⟨aborted, total, said⟩ := ih fun o ho => going o (List.mem_cons_of_mem _ ho)
    have first := going o (List.mem_cons_self ..)
    rw [ofOutcomes_cons, List.flatMap_cons, List.length_cons, said, ← total]
    cases o with
    | ok metrics =>
      rw [ofOutcomes_ok]
      refine ⟨aborted, ?_, rfl⟩
      show 1 + (ofOutcomes os).completed + (ofOutcomes os).failed.length = _
      omega
    | error e =>
      have recoverable : e.isRecoverable := by
        by_contra fatal
        cases first.symm.trans (fatal?_eq_some_iff.2 ⟨rfl, fatal⟩)
      rw [ofOutcomes_abandoned recoverable, reports, Notice.ofEventError, if_pos recoverable]
      refine ⟨aborted, ?_, rfl⟩
      show 0 + (ofOutcomes os).completed + ((ofOutcomes os).failed.length + 1) = _
      omega

end RunSummary

namespace Pass

variable {μ : Type} [Stage μ] {detectors : List Detector} {event : Nat} {e : EventError}

/-- A stage that fails, for want of its detector or in what it does, does so in the event of the
pass. -/
lemma event_of_runStage {i : StageId} {p : Pass μ} (h : (p.runStage detectors event i).1 = .error e) :
    e.event = event := by
  unfold runStage at h
  split at h
  · cases h
  · split at h
    · cases h
      rfl
    · dsimp only at h
      split at h
      · cases h
      · cases h
        rfl

/-- The failure of a pass is one in its event. -/
lemma event_of_runAll {order : List StageId} {p : Pass μ} (h : (p.runAll detectors event order).1 = .error e) :
    e.event = event := by
  induction order generalizing p with
  | nil => cases h
  | cons i rest ih =>
    rw [runAll] at h
    split at h
    · exact ih h
    · rename_i run
      cases h
      exact event_of_runStage (congrArg Prod.fst run)

end Pass

namespace Simulation

variable {μ : Type} [Stage μ] (s : Simulation μ)

/-- The simulation after some events, whatever came of them. -/
def after (k : Nat) : Simulation μ :=
  s.replay (List.replicate k .runEvent)

/-- The outcome of the event that comes a number of events later. -/
def outcome (i : Nat) : Except EventError EventMetrics :=
  (s.after i).runEvent.1

/-- The outcomes of the next events in order. -/
def outcomes (k : Nat) : List (Except EventError EventMetrics) :=
  (List.range k).map s.outcome

/-- The event that comes a number of events later fails in a way that ends a run. -/
def EndsRun (i : Nat) : Prop :=
  ∃ e, s.outcome i = .error e ∧ ¬ e.isRecoverable

/-- A run of up to `n` events attempts `k` of them: all, where none ends the run, and otherwise
those up to the first that does. -/
def Attempts (n k : Nat) : Prop :=
  (k = n ∧ ∀ i < n, ¬ s.EndsRun i) ∨ ∃ j < n, k = j + 1 ∧ s.EndsRun j ∧ ∀ i < j, ¬ s.EndsRun i

/-! ## One event -/

/-- The failure of an event bears its number. -/
lemma event_of_runEvent {e : EventError} (h : s.runEvent.1 = .error e) : e.event = s.nextEvent := by
  rw [runEvent_fst] at h
  cases outcome : s.pass.1 with
  | ok done =>
    rw [outcome] at h
    cases h
  | error f =>
    rw [outcome] at h
    cases h
    exact Pass.event_of_runAll outcome

/-- An event adds itself to the count of completed events, or its failure to the journal. -/
lemma runEvent_counts : s.runEvent.2.completed = s.completed + [s.runEvent.1].countP Except.isOk ∧
    s.runEvent.2.journal = s.journal ++ reports s.runEvent.1 := by
  unfold runEvent
  dsimp only
  split
  · exact ⟨rfl, (List.append_nil _).symm⟩
  · exact ⟨rfl, rfl⟩

/-! ## Events in a row -/

/-- The first of some events comes before the others. -/
lemma after_succ (k : Nat) : s.after (k + 1) = s.runEvent.2.after k :=
  rfl

/-- The outcome of the first of some events comes before those of the others. -/
lemma outcomes_succ (k : Nat) : s.outcomes (k + 1) = s.runEvent.1 :: s.runEvent.2.outcomes k := by
  rw [outcomes, List.range_succ_eq_map, List.map_cons, List.map_map]
  rfl

/-- Every event moves the number of the next one up by one. -/
lemma nextEvent_after (k : Nat) : (s.after k).nextEvent = s.nextEvent + k :=
  s.nextEvent_replay_replicate k

/-- The failure of an event bears the number of the event, however many came before. -/
lemma event_of_outcome {i : Nat} {e : EventError} (h : s.outcome i = .error e) : e.event = s.nextEvent + i := by
  rw [← nextEvent_after]
  exact event_of_runEvent _ h

/-- What events in a row add to the count and to the journal. -/
lemma after_counts (k : Nat) : (s.after k).completed = s.completed + (s.outcomes k).countP Except.isOk ∧
    (s.after k).journal = s.journal ++ (s.outcomes k).flatMap reports := by
  induction k generalizing s with
  | zero => exact ⟨rfl, (List.append_nil _).symm⟩
  | succ k ih =>
    obtain ⟨completed, journal⟩ := s.runEvent_counts
    obtain ⟨later, said⟩ := ih s.runEvent.2
    rw [after_succ, outcomes_succ, later, said, completed, journal]
    refine ⟨?_, ?_⟩
    · rw [Nat.add_assoc, ← List.countP_append, List.singleton_append]
    · rw [List.append_assoc, List.flatMap_cons]

/-! ## Runs -/

/-- The next event ends a run exactly when its failure is fatal. -/
lemma endsRun_zero_iff : s.EndsRun 0 ↔ (fatal? s.runEvent.1).isSome := by
  simp only [Option.isSome_iff_exists, fatal?_eq_some_iff]
  rfl

/-- A run attempts one event more when the first does not end it. -/
lemma Attempts.succ {n k : Nat} (h : s.runEvent.2.Attempts n k) (goes : ¬ s.EndsRun 0) :
    s.Attempts (n + 1) (k + 1) := by
  have shift : ∀ m, (∀ i < m, ¬ s.runEvent.2.EndsRun i) → ∀ i < m + 1, ¬ s.EndsRun i := by
    intro m h i hi
    cases i with
    | zero => exact goes
    | succ i => exact h i (Nat.lt_of_succ_lt_succ hi)
  rcases h with ⟨rfl, earlier⟩ | ⟨j, hj, rfl, ends, earlier⟩
  · exact .inl ⟨rfl, shift k earlier⟩
  · exact .inr ⟨j + 1, Nat.succ_lt_succ hj, rfl, ends, shift j earlier⟩

/-- A run ends with its first event or goes on with the next one. -/
lemma run_succ (n : Nat) : s.run (n + 1) =
    if (fatal? s.runEvent.1).isSome then (.ofOutcomes [s.runEvent.1], s.runEvent.2)
    else ((RunSummary.ofOutcomes [s.runEvent.1]).append (s.runEvent.2.run n).1, (s.runEvent.2.run n).2) := by
  rw [run]
  split
  · rename_i metrics t h
    rw [h]
    show _ = ((RunSummary.ofOutcomes [.ok metrics]).append (t.run n).1, (t.run n).2)
    rw [RunSummary.ofOutcomes_ok, RunSummary.append, Option.none_or, Nat.add_comm, List.nil_append]
  · rename_i e t h
    rw [h]
    split
    · rename_i recoverable
      rw [RunSummary.ofOutcomes_abandoned recoverable, fatal?, if_pos recoverable]
      show _ = (RunSummary.append { failed := [e] } (t.run n).1, (t.run n).2)
      rw [RunSummary.append, Option.none_or, Nat.zero_add, List.singleton_append]
    · rename_i fatal
      rw [RunSummary.ofOutcomes_fatal fatal, fatal?, if_neg fatal]
      rfl

/-- A run is made of the events that it attempts. -/
lemma run_eq (n : Nat) : ∃ k, s.Attempts n k ∧ s.run n = (.ofOutcomes (s.outcomes k), s.after k) := by
  induction n generalizing s with
  | zero => exact ⟨0, .inl ⟨rfl, nofun⟩, rfl⟩
  | succ n ih =>
    rw [run_succ]
    split
    · rename_i ends
      refine ⟨1, .inr ⟨0, Nat.succ_pos n, rfl, s.endsRun_zero_iff.2 ends, nofun⟩, ?_⟩
      rw [outcomes_succ]
      rfl
    · rename_i goes
      obtain ⟨k, block, eq⟩ := ih s.runEvent.2
      refine ⟨k + 1, block.succ s (mt s.endsRun_zero_iff.1 goes), ?_⟩
      rw [eq, after_succ, outcomes_succ, RunSummary.ofOutcomes_cons (s.runEvent.2.outcomes k)]

/-- The outcome of the last of some events comes behind those of the others. -/
lemma outcomes_snoc (k : Nat) : s.outcomes (k + 1) = s.outcomes k ++ [s.outcome k] := by
  rw [outcomes, List.range_succ, List.map_append]
  rfl

/-- Every event has an outcome. -/
lemma length_outcomes (k : Nat) : (s.outcomes k).length = k := by
  rw [outcomes, List.length_map, List.length_range]

/-- The outcomes are those of the events one by one. -/
lemma mem_outcomes {o : Except EventError EventMetrics} {k : Nat} : o ∈ s.outcomes k ↔ ∃ i < k, s.outcome i = o := by
  simp [outcomes]

/-- In a block no event ends the run, or only the last one does. -/
lemma Attempts.cases {n k : Nat} (h : s.Attempts n k) :
    (∀ o ∈ s.outcomes k, fatal? o = none) ∨
    ∃ j e, k = j + 1 ∧ s.outcome j = .error e ∧ ¬ e.isRecoverable ∧ ∀ o ∈ s.outcomes j, fatal? o = none := by
  have going : ∀ m, (∀ i < m, ¬ s.EndsRun i) → ∀ o ∈ s.outcomes m, fatal? o = none := by
    intro m earlier o ho
    obtain ⟨i, hi, rfl⟩ := s.mem_outcomes.1 ho
    cases h : fatal? (s.outcome i) with
    | none => rfl
    | some e => exact absurd ⟨e, fatal?_eq_some_iff.1 h⟩ (earlier i hi)
  rcases h with ⟨rfl, earlier⟩ | ⟨j, -, rfl, ⟨e, failed, fatal⟩, earlier⟩
  · exact .inl (going k earlier)
  · exact .inr ⟨j, e, rfl, failed, fatal, going j earlier⟩

end Simulation

/-- A summary tells the outcomes of a block of events apart: the failures that the run went on
after, in order, the one that ended it, if it was the last, and the number of all others. -/
structure RunSummary.Partitions {μ : Type} [Stage μ] (r : RunSummary) (s : Simulation μ) (k : Nat) : Prop where
  failed : ∀ e, e ∈ r.failed ↔ ∃ i < k, s.outcome i = .error e ∧ e.isRecoverable
  ascending : (r.failed.map EventError.event).Pairwise (· < ·)
  aborted : ∀ e, r.aborted = some e ↔ ∃ i, k = i + 1 ∧ s.outcome i = .error e ∧ ¬ e.isRecoverable
  completed : r.completed = (s.outcomes k).countP Except.isOk
  total : r.completed + r.failed.length + r.aborted.toList.length = k

namespace Simulation

variable {μ : Type} [Stage μ] (s : Simulation μ)

/-- The failures in the summary are the recoverable ones among the outcomes. -/
lemma mem_failed_iff {k : Nat} {e : EventError} :
    e ∈ (RunSummary.ofOutcomes (s.outcomes k)).failed ↔ ∃ i < k, s.outcome i = .error e ∧ e.isRecoverable := by
  simp only [RunSummary.ofOutcomes, List.mem_filterMap, mem_outcomes, abandoned?_eq_some_iff]
  refine ⟨?_, ?_⟩
  · rintro ⟨o, ⟨i, hi, rfl⟩, failed, recoverable⟩
    exact ⟨i, hi, failed, recoverable⟩
  · rintro ⟨i, hi, failed, recoverable⟩
    exact ⟨_, ⟨i, hi, rfl⟩, failed, recoverable⟩

/-- The failures of a summary are in the order of their events. -/
lemma ascending_failed (k : Nat) :
    ((RunSummary.ofOutcomes (s.outcomes k)).failed.map EventError.event).Pairwise (· < ·) := by
  rw [RunSummary.ofOutcomes, outcomes, List.pairwise_map, List.pairwise_filterMap, List.pairwise_map]
  refine List.pairwise_lt_range.imp ?_
  intro i j before e he f hf
  rw [s.event_of_outcome (abandoned?_eq_some_iff.1 he).1, s.event_of_outcome (abandoned?_eq_some_iff.1 hf).1]
  exact Nat.add_lt_add_left before _

/-- The summary of a block names its last event as the one that ended the run, if it did, and every
event is one of those that were completed, those named as failed, and that one. What there is to say
about the block are the failures in the same order. -/
lemma Attempts.summary {n k : Nat} (h : s.Attempts n k) {r : RunSummary} (hr : r = .ofOutcomes (s.outcomes k)) :
    (∀ e, r.aborted = some e ↔ ∃ i, k = i + 1 ∧ s.outcome i = .error e ∧ ¬ e.isRecoverable) ∧
    r.completed + r.failed.length + r.aborted.toList.length = k ∧
    (s.outcomes k).flatMap reports = r.failed.map .abandoned ++ r.aborted.toList.map .fatal := by
  -- No event ended the block, or the last one did.
  rcases h.cases with going | ⟨j, e, rfl, failed, fatal, going⟩
  · obtain ⟨aborted, total, said⟩ := RunSummary.ofOutcomes_of_going going
    rw [← hr] at aborted total said
    rw [length_outcomes] at total
    rw [aborted, said, total]
    refine ⟨fun e => ⟨?_, ?_⟩, rfl, (List.append_nil _).symm⟩
    · intro h
      cases h
    · rintro ⟨i, rfl, failed, fatal⟩
      have here := going _ (s.mem_outcomes.2 ⟨i, Nat.lt_succ_self i, failed⟩)
      cases here.symm.trans (fatal?_eq_some_iff.2 ⟨rfl, fatal⟩)
  · obtain ⟨aborted, total, said⟩ := RunSummary.ofOutcomes_of_going going
    rw [length_outcomes] at total
    rw [outcomes_snoc, failed, RunSummary.ofOutcomes_append, RunSummary.ofOutcomes_fatal fatal, RunSummary.append,
      aborted, Nat.add_zero, List.append_nil] at hr
    rw [hr, outcomes_snoc, failed, List.flatMap_append, said]
    refine ⟨fun f => ⟨?_, ?_⟩, ?_, ?_⟩
    · intro h
      cases h
      exact ⟨j, rfl, failed, fatal⟩
    · rintro ⟨i, hi, failed', -⟩
      cases hi
      rw [failed] at failed'
      cases failed'
      rfl
    · show (RunSummary.ofOutcomes (s.outcomes j)).completed + _ + 1 = j + 1
      rw [total]
    · rw [List.flatMap_singleton, reports, Notice.ofEventError, if_neg fatal]
      rfl

/-- A run that no event ended goes on as another run, and one that was ended does not go on. -/
lemma run_add (a b : Nat) : s.run (a + b) =
    if (s.run a).1.aborted.isSome then s.run a
    else ((s.run a).1.append ((s.run a).2.run b).1, ((s.run a).2.run b).2) := by
  induction a generalizing s with
  | zero =>
    rw [Nat.zero_add]
    show s.run b = (RunSummary.append {} (s.run b).1, (s.run b).2)
    rw [RunSummary.nil_append]
  | succ a ih =>
    have one : (RunSummary.ofOutcomes [s.runEvent.1]).aborted = fatal? s.runEvent.1 := by
      cases h : fatal? s.runEvent.1 <;> simp [RunSummary.ofOutcomes, h]
    rw [Nat.add_right_comm, run_succ, run_succ, ih]
    split
    · rename_i ends
      rw [if_pos (one ▸ ends)]
    · rename_i goes
      rw [Option.not_isSome_iff_eq_none] at goes
      have later : ((RunSummary.ofOutcomes [s.runEvent.1]).append (s.runEvent.2.run a).1).aborted =
          (s.runEvent.2.run a).1.aborted := by
        rw [RunSummary.append, one, goes, Option.none_or]
      rw [later]
      split
      · rfl
      · rw [RunSummary.append_assoc]

/-- A run attempts a block of consecutive events, as many as it was asked for, or those up to the
first that ends it. Its summary tells their outcomes apart, each failure bears the number of its
event, and afterwards the simulation is the one after these events: its counters have gone along
with the summary, and its journal has a warning of each failure and an error for the event that
ended the run, in order. A run that goes on with another one is one run. -/
theorem run_partitions (n : Nat) :
    (∃ k, s.Attempts n k ∧ (s.run n).1.Partitions s k ∧
      (∀ i, (s.after i).nextEvent = s.nextEvent + i) ∧
      (∀ i e, s.outcome i = .error e → e.event = s.nextEvent + i) ∧
      (s.run n).2 = s.after k ∧
      (s.run n).2.nextEvent = s.nextEvent + k ∧
      (s.run n).2.completed = s.completed + (s.run n).1.completed ∧
      ∃ new, (s.run n).2.journal = s.journal ++ new ∧
        new = (s.run n).1.failed.map .abandoned ++ (s.run n).1.aborted.toList.map .fatal ∧
        new.map Notice.level = List.replicate (s.run n).1.failed.length .warning ++
          List.replicate (s.run n).1.aborted.toList.length .error) ∧
    ∀ m, ((s.run n).1.aborted = none →
        s.run (n + m) = ((s.run n).1.append ((s.run n).2.run m).1, ((s.run n).2.run m).2)) ∧
      ((s.run n).1.aborted ≠ none → s.run (n + m) = s.run n) := by
  refine ⟨?_, fun m => ⟨?_, ?_⟩⟩
  · obtain ⟨k, block, eq⟩ := s.run_eq n
    obtain ⟨aborted, total, said⟩ := block.summary s rfl
    obtain ⟨completed, journal⟩ := s.after_counts k
    rw [eq]
    refine ⟨k, block, ⟨fun e => s.mem_failed_iff, s.ascending_failed k, aborted, rfl, total⟩, s.nextEvent_after,
      fun i e => s.event_of_outcome, rfl, s.nextEvent_after k, completed, _, journal, said, ?_⟩
    rw [said, List.map_append, List.map_map, List.map_map]
    simp [Function.comp_def, Notice.level]
  · intro going
    rw [run_add, going]
    rfl
  · intro ended
    rw [run_add, if_pos (Option.isSome_iff_ne_none.2 ended)]

end Simulation

/-- A stage that fails in the second and in the fourth event, of which only the latter ends a
run. -/
def falteringPlan : Plan Stage.Standard where
  detectors := []
  members :=
    [⟨.relay { name := "source", failures := [(2, .executionFailed "late"), (4, .nonRecoverable "broken")] }, default⟩]

/-- Asked for five events, a run of that stage completes two, abandons one and is ended by the
fourth. Its first three are a run of their own. -/
theorem run_partitions_falteringPlan :
    ∃ s, Simulation.ofPlan .empty falteringPlan = .ok s ∧
      (s.run 5).1 = {
        completed := 2
        failed := [⟨2, "source", none, .executionFailed "late"⟩]
        aborted := some ⟨4, "source", none, .nonRecoverable "broken"⟩ } ∧
      (∃ k, s.Attempts 5 k ∧ (s.run 5).1.Partitions s k ∧ (s.run 5).2.nextEvent = s.nextEvent + k) ∧
      (s.run 3).1.aborted = none ∧
      s.run (3 + 2) = ((s.run 3).1.append ((s.run 3).2.run 2).1, ((s.run 3).2.run 2).2) := by
  have summaries : (Simulation.ofPlan .empty falteringPlan).toOption.map (fun s => ((s.run 5).1, (s.run 3).1.aborted)) =
      some ({
        completed := 2
        failed := [⟨2, "source", none, .executionFailed "late"⟩]
        aborted := some ⟨4, "source", none, .nonRecoverable "broken"⟩ }, none) := by
    decide +kernel
  obtain ⟨s, accepted, summary⟩ := toOption_map_eq_some_iff.1 summaries
  obtain ⟨all, first⟩ := Prod.mk.inj summary
  obtain ⟨⟨k, block, parts, -, -, -, next, -⟩, -⟩ := s.run_partitions 5
  exact ⟨s, accepted, all, ⟨k, block, parts, next⟩, first, ((s.run_partitions 3).2 2).1 first⟩

end SensorSim.Run
