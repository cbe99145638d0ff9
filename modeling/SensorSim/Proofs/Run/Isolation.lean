import Mathlib
import SensorSim.Proofs.Run.History
import SensorSim.Proofs.Stage.Seen

/-!
# Events in isolation

Two simulations are alike for an event when the event shows the same of both. Plans that are alike
are set up alike (`alike_of_ofPlan`), every other event leaves a simulation alike to what it was
(`Standing.alike_runEvent`), and in the event itself simulations that are alike do the same
(`Alike.runEvent`). So nothing that happens in one event is noticed in another one.
-/

namespace SensorSim.Run

open Bus (StageId)
open Stage (Standard Recorder RunQuestion Program Agree)
open Files (FileSystem)
open Sensor (Detector)

/-- What an event shows of a slot. -/
def Slot.seenIn (n : Nat) (x : Slot Standard) : Standard × Option String :=
  (x.stage.seenIn n, x.detector)

/-- What an event shows of a plan. -/
def Plan.seenIn (n : Nat) (p : Plan Standard) : Plan Standard :=
  { p with members := p.members.map fun m => { m with stage := m.stage.seenIn n } }

section

variable {n : Nat} {slots slots' : List (Slot Standard)}

/-- In slots of which an event shows the same, stages that show the same stand in the same
places. -/
lemma exists_slot_of_seenIn (h : slots.map (Slot.seenIn n) = slots'.map (Slot.seenIn n)) {i : StageId}
    {x : Slot Standard} (hx : slots[i]? = some x) :
    ∃ x', slots'[i]? = some x' ∧ Standard.Alike n x.stage x'.stage ∧ x.detector = x'.detector := by
  have at_i := congrArg (fun l => l[i]?) h
  simp only [List.getElem?_map, hx, Option.map_some] at at_i
  obtain ⟨x', hx', eq⟩ := Option.map_eq_some_iff.1 at_i.symm
  exact ⟨x', hx', (congrArg Prod.fst eq).symm, (congrArg Prod.snd eq).symm⟩

/-- Slots of which an event shows the same may be exchanged for two that show the same. -/
lemma seenIn_set (h : slots.map (Slot.seenIn n) = slots'.map (Slot.seenIn n)) (i : StageId) {x x' : Slot Standard}
    (same : x.seenIn n = x'.seenIn n) :
    (slots.set i x).map (Slot.seenIn n) = (slots'.set i x').map (Slot.seenIn n) := by
  rw [List.map_set, List.map_set, h, same]

end

/-! ## Setup -/

/-- Sites of which an event shows the same. -/
structure Site.Alike (n : Nat) (site site' : Site Standard) : Prop where
  done : site.done.map (Slot.seenIn n) = site'.done.map (Slot.seenIn n)
  detectors : site.detectors = site'.detectors
  bus : site.bus = site'.bus
  tables : site.tables = site'.tables
  journal : site.journal = site'.journal

section

variable {n : Nat} {files : FileSystem} {m m' : Member Standard} {site site' : Site Standard}

/-- A stage whose detector is missing is refused, and stands on the site as it was. -/
lemma setUpStage_of_missing {name : String} (own : Stage.detector? m.stage = some name)
    (missing : findDetector? site.detectors name = none) :
    site.setUpStage files m = (.error (.unknownDetector (Stage.name m.stage) name),
      { site with done := site.done ++ [⟨m.stage, m.config, Stage.detector? m.stage⟩] }) := by
  simp only [Site.setUpStage, own, Option.bind_some, missing]

/-- The attempts to set up stages that show the same end alike. -/
lemma Site.Alike.attempt (files : FileSystem) (h : site.Alike n site') (stages : Standard.Alike n m.stage m'.stage)
    (configs : m.config = m'.config) : Agree n (site.attempt files m) (site'.attempt files m') := by
  have count : site.done.length = site'.done.length := by
    simpa using congrArg List.length h.done
  have bench : site.bench m = site'.bench m' := by
    rw [Site.bench, Site.bench, h.detectors, h.bus, h.tables, stages.detector]
  rw [Site.attempt, Site.attempt, count, bench, configs]
  exact stages.setUp files _ _

/-- Stages that show the same are set up alike. -/
lemma Site.Alike.setUpStage (files : FileSystem) (h : site.Alike n site') (stages : Standard.Alike n m.stage m'.stage)
    (configs : m.config = m'.config) :
    (site.setUpStage files m).1 = (site'.setUpStage files m').1 ∧
      (site.setUpStage files m).2.Alike n (site'.setUpStage files m').2 := by
  by_cases there : ∀ name, Stage.detector? m.stage = some name → ∃ d, findDetector? site.detectors name = some d
  · have there' : ∀ name, Stage.detector? m'.stage = some name → ∃ d, findDetector? site'.detectors name = some d := by
      rw [← stages.detector, ← h.detectors]
      exact there
    have agree := h.attempt files stages configs
    rcases run : site.attempt files m with ⟨⟨outcome, stage⟩, bench⟩
    rcases run' : site'.attempt files m' with ⟨⟨outcome', stage'⟩, bench'⟩
    rw [run, run'] at agree
    obtain ⟨rfl, after, rfl⟩ : outcome = outcome' ∧ Standard.Alike n stage stage' ∧ bench = bench' :=
      ⟨agree.outcome, agree.stage, agree.surroundings⟩
    rw [setUpStage_eq there run, setUpStage_eq there' run', stages.detector, after.name, h.detectors, h.journal]
    refine ⟨rfl, ?_, rfl, rfl, rfl, rfl⟩
    rw [List.map_append, List.map_append, h.done, List.map_singleton, List.map_singleton, Slot.seenIn, Slot.seenIn,
      after]
  · push Not at there
    obtain ⟨name, own, missing⟩ := there
    have missing := Option.eq_none_iff_forall_ne_some.2 missing
    have own' : Stage.detector? m'.stage = some name := by rw [← stages.detector, own]
    rw [setUpStage_of_missing own missing, setUpStage_of_missing own' (h.detectors ▸ missing), stages.name,
      stages.detector]
    refine ⟨rfl, ?_, h.detectors, h.bus, h.tables, h.journal⟩
    rw [List.map_append, List.map_append, h.done, List.map_singleton, List.map_singleton, Slot.seenIn, Slot.seenIn,
      stages]

/-- Lists of stages that show the same are set up alike. -/
lemma Site.Alike.setUpAll {members members' : List (Member Standard)} (h : site.Alike n site')
    (same : members.map (fun m => ({ m with stage := m.stage.seenIn n } : Member Standard)) =
      members'.map fun m => { m with stage := m.stage.seenIn n })
    {after after' : Site Standard} (run : Site.setUpAll files members site = (.ok (), after))
    (run' : Site.setUpAll files members' site' = (.ok (), after')) : after.Alike n after' := by
  induction members generalizing members' site site' with
  | nil =>
    obtain rfl := List.map_eq_nil_iff.1 same.symm
    cases run
    cases run'
    exact h
  | cons m rest ih =>
    obtain ⟨m', rest', rfl, head, tail⟩ := List.map_eq_cons_iff.1 same.symm
    have stages : Standard.Alike n m.stage m'.stage := (congrArg Member.stage head).symm
    have configs : m.config = m'.config := (congrArg Member.config head).symm
    obtain ⟨outcome, next⟩ := h.setUpStage files stages configs
    rw [Site.setUpAll] at run run'
    split at run
    · rename_i site₁ first
      split at run'
      · rename_i site₁' first'
        rw [first, first'] at next
        exact ih next tail.symm run run'
      · cases run'
    · cases run

end

/-- Simulations of which an event shows the same. -/
structure Simulation.Alike (n : Nat) (s s' : Simulation Standard) : Prop where
  slots : s.slots.map (Slot.seenIn n) = s'.slots.map (Slot.seenIn n)
  order : s.order = s'.order
  detectors : s.detectors = s'.detectors
  subscriptions : s.bus.subscriptions = s'.bus.subscriptions
  publications : s.bus.publications = s'.bus.publications

/-- Plans that show the same are set up alike. -/
lemma alike_of_ofPlan {n : Nat} {files : FileSystem} {p p' : Plan Standard} {s s' : Simulation Standard}
    (same : p.seenIn n = p'.seenIn n) (accepted : Simulation.ofPlan files p = .ok s)
    (accepted' : Simulation.ofPlan files p' = .ok s') : s.Alike n s' := by
  have members : (p.seenIn n).members = (p'.seenIn n).members := by rw [same]
  have detectors : (p.seenIn n).detectors = (p'.seenIn n).detectors := by rw [same]
  have limit : (p.seenIn n).limit = (p'.seenIn n).limit := by rw [same]
  simp only [Plan.seenIn] at members detectors limit
  have start : (Site.ofPlan p).Alike n (Site.ofPlan p') := by
    rw [Site.ofPlan, Site.ofPlan, detectors, limit]
    exact ⟨rfl, rfl, rfl, rfl, rfl⟩
  obtain ⟨site, order, run, scheduled, rfl⟩ := exists_site_of_ofPlan accepted
  obtain ⟨site', order', run', scheduled', rfl⟩ := exists_site_of_ofPlan accepted'
  have alike := start.setUpAll members run run'
  have count : site.done.length = site'.done.length := by
    simpa using congrArg List.length alike.done
  rw [← count, ← alike.bus, scheduled] at scheduled'
  cases scheduled'
  exact ⟨alike.done, rfl, alike.detectors, congrArg Bus.subscriptions alike.bus,
    congrArg Bus.publications alike.bus⟩

/-! ## Events -/

/-- Passes of which an event shows the same. -/
structure Pass.Alike (n : Nat) (p p' : Pass Standard) : Prop where
  slots : p.slots.map (Slot.seenIn n) = p'.slots.map (Slot.seenIn n)
  bus : p.bus = p'.bus
  ran : p.ran = p'.ran

section

variable {n : Nat} {detectors : List Detector} {p p' : Pass Standard}

/-- A stage whose detector is missing fails in its turn, and nothing happens. -/
lemma runStage_of_missing {i : StageId} {x : Slot Standard} (hx : p.slots[i]? = some x) {name : String}
    (own : x.detector = some name) (missing : findDetector? detectors name = none) :
    p.runStage detectors n i = (.error ⟨n, Stage.name x.stage, some name, .missingDetector⟩, p) := by
  simp only [Pass.runStage, hx, own, Option.bind_some, missing]

/-- In the event itself a stage does the same in passes that show the same. -/
lemma Pass.Alike.runStage (detectors : List Detector) (h : p.Alike n p') (i : StageId) :
    (p.runStage detectors n i).1 = (p'.runStage detectors n i).1 ∧
      (p.runStage detectors n i).2.Alike n (p'.runStage detectors n i).2 := by
  cases hx : p.slots[i]? with
  | none =>
    have hx' : p'.slots[i]? = none := by
      rw [List.getElem?_eq_none_iff] at hx ⊢
      have count := congrArg List.length h.slots
      rw [List.length_map, List.length_map] at count
      rwa [← count]
    rw [Pass.runStage, hx, Pass.runStage, hx']
    exact ⟨rfl, h⟩
  | some x =>
    obtain ⟨x', hx', stages, own⟩ := exists_slot_of_seenIn h.slots hx
    by_cases there : ∀ name, x.detector = some name → ∃ d, findDetector? detectors name = some d
    · have there' : ∀ name, x'.detector = some name → ∃ d, findDetector? detectors name = some d := by
        rw [← own]
        exact there
      rcases run : Program.run (RunQuestion.answer i) (Stage.run (x.context detectors n i) x.stage) p.bus with
        ⟨⟨outcome, stage⟩, bus⟩
      rcases run' : Program.run (RunQuestion.answer i) (Stage.run (x'.context detectors n i) x'.stage) p'.bus with
        ⟨⟨outcome', stage'⟩, bus'⟩
      have same : x.context detectors n i = x'.context detectors n i := by
        rw [Slot.context, own, Slot.context]
      -- The stages show the same and are shown the same, so they run alike.
      have agree := Standard.Alike.run (x.context detectors n i) (i := i) stages p.bus
      rw [← same, ← h.bus] at run'
      rw [run, run'] at agree
      obtain ⟨rfl, after, rfl⟩ : outcome = outcome' ∧ Standard.Alike n stage stage' ∧ bus = bus' :=
        ⟨agree.outcome, agree.stage, agree.surroundings⟩
      rw [h.bus, same] at run'
      rw [runStage_eq hx there run, runStage_eq hx' there' run', own, after.name, h.ran]
      refine ⟨rfl, ?_, rfl, rfl⟩
      exact seenIn_set h.slots i (Prod.ext after rfl)
    · push Not at there
      obtain ⟨name, bound, missing⟩ := there
      have missing := Option.eq_none_iff_forall_ne_some.2 missing
      rw [runStage_of_missing hx bound missing, runStage_of_missing hx' (own ▸ bound) missing, stages.name]
      exact ⟨rfl, h⟩

/-- In the event itself all stages do the same in passes that show the same. -/
lemma Pass.Alike.runAll (detectors : List Detector) (h : p.Alike n p') (order : List StageId) :
    (p.runAll detectors n order).1 = (p'.runAll detectors n order).1 ∧
      (p.runAll detectors n order).2.Alike n (p'.runAll detectors n order).2 := by
  induction order generalizing p p' with
  | nil => exact ⟨rfl, h⟩
  | cons i rest ih =>
    obtain ⟨outcome, next⟩ := h.runStage detectors i
    rw [Pass.runAll, Pass.runAll]
    rcases run : p.runStage detectors n i with ⟨_ | _, p₁⟩
    · rcases run' : p'.runStage detectors n i with ⟨_ | _, p₁'⟩
      · rw [run, run'] at outcome next
        exact ⟨outcome, next⟩
      · rw [run, run'] at outcome
        cases outcome
    · rcases run' : p'.runStage detectors n i with ⟨_ | _, p₁'⟩
      · rw [run, run'] at outcome
        cases outcome
      · rw [run, run'] at next
        exact ih next

end

namespace Simulation.Alike

variable {n : Nat} {s s' s'' : Simulation Standard}

lemma symm (h : s.Alike n s') : s'.Alike n s :=
  ⟨h.slots.symm, h.order.symm, h.detectors.symm, h.subscriptions.symm, h.publications.symm⟩

lemma trans (h : s.Alike n s') (h' : s'.Alike n s'') : s.Alike n s'' :=
  ⟨h.slots.trans h'.slots, h.order.trans h'.order, h.detectors.trans h'.detectors,
    h.subscriptions.trans h'.subscriptions, h.publications.trans h'.publications⟩

/-- The event itself gives the same result, and shows the same afterwards. -/
lemma runEvent (h : s.Alike n s') (next : s.nextEvent = n) (next' : s'.nextEvent = n) :
    s.runEvent.1 = s'.runEvent.1 ∧
      s.runEvent.2.slots.map (Slot.seenIn n) = s'.runEvent.2.slots.map (Slot.seenIn n) := by
  have start : s.start.Alike n s'.start := by
    refine ⟨h.slots, ?_, rfl⟩
    simp only [Simulation.start, Bus.beginEvent, next, next', h.subscriptions, h.publications]
  obtain ⟨outcome, after⟩ := start.runAll s.detectors s.order
  have pass : s.pass = s.start.runAll s.detectors n s.order := by rw [Simulation.pass, next]
  have pass' : s'.pass = s'.start.runAll s.detectors n s.order := by
    rw [Simulation.pass, next', h.detectors, h.order]
  rw [← pass, ← pass'] at outcome after
  refine ⟨?_, ?_⟩
  · rw [Simulation.runEvent_fst, Simulation.runEvent_fst, outcome, after.ran, after.bus]
  · rw [s.runEvent_snd.1, s'.runEvent_snd.1]
    exact after.slots

end Simulation.Alike

/-- Another event leaves a simulation alike. -/
lemma Standing.alike_runEvent {stages : List Standard} {respected : Bus.Requirement → Prop}
    {s : Simulation Standard} (w : Standing stages respected s) {n : Nat} (other : s.nextEvent ≠ n) :
    s.runEvent.2.Alike n s := by
  obtain ⟨-, bus, detectors, order⟩ := s.runEvent_snd
  have w' := w.runEvent
  have declared : s.runEvent.2.bus.subscriptions = s.bus.subscriptions ∧
      s.runEvent.2.bus.publications = s.bus.publications := by
    rw [bus, w.takes.bus]
    exact ⟨rfl, rfl⟩
  refine ⟨List.ext_getElem? fun i => ?_, order, detectors, declared.1, declared.2⟩
  rw [List.getElem?_map, List.getElem?_map]
  cases hm : stages[i]? with
  | none =>
    have beyond : ∀ t : Simulation Standard, SlotsOf stages t.slots → t.slots[i]? = none := by
      intro t slots
      cases hx : t.slots[i]? with
      | none => rfl
      | some x =>
        obtain ⟨m, hm', -⟩ := slots.exists_stage hx
        rw [hm] at hm'
        cases hm'
    rw [beyond _ w.slots, beyond _ w'.slots]
  | some m =>
    obtain ⟨x, hx, same, own⟩ := w.slots.exists_slot hm
    obtain ⟨x', hx', same', own'⟩ := w'.slots.exists_slot hm
    obtain ⟨found, noted, stamped⟩ := w.heard_runEvent i
    rw [heardAt, hx', heardAt, hx, Option.elim_some, Option.elim_some] at noted
    -- What was recorded is all of another event, which this one does not show.
    have others : found.filter (fun y => y.event == n) = [] := by
      rw [List.filter_eq_nil_iff]
      intro y hy
      rw [stamped y hy, beq_iff_eq]
      exact other
    have heard : x'.stage.heard.filter (fun y => y.event == n) = x.stage.heard.filter fun y => y.event == n := by
      rw [noted, List.filter_append, others, List.append_nil]
    have stage := Standard.Alike.of_fresh (same'.trans same.symm) heard
    rw [hx, hx', Option.map_some, Option.map_some, Slot.seenIn, Slot.seenIn, stage, own, own']

/-- Before the event itself nothing is noticed of the events before it. -/
lemma Standing.alike_replay {stages : List Standard} {respected : Bus.Requirement → Prop}
    {s : Simulation Standard} (w : Standing stages respected s) {n k : Nat} (before : s.nextEvent + k ≤ n) :
    (s.replay (List.replicate k .runEvent)).Alike n s := by
  induction k generalizing s with
  | zero => exact ⟨rfl, rfl, rfl, rfl, rfl⟩
  | succ k ih =>
    have first := w.alike_runEvent (n := n) (by omega)
    have rest := ih w.runEvent (by rw [Simulation.nextEvent_runEvent]; omega)
    exact rest.trans first

/-- Take two plans that differ at most in the failures that relays were told to raise in other
events than the one after `n` events, and in what their stages noted of other events. After `n`
events on both of their simulations, whether these succeeded or not, the next event gives the same
result on both, and a recorder has the same messages of it as the one in its place. -/
theorem runEvent_isolated (files : FileSystem) (p p' : Plan Standard) (n : Nat) (s s' : Simulation Standard)
    (same : p.seenIn (n + 1) = p'.seenIn (n + 1)) (accepted : Simulation.ofPlan files p = .ok s)
    (accepted' : Simulation.ofPlan files p' = .ok s') :
    (s.replay (List.replicate n .runEvent)).runEvent.1 = (s'.replay (List.replicate n .runEvent)).runEvent.1 ∧
    ∀ (i : StageId) (x : Slot Standard) (r : Recorder),
      (s.replay (List.replicate n .runEvent)).runEvent.2.slots[i]? = some x → x.stage = .recorder r →
      ∃ (x' : Slot Standard) (r' : Recorder),
        (s'.replay (List.replicate n .runEvent)).runEvent.2.slots[i]? = some x' ∧ x'.stage = .recorder r' ∧
          r'.ofEvent (n + 1) = r.ofEvent (n + 1) := by
  obtain ⟨stages, -, -, w, -, -, first⟩ := standing_of_ofPlan accepted
  obtain ⟨stages', -, -, w', -, -, first'⟩ := standing_of_ofPlan accepted'
  have begun := alike_of_ofPlan same accepted accepted'
  have still := w.alike_replay (n := n + 1) (k := n) (by omega)
  have still' := w'.alike_replay (n := n + 1) (k := n) (by omega)
  have alike := still.trans (begun.trans still'.symm)
  have next := Simulation.nextEvent_replay_replicate s n
  have next' := Simulation.nextEvent_replay_replicate s' n
  rw [first, Nat.add_comm] at next
  rw [first', Nat.add_comm] at next'
  obtain ⟨outcome, slots⟩ := alike.runEvent next next'
  refine ⟨outcome, fun i x r hx hr => ?_⟩
  obtain ⟨x', hx', stages, -⟩ := exists_slot_of_seenIn slots hx
  rw [hr] at stages
  cases hr' : x'.stage with
  | recorder r' =>
    rw [hr'] at stages
    have messages : r.ofEvent (n + 1) = r'.ofEvent (n + 1) := congrArg Standard.heard stages
    exact ⟨x', r', hx', hr', messages.symm⟩
  | _ =>
    rw [hr'] at stages
    cases stages

/-- A recorder of deposits behind a stage that gives them and was told to fail in some events. -/
def faultyChain (failures : List (Nat × Stage.StageError)) : Plan Standard where
  detectors := []
  members :=
    [⟨.relay { name := "source", gives := [.deposited], failures }, default⟩,
      ⟨.recorder { kind := .deposited }, default⟩]

/-- A failure of the first event that ends a run is not noticed in the second one. -/
theorem runEvent_isolated_faultyChain :
    (faultyChain [(1, .nonRecoverable "broken")]).seenIn (1 + 1) = (faultyChain []).seenIn (1 + 1) ∧
    ∃ s s', Simulation.ofPlan .empty (faultyChain [(1, .nonRecoverable "broken")]) = .ok s ∧
      Simulation.ofPlan .empty (faultyChain []) = .ok s' ∧
      (s.replay (List.replicate 1 .runEvent)).runEvent.1 = (s'.replay (List.replicate 1 .runEvent)).runEvent.1 ∧
      ∀ (i : StageId) (x : Slot Standard) (r : Recorder),
        (s.replay (List.replicate 1 .runEvent)).runEvent.2.slots[i]? = some x → x.stage = .recorder r →
        ∃ (x' : Slot Standard) (r' : Recorder),
          (s'.replay (List.replicate 1 .runEvent)).runEvent.2.slots[i]? = some x' ∧ x'.stage = .recorder r' ∧
            r'.ofEvent (1 + 1) = r.ofEvent (1 + 1) := by
  have same : (faultyChain [(1, .nonRecoverable "broken")]).seenIn (1 + 1) = (faultyChain []).seenIn (1 + 1) := rfl
  obtain ⟨s, accepted⟩ : ∃ s, Simulation.ofPlan .empty (faultyChain [(1, .nonRecoverable "broken")]) = .ok s :=
    ⟨_, rfl⟩
  obtain ⟨s', accepted'⟩ : ∃ s', Simulation.ofPlan .empty (faultyChain []) = .ok s' := ⟨_, rfl⟩
  exact ⟨same, s, s', accepted, accepted', runEvent_isolated .empty _ _ 1 s s' same accepted accepted'⟩

end SensorSim.Run
