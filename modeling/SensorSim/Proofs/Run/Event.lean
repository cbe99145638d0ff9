import Mathlib
import SensorSim.Proofs.Run.History

/-!
# Events of relays and recorders

A simulation of relays and recorders stays ready for the next event whatever is called on it, and an
event succeeds exactly when it is feasible. So the answer is read off the plan and the number of the
event, and neither the order of the stages in the plan nor anything that happened before matters.
`Ready.runEvent` is the step and `Ready.replay` the run.
-/

namespace SensorSim.Run

open Stage (Standard)
open Files (FileSystem)

/-- A simulation of these relays and recorders that is ready for the next event. -/
structure Ready (stages : List Standard) (s : Simulation Standard) : Prop where
  fixture : ∀ m ∈ stages, m.IsFixture
  standing : Standing stages (· = .required) s

/-- A plan of relays and recorders that is set up gives a simulation that is ready for its first
event. -/
lemma ready_of_ofPlan {files : FileSystem} {p : Plan Standard} {s : Simulation Standard}
    (fixture : ∀ m ∈ p.members, m.stage.IsFixture) (h : Simulation.ofPlan files p = .ok s) :
    Ready (p.members.map Member.stage) s ∧ s.nextEvent = 1 := by
  obtain ⟨stages, same, -, standing, -, -, first⟩ := standing_of_ofPlan h
  have targets : ∀ t ∈ p.members.map Member.stage, t.IsFixture := by
    simpa using fixture
  have sames : stages.map Standard.blank = (p.members.map Member.stage).map Standard.blank := by
    rw [same, List.map_map]
    rfl
  rw [Standard.eq_of_map_blank targets sames] at standing
  exact ⟨⟨targets, standing.imp fun r => .inl⟩, first⟩

namespace Ready

variable {stages : List Standard} {s : Simulation Standard}

/-- Whether the next event succeeds is a matter of the stages alone, and the simulation is ready
again afterwards. -/
lemma runEvent (r : Ready stages s) :
    ((∃ metrics, s.runEvent.1 = .ok metrics) ↔ Feasible stages s.nextEvent) ∧ Ready stages s.runEvent.2 := by
  refine ⟨?_, r.fixture, r.standing.runEvent⟩
  have w : Underway stages s.nextEvent s.start := ⟨r.standing.slots, rfl, r.standing.holds.congr rfl rfl, .nil⟩
  have through := runAll_of_underway r.fixture r.standing.bound r.standing.known w
  rw [← through_iff_feasible (r.standing.needs rfl), Simulation.runEvent_eq_ok_iff]
  exact through

/-- Whatever is called in whatever order, the simulation stays ready. -/
lemma replay (r : Ready stages s) (calls : List Simulation.Call) : Ready stages (s.replay calls) :=
  ⟨r.fixture, r.standing.replay calls⟩

end Ready

/-- After any calls on a simulation of relays and recorders the next event succeeds exactly when it
is feasible for the stages of the plan, and every number is that of some event. A plan with the same
stages in another order gives the same answer for an event of the same number, whatever was called
before. -/
theorem runEvent_eq_ok_iff_feasible (files : FileSystem) (p : Plan Standard) (s : Simulation Standard)
    (fixture : ∀ m ∈ p.members, m.stage.IsFixture) (accepted : Simulation.ofPlan files p = .ok s) :
    (∀ calls, (∃ metrics, (s.replay calls).runEvent.1 = .ok metrics) ↔
      Feasible (p.members.map Member.stage) (s.replay calls).nextEvent) ∧
    (∀ n, ∃ calls, (s.replay calls).nextEvent = n + 1) ∧
    ∀ files' p' s', (p'.members.map Member.stage).Perm (p.members.map Member.stage) →
      Simulation.ofPlan files' p' = .ok s' → ∀ calls calls',
        (s'.replay calls').nextEvent = (s.replay calls).nextEvent →
        ((∃ metrics, (s'.replay calls').runEvent.1 = .ok metrics) ↔
          ∃ metrics, (s.replay calls).runEvent.1 = .ok metrics) := by
  obtain ⟨ready, first⟩ := ready_of_ofPlan fixture accepted
  refine ⟨fun calls => (ready.replay calls).runEvent.1, fun n => ?_, ?_⟩
  · refine ⟨List.replicate n .runEvent, ?_⟩
    rw [Simulation.nextEvent_replay_replicate, first, Nat.add_comm]
  · intro files' p' s' perm accepted' calls calls' same
    have fixture' : ∀ m ∈ p'.members, m.stage.IsFixture := by
      intro m hm
      obtain ⟨n, hn, e⟩ := List.mem_map.1 (perm.mem_iff.1 (List.mem_map_of_mem hm))
      rw [← e]
      exact fixture n hn
    obtain ⟨ready', -⟩ := ready_of_ofPlan fixture' accepted'
    rw [(ready'.replay calls').runEvent.1, (ready.replay calls).runEvent.1, same]
    exact Feasible.perm_iff perm

/-- A stage that requires deposits, in front of one that gives them. -/
def supplyChain : Plan Standard where
  detectors := []
  members :=
    [⟨.relay { name := "sink", takes := [(.deposited, .required)] }, default⟩,
      ⟨.relay { name := "source", gives := [.deposited] }, default⟩]

/-- The chain is set up, so its events succeed exactly when they are feasible. -/
theorem runEvent_eq_ok_iff_feasible_supplyChain :
    (∀ m ∈ supplyChain.members, m.stage.IsFixture) ∧
    ∃ s, Simulation.ofPlan .empty supplyChain = .ok s ∧
      (∀ calls, (∃ metrics, (s.replay calls).runEvent.1 = .ok metrics) ↔
        Feasible (supplyChain.members.map Member.stage) (s.replay calls).nextEvent) ∧
      (∀ n, ∃ calls, (s.replay calls).nextEvent = n + 1) ∧
      ∀ files' p' s', (p'.members.map Member.stage).Perm (supplyChain.members.map Member.stage) →
        Simulation.ofPlan files' p' = .ok s' → ∀ calls calls',
          (s'.replay calls').nextEvent = (s.replay calls).nextEvent →
          ((∃ metrics, (s'.replay calls').runEvent.1 = .ok metrics) ↔
            ∃ metrics, (s.replay calls).runEvent.1 = .ok metrics) := by
  have fixture : ∀ m ∈ supplyChain.members, m.stage.IsFixture := by
    simp [supplyChain, Standard.IsFixture]
  obtain ⟨s, accepted⟩ : ∃ s, Simulation.ofPlan .empty supplyChain = .ok s := ⟨_, rfl⟩
  exact ⟨fixture, s, accepted, runEvent_eq_ok_iff_feasible .empty supplyChain s fixture accepted⟩

end SensorSim.Run
