import Mathlib
import SensorSim.Run.Reference
import SensorSim.Proofs.Run.Acceptance
import SensorSim.Proofs.Run.Completion
import SensorSim.Proofs.Stage.Tally

/-!
# Full chains

A full chain of stages on every detector has all that it needs: its readers install the fields, each
stage of it gives what the next one requires, and chains on different detectors do not meet. So
every event of full chains is completed (`runEvent_fullChains`).
-/

namespace SensorSim.Run

open Bus (StageId Entry Kind Scope)
open Stage (Standard)
open Sensor (Detector FieldKind bounds_of_neighbourhood)
open Files (FileSystem)
open SensorSim.Order (Acyclic)

/-! ## Chains -/

/-- The kinds of message that a stage gives, each for the detector of the stage. -/
def given (s : Standard) : List (Option String × Kind) :=
  s.gives.map fun k => (Stage.detector? s, k)

/-- A full chain of stages on a detector, with the settings that stages have from the start. -/
def fullChain (name : String) : List Standard :=
  [.potentialReader { detector := name }, .fieldReader { detector := name }, .deposition { detector := name },
    .projection { detector := name }, .transfer { detector := name }]

/-- Every detector of a plan has a full chain, with any settings and configurations. The stages of
the plan may stand in any order. -/
def Plan.FullyChained (p : Plan Standard) : Prop :=
  (p.members.map fun m => m.stage.blank).Perm (p.detectors.flatMap fun d => fullChain d.name)

/-- A stage of a full chain belongs to the detector, works in its scope, has no settings yet and
raises no failures. -/
lemma of_mem_fullChain {name : String} {s : Standard} (h : s ∈ fullChain name) :
    Stage.detector? s = some name ∧ s.ownScope = .own (some name) ∧ s.blank = s ∧ s.failures = [] := by
  simp only [fullChain, List.mem_cons, List.not_mem_nil, or_false] at h
  rcases h with rfl | rfl | rfl | rfl | rfl <;> exact ⟨rfl, rfl, rfl, rfl⟩

/-- Each kind of field has a stage in a full chain that installs it. -/
lemma exists_installer (name : String) (k : FieldKind) : ∃ s ∈ fullChain name, k ∈ s.installs := by
  cases k with
  | weightingPotential =>
    exact ⟨.potentialReader { detector := name }, by simp [fullChain], by simp [Standard.installs]⟩
  | electricField => exact ⟨.fieldReader { detector := name }, by simp [fullChain], by simp [Standard.installs]⟩

/-- What a stage of a full chain requires, another one of it gives. -/
lemma exists_giver {name : String} {s : Standard} (h : s ∈ fullChain name) {k : Kind}
    (required : (k, .required) ∈ s.takes) : ∃ t ∈ fullChain name, k ∈ t.gives ∧ k ∉ s.gives := by
  simp only [fullChain, List.mem_cons, List.not_mem_nil, or_false] at h
  rcases h with rfl | rfl | rfl | rfl | rfl
  · cases required
  · cases required
  · cases required
  · cases List.mem_singleton.1 required
    exact ⟨.deposition { detector := name }, by simp [fullChain], by simp [Standard.gives]⟩
  · cases List.mem_singleton.1 required
    exact ⟨.projection { detector := name }, by simp [fullChain], by simp [Standard.gives]⟩

/-- Full chains on different detectors do not meet, so they can go through any event together. -/
lemma feasible_fullChains {names : List String} (nodup : names.Nodup) (event : Nat) :
    Feasible (names.flatMap fullChain) event where
  silent s hs e := by
    obtain ⟨n, -, hs⟩ := List.mem_flatMap.1 hs
    rw [(of_mem_fullChain hs).2.2.2]
    exact List.not_mem_nil
  exclusive := by
    have each : ∀ n, (fullChain n).flatMap offers = Kind.all.map fun k => (k, .own (some n)) := fun _ => rfl
    rw [List.flatMap_assoc]
    simp only [each]
    rw [List.pairwise_flatMap]
    refine ⟨fun n _ => ?_, nodup.imp fun {m n} ne x hx y hy => ?_⟩
    · have kinds : Kind.all.Nodup := by decide
      exact List.pairwise_map.2 (kinds.imp fun ne meet => ne meet.1)
    · obtain ⟨k, -, rfl⟩ := List.mem_map.1 hx
      obtain ⟨l, -, rfl⟩ := List.mem_map.1 hy
      rintro ⟨-, scopes⟩
      rcases (Scope.own_overlaps_some (some m) n).1 scopes with same | none
      · exact ne (Option.some.inj same)
      · cases none
  served := by
    refine served_iff.2 fun before s after split k required => ?_
    have hs : s ∈ names.flatMap fullChain := by
      rw [split]
      exact List.mem_append_right _ (List.mem_cons_self ..)
    obtain ⟨n, hn, hs⟩ := List.mem_flatMap.1 hs
    obtain ⟨t, ht, gives, lacks⟩ := exists_giver hs required
    have among : t ∈ before ++ s :: after := by
      rw [← split]
      exact List.mem_flatMap.2 ⟨n, hn, ht⟩
    -- The giver is not the stage itself, as no stage of a chain gives what it requires.
    have others : t ∈ before ++ after := by
      rcases List.mem_append.1 among with h | h
      · exact List.mem_append_left _ h
      · rcases List.mem_cons.1 h with rfl | h
        · exact absurd gives lacks
        · exact List.mem_append_right _ h
    refine ⟨t, others, gives, ?_⟩
    rw [(of_mem_fullChain ht).2.1, (of_mem_fullChain hs).2.1]
    exact Scope.overlaps_self _

/-- The place of a stage among those of its chain that carry charge. -/
def step : Standard → Nat
  | .projection _ => 1
  | .transfer _ => 2
  | _ => 0

/-- In full chains only a later step needs an earlier one. -/
lemma acyclic_fullChains {stages : List Standard} (chained : ∀ s ∈ stages, ∃ n, s ∈ fullChain n) :
    Acyclic (Needs stages) := by
  refine .of_measure (fun i => stages[i]?.elim 0 step) fun u v needs => ?_
  obtain ⟨-, t, s, k, ht, hs, gives, required, -⟩ := needs
  obtain ⟨m, giver⟩ := chained t (List.mem_of_getElem? ht)
  obtain ⟨n, taker⟩ := chained s (List.mem_of_getElem? hs)
  simp only [fullChain, List.mem_cons, List.not_mem_nil, or_false] at giver taker
  simp only [ht, hs, Option.elim_some]
  rcases taker with rfl | rfl | rfl | rfl | rfl
  · cases required
  · cases required
  · cases required
  · cases List.mem_singleton.1 required
    rcases giver with rfl | rfl | rfl | rfl | rfl <;> simp [Standard.gives] at gives
    exact Nat.zero_lt_one
  · cases List.mem_singleton.1 required
    rcases giver with rfl | rfl | rfl | rfl | rfl <;> simp [Standard.gives] at gives
    exact Nat.one_lt_two

/-! ## Plans of full chains -/

section

variable {stages : List Standard} {names : List String}
  (chained : (stages.map Standard.blank).Perm (names.flatMap fullChain))
include chained

/-- Where stages have installed their fields, full chains have all of them. -/
lemma furnished_of_chained {detectors : List Detector}
    (fields : ∀ s ∈ stages, ∀ d, (Stage.detector? s).bind (findDetector? detectors) = some d →
      ∀ k ∈ s.installs, d.has k) : Furnished detectors stages := by
  intro s hs d hd k
  obtain ⟨-, -, -, -, detector⟩ := s.congr_of_blank
  obtain ⟨n, hn, member⟩ := List.mem_flatMap.1 (chained.mem_iff.1 (List.mem_map_of_mem hs))
  obtain ⟨t, ht, installs⟩ := exists_installer n k
  obtain ⟨t', ht', rfl⟩ := List.mem_map.1 (chained.mem_iff.2 (List.mem_flatMap.2 ⟨n, hn, ht⟩))
  obtain ⟨-, -, -, installs', detector'⟩ := t'.congr_of_blank
  rw [← detector, (of_mem_fullChain member).1] at hd
  refine fields t' ht' d ?_ k ?_
  · rw [← detector', (of_mem_fullChain ht).1]
    exact hd
  · rw [← installs']
    exact installs

/-- Full chains give one message of each kind for every detector. -/
lemma perm_given_of_chained :
    (stages.flatMap given).Perm (names.flatMap fun n => Kind.all.map fun k => (some n, k)) := by
  have same : ∀ s : Standard, given s.blank = given s := by
    intro s
    obtain ⟨-, gives, -, -, detector⟩ := s.congr_of_blank
    rw [given, given, gives, detector]
  have all := chained.flatMap_right given
  rw [List.flatMap_map, List.flatMap_assoc] at all
  simp only [same] at all
  exact all

end

/-! ## Runs of full chains -/

/-- A simulation of full chains on these detectors. -/
structure Chained (names : List String) (stages : List Standard) (s : Simulation Standard) : Prop where
  standing : Standing stages (· = .required) s
  furnished : Furnished s.detectors stages
  distinct : names.Nodup
  chained : (stages.map Standard.blank).Perm (names.flatMap fullChain)

namespace Chained

variable {names : List String} {stages : List Standard} {s : Simulation Standard}

/-- Every event is completed, and in it one message of each kind is dispatched for every
detector. -/
lemma completes (w : Chained names stages s) :
    ∃ metrics, s.runEvent.1 = .ok metrics ∧ metrics.messages = 3 * names.length ∧
      (s.dispatched.map fun e => (e.message.detector, e.message.kind)).Perm
        (names.flatMap fun n => Kind.all.map fun k => (some n, k)) := by
  have feasible := ((feasible_fullChains w.distinct s.nextEvent).perm w.chained.symm).of_blank
  obtain ⟨metrics, ok, count, labels⟩ := w.standing.completes rfl w.furnished feasible
  have read : (fun e : Entry => (e.message.detector, e.message.kind)) = (fun l => (l.2.2, l.2.1)) ∘ Entry.label := rfl
  have each : ∀ (t : Standard) (i : StageId),
      (t.sent i s.nextEvent).map (fun e => (e.message.detector, e.message.kind)) = given t := by
    intro t i
    rw [read, ← List.map_map, Stage.Standard.labels_sent, List.map_map]
    rfl
  have all := (perm_flatMap_sentBy each w.standing.perm).trans (perm_given_of_chained w.chained)
  rw [read, ← List.map_map, ← labels, List.map_map, ← read] at all
  refine ⟨metrics, ok, ?_, all⟩
  have length := all.length_eq
  rw [List.length_map] at length
  rw [count, length, List.length_flatMap]
  simp [Kind.all, mul_comm]

/-- What stands, with the same detectors, is still a simulation of full chains. -/
lemma congr (w : Chained names stages s) {s' : Simulation Standard} (standing : Standing stages (· = .required) s')
    (detectors : s'.detectors = s.detectors) : Chained names stages s' where
  standing := standing
  furnished := detectors ▸ w.furnished
  distinct := w.distinct
  chained := w.chained

/-- Every call keeps a simulation of full chains. -/
lemma invariant : Simulation.Invariant (Chained names stages) where
  runEvent s w := w.congr w.standing.runEvent s.runEvent_snd.2.2.1
  closeStage s i w := w.congr (w.standing.closeStage i) (s.closeStage_snd i).2.2.1
  shut s w := w.congr (Standing.invariant.shut s w.standing) rfl

/-- A run on full chains completes all its events. -/
lemma run (w : Chained names stages s) (n : Nat) :
    (s.run n).1 = { completed := n, failed := [], aborted := none } := by
  induction n generalizing s with
  | zero => rfl
  | succ n ih =>
    obtain ⟨metrics, ok, -⟩ := w.completes
    have rest := ih (invariant.runEvent s w)
    rw [Simulation.run]
    rcases event : s.runEvent with ⟨_ | _, s'⟩
    · rw [event] at ok
      cases ok
    · rw [event] at rest
      simp only [rest]

/-- Whatever is called, the simulation is one of full chains. -/
lemma replay (w : Chained names stages s) (calls : List Simulation.Call) : Chained names stages (s.replay calls) :=
  invariant.replay w calls

end Chained

/-- A plan of full chains that is set up gives a simulation of full chains, on sensors of the
plan. -/
lemma chained_of_ofPlan {files : FileSystem} {p : Plan Standard} (chained : p.FullyChained)
    {s : Simulation Standard} (h : Simulation.ofPlan files p = .ok s) :
    ∃ stages, Chained (p.detectors.map DetectorPlan.name) stages s ∧
      ∀ name d, findDetector? s.detectors name = some d → ∃ x ∈ p.detectors, x.name = name ∧ x.model = d.model := by
  obtain ⟨stages, same, -, standing, sensors, fields, -⟩ := standing_of_ofPlan h
  have perm : (stages.map Standard.blank).Perm ((p.detectors.map DetectorPlan.name).flatMap fullChain) := by
    rw [same, List.flatMap_map]
    exact chained
  have required : Standing stages (· = .required) s := standing.imp fun r => .inl
  exact ⟨stages, ⟨required, furnished_of_chained perm fields, nodup_of_validate (validate_of_ofPlan h), perm⟩, sensors⟩

/-- Where every detector has a full chain, with any configurations and in any order of the stages,
the setup fails, or every event is completed, whatever was called before: one message of each kind
is dispatched for every detector, a run completes all its events, and no pixel that charge is
collected on is out of range. -/
theorem runEvent_fullChains (files : FileSystem) (p : Plan Standard) (chained : p.FullyChained)
    (small : ∀ x ∈ p.detectors, x.model.columns < 2 ^ 31 - 1 ∧ x.model.rows < 2 ^ 31 - 1) :
    (∃ failure, Simulation.ofPlan files p = .error failure) ∨
    ∃ s, Simulation.ofPlan files p = .ok s ∧ ∀ calls,
      (∃ metrics, (s.replay calls).runEvent.1 = .ok metrics ∧ metrics.messages = 3 * p.detectors.length) ∧
      ((s.replay calls).dispatched.map fun e => (e.message.detector, e.message.kind)).Perm
        (p.detectors.flatMap fun x => Kind.all.map fun k => (some x.name, k)) ∧
      (∀ n, ((s.replay calls).run n).1 = { completed := n, failed := [], aborted := none }) ∧
      ∀ name d, findDetector? (s.replay calls).detectors name = some d → ∀ pos q, d.model.pixelAt? pos = some q →
        ∀ r ∈ q.neighbourhood, -2 ^ 31 ≤ r.x ∧ r.x < 2 ^ 31 ∧ -2 ^ 31 ≤ r.y ∧ r.y < 2 ^ 31 := by
  cases accepted : Simulation.ofPlan files p with
  | error failure => exact .inl ⟨failure, rfl⟩
  | ok s =>
    obtain ⟨stages, start, sensors⟩ := chained_of_ofPlan chained accepted
    refine .inr ⟨s, rfl, fun calls => ?_⟩
    have w := start.replay calls
    obtain ⟨metrics, ok, count, all⟩ := w.completes
    rw [List.length_map] at count
    rw [List.flatMap_map] at all
    refine ⟨⟨metrics, ok, count⟩, all, w.run, fun name d found pos q h => ?_⟩
    rw [Simulation.detectors_replay] at found
    obtain ⟨x, hx, -, model⟩ := sensors name d found
    exact bounds_of_neighbourhood (model ▸ small x hx) h

/-- The stages of a full chain with as few settings as possible, the last ones first. -/
def leastChain (name : String) : List (Member Standard) :=
  [⟨.transfer { detector := name }, .ofList "PulseTransfer" []⟩,
    ⟨.projection { detector := name }, .ofList "ProjectionPropagation" []⟩,
    ⟨.deposition { detector := name }, .ofList "SimpleDeposition" []⟩,
    ⟨.fieldReader { detector := name },
      .ofList "ElectricFieldReader" [("model", "constant"), ("bias_voltage", "150")]⟩,
    ⟨.potentialReader { detector := name }, .ofList "WeightingPotentialReader" [("model", "pad")]⟩]

/-- Two detectors, with the chain of one around that of the other. -/
def nestedChains : Plan Standard where
  detectors := [⟨"inner", testModel⟩, ⟨"outer", testModel⟩]
  members := (leastChain "outer").take 2 ++ leastChain "inner" ++ (leastChain "outer").drop 2

/-- The nested chains are full, although the one is cut by the other. -/
lemma fullyChained_nestedChains : nestedChains.FullyChained := by
  have blank : ∀ name, ((leastChain name).map fun m => m.stage.blank) = (fullChain name).reverse := fun _ => rfl
  have joined : (nestedChains.members.map fun m => m.stage.blank).Perm
      ((leastChain "inner" ++ leastChain "outer").map fun m => m.stage.blank) := by
    apply List.Perm.map
    refine (List.perm_append_comm.append_right _).trans (.of_eq ?_)
    rw [List.append_assoc, List.take_append_drop]
  refine joined.trans ?_
  rw [List.map_append, blank, blank]
  exact (List.reverse_perm _).append (List.reverse_perm _)

/-- The stages of such a chain accept their configurations on the test sensor. -/
lemma leastChain_accepts {files : FileSystem} {name : String} :
    ∀ m ∈ leastChain name, Stage.detector? m.stage = some name ∧ Stage.Accepts files m.stage m.config testModel := by
  intro m hm
  simp only [leastChain, List.mem_cons, List.not_mem_nil, or_false] at hm
  rcases hm with rfl | rfl | rfl | rfl | rfl
  · exact ⟨rfl, Stage.Induction.accepts _⟩
  · exact ⟨rfl, Stage.Projection.accepts _⟩
  · have unset : ∀ {α : Type} (read : Config.Reading α) (key : String) (a : α),
        (Config.Section.ofList "SimpleDeposition" []).getOr read key a = .ok a := fun _ _ _ => rfl
    have nonneg : ¬ (0.0 : Float) < 0.0 := by decide +kernel
    have inside : testModel.holds .origin = true := by decide +kernel
    have settles : Stage.Deposition.Settles (Config.Section.ofList "SimpleDeposition" []) testModel
        { detector := name } { detector := name } :=
      ⟨rfl, unset .., unset .., unset .., unset .., Nat.succ_ne_zero _, nonneg, inside⟩
    exact ⟨rfl, Stage.Deposition.accepts settles⟩
  · obtain ⟨bias, number⟩ : ∃ bias, Config.Reading.number "150".toList = .ok bias := ⟨_, rfl⟩
    have read : (Config.Section.ofList "ElectricFieldReader" [("model", "constant"), ("bias_voltage", "150")]).get
        Config.Reading.number "bias_voltage" = .ok bias := by
      have raw : (Config.Section.ofList "ElectricFieldReader"
          [("model", "constant"), ("bias_voltage", "150")]).raw? "bias_voltage" = some "150" := rfl
      rw [Config.Section.get, raw]
      simp only [number]
    exact ⟨rfl, Stage.FieldReader.accepts_constant rfl rfl read⟩
  · exact ⟨rfl, Stage.PotentialReader.accepts_pad rfl rfl⟩

/-- The nested chains are set up. -/
lemma exists_ofPlan_nestedChains : ∃ s, Simulation.ofPlan .empty nestedChains = .ok s := by
  have accept : AllAccept .empty nestedChains.detectors nestedChains.members := by
    intro m hm
    have one : m ∈ leastChain "inner" ∨ m ∈ leastChain "outer" := by
      rcases List.mem_append.1 hm with h | h
      · rcases List.mem_append.1 h with h | h
        · exact .inr (List.mem_of_mem_take h)
        · exact .inl h
      · exact .inr (List.mem_of_mem_drop h)
    rcases one with h | h
    · obtain ⟨own, accepts⟩ := leastChain_accepts m h
      exact ⟨⟨"inner", testModel⟩, by simp [nestedChains], own, accepts⟩
    · obtain ⟨own, accepts⟩ := leastChain_accepts m h
      exact ⟨⟨"outer", testModel⟩, by simp [nestedChains], own, accepts⟩
  refine exists_ofPlan rfl accept (acyclic_fullChains fun s hs => ?_)
  obtain ⟨x, -, member⟩ := List.mem_flatMap.1 (fullyChained_nestedChains.mem_iff.1 hs)
  exact ⟨x.name, member⟩

/-- The nested chains are full chains on small matrices, and they are set up: every event dispatches
six messages. -/
theorem runEvent_fullChains_nestedChains :
    nestedChains.FullyChained ∧
    (∀ x ∈ nestedChains.detectors, x.model.columns < 2 ^ 31 - 1 ∧ x.model.rows < 2 ^ 31 - 1) ∧
    ∃ s, Simulation.ofPlan .empty nestedChains = .ok s ∧ ∀ calls,
      (∃ metrics, (s.replay calls).runEvent.1 = .ok metrics ∧ metrics.messages = 6) ∧
      ((s.replay calls).dispatched.map fun e => (e.message.detector, e.message.kind)).Perm
        [(some "inner", .deposited), (some "inner", .drifted), (some "inner", .pixel),
          (some "outer", .deposited), (some "outer", .drifted), (some "outer", .pixel)] ∧
      (∀ n, ((s.replay calls).run n).1 = { completed := n, failed := [], aborted := none }) ∧
      ∀ name d, findDetector? (s.replay calls).detectors name = some d → ∀ pos q, d.model.pixelAt? pos = some q →
        ∀ r ∈ q.neighbourhood, -2 ^ 31 ≤ r.x ∧ r.x < 2 ^ 31 ∧ -2 ^ 31 ≤ r.y ∧ r.y < 2 ^ 31 := by
  have small : ∀ x ∈ nestedChains.detectors, x.model.columns < 2 ^ 31 - 1 ∧ x.model.rows < 2 ^ 31 - 1 := by
    decide
  refine ⟨fullyChained_nestedChains, small, ?_⟩
  rcases runEvent_fullChains .empty nestedChains fullyChained_nestedChains small with ⟨failure, refused⟩ | runs
  · obtain ⟨s, accepted⟩ := exists_ofPlan_nestedChains
    rw [accepted] at refused
    cases refused
  · exact runs

end SensorSim.Run
