import Mathlib
import SensorSim.Order.Schedule
import SensorSim.Run.Notice
import SensorSim.Proofs.Order.LeastFirst

/-!
# The order of stages as a least topological order

What stages declare relates them: one supplies another with what it takes, as something required or
as something optional. When every declared stage is known, the edges that a schedule is made from
are exactly these relations (`collect_of_declaredBelow`), so a schedule is the least topological
order of them, or of the required ones alone.
-/

namespace SensorSim.Order

open Bus
open Run (Notice)

/-- A stage supplies another one: it gives what the other takes with the requirement, in overlapping
scopes. -/
def Supplies (b : Bus) (r : Requirement) (producer consumer : StageId) : Prop :=
  producer ≠ consumer ∧
    ∃ p ∈ b.publications, ∃ s ∈ b.subscriptions,
      p.stage = producer ∧ s.stage = consumer ∧ s.requirement = r ∧ p.kind = s.kind ∧
        p.scope.overlaps s.scope

/-- A stage supplies another one with something required or with something optional. -/
def SuppliesAny (b : Bus) (producer consumer : StageId) : Prop :=
  ∃ r, Supplies b r producer consumer

/-- Every stage that declared something is one of the first `count`. -/
def DeclaredBelow (count : Nat) (b : Bus) : Prop :=
  (∀ s ∈ b.subscriptions, s.stage < count) ∧ ∀ p ∈ b.publications, p.stage < count

/-! ## Edges -/

/-- A publication serves a subscription of the same kind in an overlapping scope. -/
lemma serves_iff {p : Publication} {s : Subscription} :
    serves p s ↔ p.kind = s.kind ∧ p.scope.overlaps s.scope := by
  simp [serves]

/-- The edges that come from one subscription. -/
def links (publications : List Publication) (s : Subscription) : List Edge :=
  (((publications.filter fun p => serves p s).map Publication.stage).filter fun p => p != s.stage).map
    fun p => (p, s.stage)

/-- A subscription is linked to the other stages that publish what it takes. -/
lemma mem_links {publications : List Publication} {s : Subscription} {u v : Nat} :
    (u, v) ∈ links publications s ↔
      u ≠ v ∧ ∃ p ∈ publications, p.stage = u ∧ s.stage = v ∧ p.kind = s.kind ∧
        p.scope.overlaps s.scope := by
  simp only [links, List.mem_map, List.mem_filter, bne_iff_ne, serves_iff, Prod.mk.injEq]
  refine ⟨?_, ?_⟩
  · intro h
    obtain ⟨_, ⟨⟨p, ⟨hp, hk, ho⟩, rfl⟩, ne⟩, rfl, rfl⟩ := h
    exact ⟨ne, p, hp, rfl, rfl, hk, ho⟩
  · intro h
    obtain ⟨ne, p, hp, rfl, rfl, hk, ho⟩ := h
    exact ⟨p.stage, ⟨⟨p, ⟨hp, hk, ho⟩, rfl⟩, ne⟩, rfl, rfl⟩

namespace Dependencies

variable {count : Nat} {publications : List Publication}

/-- A subscription among known stages adds its edges to those of its requirement. -/
lemma add_of_known (d : Dependencies) {s : Subscription} (hs : s.stage < count)
    (hp : ∀ p ∈ publications, p.stage < count) :
    ∃ d', d.add count publications s = .ok d' ∧
      d'.required = d.required ++ (if s.requirement = .required then links publications s else []) ∧
      d'.optional = d.optional ++ (if s.requirement = .optional then links publications s else []) := by
  have known : ((publications.filter fun p => serves p s).map Publication.stage).find?
      (fun p => count ≤ p) = none := by
    rw [List.find?_eq_none]
    intro x hx
    obtain ⟨p, hm, rfl⟩ := List.mem_map.1 hx
    rw [decide_eq_true_eq]
    exact Nat.not_le.2 (hp p (List.mem_of_mem_filter hm))
  simp only [add, if_neg (Nat.not_le.2 hs), known]
  cases hr : s.requirement with
  | required => exact ⟨_, rfl, by simp [links], by simp⟩
  | optional => exact ⟨_, rfl, by simp, by simp [links]⟩

/-- Subscriptions among known stages add all their edges. -/
lemma addAll_of_known {subscriptions : List Subscription} (hs : ∀ s ∈ subscriptions, s.stage < count)
    (hp : ∀ p ∈ publications, p.stage < count) (d : Dependencies) :
    ∃ d', addAll count publications subscriptions d = (d', none) ∧
      (∀ e, e ∈ d'.required ↔ e ∈ d.required ∨
        ∃ s ∈ subscriptions, s.requirement = .required ∧ e ∈ links publications s) ∧
      (∀ e, e ∈ d'.optional ↔ e ∈ d.optional ∨
        ∃ s ∈ subscriptions, s.requirement = .optional ∧ e ∈ links publications s) := by
  induction subscriptions generalizing d with
  | nil => exact ⟨d, rfl, by simp, by simp⟩
  | cons s rest ih =>
    obtain ⟨d₁, hadd, hr, ho⟩ := d.add_of_known (hs s (List.mem_cons_self ..)) hp
    obtain ⟨d₂, hall, hr', ho'⟩ := ih (fun t ht => hs t (List.mem_cons_of_mem _ ht)) d₁
    refine ⟨d₂, ?_, fun e => ?_, fun e => ?_⟩
    · simp only [addAll, hadd, hall]
    · rw [hr', hr, List.mem_append]
      simp only [List.mem_ite_nil_right, List.exists_mem_cons_iff, or_assoc]
    · rw [ho', ho, List.mem_append]
      simp only [List.mem_ite_nil_right, List.exists_mem_cons_iff, or_assoc]

/-- When every stage is known, the edges are exactly the relations between stages. -/
lemma collect_of_declaredBelow {b : Bus} (known : DeclaredBelow count b) :
    ∃ d, addAll count b.publications b.subscriptions {} = (d, none) ∧
      (∀ u v, (u, v) ∈ d.required ↔ Supplies b .required u v) ∧
      (∀ u v, (u, v) ∈ d.optional ↔ Supplies b .optional u v) := by
  have supplies : ∀ r u v, (∃ s ∈ b.subscriptions, s.requirement = r ∧ (u, v) ∈ links b.publications s) ↔
      Supplies b r u v := by
    intro r u v
    simp only [mem_links, Supplies]
    refine ⟨?_, ?_⟩
    · intro e
      obtain ⟨s, hs, hr, ne, p, hp, hu, hv, hk, ho⟩ := e
      exact ⟨ne, p, hp, s, hs, hu, hv, hr, hk, ho⟩
    · intro e
      obtain ⟨ne, p, hp, s, hs, hu, hv, hr, hk, ho⟩ := e
      exact ⟨s, hs, hr, ne, p, hp, hu, hv, hk, ho⟩
  obtain ⟨d, h, hr, ho⟩ := addAll_of_known known.1 known.2 {}
  refine ⟨d, h, fun u v => ?_, fun u v => ?_⟩
  · rw [hr, ← supplies]
    simp
  · rw [ho, ← supplies]
    simp

end Dependencies

/-! ## Schedules -/

/-- The stages that supply each other are known. -/
lemma Supplies.lt {count : Nat} {b : Bus} (known : DeclaredBelow count b) {r : Requirement} {u v : StageId}
    (h : Supplies b r u v) : u < count ∧ v < count := by
  obtain ⟨-, p, hp, s, hs, rfl, rfl, -⟩ := h
  exact ⟨known.2 p hp, known.1 s hs⟩

/-- When every stage is known, a schedule is made in two attempts: with all relations, and without
the optional ones when those close a cycle. -/
lemma schedule_cases {count : Nat} {b : Bus} (known : DeclaredBelow count b) :
    ∃ all required : Graph, ∃ unmet,
      all.count = count ∧ all.Closed ∧ all.Edge = SuppliesAny b ∧
      required.count = count ∧ required.Closed ∧ required.Edge = Supplies b .required ∧
      ((∃ stages, all.order = .ok stages ∧ schedule count b = ⟨unmet, false, .ok stages⟩) ∨
      (∃ rest stages, all.order = .error rest ∧ required.order = .ok stages ∧
        schedule count b = ⟨unmet, true, .ok stages⟩) ∨
      ∃ rest stages, all.order = .error rest ∧ required.order = .error stages ∧
        schedule count b = ⟨unmet, false, .error (.cyclic stages)⟩) := by
  obtain ⟨d, h, hr, ho⟩ := Dependencies.collect_of_declaredBelow known
  have all : Graph.Edge ⟨count, d.required ++ d.optional⟩ = SuppliesAny b := by
    funext u v
    simp only [Graph.Edge, List.mem_append, hr, ho, SuppliesAny, eq_iff_iff]
    refine ⟨?_, ?_⟩
    · intro e
      rcases e with h | h
      · exact ⟨_, h⟩
      · exact ⟨_, h⟩
    · intro e
      obtain ⟨_ | _, h⟩ := e
      · exact .inl h
      · exact .inr h
  have required : Graph.Edge ⟨count, d.required⟩ = Supplies b .required := by
    funext u v
    exact propext (hr u v)
  refine ⟨⟨count, d.required ++ d.optional⟩, ⟨count, d.required⟩, d.unmet, rfl, ?_, all, rfl, ?_, required, ?_⟩
  · intro u v he
    rw [all] at he
    exact he.elim fun _ h => h.lt known
  · intro u v he
    rw [required] at he
    exact he.lt known
  · -- Both attempts are made on the same stages; they differ in the edges.
    cases ha : Graph.order ⟨count, d.required ++ d.optional⟩ with
    | ok stages => exact .inl ⟨stages, rfl, by simp only [schedule, h, ha]⟩
    | error rest =>
      cases hq : Graph.order ⟨count, d.required⟩ with
      | ok stages => exact .inr (.inl ⟨rest, stages, rfl, rfl, by simp only [schedule, h, ha, hq]⟩)
      | error stages => exact .inr (.inr ⟨rest, stages, rfl, rfl, by simp only [schedule, h, ha, hq]⟩)

/-- Where the required relations close no cycle, there is a schedule. -/
lemma exists_schedule {count : Nat} {b : Bus} (known : DeclaredBelow count b)
    (acyclic : Acyclic (Supplies b .required)) :
    ∃ order, (schedule count b).stages = .ok order := by
  obtain ⟨all, required, unmet, rfl, -, -, -, closed, edge,
    ⟨stages, -, eq⟩ | ⟨_, stages, -, -, eq⟩ | ⟨_, _, -, hq, -⟩⟩ := schedule_cases known
  · exact ⟨stages, by rw [eq]⟩
  · exact ⟨stages, by rw [eq]⟩
  · rw [← edge] at acyclic
    obtain ⟨order, h⟩ := Graph.exists_order closed acyclic
    cases h.symm.trans hq

/-- A schedule respects what is required, whether or not the optional relations were given up. -/
lemma topological_of_schedule {count : Nat} {b : Bus} (known : DeclaredBelow count b) {order : List StageId}
    (h : (schedule count b).stages = .ok order) : Topological count (Supplies b .required) order := by
  obtain ⟨all, required, unmet, rfl, closedAll, edgeAll, hc, closed, edge,
    ⟨stages, ha, eq⟩ | ⟨_, stages, -, hq, eq⟩ | ⟨_, _, -, -, eq⟩⟩ := schedule_cases known
  · rw [eq, Except.ok.injEq] at h
    have top := (Graph.leastTopological_of_order closedAll ha).1
    rw [edgeAll, h] at top
    exact top.mono fun u v hs => ⟨_, hs⟩
  · rw [eq, Except.ok.injEq] at h
    have top := (Graph.leastTopological_of_order closed hq).1
    rwa [edge, h, hc] at top
  · rw [eq] at h
    cases h

/-- A schedule respects all relations when the optional ones were not given up. -/
lemma topological_of_schedule_of_not_relaxed {count : Nat} {b : Bus} (known : DeclaredBelow count b)
    {order : List StageId} (h : (schedule count b).stages = .ok order) (kept : (schedule count b).relaxed = false) :
    Topological count (SuppliesAny b) order := by
  obtain ⟨all, required, unmet, rfl, closed, edge, -, -, -,
    ⟨stages, ha, eq⟩ | ⟨_, stages, -, -, eq⟩ | ⟨_, _, -, -, eq⟩⟩ := schedule_cases known
  · rw [eq, Except.ok.injEq] at h
    have top := (Graph.leastTopological_of_order closed ha).1
    rwa [edge, h] at top
  · rw [eq] at kept
    cases kept
  · rw [eq] at h
    cases h

/-- Whether a notice says that the optional dependencies were given up. -/
def saysRelaxed : Notice → Bool
  | .relaxed => true
  | _ => false

/-- There is one such notice exactly when they were. -/
lemma countP_saysRelaxed (s : Schedule) :
    (Notice.ofSchedule s).countP saysRelaxed = if s.relaxed then 1 else 0 := by
  have unmet : (s.unmet.map Notice.unmet).countP saysRelaxed = 0 := by
    simp [List.countP_eq_zero, saysRelaxed]
  rw [Notice.ofSchedule, List.countP_append, unmet]
  split <;> rfl

/-- When every stage is known and the required relations close no cycle, the stages are put in the
least order that respects all relations, and when those close a cycle, in the least one that
respects the required ones, of which there is one notice. -/
theorem schedule_leastTopological (count : Nat) (b : Bus) (known : DeclaredBelow count b)
    (acyclic : Acyclic (Supplies b .required)) :
    ∃ order, (schedule count b).stages = .ok order ∧ order.Perm (List.range count) ∧
      (Acyclic (SuppliesAny b) →
        LeastTopological count (SuppliesAny b) order ∧
          (Notice.ofSchedule (schedule count b)).countP saysRelaxed = 0) ∧
      (¬ Acyclic (SuppliesAny b) →
        LeastTopological count (Supplies b .required) order ∧
          (Notice.ofSchedule (schedule count b)).countP saysRelaxed = 1) := by
  rw [countP_saysRelaxed]
  obtain ⟨all, required, unmet, rfl, closedAll, edgeAll, hc, closed, edge, cases⟩ := schedule_cases known
  have cyclic : ∀ rest, all.order = .error rest → ¬ Acyclic (SuppliesAny b) := by
    intro rest ha
    rw [← edgeAll, ← Graph.exists_order_iff closedAll, ha]
    intro e
    obtain ⟨_, h⟩ := e
    cases h
  obtain ⟨order, hq⟩ := Graph.exists_order closed (edge ▸ acyclic)
  have least := Graph.leastTopological_of_order closed hq
  rw [edge, hc] at least
  -- Without required cycles the second attempt never fails, so only the first one decides.
  rcases cases with ⟨stages, ha, eq⟩ | ⟨rest, stages, ha, hq', eq⟩ | ⟨_, _, -, hq', -⟩
  · rw [eq]
    have least := Graph.leastTopological_of_order closedAll ha
    rw [edgeAll] at least
    exact ⟨stages, rfl, least.1.perm, fun _ => ⟨least, rfl⟩, fun h => absurd least.1.acyclic h⟩
  · rw [eq]
    cases hq.symm.trans hq'
    exact ⟨order, rfl, least.1.perm, fun h => absurd h (cyclic rest ha), fun _ => ⟨least, rfl⟩⟩
  · cases hq.symm.trans hq'

/-- Two stages that supply each other, the first with something required and the second with
something optional. -/
def exchange : Bus where
  publications := [⟨0, .deposited, .any⟩, ⟨1, .pixel, .any⟩]
  subscriptions := [⟨0, .pixel, .any, .optional⟩, ⟨1, .deposited, .any, .required⟩]

/-- Of the exchange the required half decides. -/
theorem schedule_leastTopological_exchange :
    DeclaredBelow 2 exchange ∧ Acyclic (Supplies exchange .required) ∧
    ∃ order, (schedule 2 exchange).stages = .ok order ∧ order.Perm (List.range 2) ∧
      (Acyclic (SuppliesAny exchange) →
        LeastTopological 2 (SuppliesAny exchange) order ∧
          (Notice.ofSchedule (schedule 2 exchange)).countP saysRelaxed = 0) ∧
      (¬ Acyclic (SuppliesAny exchange) →
        LeastTopological 2 (Supplies exchange .required) order ∧
          (Notice.ofSchedule (schedule 2 exchange)).countP saysRelaxed = 1) := by
  have known : DeclaredBelow 2 exchange := by simp [DeclaredBelow, exchange]
  have acyclic : Acyclic (Supplies exchange .required) := by
    refine .of_measure id fun u v h => ?_
    obtain ⟨-, p, hp, s, hs, rfl, rfl, hr, hk, -⟩ := h
    simp only [exchange, List.mem_cons, List.not_mem_nil, or_false] at hp hs
    rcases hs with rfl | rfl
    · cases hr
    · rcases hp with rfl | rfl
      · exact Nat.zero_lt_one
      · cases hk
  exact ⟨known, acyclic, schedule_leastTopological 2 exchange known acyclic⟩

end SensorSim.Order
