import Mathlib
import SensorSim.Proofs.Order.Schedule

/-!
# What cannot be put in order

A number lies behind a cycle when it is on one, or when a chain of related numbers leads from one to
it. The vertices that a run of rounds leaves behind are exactly those behind a cycle: none of those
taken is (`Consistent.not_behindCycle`), and where no vertex is ready, every one that was left has a
source that was left too (`Consistent.behindCycle`). So a schedule fails exactly when the required
relations close a cycle, and names the stages behind it.
-/

namespace SensorSim.Order

open Bus

/-- A number is on a cycle, or a chain of related numbers leads from one to it. -/
def BehindCycle (R : Nat → Nat → Prop) (v : Nat) : Prop :=
  ∃ c, Relation.TransGen R c c ∧ Relation.ReflTransGen R c v

/-- Where every member of a bounded set has a related member of the set before it, every member lies
behind a cycle. -/
lemma behindCycle_of_sources {R : Nat → Nat → Prop} {n : Nat} {P : Nat → Prop} (bounded : ∀ v, P v → v < n)
    (sources : ∀ v, P v → ∃ u, P u ∧ R u v) {v : Nat} (hv : P v) : BehindCycle R v := by
  by_contra clear
  -- Only the steps that lead on to `v` matter, and without a cycle in front of `v` those close
  -- none.
  have acyclic : Acyclic fun u w => R u w ∧ Relation.ReflTransGen R w v := by
    intro c cycle
    obtain ⟨_, -, -, leads⟩ := Relation.TransGen.tail'_iff.1 cycle
    apply clear
    exact ⟨c, Relation.TransGen.mono (fun _ _ h => h.1) _ _ cycle, leads⟩
  obtain ⟨w, ⟨hw, leads⟩, first⟩ :=
    acyclic.exists_first (P := fun w => P w ∧ Relation.ReflTransGen R w v) (fun w h => bounded w h.1) ⟨hv, .refl⟩
  obtain ⟨u, hu, hr⟩ := sources w hw
  exact first u ⟨hu, .head hr leads⟩ ⟨hr, leads⟩

namespace State

variable {g : Graph} {s : State}

/-- What leads to a vertex that was taken was taken before it. -/
lemma Consistent.idxOf_lt (c : s.Consistent g) {u v : Nat} (chain : Relation.TransGen g.Edge u v) (hv : v ∈ s.taken) :
    u ∈ s.taken ∧ s.taken.idxOf u < s.taken.idxOf v := by
  induction chain using Relation.TransGen.head_induction_on with
  | single edge =>
    have pre := c.behind _ v edge hv
    exact ⟨pre.left_mem, pre.idxOf_lt c.nodup⟩
  | head edge _ ih =>
    obtain ⟨hw, later⟩ := ih
    have pre := c.behind _ _ edge hw
    exact ⟨pre.left_mem, (pre.idxOf_lt c.nodup).trans later⟩

/-- No vertex that was taken lies behind a cycle. -/
lemma Consistent.not_behindCycle (c : s.Consistent g) {v : Nat} (hv : v ∈ s.taken) : ¬ BehindCycle g.Edge v := by
  intro behind
  obtain ⟨w, cycle, chain⟩ := behind
  have hw : w ∈ s.taken := by
    rcases Relation.reflTransGen_iff_eq_or_transGen.1 chain with rfl | chain
    · exact hv
    · exact (c.idxOf_lt chain hv).1
  exact lt_irrefl _ (c.idxOf_lt cycle hw).2

/-- Where no vertex is ready, those that were not taken lie behind a cycle. -/
lemma Consistent.behindCycle (c : s.Consistent g) (closed : g.Closed) (ended : s.ready = []) {v : Nat}
    (hv : v < g.count) (left : v ∉ s.taken) : BehindCycle g.Edge v := by
  refine behindCycle_of_sources (P := fun v => v < g.count ∧ v ∉ s.taken) (fun _ h => h.1) (fun w h => ?_) ⟨hv, left⟩
  obtain ⟨hw, left⟩ := h
  have blocked : s.openInto w ≠ 0 := by
    intro hz
    have ready := (c.ready w).2 ⟨hw, left, hz⟩
    rw [ended] at ready
    cases ready
  rw [c.openInto w hw, ne_eq, stillOpen_eq_zero_iff] at blocked
  push Not at blocked
  obtain ⟨u, edge, hu⟩ := blocked
  exact ⟨u, ⟨(closed u w edge).1, hu⟩, edge⟩

/-- Where no vertex is ready, exactly those vertices have open edges into them that were not
taken. -/
lemma Consistent.mem_blocked_iff (c : s.Consistent g) (ended : s.ready = []) {v : Nat} :
    v ∈ s.blocked g ↔ v < g.count ∧ v ∉ s.taken := by
  simp only [blocked, List.mem_filter, List.mem_range, decide_eq_true_eq, Nat.pos_iff_ne_zero]
  refine and_congr_right fun hv => ⟨fun some_open taken => ?_, fun left hz => ?_⟩
  · apply some_open
    rw [c.openInto v hv, stillOpen_eq_zero_iff]
    intro u edge
    exact (c.behind u v edge taken).left_mem
  · have ready := (c.ready v).2 ⟨hv, left, hz⟩
    rw [ended] at ready
    cases ready

end State

/-- A vertex behind a cycle is one of the graph. -/
lemma Graph.Closed.lt_of_behindCycle {g : Graph} (closed : g.Closed) {v : Nat} (behind : BehindCycle g.Edge v) :
    v < g.count := by
  obtain ⟨c, cycle, chain⟩ := behind
  obtain ⟨u, -, edge⟩ := Relation.TransGen.tail'_iff.1 (cycle.trans_left chain)
  exact (closed u v edge).2

/-- What is left of a graph that has no order are the vertices behind a cycle, in ascending
order. -/
lemma Graph.of_order_eq_error {g : Graph} (closed : g.Closed) {left : List Nat} (h : g.order = .error left) :
    left.Pairwise (· < ·) ∧ ∀ v, v ∈ left ↔ BehindCycle g.Edge v := by
  simp only [order] at h
  split at h
  · cases h
  · cases h
    have c := State.consistent_final closed
    have ended := State.ready_final closed
    refine ⟨List.pairwise_lt_range.filter _, fun v => (c.mem_blocked_iff ended).trans ⟨?_, ?_⟩⟩
    · intro left
      exact c.behindCycle closed ended left.1 left.2
    · intro behind
      exact ⟨closed.lt_of_behindCycle behind, fun taken => c.not_behindCycle taken behind⟩

/-- When every stage is known, a schedule fails exactly when the required relations close a cycle,
whatever the optional ones are. It then names, in ascending order and once each, the stages on such
a cycle and those that depend on one, directly or through other required relations. -/
theorem schedule_eq_error_iff (count : Nat) (b : Bus) (known : DeclaredBelow count b) :
    ((∃ e, (schedule count b).stages = .error e) ↔ ¬ Acyclic (Supplies b .required)) ∧
    ∀ e, (schedule count b).stages = .error e →
      ∃ stages, e = .cyclic stages ∧ stages.Pairwise (· < ·) ∧
        ∀ v, v ∈ stages ↔ BehindCycle (Supplies b .required) v := by
  refine ⟨⟨?_, ?_⟩, ?_⟩
  · intro failed acyclic
    obtain ⟨e, h⟩ := failed
    obtain ⟨order, ok⟩ := exists_schedule known acyclic
    cases h.symm.trans ok
  · intro cyclic
    cases h : (schedule count b).stages with
    | error e => exact ⟨e, rfl⟩
    | ok order => exact absurd (topological_of_schedule known h).acyclic cyclic
  · intro e h
    obtain ⟨all, required, unmet, rfl, -, -, -, closed, edge,
      ⟨stages, -, eq⟩ | ⟨_, stages, -, -, eq⟩ | ⟨_, stages, -, left, eq⟩⟩ := schedule_cases known
    · rw [eq] at h
      cases h
    · rw [eq] at h
      cases h
    · rw [eq] at h
      cases h
      obtain ⟨ascending, behind⟩ := Graph.of_order_eq_error closed left
      rw [edge] at behind
      exact ⟨stages, rfl, ascending, behind⟩

/-- Two stages that require what the other gives, a third that requires what one of them gives and
what it gives itself, and a fourth that can do without. -/
def entangled : Bus where
  publications := [⟨0, .deposited, .any⟩, ⟨1, .drifted, .any⟩, ⟨2, .pixel, .detector "dut"⟩]
  subscriptions :=
    [⟨0, .drifted, .detector "dut", .required⟩, ⟨1, .deposited, .any, .required⟩, ⟨2, .drifted, .any, .required⟩,
      ⟨2, .pixel, .detector "dut", .required⟩, ⟨3, .pixel, .any, .optional⟩, ⟨0, .pixel, .any, .optional⟩]

/-- The first two block each other and the third, and the fourth is not named. -/
theorem schedule_eq_error_iff_entangled :
    DeclaredBelow 4 entangled ∧
    ((∃ e, (schedule 4 entangled).stages = .error e) ↔ ¬ Acyclic (Supplies entangled .required)) ∧
    (∀ e, (schedule 4 entangled).stages = .error e →
      ∃ stages, e = .cyclic stages ∧ stages.Pairwise (· < ·) ∧
        ∀ v, v ∈ stages ↔ BehindCycle (Supplies entangled .required) v) ∧
    (schedule 4 entangled).stages = .error (.cyclic [0, 1, 2]) := by
  have known : DeclaredBelow 4 entangled := by simp [DeclaredBelow, entangled]
  obtain ⟨failed, named⟩ := schedule_eq_error_iff 4 entangled known
  exact ⟨known, failed, named, rfl⟩

end SensorSim.Order
