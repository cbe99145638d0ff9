import Mathlib

/-!
# Topological orders

The orders of the numbers `0, …, n - 1` in which whatever is related comes in order, and the
lexicographically least of them. An order exists only when the relation has no cycle
(`Topological.acyclic`); where none of a set can come first, there is a cycle (`exists_first`).
-/

namespace SensorSim.Order

/-- `u` comes before `v` in a list. -/
def Precedes (l : List Nat) (u v : Nat) : Prop :=
  [u, v].Sublist l

/-- No chain of related numbers comes back to its start. -/
def Acyclic (R : Nat → Nat → Prop) : Prop :=
  ∀ v, ¬ Relation.TransGen R v v

/-- An order of `0, …, n - 1` in which whatever is related comes in order. -/
structure Topological (n : Nat) (R : Nat → Nat → Prop) (l : List Nat) : Prop where
  perm : l.Perm (List.range n)
  respects : ∀ u v, R u v → Precedes l u v

/-- The least such order in the lexicographic order of lists. -/
def LeastTopological (n : Nat) (R : Nat → Nat → Prop) (l : List Nat) : Prop :=
  Topological n R l ∧ ∀ l', Topological n R l' → l ≤ l'

namespace Precedes

variable {l : List Nat} {u v w : Nat}

/-- What stands in order in a list stands in order in a longer one. -/
lemma append_right (h : Precedes l u v) (l' : List Nat) : Precedes (l ++ l') u v :=
  h.trans (List.sublist_append_left l l')

/-- What is put behind a list stands behind all of it. -/
lemma snoc (h : u ∈ l) (v : Nat) : Precedes (l ++ [v]) u v :=
  (List.singleton_sublist.2 h).append (List.Sublist.refl [v])

/-- What precedes something in a list is in the list. -/
lemma left_mem (h : Precedes l u v) : u ∈ l :=
  h.subset (by simp)

/-- What something in a list precedes is in the list. -/
lemma right_mem (h : Precedes l u v) : v ∈ l :=
  h.subset (by simp)

/-- In a list without repetitions, what comes before the head of a rest comes in front of that
rest. -/
lemma mem_of_split {before after : List Nat} (hn : (before ++ v :: after).Nodup)
    (h : Precedes (before ++ v :: after) u v) : u ∈ before := by
  obtain ⟨front, back, hl, hu, hv⟩ := List.sublist_append_iff.1 (show [u, v].Sublist _ from h)
  have hv' : v ∉ before := by
    intro hm
    exact (List.nodup_append.1 hn).2.2 v hm v (List.mem_cons_self ..) rfl
  cases front with
  | nil =>
    -- Both would stand in the rest, whose head is `v`.
    rw [List.nil_append] at hl
    subst hl
    have once := (List.nodup_cons.1 (List.nodup_append.1 hn).2.1).1
    cases hv with
    | cons _ hv => exact absurd (hv.subset (by simp)) once
    | cons_cons _ hv => exact absurd (hv.subset (by simp)) once
  | cons a front =>
    rw [(List.cons.inj hl).1]
    exact hu.subset (List.mem_cons_self ..)

/-- In a list without repetitions, what comes after a member does not come in front of it. -/
lemma notMem_of_split {before after : List Nat} (hn : (before ++ u :: after).Nodup)
    (h : Precedes (before ++ u :: after) u v) : v ∉ before := by
  intro hv
  obtain ⟨front, back, rfl⟩ := List.append_of_mem hv
  rw [List.append_assoc, List.cons_append] at hn h
  have hu := h.mem_of_split hn
  exact (List.nodup_append.1 hn).2.2 u hu u (by simp) rfl

/-- What comes before in a list without repetitions has the smaller place. -/
lemma idxOf_lt (hn : l.Nodup) (h : Precedes l u v) : l.idxOf u < l.idxOf v := by
  obtain ⟨before, after, rfl⟩ := List.append_of_mem h.right_mem
  have hu := h.mem_of_split hn
  have hv : v ∉ before := by
    intro hm
    exact (List.nodup_append.1 hn).2.2 v hm v (List.mem_cons_self ..) rfl
  rw [List.idxOf_append_of_mem hu, List.idxOf_append_of_notMem hv, List.idxOf_cons_self]
  have := List.idxOf_lt_length_of_mem hu
  omega

end Precedes

/-- A relation that makes some measure grow has no cycle. -/
lemma Acyclic.of_measure {R : Nat → Nat → Prop} (f : Nat → Nat) (h : ∀ u v, R u v → f u < f v) :
    Acyclic R := by
  intro v hv
  have grows : ∀ w, Relation.TransGen R v w → f v < f w := by
    intro w hw
    induction hw with
    | single hr => exact h _ _ hr
    | tail _ hr ih => exact ih.trans (h _ _ hr)
  exact lt_irrefl _ (grows v hv)

/-- A smaller relation has no more cycles. -/
lemma Acyclic.mono {R S : Nat → Nat → Prop} (hS : Acyclic S) (h : ∀ u v, R u v → S u v) : Acyclic R :=
  fun v hv => hS v (Relation.TransGen.mono h _ _ hv)

/-- Without a cycle, some member of a bounded set has no related member of the set before it. -/
lemma Acyclic.exists_first {R : Nat → Nat → Prop} (h : Acyclic R) {n : Nat} {P : Nat → Prop}
    (bounded : ∀ v, P v → v < n) {v : Nat} (hv : P v) : ∃ w, P w ∧ ∀ u, P u → ¬ R u w := by
  let S := { w : Fin n // P w }
  let before : S → S → Prop := fun u w => Relation.TransGen R u.1 w.1
  have trans : IsTrans S before := ⟨fun _ _ _ => Relation.TransGen.trans⟩
  have irrefl : Std.Irrefl before := ⟨fun w => h w.1⟩
  have wf : WellFounded before := Finite.wellFounded_of_trans_of_irrefl before
  obtain ⟨w, -, least⟩ := wf.has_min Set.univ ⟨⟨⟨v, bounded v hv⟩, hv⟩, trivial⟩
  refine ⟨w.1, w.2, fun u hu hr => ?_⟩
  exact least ⟨⟨u, bounded u hu⟩, hu⟩ trivial (.single hr)

namespace Topological

variable {n : Nat} {R : Nat → Nat → Prop} {l : List Nat}

/-- In a topological order every number comes once. -/
lemma nodup (h : Topological n R l) : l.Nodup :=
  h.perm.nodup_iff.2 List.nodup_range

/-- A topological order is one of the first `n` numbers. -/
lemma mem_iff (h : Topological n R l) {v : Nat} : v ∈ l ↔ v < n := by
  rw [h.perm.mem_iff, List.mem_range]

/-- A topological order has all `n` numbers. -/
lemma length_eq (h : Topological n R l) : l.length = n := by
  rw [h.perm.length_eq, List.length_range]

/-- An order of a relation is an order of every smaller one. -/
lemma mono (h : Topological n R l) {S : Nat → Nat → Prop} (hS : ∀ u v, S u v → R u v) :
    Topological n S l :=
  ⟨h.perm, fun u v hr => h.respects u v (hS u v hr)⟩

/-- What is related comes at places in order. -/
lemma idxOf_lt (h : Topological n R l) {u v : Nat} (hr : R u v) : l.idxOf u < l.idxOf v :=
  (h.respects u v hr).idxOf_lt h.nodup

/-- A relation that has an order has no cycle. -/
lemma acyclic (h : Topological n R l) : Acyclic R :=
  .of_measure l.idxOf fun _ _ => h.idxOf_lt

end Topological

end SensorSim.Order
