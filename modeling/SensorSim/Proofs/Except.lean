import Mathlib

/-!
# Steps that may fail

What is known of steps and checks one after another when the whole succeeds, and of a step taken for
each element of a list: it succeeds when each step does, and otherwise the first that fails is
blamed.
-/

namespace SensorSim

variable {ε α β : Type}

/-- Two steps one after the other succeed when the first does, and then the second with its
value. -/
lemma bind_eq_ok_iff {x : Except ε α} {f : α → Except ε β} {b : β} :
    x >>= f = .ok b ↔ ∃ a, x = .ok a ∧ f a = .ok b := by
  cases x <;> simp [Bind.bind, Except.bind]

/-- A value that is computed from a result shows that there is one. -/
lemma toOption_map_eq_some_iff {x : Except ε α} {f : α → β} {b : β} :
    x.toOption.map f = some b ↔ ∃ a, x = .ok a ∧ f a = b := by
  cases x <;> simp [Except.toOption]

/-- What comes after a check succeeds only when the check is passed. -/
lemma ite_throw_bind_eq_ok_iff {c : Prop} [Decidable c] {e : ε} {f : Unit → Except ε α} {rest : Except ε α} {a : α} :
    (if c then MonadExcept.throw e >>= f else rest) = .ok a ↔ ¬c ∧ rest = .ok a := by
  by_cases bad : c
  · rw [if_pos bad]
    exact ⟨nofun, fun passed => absurd bad passed.1⟩
  · rw [if_neg bad, and_iff_right bad]

section

variable {f : α → Except ε β}

/-- A traversal succeeds with one result for each element. -/
lemma mapM_eq_ok_iff {l : List α} {ys : List β} : l.mapM f = .ok ys ↔ List.Forall₂ (fun a b => f a = .ok b) l ys := by
  induction l generalizing ys with
  | nil => simp [pure, Except.pure, eq_comm]
  | cons a l ih =>
    simp only [List.mapM_cons, bind_eq_ok_iff, List.forall₂_cons_left_iff, ih]
    simp only [pure, Except.pure, Except.ok.injEq, exists_and_left, eq_comm]

/-- A traversal succeeds when each of its steps does. -/
lemma exists_mapM_eq_ok (good : ∀ a, ∃ b, f a = .ok b) (l : List α) : ∃ ys, l.mapM f = .ok ys := by
  choose g hg using good
  exact ⟨l.map g, mapM_eq_ok_iff.2 (List.forall₂_map_right_iff.2 (List.forall₂_same.2 fun a _ => hg a))⟩

/-- A traversal fails with the error of the first element that has one. -/
lemma mapM_eq_error_iff {l : List α} {e : ε} : l.mapM f = .error e ↔
    ∃ before a after, l = before ++ a :: after ∧ (∀ b ∈ before, ∃ y, f b = .ok y) ∧ f a = .error e := by
  induction l with
  | nil => simp [pure, Except.pure]
  | cons a l ih =>
    rw [List.mapM_cons]
    refine ⟨fun failed => ?_, fun first => ?_⟩
    · cases head : f a with
      | error e' =>
        rw [head] at failed
        cases failed
        exact ⟨[], a, l, rfl, by simp, head⟩
      | ok b =>
        cases rest : l.mapM f with
        | ok bs =>
          rw [head, rest] at failed
          cases failed
        | error e' =>
          rw [head, rest] at failed
          cases failed
          obtain ⟨before, x, after, rfl, good, bad⟩ := ih.1 rest
          exact ⟨a :: before, x, after, rfl, by simpa [head] using good, bad⟩
    · obtain ⟨before, x, after, split, good, bad⟩ := first
      cases before with
      | nil =>
        obtain ⟨rfl, rfl⟩ := List.cons.inj split
        rw [bad]
        rfl
      | cons b before =>
        obtain ⟨rfl, rfl⟩ := List.cons.inj split
        obtain ⟨y, hy⟩ := good a List.mem_cons_self
        rw [hy, ih.2 ⟨before, x, after, rfl, fun c hc => good c (List.mem_cons_of_mem _ hc), bad⟩]
        rfl

end

end SensorSim
