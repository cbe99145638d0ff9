/-!
# Programs

A program asks questions and goes on with the replies. It can do nothing else, so what a program may
do is said by the questions that there are. A handler that answers each question from a state, and
changes the state, turns a program into a function of the state.
-/

namespace SensorSim.Stage

/-- A program with the questions `Q`, each with its kind of reply. -/
inductive Program (Q : Type) (Reply : Q → Type) (α : Type) where
  /-- The program that is done. -/
  | done (result : α)
  /-- The program that asks a question and goes on with the reply. -/
  | ask (question : Q) (next : Reply question → Program Q Reply α)

namespace Program

variable {Q : Type} {Reply : Q → Type} {α β σ : Type}

/-- Goes on with another program after a program is done. -/
def bind : Program Q Reply α → (α → Program Q Reply β) → Program Q Reply β
  | done a, f => f a
  | ask q next, f => ask q fun reply => bind (next reply) f

instance : Monad (Program Q Reply) where
  pure := done
  bind := bind

/-- The program that asks one question and returns the reply. -/
def question (q : Q) : Program Q Reply (Reply q) :=
  ask q done

def run (handle : (q : Q) → σ → Reply q × σ) : Program Q Reply α → σ → α × σ
  | done a, s => (a, s)
  | ask q next, s => run handle (next (handle q s).1) (handle q s).2

/-- A program that is done leaves the state alone. -/
@[simp] theorem run_pure (handle : (q : Q) → σ → Reply q × σ) (a : α) (s : σ) :
    run handle (pure a : Program Q Reply α) s = (a, s) :=
  rfl

/-- Programs in sequence run one after the other. -/
@[simp] theorem run_bind (handle : (q : Q) → σ → Reply q × σ) (p : Program Q Reply α)
    (f : α → Program Q Reply β) (s : σ) :
    run handle (p >>= f) s = run handle (f (run handle p s).1) (run handle p s).2 := by
  show run handle (bind p f) s = _
  induction p generalizing s with
  | done a => rfl
  | ask q next ih => exact ih (handle q s).1 (handle q s).2

/-- What holds of the state before a program and is kept by every answer holds after it. -/
theorem run_invariant {handle : (q : Q) → σ → Reply q × σ} {P : σ → Prop}
    (keeps : ∀ q s, P s → P (handle q s).2) (p : Program Q Reply α) {s : σ} (h : P s) :
    P (run handle p s).2 := by
  induction p generalizing s with
  | done a => exact h
  | ask q next ih => exact ih _ (keeps q s h)

end Program

end SensorSim.Stage
