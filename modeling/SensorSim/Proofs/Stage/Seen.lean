import Mathlib
import SensorSim.Proofs.Stage.Equipment

/-!
# What an event shows of a stage

An event with a given number shows of a relay the failures that it was told to raise in that event,
and of a recorder the messages of that event; of what they noted otherwise it shows nothing. Two
stages of which it shows the same are set up alike and run alike in it, and show the same again
afterwards (`Alike.setUp`, `Alike.run`).
-/

namespace SensorSim.Stage

open Bus

/-! ## Steps that do without the stage -/

section

variable {Q : Type} {Reply : Q → Type} {μ σ α β : Type}

/-- A step does the same whatever the stage is, and leaves it as it is. -/
def Stateless (handle : (q : Q) → σ → Reply q × σ) (x : Step Q Reply μ α) : Prop :=
  ∀ m m' s, exec handle m' s x = (((exec handle m s x).1.1, m'), (exec handle m s x).2)

namespace Stateless

variable {handle : (q : Q) → σ → Reply q × σ}

lemma pure (a : α) : Stateless handle (pure a : Step Q Reply μ α) :=
  fun _ _ _ => rfl

lemma throw (e : StageError) : Stateless handle (throw e : Step Q Reply μ α) :=
  fun _ _ _ => rfl

/-- A question is answered alike, whatever the stage is. -/
lemma question (q : Q) :
    Stateless handle (ExceptT.lift (StateT.lift (Program.question q)) : Step Q Reply μ (Reply q)) :=
  fun _ _ _ => rfl

/-- Steps in sequence are not a matter of the stage when neither is. -/
lemma bind {x : Step Q Reply μ α} (h : Stateless handle x) {f : α → Step Q Reply μ β}
    (hf : ∀ a, Stateless handle (f a)) : Stateless handle (x >>= f) := by
  intro m m' s
  have still := h m m s
  rw [exec_bind, exec_bind, h m m' s]
  rcases first : exec handle m s x with ⟨⟨outcome, m₁⟩, s₁⟩
  rw [first] at still
  obtain rfl : m₁ = m := congrArg (fun r => r.1.2) still
  cases outcome with
  | ok a => exact hf a m₁ m' s₁
  | error e => rfl

/-- A step for each of some entries is not a matter of the stage when none of these steps is. -/
lemma forM {f : β → Step Q Reply μ PUnit} {xs : List β} (hf : ∀ x, Stateless handle (f x)) :
    Stateless handle (xs.forM f) := by
  induction xs with
  | nil => exact pure _
  | cons x rest ih => exact (hf x).bind fun _ => ih

end Stateless

end

section

variable {i : StageId} {files : Files.FileSystem} {μ α : Type}

/-- To go on with a result in the setup, or to fail by it, is not a matter of the stage. -/
lemma Stateless.setupOrFail {ε : Type} (wrap : ε → StageError) (r : Except ε α) :
    Stateless (SetupQuestion.answer i files) (SetupM.orFail wrap r : SetupM μ α) := by
  cases r with
  | ok a => exact .pure a
  | error e => exact .throw _

/-- The scope is that of the detector, whatever the stage is. -/
lemma Stateless.ownScope : Stateless (SetupQuestion.answer i files) (SetupM.ownScope : SetupM μ Scope) :=
  (Stateless.question _).bind fun _ => .pure _

/-- To subscribe is not a matter of the stage. -/
lemma Stateless.subscribeOwn (k : Kind) (r : Requirement) :
    Stateless (SetupQuestion.answer i files) (SetupM.subscribeOwn k r : SetupM μ Unit) :=
  Stateless.ownScope.bind fun _ => (Stateless.question _).bind fun _ => .setupOrFail _ _

/-- To publish is not a matter of the stage. -/
lemma Stateless.publish (k : Kind) : Stateless (SetupQuestion.answer i files) (SetupM.publish k : SetupM μ Unit) :=
  Stateless.ownScope.bind fun _ => (Stateless.question _).bind fun _ => .setupOrFail _ _

/-- To go on with a result in an event, or to fail by it, is not a matter of the stage. -/
lemma Stateless.runOrFail {ε : Type} (wrap : ε → StageError) (r : Except ε α) :
    Stateless (RunQuestion.answer i) (RunM.orFail wrap r : RunM μ α) := by
  cases r with
  | ok a => exact .pure a
  | error e => exact .throw _

/-- To fetch for a detector is not a matter of the stage. -/
lemma Stateless.fetch (ctx : RunContext) (k : Kind) :
    Stateless (RunQuestion.answer i) (RunM.fetch ctx k : RunM μ _) := by
  refine Stateless.bind ?_ fun _ => (Stateless.question _).bind fun _ => .runOrFail _ _
  rw [RunContext.getDetector]
  split
  · exact .pure _
  · exact .throw _

/-- To fetch for all detectors is not a matter of the stage. -/
lemma Stateless.fetchAll (k : Kind) : Stateless (RunQuestion.answer i) (RunM.fetchAll k : RunM μ _) :=
  (Stateless.question _).bind fun _ => .runOrFail _ _

/-- To dispatch a message is not a matter of the stage. -/
lemma Stateless.dispatchMessage (m : Message) :
    Stateless (RunQuestion.answer i) (RunM.dispatchMessage m : RunM μ _) :=
  (Stateless.question _).bind fun _ => .runOrFail _ _

end

/-! ## Relays -/

namespace Relay

/-- What a relay declares when it is set up. -/
def declare (r : Relay) : SetupM Relay Unit := do
  if let some e := r.setupFailure then throw e
  r.takes.forM fun (kind, requirement) => SetupM.subscribeOwn kind requirement
  r.gives.forM SetupM.publish

/-- What a relay does after it has noted the event. -/
def deliver (r : Relay) (ctx : RunContext) : RunM Relay Unit := do
  if let some e := r.failures.lookup ctx.event then throw e
  r.takes.forM fun (kind, _) => r.take ctx kind
  r.gives.forM fun kind => do
    let _ ← RunM.dispatchMessage { records := .none kind, detector := r.detector }

variable (r : Relay)

/-- What a relay declares is not a matter of what it has noted. -/
lemma stateless_declare {i : StageId} {files : Files.FileSystem} :
    Stateless (SetupQuestion.answer i files) r.declare := by
  rw [declare]
  cases r.setupFailure with
  | some e => exact .throw e
  | none =>
    have takes : Stateless (SetupQuestion.answer i files)
        (r.takes.forM fun t => SetupM.subscribeOwn t.1 t.2 : SetupM Relay Unit) :=
      .forM fun t => .subscribeOwn t.1 t.2
    have gives : Stateless (SetupQuestion.answer i files) (r.gives.forM SetupM.publish : SetupM Relay Unit) :=
      .forM fun k => .publish k
    exact takes.bind fun _ => gives

/-- What a relay does in an event is not a matter of what it has noted. -/
lemma stateless_deliver {i : StageId} (ctx : RunContext) : Stateless (RunQuestion.answer i) (r.deliver ctx) := by
  have take : ∀ k, Stateless (RunQuestion.answer i) (r.take ctx k) := by
    intro k
    unfold take
    cases r.detector with
    | some d => exact (Stateless.fetch ctx k).bind fun _ => .pure _
    | none => exact (Stateless.fetchAll k).bind fun _ => .pure _
  rw [deliver]
  cases r.failures.lookup ctx.event with
  | some e => exact .throw e
  | none =>
    have takes : Stateless (RunQuestion.answer i) (r.takes.forM fun t => r.take ctx t.1) :=
      .forM fun t => take t.1
    have gives : Stateless (RunQuestion.answer i) (r.gives.forM fun k => do
        let _ ← RunM.dispatchMessage { records := .none k, detector := r.detector } : RunM Relay Unit) :=
      .forM fun k => (Stateless.dispatchMessage _).bind fun _ => .pure _
    exact takes.bind fun _ => gives

end Relay

/-! ## What is shown -/

namespace Standard

/-- What the event with a number shows of a stage. -/
def seenIn (n : Nat) : Standard → Standard
  | .relay r => .relay { r with failures := r.failures.filter fun f => f.1 == n, ran := [], closed := [] }
  | .recorder r => .recorder { r with messages := r.ofEvent n }
  | s => s

/-- Two stages of which the event with a number shows the same. -/
def Alike (n : Nat) (s s' : Standard) : Prop :=
  s.seenIn n = s'.seenIn n

/-- What an event shows of a stage shows no less of it. -/
lemma seenIn_seenIn (n : Nat) (s : Standard) : (s.seenIn n).seenIn n = s.seenIn n := by
  cases s with
  | relay r => simp only [seenIn, List.filter_filter, Bool.and_self]
  | recorder r => simp only [seenIn, Recorder.ofEvent, List.filter_filter, Bool.and_self]
  | _ => rfl

namespace Alike

variable {n : Nat} {s s' : Standard}

/-- Stages that do the same and have recorded the same of the event show the same in it. -/
lemma of_fresh (same : s'.fresh = s.fresh)
    (heard : s'.heard.filter (fun m => m.event == n) = s.heard.filter fun m => m.event == n) : Alike n s' s := by
  have unrecorded : ∀ s : Standard, s.records? = none → s.fresh.seenIn n = s.seenIn n := by
    intro s h
    cases s with
    | recorder r => cases h
    | _ => rfl
  have kinds := records?_congr same
  cases hk : s.records? with
  | none => rw [Alike, ← unrecorded s hk, ← unrecorded s' (kinds.trans hk), same]
  | some k =>
    cases s with
    | recorder r =>
      cases s' with
      | recorder r' =>
        have kind : r'.kind = r.kind := Option.some.inj kinds
        rw [Alike, seenIn, seenIn, kind]
        exact congrArg (fun l => recorder ⟨r.kind, l⟩) heard
      | _ => cases kinds
    | _ => cases hk

lemma name (h : Alike n s s') : Stage.name s = Stage.name s' := by
  have of_seen : ∀ s : Standard, Stage.name (s.seenIn n) = Stage.name s := by
    intro s
    cases s <;> rfl
  rw [← of_seen s, h, of_seen]

lemma detector (h : Alike n s s') : Stage.detector? s = Stage.detector? s' := by
  have of_seen : ∀ s : Standard, Stage.detector? (s.seenIn n) = Stage.detector? s := by
    intro s
    cases s <;> rfl
  rw [← of_seen s, h, of_seen]

end Alike

end Standard

/-- Two executions that differ at most in what an event does not show of the stage. -/
structure Agree {σ : Type} (n : Nat) (x y : (Except StageError Unit × Standard) × σ) : Prop where
  outcome : x.1.1 = y.1.1
  stage : Standard.Alike n x.1.2 y.1.2
  surroundings : x.2 = y.2

namespace Agree

variable {σ : Type} {n : Nat} {x y z : (Except StageError Unit × Standard) × σ}

lemma refl (x : (Except StageError Unit × Standard) × σ) : Agree n x x :=
  ⟨rfl, rfl, rfl⟩

lemma symm (h : Agree n x y) : Agree n y x :=
  ⟨h.outcome.symm, h.stage.symm, h.surroundings.symm⟩

lemma trans (h : Agree n x y) (h' : Agree n y z) : Agree n x z :=
  ⟨h.outcome.trans h'.outcome, h.stage.trans h'.stage, h.surroundings.trans h'.surroundings⟩

end Agree

/-! ## Setups and events -/

section

variable {n : Nat} {i : StageId} {s s' : Standard}

/-- A stage is set up as what the event shows of it. -/
lemma agree_setUp_seenIn (files : Files.FileSystem) (ctx : SetupContext) (w : Workbench) (s : Standard) :
    Agree n (Program.run (SetupQuestion.answer i files) (Stage.setUp ctx (s.seenIn n)) w)
      (Program.run (SetupQuestion.answer i files) (Stage.setUp ctx s) w) := by
  cases s with
  | relay r =>
    have step : ∀ r : Relay, Program.run (SetupQuestion.answer i files) (Stage.setUp ctx (Standard.relay r)) w =
        (Prod.map id .relay (exec (SetupQuestion.answer i files) r w r.declare).1,
          (exec (SetupQuestion.answer i files) r w r.declare).2) := fun _ => run_map ..
    rw [Standard.seenIn, step, step]
    set r' : Relay := { r with failures := r.failures.filter fun f => f.1 == n, ran := [], closed := [] }
    have same : r'.declare = r.declare := rfl
    rw [same, r.stateless_declare r r' w, r.stateless_declare r r w]
    exact ⟨rfl, Standard.seenIn_seenIn n (.relay r), rfl⟩
  | recorder r =>
    have step : ∀ r : Recorder, Program.run (SetupQuestion.answer i files) (Stage.setUp ctx (Standard.recorder r)) w =
        (Prod.map id .recorder
            (exec (SetupQuestion.answer i files) r w (SetupM.subscribeOwn r.kind .optional)).1,
          (exec (SetupQuestion.answer i files) r w (SetupM.subscribeOwn r.kind .optional)).2) :=
      fun _ => run_map ..
    rw [Standard.seenIn, step, step]
    have still : Stateless (SetupQuestion.answer i files)
        (SetupM.subscribeOwn r.kind .optional : SetupM Recorder Unit) :=
      .subscribeOwn r.kind .optional
    rw [still r { r with messages := r.ofEvent n } w, still r r w]
    exact ⟨rfl, Standard.seenIn_seenIn n (.recorder r), rfl⟩
  | _ => exact .refl _

/-- Stages of which an event shows the same are set up alike. -/
lemma Standard.Alike.setUp (h : Standard.Alike n s s') (files : Files.FileSystem) (ctx : SetupContext) (w : Workbench) :
    Agree n (Program.run (SetupQuestion.answer i files) (Stage.setUp ctx s) w)
      (Program.run (SetupQuestion.answer i files) (Stage.setUp ctx s') w) := by
  have left := agree_setUp_seenIn (i := i) (n := n) files ctx w s
  rw [h] at left
  exact left.symm.trans (agree_setUp_seenIn files ctx w s')

/-- The failure that a relay was told to raise in an event is found among those of the event. -/
lemma lookup_filter (failures : List (Nat × StageError)) (n : Nat) :
    (failures.filter fun f => f.1 == n).lookup n = failures.lookup n := by
  induction failures with
  | nil => rfl
  | cons f rest ih =>
    by_cases hf : f.1 = n
    · rw [List.filter_cons_of_pos (by simpa using hf), List.lookup_cons, List.lookup_cons, hf, beq_self_eq_true]
    · rw [List.filter_cons_of_neg (by simpa using hf), ih, List.lookup_cons, beq_eq_false_iff_ne.2 (Ne.symm hf)]

/-- A stage runs in an event as what the event shows of it. -/
lemma agree_run_seenIn (ctx : RunContext) (b : Bus) (s : Standard) :
    Agree ctx.event (Program.run (RunQuestion.answer i) (Stage.run ctx (s.seenIn ctx.event)) b)
      (Program.run (RunQuestion.answer i) (Stage.run ctx s) b) := by
  cases s with
  | relay r =>
    have step : ∀ r : Relay, Program.run (RunQuestion.answer i) (Stage.run ctx (Standard.relay r)) b =
        (Prod.map id .relay (exec (RunQuestion.answer i) { r with ran := r.ran ++ [ctx.event] } b
            (Relay.deliver { r with ran := r.ran ++ [ctx.event] } ctx)).1,
          (exec (RunQuestion.answer i) { r with ran := r.ran ++ [ctx.event] } b
            (Relay.deliver { r with ran := r.ran ++ [ctx.event] } ctx)).2) := fun _ => run_map ..
    rw [Standard.seenIn, step, step]
    set r₁ : Relay := { r with ran := r.ran ++ [ctx.event] }
    set r₂ : Relay := { r with
      failures := r.failures.filter fun f => f.1 == ctx.event, ran := [] ++ [ctx.event], closed := [] }
    -- Both look up the same failure, and nothing else of the stage is looked at that was changed.
    have same : r₂.deliver ctx = r₁.deliver ctx := by
      rw [Relay.deliver, lookup_filter]
      rfl
    rw [same, r₁.stateless_deliver ctx r₁ r₂ b, r₁.stateless_deliver ctx r₁ r₁ b]
    exact ⟨rfl, Standard.seenIn_seenIn ctx.event (.relay r), rfl⟩
  | recorder r =>
    have step : ∀ r : Recorder, Program.run (RunQuestion.answer i) (Stage.run ctx (Standard.recorder r)) b =
        (Prod.map id .recorder (exec (RunQuestion.answer i) r b (Recorder.run ctx)).1,
          (exec (RunQuestion.answer i) r b (Recorder.run ctx)).2) := fun _ => run_map ..
    rw [Standard.seenIn, step, step, Recorder.exec_run_eq, Recorder.exec_run_eq]
    cases b.fetchAll i r.kind with
    | ok found =>
      refine ⟨rfl, ?_, rfl⟩
      show Standard.recorder _ = Standard.recorder _
      simp only [Recorder.ofEvent, List.filter_append, List.filter_filter, Bool.and_self]
    | error e => exact ⟨rfl, Standard.seenIn_seenIn ctx.event (.recorder r), rfl⟩
  | _ => exact .refl _

/-- Stages of which an event shows the same run alike in it. -/
lemma Standard.Alike.run (ctx : RunContext) (h : Standard.Alike ctx.event s s') (b : Bus) :
    Agree ctx.event (Program.run (RunQuestion.answer i) (Stage.run ctx s) b)
      (Program.run (RunQuestion.answer i) (Stage.run ctx s') b) := by
  have left := agree_run_seenIn (i := i) ctx b s
  rw [h] at left
  exact left.symm.trans (agree_run_seenIn ctx b s')

end

end SensorSim.Stage
