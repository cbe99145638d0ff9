import Mathlib
import SensorSim.Proofs.Stage.Declaration

/-!
# What relays and recorders do in an event

A relay runs through exactly when it was not told to fail, every message that it takes is granted,
and no message that it gives clashes with another; a recorder, when what it takes is granted
(`run_fixture`). What is granted is said by the declarations and by the messages stored so far
(`grants_iff`).
-/

namespace SensorSim

open Bus (Entry Kind StageId)

namespace Bus

/-- A stage that belongs to a detector, or to none, gets what it asks for of a kind. -/
def Grants (b : Bus) (i : StageId) (d : Option String) (k : Kind) : Prop :=
  match d with
  | some d => ∃ found, b.fetch i k d = .ok found
  | none => ∃ found, b.fetchAll i k = .ok found

/-- No two messages clash. -/
def Free (store : List Entry) : Prop :=
  store.Pairwise fun e f => ¬ e.message.clashes f.message

/-- The bus with more messages stored. -/
def withEntries (b : Bus) (entries : List Entry) : Bus :=
  { b with store := b.store ++ entries }

end Bus

namespace Stage

open Bus

namespace Standard

/-- The failures that a stage was told to raise, by event. -/
def failures : Standard → List (Nat × StageError)
  | .relay r => r.failures
  | _ => []

/-- The stage without what it noted of its calls. -/
def fresh : Standard → Standard
  | .relay r => .relay { r with ran := [], closed := [] }
  | .recorder r => .recorder { r with messages := [] }
  | s => s

/-- The empty messages that a stage gives in an event. -/
def sent (s : Standard) (i : StageId) (event : Nat) : List Entry :=
  s.gives.map fun k => ⟨i, { records := .none k, detector := Stage.detector? s, event }⟩

/-- A stage runs through: it was not told to fail, it gets what it takes, and no message clashes
with one that it gives. -/
def RunsThrough (s : Standard) (b : Bus) (i : StageId) (event : Nat) : Prop :=
  (∀ e, (event, e) ∉ s.failures) ∧ (∀ t ∈ s.takes, b.Grants i (Stage.detector? s) t.1) ∧
    Free (b.store ++ s.sent i event)

/-- What a stage declares and does is not a matter of what it noted. -/
lemma congr_fresh {s s' : Standard} (h : s'.fresh = s.fresh) :
    s'.takes = s.takes ∧ s'.gives = s.gives ∧ s'.failures = s.failures ∧
      Stage.detector? s' = Stage.detector? s ∧ (s'.IsFixture ↔ s.IsFixture) := by
  have of_fresh : ∀ s : Standard, s.fresh.takes = s.takes ∧ s.fresh.gives = s.gives ∧
      s.fresh.failures = s.failures ∧ Stage.detector? s.fresh = Stage.detector? s ∧
      (s.fresh.IsFixture ↔ s.IsFixture) := by
    intro s
    cases s <;> exact ⟨rfl, rfl, rfl, rfl, Iff.rfl⟩
  obtain ⟨t, g, f, d, x⟩ := of_fresh s
  obtain ⟨t', g', f', d', x'⟩ := of_fresh s'
  rw [h] at t' g' f' d' x'
  exact ⟨t'.symm.trans t, g'.symm.trans g, f'.symm.trans f, d'.symm.trans d, x'.symm.trans x⟩

end Standard

/-! ## What is granted -/

section

variable {stages : List Standard} {i : StageId} {s : Standard}

/-- Of one kind, a stage subscribes to what it takes in its own scope and to nothing else. -/
lemma exists_own_iff (hs : stages[i]? = some s) {k : Kind} {P : StageId × Kind × Scope → Prop}
    (own : P (i, k, s.ownScope)) (only : ∀ x, P x → x.1 = i ∧ x.2.1 = k) (Q : Requirement → Prop) :
    (∃ t ∈ Standard.declared Standard.subscriptions stages, P t.key ∧ Q t.requirement) ↔
      ∃ r, (k, r) ∈ s.takes ∧ Q r := by
  refine ⟨?_, ?_⟩
  · intro h
    obtain ⟨t, ht, hP, hQ⟩ := h
    obtain ⟨j, s', hs', ht⟩ := Standard.mem_declared.1 ht
    obtain ⟨⟨k', r⟩, hx, rfl⟩ := List.mem_map.1 ht
    obtain ⟨rfl, rfl⟩ := only _ hP
    cases hs.symm.trans hs'
    exact ⟨r, hx, hQ⟩
  · intro h
    obtain ⟨r, hx, hQ⟩ := h
    refine ⟨⟨i, k, s.ownScope, r⟩, Standard.mem_declared.2 ⟨i, s, hs, ?_⟩, own, hQ⟩
    exact List.mem_map.2 ⟨(k, r), hx, rfl⟩

/-- Where a bus holds what stages declare, a stage is granted what it takes, except that something
required must be stored for a detector of its scope or for none. -/
lemma grants_iff {b : Bus} (holds : Standard.HeldBy stages b) (hs : stages[i]? = some s) (k : Kind) :
    b.Grants i (Stage.detector? s) k ↔ (∃ r, (k, r) ∈ s.takes) ∧ ((k, .required) ∈ s.takes →
      ∃ e ∈ b.store, e.message.kind = k ∧ (Scope.own e.message.detector).overlaps s.ownScope) := by
  have required : (∃ r, (k, r) ∈ s.takes ∧ r = .required) ↔ (k, .required) ∈ s.takes := by
    simp
  have taken : (∃ r, (k, r) ∈ s.takes ∧ True) ↔ ∃ r, (k, r) ∈ s.takes := by
    simp
  cases hd : Stage.detector? s with
  | none =>
    have scope : s.ownScope = .own none := by rw [Standard.ownScope, hd]
    have own : ∀ Q, _ := exists_own_iff hs (P := fun x => x = (i, k, .any)) (by rw [scope]; rfl) (by simp)
    rw [Grants, exists_fetchAll_iff holds.distinct, holds.exists_iff fun x => x = (i, k, .any),
      holds.exists_required_iff fun x => x = (i, k, .any), own fun r => r = .required, required, ← taken,
      ← own fun _ => True, scope]
    simp only [and_true, Scope.overlaps_own_none]
  | some d =>
    have scope : s.ownScope = .own (some d) := by rw [Standard.ownScope, hd]
    have own : ∀ Q, _ := exists_own_iff hs (P := Covers i k d) (by simp [Covers, scope, Scope.own, Scope.covers])
      (fun x h => ⟨h.1, h.2.1⟩)
    rw [Grants, exists_fetch_iff, holds.exists_iff (Covers i k d), holds.exists_required_iff (Covers i k d),
      own fun r => r = .required, required, ← taken, ← own fun _ => True, scope]
    simp only [and_true, Scope.own_overlaps_some, Message.visibleTo_iff]

end

/-! ## Taking and giving -/

section

variable (i : StageId) {μ : Type} (m : μ) {b : Bus}

/-- A relay gets what it takes when it is granted, and fails otherwise. -/
lemma Relay.exec_take (r : Relay) {ctx : RunContext} (own : ctx.detector.map Sensor.Detector.name = r.detector)
    (m : Relay) (k : Kind) :
    (b.Grants i r.detector k ∧ exec (RunQuestion.answer i) m b (r.take ctx k) = ((.ok (), m), b)) ∨
    (¬ b.Grants i r.detector k ∧
      ∃ e, exec (RunQuestion.answer i) m b (r.take ctx k) = ((.error e, m), b)) := by
  cases hd : r.detector with
  | none =>
    simp only [Relay.take, hd, RunM.fetchAll, exec_bind, exec_run_ask, RunQuestion.answer, Grants]
    cases b.fetchAll i k with
    | ok found => exact .inl ⟨⟨found, rfl⟩, rfl⟩
    | error e => exact .inr ⟨nofun, _, rfl⟩
  | some d =>
    rw [hd, Option.map_eq_some_iff] at own
    obtain ⟨detector, bound, rfl⟩ := own
    simp only [Relay.take, hd, RunM.fetch, RunM.fetchFor, RunContext.getDetector, bound, exec_bind,
      exec_run_ask, RunQuestion.answer, exec_pure, Grants]
    cases b.fetch i k detector.name with
    | ok found => exact .inl ⟨⟨found, rfl⟩, rfl⟩
    | error e => exact .inr ⟨nofun, _, rfl⟩

/-- A relay gets all that it takes when all of it is granted, and fails otherwise. -/
lemma Relay.exec_forM_take (r : Relay) {ctx : RunContext}
    (own : ctx.detector.map Sensor.Detector.name = r.detector) (m : Relay) (takes : List (Kind × Requirement)) :
    ((∀ t ∈ takes, b.Grants i r.detector t.1) ∧
      exec (RunQuestion.answer i) m b (takes.forM fun (k, _) => r.take ctx k) = ((.ok (), m), b)) ∨
    ((¬ ∀ t ∈ takes, b.Grants i r.detector t.1) ∧
      ∃ e, exec (RunQuestion.answer i) m b (takes.forM fun (k, _) => r.take ctx k) = ((.error e, m), b)) := by
  induction takes with
  | nil => exact .inl ⟨nofun, rfl⟩
  | cons t rest ih =>
    rcases Relay.exec_take i r own m t.1 with ⟨granted, h⟩ | ⟨refused, e, h⟩
    · rcases ih with ⟨all, hs⟩ | ⟨ungranted, e, hs⟩
      · exact .inl ⟨List.forall_mem_cons.2 ⟨granted, all⟩, (exec_bind_ok h _).trans hs⟩
      · exact .inr ⟨fun all => ungranted (List.forall_mem_cons.1 all).2, e, (exec_bind_ok h _).trans hs⟩
    · exact .inr ⟨fun all => refused (List.forall_mem_cons.1 all).1, e, exec_bind_error h _⟩

/-- A message that clashes with none is dispatched. -/
lemma exec_dispatchMessage_ok {event : Nat} (hev : b.event = some event) {x : Message}
    (free : ∀ e ∈ b.store, ¬ e.message.clashes x) :
    exec (RunQuestion.answer i) m b (RunM.dispatchMessage x) =
      ((.ok { x with event }, m), b.withEntries [⟨i, { x with event }⟩]) := by
  simp only [RunM.dispatchMessage, exec_bind, exec_run_ask, RunQuestion.answer, dispatch_of_free hev i free]
  rfl

/-- A message that clashes with one is not. -/
lemma exec_dispatchMessage_error {x : Message} {e : Entry} (he : e ∈ b.store) (clash : e.message.clashes x) :
    ∃ error, exec (RunQuestion.answer i) m b (RunM.dispatchMessage x) = ((.error error, m), b) := by
  obtain ⟨error, h⟩ := dispatch_of_clash i he clash
  refine ⟨.bus error, ?_⟩
  simp only [RunM.dispatchMessage, exec_bind, exec_run_ask, RunQuestion.answer, h]
  rfl

/-- Empty messages are all dispatched when no two clash; otherwise the first that does is
refused. -/
lemma exec_forM_dispatch {event : Nat} (hev : b.event = some event) (free : Free b.store) (d : Option String)
    (gives : List Kind) :
    (Free (b.store ++ gives.map fun k => ⟨i, { records := .none k, detector := d, event }⟩) ∧
      exec (RunQuestion.answer i) m b (gives.forM fun k => do
        let _ ← RunM.dispatchMessage { records := .none k, detector := d }) =
      ((.ok (), m), b.withEntries (gives.map fun k => ⟨i, { records := .none k, detector := d, event }⟩))) ∨
    (¬ Free (b.store ++ gives.map fun k => ⟨i, { records := .none k, detector := d, event }⟩) ∧
      ∃ e b', exec (RunQuestion.answer i) m b (gives.forM fun k => do
        let _ ← RunM.dispatchMessage { records := .none k, detector := d }) = ((.error e, m), b')) := by
  induction gives generalizing b with
  | nil => exact .inl ⟨by simpa using free, by simp [withEntries]⟩
  | cons k rest ih =>
    set x : Message := { records := .none k, detector := d } with hx
    by_cases clear : ∀ e ∈ b.store, ¬ e.message.clashes x
    · have first : exec (RunQuestion.answer i) m b (RunM.dispatchMessage x >>= fun _ => pure ()) =
          ((.ok (), m), b.withEntries [⟨i, { x with event }⟩]) :=
        (exec_bind_ok (exec_dispatchMessage_ok i m hev clear) _).trans rfl
      -- The bus is still free of clashes, so the rest of the messages can be sent in the same way.
      have free' : Free (b.withEntries [⟨i, { x with event }⟩]).store := by
        refine List.pairwise_append.2 ⟨free, List.pairwise_singleton .., fun e he f hf => ?_⟩
        rw [List.mem_singleton.1 hf, Message.clashes_stamp]
        exact clear e he
      have store : ∀ l, (b.withEntries [⟨i, { x with event }⟩]).store ++ l =
          b.store ++ ⟨i, { x with event }⟩ :: l := by
        intro l
        simp [withEntries]
      rcases ih (b := b.withEntries [⟨i, { x with event }⟩]) hev free' with ⟨all, hs⟩ | ⟨clashing, e, b', hs⟩
      · rw [store] at all
        refine .inl ⟨all, ?_⟩
        refine (exec_bind_ok first _).trans (hs.trans ?_)
        rw [withEntries, store]
        rfl
      · rw [store] at clashing
        exact .inr ⟨clashing, e, b', (exec_bind_ok first _).trans hs⟩
    · push Not at clear
      obtain ⟨e, he, clash⟩ := clear
      obtain ⟨error, h⟩ := exec_dispatchMessage_error i m he clash
      refine .inr ⟨fun all => ?_, error, b, exec_bind_error (exec_bind_error h _) _⟩
      have apart := (List.pairwise_append.1 all).2.2 e he ⟨i, { x with event }⟩ (by simp [hx])
      rw [Message.clashes_stamp] at apart
      exact apart clash

/-! ## Whole events -/

variable {i}

/-- A relay runs through, or fails. -/
lemma Relay.exec_run (r : Relay) {ctx : RunContext} (own : ctx.detector.map Sensor.Detector.name = r.detector)
    (hev : b.event = some ctx.event) (free : Free b.store) :
    ((Standard.relay r).RunsThrough b i ctx.event ∧
      exec (RunQuestion.answer i) r b (Relay.run ctx) =
        ((.ok (), { r with ran := r.ran ++ [ctx.event] }),
          b.withEntries ((Standard.relay r).sent i ctx.event))) ∨
    (¬ (Standard.relay r).RunsThrough b i ctx.event ∧
      ∃ e b', exec (RunQuestion.answer i) r b (Relay.run ctx) =
        ((.error e, { r with ran := r.ran ++ [ctx.event] }), b')) := by
  set r' : Relay := { r with ran := r.ran ++ [ctx.event] }
  rw [Relay.run, exec_bind_ok (exec_modify ..), exec_bind_ok (exec_get ..)]
  cases told : r.failures.lookup ctx.event with
  | some e =>
    refine .inr ⟨fun through => ?_, e, b, rfl⟩
    obtain ⟨before, after, split, -⟩ := List.lookup_eq_some_iff.1 told
    exact through.1 e (by simp [Standard.failures, split])
  | none =>
    have silent : ∀ e, (ctx.event, e) ∉ r.failures := by
      intro e he
      exact absurd rfl (bne_iff_ne.1 (List.lookup_eq_none_iff.1 told _ he))
    -- Noting the event changed nothing that the stage takes or gives.
    rcases Relay.exec_forM_take i r' own r' r.takes with ⟨granted, h⟩ | ⟨refused, e, h⟩
    · rcases exec_forM_dispatch i r' hev free r.detector r.gives with ⟨apart, hs⟩ | ⟨clash, e, b', hs⟩
      · exact .inl ⟨⟨silent, granted, apart⟩, (exec_bind_ok h _).trans hs⟩
      · exact .inr ⟨fun through => clash through.2.2, e, b', (exec_bind_ok h _).trans hs⟩
    · exact .inr ⟨fun through => refused through.2.1, e, b, exec_bind_error h _⟩

/-- A recorder keeps what it is given, or fails. -/
lemma Recorder.exec_run_eq (r : Recorder) (ctx : RunContext) :
    exec (RunQuestion.answer i) r b (Recorder.run ctx) =
      match b.fetchAll i r.kind with
      | .ok found => ((.ok (), { r with messages := r.messages ++ found }), b)
      | .error e => ((.error (.bus e), r), b) := by
  rw [Recorder.run, exec_bind_ok (exec_get ..)]
  simp only [RunM.fetchAll, exec_bind, exec_run_ask, RunQuestion.answer]
  cases b.fetchAll i r.kind <;> rfl

/-- A recorder runs through, or fails. -/
lemma Recorder.exec_run (r : Recorder) (ctx : RunContext) (free : Free b.store) :
    ∃ r' : Recorder, r'.kind = r.kind ∧
      (((Standard.recorder r).RunsThrough b i ctx.event ∧
        exec (RunQuestion.answer i) r b (Recorder.run ctx) =
          ((.ok (), r'), b.withEntries ((Standard.recorder r).sent i ctx.event))) ∨
      (¬ (Standard.recorder r).RunsThrough b i ctx.event ∧
        ∃ e b', exec (RunQuestion.answer i) r b (Recorder.run ctx) = ((.error e, r'), b'))) := by
  rw [Recorder.exec_run_eq]
  cases h : b.fetchAll i r.kind with
  | ok found =>
    refine ⟨{ r with messages := r.messages ++ found }, rfl, .inl ⟨⟨nofun, ?_, ?_⟩, ?_⟩⟩
    · intro t ht
      rw [List.mem_singleton.1 ht]
      exact ⟨found, h⟩
    · rw [show (Standard.recorder r).sent i ctx.event = [] from rfl, List.append_nil]
      exact free
    · rw [show (Standard.recorder r).sent i ctx.event = [] from rfl, withEntries, List.append_nil]
  | error e =>
    refine ⟨r, rfl, .inr ⟨fun through => ?_, .bus e, b, rfl⟩⟩
    obtain ⟨found, hf⟩ := through.2.1 (r.kind, .optional) (List.mem_singleton.2 rfl)
    rw [h] at hf
    cases hf

/-- A relay or a recorder runs through and its messages are stored, or it fails. Either way what it
declares and does stays the same. -/
lemma run_fixture {s : Standard} (fixture : s.IsFixture) (ctx : RunContext)
    (own : ctx.detector.map Sensor.Detector.name = Stage.detector? s) (hev : b.event = some ctx.event)
    (free : Free b.store) :
    ∃ s', s'.fresh = s.fresh ∧
      ((s.RunsThrough b i ctx.event ∧
        Program.run (RunQuestion.answer i) (Stage.run ctx s) b =
          ((.ok (), s'), b.withEntries (s.sent i ctx.event))) ∨
      (¬ s.RunsThrough b i ctx.event ∧
        ∃ e b', Program.run (RunQuestion.answer i) (Stage.run ctx s) b = ((.error e, s'), b'))) := by
  cases s with
  | relay r =>
    have run : Program.run (RunQuestion.answer i) (Stage.run ctx (Standard.relay r)) b =
        (Prod.map id .relay (exec (RunQuestion.answer i) r b (Relay.run ctx)).1,
          (exec (RunQuestion.answer i) r b (Relay.run ctx)).2) := run_map ..
    refine ⟨.relay { r with ran := r.ran ++ [ctx.event] }, rfl, ?_⟩
    rw [run]
    rcases Relay.exec_run (i := i) r own hev free with ⟨through, h⟩ | ⟨fails, e, b', h⟩
    · exact .inl ⟨through, by rw [h]; rfl⟩
    · exact .inr ⟨fails, e, b', by rw [h]; rfl⟩
  | recorder r =>
    have run : Program.run (RunQuestion.answer i) (Stage.run ctx (Standard.recorder r)) b =
        (Prod.map id .recorder (exec (RunQuestion.answer i) r b (Recorder.run ctx)).1,
          (exec (RunQuestion.answer i) r b (Recorder.run ctx)).2) := run_map ..
    obtain ⟨r', same, cases⟩ := Recorder.exec_run (i := i) r ctx free
    refine ⟨.recorder r', by simp only [Standard.fresh, same], ?_⟩
    rw [run]
    rcases cases with ⟨through, h⟩ | ⟨fails, e, b', h⟩
    · exact .inl ⟨through, by rw [h]; rfl⟩
    · exact .inr ⟨fails, e, b', by rw [h]; rfl⟩
  | _ => exact fixture.elim

end

end Stage

end SensorSim
