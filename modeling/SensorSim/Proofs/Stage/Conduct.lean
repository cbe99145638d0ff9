import Mathlib
import SensorSim.Proofs.Stage.Delivery

/-!
# What stages do in an event at most

Whatever a stage of the library finds in an event, it dispatches only messages of the kinds that it
gives, for its own detector, and afterwards it is the same stage but for what it noted (`run_only`).
So an event changes nothing on the bus but that signed messages are stored behind those that are
there (`exists_signed`).
-/

namespace SensorSim.Stage

open Bus

/-! ## Programs that ask only some questions -/

namespace Program

variable {Q : Type} {Reply : Q → Type} {α β σ : Type}

/-- Whatever the replies are, a program asks only what is allowed, and its result is as said. -/
def Only (allowed : Q → Prop) (result : α → Prop) : Program Q Reply α → Prop
  | done a => result a
  | ask q next => allowed q ∧ ∀ reply, Only allowed result (next reply)

variable {allowed : Q → Prop} {result : α → Prop} {result' : β → Prop}

/-- A program that goes on with another asks what both ask. -/
lemma Only.bind {p : Program Q Reply α} (h : p.Only allowed result) {f : α → Program Q Reply β}
    (hf : ∀ a, result a → (f a).Only allowed result') : (p >>= f).Only allowed result' := by
  show (Program.bind p f).Only allowed result'
  induction p with
  | done a => exact hf a h
  | ask q next ih => exact ⟨h.1, fun reply => ih reply (h.2 reply)⟩

/-- A program whose result is changed asks the same. -/
lemma Only.map {p : Program Q Reply α} {f : α → β} (h : p.Only allowed fun a => result' (f a)) :
    (f <$> p).Only allowed result' :=
  Only.bind h fun _ ha => ha

/-- The result of a program is as said, and what is kept by every answer to an allowed question
holds afterwards. -/
lemma Only.run (handle : (q : Q) → σ → Reply q × σ) {P : σ → Prop}
    (keeps : ∀ q s, allowed q → P s → P (handle q s).2) {p : Program Q Reply α} (h : p.Only allowed result)
    {s : σ} (hs : P s) : result (run handle p s).1 ∧ P (run handle p s).2 := by
  induction p generalizing s with
  | done a => exact ⟨h, hs⟩
  | ask q next ih => exact ih _ (h.2 _) (keeps q s h.1 hs)

end Program

/-! ## Steps that ask only some questions -/

/-- A step of a stage asks only what is allowed, and keeps what holds of the stage. -/
def Keeps {Q : Type} {Reply : Q → Type} {μ α : Type} (allowed : Q → Prop) (I : μ → Prop)
    (x : Step Q Reply μ α) : Prop :=
  ∀ m, I m → Program.Only allowed (fun r => I r.2) (x m)

namespace Keeps

variable {Q : Type} {Reply : Q → Type} {μ α β : Type} {allowed : Q → Prop} {I : μ → Prop}

lemma pure (a : α) : Keeps allowed I (pure a : Step Q Reply μ α) :=
  fun _ hm => hm

lemma throw (e : StageError) : Keeps allowed I (throw e : Step Q Reply μ α) :=
  fun _ hm => hm

/-- A step that changes the stage keeps what the change keeps. -/
lemma modify {f : μ → μ} (hf : ∀ m, I m → I (f m)) : Keeps allowed I (modify f : Step Q Reply μ PUnit) :=
  fun m hm => hf m hm

/-- Steps in sequence keep what each of them keeps, whether or not the second is reached. -/
lemma bind {x : Step Q Reply μ α} (h : Keeps allowed I x) {f : α → Step Q Reply μ β}
    (hf : ∀ a, Keeps allowed I (f a)) : Keeps allowed I (x >>= f) := by
  intro m hm
  refine Program.Only.bind (h m hm) fun r hr => ?_
  obtain ⟨outcome, m'⟩ := r
  cases outcome with
  | ok a => exact hf a m' hr
  | error e => exact hr

/-- After the stage was looked at, what holds of it is known. -/
lemma get_bind {f : μ → Step Q Reply μ β} (hf : ∀ m, I m → Keeps allowed I (f m)) :
    Keeps allowed I (get >>= f) :=
  fun m hm => hf m hm m hm

/-- A question that is allowed may be asked, and changes nothing of the stage. -/
lemma question {q : Q} (hq : allowed q) :
    Keeps allowed I (ExceptT.lift (StateT.lift (Program.question q)) : Step Q Reply μ (Reply q)) :=
  fun _ hm => ⟨hq, fun _ => hm⟩

/-- A step for each of some entries keeps what each of these steps keeps. -/
lemma forM {f : β → Step Q Reply μ PUnit} {xs : List β} (hf : ∀ x ∈ xs, Keeps allowed I (f x)) :
    Keeps allowed I (xs.forM f) := by
  induction xs with
  | nil => exact Keeps.pure _
  | cons x rest ih =>
    have first := hf x (List.mem_cons_self ..)
    exact first.bind fun _ => ih fun y hy => hf y (List.mem_cons_of_mem _ hy)

end Keeps

/-! ## Steps of an event -/

/-- What a stage asks for in an event: it dispatches only what it gives, for its own detector. -/
def RunQuestion.OwnOf (s : Standard) : RunQuestion → Prop
  | dispatch m => m.kind ∈ s.gives ∧ m.detector = Stage.detector? s
  | fetch .. | fetchAll _ => True

section

variable {μ α : Type} {s : Standard} {I : μ → Prop}

/-- To go on with a result, or to fail by it, is to ask nothing. -/
lemma Keeps.runOrFail {ε : Type} (wrap : ε → StageError) (r : Except ε α) :
    Keeps (RunQuestion.OwnOf s) I (RunM.orFail wrap r) := by
  cases r with
  | ok a => exact Keeps.pure a
  | error e => exact Keeps.throw _

/-- The detector is not asked for, as the stage is shown it. -/
lemma Keeps.getDetector (ctx : RunContext) :
    Keeps (RunQuestion.OwnOf s) I (ctx.getDetector : RunM μ Sensor.Detector) := by
  rw [RunContext.getDetector]
  split
  · exact Keeps.pure _
  · exact Keeps.throw _

/-- A stage may fetch for its detector. -/
lemma Keeps.fetch (ctx : RunContext) (k : Kind) : Keeps (RunQuestion.OwnOf s) I (RunM.fetch ctx k) :=
  (Keeps.getDetector ctx).bind fun _ => (Keeps.question trivial).bind fun r => Keeps.runOrFail .bus r

/-- A stage may fetch for all detectors. -/
lemma Keeps.fetchAll (k : Kind) : Keeps (RunQuestion.OwnOf s) I (RunM.fetchAll k) :=
  (Keeps.question trivial).bind fun r => Keeps.runOrFail .bus r

/-- A stage may dispatch a message of a kind that it gives, for its detector. -/
lemma Keeps.dispatchMessage {m : Message} (kind : m.kind ∈ s.gives) (own : m.detector = Stage.detector? s) :
    Keeps (RunQuestion.OwnOf s) I (RunM.dispatchMessage m) :=
  (Keeps.question ⟨kind, own⟩).bind fun r => Keeps.runOrFail .bus r

/-- A stage may dispatch records of a kind that it gives on the detector that it is shown, if that
is its own. -/
lemma Keeps.dispatch {ctx : RunContext} (own : ctx.detector.map Sensor.Detector.name = Stage.detector? s)
    {records : Records} (kind : records.kind ∈ s.gives) :
    Keeps (RunQuestion.OwnOf s) I (RunM.dispatch ctx records) :=
  Keeps.dispatchMessage kind own

end

/-! ## Whole events -/

section

variable {ctx : RunContext}

/-- A deposition dispatches deposits for its detector, and stays as it is. -/
lemma Deposition.keeps_run {d : Deposition}
    (own : ctx.detector.map Sensor.Detector.name = Stage.detector? (Standard.deposition d)) :
    Keeps (RunQuestion.OwnOf (.deposition d))
      (fun d' => (Standard.deposition d').fresh = (Standard.deposition d).fresh) (Deposition.run ctx) := by
  refine (Keeps.getDetector ctx).bind fun detector => Keeps.get_bind fun d' _ => ?_
  exact (Keeps.dispatch own (List.mem_singleton.2 rfl)).bind fun _ => Keeps.pure _

/-- A projection dispatches drifted carriers for its detector, and stays as it is. -/
lemma Projection.keeps_run {p : Projection}
    (own : ctx.detector.map Sensor.Detector.name = Stage.detector? (Standard.projection p)) :
    Keeps (RunQuestion.OwnOf (.projection p))
      (fun p' => (Standard.projection p').fresh = (Standard.projection p).fresh) (Projection.run ctx) := by
  refine (Keeps.getDetector ctx).bind fun detector => (Keeps.fetch ctx _).bind fun found => ?_
  cases found with
  | none => exact Keeps.throw _
  | some m =>
    dsimp only
    cases m.deposits? with
    | none => exact Keeps.throw _
    | some xs =>
      refine (Keeps.runOrFail .fieldQuery _).bind fun moved => ?_
      exact (Keeps.dispatch own (List.mem_singleton.2 rfl)).bind fun _ => Keeps.pure _

/-- A transfer dispatches pixel charges for its detector, and stays as it is. -/
lemma Induction.keeps_run {t : Induction}
    (own : ctx.detector.map Sensor.Detector.name = Stage.detector? (Standard.transfer t)) :
    Keeps (RunQuestion.OwnOf (.transfer t))
      (fun t' => (Standard.transfer t').fresh = (Standard.transfer t).fresh) (Induction.run ctx) := by
  refine (Keeps.getDetector ctx).bind fun detector => (Keeps.fetch ctx _).bind fun found => ?_
  cases found with
  | none => exact Keeps.pure _
  | some m =>
    dsimp only
    cases m.drifted? with
    | none => exact Keeps.throw _
    | some xs =>
      refine (Keeps.runOrFail .fieldQuery _).bind fun charges => ?_
      exact (Keeps.dispatch own (List.mem_singleton.2 rfl)).bind fun _ => Keeps.pure _

/-- To take a message changes nothing of a relay. -/
lemma Relay.keeps_take {s : Standard} {I : Relay → Prop} (r : Relay) (k : Kind) :
    Keeps (RunQuestion.OwnOf s) I (r.take ctx k) := by
  unfold Relay.take
  cases r.detector with
  | some d => exact (Keeps.fetch ctx k).bind fun _ => Keeps.pure _
  | none => exact (Keeps.fetchAll k).bind fun _ => Keeps.pure _

/-- A relay takes and gives as it was told to, whatever it has noted. -/
lemma Relay.keeps_run (r : Relay) :
    Keeps (RunQuestion.OwnOf (.relay r)) (fun r' => (Standard.relay r').fresh = (Standard.relay r).fresh)
      (Relay.run ctx) := by
  rw [Relay.run]
  refine Keeps.bind (Keeps.modify ?_) fun _ => Keeps.get_bind fun r' same => ?_
  · exact fun _ h => h
  obtain ⟨-, gives, -, detector, -⟩ := Standard.congr_fresh same
  cases r'.failures.lookup ctx.event with
  | some e => exact fun _ h => h
  | none =>
    refine Keeps.bind (Keeps.forM fun t _ => ?_) fun _ => Keeps.forM fun k hk => ?_
    · exact Relay.keeps_take r' t.1
    · refine (Keeps.dispatchMessage ?_ detector).bind fun _ => Keeps.pure _
      rw [Message.kind, Records.kind_none, ← gives]
      exact hk

/-- A recorder dispatches nothing, and changes only in what it has recorded. -/
lemma Recorder.keeps_run (r : Recorder) :
    Keeps (RunQuestion.OwnOf (.recorder r))
      (fun r' => (Standard.recorder r').fresh = (Standard.recorder r).fresh) (Recorder.run ctx) :=
  Keeps.get_bind fun _ _ => (Keeps.fetchAll _).bind fun _ => Keeps.modify fun _ h => h

/-- In an event a stage asks only for what is its own, and stays the same but for what it noted. -/
lemma run_only {s : Standard} (own : ctx.detector.map Sensor.Detector.name = Stage.detector? s) :
    (Stage.run ctx s).Only (RunQuestion.OwnOf s) fun r => r.2.fresh = s.fresh := by
  cases s with
  | deposition d => exact Program.Only.map (Deposition.keeps_run own d rfl)
  | projection p => exact Program.Only.map (Projection.keeps_run own p rfl)
  | transfer t => exact Program.Only.map (Induction.keeps_run own t rfl)
  | potentialReader r => exact Program.Only.map rfl
  | fieldReader r => exact Program.Only.map rfl
  | relay r => exact Program.Only.map (Relay.keeps_run r r rfl)
  | recorder r => exact Program.Only.map (Recorder.keeps_run r r rfl)

end

/-! ## What is stored -/

/-- A stored message that a stage of this number may have dispatched in an event: it bears the
numbers, and is of a kind that the stage gives, for the detector of the stage. -/
structure Standard.Signs (s : Standard) (i : StageId) (event : Nat) (e : Entry) : Prop where
  producer : e.producer = i
  kind : e.message.kind ∈ s.gives
  detector : e.message.detector = Stage.detector? s
  event : e.message.event = event

/-- A stage that runs leaves the bus as it was but for messages of its own behind those that are
there. -/
lemma exists_signed {s : Standard} (ctx : RunContext)
    (own : ctx.detector.map Sensor.Detector.name = Stage.detector? s) (i : StageId) {b : Bus}
    (hev : b.event = some ctx.event) :
    (Program.run (RunQuestion.answer i) (Stage.run ctx s) b).1.2.fresh = s.fresh ∧
    ∃ sent, (Program.run (RunQuestion.answer i) (Stage.run ctx s) b).2 = b.withEntries sent ∧
      ∀ e ∈ sent, s.Signs i ctx.event e := by
  refine (run_only own).run (RunQuestion.answer i) (P := fun b' => ∃ sent, b' = b.withEntries sent ∧
    ∀ e ∈ sent, s.Signs i ctx.event e) (fun q b' allowed h => ?_) ⟨[], by simp [withEntries], nofun⟩
  obtain ⟨sent, rfl, signed⟩ := h
  cases q with
  | fetch k d => exact ⟨sent, rfl, signed⟩
  | fetchAll k => exact ⟨sent, rfl, signed⟩
  | dispatch m =>
    cases hd : (b.withEntries sent).dispatch i m with
    | error e => exact ⟨sent, by simp only [RunQuestion.answer, hd], signed⟩
    | ok result =>
      obtain ⟨sent', b''⟩ := result
      obtain ⟨event, hev', -, rfl, rfl⟩ := dispatch_eq_ok_iff.1 hd
      obtain rfl : ctx.event = event := Option.some.inj (hev.symm.trans hev')
      refine ⟨sent ++ [⟨i, { m with event := ctx.event }⟩], ?_, ?_⟩
      · simp only [RunQuestion.answer, hd]
        rw [withEntries, withEntries, List.append_assoc]
      · intro e he
        rcases List.mem_append.1 he with he | he
        · exact signed e he
        · rw [List.mem_singleton.1 he]
          exact ⟨rfl, allowed.1, allowed.2, rfl⟩

/-! ## What is recorded -/

namespace Standard

/-- The messages that a stage has recorded. -/
def heard : Standard → List Message
  | .recorder r => r.messages
  | _ => []

/-- The kind of message that a stage records. -/
def records? : Standard → Option Kind
  | .recorder r => some r.kind
  | _ => none

/-- A stage that has noted nothing has recorded nothing. -/
lemma heard_of_fresh {s : Standard} (h : s.fresh = s) : s.heard = [] := by
  cases s with
  | recorder r =>
    have empty := congrArg heard h
    exact empty.symm
  | _ => rfl

/-- What kind a stage records is not a matter of what it noted. -/
lemma records?_congr {s s' : Standard} (h : s'.fresh = s.fresh) : s'.records? = s.records? := by
  have of_fresh : ∀ s : Standard, s.fresh.records? = s.records? := by
    intro s
    cases s <;> rfl
  rw [← of_fresh, h, of_fresh]

/-- A stage that records no kind has recorded nothing. -/
lemma heard_of_records? {s : Standard} (h : s.records? = none) : s.heard = [] := by
  cases s with
  | recorder r => cases h
  | _ => rfl

end Standard

/-- A stage that runs records nothing but messages that are stored. One that records a kind and
succeeds records all that are stored of it, in order. -/
lemma exists_heard {s : Standard} (ctx : RunContext)
    (own : ctx.detector.map Sensor.Detector.name = Stage.detector? s) (i : StageId) (b : Bus)
    {outcome : Except StageError Unit} {s' : Standard} {b' : Bus}
    (run : Program.run (RunQuestion.answer i) (Stage.run ctx s) b = ((outcome, s'), b')) :
    ∃ found, s'.heard = s.heard ++ found ∧ (∀ m ∈ found, m ∈ b.store.map Entry.message) ∧
      ∀ k, s.records? = some k → outcome = .ok () →
        found = (b.store.map Entry.message).filter fun m => m.kind == k := by
  -- Running changes only what the stage has noted, so it still records the kind that it did.
  have same : s'.fresh = s.fresh := by
    have kept := (run_only own).run (RunQuestion.answer i) (P := fun _ => True)
      (fun _ _ _ h => h) (s := b) trivial
    rw [run] at kept
    exact kept.1
  cases hk : s.records? with
  | none =>
    refine ⟨[], ?_, nofun, nofun⟩
    rw [Standard.heard_of_records? hk, Standard.heard_of_records? ((Standard.records?_congr same).trans hk)]
    rfl
  | some k =>
    cases s with
    | recorder r =>
      cases hk
      have step : Program.run (RunQuestion.answer i) (Stage.run ctx (Standard.recorder r)) b =
          (Prod.map id .recorder (exec (RunQuestion.answer i) r b (Recorder.run ctx)).1,
            (exec (RunQuestion.answer i) r b (Recorder.run ctx)).2) := run_map ..
      rw [Recorder.exec_run_eq, run] at step
      cases fetched : b.fetchAll i r.kind with
      | ok found =>
        rw [fetched] at step
        cases step
        have all := Bus.eq_filter_of_fetchAll fetched
        refine ⟨found, rfl, fun m hm => ?_, fun k hk _ => ?_⟩
        · rw [all] at hm
          exact List.mem_of_mem_filter hm
        · cases hk
          exact all
      | error e =>
        rw [fetched] at step
        cases step
        exact ⟨[], (List.append_nil _).symm, nofun, nofun⟩
    | _ => cases hk

end SensorSim.Stage
