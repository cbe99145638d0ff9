import Mathlib
import SensorSim.Proofs.Except
import SensorSim.Proofs.Stage.Conduct

/-!
# The stages that carry charge

A stage that deposits, moves or collects charge dispatches one message in an event, and the readers
none. When its detector has all fields, no stage fails for a reason of its own: it succeeds whenever
what it takes is there and nothing clashes with what it gives (`run_of_runsThrough`). Its messages
have the labels that are expected of it, whatever the records are.
-/

namespace SensorSim

open Bus (Entry Message StageId Kind Scope)

namespace Bus

/-- Who dispatched a message, of what kind, and for which detector. -/
def Entry.label (e : Entry) : StageId × Kind × Option String :=
  (e.producer, e.message.kind, e.message.detector)

/-- Whether stored messages clash is a matter of their labels. -/
lemma free_iff_labels {store : List Entry} :
    Free store ↔ (store.map Entry.label).Pairwise fun x y =>
      ¬ (x.2.1 = y.2.1 ∧ (Scope.own x.2.2).overlaps (Scope.own y.2.2)) := by
  rw [List.pairwise_map, Free]
  simp only [Message.clashes_iff, Entry.label]

/-- Messages with the labels of others that do not clash do not clash either. -/
lemma Free.congr {store store' : List Entry} (h : Free store)
    (same : store'.map Entry.label = store.map Entry.label) : Free store' := by
  rw [free_iff_labels, same, ← free_iff_labels]
  exact h

variable {b : Bus}

/-- What a fetch for a detector gives is what a lookup finds. -/
lemma eq_of_fetch {i : StageId} {k : Kind} {d : String} {found : Option Message}
    (h : b.fetch i k d = .ok found) : found = (b.find? k d).map Entry.message := by
  rcases b.fetch_cases i k d with ⟨-, eq⟩ | ⟨-, eq⟩ | ⟨-, -, eq⟩
  · rw [eq] at h
    cases h
  · rw [eq] at h
    cases hf : b.find? k d with
    | some e =>
      rw [hf] at h
      cases h
      rfl
    | none =>
      rw [hf] at h
      cases h
  · rw [eq] at h
    cases h
    rfl

/-- Where a stored message is visible, what is granted is a message of the kind. -/
lemma exists_fetched {i : StageId} {k : Kind} {d : String} (granted : b.Grants i (some d) k)
    (visible : ∃ e ∈ b.store, e.message.kind = k ∧ e.message.visibleTo d) :
    ∃ m, b.fetch i k d = .ok (some m) ∧ m.kind = k := by
  obtain ⟨found, h⟩ := granted
  obtain ⟨e, he⟩ := Option.isSome_iff_exists.1 (isSome_find?_iff.2 visible)
  have eq := eq_of_fetch h
  rw [he, Option.map_some] at eq
  rw [eq] at h
  exact ⟨e.message, h, (of_find?_eq_some he).2.1⟩

end Bus

namespace Stage

open Bus
open SensorSim.Geometry (Vec3)
open Sensor (Detector InstalledField)

/-! ## Fields -/

section

variable {d : Detector}

/-- How the carriers of a deposit drift in an electric field: along it, or against it where the
carriers are negative. -/
def Projection.driftIn (d : Detector) (f : InstalledField Vec3) (x : Deposit) : Vec3 :=
  (f.eval (d.relative x.position (d.model.nearestPixel x.position)) d.model.pitch).scale x.carrier.sign

/-- Whether an electric field drives the carriers of a deposit away from the readout side, or not at
all towards it. -/
def Projection.lost (d : Detector) (f : InstalledField Vec3) (x : Deposit) : Bool :=
  (driftIn d f x).z ≤ 0.0

/-- The carriers of a deposit where an electric field takes them on the readout side. -/
def Projection.arrival (d : Detector) (f : InstalledField Vec3) (x : Deposit) : Drifted where
  start := x.position
  position := landing d.model.depth.greatest x.position (driftIn d f x)
  charge := x.charge
  carrier := x.carrier
  time := x.time

/-- In an electric field, the deposits that are not lost arrive, each once and in their order. -/
lemma Projection.projectAll_of_field {f : InstalledField Vec3} (h : d.field = some f) (xs : List Deposit) :
    projectAll d xs = .ok ((xs.filter (!lost d f ·)).map (arrival d f)) := by
  have one : ∀ x, project d x = .ok (if lost d f x then none else some (arrival d f x)) := by
    intro x
    have drifts : drift d x = .ok (driftIn d f x) := by
      rw [drift, Detector.fieldAt, Detector.fieldOf, h]
      rfl
    rw [project, drifts, lost]
    by_cases away : (driftIn d f x).z ≤ 0.0
    · rw [decide_eq_true away]
      exact if_pos away
    · rw [decide_eq_false away]
      exact if_neg away
  induction xs with
  | nil => rfl
  | cons x rest ih =>
    rw [projectAll, one, ih]
    cases away : lost d f x with
    | true =>
      rw [List.filter_cons_of_neg (by simp [away])]
      rfl
    | false =>
      rw [List.filter_cons_of_pos (by simp [away])]
      rfl

/-- On a detector with an electric field all carriers can be moved. -/
lemma Projection.exists_projectAll (has : d.has .electricField) (xs : List Deposit) :
    ∃ moved, Projection.projectAll d xs = .ok moved := by
  obtain ⟨f, hf⟩ := Option.isSome_iff_exists.1 has
  exact ⟨_, projectAll_of_field hf xs⟩

/-- On a detector with a weighting potential all induced charges can be added up. -/
lemma Induction.exists_induce (has : d.has .weightingPotential) (xs : List Drifted) :
    ∃ charges, Induction.induce d xs = .ok charges := by
  have one : ∀ y : Drifted × Geometry.Pixel, ∃ q, Induction.induced d y.1 y.2 = .ok q := by
    intro y
    obtain ⟨f, hf⟩ := Option.isSome_iff_exists.1 has
    simp only [Induction.induced, Detector.potentialOf, hf]
    exact ⟨_, rfl⟩
  have all : ∃ tally, Induction.contributions d xs = .ok tally := by
    refine exists_mapM_eq_ok (fun y => ?_) _
    obtain ⟨q, hq⟩ := one y
    refine ⟨⟨y.2, q⟩, ?_⟩
    dsimp only
    rw [hq]
    rfl
  obtain ⟨tally, h⟩ := all
  rw [Induction.induce, h]
  exact ⟨_, rfl⟩

end

/-! ## Whole events -/

section

variable {i : StageId} {b : Bus} {ctx : RunContext} {d : Detector}

/-- A stage that is shown its detector has it. -/
lemma exec_getDetector {μ : Type} (m : μ) (here : ctx.detector = some d) :
    exec (RunQuestion.answer i) m b (ctx.getDetector : RunM μ Detector) = ((.ok d, m), b) := by
  rw [RunContext.getDetector, here]
  rfl

/-- Records that clash with nothing are dispatched, for the detector that the stage is shown. -/
lemma exec_dispatch {μ : Type} (m : μ) (here : ctx.detector = some d) (hev : b.event = some ctx.event)
    (records : Records) (clear : ∀ e ∈ b.store,
      ¬ (e.message.kind = records.kind ∧ (Scope.own e.message.detector).overlaps (.own (some d.name)))) :
    ∃ x sent, exec (RunQuestion.answer i) m b (RunM.dispatch ctx records) = ((.ok x, m), b.withEntries [sent]) ∧
      sent.label = (i, records.kind, some d.name) := by
  have free : ∀ e ∈ b.store,
      ¬ e.message.clashes { records, detector := ctx.detector.map Detector.name } := by
    intro e he
    rw [Message.clashes_iff, here]
    exact clear e he
  refine ⟨_, _, exec_dispatchMessage_ok i m hev free, ?_⟩
  rw [here]
  rfl

/-- What comes of a stage that has nothing more to do than to dispatch records for a detector: they
are stored, or the stage fails and the bus is as it was. -/
def handOver {μ : Type} (i : StageId) (detector : String) (m : μ) (b : Bus) (records : Records) :
    (Except StageError Unit × μ) × Bus :=
  match b.dispatch i { records, detector := some detector } with
  | .ok (_, b') => ((.ok (), m), b')
  | .error e => ((.error (.bus e), m), b)

/-- A stage that dispatches records at its end hands them over. -/
lemma exec_handOver {μ : Type} (m : μ) (here : ctx.detector = some d) (records : Records) :
    exec (RunQuestion.answer i) m b (do let _ ← RunM.dispatch ctx records : RunM μ Unit) =
      handOver i d.name m b records := by
  simp only [RunM.dispatch, RunM.dispatchMessage, exec_bind, exec_run_ask, RunQuestion.answer, here, handOver,
    Option.map_some]
  cases b.dispatch i { records, detector := some d.name } <;> rfl

/-- Records are stored in an event where no message clashes with them. -/
lemma handOver_of_free {μ : Type} (m : μ) {event : Nat} (hev : b.event = some event) {detector : String}
    {records : Records} (free : ∀ e ∈ b.store, ¬ e.message.clashes { records, detector := some detector }) :
    handOver i detector m b records =
      ((.ok (), m), b.withEntries [⟨i, { records, detector := some detector, event }⟩]) := by
  rw [handOver, dispatch_of_free hev i free]
  rfl

/-- What the bus gives a stage for its detector is what the stage fetches. -/
lemma exec_fetch_of_eq {μ : Type} (m : μ) (here : ctx.detector = some d) {k : Kind} {found : Option Message}
    (h : b.fetch i k d.name = .ok found) :
    exec (RunQuestion.answer i) m b (RunM.fetch ctx k : RunM μ _) = ((.ok found, m), b) := by
  rw [RunM.fetch, exec_bind_ok (exec_getDetector m here)]
  simp only [RunM.fetchFor, exec_bind, exec_run_ask, RunQuestion.answer]
  rw [h]
  rfl

/-- Where a message is visible that is granted, the stage fetches one of the kind. -/
lemma exec_fetch {μ : Type} (m : μ) (here : ctx.detector = some d) {k : Kind} (granted : b.Grants i (some d.name) k)
    (visible : ∃ e ∈ b.store, e.message.kind = k ∧ e.message.visibleTo d.name) :
    ∃ x, exec (RunQuestion.answer i) m b (RunM.fetch ctx k : RunM μ _) = ((.ok (some x), m), b) ∧ x.kind = k := by
  obtain ⟨x, h, kind⟩ := exists_fetched granted visible
  exact ⟨x, exec_fetch_of_eq m here h, kind⟩

/-- What a stage is to give clashes with nothing that is stored. -/
lemma Standard.RunsThrough.clear {s : Standard} (through : s.RunsThrough b i ctx.event) {k : Kind}
    (gives : k ∈ s.gives) {name : String} (bound : Stage.detector? s = some name) :
    ∀ e ∈ b.store, ¬ (e.message.kind = k ∧ (Scope.own e.message.detector).overlaps (.own (some name))) := by
  intro e he
  have sent : (⟨i, { records := .none k, detector := some name, event := ctx.event }⟩ : Entry) ∈
      s.sent i ctx.event := by
    rw [Standard.sent, bound]
    exact List.mem_map.2 ⟨k, gives, rfl⟩
  have apart := (List.pairwise_append.1 through.2.2).2.2 e he _ sent
  rw [Message.clashes_iff] at apart
  dsimp only [Message.kind] at apart
  rwa [Records.kind_none] at apart

/-- All that a stage of a detector asks for in an event is there: it runs through, and the messages
that it requires are visible to the detector. -/
structure Standard.Supplied (s : Standard) (b : Bus) (i : StageId) (ctx : RunContext) (d : Detector) : Prop where
  here : ctx.detector = some d
  own : Stage.detector? s = some d.name
  event : b.event = some ctx.event
  through : s.RunsThrough b i ctx.event
  visible : ∀ k, (k, .required) ∈ s.takes → ∃ e ∈ b.store, e.message.kind = k ∧ e.message.visibleTo d.name

/-- What a supplied stage takes is granted to it. -/
lemma Standard.Supplied.granted {s : Standard} (w : s.Supplied b i ctx d) {t : Kind × Requirement}
    (ht : t ∈ s.takes) : b.Grants i (some d.name) t.1 := by
  rw [← w.own]
  exact w.through.2.1 t ht

/-- A message of a supplied stage has the label that is expected of it. -/
lemma Standard.Supplied.map_label {s : Standard} (w : s.Supplied b i ctx d) {sent : Entry} {k : Kind}
    (label : sent.label = (i, k, some d.name)) : [sent].map Entry.label = [(i, k, Stage.detector? s)] := by
  rw [List.map_singleton, label, w.own]

/-- Setting deposits free takes no message and no field. -/
lemma Deposition.exec_run {x : Deposition} (w : (Standard.deposition x).Supplied b i ctx d) :
    ∃ sent, exec (RunQuestion.answer i) x b (Deposition.run ctx) = ((.ok (), x), b.withEntries [sent]) ∧
      sent.label = (i, .deposited, some d.name) := by
  have clear := w.through.clear (List.mem_singleton.2 rfl) w.own
  obtain ⟨m, sent, h, label⟩ := exec_dispatch x w.here w.event
    (.deposited (x.deposits d.model x.pairs (x.stream ctx.event))) clear
  refine ⟨sent, ?_, label⟩
  rw [Deposition.run, exec_bind_ok (exec_getDetector x w.here), exec_bind_ok (exec_get ..), exec_bind_ok h]
  rfl

/-- Moving the carriers takes the electric field of the detector. -/
lemma Projection.exec_run {x : Projection} (w : (Standard.projection x).Supplied b i ctx d)
    (has : d.has .electricField) :
    ∃ sent, exec (RunQuestion.answer i) x b (Projection.run ctx) = ((.ok (), x), b.withEntries [sent]) ∧
      sent.label = (i, .drifted, some d.name) := by
  have required : (Kind.deposited, Requirement.required) ∈ (Standard.projection x).takes := List.mem_singleton.2 rfl
  obtain ⟨m, fetched, kind⟩ := exec_fetch x w.here (w.granted required) (w.visible _ required)
  obtain ⟨xs, deposits⟩ : ∃ xs, m.deposits? = some xs := by
    obtain ⟨records⟩ := m
    cases records with
    | deposited xs => exact ⟨xs, rfl⟩
    | drifted xs => cases kind
    | pixel xs => cases kind
  obtain ⟨moved, hm⟩ := Projection.exists_projectAll has xs
  have clear := w.through.clear (List.mem_singleton.2 rfl) w.own
  obtain ⟨m', sent, h, label⟩ := exec_dispatch x w.here w.event (.drifted moved) clear
  refine ⟨sent, ?_, label⟩
  rw [Projection.run, exec_bind_ok (exec_getDetector x w.here), exec_bind_ok fetched]
  simp only [deposits, hm, RunM.ofQuery, RunM.orFail]
  rw [exec_bind_ok (exec_pure ..), exec_bind_ok h]
  rfl

/-- Adding up the charges takes the weighting potential of the detector. -/
lemma Induction.exec_run {x : Induction} (w : (Standard.transfer x).Supplied b i ctx d)
    (has : d.has .weightingPotential) :
    ∃ sent, exec (RunQuestion.answer i) x b (Induction.run ctx) = ((.ok (), x), b.withEntries [sent]) ∧
      sent.label = (i, .pixel, some d.name) := by
  have required : (Kind.drifted, Requirement.required) ∈ (Standard.transfer x).takes := List.mem_singleton.2 rfl
  obtain ⟨m, fetched, kind⟩ := exec_fetch x w.here (w.granted required) (w.visible _ required)
  obtain ⟨xs, drifted⟩ : ∃ xs, m.drifted? = some xs := by
    obtain ⟨records⟩ := m
    cases records with
    | deposited xs => cases kind
    | drifted xs => exact ⟨xs, rfl⟩
    | pixel xs => cases kind
  obtain ⟨charges, hc⟩ := Induction.exists_induce has xs
  have clear := w.through.clear (List.mem_singleton.2 rfl) w.own
  obtain ⟨m', sent, h, label⟩ := exec_dispatch x w.here w.event (.pixel charges) clear
  refine ⟨sent, ?_, label⟩
  rw [Induction.run, exec_bind_ok (exec_getDetector x w.here), exec_bind_ok fetched]
  simp only [drifted, hc, RunM.ofQuery, RunM.orFail]
  rw [exec_bind_ok (exec_pure ..), exec_bind_ok h]
  rfl

/-- The messages that are expected of a stage have its number, the kinds that it gives and its
detector. -/
lemma Standard.labels_sent (s : Standard) (event : Nat) :
    (s.sent i event).map Entry.label = s.gives.map fun k => (i, k, Stage.detector? s) := by
  rw [Standard.sent, List.map_map]
  refine List.map_congr_left fun k _ => ?_
  simp only [Function.comp_apply, Entry.label, Message.kind, Records.kind_none]

/-- A stage that runs through, on a detector with all fields where it has one, succeeds, and its
messages have the labels that are expected of it. -/
lemma run_of_runsThrough {s : Standard} (ctx : RunContext) (own : ctx.detector.map Detector.name = Stage.detector? s)
    (fields : ∀ d, ctx.detector = some d → ∀ k, d.has k) (hev : b.event = some ctx.event) (free : Free b.store)
    (through : s.RunsThrough b i ctx.event)
    (visible : ∀ d, ctx.detector = some d → ∀ k, (k, .required) ∈ s.takes →
      ∃ e ∈ b.store, e.message.kind = k ∧ e.message.visibleTo d.name) :
    ∃ s' sent, Program.run (RunQuestion.answer i) (Stage.run ctx s) b = ((.ok (), s'), b.withEntries sent) ∧
      sent.map Entry.label = (s.sent i ctx.event).map Entry.label := by
  have supplied : ∀ name, Stage.detector? s = some name → ∃ d, s.Supplied b i ctx d := by
    intro name bound
    rw [bound, Option.map_eq_some_iff] at own
    obtain ⟨d, here, rfl⟩ := own
    exact ⟨d, here, bound, hev, through, visible d here⟩
  -- Relays and recorders have no use for fields, so what is known of them in general is enough.
  have fixture : s.IsFixture → ∃ s' sent,
      Program.run (RunQuestion.answer i) (Stage.run ctx s) b = ((.ok (), s'), b.withEntries sent) ∧
        sent.map Entry.label = (s.sent i ctx.event).map Entry.label := by
    intro stands
    obtain ⟨s', -, ⟨-, run⟩ | ⟨fails, -⟩⟩ := run_fixture stands ctx own hev free
    · exact ⟨s', _, run, rfl⟩
    · exact absurd through fails
  rw [Standard.labels_sent] at fixture ⊢
  cases s with
  | deposition x =>
    obtain ⟨d, w⟩ := supplied x.detector rfl
    obtain ⟨sent, run, label⟩ := Deposition.exec_run w
    exact ⟨_, [sent], run_of_exec run _, w.map_label label⟩
  | projection x =>
    obtain ⟨d, w⟩ := supplied x.detector rfl
    obtain ⟨sent, run, label⟩ := Projection.exec_run w (fields d w.here _)
    exact ⟨_, [sent], run_of_exec run _, w.map_label label⟩
  | transfer x =>
    obtain ⟨d, w⟩ := supplied x.detector rfl
    obtain ⟨sent, run, label⟩ := Induction.exec_run w (fields d w.here _)
    exact ⟨_, [sent], run_of_exec run _, w.map_label label⟩
  | potentialReader x =>
    refine ⟨.potentialReader x, [], ?_, rfl⟩
    rw [withEntries, List.append_nil]
    rfl
  | fieldReader x =>
    refine ⟨.fieldReader x, [], ?_, rfl⟩
    rw [withEntries, List.append_nil]
    rfl
  | relay x => exact fixture trivial
  | recorder x => exact fixture trivial

end

end Stage

end SensorSim
