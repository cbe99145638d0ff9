import Mathlib
import SensorSim.Proofs.Stage.Conduct

/-!
# What the setup of a stage leads to

A stage that was set up has declared just what it takes and gives. Its detector still has the sensor
and the fields that it had, and has the fields that the stage installs; the stage itself is the same
but for the settings that it has read (`gains_of_setUp`).
-/

namespace SensorSim.Sensor

/-- A detector has kept its sensor and the fields that it had. -/
structure Detector.Extends (d d' : Detector) : Prop where
  name : d'.name = d.name
  model : d'.model = d.model
  has : ∀ k, d.has k → d'.has k

namespace Detector.Extends

lemma refl (d : Detector) : d.Extends d :=
  ⟨rfl, rfl, fun _ => id⟩

/-- A detector may be extended twice. -/
lemma trans {d₁ d₂ d₃ : Detector} (h : d₁.Extends d₂) (h' : d₂.Extends d₃) : d₁.Extends d₃ :=
  ⟨h'.name.trans h.name, h'.model.trans h.model, fun k => h'.has k ∘ h.has k⟩

end Detector.Extends

end SensorSim.Sensor

namespace SensorSim.Stage

open Bus
open Sensor (Detector FieldKind)
open Files (FileSystem)

/-! ## What is gained -/

/-- Between two states of a workbench these declarations were made, the detector was at most
extended, and it has these kinds of field in the end. -/
structure Workbench.Gains (w w' : Workbench) (subscribed : List Subscription) (published : List Publication)
    (installed : List FieldKind) : Prop where
  detector : Option.Rel Detector.Extends w.detector w'.detector
  event : w'.bus.event = w.bus.event
  holds : ∀ {s p}, w.bus.Holds s p → w'.bus.Holds (s ++ subscribed) (p ++ published)
  fields : ∀ d ∈ w'.detector, ∀ k ∈ installed, d.has k

namespace Workbench

variable {w w₁ w₂ w₃ : Workbench} {s s' : List Subscription} {p p' : List Publication} {k k' : List FieldKind}

/-- Declarations alone leave the detector as it is. -/
lemma Declares.gains (h : w₁.Declares w₂ s p) : w₁.Gains w₂ s p [] where
  detector := by
    rw [h.detector]
    cases w₁.detector with
    | none => exact .none
    | some d => exact .some (.refl d)
  event := h.event
  holds := h.holds
  fields _ _ _ hx := absurd hx List.not_mem_nil

namespace Gains

lemma refl (w : Workbench) : w.Gains w [] [] [] :=
  (Declares.refl w).gains

/-- What is gained in two steps is what the first gains and then what the second does. -/
lemma trans (h : w₁.Gains w₂ s p k) (h' : w₂.Gains w₃ s' p' k') :
    w₁.Gains w₃ (s ++ s') (p ++ p') (k ++ k') := by
  have kept : Option.Rel Detector.Extends w₁.detector w₃.detector ∧
      ∀ d₃ ∈ w₃.detector, ∃ d₂ ∈ w₂.detector, d₂.Extends d₃ := by
    have first := h.detector
    have second := h'.detector
    revert first second
    cases w₁.detector <;> cases w₂.detector <;> cases w₃.detector <;> intro first second <;>
      cases first <;> cases second
    · exact ⟨.none, fun _ hd => by cases hd⟩
    · rename_i e e'
      exact ⟨.some (e.trans e'), fun d hd => ⟨_, rfl, Option.some.inj hd ▸ e'⟩⟩
  refine ⟨kept.1, h'.event.trans h.event, fun hb => ?_, fun d hd x hx => ?_⟩
  · rw [← List.append_assoc, ← List.append_assoc]
    exact h'.holds (h.holds hb)
  · rcases List.mem_append.1 hx with hx | hx
    · obtain ⟨d₂, hd₂, e⟩ := kept.2 d hd
      exact e.has x (h.fields d₂ hd₂ x hx)
    · exact h'.fields d hd x hx

/-- Whatever is gained, the scope stays as it is. -/
lemma scope_eq (h : w₁.Gains w₂ s p k) : w₂.scope = w₁.scope := by
  have kept := h.detector
  rw [scope, scope]
  revert kept
  cases w₁.detector <;> cases w₂.detector <;> intro kept <;> cases kept
  · rfl
  · rename_i e
    rw [Option.map_some, Option.map_some, e.name]

end Gains

end Workbench

/-! ## Steps of the setup -/

section

variable {μ α β : Type} {i : StageId} {files : FileSystem} {I : μ → Prop} {scope : Scope}
  {s s' : List Subscription} {p p' : List Publication} {k k' : List FieldKind}

/-- Outside of an event, a step of a stage of this scope that succeeds has gained this, and has kept
what holds of the stage. -/
def Earns (i : StageId) (files : FileSystem) (I : μ → Prop) (scope : Scope) (x : SetupM μ α)
    (s : List Subscription) (p : List Publication) (k : List FieldKind) : Prop :=
  ∀ m w, I m → w.bus.event = none → w.scope = scope →
    ∀ a m' w', exec (SetupQuestion.answer i files) m w x = ((.ok a, m'), w') → I m' ∧ w.Gains w' s p k

namespace Earns

lemma pure (a : α) : Earns i files I scope (pure a : SetupM μ α) [] [] [] := by
  intro m w hm idle own a m' w' run
  cases run
  exact ⟨hm, .refl w⟩

lemma throw (e : StageError) : Earns i files I scope (throw e : SetupM μ α) s p k :=
  fun _ _ _ _ _ _ _ _ run => by cases run

lemma get : Earns i files I scope (get : SetupM μ μ) [] [] [] := by
  intro m w hm idle own a m' w' run
  cases run
  exact ⟨hm, .refl w⟩

/-- Steps in sequence gain what the first gains and then what the second does. -/
lemma bind {x : SetupM μ α} (h : Earns i files I scope x s p k) {f : α → SetupM μ β}
    (hf : ∀ a, Earns i files I scope (f a) s' p' k') :
    Earns i files I scope (x >>= f) (s ++ s') (p ++ p') (k ++ k') := by
  intro m w hm idle own b m'' w'' run
  rw [exec_bind] at run
  split at run
  · rename_i a m' w' first
    obtain ⟨hm', gains⟩ := h m w hm idle own a m' w' first
    obtain ⟨hm'', gains'⟩ := hf a m' w' hm' (gains.event.trans idle) (gains.scope_eq.trans own) b m'' w'' run
    exact ⟨hm'', gains.trans gains'⟩
  · cases run

/-- A step that gains nothing may come before one that does. -/
lemma after {x : SetupM μ α} (h : Earns i files I scope x [] [] []) {f : α → SetupM μ β}
    (hf : ∀ a, Earns i files I scope (f a) s p k) : Earns i files I scope (x >>= f) s p k :=
  h.bind hf

/-- A change of the stage that keeps what holds of it may come before a step. -/
lemma modify {f : μ → μ} {g : PUnit → SetupM μ β} (h : ∀ m, I m → I (f m))
    (hg : Earns i files I scope (g ⟨⟩) s p k) : Earns i files I scope (modify f >>= g) s p k :=
  fun m w hm idle own b m' w' run => hg (f m) w (h m hm) idle own b m' w' run

/-- A step that gains nothing may come behind one that does. -/
lemma before {x : SetupM μ α} (h : Earns i files I scope x s p k) {f : α → SetupM μ β}
    (hf : ∀ a, Earns i files I scope (f a) [] [] []) : Earns i files I scope (x >>= f) s p k := by
  have both := h.bind hf
  rwa [List.append_nil, List.append_nil, List.append_nil] at both

/-- What is declared in the scope of the stage is gained. -/
lemma of_declares {x : SetupM μ Unit}
    (h : ∀ m w, w.bus.event = none → w.scope = scope →
      ∃ w', exec (SetupQuestion.answer i files) m w x = ((.ok (), m), w') ∧ w.Declares w' s p) :
    Earns i files I scope x s p [] := by
  intro m w hm idle own a' m' w' run
  obtain ⟨w₁, run₁, declares⟩ := h m w idle own
  cases run₁.symm.trans run
  exact ⟨hm, declares.gains⟩

/-- A stage that subscribes in its scope gains the subscription. -/
lemma subscribeOwn (kind : Kind) (r : Requirement) :
    Earns i files I scope (SetupM.subscribeOwn kind r : SetupM μ Unit) [⟨i, kind, scope, r⟩] [] [] := by
  refine of_declares fun m w idle own => ?_
  rw [← own]
  exact exec_subscribeOwn i files m idle kind r

/-- A stage that publishes in its scope gains the publication. -/
lemma publish (kind : Kind) :
    Earns i files I scope (SetupM.publish kind : SetupM μ Unit) [] [⟨i, kind, scope⟩] [] := by
  refine of_declares fun m w idle own => ?_
  rw [← own]
  exact exec_publish i files m idle kind

/-- A question whose answer changes nothing but the tables, the misfits and the detector. -/
lemma ask {q : SetupQuestion}
    (h : ∀ w, (q.answer i files w).2.bus = w.bus ∧
      Option.Rel Detector.Extends w.detector (q.answer i files w).2.detector ∧
      ∀ d ∈ (q.answer i files w).2.detector, ∀ x ∈ k, d.has x) :
    Earns i files I scope (SetupM.ask q : SetupM μ q.Reply) [] [] k := by
  intro m w hm idle own a m' w' run
  rw [exec_setup_ask] at run
  cases run
  obtain ⟨bus, kept, fields⟩ := h w
  refine ⟨hm, kept, by rw [bus], fun hb => ?_, fields⟩
  rwa [bus, List.append_nil, List.append_nil]

/-- A question whose answer changes nothing but the tables and the misfits. -/
lemma look {q : SetupQuestion}
    (h : ∀ w, (q.answer i files w).2.bus = w.bus ∧ (q.answer i files w).2.detector = w.detector) :
    Earns i files I scope (SetupM.ask q : SetupM μ q.Reply) [] [] [] := by
  refine ask fun w => ⟨(h w).1, ?_, fun _ _ _ hx => absurd hx List.not_mem_nil⟩
  rw [(h w).2]
  exact (Workbench.Gains.refl w).detector

/-- A check either fails or is as if it were not there. -/
lemma check {c : Prop} [Decidable c] {e : StageError} {f : Unit → SetupM μ β}
    (h : Earns i files I scope (f ()) s p k) :
    Earns i files I scope (if c then MonadExcept.throw e >>= f else f ()) s p k := by
  split
  · intro m w _ _ _ b m' w' run
    cases run
  · exact h

/-- To go on with a result, or to fail by it, is to gain nothing. -/
lemma orFail {ε : Type} (wrap : ε → StageError) (r : Except ε α) :
    Earns i files I scope (SetupM.orFail wrap r : SetupM μ α) [] [] [] := by
  cases r with
  | ok a => exact pure a
  | error e => exact throw _

lemma ofConfig (r : Except Config.ConfigError α) :
    Earns i files I scope (SetupM.ofConfig r : SetupM μ α) [] [] [] :=
  orFail .config r

lemma detector : Earns i files I scope (SetupM.detector : SetupM μ Detector) [] [] [] := by
  refine (look fun w => ⟨rfl, rfl⟩).after fun d => ?_
  cases d with
  | some d => exact pure d
  | none => exact throw _

lemma potentialTable (path : String) :
    Earns i files I scope (SetupM.potentialTable path : SetupM μ _) [] [] [] := by
  refine (look fun w => ?_).after fun r => (orFail .tableFile r).after fun t => pure t.table
  cases h : w.tables.potentials.get files path
  simp only [SetupQuestion.answer, h, and_self]

lemma fieldTable (path : String) :
    Earns i files I scope (SetupM.fieldTable path : SetupM μ _) [] [] [] := by
  refine (look fun w => ?_).after fun r => (orFail .tableFile r).after fun t => pure t.table
  cases h : w.tables.fields.get files path
  simp only [SetupQuestion.answer, h, and_self]

lemma reportAll (misfits : List Field.Misfit) :
    Earns i files I scope (SetupM.reportAll misfits : SetupM μ Unit) [] [] [] := by
  rw [SetupM.reportAll]
  induction misfits with
  | nil => exact pure ()
  | cons x rest ih => exact (look fun _ => ⟨rfl, rfl⟩).after fun _ => ih

/-- What is installed on the detector of the stage is there. -/
lemma installPotential (f : Sensor.InstalledField Float) :
    Earns i files I scope (SetupM.installPotential f : SetupM μ Unit) [] [] [.weightingPotential] := by
  refine detector.after fun _ => ask fun w => ⟨rfl, ?_, ?_⟩
  · show Option.Rel _ w.detector (w.detector.map _)
    cases w.detector with
    | none => exact .none
    | some d =>
      refine .some ⟨rfl, rfl, fun k hk => ?_⟩
      cases k with
      | weightingPotential => rfl
      | electricField => exact hk
  · intro d hd x hx
    obtain ⟨d', -, rfl⟩ := Option.map_eq_some_iff.1 hd
    rw [List.mem_singleton.1 hx]
    rfl

/-- An electric field that is installed on the detector is there, and its potential stays. -/
lemma installField (f : Sensor.InstalledField Geometry.Vec3) :
    Earns i files I scope (SetupM.installField f : SetupM μ Unit) [] [] [.electricField] := by
  refine detector.after fun _ => ask fun w => ⟨rfl, ?_, ?_⟩
  · show Option.Rel _ w.detector (w.detector.map _)
    cases w.detector with
    | none => exact .none
    | some d =>
      refine .some ⟨rfl, rfl, fun k hk => ?_⟩
      cases k with
      | weightingPotential => exact hk
      | electricField => rfl
  · intro d hd x hx
    obtain ⟨d', -, rfl⟩ := Option.map_eq_some_iff.1 hd
    rw [List.mem_singleton.1 hx]
    rfl

end Earns

end

/-! ## Whole setups -/

namespace Standard

/-- The stage without the settings that it reads when it is set up. -/
def blank : Standard → Standard
  | .deposition d => .deposition { detector := d.detector }
  | .potentialReader r => .potentialReader { detector := r.detector }
  | s => s

/-- The kinds of field that a stage installs on its detector. -/
def installs : Standard → List FieldKind
  | .potentialReader _ => [.weightingPotential]
  | .fieldReader _ => [.electricField]
  | _ => []

/-- What a stage declares and installs is not a matter of its settings. -/
lemma congr_of_blank (s : Standard) :
    s.blank.takes = s.takes ∧ s.blank.gives = s.gives ∧ s.blank.failures = s.failures ∧
      s.blank.installs = s.installs ∧ Stage.detector? s.blank = Stage.detector? s := by
  cases s <;> exact ⟨rfl, rfl, rfl, rfl, rfl⟩

/-- Stages that differ only in their settings declare, fail and install the same, for the same
detector. -/
lemma congr_blank {s s' : Standard} (h : s'.blank = s.blank) :
    s'.takes = s.takes ∧ s'.gives = s.gives ∧ s'.failures = s.failures ∧ s'.installs = s.installs ∧
      Stage.detector? s' = Stage.detector? s := by
  obtain ⟨t, g, f, k, d⟩ := s.congr_of_blank
  obtain ⟨t', g', f', k', d'⟩ := s'.congr_of_blank
  rw [h] at t' g' f' k' d'
  exact ⟨t'.symm.trans t, g'.symm.trans g, f'.symm.trans f, k'.symm.trans k, d'.symm.trans d⟩

/-- What was recorded is not a setting. -/
lemma heard_blank (s : Standard) : s.blank.heard = s.heard := by
  cases s <;> rfl

/-- Relays and recorders read no settings. -/
lemma eq_of_blank {s t : Standard} (fixture : t.IsFixture) (same : s.blank = t.blank) : s = t := by
  cases t with
  | relay r => cases s <;> first | exact same | cases same
  | recorder r => cases s <;> first | exact same | cases same
  | _ => exact fixture.elim

/-- Relays and recorders in a list are known without their settings, of which they have none. -/
lemma eq_of_map_blank {l l' : List Standard} (fixture : ∀ t ∈ l', t.IsFixture)
    (same : l.map blank = l'.map blank) : l = l' := by
  induction l' generalizing l with
  | nil => exact List.map_eq_nil_iff.1 same
  | cons t rest ih =>
    obtain ⟨s, l, rfl, head, tail⟩ := List.map_eq_cons_iff.1 same
    rw [eq_of_blank (fixture t (List.mem_cons_self ..)) head]
    rw [ih (fun u hu => fixture u (List.mem_cons_of_mem _ hu)) tail]

end Standard

section

variable {i : StageId} {files : FileSystem} {scope : Scope} {ctx : SetupContext}

/-- A deposition that is set up publishes deposits, and still has its detector. -/
lemma Deposition.earns_setUp (d : Deposition) :
    Earns i files (fun d' : Deposition => d'.detector = d.detector) scope (Deposition.setUp ctx) []
      [⟨i, .deposited, scope⟩] [] := by
  refine Earns.get.after fun _ => (Earns.ofConfig _).after fun pairs => Earns.modify (fun _ h => h) ?_
  refine Earns.get.after fun _ => (Earns.ofConfig _).after fun position => Earns.modify (fun _ h => h) ?_
  refine Earns.get.after fun _ => (Earns.ofConfig _).after fun spread => Earns.modify (fun _ h => h) ?_
  refine Earns.get.after fun _ => (Earns.ofConfig _).after fun seed => Earns.modify (fun _ h => h) ?_
  refine Earns.check (Earns.check (Earns.detector.after fun _ => Earns.check ?_))
  exact Earns.publish .deposited

/-- A projection that is set up takes deposits and gives drifted carriers. -/
lemma Projection.earns_setUp (t : Projection) :
    Earns i files (fun t' : Projection => t' = t) scope (Projection.setUp ctx)
      [⟨i, .deposited, scope, .required⟩] [⟨i, .drifted, scope⟩] [] :=
  (Earns.subscribeOwn _ _).bind fun _ => Earns.publish _

/-- A transfer that is set up takes drifted carriers and gives pixel charges. -/
lemma Induction.earns_setUp (t : Induction) :
    Earns i files (fun t' : Induction => t' = t) scope (Induction.setUp ctx)
      [⟨i, .drifted, scope, .required⟩] [⟨i, .pixel, scope⟩] [] :=
  (Earns.subscribeOwn _ _).bind fun _ => Earns.publish _

/-- Once the potential is installed the detector has one. -/
lemma PotentialReader.earns_install (I : PotentialReader → Prop) :
    Earns i files I scope (PotentialReader.install ctx) [] [] [.weightingPotential] := by
  refine (Earns.ofConfig _).after fun choice => Earns.detector.after fun d => ?_
  dsimp only
  split
  · refine (Earns.ofConfig _).after fun path => (Earns.potentialTable path).after fun table => ?_
    exact (Earns.reportAll _).after fun _ => Earns.installPotential _
  · exact Earns.installPotential _

/-- Sampling the potential declares and installs nothing. -/
lemma PotentialReader.earns_sample (r : PotentialReader) :
    Earns i files (fun r' : PotentialReader => r'.detector = r.detector) scope (PotentialReader.sample ctx)
      [] [] [] := by
  refine (Earns.ofConfig _).after fun wanted => ?_
  split
  · refine (Earns.ofConfig _).after fun steps => Earns.check ?_
    refine (Earns.ofConfig _).after fun position => Earns.detector.after fun d => ?_
    refine (Earns.orFail _ _).after fun profile m w own idle at_home a m' w' run => ?_
    cases run
    exact ⟨own, .refl w⟩
  · exact Earns.pure _

/-- A reader of potentials that is set up has given its detector one. -/
lemma PotentialReader.earns_setUp (r : PotentialReader) :
    Earns i files (fun r' : PotentialReader => r'.detector = r.detector) scope (PotentialReader.setUp ctx)
      [] [] [.weightingPotential] :=
  (PotentialReader.earns_install _).before fun _ => PotentialReader.earns_sample r

/-- A reader of fields that is set up has given its detector one. -/
lemma FieldReader.earns_setUp (r : FieldReader) :
    Earns i files (fun r' : FieldReader => r' = r) scope (FieldReader.setUp ctx) [] [] [.electricField] := by
  refine (Earns.ofConfig _).after fun choice => Earns.detector.after fun d => ?_
  refine (Earns.ofConfig _).after fun depth => ?_
  split
  · refine (Earns.ofConfig _).after fun path => (Earns.fieldTable path).after fun table => ?_
    exact (Earns.reportAll _).after fun _ => Earns.installField _
  · split
    · exact (Earns.ofConfig _).after fun bias => Earns.installField _
    · exact (Earns.ofConfig _).after fun bias => (Earns.ofConfig _).after fun depletion => Earns.installField _

/-- A relay that is set up has declared all that it takes and all that it gives. -/
lemma Relay.earns_setUp (r : Relay) :
    Earns i files (fun r' : Relay => r' = r) scope (Relay.setUp ctx)
      (r.takes.map fun t => ⟨i, t.1, scope, t.2⟩) (r.gives.map fun k => ⟨i, k, scope⟩) [] := by
  rintro m w rfl idle own a m' w' run
  cases told : m.setupFailure with
  | none =>
    obtain ⟨w₁, run₁, declares⟩ := Relay.exec_setUp i files idle ctx told
    rw [own] at declares
    cases run₁.symm.trans run
    exact ⟨rfl, declares.gains⟩
  | some e =>
    rw [Relay.exec_setUp_error i files ctx told] at run
    cases run

/-- A recorder that is set up may be without messages of its kind. -/
lemma Recorder.earns_setUp (r : Recorder) :
    Earns i files (fun r' : Recorder => r' = r) scope (Recorder.setUp ctx)
      [⟨i, r.kind, scope, .optional⟩] [] [] := by
  rintro m w rfl idle own a m' w' run
  exact Earns.subscribeOwn (I := fun r' => r' = m) m.kind .optional m w rfl idle own a m' w' run

variable {w w' : Workbench} {s s' : Standard}

/-- A stage of the library whose setup is such a step has gained what the step does. -/
lemma Earns.of_run {μ : Type} {I : μ → Prop} {x : SetupM μ Unit} {subscribed : List Subscription}
    {published : List Publication} {installed : List FieldKind}
    (h : Earns i files I scope x subscribed published installed) {wrap : μ → Standard} {m : μ} (hm : I m)
    (idle : w.bus.event = none) (own : w.scope = scope)
    (run : Program.run (SetupQuestion.answer i files) (Prod.map id wrap <$> x m) w = ((.ok (), s'), w')) :
    ∃ m', s' = wrap m' ∧ I m' ∧ w.Gains w' subscribed published installed := by
  rw [run_map] at run
  obtain ⟨outcome, after⟩ := Prod.mk.inj run
  obtain ⟨ok, same⟩ := Prod.mk.inj outcome
  refine ⟨_, same.symm, h m w hm idle own () _ w' ?_⟩
  exact Prod.ext (Prod.ext ok rfl) after

/-- What a stage of the library has gained when it was set up outside of an event. -/
lemma gains_of_setUp (idle : w.bus.event = none) (own : w.scope = s.ownScope)
    (run : Program.run (SetupQuestion.answer i files) (Stage.setUp ctx s) w = ((.ok (), s'), w')) :
    s'.blank = s.blank ∧ w.Gains w' (s.subscriptions i) (s.publications i) s.installs := by
  cases s with
  | deposition d =>
    obtain ⟨d', rfl, same, gains⟩ := (Deposition.earns_setUp d).of_run rfl idle own run
    exact ⟨by rw [Standard.blank, Standard.blank, same], gains⟩
  | projection t =>
    obtain ⟨t', rfl, rfl, gains⟩ := (Projection.earns_setUp t).of_run rfl idle own run
    exact ⟨rfl, gains⟩
  | transfer t =>
    obtain ⟨t', rfl, rfl, gains⟩ := (Induction.earns_setUp t).of_run rfl idle own run
    exact ⟨rfl, gains⟩
  | potentialReader r =>
    obtain ⟨r', rfl, same, gains⟩ := (PotentialReader.earns_setUp r).of_run rfl idle own run
    exact ⟨by rw [Standard.blank, Standard.blank, same], gains⟩
  | fieldReader r =>
    obtain ⟨r', rfl, rfl, gains⟩ := (FieldReader.earns_setUp r).of_run rfl idle own run
    exact ⟨rfl, gains⟩
  | relay r =>
    obtain ⟨r', rfl, rfl, gains⟩ := (Relay.earns_setUp r).of_run rfl idle own run
    exact ⟨rfl, gains⟩
  | recorder r =>
    obtain ⟨r', rfl, rfl, gains⟩ := (Recorder.earns_setUp r).of_run rfl idle own run
    exact ⟨rfl, gains⟩

end

end SensorSim.Stage
