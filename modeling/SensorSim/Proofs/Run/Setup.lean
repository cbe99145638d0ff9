import Mathlib
import SensorSim.Proofs.Run.Feasible
import SensorSim.Proofs.Stage.Equipment
import SensorSim.Proofs.Run.Site

/-!
# The setup of a plan

When the setup of a plan succeeds, the stages are those of the plan but for the settings that they
have read, the bus holds exactly what they declare, their detectors are there and have what the
stages install on them, and the order respects what is required, and what is optional as well unless
there is a notice that it was given up (`standing_of_ofPlan`).
-/

namespace SensorSim.Run

open Bus (StageId)
open Stage (Standard Workbench)
open Sensor (Detector)
open Files (FileSystem)
open SensorSim.Order (Topological DeclaredBelow Precedes Supplies)

/-! ## Settings -/

/-- What stages need of each other is not a matter of their settings. -/
lemma Needs.blank {stages : List Standard} {u v : StageId} (h : Needs stages u v) :
    Needs (stages.map Standard.blank) u v := by
  obtain ⟨ne, t, s, k, ht, hs, gives, required, scopes⟩ := h
  obtain ⟨-, gives', -, -, giver⟩ := t.congr_of_blank
  obtain ⟨takes', -, -, -, taker⟩ := s.congr_of_blank
  refine ⟨ne, t.blank, s.blank, k, ?_, ?_, ?_, ?_, ?_⟩
  · rw [List.getElem?_map, ht, Option.map_some]
  · rw [List.getElem?_map, hs, Option.map_some]
  · rw [gives']
    exact gives
  · rw [takes']
    exact required
  · rw [Standard.ownScope, Standard.ownScope, giver, taker]
    exact scopes

/-- Whether stages can go through an event is not a matter of their settings. -/
lemma Feasible.of_blank {stages : List Standard} {event : Nat}
    (h : Feasible (stages.map Standard.blank) event) : Feasible stages event where
  silent s hs e := by
    obtain ⟨-, -, failures, -⟩ := s.congr_of_blank
    rw [← failures]
    exact h.silent s.blank (List.mem_map_of_mem hs) e
  exclusive := by
    have same : ∀ s : Standard, offers s.blank = offers s := by
      intro s
      obtain ⟨-, gives, -, -, detector⟩ := s.congr_of_blank
      rw [offers, offers, gives, Standard.ownScope, Standard.ownScope, detector]
    have apart := h.exclusive
    rw [List.flatMap_map] at apart
    simpa only [same] using apart
  served c s k hs required := by
    obtain ⟨takes, -, -, -, detector⟩ := s.congr_of_blank
    rw [← takes] at required
    have there : (stages.map Standard.blank)[c]? = some s.blank := by
      rw [List.getElem?_map, hs, Option.map_some]
    obtain ⟨p, t, ne, ht, gives, scopes⟩ := h.served c s.blank k there required
    rw [List.getElem?_map] at ht
    obtain ⟨u, hu, rfl⟩ := Option.map_eq_some_iff.1 ht
    obtain ⟨-, gives', -, -, detector'⟩ := u.congr_of_blank
    rw [gives'] at gives
    rw [Standard.ownScope, Standard.ownScope, detector, detector'] at scopes
    exact ⟨p, u, ne, hu, gives, scopes⟩

/-! ## Detectors -/

/-- A detector is found in the place of the one that it replaces, and every other one as before. -/
lemma findDetector?_replaceDetector (detectors : List Detector) (d : Detector) (name : String) :
    findDetector? (replaceDetector detectors d) name =
      (findDetector? detectors name).map fun e => if e.name == d.name then d else e := by
  have same : ∀ e : Detector, (if e.name == d.name then d else e).name = e.name := by
    intro e
    split
    · rename_i h
      exact (beq_iff_eq.1 h).symm
    · rfl
  rw [findDetector?, replaceDetector, List.find?_map, findDetector?]
  simp only [Function.comp_def, same]

/-- Where a detector was extended, every detector is still found, and is at most extended. -/
lemma exists_findDetector?_replaceDetector {detectors : List Detector} {own : String} {d d' : Detector}
    (found : findDetector? detectors own = some d) (kept : d.Extends d') {name : String} {e : Detector}
    (he : findDetector? detectors name = some e) :
    ∃ e', findDetector? (replaceDetector detectors d') name = some e' ∧ e.Extends e' := by
  rw [findDetector?_replaceDetector, he, Option.map_some]
  refine ⟨_, rfl, ?_⟩
  split
  · rename_i h
    have names : name = own := by
      rw [← findDetector?_name he, ← findDetector?_name found, beq_iff_eq.1 h, kept.name]
    rw [names, found] at he
    cases he
    exact kept
  · exact .refl e

/-- Where the detector of a stage is put back extended, the detectors are those that were there
before, none has lost anything, and the stage finds its own as it was put back. -/
lemma detectors_of_extends {detectors : List Detector} {bound : Option String}
    (there : ∀ name, bound = some name → ∃ d, findDetector? detectors name = some d) {after : Option Detector}
    (kept : Option.Rel Detector.Extends (bound.bind (findDetector? detectors)) after) :
    (∀ name d', findDetector? (putBack detectors after) name = some d' →
      ∃ d, findDetector? detectors name = some d ∧ d.Extends d') ∧
    bound.bind (findDetector? (putBack detectors after)) = after := by
  cases bound with
  | none =>
    cases kept
    exact ⟨fun name d hd => ⟨d, hd, .refl d⟩, rfl⟩
  | some own =>
    obtain ⟨d, found⟩ := there own rfl
    rw [Option.bind_some, found] at kept
    cases kept with
    | @some _ d' extended =>
      refine ⟨fun name e' he' => ?_, ?_⟩
      · -- Detectors are known by the same names as before, so there is one that `e'` can come from.
        obtain ⟨e, he⟩ := exists_findDetector?_iff.2
          (map_name_putBack detectors (some d') ▸ exists_findDetector?_iff.1 ⟨e', he'⟩)
        obtain ⟨e'', he'', from_e⟩ := exists_findDetector?_replaceDetector found extended he
        cases he''.symm.trans he'
        exact ⟨e, he, from_e⟩
      · rw [Option.bind_some, putBack, findDetector?_replaceDetector, found, Option.map_some, extended.name,
          beq_self_eq_true, if_pos rfl]

/-! ## One stage -/

/-- What is known of a site after some stages were set up. -/
structure SiteOf (known : List String) (stages : List Standard) (site : Site Standard) : Prop where
  slots : SlotsOf stages site.done
  names : site.detectors.map Detector.name = known
  bound : ∀ s ∈ stages, ∀ name, Stage.detector? s = some name → name ∈ known
  idle : site.bus.event = none
  holds : Standard.HeldBy stages site.bus

section

variable {files : FileSystem} {m : Member Standard} {site site' : Site Standard}

/-- What is known besides: the sensors are those of the plan, the fields that the stages install are
there, and there is no notice yet that anything was given up. -/
structure Fitted (plans : List DetectorPlan) (stages : List Standard) (site : Site Standard) : Prop
    extends SiteOf (plans.map DetectorPlan.name) stages site where
  sensors : ∀ name d, findDetector? site.detectors name = some d → ∃ x ∈ plans, x.name = name ∧ x.model = d.model
  fields : ∀ s ∈ stages, ∀ d, (Stage.detector? s).bind (findDetector? site.detectors) = some d →
    ∀ k ∈ s.installs, d.has k
  unrelaxed : Notice.relaxed ∉ site.journal

/-- A stage that was set up is the one of the plan but for its settings. It has declared what it
takes and gives and installed its fields, and the site has what it left behind. -/
lemma exists_gains_of_setUpStage (idle : site.bus.event = none) (h : site.setUpStage files m = (.ok (), site')) :
    ∃ s bench, s.blank = m.stage.blank ∧
      (site.bench m).Gains bench (s.subscriptions site.done.length) (s.publications site.done.length) s.installs ∧
      site' =
        { done := site.done ++ [⟨s, m.config, Stage.detector? m.stage⟩]
          detectors := putBack site.detectors bench.detector
          bus := bench.bus
          tables := bench.tables
          journal := site.journal ++ bench.misfits.map .misfit } := by
  have there : ∀ name, Stage.detector? m.stage = some name → ∃ d, findDetector? site.detectors name = some d :=
    fun _ => exists_findDetector?_of_setUpStage h
  have bound : Bound site.detectors [m.stage] := by
    intro s hs
    rw [List.mem_singleton.1 hs]
    exact there
  have own : (site.bench m).scope = m.stage.ownScope := by
    rw [Workbench.scope, Standard.ownScope, Site.bench, bound.own (List.mem_singleton.2 rfl)]
  rcases run : site.attempt files m with ⟨⟨_ | _, s⟩, bench⟩
  · rw [setUpStage_eq there run] at h
    cases h
  rw [setUpStage_eq there run] at h
  cases h
  obtain ⟨same, gains⟩ := Stage.gains_of_setUp (w := site.bench m) idle own run
  obtain ⟨takes, gives, -, installs, detector⟩ := Standard.congr_blank same
  refine ⟨s, bench, same, ?_, rfl⟩
  rw [Standard.subscriptions, Standard.publications, Standard.ownScope, takes, gives, installs, detector]
  exact gains

/-- The slots with one more stage. -/
lemma SlotsOf.snoc {stages : List Standard} {slots : List (Slot Standard)} (h : SlotsOf stages slots) (s : Standard)
    (c : Config.Section) : SlotsOf (stages ++ [s]) (slots ++ [⟨s, c, Stage.detector? s⟩]) := by
  rw [SlotsOf, List.map_append, h, List.map_append]
  rfl

/-- A bus that holds what stages declare holds what one more declares, when that was declared under
its number. -/
lemma heldBy_snoc {stages : List Standard} {bench bench' : Workbench} {s : Standard}
    {installed : List Sensor.FieldKind} (holds : Standard.HeldBy stages bench.bus)
    (gains : bench.Gains bench' (s.subscriptions stages.length) (s.publications stages.length) installed) :
    Standard.HeldBy (stages ++ [s]) bench'.bus := by
  rw [Standard.HeldBy, Standard.declared_snoc, Standard.declared_snoc]
  exact gains.holds holds

/-- Where a detector has lost nothing, the fields that stages installed on it are still there. -/
lemma fields_of_extends {detectors detectors' : List Detector} {stages : List Standard}
    (kept : ∀ name d', findDetector? detectors' name = some d' →
      ∃ d, findDetector? detectors name = some d ∧ d.Extends d')
    (fields : ∀ s ∈ stages, ∀ d, (Stage.detector? s).bind (findDetector? detectors) = some d →
      ∀ k ∈ s.installs, d.has k) :
    ∀ s ∈ stages, ∀ d, (Stage.detector? s).bind (findDetector? detectors') = some d → ∀ k ∈ s.installs, d.has k := by
  intro s hs d' hd' k hk
  obtain ⟨name, hn, found⟩ := Option.bind_eq_some_iff.1 hd'
  obtain ⟨d, hd, extended⟩ := kept name d' found
  apply extended.has k
  exact fields s hs d (Option.bind_eq_some_iff.2 ⟨name, hn, hd⟩) k hk

/-- One more stage that was set up is the one of the plan but for its settings. It has declared what
it takes and gives, and installed its fields. -/
lemma Fitted.setUpStage {plans : List DetectorPlan} {stages : List Standard} (w : Fitted plans stages site)
    (h : site.setUpStage files m = (.ok (), site')) :
    ∃ s, s.blank = m.stage.blank ∧ Fitted plans (stages ++ [s]) site' ∧
      site'.done = site.done ++ [⟨s, m.config, Stage.detector? m.stage⟩] := by
  have there : ∀ name, Stage.detector? m.stage = some name → ∃ d, findDetector? site.detectors name = some d :=
    fun _ => exists_findDetector?_of_setUpStage h
  obtain ⟨s, bench, same, gains, rfl⟩ := exists_gains_of_setUpStage w.idle h
  obtain ⟨-, -, -, -, detector⟩ := Standard.congr_blank same
  have count : site.done.length = stages.length := by
    simpa using congrArg List.length w.slots
  rw [count] at gains
  obtain ⟨kept, own⟩ := detectors_of_extends there gains.detector
  refine ⟨s, same, ?_, rfl⟩
  refine {
    slots := ?_, names := ?_, bound := ?_, idle := ?_, holds := ?_, sensors := ?_, fields := ?_, unrelaxed := ?_ }
  · rw [← detector]
    exact w.slots.snoc s m.config
  · exact (map_name_putBack ..).trans w.names
  · refine List.forall_mem_append.2 ⟨w.bound, List.forall_mem_singleton.2 fun name hd => ?_⟩
    rw [← w.names]
    exact exists_findDetector?_iff.1 (there name (detector ▸ hd))
  · exact gains.event.trans w.idle
  · exact heldBy_snoc w.holds gains
  · intro name d' hd'
    obtain ⟨d, hd, extended⟩ := kept name d' hd'
    rw [extended.model]
    exact w.sensors name d hd
  · refine List.forall_mem_append.2 ⟨fields_of_extends kept w.fields, List.forall_mem_singleton.2 fun d hd => ?_⟩
    rw [detector, own] at hd
    exact gains.fields d hd
  · intro hn
    rcases List.mem_append.1 hn with hn | hn
    · exact w.unrelaxed hn
    · obtain ⟨x, -, hx⟩ := List.mem_map.1 hn
      cases hx

/-- Stages that were set up are those of the plan but for their settings. -/
lemma Fitted.setUpAll {plans : List DetectorPlan} {members : List (Member Standard)} {stages : List Standard}
    (w : Fitted plans stages site) (whole : site.done.map Slot.stage = stages)
    (h : Site.setUpAll files members site = (.ok (), site')) :
    ∃ more, more.map Standard.blank = members.map (fun m => m.stage.blank) ∧
      Fitted plans (stages ++ more) site' ∧ site'.done.map Slot.stage = stages ++ more := by
  induction members generalizing site stages with
  | nil =>
    cases h
    rw [← List.append_nil stages] at w whole
    exact ⟨[], rfl, w, whole⟩
  | cons m rest ih =>
    rw [Site.setUpAll] at h
    split at h
    · rename_i next run
      obtain ⟨s, same, w', done⟩ := w.setUpStage run
      have whole' : next.done.map Slot.stage = stages ++ [s] := by
        rw [done, List.map_append, whole]
        rfl
      obtain ⟨more, sames, w'', whole''⟩ := ih w' whole' h
      rw [List.append_assoc] at w'' whole''
      refine ⟨s :: more, ?_, w'', whole''⟩
      rw [List.map_cons, same, sames, List.map_cons]
    · cases h

end

/-! ## Whole plans -/

/-- All that stages declared bears the number of one of them. -/
lemma declaredBelow_of_holds {stages : List Standard} {b : Bus} (holds : Standard.HeldBy stages b) :
    DeclaredBelow stages.length b := by
  refine ⟨?_, ?_⟩
  · intro t ht
    obtain ⟨t', ht', key⟩ := (holds.exists_iff fun x => x = t.key).1 ⟨t, ht, rfl⟩
    obtain ⟨i, s, hs, ht'⟩ := Standard.mem_declared.1 ht'
    obtain ⟨x, -, rfl⟩ := List.mem_map.1 ht'
    rw [show t.stage = i from congrArg Prod.fst key.symm]
    exact (List.getElem?_eq_some_iff.1 hs).1
  · intro p hp
    obtain ⟨i, s, hs, hp⟩ := Standard.mem_declared.1 ((holds.publications p).1 hp)
    obtain ⟨k, -, rfl⟩ := List.mem_map.1 hp
    exact (List.getElem?_eq_some_iff.1 hs).1

/-- Before the first stage is set up, the site has the detectors and nothing else. -/
lemma fitted_ofPlan (p : Plan Standard) : Fitted p.detectors [] (Site.ofPlan p) where
  slots := rfl
  names := by
    rw [Site.ofPlan, List.map_map]
    rfl
  bound := nofun
  idle := rfl
  holds := Bus.holds_empty
  sensors name d hd := by
    obtain ⟨x, hx, rfl⟩ := List.mem_map.1 (List.mem_of_find?_eq_some hd)
    exact ⟨x, hx, findDetector?_name hd, rfl⟩
  fields := nofun
  unrelaxed := List.not_mem_nil

/-- A simulation whose slots hold these stages, with their detectors and their declarations, in an
order that respects what is supplied with a requirement of this sort. -/
structure Standing (stages : List Standard) (respected : Bus.Requirement → Prop) (s : Simulation Standard) : Prop where
  slots : SlotsOf stages s.slots
  bound : Bound s.detectors stages
  holds : Standard.HeldBy stages s.bus
  perm : s.order.Perm (List.range stages.length)
  respects : ∀ r, respected r → ∀ u v, Supplies s.bus r u v → Precedes s.order u v

/-- An order that respects more requirements respects fewer. -/
lemma Standing.imp {stages : List Standard} {respected respected' : Bus.Requirement → Prop}
    {s : Simulation Standard} (w : Standing stages respected s) (h : ∀ r, respected' r → respected r) :
    Standing stages respected' s where
  slots := w.slots
  bound := w.bound
  holds := w.holds
  perm := w.perm
  respects r hr := w.respects r (h r hr)

/-- An order that respects what is required respects what the stages need. -/
lemma Standing.needs {stages : List Standard} {respected : Bus.Requirement → Prop} {s : Simulation Standard}
    (w : Standing stages respected s) (required : respected .required) :
    Topological stages.length (Needs stages) s.order where
  perm := w.perm
  respects u v needs := w.respects .required required u v ((needs_iff_supplies w.holds).1 needs)

/-- What a plan that is set up gives. -/
lemma standing_of_ofPlan {files : FileSystem} {p : Plan Standard} {s : Simulation Standard}
    (h : Simulation.ofPlan files p = .ok s) :
    ∃ stages, stages.map Standard.blank = p.members.map (fun m => m.stage.blank) ∧
      s.slots.map Slot.stage = stages ∧
      Standing stages (fun r => r = .required ∨ Notice.relaxed ∉ s.journal) s ∧
      (∀ name d, findDetector? s.detectors name = some d → ∃ x ∈ p.detectors, x.name = name ∧ x.model = d.model) ∧
      (∀ t ∈ stages, ∀ d, (Stage.detector? t).bind (findDetector? s.detectors) = some d →
        ∀ k ∈ t.installs, d.has k) ∧
      s.nextEvent = 1 := by
  have start := fitted_ofPlan p
  obtain ⟨site, order, run, scheduled, rfl⟩ := exists_site_of_ofPlan h
  obtain ⟨stages, same, w, whole⟩ := start.setUpAll rfl run
  rw [List.nil_append] at w whole
  have count : site.done.length = stages.length := by
    simpa using congrArg List.length w.slots
  have known := declaredBelow_of_holds w.holds
  rw [← count] at known
  have top := Order.topological_of_schedule known scheduled
  refine ⟨stages, same, whole, ⟨w.slots, ?_, w.holds, count ▸ top.perm, fun r hr u v supplies => ?_⟩,
    w.sensors, w.fields, rfl⟩
  · intro stage hs name hd
    rw [exists_findDetector?_iff, w.names]
    exact w.bound stage hs name hd
  · cases hr with
    | inl required =>
      subst required
      exact top.respects u v supplies
    | inr unsaid =>
      -- Where the optional relations had been given up there would be a notice.
      have kept : (Order.schedule site.done.length site.bus).relaxed = false := by
        by_contra relaxed
        rw [Bool.not_eq_false] at relaxed
        exact unsaid (by simp [Notice.ofSchedule, relaxed])
      have all := Order.topological_of_schedule_of_not_relaxed known scheduled kept
      exact all.respects u v ⟨r, supplies⟩

end SensorSim.Run
