import Mathlib
import SensorSim.Run.Simulation
import SensorSim.Proofs.Bus.Declaration

/-!
# The setup of any plan

Whatever the stages of a valid plan are and do, the detector of a stage is there when its turn
comes, so its setup is what its own program makes of it (`Reached.setUpStage_eq`). No event is in
progress on the bus meanwhile, and all that is declared on it was asked for by the stage in the
place whose number it bears (`Sound.setUpAll`).
-/

namespace SensorSim

open Bus (StageId)
open Files (FileSystem)

namespace Stage

namespace Program

variable {Q : Type} {Reply : Q → Type} {α σ : Type} (handle : (q : Q) → σ → Reply q × σ)

/-- The questions that a program asks in order. -/
def questions : Program Q Reply α → σ → List Q
  | done _, _ => []
  | ask q next, s => q :: questions (next (handle q s).1) (handle q s).2

variable {handle}

/-- What holds of the state before a program and is kept by the answers to its questions holds after
it. -/
lemma run_of_questions {P : σ → Prop} (p : Program Q Reply α) {s : σ}
    (keeps : ∀ q ∈ p.questions handle s, ∀ s, P s → P (handle q s).2) (h : P s) : P (run handle p s).2 := by
  induction p generalizing s with
  | done a => exact h
  | ask q next ih =>
    refine ih _ (fun q' hq => keeps q' (List.mem_cons_of_mem _ hq)) ?_
    exact keeps q (List.mem_cons_self ..) s h

end Program

/-- No event is in progress on a bus, and all that is declared on it was asked for. -/
structure Declared (asked : StageId → SetupQuestion → Prop) (b : Bus) : Prop where
  idle : b.event = none ∧ b.store = []
  subscriptions : ∀ t ∈ b.subscriptions, asked t.stage (.subscribe t.kind t.scope t.requirement)
  publications : ∀ t ∈ b.publications, asked t.stage (.publish t.kind t.scope)

/-- The answer to a question declares at most what was asked for, in the name of the stage. -/
lemma Declared.answer {asked : StageId → SetupQuestion → Prop} {i : StageId} {q : SetupQuestion} (hq : asked i q)
    (files : FileSystem) {w : Workbench} (h : Declared asked w.bus) :
    Declared asked (SetupQuestion.answer i files q w).2.bus := by
  cases q with
  | subscribe kind scope requirement =>
    rw [SetupQuestion.answer, Bus.subscribe_of_idle h.idle.1]
    refine ⟨h.idle, fun t ht => ?_, h.publications⟩
    rcases Bus.mem_of_mem_merge ht with old | rfl
    · exact h.subscriptions t old
    · exact hq
  | publish kind scope =>
    rw [SetupQuestion.answer, Bus.publish_of_idle h.idle.1]
    unfold Bus.withPublication settle
    dsimp only
    split
    · exact h
    · refine ⟨h.idle, h.subscriptions, fun t ht => ?_⟩
      rcases List.mem_append.1 ht with old | new
      · exact h.publications t old
      · rw [List.mem_singleton.1 new]
        exact hq
  | detector => exact h
  | installPotential f => exact h
  | installField f => exact h
  | potentialTable path => exact h
  | fieldTable path => exact h
  | storeSizes => exact h
  | report misfit => exact h

end Stage

namespace Run

open Stage (SetupQuestion Program Workbench Declared)
open Sensor (Detector)

/-! ## Detectors -/

/-- A detector is found by a name exactly when one of them has the name. -/
lemma exists_findDetector?_iff {detectors : List Detector} {name : String} :
    (∃ d, findDetector? detectors name = some d) ↔ name ∈ detectors.map Detector.name := by
  rw [← Option.isSome_iff_exists, findDetector?, List.find?_isSome, List.mem_map]
  simp only [beq_iff_eq]

/-- A detector is replaced by one of the same name. -/
lemma map_name_replaceDetector (detectors : List Detector) (d : Detector) :
    (replaceDetector detectors d).map Detector.name = detectors.map Detector.name := by
  rw [replaceDetector, List.map_map]
  refine List.map_congr_left fun e _ => ?_
  rw [Function.comp_apply]
  split
  · rename_i h
    exact (beq_iff_eq.1 h).symm
  · rfl

/-- The detectors after a stage was set up on one of them, or on none. -/
def putBack (detectors : List Detector) : Option Detector → List Detector
  | some d => replaceDetector detectors d
  | none => detectors

/-- A detector that is put back takes the place of the one of its name. -/
lemma map_name_putBack (detectors : List Detector) (after : Option Detector) :
    (putBack detectors after).map Detector.name = detectors.map Detector.name := by
  cases after with
  | none => rfl
  | some d => exact map_name_replaceDetector detectors d

variable {μ : Type} [Stage μ] {files : FileSystem}

/-! ## Valid plans -/

/-- Where no name is repeated, the names are distinct, and none of them was seen before. -/
lemma nodup_of_firstRepeated? {seen names : List String} (h : firstRepeated? seen names = none) :
    names.Nodup ∧ ∀ n ∈ names, n ∉ seen := by
  induction names generalizing seen with
  | nil => exact ⟨.nil, nofun⟩
  | cons n rest ih =>
    rw [firstRepeated?] at h
    split at h
    · cases h
    · rename_i new
      obtain ⟨nodup, unseen⟩ := ih h
      refine ⟨List.nodup_cons.2 ⟨fun hn => unseen n hn (List.mem_cons_self ..), nodup⟩, ?_⟩
      exact List.forall_mem_cons.2 ⟨new, fun m hm seen => unseen m hm (List.mem_cons_of_mem _ seen)⟩

/-- Where no stage is named as unbound, every stage belongs to one of the detectors or to none. -/
lemma mem_of_firstUnbound? {names : List String} {members : List (Member μ)}
    (h : Plan.firstUnbound? names members = none) {m : Member μ} (hm : m ∈ members) {name : String}
    (own : Stage.detector? m.stage = some name) : name ∈ names := by
  induction members with
  | nil => cases hm
  | cons n rest ih =>
    rw [Plan.firstUnbound?] at h
    split at h
    · rename_i free
      rcases List.mem_cons.1 hm with rfl | hm
      · cases free.symm.trans own
      · exact ih h hm
    · rename_i d bound
      split at h
      · rename_i known
        rcases List.mem_cons.1 hm with rfl | hm
        · cases bound.symm.trans own
          exact known
        · exact ih h hm
      · cases h

/-- In a valid plan the names of the detectors are distinct. -/
lemma nodup_of_validate {p : Plan μ} (valid : p.validate = .ok ()) : (p.detectors.map DetectorPlan.name).Nodup := by
  cases repeated : firstRepeated? [] (p.detectors.map DetectorPlan.name) with
  | none => exact (nodup_of_firstRepeated? repeated).1
  | some n =>
    simp only [Plan.validate, repeated] at valid
    split_ifs at valid <;> cases valid

/-- In a valid plan every stage belongs to one of the detectors or to none. -/
lemma mem_of_validate {p : Plan μ} (valid : p.validate = .ok ()) {m : Member μ} (hm : m ∈ p.members) {name : String}
    (own : Stage.detector? m.stage = some name) : name ∈ p.detectors.map DetectorPlan.name := by
  cases repeated : firstRepeated? [] (p.detectors.map DetectorPlan.name) with
  | some n =>
    simp only [Plan.validate, repeated] at valid
    split_ifs at valid <;> cases valid
  | none =>
    cases unbound : Plan.firstUnbound? (p.detectors.map DetectorPlan.name) p.members with
    | none => exact mem_of_firstUnbound? unbound hm own
    | some x =>
      simp only [Plan.validate, repeated, unbound] at valid
      split_ifs at valid <;> cases valid

/-- A plan that is set up is valid. -/
lemma validate_of_ofPlan {p : Plan μ} {s : Simulation μ} (h : Simulation.ofPlan files p = .ok s) :
    p.validate = .ok () := by
  rw [Simulation.ofPlan] at h
  split at h
  · cases h
  · assumption

/-! ## One stage -/

/-- What a stage that is to be set up works on. -/
def Site.bench (site : Site μ) (m : Member μ) : Workbench where
  bus := site.bus
  tables := site.tables
  detector := (Stage.detector? m.stage).bind (findDetector? site.detectors)

/-- The setup of a stage on a site: its own outcome, the stage afterwards, and what it left
behind. -/
def Site.attempt (files : FileSystem) (m : Member μ) (site : Site μ) : (Except Stage.StageError Unit × μ) × Workbench :=
  Program.run (SetupQuestion.answer site.done.length files) (Stage.setUp ⟨site.done.length, m.config, files⟩ m.stage)
    (site.bench m)

/-- What a stage asks for when it is set up on a site. -/
def Site.questions (files : FileSystem) (m : Member μ) (site : Site μ) : List SetupQuestion :=
  Program.questions (SetupQuestion.answer site.done.length files)
    (Stage.setUp ⟨site.done.length, m.config, files⟩ m.stage) (site.bench m)

section

variable {m : Member μ} {site site' : Site μ}

/-- A stage whose detector is there is set up on it. -/
lemma setUpStage_eq
    (there : ∀ name, Stage.detector? m.stage = some name → ∃ d, findDetector? site.detectors name = some d)
    {outcome : Except Stage.StageError Unit} {stage : μ} {bench : Workbench}
    (run : site.attempt files m = ((outcome, stage), bench)) :
    site.setUpStage files m =
      (outcome.mapError fun e => .stageFailed (Stage.name stage) (Stage.detector? m.stage) e,
        { done := site.done ++ [⟨stage, m.config, Stage.detector? m.stage⟩]
          detectors := putBack site.detectors bench.detector
          bus := bench.bus
          tables := bench.tables
          journal := site.journal ++ bench.misfits.map .misfit }) := by
  unfold Site.setUpStage
  unfold Site.attempt Site.bench at run
  cases hd : Stage.detector? m.stage with
  | none =>
    rw [hd] at run
    simp only [Option.bind_none] at run ⊢
    rw [run]
    cases outcome <;> rfl
  | some name =>
    obtain ⟨d, found⟩ := there name hd
    rw [hd] at run
    simp only [Option.bind_some, found] at run ⊢
    rw [run]
    cases outcome <;> rfl

/-- A stage whose setup succeeded belongs to a detector that is there, or to none. -/
lemma exists_findDetector?_of_setUpStage (h : site.setUpStage files m = (.ok (), site')) {name : String}
    (own : Stage.detector? m.stage = some name) : ∃ d, findDetector? site.detectors name = some d := by
  cases found : findDetector? site.detectors name with
  | some d => exact ⟨d, rfl⟩
  | none =>
    simp only [Site.setUpStage, own, Option.bind_some, found] at h
    cases h

end

/-! ## All stages -/

/-- Stages behind others are set up on the site that these leave, unless one of these fails. -/
lemma Site.setUpAll_append (front rest : List (Member μ)) (site : Site μ) :
    Site.setUpAll files (front ++ rest) site =
      match Site.setUpAll files front site with
      | (.ok (), next) => Site.setUpAll files rest next
      | (.error (e, left), next) => (.error (e, left ++ rest), next) := by
  induction front generalizing site with
  | nil => rfl
  | cons m front ih =>
    rw [List.cons_append, Site.setUpAll, Site.setUpAll]
    rcases site.setUpStage files m with ⟨_ | _, next⟩
    · rfl
    · exact ih next

/-- The setup of a plan gets to the stage in a place: those in front of it are set up and leave this
site. -/
structure Plan.Reaches (p : Plan μ) (files : FileSystem) (i : StageId) (m : Member μ) (site : Site μ) : Prop where
  member : p.members[i]? = some m
  front : Site.setUpAll files (p.members.take i) (Site.ofPlan p) = (.ok (), site)

/-- The stage in a place asks for this when it is set up. -/
def Plan.Asks (p : Plan μ) (files : FileSystem) (i : StageId) (q : SetupQuestion) : Prop :=
  ∃ m site, p.Reaches files i m site ∧ q ∈ site.questions files m

/-- What is known of the site that the first stages of a plan leave. -/
structure Sound (p : Plan μ) (files : FileSystem) (k : Nat) (site : Site μ) : Prop where
  owners : site.done.map Slot.detector = (p.members.take k).map fun m => Stage.detector? m.stage
  names : site.detectors.map Detector.name = p.detectors.map DetectorPlan.name
  declared : Declared (p.Asks files) site.bus

/-- As many stages stand on the site as were set up. -/
lemma Sound.length_done {p : Plan μ} {k : Nat} {site : Site μ} (w : Sound p files k site) (hk : k ≤ p.members.length) :
    site.done.length = k := by
  have same := congrArg List.length w.owners
  rw [List.length_map, List.length_map, List.length_take, Nat.min_eq_left hk] at same
  exact same

section

variable {p : Plan μ} (valid : p.validate = .ok ()) {k : Nat} {m : Member μ} {site site' : Site μ}
include valid

/-- On the way the detector of every stage is there. -/
lemma Sound.exists_findDetector? (w : Sound p files k site) (hm : m ∈ p.members) {name : String}
    (own : Stage.detector? m.stage = some name) : ∃ d, findDetector? site.detectors name = some d := by
  rw [exists_findDetector?_iff, w.names]
  exact mem_of_validate valid hm own

/-- What is known stays known with one more stage. -/
lemma Sound.setUpStage (w : Sound p files k site) (reached : p.Reaches files k m site)
    (h : site.setUpStage files m = (.ok (), site')) : Sound p files (k + 1) site' := by
  obtain ⟨hk, rfl⟩ := List.getElem?_eq_some_iff.1 reached.member
  have count := w.length_done (Nat.le_of_lt hk)
  rcases run : site.attempt files p.members[k] with ⟨⟨outcome, stage⟩, bench⟩
  rw [setUpStage_eq (fun _ => w.exists_findDetector? valid (List.getElem_mem hk)) run] at h
  obtain ⟨-, rfl⟩ := Prod.mk.inj h
  refine ⟨?_, ?_, ?_⟩
  · rw [List.map_append, w.owners, List.take_add_one, List.getElem?_eq_getElem hk, List.map_append]
    rfl
  · rw [map_name_putBack, w.names]
  · have declared : Declared (p.Asks files) (site.attempt files p.members[k]).2.bus := by
      refine Program.run_of_questions (P := fun w : Workbench => Declared (p.Asks files) w.bus) _
        (fun q hq bench h => ?_) w.declared
      exact h.answer ⟨_, site, count.symm ▸ reached, hq⟩ files
    rw [run] at declared
    exact declared

/-- The site that the first stages of a plan leave is sound. -/
lemma sound_of_setUpAll (h : Site.setUpAll files (p.members.take k) (Site.ofPlan p) = (.ok (), site)) :
    Sound p files k site := by
  induction k generalizing site with
  | zero =>
    cases h
    refine ⟨rfl, ?_, ⟨rfl, rfl⟩, nofun, nofun⟩
    rw [Site.ofPlan, List.map_map]
    rfl
  | succ k ih =>
    cases hm : p.members[k]? with
    | none =>
      have all : p.members.take (k + 1) = p.members.take k := by
        rw [List.take_add_one, hm, Option.toList_none, List.append_nil]
      rw [all] at h
      obtain ⟨owners, names, declared⟩ := ih h
      exact ⟨all ▸ owners, names, declared⟩
    | some m =>
      rw [List.take_add_one, hm, Site.setUpAll_append] at h
      split at h
      · rename_i before front
        rw [Option.toList_some, Site.setUpAll] at h
        split at h
        · rename_i run
          cases h
          exact (ih front).setUpStage valid ⟨hm, front⟩ run
        · cases h
      · cases h

/-- The setup of a stage that is reached is what its own program makes of it. -/
lemma Plan.Reaches.setUpStage_eq (reached : p.Reaches files k m site) :
    site.done.length = k ∧
      (∀ name, Stage.detector? m.stage = some name → ∃ d, findDetector? site.detectors name = some d) ∧
      (site.setUpStage files m).1 = (site.attempt files m).1.1.mapError fun e =>
        .stageFailed (Stage.name (site.attempt files m).1.2) (Stage.detector? m.stage) e := by
  have w := sound_of_setUpAll valid reached.front
  have there : ∀ name, Stage.detector? m.stage = some name → ∃ d, findDetector? site.detectors name = some d :=
    fun _ => w.exists_findDetector? valid (List.mem_of_getElem? reached.member)
  refine ⟨?_, there, ?_⟩
  · exact w.length_done (Nat.le_of_lt (List.getElem?_eq_some_iff.1 reached.member).1)
  · rcases run : site.attempt files m with ⟨⟨outcome, stage⟩, bench⟩
    rw [Run.setUpStage_eq there run]

end

/-- The site that a simulation is on. -/
def Simulation.site (s : Simulation μ) : Site μ where
  done := s.slots
  detectors := s.detectors
  bus := s.bus
  tables := s.tables
  journal := s.journal

/-- A simulation is made of the site that the setup of all stages leaves, with an order by what is
declared there. -/
lemma exists_site_of_ofPlan {p : Plan μ} {s : Simulation μ} (h : Simulation.ofPlan files p = .ok s) :
    ∃ site order, Site.setUpAll files p.members (Site.ofPlan p) = (.ok (), site) ∧
      (Order.schedule site.done.length site.bus).stages = .ok order ∧
      s = { slots := site.done, order, detectors := site.detectors, bus := site.bus, tables := site.tables,
            journal := site.journal ++ Notice.ofSchedule (Order.schedule site.done.length site.bus) } := by
  rw [Simulation.ofPlan, validate_of_ofPlan h] at h
  dsimp only at h
  split at h
  · cases h
  · rename_i site run
    split at h
    · cases h
    · rename_i order scheduled
      cases h
      exact ⟨site, order, run, scheduled, rfl⟩

/-- A plan that is set up gives a simulation on a site that is sound, in an order by what is
declared there. -/
lemma sound_of_ofPlan {p : Plan μ} {s : Simulation μ} (h : Simulation.ofPlan files p = .ok s) :
    Sound p files p.members.length s.site ∧ (Order.schedule p.members.length s.bus).stages = .ok s.order := by
  obtain ⟨site, order, run, scheduled, rfl⟩ := exists_site_of_ofPlan h
  have all : Site.setUpAll files (p.members.take p.members.length) (Site.ofPlan p) = (.ok (), site) := by
    rw [List.take_length]
    exact run
  have w := sound_of_setUpAll (validate_of_ofPlan h) all
  rw [w.length_done le_rfl] at scheduled
  exact ⟨⟨w.owners, w.names, w.declared⟩, scheduled⟩

end Run

end SensorSim
