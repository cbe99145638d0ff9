import Mathlib
import SensorSim.Proofs.Run.Pass
import SensorSim.Proofs.Stage.Conduct

/-!
# The course of an event

In an event the stages take turns, and a turn puts messages behind those that are there.
`Pass.turns` lists the turns of a pass. What a pass did is read off them (`Course.runAll`): the
messages stored are those of the turns in order, each is of a kind that the stage of its turn gives,
and stages record nothing but messages of the event.
-/

namespace SensorSim.Run

open Bus (StageId Entry Message Kind)
open Stage (Standard RunQuestion Program)
open Sensor (Detector)

/-- A stage that ran in an event, and the messages that it dispatched. -/
structure Turn where
  stage : StageId
  sent : List Entry

section

variable {μ : Type} [Stage μ]

/-- The turns of a pass through stages in order, the last one included when it failed. -/
def Pass.turns (detectors : List Detector) (event : Nat) : List StageId → Pass μ → List Turn
  | [], _ => []
  | i :: rest, p =>
    let (outcome, next) := p.runStage detectors event i
    ⟨i, next.bus.store.drop p.bus.store.length⟩ ::
      match outcome with
      | .ok () => turns detectors event rest next
      | .error _ => []

variable {detectors : List Detector} {event : Nat}

/-- A pass goes on with the stages behind others unless one of these fails. -/
lemma runAll_append (p : Pass μ) (front back : List StageId) :
    p.runAll detectors event (front ++ back) =
      match p.runAll detectors event front with
      | (.ok (), next) => next.runAll detectors event back
      | (.error e, next) => (.error e, next) := by
  induction front generalizing p with
  | nil => rfl
  | cons i rest ih =>
    rw [List.cons_append, Pass.runAll, Pass.runAll]
    rcases p.runStage detectors event i with ⟨_ | _, next⟩
    · rfl
    · exact ih next

/-- The turns of the stages behind others come last, and are not taken when one of the others
fails. -/
lemma turns_append (p : Pass μ) (front back : List StageId) :
    p.turns detectors event (front ++ back) =
      p.turns detectors event front ++
        match p.runAll detectors event front with
        | (.ok (), next) => next.turns detectors event back
        | (.error _, _) => [] := by
  induction front generalizing p with
  | nil => rfl
  | cons i rest ih =>
    rw [List.cons_append, Pass.turns, Pass.turns, Pass.runAll]
    rcases p.runStage detectors event i with ⟨_ | _, next⟩
    · rfl
    · rw [List.cons_append]
      exact congrArg _ (ih next)

/-- Turns are taken in the order of the stages, by all of them when none failed. -/
lemma stages_turns (detectors : List Detector) (event : Nat) (p : Pass μ) (order : List StageId) :
    (p.turns detectors event order).map Turn.stage <+: order ∧
      ((p.runAll detectors event order).1 = .ok () →
        (p.turns detectors event order).map Turn.stage = order) := by
  induction order generalizing p with
  | nil => exact ⟨List.prefix_rfl, fun _ => rfl⟩
  | cons i rest ih =>
    rw [Pass.turns, Pass.runAll]
    rcases p.runStage detectors event i with ⟨_ | _, next⟩
    · exact ⟨⟨rest, rfl⟩, fun h => by cases h⟩
    · obtain ⟨front, whole⟩ := ih next
      refine ⟨?_, fun h => ?_⟩
      · exact (List.prefix_cons_inj i).2 front
      · exact congrArg _ (whole h)

end

/-! ## What a pass does -/

/-- What the stage in a place has recorded. -/
def heardAt (slots : List (Slot Standard)) (i : StageId) : List Message :=
  slots[i]?.elim [] fun x => x.stage.heard

/-- A pass of these stages in the course of an event: what is stored bears the number of the
event. -/
structure Course (stages : List Standard) (event : Nat) (p : Pass Standard) : Prop where
  slots : SlotsOf stages p.slots
  stamped : ∀ e ∈ p.bus.store, e.message.event = event
  event : p.bus.event = some event

/-- Between two states of a pass these turns were taken. -/
structure Takes (stages : List Standard) (event : Nat) (p p' : Pass Standard) (turns : List Turn) : Prop where
  slots : SlotsOf stages p'.slots
  bus : p'.bus = p.bus.withEntries (turns.flatMap Turn.sent)
  signed : ∀ T ∈ turns, ∃ s, stages[T.stage]? = some s ∧ ∀ e ∈ T.sent, s.Signs T.stage event e
  heard : ∀ j, ∃ found, heardAt p'.slots j = heardAt p.slots j ++ found ∧ (∀ m ∈ found, m.event = event) ∧
    (j ∉ turns.map Turn.stage → found = [])

namespace Takes

variable {stages : List Standard} {event : Nat} {p p' p'' : Pass Standard} {turns turns' : List Turn}

lemma refl (c : Course stages event p) : Takes stages event p p [] where
  slots := c.slots
  bus := by rw [Bus.withEntries, List.flatMap_nil, List.append_nil]
  signed := nofun
  heard j := ⟨[], (List.append_nil _).symm, nofun, fun _ => rfl⟩

/-- Turns are followed by turns. -/
lemma trans (h : Takes stages event p p' turns) (h' : Takes stages event p' p'' turns') :
    Takes stages event p p'' (turns ++ turns') where
  slots := h'.slots
  bus := by
    rw [h'.bus, h.bus, Bus.withEntries, Bus.withEntries, Bus.withEntries, List.append_assoc, List.flatMap_append]
  signed T hT := by
    rcases List.mem_append.1 hT with hT | hT
    · exact h.signed T hT
    · exact h'.signed T hT
  heard j := by
    obtain ⟨found, eq, stamped, idle⟩ := h.heard j
    obtain ⟨found', eq', stamped', idle'⟩ := h'.heard j
    refine ⟨found ++ found', ?_, ?_, ?_⟩
    · rw [eq', eq, List.append_assoc]
    · intro m hm
      rcases List.mem_append.1 hm with hm | hm
      · exact stamped m hm
      · exact stamped' m hm
    · intro out
      rw [List.map_append, List.mem_append, not_or] at out
      rw [idle out.1, idle' out.2, List.append_nil]

/-- Whatever turns were taken, the pass is still in the course of the event. -/
lemma course (h : Takes stages event p p' turns) (c : Course stages event p) : Course stages event p' where
  slots := h.slots
  event := by
    rw [h.bus]
    exact c.event
  stamped e he := by
    rw [h.bus] at he
    rcases List.mem_append.1 he with he | he
    · exact c.stamped e he
    · obtain ⟨T, hT, heT⟩ := List.mem_flatMap.1 he
      obtain ⟨s, -, signs⟩ := h.signed T hT
      exact (signs e heT).event

end Takes

section

variable {detectors : List Detector} {stages : List Standard} {event : Nat} {p : Pass Standard}

/-- A stage takes its turn. One that records a kind and succeeds records what is stored of it. -/
lemma Course.runStage (bound : Bound detectors stages) (c : Course stages event p) {i : StageId} {s : Standard}
    (hs : stages[i]? = some s) :
    ∃ sent, (p.runStage detectors event i).2.bus.store.drop p.bus.store.length = sent ∧
      Takes stages event p (p.runStage detectors event i).2 [⟨i, sent⟩] ∧
      ∀ k, s.records? = some k → (p.runStage detectors event i).1 = .ok () →
        heardAt (p.runStage detectors event i).2.slots i =
          heardAt p.slots i ++ (p.bus.store.map Entry.message).filter fun m => m.kind == k := by
  obtain ⟨x, hx, same, own, there, whose⟩ := c.slots.exists_bound bound hs
  obtain ⟨-, gives, -, detector, -⟩ := Standard.congr_fresh same
  rcases run : Program.run (RunQuestion.answer i) (Stage.run (x.context detectors event i) x.stage) p.bus with
    ⟨⟨outcome, s'⟩, bus⟩
  -- What it dispatched and what it recorded are known apart; both are of the one run.
  have signed := Stage.exists_signed (x.context detectors event i) whose i c.event
  obtain ⟨found, noted, given, all⟩ := Stage.exists_heard _ whose i p.bus run
  rw [run] at signed
  obtain ⟨again, sent, rfl, signs⟩ := signed
  rw [runStage_eq hx there run]
  have before : heardAt p.slots i = x.stage.heard := by
    rw [heardAt, hx, Option.elim_some]
  have after : heardAt (p.slots.set i { x with stage := s' }) i = s'.heard := by
    rw [heardAt, List.getElem?_set_self (List.getElem?_eq_some_iff.1 hx).1, Option.elim_some]
  refine ⟨sent, ?_, ⟨?_, ?_, ?_, ?_⟩, ?_⟩
  · exact List.drop_left
  · exact c.slots.set hx again
  · rw [List.flatMap_singleton]
  · intro T hT
    rw [List.mem_singleton.1 hT]
    refine ⟨s, hs, fun e he => ?_⟩
    obtain ⟨producer, kind, target, number⟩ := signs e he
    exact ⟨producer, gives ▸ kind, detector ▸ target, number⟩
  · intro j
    by_cases hj : j = i
    · subst hj
      refine ⟨found, ?_, ?_, fun out => absurd (List.mem_singleton.2 rfl) out⟩
      · rw [after, before, noted]
      · intro m hm
        obtain ⟨e, he, rfl⟩ := List.mem_map.1 (given m hm)
        exact c.stamped e he
    · refine ⟨[], ?_, nofun, fun _ => rfl⟩
      rw [heardAt, List.getElem?_set_ne (Ne.symm hj), List.append_nil, heardAt]
  · intro k hk ok
    rw [after, before, noted]
    have kind := (Standard.records?_congr same).trans hk
    rw [all k kind]
    cases outcome with
    | ok _ => rfl
    | error e => cases ok

/-- What a pass did are the turns that were taken in it. -/
lemma Course.runAll (bound : Bound detectors stages) (c : Course stages event p) {order : List StageId}
    (known : ∀ i ∈ order, i < stages.length) :
    Takes stages event p (p.runAll detectors event order).2 (p.turns detectors event order) := by
  induction order generalizing p with
  | nil => exact .refl c
  | cons i rest ih =>
    obtain ⟨s, hs⟩ : ∃ s, stages[i]? = some s :=
      ⟨_, List.getElem?_eq_getElem (known i (List.mem_cons_self ..))⟩
    obtain ⟨sent, eq, takes, -⟩ := c.runStage bound hs
    rw [Pass.runAll, Pass.turns]
    rcases run : p.runStage detectors event i with ⟨_ | _, next⟩
    · rw [run] at eq takes
      rw [← eq] at takes
      exact takes
    · rw [run] at eq takes
      rw [← eq] at takes
      exact takes.trans (ih (takes.course c) fun j hj => known j (List.mem_cons_of_mem _ hj))

/-- A stage that records a kind has, after a pass that succeeded, recorded what was stored of it
when its turn came. -/
lemma Course.heard_runAll (bound : Bound detectors stages) (c : Course stages event p)
    {front back : List StageId} {i : StageId} (known : ∀ j ∈ front ++ i :: back, j < stages.length)
    (once : i ∉ front ∧ i ∉ back) {s : Standard} (hs : stages[i]? = some s) {k : Kind} (records : s.records? = some k)
    (ok : (p.runAll detectors event (front ++ i :: back)).1 = .ok ()) :
    ∃ before T after, p.turns detectors event (front ++ i :: back) = before ++ T :: after ∧ T.stage = i ∧
      heardAt (p.runAll detectors event (front ++ i :: back)).2.slots i = heardAt p.slots i ++
        ((p.bus.store ++ before.flatMap Turn.sent).map Entry.message).filter fun m => m.kind == k := by
  rw [runAll_append] at ok ⊢
  rw [turns_append]
  have takes := c.runAll bound fun j (hj : j ∈ front) => known j (List.mem_append_left _ hj)
  have early := (stages_turns detectors event p front).1
  rcases run : p.runAll detectors event front with ⟨_ | _, p₁⟩
  · rw [run] at ok
    cases ok
  rw [run] at ok takes
  have c₁ := takes.course c
  obtain ⟨sent, eq, turn, all⟩ := c₁.runStage bound hs
  simp only [Pass.runAll, Pass.turns] at ok ⊢
  rcases stage : p₁.runStage detectors event i with ⟨_ | _, p₂⟩
  · rw [stage] at ok
    cases ok
  rw [stage] at turn all
  refine ⟨_, _, _, rfl, rfl, ?_⟩
  -- The stage has not recorded anything before its turn, and records nothing after it.
  have rest := (turn.course c₁).runAll bound fun j (hj : j ∈ back) =>
    known j (List.mem_append_right _ (List.mem_cons_of_mem _ hj))
  have late := (stages_turns detectors event p₂ back).1
  obtain ⟨found, noted, -, idle⟩ := takes.heard i
  obtain ⟨found', noted', -, idle'⟩ := rest.heard i
  rw [idle fun hi => once.1 (early.subset hi), List.append_nil] at noted
  rw [idle' fun hi => once.2 (late.subset hi), List.append_nil] at noted'
  have recorded := all k records rfl
  rw [noted', recorded, noted, takes.bus]
  rfl

end

end SensorSim.Run
