import Mathlib
import SensorSim.Proofs.Except
import SensorSim.Proofs.Run.History

/-!
# Messages and their subscribers

The order of the stages is made from the scopes that were declared, while what a stage gets depends
on the detector that a message is for. The two agree: a stage whose message another one subscribed
to has its turn first (`Standing.precedes`). So nobody misses a message that was dispatched too
late, and a recorder has all messages of its kind (`Standing.ofEvent_recorder`).
-/

namespace SensorSim.Run

open Bus (StageId Entry Subscription Publication Kind)
open Stage (Standard Recorder)
open Files (FileSystem)
open SensorSim.Order (Precedes Supplies)

namespace Standing

variable {stages : List Standard} {respected : Bus.Requirement → Prop} {s : Simulation Standard}

/-- The stage of a turn supplies everyone who subscribed to a message of the turn. -/
lemma supplies (w : Standing stages respected s) {T : Turn} (hT : T ∈ s.turns) {e : Entry} (he : e ∈ T.sent)
    {t : Subscription} (ht : t ∈ s.bus.subscriptions) (other : t.stage ≠ T.stage)
    (kind : t.kind = e.message.kind) (scope : t.scope.covers e.message.detector) :
    Supplies s.bus t.requirement T.stage t.stage := by
  obtain ⟨m, hm, signs⟩ := w.takes.signed T hT
  obtain ⟨-, given, own, -⟩ := signs e he
  have published : (⟨T.stage, e.message.kind, m.ownScope⟩ : Publication) ∈ s.bus.publications :=
    (w.holds.publications _).2 (Standard.mem_declared.2 ⟨T.stage, m, hm, List.mem_map.2 ⟨_, given, rfl⟩⟩)
  refine ⟨other.symm, _, published, t, ht, rfl, rfl, rfl, kind.symm, ?_⟩
  rwa [Bus.Scope.covers_eq_overlaps_own, own, Bus.Scope.overlaps_comm] at scope

/-- What comes later in the order has not had its turn. -/
lemma stage_ne_of_precedes (w : Standing stages respected s) {before after : List Turn} {T : Turn}
    (split : s.turns = before ++ T :: after) {i : StageId} (h : Precedes s.order T.stage i) :
    ∀ U ∈ before, U.stage ≠ i := by
  obtain ⟨rest, whole⟩ := (stages_turns s.detectors s.nextEvent s.start s.order).1
  have turns : s.start.turns s.detectors s.nextEvent s.order = before ++ T :: after := split
  rw [turns, List.map_append, List.map_cons, List.append_assoc, List.cons_append] at whole
  have nodup := w.nodup
  rw [← whole] at nodup h
  have late := h.notMem_of_split nodup
  rintro U hU rfl
  exact late (List.mem_map_of_mem hU)

/-- A stage that dispatches a message has its turn before the others who subscribed to it. -/
lemma precedes (w : Standing stages respected s) {before after : List Turn} {T : Turn}
    (split : s.turns = before ++ T :: after) {e : Entry} (he : e ∈ T.sent) {t : Subscription}
    (ht : t ∈ s.bus.subscriptions) (other : t.stage ≠ T.stage) (kind : t.kind = e.message.kind)
    (scope : t.scope.covers e.message.detector) (hr : respected t.requirement) :
    Precedes s.order T.stage t.stage ∧ ∀ U ∈ before, U.stage ≠ t.stage := by
  have hT : T ∈ s.turns := split ▸ List.mem_append_right before (List.mem_cons_self ..)
  have pre := w.respects _ hr _ _ (w.supplies hT he ht other kind scope)
  exact ⟨pre, w.stage_ne_of_precedes split pre⟩

/-- A stage that records a kind takes that kind for any detector, and gives nothing. -/
lemma recorder_declares {m : Standard} {k : Kind} (h : m.records? = some k) :
    m.gives = [] ∧ (k, Bus.Requirement.optional) ∈ m.takes ∧ m.ownScope = .any := by
  cases m with
  | recorder r =>
    cases h
    exact ⟨rfl, List.mem_singleton.2 rfl, rfl⟩
  | _ => cases h

/-- From the turn of a recorder on nothing of its kind is dispatched, when everything supplied is
respected. -/
lemma not_sent_after (w : Standing stages respected s) (all : ∀ r, respected r) {before after : List Turn}
    {T : Turn} (split : s.turns = before ++ T :: after) {m : Standard} (hm : stages[T.stage]? = some m) {k : Kind}
    (records : m.records? = some k) : ∀ e ∈ (T :: after).flatMap Turn.sent, e.message.kind ≠ k := by
  obtain ⟨nothing, taken, anywhere⟩ := recorder_declares records
  rintro e he rfl
  obtain ⟨U, hU, heU⟩ := List.mem_flatMap.1 he
  have hU' : U ∈ s.turns := split ▸ List.mem_append_right before hU
  by_cases own : U.stage = T.stage
  · -- The recorder itself gives nothing.
    obtain ⟨m', hm', signs⟩ := w.takes.signed U hU'
    rw [own, hm] at hm'
    cases hm'
    have given := (signs e heU).kind
    rw [nothing] at given
    exact List.not_mem_nil given
  · -- Anyone else would have had its turn before the recorder, which subscribed.
    rcases List.mem_cons.1 hU with rfl | hU
    · exact own rfl
    obtain ⟨middle, back, rfl⟩ := List.append_of_mem hU
    have declared : (⟨T.stage, e.message.kind, m.ownScope, .optional⟩ : Subscription) ∈
        Standard.declared Standard.subscriptions stages :=
      Standard.mem_declared.2 ⟨T.stage, m, hm, List.mem_map.2 ⟨_, taken, rfl⟩⟩
    obtain ⟨t, ht, key⟩ := (w.holds.exists_iff fun x => x = (T.stage, e.message.kind, m.ownScope)).2
      ⟨_, declared, rfl⟩
    obtain ⟨stage, kind, scope⟩ : t.stage = T.stage ∧ t.kind = e.message.kind ∧ t.scope = m.ownScope := by
      simpa [Subscription.key] using key
    have split' : s.turns = (before ++ T :: middle) ++ U :: back := by
      rw [split, List.append_assoc, List.cons_append]
    have other : t.stage ≠ U.stage := by
      rw [stage]
      exact fun h => own h.symm
    have covered : t.scope.covers e.message.detector := by
      rw [scope, anywhere]
      rfl
    obtain ⟨-, notYet⟩ := w.precedes split' heU ht other kind covered (all _)
    exact notYet T (List.mem_append_right _ (List.mem_cons_self ..)) stage.symm

/-- A recorder has recorded exactly the messages of its kind, in the order in which they were
dispatched. -/
lemma heard_runEvent_of_ok (w : Standing stages respected s) (all : ∀ r, respected r) (ok : s.pass.1 = .ok ())
    {i : StageId} {m : Standard} (hm : stages[i]? = some m) {k : Kind} (records : m.records? = some k) :
    heardAt s.runEvent.2.slots i =
      heardAt s.slots i ++ (s.dispatched.map Entry.message).filter fun x => x.kind == k := by
  have hi : i ∈ s.order := w.perm.mem_iff.2 (List.mem_range.2 (List.getElem?_eq_some_iff.1 hm).1)
  obtain ⟨front, back, order⟩ := List.append_of_mem hi
  have nodup := w.nodup
  have known := w.known
  rw [order] at nodup known
  have once : i ∉ front ∧ i ∉ back := by
    obtain ⟨-, later, apart⟩ := List.nodup_append.1 nodup
    exact ⟨fun h => apart i h i (List.mem_cons_self ..) rfl, (List.nodup_cons.1 later).1⟩
  have pass : s.pass = s.start.runAll s.detectors s.nextEvent (front ++ i :: back) := by
    rw [Simulation.pass, order]
  rw [pass] at ok
  obtain ⟨before, T, after, split, rfl, recorded⟩ := w.course.heard_runAll w.bound known once hm records ok
  rw [← order] at split
  rw [s.runEvent_snd.1, pass, recorded]
  -- It recorded what was sent before its turn, and nothing of its kind is sent from then on.
  have rest := w.not_sent_after all split hm records
  have unsent : (((T :: after).flatMap Turn.sent).map Entry.message).filter (fun x => x.kind == k) = [] := by
    rw [List.filter_eq_nil_iff]
    intro x hx
    obtain ⟨e, he, rfl⟩ := List.mem_map.1 hx
    rw [beq_iff_eq]
    exact rest e he
  have whole : s.dispatched.map Entry.message =
      (before.flatMap Turn.sent).map Entry.message ++ ((T :: after).flatMap Turn.sent).map Entry.message := by
    rw [Simulation.dispatched, Simulation.turns, split, List.flatMap_append, List.map_append]
  rw [whole, List.filter_append, unsent, List.append_nil]
  rfl

/-- After an event that succeeded, and whatever is called then, a recorder has of the event exactly
the messages of its kind, in the order in which they were dispatched. -/
lemma ofEvent_recorder (w : Standing stages respected s) (all : ∀ r, respected r)
    (past : ∀ i, ∀ m ∈ heardAt s.slots i, m.event < s.nextEvent) (ok : s.pass.1 = .ok ())
    (later : List Simulation.Call) {i : StageId} {x : Slot Standard}
    (hx : (s.runEvent.2.replay later).slots[i]? = some x) {r : Recorder} (hr : x.stage = .recorder r) :
    r.ofEvent s.nextEvent = (s.dispatched.map Entry.message).filter fun m => m.kind == r.kind := by
  have w' := w.runEvent.replay later
  obtain ⟨m, hm, same⟩ := w'.slots.exists_stage hx
  have records : m.records? = some r.kind := by
    rw [← Standard.records?_congr same, hr]
    rfl
  have now : heardAt (s.runEvent.2.replay later).slots i = r.messages := by
    rw [heardAt, hx, Option.elim_some, hr]
    rfl
  have before : (heardAt s.slots i).filter (fun m => m.event == s.nextEvent) = [] := by
    rw [List.filter_eq_nil_iff]
    intro y hy
    rw [beq_iff_eq]
    exact ne_of_lt (past i y hy)
  have stamped : ∀ y ∈ (s.dispatched.map Entry.message).filter (fun m => m.kind == r.kind),
      (y.event == s.nextEvent) = true := by
    intro y hy
    obtain ⟨e, he, rfl⟩ := List.mem_map.1 (List.mem_of_mem_filter hy)
    rw [beq_iff_eq]
    rw [← w.store_pass] at he
    exact (w.takes.course w.course).stamped e he
  -- The event is over, so what was recorded of it is final.
  have ended : s.nextEvent < s.runEvent.2.nextEvent := by
    rw [Simulation.nextEvent_runEvent]
    exact Nat.lt_succ_self _
  rw [Recorder.ofEvent, ← now, w.runEvent.heard_replay ended, w.heard_runEvent_of_ok all ok hm records,
    List.filter_append, before, List.nil_append]
  exact List.filter_eq_self.2 stamped

end Standing

/-- Stages that have noted nothing yet have recorded nothing when they were set up. -/
lemma heardAt_eq_nil {p : Plan Standard} {slots : List (Slot Standard)} {stages : List Standard}
    (fresh : ∀ m ∈ p.members, m.stage.fresh = m.stage)
    (same : stages.map Standard.blank = p.members.map fun m => m.stage.blank)
    (whole : slots.map Slot.stage = stages) (i : StageId) : heardAt slots i = [] := by
  cases hx : slots[i]? with
  | none => rw [heardAt, hx, Option.elim_none]
  | some x =>
    have hs : x.stage.blank ∈ stages.map Standard.blank := by
      rw [← whole]
      exact List.mem_map_of_mem (List.mem_map_of_mem (List.mem_of_getElem? hx))
    rw [same] at hs
    obtain ⟨m, hm, eq⟩ := List.mem_map.1 hs
    rw [heardAt, hx, Option.elim_some, ← Standard.heard_blank, ← eq, Standard.heard_blank]
    exact Standard.heard_of_fresh (fresh m hm)

/-- In every event of a simulation, a stage that dispatches a message has its turn before every
other stage with a subscription to the message that is required, or that is optional when no notice
says that the optional dependencies were given up. None of these had its turn before. Without that
notice, a recorder has of an event that succeeded exactly the messages of its kind, in the order in
which they were dispatched. -/
theorem dispatched_before_subscribers (files : FileSystem) (p : Plan Standard) (s₀ : Simulation Standard)
    (fresh : ∀ m ∈ p.members, m.stage.fresh = m.stage) (accepted : Simulation.ofPlan files p = .ok s₀)
    (calls : List Simulation.Call) :
    (∀ before T after, (s₀.replay calls).turns = before ++ T :: after → ∀ e ∈ T.sent,
      ∀ t ∈ (s₀.replay calls).bus.subscriptions, t.stage ≠ T.stage → t.kind = e.message.kind →
        t.scope.covers e.message.detector → t.requirement = .required ∨ Notice.relaxed ∉ s₀.journal →
        Precedes (s₀.replay calls).order T.stage t.stage ∧ ∀ U ∈ before, U.stage ≠ t.stage) ∧
    (Notice.relaxed ∉ s₀.journal → (∃ metrics, (s₀.replay calls).runEvent.1 = .ok metrics) →
      ∀ later (i : StageId) (x : Slot Standard) (r : Recorder),
        ((s₀.replay calls).runEvent.2.replay later).slots[i]? = some x → x.stage = .recorder r →
        r.ofEvent (s₀.replay calls).nextEvent =
          ((s₀.replay calls).dispatched.map Entry.message).filter fun m => m.kind == r.kind) := by
  obtain ⟨stages, same, whole, standing, -, -, -⟩ := standing_of_ofPlan accepted
  have w := standing.replay calls
  refine ⟨fun before T after split e he t ht other kind scope hr => ?_, fun unsaid ok later i x r hx hr => ?_⟩
  · exact w.precedes split he ht other kind scope hr
  · have silent : ∀ i, ∀ m ∈ heardAt s₀.slots i, m.event < s₀.nextEvent := by
      intro i m hm
      rw [heardAt_eq_nil fresh same whole] at hm
      exact absurd hm List.not_mem_nil
    have past := standing.heard_lt_replay silent calls
    exact w.ofEvent_recorder (fun _ => .inr unsaid) past ((s₀.replay calls).runEvent_eq_ok_iff.1 ok) later hx hr

/-- A recorder of deposits and a stage that requires them, in front of one that gives them. -/
def tappedChain : Plan Standard where
  detectors := []
  members :=
    [⟨.recorder { kind := .deposited }, default⟩,
      ⟨.relay { name := "sink", takes := [(.deposited, .required)] }, default⟩,
      ⟨.relay { name := "source", gives := [.deposited] }, default⟩]

/-- In the chain the last stage has its turn first, and its message is dispatched before the others
come. -/
theorem dispatched_before_subscribers_tappedChain :
    (∀ m ∈ tappedChain.members, m.stage.fresh = m.stage) ∧
    ∃ s₀, Simulation.ofPlan .empty tappedChain = .ok s₀ ∧ Notice.relaxed ∉ s₀.journal ∧
      s₀.turns.map (fun T => (T.stage, T.sent.length)) = [(2, 1), (0, 0), (1, 0)] ∧
      ∀ calls,
        (∀ before T after, (s₀.replay calls).turns = before ++ T :: after → ∀ e ∈ T.sent,
          ∀ t ∈ (s₀.replay calls).bus.subscriptions, t.stage ≠ T.stage → t.kind = e.message.kind →
            t.scope.covers e.message.detector → t.requirement = .required ∨ Notice.relaxed ∉ s₀.journal →
            Precedes (s₀.replay calls).order T.stage t.stage ∧ ∀ U ∈ before, U.stage ≠ t.stage) ∧
        (Notice.relaxed ∉ s₀.journal → (∃ metrics, (s₀.replay calls).runEvent.1 = .ok metrics) →
          ∀ later (i : StageId) (x : Slot Standard) (r : Recorder),
            ((s₀.replay calls).runEvent.2.replay later).slots[i]? = some x → x.stage = .recorder r →
            r.ofEvent (s₀.replay calls).nextEvent =
              ((s₀.replay calls).dispatched.map Entry.message).filter fun m => m.kind == r.kind) := by
  have fresh : ∀ m ∈ tappedChain.members, m.stage.fresh = m.stage := by
    simp [tappedChain, Standard.fresh]
  have run : (Simulation.ofPlan .empty tappedChain).toOption.map (fun s =>
      (s.journal.length, s.turns.map fun T => (T.stage, T.sent.length))) =
        some (0, [(2, 1), (0, 0), (1, 0)]) := by
    decide +kernel
  obtain ⟨s₀, accepted, shown⟩ := toOption_map_eq_some_iff.1 run
  obtain ⟨journal, turns⟩ := Prod.mk.inj shown
  refine ⟨fresh, s₀, accepted, ?_, turns, ?_⟩
  · rw [List.eq_nil_of_length_eq_zero journal]
    exact List.not_mem_nil
  · exact dispatched_before_subscribers .empty tappedChain s₀ fresh accepted

end SensorSim.Run
