import Mathlib
import SensorSim.Proofs.Run.Visit
import SensorSim.Proofs.Stage.Seen

/-!
# What relays note of their calls

A relay notes the number of an event when it is visited in it. Over events in a row its notes
ascend, and they are the events in which all stages in front of it succeeded (`exists_noted`). With
what every event keeps of its visits this is `runEvent_visits`.
-/

namespace SensorSim

open Bus (StageId)
open Files (FileSystem)

namespace Stage

/-! ## One call -/

/-- A step that does the same whatever the stage is leaves it as it is. -/
lemma Stateless.stage_eq {Q : Type} {Reply : Q → Type} {μ σ α : Type} {handle : (q : Q) → σ → Reply q × σ}
    {x : Step Q Reply μ α} (h : Stateless handle x) (m : μ) (s : σ) : (exec handle m s x).1.2 = m :=
  congrArg (fun r => r.1.2) (h m m s)

/-- Relays are among the stages of a type: they are set up and run there as on their own. -/
structure Carries {μ : Type} [Stage μ] (wrap : Relay → μ) : Prop where
  setUp : ∀ ctx r, Stage.setUp ctx (wrap r) = Prod.map id wrap <$> Stage.setUp ctx r
  run : ∀ ctx r, Stage.run ctx (wrap r) = Prod.map id wrap <$> Stage.run ctx r

/-- Among the stages of the library, relays are carried as they are. -/
lemma carries_relay : Carries Standard.relay :=
  ⟨fun _ _ => rfl, fun _ _ => rfl⟩

section

variable {μ : Type} [Stage μ] {wrap : Relay → μ} (carries : Carries wrap) (r : Relay)
include carries

/-- The setup leaves a relay as it is. -/
lemma Carries.stage_setUp (i : StageId) (files : FileSystem) (ctx : SetupContext) (w : Workbench) :
    (Program.run (SetupQuestion.answer i files) (Stage.setUp ctx (wrap r)) w).1.2 = wrap r := by
  rw [carries.setUp, run_map]
  exact congrArg wrap (r.stateless_declare.stage_eq r w)

/-- A relay that runs notes the event, whatever comes of it. -/
lemma Carries.stage_run (i : StageId) (ctx : RunContext) (b : Bus) :
    (Program.run (RunQuestion.answer i) (Stage.run ctx (wrap r)) b).1.2 =
      wrap { r with ran := r.ran ++ [ctx.event] } := by
  rw [carries.run, run_map]
  exact congrArg wrap ((Relay.stateless_deliver { r with ran := r.ran ++ [ctx.event] } ctx).stage_eq _ b)

end

end Stage

namespace Run

open Stage (Relay Carries SetupQuestion Program)

variable {μ : Type} [Stage μ] {files : FileSystem} {p : Plan μ} {s t : Simulation μ}

/-! ## The start -/

/-- The setup of more stages keeps those that were set up. -/
lemma Site.done_setUpAll (files : FileSystem) (members : List (Member μ)) (site : Site μ) :
    site.done <+: (Site.setUpAll files members site).2.done := by
  have one : ∀ m (site : Site μ), site.done <+: (site.setUpStage files m).2.done := by
    intro m site
    unfold setUpStage
    dsimp only
    split
    · exact List.prefix_append _ _
    · split <;> exact List.prefix_append _ _
  induction members generalizing site with
  | nil => exact List.prefix_rfl
  | cons m rest ih =>
    have first := one m site
    rw [setUpAll]
    split
    · rename_i next run
      rw [run] at first
      exact first.trans (ih next)
    · rename_i run
      rw [run] at first
      exact first

namespace Simulation

/-- In a simulation each stage stands in its place as its setup left it. -/
lemma exists_slot_of_ofPlan (accepted : ofPlan files p = .ok s) {i : StageId} {m : Member μ}
    (hm : p.members[i]? = some m) :
    ∃ site : Site μ, (s.slots[i]?).map Slot.stage = some (site.attempt files m).1.2 := by
  obtain ⟨final, order, all, -, rfl⟩ := exists_site_of_ofPlan accepted
  obtain ⟨hi, rfl⟩ := List.getElem?_eq_some_iff.1 hm
  -- The setup is that of the stages in front, that of this one, and that of the rest.
  have parts : p.members = p.members.take i ++ p.members[i] :: p.members.drop (i + 1) := by
    rw [← List.drop_eq_getElem_cons hi, List.take_append_drop]
  rw [parts, Site.setUpAll_append] at all
  split at all
  · rename_i site front
    have reached : p.Reaches files i p.members[i] site := ⟨hm, front⟩
    obtain ⟨count, there, -⟩ := reached.setUpStage_eq (validate_of_ofPlan accepted)
    have rest := Site.done_setUpAll files (p.members.drop (i + 1)) (site.setUpStage files p.members[i]).2
    rcases run : site.attempt files p.members[i] with ⟨⟨outcome, stage⟩, bench⟩
    rw [Site.setUpAll, setUpStage_eq there run] at all
    rw [setUpStage_eq there run] at rest
    cases outcome with
    | error cause => cases all
    | ok done =>
      replace all : Site.setUpAll files (p.members.drop (i + 1)) _ = (.ok (), final) := all
      rw [all] at rest
      obtain ⟨others, split⟩ := rest
      refine ⟨site, ?_⟩
      rw [← split, List.append_assoc, List.getElem?_append_right (Nat.le_of_eq count), count, Nat.sub_self, run]
      rfl
  · cases all

/-- The first event has the number one. -/
lemma nextEvent_of_ofPlan (accepted : ofPlan files p = .ok s) : s.nextEvent = 1 := by
  obtain ⟨site, order, -, -, rfl⟩ := exists_site_of_ofPlan accepted
  rfl

/-! ## Events in a row -/

/-- The events of a simulation are numbered from one. -/
lemma nextEvent_after_of_ofPlan (accepted : ofPlan files p = .ok s) (k : Nat) : (s.after k).nextEvent = k + 1 := by
  rw [nextEvent_after, nextEvent_of_ofPlan accepted, Nat.add_comm]

/-- The last of some events comes after the others. -/
lemma after_succ_eq (s : Simulation μ) (k : Nat) : s.after (k + 1) = (s.after k).runEvent.2 := by
  rw [after, replay, List.replicate_succ', List.foldl_append]
  rfl

/-- Some events and then more of them are that many events in a row. -/
lemma after_add (s : Simulation μ) (j k : Nat) : s.after (j + k) = (s.after j).after k := by
  rw [after, replay, List.replicate_add, List.foldl_append]
  rfl

/-- Events leave a simulation open, or closed. -/
lemma closed_after (s : Simulation μ) (k : Nat) : (s.after k).closed = s.closed := by
  induction k with
  | zero => rfl
  | succ k ih => rw [after_succ_eq, (runEvent_frame _).2, ih]

/-- A simulation that was closed is not closed again. -/
lemma close_of_closed (closed : s.closed = true) : s.close = (.ok (), s) := by
  rw [close, if_pos closed]

/-- Calls that close nothing, as none does where all is closed already, are events in a row. -/
lemma exists_after_of_replay (s : Simulation μ) (calls : List Call)
    (events : s.closed = true ∨ ∀ c ∈ calls, c ≠ .close) : ∃ k, s.replay calls = s.after k := by
  induction calls generalizing s with
  | nil => exact ⟨0, rfl⟩
  | cons c rest ih =>
    -- What was called so far is some events, and the rest are as well.
    have onward : ∀ j, s.apply c = s.after j → ∃ k, s.replay (c :: rest) = s.after k := by
      intro j first
      have events : (s.after j).closed = true ∨ ∀ c ∈ rest, c ≠ .close := by
        rw [closed_after]
        exact events.imp_right fun quiet => (List.forall_mem_cons.1 quiet).2
      obtain ⟨k, block⟩ := ih (s.after j) events
      refine ⟨j + k, ?_⟩
      show (s.apply c).replay rest = _
      rw [first, block, after_add]
    cases c with
    | runEvent => exact onward 1 rfl
    | run count =>
      obtain ⟨j, -, run⟩ := s.run_eq count
      exact onward j (by rw [apply, run])
    | close =>
      rcases events with closed | quiet
      · exact onward 0 (by rw [apply, close_of_closed closed]; rfl)
      · exact absurd rfl (List.forall_mem_cons.1 quiet).1

section

variable {wrap : Relay → μ} (carries : Carries wrap) {i : StageId}
include carries

/-- An event is noted by a relay whose turn comes, and others stay as they are. -/
lemma stage_runEvent {vs : List (Visit μ)} (h : t.Visits vs) (once : t.order.Nodup) {r : Relay}
    (here : (t.slots[i]?).map Slot.stage = some (wrap r)) :
    (t.ComesTo i ∧ (t.runEvent.2.slots[i]?).map Slot.stage = some (wrap { r with ran := r.ran ++ [t.nextEvent] })) ∨
    (¬ t.ComesTo i ∧ (t.runEvent.2.slots[i]?).map Slot.stage = some (wrap r)) := by
  obtain ⟨visited, still, turns⟩ := h.slots once
  by_cases comes : t.ComesTo i
  · obtain ⟨v, hv, rfl⟩ := List.mem_map.1 ((turns i).2 comes)
    obtain ⟨found, left⟩ := visited v hv
    rw [found, Option.map_some, Option.some.injEq] at here
    refine .inl ⟨comes, ?_⟩
    rw [left, Option.map_some, ← Pass.Visits.event_eq h v hv, Visit.left, Visit.result, Visit.program, here,
      carries.stage_run]
  · refine .inr ⟨comes, ?_⟩
    rw [still i (mt (turns i).1 comes), here]

/-- Over events in a row a relay notes those in which its turn comes, one after the other. -/
lemma exists_noted (accepted : ofPlan files p = .ok s) {r : Relay} {config : Config.Section}
    (member : p.members[i]? = some ⟨wrap r, config⟩) (fresh : r.ran = []) (k : Nat) :
    ∃ r', ((s.after k).slots[i]?).map Slot.stage = some (wrap r') ∧ r'.ran.Pairwise (· < ·) ∧
      ∀ n, n ∈ r'.ran ↔ ∃ j < k, n = j + 1 ∧ (s.after j).ComesTo i := by
  induction k with
  | zero =>
    obtain ⟨site, slot⟩ := exists_slot_of_ofPlan accepted member
    refine ⟨r, ?_, ?_, ?_⟩
    · rw [Site.attempt, carries.stage_setUp] at slot
      exact slot
    · rw [fresh]
      exact List.Pairwise.nil
    · simp [fresh]
  | succ k ih =>
    obtain ⟨r', slot, ascending, noted⟩ := ih
    obtain ⟨⟨vs, visits⟩, once⟩ : (∃ vs, (s.after k).Visits vs) ∧ (s.after k).order.Nodup := exists_visits accepted _
    have number := nextEvent_after_of_ofPlan accepted k
    -- The events in which the turn has come are those before the last event, and the last one if it
    -- came then.
    have last : ∀ n, (∃ j < k + 1, n = j + 1 ∧ (s.after j).ComesTo i) ↔
        n ∈ r'.ran ∨ (n = k + 1 ∧ (s.after k).ComesTo i) := by
      intro n
      rw [noted, Nat.exists_lt_succ_right]
    rw [after_succ_eq]
    rcases stage_runEvent carries visits once slot with ⟨comes, slot⟩ | ⟨stays, slot⟩
    · rw [number] at slot
      refine ⟨_, slot, ?_, fun n => ?_⟩
      · refine List.pairwise_append.2 ⟨ascending, List.pairwise_singleton .., fun n hn m hm => ?_⟩
        obtain ⟨j, hj, rfl, -⟩ := (noted n).1 hn
        rw [List.mem_singleton.1 hm]
        exact Nat.succ_lt_succ hj
      · rw [last, List.mem_append, List.mem_singleton, and_iff_left comes]
    · refine ⟨r', slot, ascending, fun n => ?_⟩
      rw [last, or_iff_left fun now => stays now.2]

end

/-- In every event of a simulation, whatever was called before it, stages are visited in the order,
none twice: all of them when the event succeeds, and else those up to the first that fails, which
the failure names with its detector and the number of the event. They are the stages in front of
which all succeed; they stand in their slots as their visits leave them, and the others as they
were. The metrics are the names of the stages visited and the number of messages that these
dispatched, however the event ends. So over events in a row the notes of a relay ascend, and of the
events so far it notes exactly those in which all stages in front of it succeed. -/
theorem runEvent_visits (files : FileSystem) (p : Plan μ) (s : Simulation μ) (accepted : ofPlan files p = .ok s) :
    (∀ calls t, s.replay calls = t → ∃ vs, t.Visits vs ∧
      (vs.map Visit.id).Nodup ∧ vs.map Visit.id <+: t.order ∧
      ((t.runEvent.1 = .ok t.runEvent.2.metrics ∧ vs.map Visit.id = t.order ∧ ∀ v ∈ vs, v.outcome = .ok ()) ∨
        ∃ front v cause, vs = front ++ [v] ∧ (∀ u ∈ front, u.outcome = .ok ()) ∧ v.outcome = .error cause ∧
          t.runEvent.1 = .error ⟨t.nextEvent, v.name, v.slot.detector, cause⟩) ∧
      t.runEvent.2.metrics = { stages := vs.map Visit.name, messages := (vs.map Visit.sent).sum } ∧
      (∀ v ∈ vs, t.slots[v.id]? = some v.slot ∧ t.runEvent.2.slots[v.id]? = some v.left) ∧
      (∀ i ∉ vs.map Visit.id, t.runEvent.2.slots[i]? = t.slots[i]?) ∧
      ∀ i, i ∈ vs.map Visit.id ↔ t.ComesTo i) ∧
    ∀ wrap : Relay → μ, Carries wrap → ∀ i r config, p.members[i]? = some ⟨wrap r, config⟩ → r.ran = [] →
      ∀ calls, (∀ c ∈ calls, c ≠ .close) → ∃ r', ((s.replay calls).slots[i]?).map Slot.stage = some (wrap r') ∧
        r'.ran.Pairwise (· < ·) ∧
        (∀ n ∈ r'.ran, 0 < n ∧ n < (s.replay calls).nextEvent) ∧
        ∀ j, (s.after j).nextEvent < (s.replay calls).nextEvent →
          ((s.after j).nextEvent ∈ r'.ran ↔ (s.after j).ComesTo i) := by
  refine ⟨?_, fun wrap carries i r config member fresh calls events => ?_⟩
  · rintro calls t rfl
    obtain ⟨⟨vs, visits⟩, once⟩ := exists_visits accepted calls
    obtain ⟨nodup, front, outcome, metrics⟩ := visits.runEvent once
    obtain ⟨visited, still, turns⟩ := visits.slots once
    exact ⟨vs, visits, nodup, front, outcome, metrics, visited, still, turns⟩
  · obtain ⟨k, block⟩ := exists_after_of_replay s calls (.inr events)
    obtain ⟨r', slot, ascending, noted⟩ := exists_noted carries accepted member fresh k
    have number := nextEvent_after_of_ofPlan accepted
    rw [block]
    refine ⟨r', slot, ascending, fun n hn => ?_, fun j hj => ?_⟩
    · obtain ⟨j, hj, rfl, -⟩ := (noted n).1 hn
      rw [number]
      exact ⟨Nat.succ_pos j, Nat.succ_lt_succ hj⟩
    · rw [number, number] at hj
      rw [number, noted]
      refine ⟨?_, fun comes => ⟨j, Nat.lt_of_succ_lt_succ hj, rfl, comes⟩⟩
      rintro ⟨j', -, same, comes⟩
      rwa [Nat.succ.inj same]

end Simulation

/-- A stage that gives deposits, one that makes something of them but fails in the first event, and
one that takes what that makes. -/
def gatedChain : Plan Stage.Standard where
  detectors := []
  members :=
    [⟨.relay { name := "source", gives := [.deposited] }, default⟩,
      ⟨.relay
        { name := "gate", takes := [(.deposited, .required)], gives := [.drifted],
          failures := [(1, .nonRecoverable "shut")] }, default⟩,
      ⟨.relay { name := "sink", takes := [(.drifted, .required)] }, default⟩]

/-- The first event does not get to the last stage, which notes only the second. -/
theorem runEvent_visits_gatedChain : ∃ s, Simulation.ofPlan .empty gatedChain = .ok s ∧
    (∃ vs, s.Visits vs ∧ vs.map Visit.name = ["source", "gate"] ∧ (vs.map Visit.sent).sum = 1) ∧
    ∃ r : Relay, ((s.replay [.runEvent, .run 1]).slots[2]?).map Slot.stage = some (.relay r) ∧
      1 ∉ r.ran ∧ 2 ∈ r.ran := by
  have runs : (Simulation.ofPlan .empty gatedChain).toOption.map (fun s =>
      (s.runEvent.2.metrics, (s.after 1).runEvent.1.isOk, s.order, (s.after 1).order,
        (s.replay [.runEvent, .run 1]).nextEvent)) =
      some ({ stages := ["source", "gate"], messages := 1 }, true, [0, 1, 2], [0, 1, 2], 3) := by
    decide +kernel
  obtain ⟨s, accepted, shown⟩ := toOption_map_eq_some_iff.1 runs
  simp only [Prod.mk.injEq] at shown
  obtain ⟨first, second, order, order', last⟩ := shown
  obtain ⟨events, notes⟩ := Simulation.runEvent_visits .empty gatedChain s accepted
  obtain ⟨vs, visits, -, front, -, metrics, -, -, turns⟩ := events [] s rfl
  obtain ⟨vs', -, -, -, outcome, -, -, -, turns'⟩ := events [.runEvent] (s.after 1) rfl
  obtain ⟨r, slot, -, -, noted⟩ := notes .relay Stage.carries_relay 2 _ _ rfl rfl [.runEvent, .run 1] (by simp)
  simp only [Simulation.nextEvent_after_of_ofPlan accepted, last] at noted
  rw [first, EventMetrics.mk.injEq] at metrics
  obtain ⟨names, messages⟩ := metrics
  refine ⟨s, accepted, ⟨vs, visits, names.symm, messages.symm⟩, r, slot, ?_, ?_⟩
  · have count : (vs.map Visit.id).length = 2 := by
      rw [List.length_map, ← List.length_map Visit.name, ← names]
      rfl
    have stays : ¬ s.ComesTo 2 := by
      rw [← turns, List.prefix_iff_eq_take.1 front, count, order]
      decide
    exact mt (noted 0 (by decide)).1 stays
  · rcases outcome with ⟨-, all, -⟩ | ⟨u, v, cause, -, -, -, failed⟩
    · refine (noted 1 (by decide)).2 ((turns' 2).1 ?_)
      rw [all, order']
      decide
    · rw [failed] at second
      cases second

end Run

end SensorSim
