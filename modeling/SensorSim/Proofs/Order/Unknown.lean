import Mathlib
import SensorSim.Proofs.Order.Schedule

/-!
# Stages that are not known

For every subscription a schedule looks at the stage that declared it and at the stages whose
publications serve it, and it stops at the first of these that is not known (`addAll_snd`). So an
unknown stage is named whenever it subscribed to something or serves a subscription
(`schedule_eq_unknownStage_iff`). A publication that serves no subscription is never looked at, and
the stage that declared it may be any (`not_forall_schedule_eq_unknownStage`).
-/

namespace SensorSim.Order

open Bus

/-- The stages that are looked at for a subscription: its own, then those that serve it. -/
def lookedUp (publications : List Publication) (s : Subscription) : List StageId :=
  s.stage :: (publications.filter fun p => serves p s).map Publication.stage

/-- The stages that a schedule looks at, in order. -/
def consulted (b : Bus) : List StageId :=
  b.subscriptions.flatMap (lookedUp b.publications)

/-- Every subscriber is looked at, and every publisher of what a subscription takes. -/
lemma mem_consulted {b : Bus} {stage : StageId} : stage ∈ consulted b ↔
    (∃ s ∈ b.subscriptions, s.stage = stage) ∨
      ∃ p ∈ b.publications, p.stage = stage ∧ ∃ s ∈ b.subscriptions, p.kind = s.kind ∧ p.scope.overlaps s.scope := by
  simp only [consulted, lookedUp, List.mem_flatMap, List.mem_cons, List.mem_map, List.mem_filter, serves_iff]
  refine ⟨?_, ?_⟩
  · intro h
    obtain ⟨s, hs, rfl | ⟨p, ⟨hp, hk, ho⟩, rfl⟩⟩ := h
    · exact .inl ⟨s, hs, rfl⟩
    · exact .inr ⟨p, hp, rfl, s, hs, hk, ho⟩
  · intro h
    rcases h with ⟨s, hs, rfl⟩ | ⟨p, hp, rfl, s, hs, hk, ho⟩
    · exact ⟨s, hs, .inl rfl⟩
    · exact ⟨s, hs, .inr ⟨p, ⟨hp, hk, ho⟩, rfl⟩⟩

namespace Dependencies

/-- A subscription is added unless one of the stages that are looked at for it is unknown, and the
first such stage is named. -/
lemma add_cases (count : Nat) (publications : List Publication) (d : Dependencies) (s : Subscription) :
    (∃ stage, (lookedUp publications s).find? (fun m => count ≤ m) = some stage ∧
      d.add count publications s = .error (.unknownStage stage)) ∨
    (lookedUp publications s).find? (fun m => count ≤ m) = none ∧ ∃ d', d.add count publications s = .ok d' := by
  unfold add lookedUp
  by_cases own : count ≤ s.stage
  · rw [List.find?_cons_of_pos (by simpa using own), if_pos own]
    exact .inl ⟨s.stage, rfl, rfl⟩
  · rw [List.find?_cons_of_neg (by simpa using own), if_neg own]
    generalize (publications.filter fun p => serves p s).map Publication.stage = producers
    cases found : producers.find? fun p => count ≤ p with
    | some p => exact .inl ⟨p, rfl, by simp only [found]⟩
    | none =>
      refine .inr ⟨rfl, ?_⟩
      simp only [found]
      exact ⟨_, rfl⟩

/-- Subscriptions are added up to the first unknown stage that is looked at. -/
lemma addAll_snd (count : Nat) (publications : List Publication) (subscriptions : List Subscription)
    (d : Dependencies) :
    (addAll count publications subscriptions d).2 =
      ((subscriptions.flatMap (lookedUp publications)).find? fun m => count ≤ m).map .unknownStage := by
  induction subscriptions generalizing d with
  | nil => rfl
  | cons s rest ih =>
    rw [List.flatMap_cons, List.find?_append]
    rcases add_cases count publications d s with
      ⟨stage, found, failed⟩ | ⟨unfound, d', added⟩
    · simp only [addAll, failed, found, Option.some_or, Option.map_some]
    · simp only [addAll, added, unfound, Option.none_or]
      exact ih d'

end Dependencies

/-- A schedule names an unknown stage exactly when it comes upon one, and then the first. -/
lemma schedule_eq_unknownStage {count : Nat} {b : Bus} {stage : StageId} :
    (schedule count b).stages = .error (.unknownStage stage) ↔
      (consulted b).find? (fun m => count ≤ m) = some stage := by
  have fault := Dependencies.addAll_snd count b.publications b.subscriptions {}
  unfold schedule
  generalize Dependencies.addAll count b.publications b.subscriptions {} = collected at fault ⊢
  obtain ⟨d, e⟩ := collected
  obtain rfl : e = ((consulted b).find? fun m => count ≤ m).map .unknownStage := fault
  cases (consulted b).find? fun m => count ≤ m with
  | some first => simp
  | none =>
    -- Without an unknown stage a schedule is found, or a cycle is named.
    simp only [Option.map_none]
    cases Graph.order ⟨count, d.required ++ d.optional⟩ with
    | ok stages => simp
    | error _ => cases Graph.order ⟨count, d.required⟩ <;> simp

/-- A schedule fails for an unknown stage exactly when one declared a subscription, or a publication
that serves a subscription. It names one of these stages, and of those that it comes upon the
first. -/
theorem schedule_eq_unknownStage_iff (count : Nat) (b : Bus) :
    ((∃ stage, (schedule count b).stages = .error (.unknownStage stage)) ↔
      (∃ s ∈ b.subscriptions, count ≤ s.stage) ∨
        ∃ p ∈ b.publications, count ≤ p.stage ∧ ∃ s ∈ b.subscriptions, p.kind = s.kind ∧ p.scope.overlaps s.scope) ∧
    (∀ stage, (schedule count b).stages = .error (.unknownStage stage) → count ≤ stage ∧
      ((∃ s ∈ b.subscriptions, s.stage = stage) ∨
        ∃ p ∈ b.publications, p.stage = stage ∧ ∃ s ∈ b.subscriptions, p.kind = s.kind ∧ p.scope.overlaps s.scope)) ∧
    ∀ stage, (schedule count b).stages = .error (.unknownStage stage) ↔
      ∃ before after, consulted b = before ++ stage :: after ∧ (∀ m ∈ before, m < count) ∧ count ≤ stage := by
  simp only [schedule_eq_unknownStage]
  refine ⟨?_, fun stage found => ?_, fun stage => ?_⟩
  · rw [← Option.isSome_iff_exists, List.find?_isSome]
    simp only [mem_consulted, decide_eq_true_eq]
    refine ⟨?_, ?_⟩
    · intro h
      obtain ⟨stage, ⟨s, hs, rfl⟩ | ⟨p, hp, rfl, served⟩, unknown⟩ := h
      · exact .inl ⟨s, hs, unknown⟩
      · exact .inr ⟨p, hp, unknown, served⟩
    · intro h
      rcases h with ⟨s, hs, unknown⟩ | ⟨p, hp, unknown, served⟩
      · exact ⟨s.stage, .inl ⟨s, hs, rfl⟩, unknown⟩
      · exact ⟨p.stage, .inr ⟨p, hp, rfl, served⟩, unknown⟩
  · exact ⟨by simpa using List.find?_some found, mem_consulted.1 (List.mem_of_find?_eq_some found)⟩
  · rw [List.find?_eq_some_iff_append]
    simp only [decide_eq_true_eq, Bool.not_eq_true', decide_eq_false_iff_not, Nat.not_le]
    refine ⟨?_, ?_⟩
    · intro h
      obtain ⟨unknown, before, after, eq, known⟩ := h
      exact ⟨before, after, eq, known, unknown⟩
    · intro h
      obtain ⟨before, after, eq, known, unknown⟩ := h
      exact ⟨unknown, before, after, eq, known⟩

/-- A publication of a stage that is not there, which nobody subscribed to. -/
def stray : Bus where
  publications := [⟨7, .pixel, .detector "a"⟩]

/-- Not every declaration of an unknown stage is refused. -/
theorem not_forall_schedule_eq_unknownStage :
    ¬ ∀ (count : Nat) (b : Bus),
      ((∃ stage, (schedule count b).stages = .error (.unknownStage stage)) ↔
        (∃ s ∈ b.subscriptions, count ≤ s.stage) ∨ ∃ p ∈ b.publications, count ≤ p.stage) ∧
      ∀ stage, (schedule count b).stages = .error (.unknownStage stage) → count ≤ stage ∧
        ((∃ s ∈ b.subscriptions, s.stage = stage) ∨ ∃ p ∈ b.publications, p.stage = stage) := by
  intro h
  have declared : ∃ p ∈ stray.publications, 1 ≤ p.stage := ⟨_, List.mem_singleton_self _, by decide⟩
  obtain ⟨stage, refused⟩ := (h 1 stray).1.2 (.inr declared)
  have scheduled : (schedule 1 stray).stages = .ok [0] := rfl
  rw [scheduled] at refused
  cases refused

end SensorSim.Order
