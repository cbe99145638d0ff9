import Mathlib
import SensorSim.Proofs.Run.Pass
import SensorSim.Proofs.Order.Schedule

/-!
# Feasible events

Whether an event succeeds can be said of the stages alone. An event is `Feasible` when no stage was
told to fail in it, no two of the messages to be given clash, and what a stage requires another one
gives. In an order that respects what is required, all stages work in turn exactly when the event is
feasible (`through_iff_feasible`). How the stages are numbered does not matter to it
(`Feasible.perm_iff`).
-/

namespace SensorSim.Run

open Bus (StageId Entry Free Kind Scope Requirement)
open Stage (Standard)
open SensorSim.Order (Topological Supplies)

/-- The kinds of message that a stage gives, each with the scope of the stage. -/
def offers (s : Standard) : List (Kind × Scope) :=
  s.gives.map fun k => (k, s.ownScope)

/-- Stages can go through an event together. -/
structure Feasible (stages : List Standard) (event : Nat) : Prop where
  silent : ∀ s ∈ stages, ∀ e, (event, e) ∉ s.failures
  exclusive : (stages.flatMap offers).Pairwise fun x y => ¬ (x.1 = y.1 ∧ x.2.overlaps y.2)
  served : ∀ (c : StageId) (s : Standard) (k : Kind), stages[c]? = some s → (k, .required) ∈ s.takes →
    ∃ (p : StageId) (t : Standard), p ≠ c ∧ stages[p]? = some t ∧ k ∈ t.gives ∧ t.ownScope.overlaps s.ownScope

/-- A stage requires a kind of message that another one gives in an overlapping scope. -/
def Needs (stages : List Standard) (producer consumer : StageId) : Prop :=
  producer ≠ consumer ∧ ∃ t s k, stages[producer]? = some t ∧ stages[consumer]? = some s ∧ k ∈ t.gives ∧
    (k, Requirement.required) ∈ s.takes ∧ t.ownScope.overlaps s.ownScope

/-- Where a bus holds what stages declare, what a stage needs is what is supplied to it. -/
lemma needs_iff_supplies {stages : List Standard} {b : Bus} (holds : Standard.HeldBy stages b) {u v : StageId} :
    Needs stages u v ↔ Supplies b .required u v := by
  refine ⟨?_, ?_⟩
  · intro h
    obtain ⟨ne, t, s, k, ht, hs, hg, hr, scopes⟩ := h
    have published : (⟨u, k, t.ownScope⟩ : Bus.Publication) ∈ b.publications :=
      (holds.publications _).2 (Standard.mem_declared.2 ⟨u, t, ht, List.mem_map.2 ⟨k, hg, rfl⟩⟩)
    obtain ⟨c, hc, key, strict⟩ := (holds.exists_required_iff fun x => x = (v, k, s.ownScope)).2
      ⟨⟨v, k, s.ownScope, .required⟩,
        Standard.mem_declared.2 ⟨v, s, hs, List.mem_map.2 ⟨(k, .required), hr, rfl⟩⟩, rfl, rfl⟩
    obtain ⟨stage, kind, scope⟩ : c.stage = v ∧ c.kind = k ∧ c.scope = s.ownScope := by
      simpa [Bus.Subscription.key] using key
    exact ⟨ne, _, published, c, hc, rfl, stage, strict, kind.symm, by rw [scope]; exact scopes⟩
  · intro h
    obtain ⟨ne, p, hp, c, hc, rfl, rfl, strict, kind, scopes⟩ := h
    obtain ⟨u, t, ht, published⟩ := Standard.mem_declared.1 ((holds.publications p).1 hp)
    obtain ⟨k, hg, rfl⟩ := List.mem_map.1 published
    obtain ⟨c', hc', key, strict'⟩ := (holds.exists_required_iff fun x => x = c.key).1 ⟨c, hc, rfl, strict⟩
    obtain ⟨v, s, hs, subscribed⟩ := Standard.mem_declared.1 hc'
    obtain ⟨⟨l, r⟩, hr, rfl⟩ := List.mem_map.1 subscribed
    obtain ⟨stage, kind', scope⟩ : v = c.stage ∧ l = c.kind ∧ s.ownScope = c.scope := by
      simpa [Bus.Subscription.key] using key
    obtain rfl : r = .required := strict'
    rw [← kind'] at kind
    rw [← scope] at scopes
    rw [← stage] at ne ⊢
    exact ⟨ne, t, s, l, ht, hs, kind ▸ hg, hr, scopes⟩

/-! ## Messages sent so far -/

section

variable {stages : List Standard} {event : Nat}

/-- The messages that the stage of a number sends in an event. -/
def sentBy (stages : List Standard) (event : Nat) (i : StageId) : List Entry :=
  stages[i]?.elim [] fun s => s.sent i event

/-- What the stage in a place sends. -/
lemma sentBy_eq {i : StageId} {s : Standard} (hs : stages[i]? = some s) :
    sentBy stages event i = s.sent i event := by
  rw [sentBy, hs, Option.elim_some]

/-- What was sent of a kind was sent by a stage that gives it, for the detector of the stage. -/
lemma exists_sentBy_iff {done : List StageId} {P : Kind → Option String → Prop} :
    (∃ e ∈ done.flatMap (sentBy stages event), P e.message.kind e.message.detector) ↔
      ∃ p ∈ done, ∃ t k, stages[p]? = some t ∧ k ∈ t.gives ∧ P k (Stage.detector? t) := by
  simp only [List.mem_flatMap]
  refine ⟨?_, ?_⟩
  · intro given
    obtain ⟨e, ⟨p, hp, he⟩, h⟩ := given
    cases ht : stages[p]? with
    | none => simp [sentBy, ht] at he
    | some t =>
      rw [sentBy_eq ht, Standard.sent, List.mem_map] at he
      obtain ⟨k, hk, rfl⟩ := he
      refine ⟨p, hp, t, k, ht, hk, ?_⟩
      rwa [Bus.Message.kind, Bus.Records.kind_none] at h
  · intro given
    obtain ⟨p, hp, t, k, ht, hk, h⟩ := given
    refine ⟨⟨p, { records := .none k, detector := Stage.detector? t, event }⟩, ⟨p, hp, ?_⟩, ?_⟩
    · rw [sentBy_eq ht]
      exact List.mem_map.2 ⟨k, hk, rfl⟩
    · rwa [Bus.Message.kind, Bus.Records.kind_none]

/-- All stages work in turn exactly when none was told to fail, no two messages clash, and
everything required is stored by the time it is taken. -/
lemma through_iff {order : List StageId} (known : ∀ i ∈ order, i < stages.length) {store : List Entry}
    (free : Free store) :
    Through stages event store order ↔
      (∀ i ∈ order, ∀ s, stages[i]? = some s → ∀ e, (event, e) ∉ s.failures) ∧
      Free (store ++ order.flatMap (sentBy stages event)) ∧
      ∀ before i after, order = before ++ i :: after → ∀ s, stages[i]? = some s →
        ∀ k, (k, .required) ∈ s.takes → ∃ e ∈ store ++ before.flatMap (sentBy stages event),
          e.message.kind = k ∧ (Scope.own e.message.detector).overlaps s.ownScope := by
  induction order generalizing store with
  | nil => simp [Through, free]
  | cons i rest ih =>
    obtain ⟨s, hs⟩ : ∃ s, stages[i]? = some s :=
      ⟨_, List.getElem?_eq_getElem (known i (List.mem_cons_self ..))⟩
    have only : ∀ {P : Standard → Prop}, (∀ s', stages[i]? = some s' → P s') ↔ P s := by
      simp [hs]
    have known' : ∀ j ∈ rest, j < stages.length := fun j hj => known j (List.mem_cons_of_mem _ hj)
    rw [Through, only, List.forall_mem_cons, only, List.flatMap_cons, sentBy_eq hs, ← List.append_assoc]
    refine ⟨?_, ?_⟩
    · intro given
      obtain ⟨works, h⟩ := given
      obtain ⟨silent, free', served⟩ := (ih known' works.free).1 h
      refine ⟨⟨works.silent, silent⟩, free', fun before j after split => ?_⟩
      -- The first stage takes what was stored before; for a later one the first has sent.
      cases before with
      | nil =>
        obtain ⟨rfl, rfl⟩ := List.cons.inj split
        rw [only, List.flatMap_nil, List.append_nil]
        exact works.served
      | cons b before =>
        obtain ⟨rfl, rest_eq⟩ := List.cons.inj split
        rw [List.flatMap_cons, sentBy_eq hs, ← List.append_assoc]
        exact served before j after rest_eq
    · intro given
      obtain ⟨⟨silent, silents⟩, free', served⟩ := given
      have free'' := (List.pairwise_append.1 free').1
      refine ⟨⟨silent, ?_, free''⟩, (ih known' free'').2 ⟨silents, free', fun before j after split => ?_⟩⟩
      · have first := served [] i rest rfl
        rwa [only, List.flatMap_nil, List.append_nil] at first
      · have later := served (i :: before) j after (by rw [split, List.cons_append])
        rwa [List.flatMap_cons, sentBy_eq hs, ← List.append_assoc] at later

/-- Whatever is read off the messages of a stage, all that is sent in an order of the stages is what
is read off the stages one by one, up to the order. -/
lemma perm_flatMap_sentBy {β : Type} {read : Entry → β} {given : Standard → List β}
    (each : ∀ (s : Standard) (i : StageId), (s.sent i event).map read = given s) {order : List StageId}
    (perm : order.Perm (List.range stages.length)) :
    ((order.flatMap (sentBy stages event)).map read).Perm (stages.flatMap given) := by
  have numbered : ∀ l : List Standard,
      (List.range l.length).flatMap (fun i => l[i]?.elim [] given) = l.flatMap given := by
    intro l
    induction l with
    | nil => rfl
    | cons s rest ih =>
      rw [List.length_cons, List.range_succ_eq_map, List.flatMap_cons, List.flatMap_map, List.flatMap_cons]
      simpa using ih
  rw [List.map_flatMap, ← numbered]
  refine (perm.flatMap_right _).trans (.of_eq ?_)
  congr 1
  funext i
  cases h : stages[i]? with
  | none => simp [sentBy, h]
  | some s => rw [sentBy_eq h, each, Option.elim_some]

/-- The messages of all stages do not clash exactly when no two offers do, whatever the order of the
stages. -/
lemma free_iff_exclusive {order : List StageId} (perm : order.Perm (List.range stages.length)) :
    Free (order.flatMap (sentBy stages event)) ↔
      (stages.flatMap offers).Pairwise fun x y => ¬ (x.1 = y.1 ∧ x.2.overlaps y.2) := by
  -- A message is seen as the kind and the scope that it is for.
  let offer (e : Entry) : Kind × Scope := (e.message.kind, .own e.message.detector)
  have sent : ∀ (s : Standard) (i : StageId), (s.sent i event).map offer = offers s := by
    intro s i
    simp [Standard.sent, offers, offer, Bus.Message.kind, Bus.Records.kind_none, Standard.ownScope]
  have all := perm_flatMap_sentBy sent perm
  have symm : ∀ {x y : Kind × Scope}, ¬ (x.1 = y.1 ∧ x.2.overlaps y.2) → ¬ (y.1 = x.1 ∧ y.2.overlaps x.2) := by
    intro x y h
    rwa [eq_comm, Scope.overlaps_comm]
  rw [← all.pairwise_iff symm, List.pairwise_map, Free]
  simp only [Bus.Message.clashes_iff, offer]

/-- In an order that respects what stages need, all stages work in turn exactly when the event is
feasible. -/
lemma through_iff_feasible {order : List StageId} (top : Topological stages.length (Needs stages) order) :
    Through stages event [] order ↔ Feasible stages event := by
  have numbered : ∀ i s, stages[i]? = some s → i ∈ order := by
    intro i s hs
    exact top.mem_iff.2 (List.getElem?_eq_some_iff.1 hs).1
  rw [through_iff (fun i hi => top.mem_iff.1 hi) List.Pairwise.nil, List.nil_append,
    free_iff_exclusive top.perm]
  refine ⟨?_, ?_⟩
  · intro h
    obtain ⟨silent, exclusive, served⟩ := h
    refine ⟨fun s hm => ?_, exclusive, fun c s k hs hk => ?_⟩
    · obtain ⟨i, hs⟩ := List.mem_iff_getElem?.1 hm
      exact silent i (numbered i s hs) s hs
    · obtain ⟨before, after, split⟩ := List.append_of_mem (numbered c s hs)
      obtain ⟨p, hp, t, k', ht, hg, rfl, scopes⟩ := (exists_sentBy_iff
        (P := fun k' d => k' = k ∧ (Scope.own d).overlaps s.ownScope)).1 (served before c after split s hs k hk)
      -- What was sent before a stage was sent by another one: a stage does not serve itself.
      refine ⟨p, t, ?_, ht, hg, scopes⟩
      rintro rfl
      have nodup := top.nodup
      rw [split] at nodup
      exact (List.nodup_append.1 nodup).2.2 p hp p (List.mem_cons_self ..) rfl
  · intro h
    obtain ⟨silent, exclusive, served⟩ := h
    refine ⟨fun i _ s hs => silent s (List.mem_of_getElem? hs), exclusive, ?_⟩
    rintro before c after split s hs k hk
    obtain ⟨p, t, ne, ht, hg, scopes⟩ := served c s k hs hk
    refine (exists_sentBy_iff (P := fun k' d => k' = k ∧ (Scope.own d).overlaps s.ownScope)).2
      ⟨p, ?_, t, k, ht, hg, rfl, scopes⟩
    -- The order puts the stage that gives it in front.
    have pre := top.respects p c ⟨ne, t, s, k, ht, hs, hg, hk, scopes⟩
    have nodup := top.nodup
    rw [split] at pre nodup
    exact pre.mem_of_split nodup

/-! ## Numbering -/

/-- What stands in another place of a list stands before or behind the one. -/
lemma exists_ne_getElem?_iff {α : Type} {before after : List α} {a b : α} :
    (∃ p, p ≠ before.length ∧ (before ++ a :: after)[p]? = some b) ↔ b ∈ before ++ after := by
  rw [List.mem_append]
  refine ⟨?_, ?_⟩
  · intro e
    obtain ⟨p, ne, h⟩ := e
    rcases lt_or_gt_of_ne ne with lt | gt
    · rw [List.getElem?_append_left lt] at h
      exact .inl (List.mem_of_getElem? h)
    · obtain ⟨d, rfl⟩ := Nat.exists_eq_add_of_lt gt
      rw [List.getElem?_append_right (by omega), show before.length + d + 1 - before.length = d + 1 by omega,
        List.getElem?_cons_succ] at h
      exact .inr (List.mem_of_getElem? h)
  · intro e
    rcases e with h | h
    · obtain ⟨p, hp⟩ := List.mem_iff_getElem?.1 h
      have lt := (List.getElem?_eq_some_iff.1 hp).1
      exact ⟨p, by omega, by rwa [List.getElem?_append_left lt]⟩
    · obtain ⟨p, hp⟩ := List.mem_iff_getElem?.1 h
      refine ⟨before.length + (p + 1), by omega, ?_⟩
      rwa [List.getElem?_append_right (by omega), Nat.add_sub_cancel_left, List.getElem?_cons_succ]

/-- That what is required is given by another stage can be said without numbers. -/
lemma served_iff {stages : List Standard} :
    (∀ (c : StageId) (s : Standard) (k : Kind), stages[c]? = some s → (k, Requirement.required) ∈ s.takes →
      ∃ (p : StageId) (t : Standard), p ≠ c ∧ stages[p]? = some t ∧ k ∈ t.gives ∧
        t.ownScope.overlaps s.ownScope) ↔
    ∀ before s after, stages = before ++ s :: after → ∀ k, (k, Requirement.required) ∈ s.takes →
      ∃ t ∈ before ++ after, k ∈ t.gives ∧ t.ownScope.overlaps s.ownScope := by
  refine ⟨?_, ?_⟩
  · rintro h before s after rfl k hk
    obtain ⟨p, t, ne, ht, hg⟩ := h before.length s k (by simp) hk
    exact ⟨t, exists_ne_getElem?_iff.1 ⟨p, ne, ht⟩, hg⟩
  · intro h c s k hs hk
    obtain ⟨hc, rfl⟩ := List.getElem?_eq_some_iff.1 hs
    have split : stages = stages.take c ++ stages[c] :: stages.drop (c + 1) := by simp
    obtain ⟨t, ht, hg⟩ := h _ _ _ split k hk
    obtain ⟨p, ne, hp⟩ := exists_ne_getElem?_iff (a := stages[c]).2 ht
    rw [← split] at hp
    refine ⟨p, t, ?_, hp, hg⟩
    rwa [List.length_take, min_eq_left hc.le] at ne

/-- Whether stages can go through an event is not a matter of their order. -/
lemma Feasible.perm {stages stages' : List Standard} (h : Feasible stages event) (perm : stages.Perm stages') :
    Feasible stages' event where
  silent s hs := h.silent s (perm.mem_iff.2 hs)
  exclusive := by
    refine ((perm.flatMap_right offers).pairwise_iff ?_).1 h.exclusive
    intro x y apart
    rwa [eq_comm, Scope.overlaps_comm]
  served := by
    refine served_iff.2 fun before s after split k hk => ?_
    obtain ⟨before', after', split'⟩ := List.append_of_mem (perm.mem_iff.2 (by rw [split]; simp : s ∈ stages'))
    obtain ⟨t, ht, hg⟩ := served_iff.1 h.served before' s after' split' k hk
    rw [split, split'] at perm
    have others := (List.perm_middle.symm.trans (perm.trans List.perm_middle)).cons_inv
    exact ⟨t, others.mem_iff.1 ht, hg⟩

/-- Whether an event is feasible does not depend on the order of the stages. -/
lemma Feasible.perm_iff {stages stages' : List Standard} (perm : stages.Perm stages') :
    Feasible stages event ↔ Feasible stages' event :=
  ⟨fun h => h.perm perm, fun h => h.perm perm.symm⟩

end

end SensorSim.Run
