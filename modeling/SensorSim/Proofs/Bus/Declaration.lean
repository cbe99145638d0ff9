import Mathlib
import SensorSim.Proofs.Bus.Clash

/-!
# What the bus holds of the declarations made

Subscriptions that differ in the requirement alone are one, with the stricter requirement. `Holds`
relates a bus to the declarations that were made on it: every key that was declared is there once,
and it is required exactly when some declaration of it was. What a fetch does in each case is said
in `fetch_cases` and `fetchAll_cases`: it succeeds exactly when it is covered and what is required
is there (`exists_fetch_iff`, `exists_fetchAll_iff`).
-/

namespace SensorSim.Bus

/-- The stricter of two requirements is strict when one of them is. -/
lemma Requirement.strictest_eq_required_iff {r q : Requirement} :
    r.strictest q = .required ↔ r = .required ∨ q = .required := by
  cases r <;> simp [strictest]

/-- What distinguishes subscriptions: all but the requirement. -/
def Subscription.key (s : Subscription) : StageId × Kind × Scope :=
  (s.stage, s.kind, s.scope)

/-- Subscriptions are alike when they have the same key. -/
lemma Subscription.alike_iff {s t : Subscription} : s.alike t ↔ s.key = t.key := by
  simp [alike, key, and_assoc]

end SensorSim.Bus

namespace SensorSim

open Bus (Subscription Publication StageId Kind Scope Requirement Entry Message)

namespace Bus

/-! ## Merging -/

/-- Merging adds a key only when it is new. -/
lemma keys_merge (s : Subscription) (l : List Subscription) :
    (merge s l).map Subscription.key =
      if s.key ∈ l.map Subscription.key then l.map Subscription.key else l.map Subscription.key ++ [s.key] := by
  induction l with
  | nil => rfl
  | cons t l ih =>
    simp only [merge, Subscription.alike_iff]
    by_cases e : t.key = s.key
    · rw [if_pos e, if_pos (by simp [e])]
      rfl
    · rw [if_neg e, List.map_cons, ih, List.map_cons]
      by_cases hm : s.key ∈ l.map Subscription.key
      · rw [if_pos hm, if_pos (List.mem_cons_of_mem _ hm)]
      · rw [if_neg hm, if_neg (by simp only [List.mem_cons, hm, or_false]; exact fun h => e h.symm),
          List.cons_append]

/-- Merging keeps keys distinct. -/
lemma nodup_keys_merge (s : Subscription) {l : List Subscription} (distinct : (l.map Subscription.key).Nodup) :
    ((merge s l).map Subscription.key).Nodup := by
  rw [keys_merge]
  split
  · exact distinct
  · rename_i fresh
    rw [← List.concat_eq_append]
    exact distinct.concat fresh

/-- Merging gives a subscription that was there or the one that was merged. -/
lemma mem_of_mem_merge {s t : Subscription} {l : List Subscription} (h : t ∈ merge s l) : t ∈ l ∨ t = s := by
  induction l with
  | nil => exact .inr (List.mem_singleton.1 h)
  | cons u rest ih =>
    rw [merge] at h
    split at h
    · rename_i same
      rcases List.mem_cons.1 h with rfl | old
      · -- The stricter one of two subscriptions that are alike is one of them.
        cases hr : u.requirement with
        | required =>
          refine .inl (List.mem_cons.2 (.inl ?_))
          rw [Requirement.strictest, ← hr]
        | optional =>
          refine .inr ?_
          rw [Subscription.alike_iff, Subscription.key, Subscription.key, Prod.mk.injEq, Prod.mk.injEq] at same
          obtain ⟨stage, kind, scope⟩ := same
          rw [Requirement.strictest, stage, kind, scope]
      · exact .inl (List.mem_cons_of_mem _ old)
    · rcases List.mem_cons.1 h with rfl | later
      · exact .inl (List.mem_cons_self ..)
      · exact (ih later).imp_left (List.mem_cons_of_mem _)

/-- Where keys are distinct, merging changes what has the key of the merged subscription and nothing
else. -/
lemma mem_merge {s t : Subscription} {l : List Subscription} (distinct : (l.map Subscription.key).Nodup) :
    t ∈ merge s l ↔
      (t ∈ l ∧ t.key ≠ s.key) ∨
      (∃ u ∈ l, u.key = s.key ∧ t = { u with requirement := u.requirement.strictest s.requirement }) ∨
      (s.key ∉ l.map Subscription.key ∧ t = s) := by
  induction l with
  | nil => simp [merge]
  | cons u l ih =>
    obtain ⟨fresh, distinct⟩ := List.nodup_cons.1 distinct
    simp only [merge, Subscription.alike_iff]
    by_cases e : u.key = s.key
    · -- Only the head has the key, so only the head is changed.
      have others : ∀ v ∈ l, v.key ≠ s.key := by
        intro v hv h
        exact fresh (List.mem_map.2 ⟨v, hv, h.trans e.symm⟩)
      rw [if_pos e]
      simp only [List.mem_cons, exists_eq_or_imp, List.map_cons, e, true_and, not_true_eq_false, true_or,
        false_and, or_false]
      refine ⟨?_, ?_⟩
      · intro given
        rcases given with rfl | h
        · exact .inr (.inl rfl)
        · exact .inl ⟨.inr h, others t h⟩
      · intro given
        rcases given with ⟨rfl | h, hk⟩ | rfl | ⟨v, hv, hk, -⟩
        · exact absurd e hk
        · exact .inr h
        · exact .inl rfl
        · exact absurd hk (others v hv)
    · rw [if_neg e]
      simp only [List.mem_cons, ih distinct, exists_eq_or_imp, List.map_cons, e, false_and, false_or,
        show ¬ s.key = u.key from fun h => e h.symm]
      refine ⟨?_, ?_⟩
      · intro given
        rcases given with rfl | ⟨h, hk⟩ | h
        · exact .inl ⟨.inl rfl, e⟩
        · exact .inl ⟨.inr h, hk⟩
        · exact .inr h
      · intro given
        rcases given with ⟨rfl | h, hk⟩ | h
        · exact .inl rfl
        · exact .inr (.inl ⟨h, hk⟩)
        · exact .inr (.inr h)

/-! ## Declarations -/

/-- A bus holds exactly the declarations that were made on it. -/
structure Holds (b : Bus) (subscribed : List Subscription) (published : List Publication) : Prop where
  distinct : (b.subscriptions.map Subscription.key).Nodup
  keys : ∀ k, k ∈ b.subscriptions.map Subscription.key ↔ k ∈ subscribed.map Subscription.key
  strict : ∀ t ∈ b.subscriptions,
    t.requirement = .required ↔ ∃ s ∈ subscribed, s.key = t.key ∧ s.requirement = .required
  publications : ∀ p, p ∈ b.publications ↔ p ∈ published

variable {b : Bus} {subscribed : List Subscription} {published : List Publication}

/-- On a new bus nothing was declared. -/
lemma holds_empty : empty.Holds [] [] :=
  ⟨.nil, fun _ => Iff.rfl, nofun, fun _ => Iff.rfl⟩

/-- What a bus holds is a matter of its subscriptions and publications alone. -/
lemma Holds.congr (h : b.Holds subscribed published) {b' : Bus} (hs : b'.subscriptions = b.subscriptions)
    (hp : b'.publications = b.publications) : b'.Holds subscribed published := by
  refine ⟨?_, ?_, ?_, ?_⟩
  · rw [hs]
    exact h.distinct
  · rw [hs]
    exact h.keys
  · rw [hs]
    exact h.strict
  · rw [hp]
    exact h.publications

/-- The bus with one more subscription. -/
def withSubscription (b : Bus) (s : Subscription) : Bus :=
  { b with subscriptions := merge s b.subscriptions }

/-- The bus with one more publication. -/
def withPublication (b : Bus) (p : Publication) : Bus :=
  if p ∈ b.publications then b else { b with publications := b.publications ++ [p] }

/-- Outside of an event a subscription is accepted. -/
lemma subscribe_of_idle (idle : b.event = none) (s : Subscription) :
    b.subscribe s = .ok (b.withSubscription s) := by
  simp [subscribe, withSubscription, idle]

/-- Outside of an event a publication is accepted. -/
lemma publish_of_idle (idle : b.event = none) (p : Publication) :
    b.publish p = .ok (b.withPublication p) := by
  simp [publish, withPublication, idle]

/-- Declarations leave the event and its messages alone. -/
lemma subscribe_frame {b' : Bus} {s : Subscription} (h : b.subscribe s = .ok b') :
    b'.event = b.event ∧ b'.store = b.store := by
  unfold subscribe at h
  split at h
  · cases h
  · cases h
    exact ⟨rfl, rfl⟩

/-- A publication changes neither the event nor the store. -/
lemma publish_frame {b' : Bus} {p : Publication} (h : b.publish p = .ok b') :
    b'.event = b.event ∧ b'.store = b.store := by
  unfold publish at h
  split at h
  · cases h
  · cases h
    split <;> exact ⟨rfl, rfl⟩

/-- A subscription that is accepted is one more of those that the bus holds. -/
lemma Holds.subscribe (h : b.Holds subscribed published) (s : Subscription) :
    (b.withSubscription s).Holds (subscribed ++ [s]) published where
  distinct := nodup_keys_merge s h.distinct
  keys k := by
    rw [withSubscription, keys_merge, List.map_append, List.mem_append, ← h.keys]
    split
    · rename_i hm
      refine ⟨?_, ?_⟩
      · exact .inl
      · intro given
        rcases given with hk | hk
        · exact hk
        · rwa [List.mem_singleton.1 hk]
    · simp
  strict t ht := by
    simp only [List.mem_append, List.mem_singleton]
    -- The entry was there, was there with another requirement, or is new.
    rcases (mem_merge h.distinct).1 ht with ⟨ht, hk⟩ | ⟨u, hu, hk, rfl⟩ | ⟨fresh, rfl⟩
    · rw [h.strict t ht]
      refine ⟨?_, ?_⟩
      · intro given
        obtain ⟨c, hc, e, hr⟩ := given
        exact ⟨c, .inl hc, e, hr⟩
      · intro given
        obtain ⟨c, hc | rfl, e, hr⟩ := given
        · exact ⟨c, hc, e, hr⟩
        · exact absurd e.symm hk
    · show u.requirement.strictest s.requirement = .required ↔ ∃ c, (c ∈ subscribed ∨ c = s) ∧
        c.key = u.key ∧ c.requirement = .required
      rw [Requirement.strictest_eq_required_iff, h.strict u hu]
      refine ⟨?_, ?_⟩
      · intro given
        rcases given with ⟨c, hc, e, hr⟩ | hr
        · exact ⟨c, .inl hc, e, hr⟩
        · exact ⟨s, .inr rfl, hk.symm, hr⟩
      · intro given
        obtain ⟨c, hc | rfl, e, hr⟩ := given
        · exact .inl ⟨c, hc, e, hr⟩
        · exact .inr hr
    · refine ⟨?_, ?_⟩
      · intro hr
        exact ⟨t, .inr rfl, rfl, hr⟩
      · intro given
        obtain ⟨c, hc | rfl, e, hr⟩ := given
        · exact absurd ((h.keys t.key).2 (List.mem_map.2 ⟨c, hc, e⟩)) fresh
        · exact hr
  publications := h.publications

/-- A publication that is accepted is one more of those that the bus holds. -/
lemma Holds.publish (h : b.Holds subscribed published) (p : Publication) :
    (b.withPublication p).Holds subscribed (published ++ [p]) := by
  unfold withPublication
  split
  · rename_i hp
    refine ⟨h.distinct, h.keys, h.strict, fun q => ?_⟩
    rw [List.mem_append, ← h.publications]
    refine ⟨?_, ?_⟩
    · exact .inl
    · intro e
      rcases e with hq | hq
      · exact hq
      · rwa [List.mem_singleton.1 hq]
  · refine ⟨h.distinct, h.keys, h.strict, fun q => ?_⟩
    show q ∈ b.publications ++ [p] ↔ q ∈ published ++ [p]
    rw [List.mem_append, List.mem_append, h.publications]

/-- What is declared of some keys is there, and the other way round. -/
lemma Holds.exists_iff (h : b.Holds subscribed published) (P : StageId × Kind × Scope → Prop) :
    (∃ t ∈ b.subscriptions, P t.key) ↔ ∃ s ∈ subscribed, P s.key := by
  refine ⟨?_, ?_⟩
  · intro given
    obtain ⟨t, ht, hP⟩ := given
    obtain ⟨s, hs, e⟩ := List.mem_map.1 ((h.keys t.key).1 (List.mem_map.2 ⟨t, ht, rfl⟩))
    exact ⟨s, hs, e ▸ hP⟩
  · intro given
    obtain ⟨s, hs, hP⟩ := given
    obtain ⟨t, ht, e⟩ := List.mem_map.1 ((h.keys s.key).2 (List.mem_map.2 ⟨s, hs, rfl⟩))
    exact ⟨t, ht, e ▸ hP⟩

/-- What is required of some keys is there as required, and the other way round. -/
lemma Holds.exists_required_iff (h : b.Holds subscribed published) (P : StageId × Kind × Scope → Prop) :
    (∃ t ∈ b.subscriptions, P t.key ∧ t.requirement = .required) ↔
      ∃ s ∈ subscribed, P s.key ∧ s.requirement = .required := by
  refine ⟨?_, ?_⟩
  · intro given
    obtain ⟨t, ht, hP, hr⟩ := given
    obtain ⟨s, hs, e, hr⟩ := (h.strict t ht).1 hr
    exact ⟨s, hs, e ▸ hP, hr⟩
  · intro given
    obtain ⟨s, hs, hP, hr⟩ := given
    obtain ⟨t, ht, e⟩ := List.mem_map.1 ((h.keys s.key).2 (List.mem_map.2 ⟨s, hs, rfl⟩))
    exact ⟨t, ht, e ▸ hP, (h.strict t ht).2 ⟨s, hs, e.symm, hr⟩⟩

/-! ## Fetching -/

/-- The key is one of the stage and the kind, and its scope covers the detector. -/
def Covers (stage : StageId) (kind : Kind) (d : String) (k : StageId × Kind × Scope) : Prop :=
  k.1 = stage ∧ k.2.1 = kind ∧ k.2.2.covers (some d)

/-- There is no strictest requirement only where there is none at all. -/
lemma strictest?_eq_none_iff {rs : List Requirement} : strictest? rs = none ↔ rs = [] := by
  cases rs <;> simp [strictest?]

/-- The strictest requirement is a strict one exactly when one of them is. -/
lemma strictest?_eq_required_iff {rs : List Requirement} :
    strictest? rs = some .required ↔ .required ∈ rs := by
  cases rs with
  | nil => simp [strictest?]
  | cons r rs =>
    simp only [strictest?, Option.some.injEq, List.mem_cons]
    induction rs generalizing r with
    | nil => simp [eq_comm]
    | cons q rs ih =>
      rw [List.foldl_cons, ih, eq_comm, Requirement.strictest_eq_required_iff, List.mem_cons, or_assoc,
        eq_comm, @eq_comm _ q]

/-- What covers a detector are the subscriptions of the stage whose key covers it. -/
lemma mem_covering {stage : StageId} {kind : Kind} {d : String} {t : Subscription} :
    t ∈ b.covering stage kind d ↔ t ∈ b.subscriptions ∧ Covers stage kind d t.key := by
  simp [covering, Covers, Subscription.key, and_assoc]

/-- A fetch for a detector fails where no subscription covers it. Otherwise it gives what a lookup
finds, and where the lookup finds nothing, it fails when a covering subscription is required and
gives nothing when all are optional. -/
lemma fetch_cases (b : Bus) (stage : StageId) (kind : Kind) (d : String) :
    ((∀ t ∈ b.subscriptions, ¬ Covers stage kind d t.key) ∧
      b.fetch stage kind d = .error (.notSubscribed stage kind (some d))) ∨
    ((∃ t ∈ b.subscriptions, Covers stage kind d t.key ∧ t.requirement = .required) ∧
      b.fetch stage kind d = match b.find? kind d with
        | some e => .ok (some e.message)
        | none => .error (.noMessage stage kind (some d) b.eventNumber)) ∨
    ((∃ t ∈ b.subscriptions, Covers stage kind d t.key) ∧
      (∀ t ∈ b.subscriptions, Covers stage kind d t.key → t.requirement = .optional) ∧
      b.fetch stage kind d = .ok ((b.find? kind d).map Entry.message)) := by
  unfold fetch
  cases hr : strictest? ((b.covering stage kind d).map Subscription.requirement) with
  | none =>
    rw [strictest?_eq_none_iff, List.map_eq_nil_iff, List.eq_nil_iff_forall_not_mem] at hr
    refine .inl ⟨fun t ht covers => hr t (mem_covering.2 ⟨ht, covers⟩), rfl⟩
  | some r =>
    cases r with
    | required =>
      obtain ⟨t, ht, required⟩ := List.mem_map.1 (strictest?_eq_required_iff.1 hr)
      obtain ⟨mem, covers⟩ := mem_covering.1 ht
      refine .inr (.inl ⟨⟨t, mem, covers, required⟩, ?_⟩)
      cases b.find? kind d <;> rfl
    | optional =>
      have some_cover : b.covering stage kind d ≠ [] := by
        intro h
        rw [h] at hr
        cases hr
      obtain ⟨t, ht⟩ := List.exists_mem_of_ne_nil _ some_cover
      refine .inr (.inr ⟨⟨t, mem_covering.1 ht⟩, fun u hu covers => ?_, ?_⟩)
      · cases required : u.requirement with
        | optional => rfl
        | required =>
          -- A required one among them would decide.
          have strict := strictest?_eq_required_iff.2
            (List.mem_map.2 ⟨u, mem_covering.2 ⟨hu, covers⟩, required⟩)
          cases hr.symm.trans strict
      · cases b.find? kind d <;> rfl

/-- A fetch of all messages fails where the stage did not subscribe for any detector. Otherwise that
subscription alone decides whether it may give nothing. -/
lemma fetchAll_cases (b : Bus) (stage : StageId) (kind : Kind) :
    ((∀ t ∈ b.subscriptions, t.key ≠ (stage, kind, .any)) ∧
      b.fetchAll stage kind = .error (.notSubscribed stage kind none)) ∨
    ∃ t ∈ b.subscriptions, t.key = (stage, kind, .any) ∧
      b.fetchAll stage kind =
        if ((b.store.map Entry.message).filter fun m => m.kind == kind) = [] ∧ t.requirement = .required then
          .error (.noMessage stage kind none b.eventNumber)
        else .ok ((b.store.map Entry.message).filter fun m => m.kind == kind) := by
  have keyed : ∀ t : Subscription,
      (t.stage == stage && t.kind == kind && t.scope == .any) = true ↔ t.key = (stage, kind, .any) := by
    simp [Subscription.key, and_assoc]
  unfold fetchAll
  cases hf : b.subscriptions.find? fun s => s.stage == stage && s.kind == kind && s.scope == .any with
  | none =>
    rw [List.find?_eq_none] at hf
    simp only [keyed] at hf
    exact .inl ⟨hf, rfl⟩
  | some s =>
    have found := List.find?_some hf
    exact .inr ⟨s, List.mem_of_find?_eq_some hf, (keyed s).1 found, rfl⟩

/-- What a fetch of all messages gives are the stored messages of the kind, in order. -/
lemma eq_filter_of_fetchAll {stage : StageId} {kind : Kind} {found : List Message}
    (h : b.fetchAll stage kind = .ok found) : found = (b.store.map Entry.message).filter fun m => m.kind == kind := by
  rcases b.fetchAll_cases stage kind with ⟨-, eq⟩ | ⟨t, -, -, eq⟩
  · rw [eq] at h
    cases h
  · rw [eq] at h
    split at h
    · cases h
    · cases h
      rfl

/-- A fetch for a detector succeeds exactly when a subscription covers it and, if one that does is
required, a message of the kind is visible to the detector. -/
lemma exists_fetch_iff {stage : StageId} {kind : Kind} {d : String} :
    (∃ found, b.fetch stage kind d = .ok found) ↔
      (∃ t ∈ b.subscriptions, Covers stage kind d t.key) ∧
        ((∃ t ∈ b.subscriptions, Covers stage kind d t.key ∧ t.requirement = .required) →
          ∃ e ∈ b.store, e.message.kind = kind ∧ e.message.visibleTo d) := by
  rw [← isSome_find?_iff]
  rcases b.fetch_cases stage kind d with ⟨uncovered, eq⟩ | ⟨⟨t, ht, covers, required⟩, eq⟩ | ⟨here, optional, eq⟩
  · rw [eq]
    refine ⟨nofun, ?_⟩
    intro given
    obtain ⟨⟨t, ht, covers⟩, -⟩ := given
    exact absurd covers (uncovered t ht)
  · rw [eq]
    have covered : ∃ t ∈ b.subscriptions, Covers stage kind d t.key := ⟨t, ht, covers⟩
    have strict : ∃ t ∈ b.subscriptions, Covers stage kind d t.key ∧ t.requirement = .required :=
      ⟨t, ht, covers, required⟩
    cases b.find? kind d <;> simp [covered, strict]
  · rw [eq]
    refine ⟨fun _ => ⟨here, ?_⟩, fun _ => ⟨_, rfl⟩⟩
    intro given
    obtain ⟨t, ht, covers, required⟩ := given
    cases required.symm.trans (optional t ht covers)

/-- Where keys are distinct, the subscription with a key speaks for all with that key. -/
lemma exists_required_key_iff (distinct : (b.subscriptions.map Subscription.key).Nodup) {t : Subscription}
    (ht : t ∈ b.subscriptions) :
    (∃ u ∈ b.subscriptions, u.key = t.key ∧ u.requirement = .required) ↔ t.requirement = .required := by
  refine ⟨?_, ?_⟩
  · intro given
    obtain ⟨u, hu, e, hr⟩ := given
    rwa [← List.inj_on_of_nodup_map distinct hu ht e]
  · intro hr
    exact ⟨t, ht, rfl, hr⟩

/-- A fetch of all messages succeeds exactly when the stage subscribed for any detector and, if that
is required, a message of the kind is stored. -/
lemma exists_fetchAll_iff (distinct : (b.subscriptions.map Subscription.key).Nodup) {stage : StageId}
    {kind : Kind} :
    (∃ found, b.fetchAll stage kind = .ok found) ↔
      (∃ t ∈ b.subscriptions, t.key = (stage, kind, .any)) ∧
        ((∃ t ∈ b.subscriptions, t.key = (stage, kind, .any) ∧ t.requirement = .required) →
          ∃ e ∈ b.store, e.message.kind = kind) := by
  rcases b.fetchAll_cases stage kind with ⟨uncovered, eq⟩ | ⟨t, ht, key, eq⟩
  · rw [eq]
    refine ⟨nofun, ?_⟩
    intro given
    obtain ⟨⟨t, ht, e⟩, -⟩ := given
    exact absurd e (uncovered t ht)
  · have found : (((b.store.map Entry.message).filter fun m => m.kind == kind) = []) ↔
        ¬ ∃ e ∈ b.store, e.message.kind = kind := by
      simp [List.filter_eq_nil_iff]
    rw [eq, ← key, exists_required_key_iff distinct ht]
    split
    · rename_i missing
      refine ⟨nofun, ?_⟩
      intro given
      exact absurd (given.2 missing.2) (found.1 missing.1)
    · rename_i there
      refine ⟨fun _ => ⟨⟨t, ht, rfl⟩, fun required => ?_⟩, fun _ => ⟨_, rfl⟩⟩
      by_contra unsent
      exact there ⟨found.2 unsent, required⟩

end Bus

end SensorSim
