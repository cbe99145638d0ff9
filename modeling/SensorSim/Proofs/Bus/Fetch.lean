import Mathlib
import SensorSim.Proofs.Bus.Dispatch

/-!
# Fetching one message and fetching all

A detector sees at most one stored message of a kind, and a lookup finds just that one
(`WellFormed.seen_cases`). So the two ways of fetching agree: whatever a stage is given for a
detector is what the detector sees among all messages.
-/

namespace SensorSim

open Bus (Entry Message StageId Kind Subscription)

namespace Bus

/-- The stored messages of a kind that a detector sees. -/
def seen (b : Bus) (kind : Kind) (d : String) : List Entry :=
  b.store.filter fun e => e.message.kind == kind && e.message.visibleTo d

/-- The messages of a kind among some entries, in order. -/
def messagesOf (kind : Kind) (entries : List Entry) : List Message :=
  (entries.map Entry.message).filter fun m => m.kind == kind

/-- A lookup finds the one message that a detector sees, if there is one. -/
lemma WellFormed.seen_cases {b : Bus} (w : b.WellFormed) (k : Kind) (d : String) :
    (b.seen k d = [] ∧ b.find? k d = none) ∨ ∃ e, b.seen k d = [e] ∧ b.find? k d = some e := by
  cases h : b.find? k d with
  | none =>
    refine .inl ⟨?_, rfl⟩
    rw [seen, List.filter_eq_nil_iff]
    intro e he see
    have found := isSome_find?_iff.2 ⟨e, he, by simpa using see⟩
    rw [h] at found
    cases found
  | some e =>
    refine .inr ⟨e, ?_, rfl⟩
    obtain ⟨he, kind, visible⟩ := of_find?_eq_some h
    refine w.filter_eq_singleton (fun e _ f _ pe pf => clashes_of_seen pe pf) he ?_
    rw [kind, visible, beq_self_eq_true, Bool.and_self]

/-- Among all messages of a kind a detector sees those that it sees on the bus. -/
lemma filter_visibleTo (b : Bus) (k : Kind) (d : String) :
    (messagesOf k b.store).filter (fun m => m.visibleTo d) = (b.seen k d).map Entry.message := by
  rw [messagesOf, List.filter_filter, List.filter_map, seen]
  refine congrArg _ (List.filter_congr fun e _ => ?_)
  rw [Function.comp_apply, Bool.and_comm]

/-- A call leaves the subscriptions as they are or merges one into them. -/
lemma subscriptions_apply (b : Bus) (c : Call) :
    (b.apply c).subscriptions = b.subscriptions ∨ ∃ s, (b.apply c).subscriptions = merge s b.subscriptions := by
  cases c with
  | subscribe s =>
    cases hev : b.event with
    | none => exact .inr ⟨s, by simp [apply, Bus.subscribe, hev]⟩
    | some event => exact .inl (by simp [apply, Bus.subscribe, hev])
  | publish p =>
    left
    cases hev : b.event with
    | none =>
      simp only [apply, Bus.publish, hev]
      split <;> rfl
    | some event => simp [apply, Bus.publish, hev]
  | beginEvent event => exact .inl rfl
  | endEvent => exact .inl rfl
  | dispatch producer m =>
    left
    cases h : b.dispatch producer m with
    | error e => rw [apply, h]
    | ok result =>
      obtain ⟨sent, b'⟩ := result
      obtain ⟨_, _, _, _, rfl⟩ := dispatch_eq_ok_iff.1 h
      rw [apply, h]

/-- No two subscriptions have a key in common after any calls. -/
lemma nodup_keys_replay (calls : List Call) : ((empty.replay calls).subscriptions.map Subscription.key).Nodup := by
  induction calls using List.reverseRecOn with
  | nil => exact .nil
  | append_singleton calls c ih =>
    rw [replay_snoc]
    rcases subscriptions_apply (empty.replay calls) c with same | ⟨s, merged⟩
    · rw [same]
      exact ih
    · rw [merged]
      exact nodup_keys_merge s ih

/-! ## One message -/

/-- A fetch is refused as not subscribed exactly when no subscription of the stage covers the
detector. -/
lemma fetch_eq_notSubscribed_iff (b : Bus) (stage : StageId) (kind : Kind) (d : String) :
    b.fetch stage kind d = .error (.notSubscribed stage kind (some d)) ↔
      ∀ t ∈ b.subscriptions, ¬ Covers stage kind d t.key := by
  rcases b.fetch_cases stage kind d with ⟨uncovered, eq⟩ | ⟨⟨t, ht, covers, -⟩, eq⟩ | ⟨⟨t, ht, covers⟩, -, eq⟩
  · exact ⟨fun _ => uncovered, fun _ => eq⟩
  · refine ⟨fun h => ?_, fun uncovered => absurd covers (uncovered t ht)⟩
    rw [eq] at h
    split at h <;> cases h
  · refine ⟨fun h => ?_, fun uncovered => absurd covers (uncovered t ht)⟩
    rw [eq] at h
    cases h

/-- A fetch that is covered gives the one message that the detector sees. Where it sees none, the
covering subscriptions decide. -/
lemma WellFormed.fetch_of_covered {b : Bus} (w : b.WellFormed) {stage : StageId} {kind : Kind} {d : String}
    (covered : ∃ t ∈ b.subscriptions, Covers stage kind d t.key) :
    (∃ e, b.seen kind d = [e] ∧ b.fetch stage kind d = .ok (some e.message)) ∨
    (b.seen kind d = [] ∧
      ((∃ t ∈ b.subscriptions, Covers stage kind d t.key ∧ t.requirement = .required) →
        b.fetch stage kind d = .error (.noMessage stage kind (some d) b.eventNumber)) ∧
      ((∀ t ∈ b.subscriptions, Covers stage kind d t.key → t.requirement = .optional) →
        b.fetch stage kind d = .ok none)) := by
  rcases b.fetch_cases stage kind d with ⟨uncovered, -⟩ | ⟨⟨t, ht, covers, required⟩, eq⟩ | ⟨-, optional, eq⟩
  · obtain ⟨t, ht, covers⟩ := covered
    exact absurd covers (uncovered t ht)
  · rcases w.seen_cases kind d with ⟨empty, missing⟩ | ⟨e, only, found⟩
    · rw [missing] at eq
      refine .inr ⟨empty, fun _ => eq, fun optional => ?_⟩
      cases required.symm.trans (optional t ht covers)
    · rw [found] at eq
      exact .inl ⟨e, only, eq⟩
  · rcases w.seen_cases kind d with ⟨empty, missing⟩ | ⟨e, only, found⟩
    · rw [missing] at eq
      refine .inr ⟨empty, ?_, fun _ => eq⟩
      rintro ⟨t, ht, covers, required⟩
      cases required.symm.trans (optional t ht covers)
    · rw [found] at eq
      exact .inl ⟨e, only, eq⟩

/-! ## All messages -/

/-- A fetch for all detectors is refused as not subscribed exactly when the stage has no
subscription to any detector. -/
lemma fetchAll_eq_notSubscribed_iff (b : Bus) (stage : StageId) (kind : Kind) :
    b.fetchAll stage kind = .error (.notSubscribed stage kind none) ↔
      ∀ t ∈ b.subscriptions, t.key ≠ (stage, kind, .any) := by
  rcases b.fetchAll_cases stage kind with ⟨uncovered, eq⟩ | ⟨t, ht, key, eq⟩
  · exact ⟨fun _ => uncovered, fun _ => eq⟩
  · refine ⟨fun h => ?_, fun uncovered => absurd key (uncovered t ht)⟩
    rw [eq] at h
    split at h <;> cases h

/-- Where keys are distinct, the subscription for any detector decides, whichever it is. -/
lemma fetchAll_of_key {b : Bus} (distinct : (b.subscriptions.map Subscription.key).Nodup) {t : Subscription}
    (ht : t ∈ b.subscriptions) {stage : StageId} {kind : Kind} (key : t.key = (stage, kind, .any)) :
    b.fetchAll stage kind =
      if messagesOf kind b.store = [] ∧ t.requirement = .required then
        .error (.noMessage stage kind none b.eventNumber)
      else .ok (messagesOf kind b.store) := by
  rcases b.fetchAll_cases stage kind with ⟨uncovered, -⟩ | ⟨u, hu, key', eq⟩
  · exact absurd key (uncovered t ht)
  · rw [List.inj_on_of_nodup_map distinct ht hu (key.trans key'.symm)]
    exact eq

/-- A detector sees, among all messages that a stage is given, just what the stage is given for
it. -/
lemma WellFormed.filter_of_fetchAll {b : Bus} (w : b.WellFormed) {stage : StageId} {kind : Kind} {all : List Message}
    (h : b.fetchAll stage kind = .ok all) (d : String) :
    (∀ found, b.fetch stage kind d = .ok found → all.filter (fun m => m.visibleTo d) = found.toList) ∧
    ∀ error, b.fetch stage kind d = .error error → all.filter (fun m => m.visibleTo d) = [] := by
  have seen : all.filter (fun m => m.visibleTo d) = (b.seen kind d).map Entry.message := by
    rw [eq_filter_of_fetchAll h]
    exact b.filter_visibleTo kind d
  -- What is subscribed for any detector covers this one.
  have covered : ∃ t ∈ b.subscriptions, Covers stage kind d t.key := by
    rcases b.fetchAll_cases stage kind with ⟨-, eq⟩ | ⟨t, ht, key, -⟩
    · rw [eq] at h
      cases h
    · refine ⟨t, ht, ?_⟩
      rw [key]
      exact ⟨rfl, rfl, rfl⟩
  rcases w.fetch_of_covered covered with ⟨e, only, eq⟩ | ⟨empty, required, optional⟩
  · rw [seen, only, eq]
    refine ⟨?_, nofun⟩
    intro found same
    cases same
    rfl
  · rw [seen, empty]
    refine ⟨?_, fun _ _ => rfl⟩
    intro found eq
    rcases b.fetch_cases stage kind d with ⟨uncovered, -⟩ | ⟨strict, -⟩ | ⟨-, free, -⟩
    · obtain ⟨t, ht, covers⟩ := covered
      exact absurd covers (uncovered t ht)
    · rw [required strict] at eq
      cases eq
    · rw [optional free] at eq
      cases eq
      rfl

/-! ## Both -/

/-- After any calls a fetch for a detector fails as not subscribed exactly when no subscription of
the stage to the kind covers the detector. Otherwise it gives the one message of the kind that the
detector sees, and where it sees none, it fails when a covering subscription is required and gives
nothing when all are optional. A fetch of all messages fails as not subscribed exactly when the
stage did not subscribe for any detector, and otherwise that subscription alone decides whether it
fails when there is none; it gives all messages of the kind in the order in which they were
dispatched. What is fetched for a detector is the only one among all messages that the detector
sees, and where nothing is fetched it sees none of them. -/
theorem replay_fetch_agrees_fetchAll (calls : List Call) (stage : StageId) (kind : Kind) (d : String) :
    ((empty.replay calls).fetch stage kind d = .error (.notSubscribed stage kind (some d)) ↔
      ∀ t ∈ (empty.replay calls).subscriptions, ¬ Covers stage kind d t.key) ∧
    ((∃ t ∈ (empty.replay calls).subscriptions, Covers stage kind d t.key) →
      (∃ e, (empty.replay calls).seen kind d = [e] ∧
        (empty.replay calls).fetch stage kind d = .ok (some e.message)) ∨
      ((empty.replay calls).seen kind d = [] ∧
        ((∃ t ∈ (empty.replay calls).subscriptions, Covers stage kind d t.key ∧ t.requirement = .required) →
          (empty.replay calls).fetch stage kind d =
            .error (.noMessage stage kind (some d) (empty.replay calls).eventNumber)) ∧
        ((∀ t ∈ (empty.replay calls).subscriptions, Covers stage kind d t.key → t.requirement = .optional) →
          (empty.replay calls).fetch stage kind d = .ok none))) ∧
    ((empty.replay calls).fetchAll stage kind = .error (.notSubscribed stage kind none) ↔
      ∀ t ∈ (empty.replay calls).subscriptions, t.key ≠ (stage, kind, .any)) ∧
    (∀ t ∈ (empty.replay calls).subscriptions, t.key = (stage, kind, .any) →
      (empty.replay calls).fetchAll stage kind =
        if messagesOf kind (dispatched calls) = [] ∧ t.requirement = .required then
          .error (.noMessage stage kind none (empty.replay calls).eventNumber)
        else .ok (messagesOf kind (dispatched calls))) ∧
    ∀ all, (empty.replay calls).fetchAll stage kind = .ok all →
      (∀ found, (empty.replay calls).fetch stage kind d = .ok found →
        all.filter (fun m => m.visibleTo d) = found.toList) ∧
      ∀ error, (empty.replay calls).fetch stage kind d = .error error →
        all.filter (fun m => m.visibleTo d) = [] := by
  have w := wellFormed_empty.replay calls
  refine ⟨fetch_eq_notSubscribed_iff _ stage kind d, w.fetch_of_covered,
    fetchAll_eq_notSubscribed_iff _ stage kind, ?_, ?_⟩
  · intro t ht key
    rw [← store_replay]
    exact fetchAll_of_key (nodup_keys_replay calls) ht key
  · intro all h
    exact w.filter_of_fetchAll h d

/-- A stage that requires the deposits for one detector and can do without those for others, in the
contest. -/
def watch : List Call :=
  .subscribe ⟨7, .deposited, .any, .optional⟩ :: .subscribe ⟨7, .deposited, .detector "left", .required⟩ :: contest

/-- It is given one deposit for that detector, which is the one that the detector sees among both,
and none for a detector that no deposit is for. -/
theorem replay_fetch_agrees_fetchAll_watch :
    ∃ found all, (empty.replay watch).fetch 7 .deposited "left" = .ok (some found) ∧
      (empty.replay watch).fetchAll 7 .deposited = .ok all ∧ all.length = 2 ∧
      all.filter (fun m => m.visibleTo "left") = [found] ∧
      (empty.replay watch).fetch 7 .deposited "middle" = .ok none ∧
      all.filter (fun m => m.visibleTo "middle") = [] := by
  obtain ⟨-, -, -, -, left⟩ := replay_fetch_agrees_fetchAll watch 7 .deposited "left"
  obtain ⟨-, -, -, -, middle⟩ := replay_fetch_agrees_fetchAll watch 7 .deposited "middle"
  exact ⟨_, _, rfl, rfl, rfl, (left _ rfl).1 _ rfl, rfl, (middle _ rfl).1 _ rfl⟩

end Bus

end SensorSim
