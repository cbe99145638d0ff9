import Mathlib
import SensorSim.Proofs.Bus.Declaration

/-!
# Sequences of calls on the bus

The calls that change the bus, one after the other, failing ones among them. `WellFormed` is what
every call keeps: outside of an event nothing is stored, every stored message bears the number of
the event in progress, and no two stored messages clash. `WellFormed.replay` is the run lemma. What
it means for a detector is that there is never a choice between two messages.
-/

namespace SensorSim

open Bus (Entry Message StageId Kind Subscription Publication)

namespace Bus

/-- A call that may change the bus. -/
inductive Call where
  | subscribe (subscription : Subscription)
  | publish (publication : Publication)
  | beginEvent (event : Nat)
  | endEvent
  | dispatch (producer : StageId) (message : Message)

/-- Whether a call empties the store. -/
def Call.clears : Call → Bool
  | beginEvent _ | endEvent => true
  | subscribe _ | publish _ | dispatch .. => false

/-- The bus after a call. A call that fails leaves it as it was. -/
def apply (b : Bus) : Call → Bus
  | .subscribe s =>
    match b.subscribe s with
    | .ok b' => b'
    | .error _ => b
  | .publish p =>
    match b.publish p with
    | .ok b' => b'
    | .error _ => b
  | .beginEvent event => b.beginEvent event
  | .endEvent => b.endEvent
  | .dispatch producer m =>
    match b.dispatch producer m with
    | .ok (_, b') => b'
    | .error _ => b

/-- The bus after some calls in order. -/
def replay (b : Bus) (calls : List Call) : Bus :=
  calls.foldl apply b

/-- The last call of a sequence is made on the bus that the others leave. -/
@[simp] lemma replay_snoc (b : Bus) (calls : List Call) (c : Call) :
    b.replay (calls ++ [c]) = (b.replay calls).apply c := by
  simp [replay]

/-- An entry was stored by one of the calls on an empty bus, and no later one emptied the store. -/
def DispatchedSinceBegin (calls : List Call) (e : Entry) : Prop :=
  ∃ before m after b',
    calls = before ++ .dispatch e.producer m :: after ∧ (∀ c ∈ after, c.clears = false) ∧
      (empty.replay before).dispatch e.producer m = .ok (e.message, b')

/-- What holds of the bus between two calls. -/
structure WellFormed (b : Bus) : Prop where
  idle : b.event = none → b.store = []
  stamped : ∀ e ∈ b.store, b.event = some e.message.event
  exclusive : b.store.Pairwise fun e f => ¬ e.message.clashes f.message

/-! ## One call -/

/-- A call that neither empties the store nor dispatches a message leaves the event and its messages
alone; one that dispatches a message adds at most that message, which clashes with no other. -/
lemma apply_cases (b : Bus) (c : Call) :
    (c.clears = false ∧ (b.apply c).event = b.event ∧ (b.apply c).store = b.store) ∨
    (c.clears ∧ (b.apply c).store = []) ∨
    (∃ producer m sent event, c = .dispatch producer m ∧ b.event = some event ∧
      sent = { m with event } ∧ (∀ e ∈ b.store, ¬ e.message.clashes m) ∧
      b.dispatch producer m = .ok (sent, b.apply c) ∧ (b.apply c).event = b.event ∧
      (b.apply c).store = b.store ++ [⟨producer, sent⟩]) := by
  cases c with
  | subscribe s =>
    refine .inl ⟨rfl, ?_⟩
    simp only [apply]
    split
    · rename_i b' h
      exact subscribe_frame h
    · exact ⟨rfl, rfl⟩
  | publish p =>
    refine .inl ⟨rfl, ?_⟩
    simp only [apply]
    split
    · rename_i b' h
      exact publish_frame h
    · exact ⟨rfl, rfl⟩
  | beginEvent event => exact .inr (.inl ⟨rfl, rfl⟩)
  | endEvent => exact .inr (.inl ⟨rfl, rfl⟩)
  | dispatch producer m =>
    cases h : b.dispatch producer m with
    | error e =>
      refine .inl ⟨rfl, ?_⟩
      simp [apply, h]
    | ok result =>
      obtain ⟨sent, b'⟩ := result
      obtain ⟨event, hev, free, hs, hb⟩ := dispatch_eq_ok_iff.1 h
      have after : b.apply (.dispatch producer m) = b' := by simp [apply, h]
      rw [after]
      exact .inr (.inr ⟨producer, m, sent, event, rfl, hev, hs, free, h, by rw [hb], by rw [hb]⟩)

/-- Every call keeps what holds of the bus. -/
lemma WellFormed.apply {b : Bus} (w : b.WellFormed) (c : Call) : (b.apply c).WellFormed := by
  rcases apply_cases b c with ⟨_, hev, hst⟩ | ⟨_, hst⟩ | ⟨p, m, sent, event, _, hev, hs, free, _, hev', hst⟩
  · exact ⟨by rw [hev, hst]; exact w.idle, by rw [hev, hst]; exact w.stamped, by rw [hst]; exact w.exclusive⟩
  · exact ⟨fun _ => hst, by simp [hst], by simp [hst]⟩
  · refine ⟨fun h => ?_, fun e he => ?_, ?_⟩
    · rw [hev', hev] at h
      cases h
    · rw [hst] at he
      rw [hev']
      rcases List.mem_append.1 he with he | he
      · exact w.stamped e he
      · rw [List.mem_singleton.1 he, hev, hs]
    · rw [hst, List.pairwise_append]
      refine ⟨w.exclusive, List.pairwise_singleton .., fun e he f hf => ?_⟩
      rw [List.mem_singleton.1 hf, hs, Message.clashes_stamp]
      exact free e he

/-- Every sequence of calls keeps what holds of the bus. -/
lemma WellFormed.replay {b : Bus} (w : b.WellFormed) (calls : List Call) : (b.replay calls).WellFormed := by
  induction calls using List.reverseRecOn with
  | nil => exact w
  | append_singleton calls c ih =>
    rw [replay_snoc]
    exact ih.apply c

/-- A new bus is idle, and nothing is stored on it. -/
lemma wellFormed_empty : empty.WellFormed :=
  ⟨fun _ => rfl, nofun, .nil⟩

/-! ## What is stored -/

/-- Two stored messages that clash are the same. -/
lemma WellFormed.eq_of_clashes {b : Bus} (w : b.WellFormed) {e f : Entry} (he : e ∈ b.store)
    (hf : f ∈ b.store) (clash : e.message.clashes f.message) : e = f := by
  by_contra ne
  have symm : Std.Symm fun e f : Entry => ¬ e.message.clashes f.message :=
    ⟨fun e f h => by rwa [Message.clashes_comm]⟩
  exact w.exclusive.forall he hf ne clash

/-- Two messages of one kind that a detector sees clash. -/
lemma clashes_of_seen {k : Kind} {d : String} {e f : Entry}
    (he : (e.message.kind == k && e.message.visibleTo d) = true)
    (hf : (f.message.kind == k && f.message.visibleTo d) = true) : e.message.clashes f.message := by
  simp only [Bool.and_eq_true, beq_iff_eq] at he hf
  exact Message.clashes_of_visibleTo (he.1.trans hf.1.symm) he.2 hf.2

/-- Of messages that clash with each other at most one is stored. -/
lemma WellFormed.length_filter_le_one {b : Bus} (w : b.WellFormed) {p : Entry → Bool}
    (h : ∀ e ∈ b.store, ∀ f ∈ b.store, p e → p f → e.message.clashes f.message) :
    (b.store.filter p).length ≤ 1 := by
  have apart := w.exclusive.filter p
  cases hl : b.store.filter p with
  | nil => simp
  | cons e rest =>
    cases rest with
    | nil => simp
    | cons f rest =>
      rw [hl] at apart
      obtain ⟨he, pe⟩ := List.mem_filter.1 (show e ∈ b.store.filter p by simp [hl])
      obtain ⟨hf, pf⟩ := List.mem_filter.1 (show f ∈ b.store.filter p by simp [hl])
      exact absurd (h e he f hf pe pf) ((List.pairwise_cons.1 apart).1 f (List.mem_cons_self ..))

/-- Of messages that clash with each other a stored one is the only one stored. -/
lemma WellFormed.filter_eq_singleton {b : Bus} (w : b.WellFormed) {p : Entry → Bool}
    (h : ∀ e ∈ b.store, ∀ f ∈ b.store, p e → p f → e.message.clashes f.message) {e : Entry} (he : e ∈ b.store)
    (pe : p e) : b.store.filter p = [e] := by
  have mem : e ∈ b.store.filter p := List.mem_filter.2 ⟨he, pe⟩
  obtain ⟨f, hf⟩ := List.length_eq_one_iff.1
    (le_antisymm (w.length_filter_le_one h) (List.length_pos_of_mem mem))
  rw [hf] at mem ⊢
  rw [List.mem_singleton.1 mem]

/-- No two stored messages of one kind are visible to the same detector. -/
lemma WellFormed.length_visible_le_one {b : Bus} (w : b.WellFormed) (k : Kind) (d : String) :
    (b.store.filter fun e => e.message.kind == k && e.message.visibleTo d).length ≤ 1 := by
  exact w.length_filter_le_one fun e _ f _ pe pf => clashes_of_seen pe pf

/-- A stored message for no detector is the only one of its kind. -/
lemma WellFormed.filter_kind_of_detector_eq_none {b : Bus} (w : b.WellFormed) {e : Entry}
    (he : e ∈ b.store) (hd : e.message.detector = none) :
    (b.store.filter fun f => f.message.kind == e.message.kind) = [e] := by
  have same : ∀ f ∈ b.store, f.message.kind == e.message.kind → e = f := by
    intro f hf hk
    exact w.eq_of_clashes he hf (Message.clashes_of_detector_eq_none (beq_iff_eq.1 hk).symm (.inl hd))
  refine w.filter_eq_singleton (fun f hf g hg pf pg => ?_) he (beq_self_eq_true _)
  rw [← same f hf pf, ← same g hg pg]
  exact Message.clashes_of_detector_eq_none rfl (.inl hd)

/-- A stored message is found under its own kind and detector, and under no other. -/
lemma WellFormed.stored?_eq_some_iff {b : Bus} (w : b.WellFormed) {e : Entry} (he : e ∈ b.store)
    (k : Kind) (d : Option String) :
    b.stored? k d = some e ↔ e.message.kind = k ∧ e.message.detector = d := by
  refine ⟨?_, ?_⟩
  · intro h
    exact (of_stored?_eq_some h).2
  · intro given
    obtain ⟨rfl, rfl⟩ := given
    cases h : b.stored? e.message.kind e.message.detector with
    | none => exact absurd ⟨rfl, rfl⟩ (stored?_eq_none_iff.1 h e he)
    | some f =>
      obtain ⟨hf, hk, hd⟩ := of_stored?_eq_some h
      have clash : e.message.clashes f.message := by
        refine Message.clashes_iff.2 ⟨hk.symm, ?_⟩
        rw [hd]
        exact Scope.overlaps_self _
      rw [w.eq_of_clashes he hf clash]

/-- What is stored was dispatched since the event in progress was begun. -/
lemma dispatchedSinceBegin_of_mem (calls : List Call) {e : Entry} (he : e ∈ (empty.replay calls).store) :
    DispatchedSinceBegin calls e := by
  induction calls using List.reverseRecOn with
  | nil => cases he
  | append_singleton calls c ih =>
    rw [replay_snoc] at he
    have earlier : e ∈ (empty.replay calls).store → c.clears = false →
        DispatchedSinceBegin (calls ++ [c]) e := by
      intro he hc
      obtain ⟨before, m, after, b', rfl, quiet, hd⟩ := ih he
      refine ⟨before, m, after ++ [c], b', by simp, fun c' hc' => ?_, hd⟩
      rcases List.mem_append.1 hc' with hc' | hc'
      · exact quiet c' hc'
      · rw [List.mem_singleton.1 hc', hc]
    -- The last call kept the entry, cleared the store, or dispatched the entry itself.
    rcases apply_cases (empty.replay calls) c with
      ⟨hc, _, hst⟩ | ⟨_, hst⟩ | ⟨p, m, sent, event, rfl, _, _, _, hd, _, hst⟩
    · rw [hst] at he
      exact earlier he hc
    · rw [hst] at he
      cases he
    · rw [hst] at he
      rcases List.mem_append.1 he with he | he
      · exact earlier he rfl
      · rw [List.mem_singleton.1 he]
        exact ⟨calls, m, [], _, rfl, nofun, hd⟩

/-- After any sequence of calls nothing is stored outside of an event. Every stored message bears
the number of the event in progress, was dispatched since that was begun, and is found under its own
kind and detector alone. No detector sees two messages of a kind, so one for no detector is the only
one of its kind. -/
theorem replay_store_exclusive (calls : List Call) :
    ((empty.replay calls).event = none → (empty.replay calls).store = []) ∧
    (∀ e ∈ (empty.replay calls).store,
      (empty.replay calls).event = some e.message.event ∧
      DispatchedSinceBegin calls e ∧
      ∀ k d, (empty.replay calls).stored? k d = some e ↔ e.message.kind = k ∧ e.message.detector = d) ∧
    (∀ k d, ((empty.replay calls).store.filter fun e =>
      e.message.kind == k && e.message.visibleTo d).length ≤ 1) ∧
    ∀ e ∈ (empty.replay calls).store, e.message.detector = none →
      ((empty.replay calls).store.filter fun f => f.message.kind == e.message.kind) = [e] := by
  have w := wellFormed_empty.replay calls
  refine ⟨w.idle, fun e he => ?_, w.length_visible_le_one, fun e he hd => ?_⟩
  · exact ⟨w.stamped e he, dispatchedSinceBegin_of_mem calls he, w.stored?_eq_some_iff he⟩
  · exact w.filter_kind_of_detector_eq_none he hd

end Bus

end SensorSim
