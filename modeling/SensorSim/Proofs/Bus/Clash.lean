import Mathlib
import SensorSim.Bus.Basic

/-!
# Messages that exclude each other

Two messages clash when they are of one kind and some detector could see both. A message is
dispatched exactly when an event is in progress and no stored message clashes with it
(`dispatch_eq_ok_iff`), and a lookup for a detector finds a message exactly when a stored one is
visible there (`isSome_find?_iff`).
-/

namespace SensorSim.Bus

namespace Scope

/-- The own scope of a detector or of none overlaps that of a detector exactly when both are one or
the first is none. -/
lemma own_overlaps_some (d : Option String) (n : String) :
    (own d).overlaps (own (some n)) ↔ d = some n ∨ d = none := by
  cases d with
  | none => simp [own, overlaps]
  | some m => simp [own, overlaps]

/-- A scope overlaps itself. -/
@[simp] lemma overlaps_self (s : Scope) : s.overlaps s := by
  cases s <;> simp [overlaps]

/-- Every scope overlaps the own scope of a stage that belongs to no detector. -/
@[simp] lemma overlaps_own_none (s : Scope) : s.overlaps (own none) := by
  cases s <;> rfl

end Scope

/-- Whether two messages are of one kind and there is a detector that could see both. -/
def Message.clashes (m n : Message) : Bool :=
  m.kind == n.kind && (Scope.own m.detector).overlaps (Scope.own n.detector)

namespace Message

/-- Messages clash when they are of one kind and the scopes of their detectors overlap. -/
lemma clashes_iff {m n : Message} :
    m.clashes n ↔ m.kind = n.kind ∧ (Scope.own m.detector).overlaps (Scope.own n.detector) := by
  simp [clashes]

/-- Two messages clash exactly when they are of one kind and for the same detector, or one of them
for none. -/
lemma clashes_iff_detector {m n : Message} :
    m.clashes n ↔ m.kind = n.kind ∧ (m.detector = n.detector ∨ m.detector = none ∨ n.detector = none) := by
  rw [clashes_iff]
  cases m.detector <;> cases n.detector <;> simp [Scope.own, Scope.overlaps]

/-- A message clashes with another when the other clashes with it. -/
lemma clashes_comm (m n : Message) : m.clashes n = n.clashes m := by
  rw [clashes, clashes, Scope.overlaps_comm, Bool.beq_comm]

/-- The number of the event does not matter to a clash. -/
@[simp] lemma clashes_stamp (m n : Message) (event : Nat) : m.clashes { n with event } = m.clashes n :=
  rfl

/-- A message is visible to its own detector, and to every detector when it is for none. -/
lemma visibleTo_iff {m : Message} {d : String} :
    m.visibleTo d ↔ m.detector = some d ∨ m.detector = none := by
  simp [visibleTo, or_comm]

/-- Two messages of one kind that are visible to one detector clash. -/
lemma clashes_of_visibleTo {m n : Message} {d : String} (hk : m.kind = n.kind) (hm : m.visibleTo d)
    (hn : n.visibleTo d) : m.clashes n := by
  refine clashes_iff.2 ⟨hk, ?_⟩
  rcases visibleTo_iff.1 hn with e | e
  · rw [e]
    exact (Scope.own_overlaps_some m.detector d).2 (visibleTo_iff.1 hm)
  · rw [e]
    exact Scope.overlaps_own_none _

/-- A message for no detector clashes with every other one of its kind. -/
lemma clashes_of_detector_eq_none {m n : Message} (hk : m.kind = n.kind)
    (h : m.detector = none ∨ n.detector = none) : m.clashes n := by
  refine clashes_iff.2 ⟨hk, ?_⟩
  rcases h with e | e
  · rw [e, Scope.overlaps_comm]
    exact Scope.overlaps_own_none _
  · rw [e]
    exact Scope.overlaps_own_none _

end Message

end SensorSim.Bus

namespace SensorSim

open Bus (Entry Message BusError StageId Kind Scope)

namespace Bus

variable {b : Bus}

/-! ## Lookups -/

/-- Nothing is found of a kind and a detector exactly when nothing of them is stored. -/
lemma stored?_eq_none_iff {k : Kind} {d : Option String} :
    b.stored? k d = none ↔ ∀ e ∈ b.store, ¬ (e.message.kind = k ∧ e.message.detector = d) := by
  simp [stored?, List.find?_eq_none]

/-- What a lookup finds is stored, of the kind, and for the detector that was asked for. -/
lemma of_stored?_eq_some {k : Kind} {d : Option String} {e : Entry} (h : b.stored? k d = some e) :
    e ∈ b.store ∧ e.message.kind = k ∧ e.message.detector = d := by
  refine ⟨List.mem_of_find?_eq_some h, ?_⟩
  have found := List.find?_some h
  simpa using found

/-- What a lookup for a detector finds is stored, of the kind, and visible to the detector. -/
lemma of_find?_eq_some {k : Kind} {d : String} {e : Entry} (h : b.find? k d = some e) :
    e ∈ b.store ∧ e.message.kind = k ∧ e.message.visibleTo d := by
  rcases Option.or_eq_some_iff.1 h with h | ⟨-, h⟩
  · obtain ⟨he, kind, detector⟩ := of_stored?_eq_some h
    exact ⟨he, kind, Message.visibleTo_iff.2 (.inl detector)⟩
  · obtain ⟨he, kind, detector⟩ := of_stored?_eq_some h
    exact ⟨he, kind, Message.visibleTo_iff.2 (.inr detector)⟩

/-- What is found of a kind is the first that is stored of it. -/
lemma of_firstOfKind?_eq_some {k : Kind} {e : Entry} (h : b.firstOfKind? k = some e) :
    e.message.kind = k ∧ ∃ before after, b.store = before ++ e :: after ∧ ∀ f ∈ before, f.message.kind ≠ k := by
  obtain ⟨kind, before, after, eq, earlier⟩ := List.find?_eq_some_iff_append.1 h
  refine ⟨beq_iff_eq.1 kind, before, after, eq, fun f hf same => ?_⟩
  have other := earlier f hf
  rw [same, beq_self_eq_true] at other
  cases other

/-- Every stored message of a kind is in the way of one for no detector, and of one for a detector
whatever is for that detector or for none. -/
lemma conflict?_eq_none_iff {m : Message} :
    b.conflict? m.kind m.detector = none ↔ ∀ e ∈ b.store, ¬ e.message.clashes m := by
  cases hd : m.detector with
  | none =>
    simp [conflict?, firstOfKind?, List.find?_eq_none, Message.clashes, hd]
  | some d =>
    simp only [conflict?, find?, Option.or_eq_none_iff, stored?_eq_none_iff, Message.clashes_iff, hd,
      Scope.own_overlaps_some]
    refine ⟨?_, ?_⟩
    · rintro ⟨h1, h2⟩ e he ⟨hk, h | h⟩
      · exact h1 e he ⟨hk, h⟩
      · exact h2 e he ⟨hk, h⟩
    · intro h
      exact ⟨fun e he ⟨hk, hd⟩ => h e he ⟨hk, .inl hd⟩, fun e he ⟨hk, hd⟩ => h e he ⟨hk, .inr hd⟩⟩

/-- A lookup for a detector finds a message exactly when one of the kind is visible there. -/
lemma isSome_find?_iff {k : Kind} {d : String} :
    (b.find? k d).isSome ↔ ∃ e ∈ b.store, e.message.kind = k ∧ e.message.visibleTo d := by
  rw [← not_iff_not, Bool.not_eq_true, Option.isSome_eq_false_iff, Option.isNone_iff_eq_none]
  simp only [find?, Option.or_eq_none_iff, stored?_eq_none_iff, Message.visibleTo_iff, not_exists, not_and]
  refine ⟨?_, ?_⟩
  · rintro ⟨h1, h2⟩ e he hk (h | h)
    · exact h1 e he hk h
    · exact h2 e he hk h
  · intro h
    exact ⟨fun e he hk hd => h e he hk (.inl hd), fun e he hk hd => h e he hk (.inr hd)⟩

/-! ## Dispatch -/

/-- A message is dispatched exactly when an event is in progress and no stored message clashes with
it. It is stored last, with the number of the event, and nothing else changes. -/
lemma dispatch_eq_ok_iff {p : StageId} {m sent : Message} {b' : Bus} :
    b.dispatch p m = .ok (sent, b') ↔
      ∃ event, b.event = some event ∧ (∀ e ∈ b.store, ¬ e.message.clashes m) ∧
        sent = { m with event } ∧ b' = { b with store := b.store ++ [⟨p, sent⟩] } := by
  unfold dispatch
  cases hev : b.event with
  | none => simp
  | some event =>
    cases hc : b.conflict? m.kind m.detector with
    | some e =>
      have clash : ¬ ∀ e ∈ b.store, ¬ e.message.clashes m := by
        rw [← conflict?_eq_none_iff, hc]
        exact Option.some_ne_none e
      simp only [reduceCtorEq, Option.some.injEq, false_iff]
      intro h
      obtain ⟨_, _, free, _⟩ := h
      exact clash free
    | none =>
      have free := conflict?_eq_none_iff.1 hc
      simp only [Except.ok.injEq, Prod.mk.injEq, Option.some.injEq]
      refine ⟨?_, ?_⟩
      · intro h
        obtain ⟨rfl, rfl⟩ := h
        exact ⟨event, rfl, free, rfl, rfl⟩
      · intro h
        obtain ⟨_, rfl, _, rfl, rfl⟩ := h
        exact ⟨rfl, rfl⟩

/-- A message is refused outside of an event, or for a message that is in its way. -/
lemma dispatch_error_cases {p : StageId} {m : Message} {error : BusError} (h : b.dispatch p m = .error error) :
    (b.event = none ∧ error = .noEvent p m.kind) ∨
    ∃ event e, b.event = some event ∧ b.conflict? m.kind m.detector = some e ∧
      error = .duplicateProducer m.kind m.detector event e.producer p := by
  unfold dispatch at h
  split at h
  · rename_i hev
    cases h
    exact .inl ⟨hev, rfl⟩
  · rename_i event hev
    split at h
    · rename_i e conflict
      cases h
      exact .inr ⟨event, e, hev, conflict, rfl⟩
    · cases h

/-- A message that no stored one clashes with is dispatched. -/
lemma dispatch_of_free {event : Nat} (hev : b.event = some event) (p : StageId) {m : Message}
    (free : ∀ e ∈ b.store, ¬ e.message.clashes m) :
    b.dispatch p m =
      .ok ({ m with event }, { b with store := b.store ++ [⟨p, { m with event }⟩] }) :=
  dispatch_eq_ok_iff.2 ⟨event, hev, free, rfl, rfl⟩

/-- A message that a stored one clashes with is refused. -/
lemma dispatch_of_clash (p : StageId) {m : Message} {e : Entry} (he : e ∈ b.store)
    (clash : e.message.clashes m) : ∃ error, b.dispatch p m = .error error := by
  cases h : b.dispatch p m with
  | error error => exact ⟨error, rfl⟩
  | ok result =>
    obtain ⟨_, _, free, _⟩ := dispatch_eq_ok_iff.1 h
    exact absurd clash (free e he)

end Bus

end SensorSim
