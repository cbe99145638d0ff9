import Mathlib
import SensorSim.Proofs.Bus.Fetch

/-!
# Batches of messages

A batch is what stages attempt to dispatch right after an event began, one attempt after the other.
All attempts succeed exactly when no two of the messages exclude each other
(`forall_answers_ok_iff`), which is not a matter of their order. So either every order of a batch
succeeds throughout or none does, and where they do, nobody who fetches can tell one order from
another but by the order of the messages.
-/

namespace SensorSim

open Bus (Entry Message BusError StageId Kind)

namespace Bus

/-- An attempt of a stage to dispatch a message. -/
structure Attempt where
  producer : StageId
  message : Message

namespace Attempt

def call (a : Attempt) : Call :=
  .dispatch a.producer a.message

/-- What is stored when an attempt succeeds in an event. -/
def entry (event : Nat) (a : Attempt) : Entry :=
  ⟨a.producer, { a.message with event }⟩

end Attempt

/-- What comes of attempts that are made one after the other: the message as it was stored, or why
it was refused. -/
def answers (b : Bus) : List Attempt → List (Except BusError Message)
  | [] => []
  | a :: rest => (b.dispatch a.producer a.message).map Prod.fst :: (b.apply a.call).answers rest

/-- The bus after some attempts, refused ones among them. -/
def attempt (b : Bus) (attempts : List Attempt) : Bus :=
  b.replay (attempts.map Attempt.call)

/-! ## Attempts in a row -/

/-- In an event attempts all succeed exactly when no two of their messages clash and none does with
what is stored. -/
lemma forall_answers_ok_iff {b : Bus} {event : Nat} (hev : b.event = some event) (attempts : List Attempt) :
    (∀ o ∈ b.answers attempts, ∃ sent, o = .ok sent) ↔
      (attempts.Pairwise fun a c => ¬ a.message.clashes c.message) ∧
        ∀ e ∈ b.store, ∀ a ∈ attempts, ¬ e.message.clashes a.message := by
  induction attempts generalizing b with
  | nil => exact ⟨fun _ => ⟨.nil, fun _ _ => nofun⟩, fun _ => nofun⟩
  | cons a rest ih =>
    rw [answers, List.forall_mem_cons, List.pairwise_cons]
    cases h : b.dispatch a.producer a.message with
    | error error =>
      refine ⟨fun given => ?_, fun given => ?_⟩
      · obtain ⟨⟨sent, eq⟩, -⟩ := given
        cases eq
      · -- Nothing stored would have been in the way of the first message.
        have sent := dispatch_of_free hev a.producer fun e he => given.2 e he a (List.mem_cons_self ..)
        cases h.symm.trans sent
    | ok result =>
      obtain ⟨sent, b'⟩ := result
      obtain ⟨event', hev', free, rfl, rfl⟩ := dispatch_eq_ok_iff.1 h
      have next : b.apply a.call = { b with store := b.store ++ [a.entry event'] } := by
        simp only [apply, Attempt.call, h]
        rfl
      rw [next, ih (b := { b with store := b.store ++ [a.entry event'] }) hev]
      simp only [List.forall_mem_append, List.forall_mem_singleton, List.forall_mem_cons]
      refine ⟨fun given => ?_, fun given => ?_⟩
      · obtain ⟨-, apart, stored, first⟩ := given
        exact ⟨⟨first, apart⟩, fun e he => ⟨free e he, stored e he⟩⟩
      · obtain ⟨⟨first, apart⟩, stored⟩ := given
        exact ⟨⟨_, rfl⟩, apart, fun e he => (stored e he).2, first⟩

/-- Attempts that all succeed store their messages in order and change nothing else. -/
lemma attempt_of_ok {b : Bus} {event : Nat} (hev : b.event = some event) {attempts : List Attempt}
    (all : ∀ o ∈ b.answers attempts, ∃ sent, o = .ok sent) :
    b.attempt attempts = { b with store := b.store ++ attempts.map (Attempt.entry event) } := by
  induction attempts generalizing b with
  | nil =>
    rw [List.map_nil, List.append_nil]
    rfl
  | cons a rest ih =>
    rw [answers, List.forall_mem_cons] at all
    obtain ⟨⟨sent, first⟩, later⟩ := all
    cases h : b.dispatch a.producer a.message with
    | error error =>
      rw [h] at first
      cases first
    | ok result =>
      obtain ⟨sent', b'⟩ := result
      obtain ⟨event', hev', -, rfl, rfl⟩ := dispatch_eq_ok_iff.1 h
      cases hev.symm.trans hev'
      have next : b.apply a.call = { b with store := b.store ++ [a.entry event] } := by
        simp only [apply, Attempt.call, h]
        rfl
      rw [next] at later
      have rest := ih (b := { b with store := b.store ++ [a.entry event] }) hev later
      rw [attempt, List.map_cons, replay, List.foldl_cons, next]
      refine rest.trans ?_
      rw [List.append_assoc, List.map_cons]
      rfl

/-! ## Other orders -/

/-- The same declarations, the same event and the same messages in whatever order. -/
structure Reordered (b b' : Bus) : Prop where
  subscriptions : b'.subscriptions = b.subscriptions
  event : b'.event = b.event
  store : b'.store.Perm b.store

namespace Reordered

variable {b b' : Bus}

/-- Where no two messages clash, a lookup for a detector finds the same message in whatever order
they are stored. -/
lemma find?_eq (r : b.Reordered b') (w : b.WellFormed) (w' : b'.WellFormed) (k : Kind) (d : String) :
    b'.find? k d = b.find? k d := by
  have same : (b'.seen k d).Perm (b.seen k d) := r.store.filter _
  rcases w.seen_cases k d with ⟨empty, missing⟩ | ⟨e, only, found⟩
  · rw [empty, List.perm_nil] at same
    rcases w'.seen_cases k d with ⟨-, missing'⟩ | ⟨e', only', -⟩
    · rw [missing, missing']
    · rw [only'] at same
      cases same
  · rw [only, List.perm_singleton] at same
    rcases w'.seen_cases k d with ⟨empty', -⟩ | ⟨e', only', found'⟩
    · rw [empty'] at same
      cases same
    · rw [only'] at same
      rw [found, found', (List.cons.inj same).1]

/-- A fetch for a detector gives the same in whatever order the messages were dispatched. -/
lemma fetch_eq (r : b.Reordered b') (w : b.WellFormed) (w' : b'.WellFormed) (stage : StageId) (k : Kind) (d : String) :
    b'.fetch stage k d = b.fetch stage k d := by
  rw [fetch, fetch, covering, covering, r.subscriptions, r.find?_eq w w', eventNumber, eventNumber, r.event]

/-- A fetch of all messages gives the same up to their order. -/
lemma fetchAll_eq (r : b.Reordered b') (stage : StageId) (k : Kind) :
    (b'.fetchAll stage k).map Multiset.ofList = (b.fetchAll stage k).map Multiset.ofList := by
  have same : (messagesOf k b'.store).Perm (messagesOf k b.store) := (r.store.map _).filter _
  have empty : messagesOf k b'.store = [] ↔ messagesOf k b.store = [] := by
    rw [← List.length_eq_zero_iff, same.length_eq, List.length_eq_zero_iff]
  unfold messagesOf at same empty
  rw [fetchAll, fetchAll, r.subscriptions]
  cases b.subscriptions.find? fun s => s.stage == stage && s.kind == k && s.scope == .any with
  | none => rfl
  | some s =>
    simp only [empty, eventNumber, r.event]
    split
    · rfl
    · exact congrArg Except.ok (Multiset.coe_eq_coe.2 same)

end Reordered

/-! ## Batches -/

/-- All attempts of a batch at the beginning of an event succeed exactly when no two of the messages
are of one kind and for the same detector, or one of them for none. Then every order of the batch
succeeds throughout and counts as many messages as there are attempts, and between any two orders
every fetch for a detector gives the same and every fetch of all messages gives the same up to their
order. Where an attempt fails, one fails in every order. -/
theorem answers_independent_of_order (b : Bus) (event : Nat) (attempts : List Attempt) :
    ((∀ o ∈ (b.beginEvent event).answers attempts, ∃ sent, o = .ok sent) ↔
      attempts.Pairwise fun a c => ¬ (a.message.kind = c.message.kind ∧
        (a.message.detector = c.message.detector ∨ a.message.detector = none ∨ c.message.detector = none))) ∧
    ((∀ o ∈ (b.beginEvent event).answers attempts, ∃ sent, o = .ok sent) →
      ∀ order, order.Perm attempts →
        (∀ o ∈ (b.beginEvent event).answers order, ∃ sent, o = .ok sent) ∧
        ((b.beginEvent event).attempt order).count = attempts.length ∧
        ∀ other, other.Perm attempts →
          (∀ stage kind d, ((b.beginEvent event).attempt other).fetch stage kind d =
            ((b.beginEvent event).attempt order).fetch stage kind d) ∧
          ∀ stage kind, (((b.beginEvent event).attempt other).fetchAll stage kind).map Multiset.ofList =
            (((b.beginEvent event).attempt order).fetchAll stage kind).map Multiset.ofList) ∧
    ((∃ o ∈ (b.beginEvent event).answers attempts, ∃ error, o = .error error) →
      ∀ order, order.Perm attempts → ∃ o ∈ (b.beginEvent event).answers order, ∃ error, o = .error error) := by
  have fresh : (b.beginEvent event).WellFormed := ⟨nofun, nofun, .nil⟩
  have apart : ∀ l, (∀ o ∈ (b.beginEvent event).answers l, ∃ sent, o = .ok sent) ↔
      l.Pairwise fun a c => ¬ a.message.clashes c.message := by
    intro l
    rw [forall_answers_ok_iff (b := b.beginEvent event) rfl]
    exact and_iff_left nofun
  -- Whether two messages clash is symmetric, so that success carries over from one order to every
  -- other.
  have anyOrder : ∀ {l order : List Attempt}, order.Perm l →
      (∀ o ∈ (b.beginEvent event).answers l, ∃ sent, o = .ok sent) →
      ∀ o ∈ (b.beginEvent event).answers order, ∃ sent, o = .ok sent := by
    intro l order perm all
    rw [apart] at all ⊢
    refine perm.symm.pairwise all ?_
    intro a c h
    rwa [Message.clashes_comm]
  refine ⟨?_, ?_, ?_⟩
  · simp only [apart, Message.clashes_iff_detector]
  · intro all order perm
    have stored := attempt_of_ok rfl (anyOrder perm all)
    refine ⟨anyOrder perm all, ?_, fun other perm' => ?_⟩
    · rw [count, stored, ← perm.length_eq]
      exact List.length_map ..
    · have stored' := attempt_of_ok rfl (anyOrder perm' all)
      have r : ((b.beginEvent event).attempt order).Reordered ((b.beginEvent event).attempt other) := by
        rw [stored, stored']
        exact ⟨rfl, rfl, (perm'.trans perm.symm).map _⟩
      exact ⟨r.fetch_eq (fresh.replay _) (fresh.replay _), r.fetchAll_eq⟩
  · intro failed order perm
    by_contra unfailing
    have all : ∀ o ∈ (b.beginEvent event).answers order, ∃ sent, o = .ok sent := by
      intro o ho
      cases o with
      | ok sent => exact ⟨sent, rfl⟩
      | error error => exact absurd ⟨_, ho, error, rfl⟩ unfailing
    obtain ⟨o, ho, error, rfl⟩ := failed
    obtain ⟨sent, eq⟩ := anyOrder perm.symm all _ ho
    cases eq

/-- Deposits for two detectors and pixel charges for none in particular, on the bus of a stage that
requires the deposits for one of the detectors. -/
def delivery : List Attempt :=
  [⟨4, { records := .none .deposited, detector := some "left" }⟩,
    ⟨5, { records := .none .deposited, detector := some "right" }⟩,
    ⟨4, { records := .none .pixel }⟩]

@[inherit_doc delivery]
def customer : Bus :=
  empty.replay [.subscribe ⟨7, .deposited, .any, .optional⟩, .subscribe ⟨7, .deposited, .detector "left", .required⟩]

/-- The delivery succeeds backwards as well, with the same deposit for the detector. With one more
deposit for no detector in front of it, an attempt fails in both orders. -/
theorem answers_independent_of_order_delivery :
    (∀ o ∈ (customer.beginEvent 3).answers delivery.reverse, ∃ sent, o = .ok sent) ∧
    ((customer.beginEvent 3).attempt delivery.reverse).count = 3 ∧
    ((customer.beginEvent 3).attempt delivery.reverse).fetch 7 .deposited "left" =
      ((customer.beginEvent 3).attempt delivery).fetch 7 .deposited "left" ∧
    (((customer.beginEvent 3).attempt delivery.reverse).fetchAll 7 .deposited).map Multiset.ofList =
      (((customer.beginEvent 3).attempt delivery).fetchAll 7 .deposited).map Multiset.ofList ∧
    ∃ o ∈ (customer.beginEvent 3).answers (⟨6, { records := .none .deposited }⟩ :: delivery).reverse,
      ∃ error, o = .error error := by
  obtain ⟨apart, orders, -⟩ := answers_independent_of_order customer 3 delivery
  have all : ∀ o ∈ (customer.beginEvent 3).answers delivery, ∃ sent, o = .ok sent := apart.2 (by decide)
  obtain ⟨backwards, counted, other⟩ := orders all _ (List.reverse_perm delivery)
  obtain ⟨fetched, fetchedAll⟩ := other delivery (List.Perm.refl _)
  obtain ⟨-, -, failing⟩ :=
    answers_independent_of_order customer 3 (⟨6, { records := .none .deposited }⟩ :: delivery)
  have refused : ∃ o ∈ (customer.beginEvent 3).answers (⟨6, { records := .none .deposited }⟩ :: delivery),
      ∃ error, o = .error error := by
    refine ⟨.error (.duplicateProducer .deposited (some "left") 3 6 4), ?_, _, rfl⟩
    exact List.mem_cons_of_mem _ (List.mem_cons_self ..)
  exact ⟨backwards, counted, (fetched 7 .deposited "left").symm, (fetchedAll 7 .deposited).symm,
    failing refused _ (List.reverse_perm _)⟩

end Bus

end SensorSim
