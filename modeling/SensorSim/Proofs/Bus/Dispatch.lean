import Mathlib
import SensorSim.Proofs.Bus.Call

/-!
# What was dispatched in an event

The messages that calls have got accepted since the store was last emptied, in the order of the
calls. They are what is stored (`store_replay`): a call that is refused leaves no trace. So the
message that keeps another one from being dispatched was itself dispatched in the event, and it is
the first that could.
-/

namespace SensorSim

open Bus (Entry Message StageId Kind)

namespace Bus

/-- The entry that a call adds to the store. -/
def gained (b : Bus) : Call → List Entry
  | .dispatch producer m =>
    match b.dispatch producer m with
    | .ok (sent, _) => [⟨producer, sent⟩]
    | .error _ => []
  | .subscribe _ | .publish _ | .beginEvent _ | .endEvent => []

/-- The entries that some calls in order add to the store. -/
def gainedBy (b : Bus) : List Call → List Entry
  | [] => []
  | c :: rest => b.gained c ++ (b.apply c).gainedBy rest

/-- What the calls on an empty bus have dispatched since the last one that emptied the store, in
order. -/
def dispatched (calls : List Call) : List Entry :=
  (empty.replay (calls.rdropWhile fun c => !c.clears)).gainedBy (calls.rtakeWhile fun c => !c.clears)

/-- A call that does not empty the store adds its entry to it. -/
lemma store_apply (b : Bus) {c : Call} (quiet : c.clears = false) : (b.apply c).store = b.store ++ b.gained c := by
  cases c with
  | subscribe s =>
    rw [gained, List.append_nil, apply]
    split
    · rename_i b' h
      exact (subscribe_frame h).2
    · rfl
  | publish p =>
    rw [gained, List.append_nil, apply]
    split
    · rename_i b' h
      exact (publish_frame h).2
    · rfl
  | beginEvent event => cases quiet
  | endEvent => cases quiet
  | dispatch producer m =>
    rw [gained, apply]
    cases h : b.dispatch producer m with
    | error e => exact (List.append_nil _).symm
    | ok result =>
      obtain ⟨sent, b'⟩ := result
      obtain ⟨_, _, _, _, rfl⟩ := dispatch_eq_ok_iff.1 h
      rfl

/-- Calls that do not empty the store add their entries to it. -/
lemma store_replay_of_quiet (b : Bus) {calls : List Call} (quiet : ∀ c ∈ calls, c.clears = false) :
    (b.replay calls).store = b.store ++ b.gainedBy calls := by
  induction calls generalizing b with
  | nil => exact (List.append_nil _).symm
  | cons c rest ih =>
    have later := ih (b.apply c) fun c hc => quiet c (List.mem_cons_of_mem _ hc)
    rw [gainedBy, ← List.append_assoc, ← store_apply b (quiet c (List.mem_cons_self ..))]
    exact later

/-- Nothing is stored up to the last call that emptied the store. -/
lemma store_replay_rdropWhile (calls : List Call) :
    (empty.replay (calls.rdropWhile fun c => !c.clears)).store = [] := by
  by_cases h : (calls.rdropWhile fun c => !c.clears) = []
  · rw [h]
    rfl
  · have last := List.rdropWhile_last_not _ _ h
    rw [← List.dropLast_append_getLast h, replay_snoc]
    generalize (calls.rdropWhile fun c => !c.clears).getLast h = c at last ⊢
    cases c with
    | beginEvent event => rfl
    | endEvent => rfl
    | _ => exact absurd rfl last

/-- What is stored is what was dispatched since the store was last emptied. -/
lemma store_replay (calls : List Call) : (empty.replay calls).store = dispatched calls := by
  have quiet : ∀ c ∈ calls.rtakeWhile fun c => !c.clears, c.clears = false := by
    intro c hc
    have := List.mem_rtakeWhile_imp hc
    simpa using this
  have all := store_replay_of_quiet (empty.replay (calls.rdropWhile fun c => !c.clears)) quiet
  rw [store_replay_rdropWhile, List.nil_append, replay, replay, ← List.foldl_append,
    List.rdropWhile_append_rtakeWhile] at all
  exact all

/-- The stored message that is in the way of a message for a detector is the only one of the kind
that the detector sees. -/
lemma WellFormed.eq_of_find? {b : Bus} (w : b.WellFormed) {k : Kind} {d : String} {e f : Entry}
    (h : b.find? k d = some e) (hf : f ∈ b.store) (kind : f.message.kind = k) (visible : f.message.visibleTo d) :
    f = e := by
  obtain ⟨he, kind', visible'⟩ := of_find?_eq_some h
  exact w.eq_of_clashes hf he (Message.clashes_of_visibleTo (kind.trans kind'.symm) visible visible')

/-- The message that is in the way of another one is stored and of its kind. It is the earliest of
the kind when the other one is for no detector, and else the only one that its detector sees. -/
lemma WellFormed.of_conflict?_eq_some {b : Bus} (w : b.WellFormed) {k : Kind} {detector : Option String} {e : Entry}
    (h : b.conflict? k detector = some e) :
    e ∈ b.store ∧ e.message.kind = k ∧
      (detector = none → ∃ before after, b.store = before ++ e :: after ∧ ∀ f ∈ before, f.message.kind ≠ k) ∧
      ∀ d, detector = some d →
        e.message.visibleTo d ∧ ∀ f ∈ b.store, f.message.kind = k → f.message.visibleTo d → f = e := by
  cases detector with
  | none =>
    obtain ⟨kind, before, after, split, earlier⟩ := of_firstOfKind?_eq_some h
    have stored : e ∈ b.store := by
      rw [split]
      exact List.mem_append_right _ (List.mem_cons_self ..)
    refine ⟨stored, kind, fun _ => ⟨before, after, split, earlier⟩, ?_⟩
    intro d same
    cases same
  | some d =>
    obtain ⟨stored, kind, visible⟩ := of_find?_eq_some h
    refine ⟨stored, kind, ?_, ?_⟩
    · intro same
      cases same
    · intro d' same
      cases same
      exact ⟨visible, fun f hf => w.eq_of_find? h hf⟩

/-- After any calls a message is dispatched exactly when an event is in progress and no stored
message of its kind is for the same detector, or for none, or there at all when the message is for
none. It is then stored behind all others, with the number of the event and otherwise as it was
given. A refused one changes nothing. Where a message is in its way, the error names as first the
stage that dispatched that one: the earliest of the kind in the event when the refused message is
for no detector, and else the only one that its detector sees. -/
theorem replay_dispatch_blames_first (calls : List Call) (producer : StageId) (m : Message) :
    (empty.replay calls).store = dispatched calls ∧
    ((∃ sent b', (empty.replay calls).dispatch producer m = .ok (sent, b')) ↔
      (∃ event, (empty.replay calls).event = some event) ∧
        ∀ e ∈ dispatched calls, e.message.kind = m.kind →
          ¬ (e.message.detector = m.detector ∨ e.message.detector = none ∨ m.detector = none)) ∧
    (∀ sent b', (empty.replay calls).dispatch producer m = .ok (sent, b') →
      ∃ event, (empty.replay calls).event = some event ∧ sent = { m with event } ∧
        b' = { empty.replay calls with store := dispatched calls ++ [⟨producer, sent⟩] }) ∧
    ∀ error, (empty.replay calls).dispatch producer m = .error error →
      (empty.replay calls).apply (.dispatch producer m) = empty.replay calls ∧
      (((empty.replay calls).event = none ∧ error = .noEvent producer m.kind) ∨
        ∃ event e, (empty.replay calls).event = some event ∧
          error = .duplicateProducer m.kind m.detector event e.producer producer ∧
          e ∈ dispatched calls ∧ DispatchedSinceBegin calls e ∧ e.message.kind = m.kind ∧
          (m.detector = none →
            ∃ before after, dispatched calls = before ++ e :: after ∧ ∀ f ∈ before, f.message.kind ≠ m.kind) ∧
          ∀ d, m.detector = some d →
            e.message.visibleTo d ∧
              ∀ f ∈ dispatched calls, f.message.kind = m.kind → f.message.visibleTo d → f = e) := by
  have w := wellFormed_empty.replay calls
  rw [← store_replay]
  refine ⟨rfl, ?_, ?_, ?_⟩
  · simp only [dispatch_eq_ok_iff, Message.clashes_iff_detector, not_and]
    refine ⟨?_, ?_⟩
    · rintro ⟨sent, b', event, hev, free, -, -⟩
      exact ⟨⟨event, hev⟩, free⟩
    · rintro ⟨⟨event, hev⟩, free⟩
      exact ⟨_, _, event, hev, free, rfl, rfl⟩
  · intro sent b' h
    obtain ⟨event, hev, -, stamped, stored⟩ := dispatch_eq_ok_iff.1 h
    exact ⟨event, hev, stamped, stored⟩
  · intro error h
    refine ⟨by rw [apply, h], ?_⟩
    rcases dispatch_error_cases h with idle | ⟨event, e, hev, conflict, blamed⟩
    · exact .inl idle
    · -- What is in the way is what was looked for: the first of the kind, or the only one that the detector sees.
      obtain ⟨stored, kind, first, only⟩ := w.of_conflict?_eq_some conflict
      exact .inr ⟨event, e, hev, blamed, stored, dispatchedSinceBegin_of_mem calls stored, kind, first, only⟩

/-- An event in which two stages have dispatched deposits for different detectors, after one of them
was refused. -/
def contest : List Call :=
  [.beginEvent 3,
    .dispatch 4 { records := .none .deposited, detector := some "left" },
    .dispatch 5 { records := .none .deposited, detector := some "left" },
    .dispatch 5 { records := .none .deposited, detector := some "right" }]

/-- There a deposit for no detector is refused on account of the first stage, which dispatched the
earliest one, and one for a third detector is dispatched. -/
theorem replay_dispatch_blames_first_contest :
    (∃ e before after, e.producer = 4 ∧ dispatched contest = before ++ e :: after ∧
      (∀ f ∈ before, f.message.kind ≠ .deposited) ∧
      (empty.replay contest).dispatch 6 { records := .none .deposited } =
        .error (.duplicateProducer .deposited none 3 e.producer 6)) ∧
    ∃ sent b', (empty.replay contest).dispatch 6 { records := .none .deposited, detector := some "middle" } =
      .ok (sent, b') := by
  have refused : (empty.replay contest).dispatch 6 { records := .none .deposited } =
      .error (.duplicateProducer .deposited none 3 4 6) := rfl
  refine ⟨?_, ?_⟩
  · obtain ⟨-, -, -, blame⟩ := replay_dispatch_blames_first contest 6 { records := .none .deposited }
    obtain ⟨-, ⟨-, other⟩ | ⟨event, e, -, named, -, -, -, first, -⟩⟩ := blame _ refused
    · cases other
    · obtain ⟨before, after, split, earlier⟩ := first rfl
      obtain ⟨-, -, -, producer, -⟩ := BusError.duplicateProducer.inj named
      rw [producer] at refused
      exact ⟨e, before, after, producer.symm, split, earlier, refused⟩
  · obtain ⟨-, free, -⟩ :=
      replay_dispatch_blames_first contest 6 { records := .none .deposited, detector := some "middle" }
    refine free.2 ⟨⟨3, rfl⟩, ?_⟩
    rw [← store_replay]
    intro e he _
    rcases List.mem_cons.1 (show e ∈ [_, _] from he) with rfl | he
    · decide
    · rw [List.mem_singleton.1 he]
      decide

end Bus

end SensorSim
