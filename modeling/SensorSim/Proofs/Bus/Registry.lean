import Mathlib
import SensorSim.Proofs.Bus.Fetch

/-!
# The registry of declarations

Declarations are accepted outside of events alone. Of those that were accepted the bus lists each
subscription once, where it was accepted first and with the strictest requirement, and each
publication once, where it was accepted first (`Registers`, which every call keeps). Which of the
accepted calls came first cannot be told from what is fetched (`replay_registry`).
-/

namespace SensorSim

open Bus (StageId Kind Requirement Subscription Publication)

namespace Bus

/-! ## Accepted calls -/

/-- Whether a call is a declaration. -/
def Call.declares : Call → Bool
  | subscribe _ | publish _ => true
  | beginEvent _ | endEvent | dispatch .. => false

/-- The event in progress after a call, given the one before. -/
def Call.eventAfter (before : Option Nat) : Call → Option Nat
  | beginEvent event => some event
  | endEvent => none
  | subscribe _ | publish _ | dispatch .. => before

/-- The event that some calls leave in progress. -/
def eventOf (calls : List Call) : Option Nat :=
  calls.foldl Call.eventAfter none

/-- The declarations among some calls that are made outside of events, where an event may be in
progress at first. -/
def acceptedFrom (event : Option Nat) : List Call → List Call
  | [] => []
  | c :: rest =>
    if c.declares ∧ event = none then c :: acceptedFrom (c.eventAfter event) rest
    else acceptedFrom (c.eventAfter event) rest

/-- The declarations among some calls that are made outside of events. -/
def accepted (calls : List Call) : List Call :=
  acceptedFrom none calls

/-- The subscriptions that are accepted, in the order of the calls. -/
def subscribed (calls : List Call) : List Subscription :=
  (accepted calls).filterMap fun
    | .subscribe s => some s
    | .publish _ | .beginEvent _ | .endEvent | .dispatch .. => none

/-- The publications that are accepted, in the order of the calls. -/
def published (calls : List Call) : List Publication :=
  (accepted calls).filterMap fun
    | .publish p => some p
    | .subscribe _ | .beginEvent _ | .endEvent | .dispatch .. => none

/-- The event in progress is what the last call makes of the one before it. -/
lemma eventOf_snoc (calls : List Call) (c : Call) : eventOf (calls ++ [c]) = c.eventAfter (eventOf calls) := by
  rw [eventOf, List.foldl_append]
  rfl

/-- Later calls are accepted by the event that the earlier ones leave in progress. -/
lemma acceptedFrom_append (event : Option Nat) (calls later : List Call) :
    acceptedFrom event (calls ++ later) =
      acceptedFrom event calls ++ acceptedFrom (calls.foldl Call.eventAfter event) later := by
  induction calls generalizing event with
  | nil => rfl
  | cons c rest ih =>
    rw [List.cons_append, acceptedFrom, acceptedFrom, ih, List.foldl_cons]
    split <;> rfl

/-- What is accepted of two sequences is what is accepted of the first, and of the second after
it. -/
lemma accepted_append (calls later : List Call) :
    accepted (calls ++ later) = accepted calls ++ acceptedFrom (eventOf calls) later :=
  acceptedFrom_append none calls later

/-- One more call is accepted when it is a declaration and no event is in progress. -/
lemma accepted_snoc (calls : List Call) (c : Call) :
    accepted (calls ++ [c]) = accepted calls ++ if c.declares ∧ eventOf calls = none then [c] else [] := by
  rw [accepted_append, acceptedFrom, acceptedFrom]

/-- Declarations do not matter for which event is in progress. -/
lemma eventOf_filter (calls : List Call) : eventOf (calls.filter (!·.declares)) = eventOf calls := by
  induction calls using List.reverseRecOn with
  | nil => rfl
  | append_singleton calls c ih =>
    rw [List.filter_append, eventOf_snoc, ← ih]
    cases other : c.declares with
    | false => rw [List.filter_cons_of_pos (by rw [other]; rfl), List.filter_nil, eventOf_snoc]
    | true =>
      rw [List.filter_cons_of_neg (by rw [other]; decide), List.filter_nil, List.append_nil]
      cases c <;> first | rfl | cases other

/-! ## What is listed -/

section

variable {α : Type} [BEq α] [LawfulBEq α] {l : List α} {a : α}

/-- Something that is in a list already makes no difference at its end. -/
lemma eraseDups_snoc_of_mem (h : a ∈ l) : (l ++ [a]).eraseDups = l.eraseDups := by
  rw [List.eraseDups_append]
  simp [List.removeAll, h]

/-- Something new at the end of a list is the last of its different elements. -/
lemma eraseDups_snoc_of_notMem (h : a ∉ l) : (l ++ [a]).eraseDups = l.eraseDups ++ [a] := by
  rw [List.eraseDups_append]
  simp [List.removeAll, List.eraseDups_cons, h]

/-- Without its duplicates a list holds nothing twice. -/
lemma nodup_eraseDups (l : List α) : l.eraseDups.Nodup := by
  induction l using List.reverseRecOn with
  | nil => exact .nil
  | append_singleton l a ih =>
    by_cases h : a ∈ l
    · rw [eraseDups_snoc_of_mem h]
      exact ih
    · rw [eraseDups_snoc_of_notMem h, ← List.concat_eq_append]
      exact ih.concat (List.mem_eraseDups.not.2 h)

end

/-- The bus after some calls: it is in the event that they leave in progress, and lists what was
accepted of their declarations in the order in which each was accepted first. -/
structure Registers (b : Bus) (calls : List Call) : Prop where
  event : b.event = eventOf calls
  keys : b.subscriptions.map Subscription.key = ((subscribed calls).map Subscription.key).eraseDups
  publications : b.publications = (published calls).eraseDups
  holds : b.Holds (subscribed calls) (published calls)

variable {b : Bus} {calls : List Call}

/-- A declaration in an event is refused. -/
lemma declare_of_event {event : Nat} (hev : b.event = some event) (s : Subscription) (p : Publication) :
    b.subscribe s = .error (.closed s.stage event) ∧ b.publish p = .error (.closed p.stage event) := by
  rw [subscribe, publish, hev]
  exact ⟨rfl, rfl⟩

/-- A declaration in an event changes nothing. -/
lemma apply_of_event {event : Nat} (hev : b.event = some event) {c : Call} (declares : c.declares) :
    b.apply c = b := by
  cases c with
  | subscribe s => rw [apply, (declare_of_event hev s ⟨0, .deposited, .any⟩).1]
  | publish p => rw [apply, (declare_of_event hev default p).2]
  | beginEvent event => cases declares
  | endEvent => cases declares
  | dispatch producer m => cases declares

/-- A call that is no declaration leaves what was declared as it is. -/
lemma apply_frame (b : Bus) {c : Call} (other : c.declares = false) :
    (b.apply c).subscriptions = b.subscriptions ∧ (b.apply c).publications = b.publications ∧
      (b.apply c).event = c.eventAfter b.event := by
  cases c with
  | subscribe s => cases other
  | publish p => cases other
  | beginEvent event => exact ⟨rfl, rfl, rfl⟩
  | endEvent => exact ⟨rfl, rfl, rfl⟩
  | dispatch producer m =>
    rw [apply]
    cases h : b.dispatch producer m with
    | error e => exact ⟨rfl, rfl, rfl⟩
    | ok result =>
      obtain ⟨sent, b'⟩ := result
      obtain ⟨_, _, _, _, rfl⟩ := dispatch_eq_ok_iff.1 h
      exact ⟨rfl, rfl, rfl⟩

/-- A call that is not accepted adds nothing. -/
lemma Registers.congr (r : b.Registers calls) {c : Call} {b' : Bus} (refused : ¬ (c.declares ∧ eventOf calls = none))
    (subscriptions : b'.subscriptions = b.subscriptions) (publications : b'.publications = b.publications)
    (event : b'.event = c.eventAfter b.event) : b'.Registers (calls ++ [c]) := by
  have unchanged : accepted (calls ++ [c]) = accepted calls := by
    rw [accepted_snoc, if_neg refused, List.append_nil]
  refine ⟨?_, ?_, ?_, ?_⟩
  · rw [event, r.event, eventOf_snoc]
  · rw [subscriptions, r.keys, subscribed, subscribed, unchanged]
  · rw [publications, r.publications, published, published, unchanged]
  · rw [subscribed, published, unchanged]
    exact r.holds.congr subscriptions publications

/-- A subscription that is accepted is listed last, or makes the one that is like it stricter. -/
lemma Registers.subscribe (r : b.Registers calls) (idle : eventOf calls = none) (s : Subscription) :
    (b.withSubscription s).Registers (calls ++ [.subscribe s]) := by
  have one : accepted (calls ++ [.subscribe s]) = accepted calls ++ [.subscribe s] := by
    rw [accepted_snoc, if_pos ⟨rfl, idle⟩]
  have more : subscribed (calls ++ [.subscribe s]) = subscribed calls ++ [s] := by
    rw [subscribed, one, List.filterMap_append]
    rfl
  have same : published (calls ++ [.subscribe s]) = published calls := by
    rw [published, one, List.filterMap_append]
    exact List.append_nil _
  refine ⟨?_, ?_, ?_, ?_⟩
  · rw [eventOf_snoc]
    exact r.event
  · rw [more, List.map_append, List.map_singleton, withSubscription, keys_merge]
    split
    · rename_i known
      rw [eraseDups_snoc_of_mem (List.mem_eraseDups.1 (r.keys ▸ known)), r.keys]
    · rename_i fresh
      rw [eraseDups_snoc_of_notMem (fun h => fresh (r.keys ▸ List.mem_eraseDups.2 h)), r.keys]
  · rw [same]
    exact r.publications
  · rw [more, same]
    exact r.holds.subscribe s

/-- A publication that is accepted is listed last unless it is listed already. -/
lemma Registers.publish (r : b.Registers calls) (idle : eventOf calls = none) (p : Publication) :
    (b.withPublication p).Registers (calls ++ [.publish p]) := by
  have one : accepted (calls ++ [.publish p]) = accepted calls ++ [.publish p] := by
    rw [accepted_snoc, if_pos ⟨rfl, idle⟩]
  have same : subscribed (calls ++ [.publish p]) = subscribed calls := by
    rw [subscribed, one, List.filterMap_append]
    exact List.append_nil _
  have more : published (calls ++ [.publish p]) = published calls ++ [p] := by
    rw [published, one, List.filterMap_append]
    rfl
  have holds := r.holds.publish p
  rw [← same, ← more] at holds
  refine ⟨?_, ?_, ?_, holds⟩
  · rw [eventOf_snoc, withPublication]
    split <;> exact r.event
  · rw [same, ← r.keys, withPublication]
    split <;> rfl
  · rw [more, withPublication]
    split
    · rename_i known
      rw [eraseDups_snoc_of_mem (List.mem_eraseDups.1 (r.publications ▸ known)), r.publications]
    · rename_i fresh
      rw [eraseDups_snoc_of_notMem (fun h => fresh (r.publications ▸ List.mem_eraseDups.2 h)), r.publications]

/-- Every call keeps the lists. -/
lemma Registers.apply (r : b.Registers calls) (c : Call) : (b.apply c).Registers (calls ++ [c]) := by
  cases other : c.declares with
  | false =>
    obtain ⟨subscriptions, publications, event⟩ := apply_frame b other
    refine r.congr ?_ subscriptions publications event
    rw [other]
    exact fun given => nomatch given.1
  | true =>
    cases hev : eventOf calls with
    | some event =>
      rw [apply_of_event (r.event.trans hev) other]
      refine r.congr ?_ rfl rfl ?_
      · rw [hev]
        exact fun given => nomatch given.2
      · cases c <;> first | rfl | cases other
    | none =>
      have idle := r.event.trans hev
      cases c with
      | subscribe s =>
        rw [Bus.apply, subscribe_of_idle idle]
        exact r.subscribe hev s
      | publish p =>
        rw [Bus.apply, publish_of_idle idle]
        exact r.publish hev p
      | beginEvent event => cases other
      | endEvent => cases other
      | dispatch producer m => cases other

/-- Calls on an empty bus keep the lists. -/
lemma registers_replay (calls : List Call) : (empty.replay calls).Registers calls := by
  induction calls using List.reverseRecOn with
  | nil => exact ⟨rfl, rfl, rfl, holds_empty⟩
  | append_singleton calls c ih =>
    rw [replay_snoc]
    exact ih.apply c

/-- The list of subscriptions has each key where it was accepted first, and it is required when it
was in one of the calls that were accepted. -/
lemma Registers.subscriptions_eq (r : b.Registers calls) :
    b.subscriptions = ((subscribed calls).map Subscription.key).eraseDups.map fun k =>
      ⟨k.1, k.2.1, k.2.2,
        if ∃ s ∈ subscribed calls, s.key = k ∧ s.requirement = .required then .required else .optional⟩ := by
  rw [← r.keys, List.map_map]
  conv_lhs => rw [← List.map_id b.subscriptions]
  refine List.map_congr_left fun t ht => ?_
  have strict := r.holds.strict t ht
  obtain ⟨stage, kind, scope, requirement⟩ := t
  cases requirement with
  | required =>
    rw [Function.comp_apply, if_pos (strict.1 rfl)]
    rfl
  | optional =>
    rw [Function.comp_apply, if_neg fun h => nomatch strict.2 h]
    rfl

/-! ## Fetching from either of two buses -/

/-- The strictest of some requirements is a matter of which ones there are. -/
lemma strictest?_congr {rs rs' : List Requirement} (h : ∀ r, r ∈ rs' ↔ r ∈ rs) : strictest? rs' = strictest? rs := by
  have required : strictest? rs' = some .required ↔ strictest? rs = some .required := by
    rw [strictest?_eq_required_iff, strictest?_eq_required_iff, h]
  have absent : strictest? rs' = none ↔ strictest? rs = none := by
    rw [strictest?_eq_none_iff, strictest?_eq_none_iff, List.eq_nil_iff_forall_not_mem, List.eq_nil_iff_forall_not_mem]
    exact forall_congr' fun r => not_congr (h r)
  generalize strictest? rs' = x at required absent ⊢
  generalize strictest? rs = y at required absent ⊢
  rcases x with _ | _ | _ <;> rcases y with _ | _ | _ <;> simp at required absent ⊢

/-- A bus has a subscription when its key was declared and it is required as the declarations of the
key say. -/
lemma Holds.mem_iff {s : List Subscription} {p : List Publication} (h : b.Holds s p) {t : Subscription} :
    t ∈ b.subscriptions ↔ t.key ∈ s.map Subscription.key ∧
      (t.requirement = .required ↔ ∃ u ∈ s, u.key = t.key ∧ u.requirement = .required) := by
  refine ⟨fun ht => ⟨(h.keys t.key).1 (List.mem_map_of_mem ht), h.strict t ht⟩, fun given => ?_⟩
  obtain ⟨declared, strict⟩ := given
  obtain ⟨u, hu, key⟩ := List.mem_map.1 ((h.keys t.key).2 declared)
  have same : u.requirement = .required ↔ t.requirement = .required := by
    rw [h.strict u hu, strict, key]
  obtain ⟨stage, kind, scope, requirement⟩ := t
  obtain ⟨stage', kind', scope', requirement'⟩ := u
  cases key
  cases requirement <;> cases requirement' <;> simp_all

/-- The same event with the same messages in two buses. -/
structure SameEvent (b b' : Bus) : Prop where
  event : b'.event = b.event
  store : b'.store = b.store

/-- A call that is no declaration does the same in the same event. -/
lemma SameEvent.apply {b' : Bus} (h : b.SameEvent b') {c : Call} (other : c.declares = false) :
    (b.apply c).SameEvent (b'.apply c) := by
  cases c with
  | subscribe s => cases other
  | publish p => cases other
  | beginEvent event => exact ⟨rfl, rfl⟩
  | endEvent => exact ⟨rfl, rfl⟩
  | dispatch producer m =>
    obtain ⟨subscriptions, publications, event, store⟩ := b
    obtain ⟨subscriptions', publications', event', store'⟩ := b'
    obtain ⟨rfl, rfl⟩ := h
    cases event' with
    | none => exact ⟨rfl, rfl⟩
    | some event =>
      -- What is in the way of a message is a matter of the stored messages.
      have same : (⟨subscriptions', publications', some event, store'⟩ : Bus).conflict? m.kind m.detector =
        (⟨subscriptions, publications, some event, store'⟩ : Bus).conflict? m.kind m.detector := rfl
      simp only [Bus.apply, dispatch, same]
      cases (⟨subscriptions, publications, some event, store'⟩ : Bus).conflict? m.kind m.detector <;> exact ⟨rfl, rfl⟩

/-- A declaration leaves the event as it is. -/
lemma sameEvent_apply (b : Bus) {c : Call} (declares : c.declares) : b.SameEvent (b.apply c) := by
  rcases apply_cases b c with ⟨-, event, store⟩ | ⟨clears, -⟩ | ⟨producer, m, -, -, rfl, -⟩
  · exact ⟨event, store⟩
  · cases c with
    | subscribe s => cases clears
    | publish p => cases clears
    | beginEvent event => cases declares
    | endEvent => cases declares
    | dispatch producer m => cases clears
  · cases declares

/-- Declarations make no difference to the event and its messages. -/
lemma sameEvent_replay (b : Bus) (calls : List Call) :
    (b.replay (calls.filter (!·.declares))).SameEvent (b.replay calls) := by
  induction calls using List.reverseRecOn with
  | nil => exact ⟨rfl, rfl⟩
  | append_singleton calls c ih =>
    rw [List.filter_append, replay_snoc]
    cases other : c.declares with
    | false =>
      rw [List.filter_cons_of_pos (by rw [other]; rfl), List.filter_nil, replay_snoc]
      exact ih.apply other
    | true =>
      have last := (b.replay calls).sameEvent_apply other
      rw [List.filter_cons_of_neg (by rw [other]; decide), List.filter_nil, List.append_nil]
      exact ⟨last.event.trans ih.event, last.store.trans ih.store⟩

/-- Nobody who fetches can tell two buses apart that have the same subscriptions, in whatever order,
and the same messages. -/
lemma SameEvent.fetch_eq {b' : Bus} (same : b.SameEvent b') (mem : ∀ t, t ∈ b'.subscriptions ↔ t ∈ b.subscriptions)
    (stage : StageId) (kind : Kind) (d : String) : b'.fetch stage kind d = b.fetch stage kind d := by
  have strict : strictest? ((b'.covering stage kind d).map Subscription.requirement) =
      strictest? ((b.covering stage kind d).map Subscription.requirement) := by
    refine strictest?_congr fun r => ?_
    simp only [List.mem_map, mem_covering, mem]
  have found : b'.find? kind d = b.find? kind d := by
    rw [find?, stored?, stored?, same.store, find?, stored?, stored?]
  rw [fetch, strict, found, eventNumber, same.event, fetch, eventNumber]

/-- In the same event, buses with the same subscriptions answer a fetch for all detectors alike. -/
lemma SameEvent.fetchAll_eq {b' : Bus} (same : b.SameEvent b')
    (mem : ∀ t, t ∈ b'.subscriptions ↔ t ∈ b.subscriptions)
    (distinct : (b.subscriptions.map Subscription.key).Nodup)
    (distinct' : (b'.subscriptions.map Subscription.key).Nodup)
    (stage : StageId) (kind : Kind) : b'.fetchAll stage kind = b.fetchAll stage kind := by
  by_cases whole : ∃ t ∈ b.subscriptions, t.key = (stage, kind, .any)
  · obtain ⟨t, ht, key⟩ := whole
    rw [fetchAll_of_key distinct ht key, fetchAll_of_key distinct' ((mem t).2 ht) key, same.store, eventNumber,
      same.event, eventNumber]
  · have uncovered : ∀ t ∈ b.subscriptions, t.key ≠ (stage, kind, .any) := fun t ht key => whole ⟨t, ht, key⟩
    rw [(fetchAll_eq_notSubscribed_iff b stage kind).2 uncovered,
      (fetchAll_eq_notSubscribed_iff b' stage kind).2 fun t ht => uncovered t ((mem t).1 ht)]

/-! ## Sequences of calls -/

/-- Sequences of calls with the same accepted declarations, in whatever order, and otherwise the
same calls lead to the same answers. -/
lemma fetch_eq_of_perm {calls calls' : List Call} (perm : (accepted calls').Perm (accepted calls))
    (others : calls'.filter (!·.declares) = calls.filter (!·.declares)) (stage : StageId) (kind : Kind) (d : String) :
    (empty.replay calls').fetch stage kind d = (empty.replay calls).fetch stage kind d ∧
      (empty.replay calls').fetchAll stage kind = (empty.replay calls).fetchAll stage kind := by
  have r := registers_replay calls
  have r' := registers_replay calls'
  have same : (empty.replay calls).SameEvent (empty.replay calls') := by
    have first := sameEvent_replay empty calls
    have second := sameEvent_replay empty calls'
    rw [others] at second
    exact ⟨second.event.trans first.event.symm, second.store.trans first.store.symm⟩
  have declared : (subscribed calls').Perm (subscribed calls) := perm.filterMap _
  have mem : ∀ t, t ∈ (empty.replay calls').subscriptions ↔ t ∈ (empty.replay calls).subscriptions := by
    intro t
    rw [r.holds.mem_iff, r'.holds.mem_iff, (declared.map Subscription.key).mem_iff]
    simp only [declared.mem_iff]
  exact ⟨same.fetch_eq mem stage kind d, same.fetchAll_eq mem r.holds.distinct r'.holds.distinct stage kind⟩

/-- After any calls, the subscriptions are listed once for each stage, kind and scope, in the order
in which they were first accepted, and as required when one that was accepted was; the publications
are listed once each, in the order in which they were first accepted. A declaration is accepted
exactly outside of events, and one that is not changes nothing. Whatever is fetched later does not
depend on the order of the declarations that were accepted. -/
theorem replay_registry (calls : List Call) :
    (empty.replay calls).subscriptions = (((subscribed calls).map Subscription.key).eraseDups.map fun k =>
      ⟨k.1, k.2.1, k.2.2,
        if ∃ s ∈ subscribed calls, s.key = k ∧ s.requirement = .required then .required else .optional⟩) ∧
    ((empty.replay calls).subscriptions.map Subscription.key).Nodup ∧
    (empty.replay calls).publications = (published calls).eraseDups ∧
    (empty.replay calls).publications.Nodup ∧
    (∀ event, eventOf calls = some event → ∀ s p,
      (empty.replay calls).subscribe s = .error (.closed s.stage event) ∧
      (empty.replay calls).publish p = .error (.closed p.stage event) ∧
      empty.replay (calls ++ [.subscribe s]) = empty.replay calls ∧
      empty.replay (calls ++ [.publish p]) = empty.replay calls) ∧
    (eventOf calls = none → ∀ s p,
      (∃ b, (empty.replay calls).subscribe s = .ok b) ∧ ∃ b, (empty.replay calls).publish p = .ok b) ∧
    ∀ calls', (accepted calls').Perm (accepted calls) →
      calls'.filter (!·.declares) = calls.filter (!·.declares) → ∀ later stage kind d,
        (empty.replay (calls' ++ later)).fetch stage kind d = (empty.replay (calls ++ later)).fetch stage kind d ∧
        (empty.replay (calls' ++ later)).fetchAll stage kind = (empty.replay (calls ++ later)).fetchAll stage kind := by
  have r := registers_replay calls
  refine ⟨r.subscriptions_eq, r.holds.distinct, r.publications, ?_, fun event hev s p => ?_, fun hev s p => ?_, ?_⟩
  · rw [r.publications]
    exact nodup_eraseDups _
  · have active := r.event.trans hev
    obtain ⟨refused, refused'⟩ := declare_of_event active s p
    refine ⟨refused, refused', ?_, ?_⟩
    · rw [replay_snoc, apply_of_event active rfl]
    · rw [replay_snoc, apply_of_event active rfl]
  · have idle := r.event.trans hev
    exact ⟨⟨_, subscribe_of_idle idle s⟩, ⟨_, publish_of_idle idle p⟩⟩
  · intro calls' perm others later stage kind d
    have event : eventOf calls' = eventOf calls := by rw [← eventOf_filter, others, eventOf_filter]
    -- The event in progress is the same, so the later calls are accepted alike and add the same to
    -- both.
    refine fetch_eq_of_perm ?_ ?_ stage kind d
    · rw [accepted_append, accepted_append, event]
      exact perm.append_right _
    · rw [List.filter_append, others, List.filter_append]

/-- The declarations of three stages around an event. The second stage comes to require the
deposits, the first repeats itself, and the third is late. -/
def hesitant : List Call :=
  [.subscribe ⟨1, .deposited, .any, .optional⟩, .publish ⟨0, .deposited, .detector "left"⟩,
    .subscribe ⟨1, .drifted, .detector "left", .optional⟩, .beginEvent 4, .subscribe ⟨2, .pixel, .any, .required⟩,
    .publish ⟨2, .pixel, .any⟩, .endEvent, .subscribe ⟨1, .deposited, .any, .required⟩,
    .publish ⟨0, .deposited, .detector "left"⟩, .publish ⟨1, .pixel, .any⟩]

/-- The same declarations in the reverse order, and all before the event. -/
def reversed : List Call :=
  (accepted hesitant).reverse ++ [.beginEvent 4, .endEvent]

/-- The deposits are required where they were optional first, what is late is refused, and in the
next event the second stage misses the deposits in either order. -/
theorem replay_registry_hesitant :
    (empty.replay hesitant).subscriptions =
      [⟨1, .deposited, .any, .required⟩, ⟨1, .drifted, .detector "left", .optional⟩] ∧
    (empty.replay hesitant).publications = [⟨0, .deposited, .detector "left"⟩, ⟨1, .pixel, .any⟩] ∧
    (empty.replay (hesitant ++ [.beginEvent 5])).publish ⟨2, .pixel, .any⟩ = .error (.closed 2 5) ∧
    (empty.replay (reversed ++ [.beginEvent 5])).fetch 1 .deposited "left" =
      .error (.noMessage 1 .deposited (some "left") 5) ∧
    (empty.replay (reversed ++ [.beginEvent 5])).fetchAll 1 .deposited = .error (.noMessage 1 .deposited none 5) := by
  obtain ⟨subscriptions, -, publications, -, -, -, orders⟩ := replay_registry hesitant
  obtain ⟨-, -, -, -, refused, -⟩ := replay_registry (hesitant ++ [.beginEvent 5])
  obtain ⟨one, all⟩ := orders reversed (List.reverse_perm (accepted hesitant)) rfl [.beginEvent 5] 1 .deposited "left"
  exact ⟨subscriptions, publications, (refused 5 rfl default ⟨2, .pixel, .any⟩).2.1, one, all⟩

end Bus

end SensorSim
