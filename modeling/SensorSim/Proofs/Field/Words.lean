import Mathlib
import SensorSim.Field.TableFile
import SensorSim.Proofs.Except

/-!
# What readers read

A reader `Reads` a relation between words and values when it takes from the front of what remains
exactly the words that the relation has for the value, and fails where there are none. The relation
of a reader that is put together follows from those of its parts.
-/

namespace SensorSim.Field.TableFile

open Text

/-- A word writes a finite number. -/
def WritesNumber (t : List Char) (x : Float) : Prop :=
  Decimal.read? t = some x ∧ x.isFinite

/-- A word writes a natural number of 64 bits. -/
def WritesNatural (t : List Char) (n : Nat) : Prop :=
  readInteger .size t = .ok (n : Int)

namespace Reader

variable {α β : Type}

/-- A reader succeeds with a value exactly when the remaining words start with some that are related
to it, and leaves what follows them. -/
def Reads (r : Reader α) (W : Tokens → α → Prop) : Prop :=
  ∀ tokens a rest, r tokens = .ok (a, rest) ↔ ∃ ws, W ws a ∧ tokens = ws ++ rest

namespace Reads

/-- What a reader reads may be said in other words. -/
lemma congr {r : Reader α} {V W : Tokens → α → Prop} (h : Reads r V) (same : ∀ ws a, V ws a ↔ W ws a) :
    Reads r W := by
  intro tokens a rest
  rw [h]
  simp only [same]

/-- A value that is there without reading takes no words. -/
lemma pure (a : α) : Reads (Pure.pure a) fun ws b => ws = [] ∧ b = a := by
  intro tokens b rest
  show Except.ok (a, tokens) = Except.ok (b, rest) ↔ _
  simp only [Except.ok.injEq, Prod.mk.injEq, and_assoc, exists_eq_left, List.nil_append]
  rw [eq_comm]

/-- A reader that fails reads nothing. -/
lemma throw (e : Fault) : Reads (MonadExcept.throw e : Reader α) fun _ _ => False := by
  intro tokens b rest
  show Except.error e = Except.ok (b, rest) ↔ _
  simp

/-- A reader in sequence reads the words of the one and then those of the other. -/
lemma bind {x : Reader α} {f : α → Reader β} {V : Tokens → α → Prop} {W : α → Tokens → β → Prop}
    (hx : Reads x V) (hf : ∀ a, Reads (f a) (W a)) :
    Reads (x >>= f) fun ws b => ∃ a us vs, ws = us ++ vs ∧ V us a ∧ W a vs b := by
  intro tokens b rest
  have seq : (x >>= f) tokens = .ok (b, rest) ↔ ∃ a mid, x tokens = .ok (a, mid) ∧ f a mid = .ok (b, rest) :=
    bind_eq_ok_iff.trans Prod.exists
  rw [seq]
  refine ⟨?_, ?_⟩
  · intro given
    obtain ⟨a, mid, h, h'⟩ := given
    obtain ⟨us, hV, rfl⟩ := (hx _ _ _).1 h
    obtain ⟨vs, hW, rfl⟩ := (hf a _ _ _).1 h'
    exact ⟨us ++ vs, ⟨a, us, vs, rfl, hV, hW⟩, (List.append_assoc ..).symm⟩
  · intro given
    obtain ⟨_, ⟨a, us, vs, rfl, hV, hW⟩, rfl⟩ := given
    exact ⟨a, vs ++ rest, (hx _ _ _).2 ⟨us, hV, List.append_assoc ..⟩, (hf a _ _ _).2 ⟨vs, hW, rfl⟩⟩

/-- What is read depends on a condition that is known before. -/
lemma ite {c : Prop} [Decidable c] {r s : Reader α} {V W : Tokens → α → Prop} (hr : Reads r V) (hs : Reads s W) :
    Reads (if c then r else s) fun ws a => c ∧ V ws a ∨ ¬c ∧ W ws a := by
  by_cases h : c
  · rw [if_pos h]
    exact hr.congr (by simp [h])
  · rw [if_neg h]
    exact hs.congr (by simp [h])

end Reads

/-! ## Single words -/

/-- A word is read as it is. -/
lemma reads_word (item : String) : Reads (word item) fun ws t => ws = [t] := by
  intro tokens t rest
  cases tokens with
  | nil => simp [word]
  | cons t' tokens => simp [word]

/-- Words that are skipped need only be there. -/
lemma reads_skip (item : String) (n : Nat) : Reads (skip item n) fun ws _ => ws.length = n := by
  induction n with
  | zero => exact (Reads.pure ()).congr fun ws _ => by simp [List.length_eq_zero_iff]
  | succ n ih =>
    refine ((reads_word item).bind fun _ => ih).congr fun ws _ => ?_
    refine ⟨?_, ?_⟩
    · intro e
      obtain ⟨t, us, vs, rfl, rfl, h⟩ := e
      simp [h]
    · intro h
      obtain ⟨t, vs, rfl⟩ := List.exists_cons_of_length_eq_add_one h
      exact ⟨t, [t], vs, rfl, rfl, by simpa using h⟩

/-- A reader of one word has the words whose text it accepts. -/
lemma Reads.word_bind (item : String) {f : List Char → Reader α} {W : List Char → α → Prop}
    (hf : ∀ t, Reads (f t) fun ws a => ws = [] ∧ W t a) :
    Reads (word item >>= f) fun ws a => ∃ t, ws = [t] ∧ W t a :=
  ((reads_word item).bind hf).congr (by simp)

/-- A number takes one word, which writes it. -/
lemma reads_number (item : String) : Reads (number item) fun ws x => ∃ t, ws = [t] ∧ WritesNumber t x := by
  unfold number
  refine Reads.word_bind item fun t => ?_
  unfold WritesNumber
  cases Decimal.read? t with
  | none => exact (Reads.throw _).congr (by simp)
  | some y =>
    dsimp only
    split
    · rename_i finite
      refine (Reads.pure y).congr fun ws x => ?_
      refine ⟨?_, ?_⟩
      · intro e
        obtain ⟨rfl, rfl⟩ := e
        exact ⟨rfl, rfl, finite⟩
      · intro e
        obtain ⟨rfl, h, -⟩ := e
        exact ⟨rfl, (Option.some.inj h).symm⟩
    · rename_i infinite
      refine (Reads.throw _).congr fun ws x => ?_
      simp only [false_iff, Option.some.injEq]
      intro e
      obtain ⟨-, rfl, finite⟩ := e
      exact infinite finite

/-- What fits the range of sizes is not negative. -/
lemma exists_eq_natCast_of_readInteger {t : List Char} {z : Int} (h : readInteger .size t = .ok z) :
    ∃ n : Nat, z = n := by
  have magnitude : ∀ {bound f cs}, (do return ((← readMagnitude bound f 0 cs : Nat) : Int)) = Except.ok z →
      ∃ n : Nat, z = n := by
    intro bound f cs h
    cases hm : readMagnitude bound f 0 cs with
    | error e =>
      rw [hm] at h
      cases h
    | ok n =>
      rw [hm] at h
      exact ⟨n, (Except.ok.inj h).symm⟩
  unfold readInteger at h
  split at h
  · cases h
  · exact magnitude h
  · cases h
  · exact magnitude h

/-- A natural number takes one word, which writes it. -/
lemma reads_natural (item : String) : Reads (natural item) fun ws n => ∃ t, ws = [t] ∧ WritesNatural t n := by
  unfold natural
  refine Reads.word_bind item fun t => ?_
  unfold WritesNatural
  cases h : readInteger .size t with
  | error e => exact (Reads.throw _).congr (by simp)
  | ok z =>
    obtain ⟨n, rfl⟩ := exists_eq_natCast_of_readInteger h
    exact (Reads.pure _).congr (by simp [eq_comm])

/-- A place takes one word, which writes a number from one up to that of the bins. -/
lemma reads_place (item : String) (bins : Nat) :
    Reads (place item bins) fun ws i => ∃ t, ws = [t] ∧ WritesNatural t (i + 1) ∧ i < bins := by
  have checked : ∀ n, Reads (if 1 ≤ n ∧ n ≤ bins then return n - 1 else MonadExcept.throw (.outside item n bins))
      fun ws i => ws = [] ∧ n = i + 1 ∧ i < bins := by
    intro n
    refine ((Reads.pure _).ite (Reads.throw _)).congr fun ws i => ?_
    simp only [and_false, or_false]
    rw [and_left_comm]
    refine and_congr_right fun _ => ?_
    omega
  refine ((reads_natural item).bind checked).congr fun ws i => ?_
  refine ⟨?_, ?_⟩
  · intro e
    obtain ⟨_, _, _, rfl, ⟨t, rfl, h⟩, rfl, rfl, hi⟩ := e
    exact ⟨t, rfl, h, hi⟩
  · intro e
    obtain ⟨t, rfl, h, hi⟩ := e
    exact ⟨i + 1, [t], [], rfl, ⟨t, rfl, h⟩, rfl, rfl, hi⟩

/-- Several numbers take a word each. -/
lemma reads_numbers (item : String) (n : Nat) :
    Reads (numbers item n) fun ws xs => List.Forall₂ WritesNumber ws xs ∧ xs.length = n := by
  induction n with
  | zero =>
    refine (Reads.pure _).congr fun ws xs => ?_
    refine ⟨?_, ?_⟩
    · intro e
      obtain ⟨rfl, rfl⟩ := e
      exact ⟨.nil, rfl⟩
    · intro e
      obtain ⟨h, count⟩ := e
      cases h with
      | nil => exact ⟨rfl, rfl⟩
      | cons h hs => cases count
  | succ n ih =>
    refine ((reads_number item).bind fun x => ih.bind fun xs => Reads.pure (x :: xs)).congr fun ws xs => ?_
    refine ⟨?_, ?_⟩
    · intro e
      obtain ⟨x, _, _, rfl, ⟨t, rfl, h⟩, xs, ts, _, rfl, ⟨hs, count⟩, rfl, rfl⟩ := e
      rw [List.append_nil]
      exact ⟨.cons h hs, by simp [count]⟩
    · intro e
      obtain ⟨h, count⟩ := e
      cases h with
      | nil => cases count
      | @cons t x ts xs h hs =>
        exact ⟨x, [t], ts, rfl, ⟨t, rfl, h⟩, xs, ts, [], by simp, ⟨hs, by simpa using count⟩, rfl, rfl⟩

end Reader

end SensorSim.Field.TableFile
