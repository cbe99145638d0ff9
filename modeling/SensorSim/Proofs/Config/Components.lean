import Mathlib
import SensorSim.Proofs.Except
import SensorSim.Config.Value
import SensorSim.Proofs.Field.Words
import SensorSim.Proofs.Text.Cut

/-!
# Values of several numbers

Tokens with gaps of blanks and commas between them, in square brackets or not, in double quotes or
not, and with blanks around it all, are the components of the value that is read
(`Writes.componentTexts_eq`). Such a value is read as a vector or a point exactly when there are as
many tokens as it has components and each is a finite number, and otherwise the count or the first
bad token is named (`vectors_of_writes`).
-/

namespace SensorSim.Config

open Text Reading
open Field.TableFile (WritesNumber)

/-! ## Written values -/

/-- A character that may stand in a token: no blank, no comma, no quote and no bracket. -/
def IsPlain (c : Char) : Prop :=
  isBlank c = false ∧ c ≠ ',' ∧ c ≠ '"' ∧ c ≠ '[' ∧ c ≠ ']'

instance (c : Char) : Decidable (IsPlain c) :=
  inferInstanceAs (Decidable (_ ∧ _))

/-- A token: one or more such characters. -/
structure IsToken (t : List Char) : Prop where
  nonempty : t ≠ []
  plain : ∀ c ∈ t, IsPlain c

/-- What stands between two tokens: one or more blanks and commas. -/
structure IsGap (gap : List Char) : Prop where
  nonempty : gap ≠ []
  blank : ∀ c ∈ gap, isBlank c ∨ c = ','

/-- Tokens joined by gaps. -/
inductive Joined : List (List Char) → List Char → Prop where
  | nil : Joined [] []
  | single (t : List Char) : Joined [t] t
  | cons {t u gap cs : List Char} {ts : List (List Char)} (apart : IsGap gap) (rest : Joined (u :: ts) cs) :
      Joined (t :: u :: ts) (t ++ gap ++ cs)

/-- A raw value that writes tokens: they are joined by gaps, perhaps put between brackets, then
perhaps between quotes, and there may be blanks around it all. -/
inductive Writes (tokens : List (List Char)) : List Char → Prop where
  | intro {cs list text before after : List Char} (valid : ∀ t ∈ tokens, IsToken t) (joined : Joined tokens cs)
      (bracketed : Enclosed '[' ']' cs list) (quoted : Enclosed '"' '"' list text) (front : ∀ c ∈ before, isBlank c)
      (back : ∀ c ∈ after, isBlank c) : Writes tokens (before ++ text ++ after)

/-- A gap consists of separators. -/
lemma separates_of_isGap {gap : List Char} (h : IsGap gap) : ∀ c ∈ gap, separates c := by
  intro c hc
  rw [separates, Bool.or_eq_true, beq_iff_eq]
  exact h.blank c hc

/-- A plain character separates nothing. -/
lemma IsPlain.not_separates {c : Char} (h : IsPlain c) : separates c = false := by
  rw [separates, h.1, Bool.false_or, beq_eq_false_iff_ne]
  exact h.2.1

/-- The runs of what is joined are the tokens. -/
lemma Joined.runs_eq {tokens : List (List Char)} {cs : List Char} (h : Joined tokens cs)
    (valid : ∀ t ∈ tokens, IsToken t) :
    runs separates cs = tokens := by
  have alone : ∀ t, IsToken t → runs separates t = [t] := fun t ht =>
    runs_eq_singleton (fun c hc => (ht.plain c hc).not_separates) ht.nonempty
  induction h with
  | nil => exact runs_nil
  | single t => exact alone t (valid t List.mem_cons_self)
  | cons apart rest ih =>
    rw [runs_append_gap (separates_of_isGap apart) apart.nonempty, alone _ (valid _ List.mem_cons_self),
      ih fun t ht => valid t (List.mem_cons_of_mem _ ht)]
    rfl

/-- What is joined starts and ends with characters of tokens. -/
lemma Joined.ends {tokens : List (List Char)} {cs : List Char} (h : Joined tokens cs)
    (valid : ∀ t ∈ tokens, IsToken t) :
    Ends IsPlain cs ∧ (cs = [] → tokens = []) := by
  have alone : ∀ t ∈ tokens, Ends IsPlain t := fun t ht => ends_of_forall (valid t ht).plain
  induction h with
  | nil => exact ⟨ends_of_forall (by simp), fun _ => rfl⟩
  | single t => exact ⟨alone t List.mem_cons_self, fun empty => absurd empty (valid t List.mem_cons_self).nonempty⟩
  | @cons t u gap cs ts apart rest ih =>
    obtain ⟨ends, bare⟩ := ih (fun t ht => valid t (List.mem_cons_of_mem _ ht))
      fun t ht => alone t (List.mem_cons_of_mem _ ht)
    have full : t ≠ [] := (valid t List.mem_cons_self).nonempty
    have full' : cs ≠ [] := fun empty => List.cons_ne_nil u ts (bare empty)
    refine ⟨⟨fun c hc => ?_, fun c hc => ?_⟩, fun empty => ?_⟩
    · rw [List.append_assoc, List.head?_append_of_ne_nil _ full] at hc
      exact (alone t List.mem_cons_self).first c hc
    · rw [List.getLast?_append_of_ne_nil _ full'] at hc
      exact ends.last c hc
    · rw [List.append_assoc] at empty
      exact absurd (List.append_eq_nil_iff.1 empty).1 full

/-- The components of a raw value are the tokens that it writes. -/
lemma Writes.componentTexts_eq {tokens : List (List Char)} {raw : List Char} (h : Writes tokens raw) :
    componentTexts raw = tokens := by
  obtain ⟨valid, joined, bracketed, quoted, front, back⟩ := h
  have ends := (joined.ends valid).1
  have listed : Ends (fun c => isBlank c = false ∧ c ≠ '"') _ :=
    bracketed.ends (ends.imp fun c hc => ⟨hc.1, hc.2.2.1⟩) (by decide) (by decide)
  have outer : Ends (fun c => isBlank c = false) _ := quoted.ends (listed.imp fun c hc => hc.1) (by decide) (by decide)
  rw [componentTexts, unquote, trim_append front back outer, quoted.between? fun c hc => (listed.first c hc).2,
    bracketed.between? fun c hc => (ends.first c hc).2.2.2.1]
  exact joined.runs_eq valid

/-! ## Numbers -/

/-- Why a token is no finite number. -/
inductive NumberFault (t : List Char) : ValueFault → Prop where
  | unread (h : Decimal.read? t = none) : NumberFault t (.notNumber (String.ofList t))
  | infinite {x : Float} (h : Decimal.read? t = some x) (large : x.isFinite = false) :
      NumberFault t (.notFinite (String.ofList t))

/-- A token stands for itself. -/
lemma IsToken.unquote_eq {t : List Char} (h : IsToken t) : unquote t = t := by
  have trimmed : trim ([] ++ t ++ []) = t :=
    trim_append (by simp) (by simp) (ends_of_forall fun c hc => (h.plain c hc).1)
  rw [List.nil_append, List.append_nil] at trimmed
  rw [unquote, trimmed]
  exact Enclosed.bare.between? fun c hc => (h.plain c (List.mem_of_mem_head? hc)).2.2.1

/-- A token is taken for the number that it writes. -/
lemma IsToken.number_eq_ok {t : List Char} (h : IsToken t) {x : Float} : number t = .ok x ↔ WritesNumber t x := by
  rw [number, h.unquote_eq, WritesNumber]
  cases Decimal.read? t with
  | none => simp
  | some y =>
    rw [Option.some.injEq]
    dsimp only
    split
    · rename_i finite
      rw [Except.ok.injEq]
      exact ⟨fun e => ⟨e, e ▸ finite⟩, And.left⟩
    · rename_i infinite
      simp only [reduceCtorEq, false_iff, not_and]
      rintro rfl
      exact infinite

/-- A token is refused for the fault that it has as a number. -/
lemma IsToken.number_eq_error {t : List Char} (h : IsToken t) {fault : ValueFault} :
    number t = .error fault ↔ NumberFault t fault := by
  rw [number, h.unquote_eq]
  refine ⟨fun failed => ?_, fun failed => ?_⟩
  · cases read : Decimal.read? t with
    | none =>
      simp only [read] at failed
      cases failed
      exact .unread read
    | some y =>
      simp only [read] at failed
      split at failed
      · cases failed
      · rename_i infinite
        cases failed
        exact .infinite read (by simpa using infinite)
  · cases failed with
    | unread read => simp only [read]
    | infinite read large => simp only [read, large, Bool.false_eq_true, if_false]

/-! ## Components -/

/-- Why tokens are not read as `n` numbers: there are not as many, or one is bad and those before it
are not. -/
inductive Refused (n : Nat) (tokens : List (List Char)) : ValueFault → Prop where
  | count (other : tokens.length ≠ n) : Refused n tokens (.componentCount n tokens.length)
  | token {before after : List (List Char)} {t : List Char} {fault : ValueFault} (count : tokens.length = n)
      (split : tokens = before ++ t :: after) (good : ∀ u ∈ before, ∃ x, WritesNumber u x) (bad : NumberFault t fault) :
      Refused n tokens fault

/-- A value gives components when it has as many texts as asked for, and each of them is a
number. -/
lemma components_eq_ok {n : Nat} {raw : List Char} {xs : List Float} :
    components n raw = .ok xs ↔ (componentTexts raw).length = n ∧ (componentTexts raw).mapM number = .ok xs := by
  rw [components]
  by_cases count : (componentTexts raw).length = n
  · rw [if_pos count]
    exact (and_iff_right count).symm
  · rw [if_neg count]
    simp only [reduceCtorEq, count, false_and]

/-- There are as many numbers as components. -/
lemma length_of_components {n : Nat} {raw : List Char} {xs : List Float} (h : components n raw = .ok xs) :
    (componentTexts raw).length = n ∧ xs.length = n := by
  obtain ⟨count, read⟩ := components_eq_ok.1 h
  exact ⟨count, count ▸ (mapM_eq_ok_iff.1 read).length_eq.symm⟩

namespace Writes

variable {tokens : List (List Char)} {raw : List Char} {n : Nat}

/-- What a value is written with are tokens. -/
lemma isToken (h : Writes tokens raw) {t : List Char} (ht : t ∈ tokens) : IsToken t := by
  obtain ⟨valid⟩ := h
  exact valid t ht

/-- A written value is read as numbers exactly when its tokens are these numbers. -/
lemma components_eq_ok (h : Writes tokens raw) {xs : List Float} :
    components n raw = .ok xs ↔ tokens.length = n ∧ List.Forall₂ WritesNumber tokens xs := by
  rw [Config.components_eq_ok, h.componentTexts_eq, mapM_eq_ok_iff]
  refine and_congr_right fun _ => ⟨fun read => ?_, fun written => ?_⟩
  · exact ((List.forall₂_and_left tokens xs).2 ⟨fun t ht => ht, read⟩).imp fun t x hx =>
      (h.isToken hx.1).number_eq_ok.1 hx.2
  · exact ((List.forall₂_and_left tokens xs).2 ⟨fun t ht => ht, written⟩).imp fun t x hx =>
      (h.isToken hx.1).number_eq_ok.2 hx.2

/-- A written value is refused for the count of its tokens or for the first bad one. -/
lemma components_eq_error (h : Writes tokens raw) {fault : ValueFault} :
    components n raw = .error fault ↔ Refused n tokens fault := by
  rw [components, h.componentTexts_eq]
  refine ⟨fun failed => ?_, fun refused => ?_⟩
  · split at failed
    · rename_i count
      obtain ⟨before, t, after, rfl, good, bad⟩ := mapM_eq_error_iff.1 failed
      refine .token count rfl (fun u hu => ?_) ((h.isToken (by simp)).number_eq_error.1 bad)
      obtain ⟨x, hx⟩ := good u hu
      exact ⟨x, (h.isToken (List.mem_append_left _ hu)).number_eq_ok.1 hx⟩
    · rename_i other
      cases failed
      exact .count other
  · cases refused with
    | count other => exact if_neg other
    | @token before after t _ count split good bad =>
      subst split
      rw [if_pos count]
      refine mapM_eq_error_iff.2 ⟨before, t, after, rfl, fun u hu => ?_, (h.isToken (by simp)).number_eq_error.2 bad⟩
      obtain ⟨x, hx⟩ := good u hu
      exact ⟨x, (h.isToken (List.mem_append_left _ hu)).number_eq_ok.2 hx⟩

end Writes

/-! ## Vectors and points -/

section

variable {α : Type} {raw : List Char}

/-- A pair is built of two components. -/
lemma pair_eq_ok {build : Float → Float → α} {a : α} :
    pair build raw = .ok a ↔ ∃ x y, components 2 raw = .ok [x, y] ∧ build x y = a := by
  rw [pair]
  cases h : components 2 raw with
  | error fault => simp
  | ok xs =>
    obtain ⟨x, y, rfl⟩ := List.length_eq_two.1 (length_of_components h).2
    simp

/-- A pair has no other faults than its components. -/
lemma pair_eq_error {build : Float → Float → α} {fault : ValueFault} :
    pair build raw = .error fault ↔ components 2 raw = .error fault := by
  rw [pair]
  cases h : components 2 raw with
  | error e => simp
  | ok xs =>
    obtain ⟨x, y, rfl⟩ := List.length_eq_two.1 (length_of_components h).2
    simp

/-- A triple is built of three components. -/
lemma triple_eq_ok {build : Float → Float → Float → α} {a : α} :
    triple build raw = .ok a ↔ ∃ x y z, components 3 raw = .ok [x, y, z] ∧ build x y z = a := by
  rw [triple]
  cases h : components 3 raw with
  | error fault => simp
  | ok xs =>
    obtain ⟨x, y, z, rfl⟩ := List.length_eq_three.1 (length_of_components h).2
    simp

/-- A triple has no other faults than its components. -/
lemma triple_eq_error {build : Float → Float → Float → α} {fault : ValueFault} :
    triple build raw = .error fault ↔ components 3 raw = .error fault := by
  rw [triple]
  cases h : components 3 raw with
  | error e => simp
  | ok xs =>
    obtain ⟨x, y, z, rfl⟩ := List.length_eq_three.1 (length_of_components h).2
    simp

variable {tokens : List (List Char)}

/-- What is built from two numbers is read from tokens exactly when they are these numbers. -/
lemma Writes.pair_eq_ok (h : Writes tokens raw) {build : Float → Float → α} {a : α} {x y : Float}
    (built : ∀ x' y', build x' y' = a ↔ x' = x ∧ y' = y) :
    pair build raw = .ok a ↔ List.Forall₂ WritesNumber tokens [x, y] := by
  rw [Config.pair_eq_ok]
  simp only [built]
  refine ⟨fun read => ?_, fun written => ?_⟩
  · obtain ⟨_, _, read, rfl, rfl⟩ := read
    exact (h.components_eq_ok.1 read).2
  · exact ⟨x, y, h.components_eq_ok.2 ⟨written.length_eq, written⟩, rfl, rfl⟩

/-- What is built from three numbers is read from tokens exactly when they are these numbers. -/
lemma Writes.triple_eq_ok (h : Writes tokens raw) {build : Float → Float → Float → α} {a : α} {x y z : Float}
    (built : ∀ x' y' z', build x' y' z' = a ↔ x' = x ∧ y' = y ∧ z' = z) :
    triple build raw = .ok a ↔ List.Forall₂ WritesNumber tokens [x, y, z] := by
  rw [Config.triple_eq_ok]
  simp only [built]
  refine ⟨fun read => ?_, fun written => ?_⟩
  · obtain ⟨_, _, _, read, rfl, rfl, rfl⟩ := read
    exact (h.components_eq_ok.1 read).2
  · exact ⟨x, y, z, h.components_eq_ok.2 ⟨written.length_eq, written⟩, rfl, rfl, rfl⟩

/-- A value that is read with two components has two. -/
lemma length_of_pair {build : Float → Float → α} {a : α} (h : pair build raw = .ok a) :
    (componentTexts raw).length = 2 := by
  obtain ⟨x, y, read, -⟩ := pair_eq_ok.1 h
  exact (length_of_components read).1

/-- What is read as a triple has three texts. -/
lemma length_of_triple {build : Float → Float → Float → α} {a : α} (h : triple build raw = .ok a) :
    (componentTexts raw).length = 3 := by
  obtain ⟨x, y, z, read, -⟩ := triple_eq_ok.1 h
  exact (length_of_components read).1

end

/-- A value that writes tokens is read as a vector or a point exactly when the tokens are its
components, each a finite number, and it is refused for their count or else for the first bad one.
No value whatever is read with two components and with three. -/
theorem vectors_of_writes (raw : List Char) :
    (∀ tokens, Writes tokens raw →
      ((∀ v, vec2 raw = .ok v ↔ List.Forall₂ WritesNumber tokens [v.x, v.y]) ∧
        (∀ p, point2 raw = .ok p ↔ List.Forall₂ WritesNumber tokens [p.x, p.y]) ∧
        (∀ v, vec3 raw = .ok v ↔ List.Forall₂ WritesNumber tokens [v.x, v.y, v.z]) ∧
        ∀ p, point3 raw = .ok p ↔ List.Forall₂ WritesNumber tokens [p.x, p.y, p.z]) ∧
      ∀ fault, (vec2 raw = .error fault ↔ Refused 2 tokens fault) ∧
        (point2 raw = .error fault ↔ Refused 2 tokens fault) ∧
        (vec3 raw = .error fault ↔ Refused 3 tokens fault) ∧ (point3 raw = .error fault ↔ Refused 3 tokens fault)) ∧
    ¬ (((∃ v, vec2 raw = .ok v) ∨ ∃ p, point2 raw = .ok p) ∧ ((∃ v, vec3 raw = .ok v) ∨ ∃ p, point3 raw = .ok p)) := by
  refine ⟨fun tokens h => ⟨⟨?_, ?_, ?_, ?_⟩, fun fault => ⟨?_, ?_, ?_, ?_⟩⟩, ?_⟩
  · exact fun v => h.pair_eq_ok fun x y => Geometry.Vec2.mk.injEq .. ▸ Iff.rfl
  · exact fun p => h.pair_eq_ok fun x y => Geometry.Point2.mk.injEq .. ▸ Iff.rfl
  · exact fun v => h.triple_eq_ok fun x y z => Geometry.Vec3.mk.injEq .. ▸ Iff.rfl
  · exact fun p => h.triple_eq_ok fun x y z => Geometry.Point3.mk.injEq .. ▸ Iff.rfl
  · exact pair_eq_error.trans h.components_eq_error
  · exact pair_eq_error.trans h.components_eq_error
  · exact triple_eq_error.trans h.components_eq_error
  · exact triple_eq_error.trans h.components_eq_error
  · intro both
    have two : (componentTexts raw).length = 2 := by
      rcases both.1 with ⟨v, h⟩ | ⟨p, h⟩
      · exact length_of_pair h
      · exact length_of_pair h
    have three : (componentTexts raw).length = 3 := by
      rcases both.2 with ⟨v, h⟩ | ⟨p, h⟩
      · exact length_of_triple h
      · exact length_of_triple h
    omega

/-- Two numbers with a comma and a wide blank between them, in brackets and in quotes. -/
def listed : List Char :=
  "\t\"[1.5,\u2003-2]\" ".toList

/-- What holds of the members of a list is decided along the list; there are too many characters to
try them all. -/
lemma forall_mem_of_all {P : Char → Prop} [DecidablePred P] {cs : List Char} (h : cs.all fun c => P c) :
    ∀ c ∈ cs, P c :=
  fun c hc => of_decide_eq_true (List.all_eq_true.1 h c hc)

/-- The listed value is written with two tokens in brackets. -/
lemma writes_listed : Writes ["1.5".toList, "-2".toList] listed := by
  have put_together : listed =
      ['\t'] ++ '"' :: ('[' :: ("1.5".toList ++ [',', '\u2003'] ++ "-2".toList ++ [']']) ++ ['"']) ++ [' '] := by decide
  rw [put_together]
  refine .intro (fun t ht => ?_) (.cons ⟨List.cons_ne_nil _ _, forall_mem_of_all (by decide)⟩ (.single _)) .between
    .between (forall_mem_of_all (by decide)) (forall_mem_of_all (by decide))
  rcases List.mem_pair.1 ht with rfl | rfl
  · exact ⟨by decide, forall_mem_of_all (by decide)⟩
  · exact ⟨by decide, forall_mem_of_all (by decide)⟩

/-- They are a vector of two components and none of three. -/
theorem vectors_of_writes_listed :
    Writes ["1.5".toList, "-2".toList] listed ∧ vec2 listed = .ok ⟨1.5, -2⟩ ∧
    vec3 listed = .error (.componentCount 3 2) := by
  obtain ⟨⟨two, -⟩, refused⟩ := (vectors_of_writes listed).1 _ writes_listed
  refine ⟨writes_listed, (two _).2 (.cons ⟨rfl, rfl⟩ (.cons ⟨rfl, rfl⟩ .nil)), ?_⟩
  exact (refused _).2.2.1.2 (.count (by decide))

end SensorSim.Config
