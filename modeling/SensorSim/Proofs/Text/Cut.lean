import Mathlib
import SensorSim.Text.Quoted

/-!
# Cutting texts

Runs of a text that is put together, trimming of a text with blanks around it, and delimiters that a
text has or does not have. What is around a text does not change it where its own first and last
characters are no blanks and no delimiters.
-/

namespace SensorSim.Text

/-! ## Runs -/

variable {p : Char → Bool}

/-- A separator ends a run. -/
lemma runs_append_cons {c : Char} (h : p c) (cs ds : List Char) : runs p (cs ++ c :: ds) = runs p cs ++ runs p ds := by
  rw [runs, runs, runs, List.splitOnP_append_cons _ _ h, List.filter_append]

/-- A text without a separator is a single run. -/
lemma runs_eq_singleton {cs : List Char} (h : ∀ c ∈ cs, p c = false) (nonempty : cs ≠ []) : runs p cs = [cs] := by
  rw [runs, List.splitOnP_eq_singleton h]
  simpa using nonempty

/-- An empty text has no runs. -/
lemma runs_nil : runs p [] = [] :=
  rfl

/-- Separators in front of a text do not change its runs. -/
lemma runs_append_of_forall {gap : List Char} (h : ∀ c ∈ gap, p c) (cs : List Char) :
    runs p (gap ++ cs) = runs p cs := by
  induction gap with
  | nil => rfl
  | cons c gap ih =>
    have front := runs_append_cons (h c List.mem_cons_self) [] (gap ++ cs)
    rw [runs_nil, List.nil_append, List.nil_append] at front
    rw [List.cons_append, front]
    exact ih fun d hd => h d (List.mem_cons_of_mem _ hd)

/-- Separators between two texts keep their runs apart. -/
lemma runs_append_gap {gap : List Char} (h : ∀ c ∈ gap, p c) (nonempty : gap ≠ []) (cs ds : List Char) :
    runs p (cs ++ gap ++ ds) = runs p cs ++ runs p ds := by
  obtain ⟨c, gap, rfl⟩ := List.exists_cons_of_ne_nil nonempty
  rw [List.append_assoc, List.cons_append, runs_append_cons (h c List.mem_cons_self),
    runs_append_of_forall fun d hd => h d (List.mem_cons_of_mem _ hd)]

/-! ## Trimming -/

/-- The first and the last character of a text have a property. -/
structure Ends (P : Char → Prop) (cs : List Char) : Prop where
  first : ∀ c ∈ cs.head?, P c
  last : ∀ c ∈ cs.getLast?, P c

/-- Ends that have a property have every weaker one. -/
lemma Ends.imp {P Q : Char → Prop} {cs : List Char} (h : Ends P cs) (all : ∀ c, P c → Q c) : Ends Q cs :=
  ⟨fun c hc => all c (h.first c hc), fun c hc => all c (h.last c hc)⟩

/-- The ends of a text have what all its characters have. -/
lemma ends_of_forall {P : Char → Prop} {cs : List Char} (h : ∀ c ∈ cs, P c) : Ends P cs :=
  ⟨fun c hc => h c (List.mem_of_mem_head? hc), fun c hc => h c (List.mem_of_mem_getLast? hc)⟩

/-- A text in front of another gives the first character, and the other one the last, unless one is
empty. -/
lemma Ends.append {P : Char → Prop} {cs ds : List Char} (front : Ends P cs) (back : Ends P ds) : Ends P (cs ++ ds) := by
  refine ⟨fun c hc => ?_, fun c hc => ?_⟩
  · rw [List.head?_append] at hc
    rcases Option.or_eq_some_iff.1 hc with h | ⟨-, h⟩
    · exact front.first c h
    · exact back.first c h
  · rw [List.getLast?_append] at hc
    rcases Option.or_eq_some_iff.1 hc with h | ⟨-, h⟩
    · exact back.last c h
    · exact front.last c h

/-- Dropping takes away what has the property in front of a text whose first character does not have
it. -/
lemma dropWhile_append_of_first {before cs : List Char} (out : ∀ c ∈ before, p c)
    (first : ∀ c ∈ cs.head?, p c = false) :
    (before ++ cs).dropWhile p = cs := by
  rw [List.dropWhile_append_of_pos out]
  cases cs with
  | nil => rfl
  | cons c cs => exact List.dropWhile_cons_of_neg (by rw [first c rfl]; exact Bool.false_ne_true)

/-- Blanks around a text are trimmed away, and no more. -/
lemma trim_append {before cs after : List Char} (front : ∀ c ∈ before, isBlank c) (back : ∀ c ∈ after, isBlank c)
    (ends : Ends (fun c => isBlank c = false) cs) : trim (before ++ cs ++ after) = cs := by
  have reversed : ∀ c ∈ cs.reverse.head?, isBlank c = false := by
    rw [List.head?_reverse]
    exact ends.last
  cases cs with
  | nil =>
    have blank : ∀ c ∈ before ++ [] ++ after, isBlank c := by
      simp only [List.append_nil, List.mem_append]
      exact fun c hc => hc.elim (front c) (back c)
    rw [trim, List.dropWhile_eq_nil_iff.2 blank]
    rfl
  | cons c cs =>
    have first : ∀ d ∈ (c :: cs ++ after).head?, isBlank d = false := ends.first
    rw [trim, List.append_assoc, dropWhile_append_of_first front first, List.reverse_append,
      dropWhile_append_of_first (fun c hc => back c (List.mem_reverse.1 hc)) reversed,
      List.reverse_reverse]

/-! ## Delimiters -/

/-- A text stands as it is, or between two delimiters. -/
inductive Enclosed (opening closing : Char) (inner : List Char) : List Char → Prop where
  | bare : Enclosed opening closing inner inner
  | between : Enclosed opening closing inner (opening :: (inner ++ [closing]))

variable {opening closing : Char} {inner cs : List Char}

/-- A text that does not start with the opening delimiter is not between delimiters. -/
lemma between?_of_first (first : ∀ c ∈ inner.head?, c ≠ opening) : between? opening closing inner = none := by
  cases inner with
  | nil => rfl
  | cons c rest => exact if_neg fun h => first c rfl h.1

/-- Delimiters around a text are taken away, and no more. -/
lemma Enclosed.between? (h : Enclosed opening closing inner cs) (first : ∀ c ∈ inner.head?, c ≠ opening) :
    (between? opening closing cs).getD cs = inner := by
  cases h with
  | bare => rw [between?_of_first first, Option.getD_none]
  | between => rw [between?_cons_append, Option.getD_some]

/-- A text in brackets has ends like those of the text inside, if the brackets are such
characters. -/
lemma Enclosed.ends {P : Char → Prop} (h : Enclosed opening closing inner cs) (inside : Ends P inner)
    (opens : P opening) (closes : P closing) : Ends P cs := by
  cases h with
  | bare => exact inside
  | between =>
    have single : ∀ c, P c → Ends P [c] := fun c hc => ends_of_forall (by simpa using hc)
    exact (single opening opens).append (inside.append (single closing closes))

end SensorSim.Text
