import Mathlib
import SensorSim.Proofs.Field.Title

/-!
# Texts over the limit

Of a table file the reader looks at the title and at what follows it, up to one byte past the limit.
Where these bytes end between two characters, a text over the limit is refused as too large, and the
number of bytes that were looked at is named (`read_of_limit_lt`). Where they end inside a character
they are no text, and the file is refused for that instead, before its size is compared with the
limit (`not_forall_read_eq_oversized`).
-/

namespace SensorSim.Field.TableFile

/-- How many bytes of a text are looked at under a limit. -/
def lookedAt (limit : Nat) (text : String) : Nat :=
  min ((encode (title text.toList)).length + min (limit + 1) greatestCount) text.utf8ByteSize

/-! ## Bytes that are a text -/

/-- Bytes are decoded exactly when they are some characters in UTF-8. -/
lemma isSome_decode?_iff {bytes : List UInt8} :
    (decode? bytes).isSome ↔ ByteArray.IsValidUTF8 ⟨bytes.toArray⟩ := by
  rw [decode?, String.fromUTF8?, Option.isSome_map]
  split
  · rename_i valid
    exact ⟨fun _ => valid, fun _ => rfl⟩
  · rename_i invalid
    exact ⟨fun decoded => absurd decoded Bool.false_ne_true, fun valid => absurd valid invalid⟩

/-- The title takes its bytes in front of those of the text behind it. -/
lemma encode_toList_eq (text : String) :
    encode text.toList = encode (title text.toList) ++ encode (behindTitle text.toList) := by
  rw [← encode_append, title_append_behindTitle]

/-- The number of bytes of a text is that of its title and of what follows. -/
lemma utf8ByteSize_eq_add (text : String) : text.utf8ByteSize =
    (encode (title text.toList)).length + (encode (behindTitle text.toList)).length := by
  rw [← length_encode, encode_toList_eq, List.length_append]

/-- A part of the bytes of a text, as a list. -/
lemma toList_data_extract (text : String) (start stop : Nat) :
    (text.toByteArray.extract start stop).data.toList =
      ((encode text.toList).drop start).take (stop - start) := by
  rw [ByteArray.data_extract, Array.toList_extract, List.extract_eq_take_drop, ← toList_toUTF8, toList_eq_data,
    String.toUTF8_eq_toByteArray]

/-- A text can be cut behind its title. -/
lemma isValid_title (text : String) : String.Pos.Raw.IsValid text ⟨(encode (title text.toList)).length⟩ := by
  refine String.Pos.Raw.isValid_iff_exists_append.2
    ⟨String.ofList (title text.toList), String.ofList (behindTitle text.toList), ?_, ?_⟩
  · rw [← String.ofList_append, title_append_behindTitle, String.ofList_toList]
  · rw [String.Pos.Raw.ext_iff, String.byteIdx_rawEndPos, ← length_encode, String.toList_ofList]

/-- Some bytes behind the title are a text exactly when the whole text can be cut where they end. -/
lemma isSome_decode?_take_iff (text : String) {seen : Nat}
    (h : (encode (title text.toList)).length + seen ≤ text.utf8ByteSize) :
    (decode? ((encode (behindTitle text.toList)).take seen)).isSome ↔
      String.Pos.Raw.IsValid text ⟨(encode (title text.toList)).length + seen⟩ := by
  have part : (⟨((encode (behindTitle text.toList)).take seen).toArray⟩ : ByteArray) =
      text.toByteArray.extract (encode (title text.toList)).length ((encode (title text.toList)).length + seen) := by
    apply ByteArray.ext
    rw [← Array.toList_inj, toList_data_extract, encode_toList_eq, List.drop_left, Nat.add_sub_cancel_left]
  have cut := String.Pos.Raw.isValidUTF8_extract_iff (s := text)
    ⟨(encode (title text.toList)).length⟩ ⟨(encode (title text.toList)).length + seen⟩
    (Nat.le_add_right _ _) h
  rw [isSome_decode?_iff, part, cut]
  refine ⟨?_, fun valid => .inr ⟨isValid_title text, valid⟩⟩
  rintro (same | ⟨-, valid⟩)
  · rw [← same]
    exact isValid_title text
  · exact valid

/-! ## Refusals -/

/-- What is looked at is the title and what is taken of the bytes behind it. -/
lemma lookedAt_eq_add (limit : Nat) (text : String) :
    lookedAt limit text = (encode (title text.toList)).length +
      ((encode (behindTitle text.toList)).take (min (limit + 1) greatestCount)).length := by
  have size := utf8ByteSize_eq_add text
  rw [lookedAt, List.length_take]
  omega

/-- More bytes of a text over the limit are looked at than the limit allows. -/
lemma lt_lookedAt {limit : Nat} {text : String} (hl : limit ≤ greatestCount) (large : limit < text.utf8ByteSize) :
    limit < lookedAt limit text := by
  -- The title takes at least one byte, so that one byte past the limit always shows.
  have byte : 0 < (encode (title text.toList)).length := by
    rw [List.length_pos_iff, ne_eq, encode_eq_nil_iff, title_eq_nil_iff]
    intro e
    rw [← length_encode, e] at large
    exact absurd large (Nat.not_lt_zero _)
  rw [lookedAt]
  omega

/-- What is looked at behind the title is a text exactly when the whole text can be cut there. -/
lemma isSome_decode?_seen_iff (limit : Nat) (text : String) :
    (decode? ((encode (behindTitle text.toList)).take (min (limit + 1) greatestCount))).isSome ↔
      String.Pos.Raw.IsValid text ⟨lookedAt limit text⟩ := by
  have ends := lookedAt_eq_add limit text
  rw [List.length_take] at ends
  rw [List.take_eq_take_min, ends]
  refine isSome_decode?_take_iff text ?_
  rw [← ends]
  exact Nat.min_le_right _ _

/-- A text over the limit is refused where what was looked at is no text, and else for its size. -/
lemma body_of_limit_lt (label : String) {limit : Nat} {text : String} (hl : limit ≤ greatestCount)
    (large : limit < text.utf8ByteSize) : body label limit (encode text.toList) =
      if String.Pos.Raw.IsValid text ⟨lookedAt limit text⟩ then .error (.oversized label (lookedAt limit text) limit)
      else .error (.io label notUtf8) := by
  have passes := lt_lookedAt hl large
  have decodes := isSome_decode?_seen_iff limit text
  rw [body, splitTitle_encode]
  simp only [decode?_encode, ← lookedAt_eq_add]
  cases first : title text.toList with
  | nil =>
    rw [← length_encode, title_eq_nil_iff.1 first] at large
    exact absurd large (Nat.not_lt_zero _)
  | cons c rest =>
    cases seen : decode? ((encode (behindTitle text.toList)).take (min (limit + 1) greatestCount)) with
    | none =>
      rw [seen] at decodes
      rw [if_neg (mt decodes.2 Bool.false_ne_true)]
    | some read =>
      rw [seen] at decodes
      rw [if_pos (decodes.1 rfl)]
      exact if_neg (Nat.not_le.2 passes)

section

variable {α : Type} [Sample α]

/-- Where the text behind the title is refused, the file is. -/
lemma read_of_body_error {label : String} {units : Float} {limit memory : Nat} {bytes : ByteArray} {e : TableFileError}
    (h : body label limit bytes.toList = .error e) :
    read (α := α) label units limit bytes memory = .error e := by
  rw [read, h]
  rfl

/-- A text over the limit is never read nor called malformed. The reader looks at more bytes of it
than the limit allows. When these end between two characters the text is too large, and that many
bytes are needed; when they end inside a character, it is said not to be UTF-8 although it is. -/
theorem read_of_limit_lt (label : String) (units : Float) (limit : UInt64) (memory : Nat) (text : String)
    (large : limit.toNat < text.utf8ByteSize) :
    limit.toNat < lookedAt limit.toNat text ∧ lookedAt limit.toNat text ≤ text.utf8ByteSize ∧
    (String.Pos.Raw.IsValid text ⟨lookedAt limit.toNat text⟩ →
      read (α := α) label units limit.toNat text.toUTF8 memory =
        .error (.oversized label (lookedAt limit.toNat text) limit.toNat)) ∧
    (¬ String.Pos.Raw.IsValid text ⟨lookedAt limit.toNat text⟩ →
      read (α := α) label units limit.toNat text.toUTF8 memory = .error (.io label notUtf8)) := by
  have hl : limit.toNat ≤ greatestCount := Nat.le_of_lt_succ limit.toNat_lt
  have refused := body_of_limit_lt label hl large
  rw [← toList_toUTF8] at refused
  refine ⟨lt_lookedAt hl large, Nat.min_le_right _ _, fun whole => ?_, fun torn => ?_⟩
  · rw [if_pos whole] at refused
    exact read_of_body_error refused
  · rw [if_neg torn] at refused
    exact read_of_body_error refused

end

/-- A title and three letters, then a character of two bytes. -/
def tornText : String := "t\nabcé"

/-- Under a limit of two bytes the letters are all that is looked at, and the text is too large;
under a limit of three the first byte of the last character is looked at as well. -/
theorem read_of_limit_lt_tornText :
    2 < tornText.utf8ByteSize ∧ 3 < tornText.utf8ByteSize ∧
    read (α := Float) "torn.init" 1.0 2 tornText.toUTF8 defaultMemory = .error (.oversized "torn.init" 5 2) ∧
    read (α := Float) "torn.init" 1.0 3 tornText.toUTF8 defaultMemory = .error (.io "torn.init" notUtf8) := by
  have two : 2 < tornText.utf8ByteSize := by decide
  have three : 3 < tornText.utf8ByteSize := by decide
  obtain ⟨-, -, whole, -⟩ := read_of_limit_lt (α := Float) "torn.init" 1.0 2 defaultMemory tornText two
  obtain ⟨-, -, -, torn⟩ := read_of_limit_lt (α := Float) "torn.init" 1.0 3 defaultMemory tornText three
  exact ⟨two, three, whole (by decide), torn (by decide)⟩

/-- Not every text over the limit is refused as too large. -/
theorem not_forall_read_eq_oversized :
    ¬ ∀ (label : String) (units : Float) (limit : UInt64) (text : String), limit.toNat < text.utf8ByteSize →
      ∃ required, limit.toNat < required ∧ read (α := Float) label units limit.toNat text.toUTF8 =
        .error (.oversized label required limit.toNat) := by
  intro h
  obtain ⟨required, -, refused⟩ := h "torn.init" 1.0 3 tornText (by decide)
  have torn := @body_of_limit_lt "torn.init" 3 tornText (by decide) (by decide)
  rw [← toList_toUTF8, if_neg (by decide)] at torn
  have clash := (read_of_body_error torn).symm.trans refused
  cases clash

end SensorSim.Field.TableFile
