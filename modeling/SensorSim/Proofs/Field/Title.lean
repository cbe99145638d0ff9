import Mathlib
import SensorSim.Field.TableFile

/-!
# The text behind the title

A table file is a text, and its reader sees bytes. Cutting the bytes behind the first line is
cutting the text there, since no other character has the byte of a line end in its encoding. So the
reader goes on with the text behind the first line exactly when there is a text and it keeps to the
limit (`body_eq_ok_iff`).
-/

namespace SensorSim.Field.TableFile

/-- The bytes of some characters in UTF-8. -/
def encode (cs : List Char) : List UInt8 :=
  cs.flatMap String.utf8EncodeChar

/-- The first line with its line end. -/
def title (cs : List Char) : List Char :=
  cs.takeWhile (· ≠ '\n') ++ (cs.dropWhile (· ≠ '\n')).take 1

/-- The text behind the first line. -/
def behindTitle (cs : List Char) : List Char :=
  (cs.dropWhile (· ≠ '\n')).drop 1

/-! ## Encoding -/

/-- Characters are encoded one after the other. -/
lemma encode_append (cs ds : List Char) : encode (cs ++ ds) = encode cs ++ encode ds :=
  List.flatMap_append

/-- Every character has a byte. -/
@[simp] lemma encode_eq_nil_iff {cs : List Char} : encode cs = [] ↔ cs = [] := by
  cases cs <;> simp [encode]

/-- The list of the bytes of an array is what the array is made of. -/
lemma toList_eq_data (bytes : ByteArray) : bytes.toList = bytes.data.toList := by
  have loop : ∀ i r, ByteArray.toList.loop bytes i r = r.reverse ++ bytes.data.toList.drop i := by
    intro i r
    fun_induction ByteArray.toList.loop bytes i r with
    | case1 i r h ih =>
      rw [ih, List.reverse_cons, List.append_assoc]
      have hi : i < bytes.data.toList.length := h
      rw [List.drop_eq_getElem_cons hi]
      have same : bytes.get! i = bytes.data.toList[i] := by
        simp [ByteArray.get!, h]
      rw [same]
      rfl
    | case2 i r h =>
      rw [List.drop_eq_nil_of_le (Nat.not_lt.1 h), List.append_nil]
  rw [ByteArray.toList, loop]
  rfl

/-- The bytes of a text encode its characters. -/
lemma toList_toUTF8 (text : String) : text.toUTF8.toList = encode text.toList := by
  rw [toList_eq_data, String.toUTF8_eq_toByteArray, ← String.utf8Encode_toList, List.utf8Encode,
    List.toList_data_toByteArray, encode]

/-- A text has as many bytes as its encoding. -/
lemma length_encode (text : String) : (encode text.toList).length = text.utf8ByteSize := by
  rw [← toList_toUTF8, toList_eq_data, Array.length_toList]
  rfl

/-- Decoding gives back what was encoded. -/
lemma decode?_encode (cs : List Char) : decode? (encode cs) = some cs := by
  have bytes : (⟨(encode cs).toArray⟩ : ByteArray) = (String.ofList cs).toByteArray := by
    rw [String.toByteArray_ofList, List.utf8Encode]
    apply ByteArray.ext
    rw [← Array.toList_inj, List.toList_data_toByteArray]
    rfl
  have valid := (String.ofList cs).isValidUTF8
  rw [decode?, bytes, String.fromUTF8?, dif_pos valid, Option.map_some]
  exact congrArg some String.toList_ofList

/-! ## Lines -/

/-- Only the line end has its byte in its encoding. -/
lemma lineEnd_notMem_utf8EncodeChar {c : Char} (h : c ≠ '\n') : (10 : UInt8) ∉ String.utf8EncodeChar c := by
  have value : c.val.toNat ≠ 10 := by
    intro e
    exact h (Char.ext (UInt32.toNat_inj.1 e))
  have apart : ∀ n : Nat, n % 256 ≠ 10 → (10 : UInt8) ≠ UInt8.ofNat n := by
    intro n hn e
    have e' := congrArg UInt8.toNat e
    rw [UInt8.toNat_ofNat'] at e'
    exact hn e'.symm
  unfold String.utf8EncodeChar
  dsimp only
  -- One to four bytes: the first is the character itself, and all others are at least 128.
  split
  · simp only [List.mem_singleton]
    exact apart _ (by omega)
  split
  · simp only [List.mem_cons, List.not_mem_nil, or_false, not_or]
    exact ⟨apart _ (by omega), apart _ (by omega)⟩
  split
  · simp only [List.mem_cons, List.not_mem_nil, or_false, not_or]
    exact ⟨apart _ (by omega), apart _ (by omega), apart _ (by omega)⟩
  · simp only [List.mem_cons, List.not_mem_nil, or_false, not_or]
    exact ⟨apart _ (by omega), apart _ (by omega), apart _ (by omega), apart _ (by omega)⟩

/-- Bytes are cut at the first line end where the characters are. -/
lemma cut_encode (cs : List Char) :
    (encode cs).takeWhile (· ≠ 10) = encode (cs.takeWhile (· ≠ '\n')) ∧
      (encode cs).dropWhile (· ≠ 10) = encode (cs.dropWhile (· ≠ '\n')) := by
  induction cs with
  | nil => exact ⟨rfl, rfl⟩
  | cons c cs ih =>
    rw [show encode (c :: cs) = String.utf8EncodeChar c ++ encode cs from List.flatMap_cons ..]
    by_cases h : c = '\n'
    · subst h
      rw [show String.utf8EncodeChar '\n' = [10] by decide]
      exact ⟨rfl, rfl⟩
    · have clear : ∀ b ∈ String.utf8EncodeChar c, decide (b ≠ 10) = true := by
        intro b hb
        rw [decide_eq_true_eq]
        rintro rfl
        exact lineEnd_notMem_utf8EncodeChar h hb
      rw [List.takeWhile_append_of_pos clear, List.dropWhile_append_of_pos clear, ih.1, ih.2,
        List.takeWhile_cons_of_pos (p := fun x => decide (x ≠ '\n')) (decide_eq_true h),
        List.dropWhile_cons_of_pos (p := fun x => decide (x ≠ '\n')) (decide_eq_true h)]
      exact ⟨rfl, rfl⟩

/-- The bytes of a text are split behind its title. -/
lemma splitTitle_encode (cs : List Char) :
    splitTitle (encode cs) = (encode (title cs), encode (behindTitle cs)) := by
  obtain ⟨front, back⟩ := cut_encode cs
  rw [splitTitle, front, back, title, behindTitle]
  cases h : cs.dropWhile (· ≠ '\n') with
  | nil =>
    rw [List.take_nil, List.append_nil, List.drop_nil]
    rfl
  | cons c rest =>
    have lineEnd : c = '\n' := by
      have first := List.head?_dropWhile_not (fun c : Char => decide (c ≠ '\n')) cs
      rw [h] at first
      simpa using first
    subst lineEnd
    rw [encode_append]
    rfl

/-! ## Body -/

/-- The title of a text is empty only where the text is. -/
lemma title_eq_nil_iff {cs : List Char} : title cs = [] ↔ cs = [] := by
  rw [title, List.append_eq_nil_iff, List.take_eq_nil_iff]
  refine ⟨?_, ?_⟩
  · intro e
    obtain ⟨front, h | back⟩ := e
    · cases h
    · rw [← List.takeWhile_append_dropWhile (l := cs), front, back, List.append_nil]
  · rintro rfl
    exact ⟨rfl, .inr rfl⟩

/-- Title and body are the whole text. -/
lemma title_append_behindTitle (cs : List Char) : title cs ++ behindTitle cs = cs := by
  rw [title, behindTitle, List.append_assoc, List.take_append_drop, List.takeWhile_append_dropWhile]

/-- The reader goes on with the text behind the title exactly when there is a text and it keeps to
the limit. -/
lemma body_eq_ok_iff {label : String} {limit : Nat} (hl : limit ≤ greatestCount) {cs rest : List Char} :
    body label limit (encode cs) = .ok rest ↔
      cs ≠ [] ∧ (encode cs).length ≤ limit ∧ rest = behindTitle cs := by
  have total : (encode cs).length = (encode (title cs)).length + (encode (behindTitle cs)).length := by
    rw [← List.length_append, ← encode_append, title_append_behindTitle]
  rw [body, splitTitle_encode]
  simp only [decode?_encode]
  cases ht : title cs with
  | nil =>
    simp only [reduceCtorEq, false_iff]
    intro e
    obtain ⟨h, -⟩ := e
    exact h (title_eq_nil_iff.1 ht)
  | cons c more =>
    have nonempty : cs ≠ [] := by
      rintro rfl
      cases ht
    have byte : 0 < (encode (title cs)).length := by
      rw [List.length_pos_iff, ne_eq, encode_eq_nil_iff, title_eq_nil_iff]
      exact nonempty
    rw [ht] at byte total
    dsimp only
    -- The title takes at least one byte, so one byte past the limit always shows.
    by_cases keeps : (encode cs).length ≤ limit
    · have all : (encode (behindTitle cs)).take (min (limit + 1) greatestCount) = encode (behindTitle cs) := by
        rw [List.take_eq_self_iff]
        omega
      simp only [all, decode?_encode]
      rw [if_pos (by omega)]
      simp only [Except.ok.injEq]
      exact ⟨fun h => ⟨nonempty, keeps, h.symm⟩, fun h => h.2.2.symm⟩
    · have refused : ∀ seen, seen = (encode (behindTitle cs)).take (min (limit + 1) greatestCount) →
          ¬ (encode (c :: more)).length + seen.length ≤ limit := by
        rintro seen rfl
        rw [List.length_take]
        omega
      refine ⟨?_, ?_⟩
      · intro h
        split at h
        · cases h
        · rw [if_neg (refused _ rfl)] at h
          cases h
      · intro e
        obtain ⟨-, h, -⟩ := e
        exact absurd h keeps

end SensorSim.Field.TableFile
