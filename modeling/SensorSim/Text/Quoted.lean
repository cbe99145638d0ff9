import SensorSim.Text.Blank
import SensorSim.Text.Hidden

/-!
# Quoted text

`unquote` reads a configuration value that may stand between double quotes, `quote` writes a text
between double quotes for a diagnostic, with an escape for every character that would not show.
-/

namespace SensorSim.Text

/-- What is left of a text between the two given delimiters, when it has both. -/
def between? (opening closing : Char) : List Char → Option (List Char)
  | [] => none
  | c :: rest =>
    if c = opening ∧ rest.getLast? = some closing then some rest.dropLast else none

/-- Trims a text and removes the double quotes around it when both are there. -/
def unquote (cs : List Char) : List Char :=
  let inner := trim cs
  (between? '"' '"' inner).getD inner

def hexText (n : Nat) : List Char :=
  Nat.toDigits 16 n

/-- A character as it stands inside a quoted text. -/
def escape (c : Char) : List Char :=
  match c with
  | '"' => ['\\', '"']
  | '\\' => ['\\', '\\']
  | '\n' => ['\\', 'n']
  | '\r' => ['\\', 'r']
  | '\t' => ['\\', 't']
  | c =>
    if c.toNat = 0 then ['\\', '0']
    else if isHidden c then "\\u\x7b".toList ++ hexText c.toNat ++ "\x7d".toList
    else [c]

def quote (s : String) : String :=
  String.ofList ('"' :: s.toList.flatMap escape ++ ['"'])

/-- A text that may be missing. -/
def quoted? : Option String → String
  | none => "None"
  | some s => "Some(" ++ quote s ++ ")"

/-- One character does not enclose anything. -/
theorem between?_singleton (o c d : Char) : between? o c [d] = none := by
  simp [between?]

/-- What stands between an opening and a closing character is what they enclose. -/
theorem between?_cons_append (o c : Char) (cs : List Char) :
    between? o c (o :: (cs ++ [c])) = some cs := by
  simp [between?]

end SensorSim.Text
