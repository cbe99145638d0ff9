import SensorSim.Text.Blank
import SensorSim.Text.Integer
import SensorSim.Decimal.Reading
import SensorSim.Field.TableFile.Fault

/-!
# The words of a table file

A table file is read word by word. A reader takes what it needs from the front of the remaining
words, and an item that is missing or unreadable is named in the fault.
-/

namespace SensorSim.Field.TableFile

open Text

/-- The words still to be read. -/
abbrev Tokens := List (List Char)

/-- Takes something from the front of the remaining words. -/
abbrev Reader (α : Type) := StateT Tokens (Except Fault) α

namespace Reader

def word (item : String) : Reader (List Char) := fun tokens =>
  match tokens with
  | [] => .error (.ended item)
  | t :: rest => .ok (t, rest)

/-- Passes over some words. -/
def skip (item : String) : Nat → Reader Unit
  | 0 => pure ()
  | n + 1 => do
    let _ ← word item
    skip item n

def number (item : String) : Reader Float := do
  let t ← word item
  match Decimal.read? t with
  | none => throw (.invalid item (String.ofList t))
  | some x => if x.isFinite then return x else throw (.notFinite item (String.ofList t))

/-- A natural number that fits into 64 bits. -/
def natural (item : String) : Reader Nat := do
  let t ← word item
  match readInteger .size t with
  | .ok n => return n.toNat
  | .error _ => throw (.invalid item (String.ofList t))

/-- A place on an axis of some bins, written from one and counted from zero. -/
def place (item : String) (bins : Nat) : Reader Nat := do
  let i ← natural item
  if 1 ≤ i ∧ i ≤ bins then return i - 1 else throw (.outside item i bins)

/-- Some numbers of the same name. -/
def numbers (item : String) : Nat → Reader (List Float)
  | 0 => pure []
  | n + 1 => do
    let x ← number item
    let xs ← numbers item n
    return x :: xs

end Reader

end SensorSim.Field.TableFile
