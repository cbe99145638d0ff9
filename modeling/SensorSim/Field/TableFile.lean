import SensorSim.Field.TableFile.Record

/-!
# Table files

Reading a table from the bytes of a file under a ceiling for its size. The first line is a title. Of
what follows at most one byte past the ceiling is looked at, so that a file that is too large is
noticed without reading all of it, and a table that is too large is refused before any of its
records is read.
-/

namespace SensorSim.Field.TableFile

open Text

/-- The first line with its line end, and what follows it. -/
def splitTitle (bytes : List UInt8) : List UInt8 × List UInt8 :=
  let line := bytes.takeWhile (· ≠ 10)
  match bytes.dropWhile (· ≠ 10) with
  | [] => (line, [])
  | lineEnd :: rest => (line ++ [lineEnd], rest)

/-- The characters that bytes encode in UTF-8. -/
def decode? (bytes : List UInt8) : Option (List Char) :=
  (String.fromUTF8? ⟨bytes.toArray⟩).map String.toList

/-- The reason given for bytes that are not UTF-8. -/
def notUtf8 : String := "stream did not contain valid UTF-8"

/-- The largest size in bytes of an object in memory, `2 ^ 63 - 1`. -/
def greatestObject : Nat := 9223372036854775807

/-- The memory in bytes for the samples of one table when nothing else is said: sixty-four
gibibytes. -/
def defaultMemory : Nat := 68719476736

/-- The size in bytes of the samples of a table, at most the greatest count. -/
def tableBytes (cells width : Nat) : Nat :=
  min (cells * width * 8) greatestCount

/-- The body of a file behind its title, when both are text and the two together keep to the
limit. -/
def body (label : String) (limit : Nat) (bytes : List UInt8) : Except TableFileError (List Char) :=
  let (title, rest) := splitTitle bytes
  let seen := rest.take (min (limit + 1) greatestCount)
  match decode? title with
  | none => .error (.io label notUtf8)
  | some [] => .error (.malformed label Fault.empty.message)
  | some _ =>
    match decode? seen with
    | none => .error (.io label notUtf8)
    | some text =>
      let consumed := title.length + seen.length
      if consumed ≤ limit then .ok text else .error (.oversized label consumed limit)

/-- Runs a reader on the remaining words of the file of the given name. -/
def run {α : Type} (label : String) (r : Reader α) (tokens : Tokens) :
    Except TableFileError (α × Tokens) :=
  match r tokens with
  | .ok result => .ok result
  | .error fault => .error (.malformed label fault.message)

/-- Refuses dimensions of which one is zero, or whose table would pass the limit or the memory.
However much memory there is, no table passes the largest object. -/
def checkSize (label : String) (limit memory width : Nat) (d : Dimensions) : Except TableFileError Unit :=
  if ¬ d.Positive then .error (.malformed label (Fault.emptyAxis d.x d.y d.z).message)
  else if greatestCount < d.cells then .error (.oversized label greatestCount limit)
  else
    let required := tableBytes d.cells width
    if limit < required ∨ min greatestObject memory < required then .error (.oversized label required limit)
    else .ok ()

/-- Reads a table from the bytes of a file. Values are multiplied by `units`, and what follows the
last record is ignored. -/
def read {α : Type} [Sample α] (label : String) (units : Float) (limit : Nat) (bytes : ByteArray)
    (memory : Nat := defaultMemory) : Except TableFileError (Table α) := do
  let text ← body label limit bytes.toList
  let (head, rest) ← run label header (words text)
  checkSize label limit memory (Sample.width α) head.dimensions
  let (cells, _) : Values α × Tokens ←
    run label (records head.dimensions units head.dimensions.cells 1 ∅) rest
  match Table.build (row head.dimensions cells) head.dimensions head.size with
  | .ok table => return { table with source := some label }
  | .error fault => throw (.malformed label (Fault.unfit fault.message).message)

end SensorSim.Field.TableFile
