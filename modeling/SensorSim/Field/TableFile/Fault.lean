/-!
# What can be wrong with a table file

The errors of opening and reading a table file. `Fault` lists what can be wrong with the content;
the error that leaves the reader carries its wording and the path.
-/

namespace SensorSim.Field

/-- Why a table file gives no table. -/
inductive TableFileError where
  /-- The file cannot be read. -/
  | io (path reason : String)
  /-- The content is no table. -/
  | malformed (path reason : String)
  /-- The file or its table passes the ceiling. -/
  | oversized (path : String) (required limit : Nat)
deriving DecidableEq, Repr

namespace TableFileError

def message : TableFileError → String
  | io path reason => s!"cannot read field file '{path}': {reason}"
  | malformed path reason => s!"malformed field file '{path}': {reason}"
  | oversized path required limit =>
    s!"field file '{path}' too large: needs {required} bytes, limit is {limit}"

def path : TableFileError → String
  | io p _ | malformed p _ | oversized p _ _ => p

end TableFileError

namespace TableFile

/-- What can be wrong with the content of a table file. Every item of a file has a name. -/
inductive Fault where
  | empty
  | ended (item : String)
  | invalid (item token : String)
  | notFinite (item token : String)
  | outside (item : String) (index bins : Nat)
  | inRecord (number : Nat) (fault : Fault)
  | repeated (number ix iy iz : Nat)
  | emptyAxis (nx ny nz : Nat)
  | unfit (reason : String)

/-- The wording of a fault. Records are counted from one, and so are cells. -/
def Fault.message : Fault → String
  | empty => "file is empty"
  | ended item => s!"unexpected end of file while reading {item}"
  | invalid item token => s!"invalid {item} '{token}'"
  | notFinite item token => s!"non-finite {item} '{token}'"
  | outside item index bins => s!"{item} {index} outside 1..={bins}"
  | inRecord number fault => s!"record {number}: {fault.message}"
  | repeated number ix iy iz => s!"record {number}: cell {ix} {iy} {iz} appears twice"
  | emptyAxis nx ny nz => s!"dimensions {nx}x{ny}x{nz} contain a zero"
  | unfit reason => reason

end TableFile

end SensorSim.Field
