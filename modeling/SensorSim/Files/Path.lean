/-!
# Paths as text

A path is a text whose parts are separated by slashes; one that starts with a slash is absolute.
Joining adds at most one slash and changes nothing else. Two paths are alike when they have the same
parts.
-/

namespace SensorSim.Files

/-- A part of a path. -/
inductive PathPart where
  | root
  | current
  | parent
  | named (name : String)
deriving DecidableEq, Repr

def isAbsolute (path : String) : Bool :=
  path.toList.head? == some '/'

def join (base path : String) : String :=
  if isAbsolute path then path
  else if base.isEmpty ∨ base.toList.getLast? = some '/' then base ++ path
  else base ++ "/" ++ path

/-- The pieces of a path between its slashes, without the empty ones. -/
def pieces (path : String) : List String :=
  ((path.toList.splitOnP (· == '/')).filter fun p => !p.isEmpty).map String.ofList

def PathPart.ofPiece (piece : String) : PathPart :=
  if piece = "." then .current else if piece = ".." then .parent else .named piece

/-- The parts of a path. The current directory is a part only where a relative path starts with
it. -/
def parts (path : String) : List PathPart :=
  let all := (pieces path).map PathPart.ofPiece
  if isAbsolute path then .root :: all.filter (· ≠ .current)
  else match all with
    | .current :: rest => .current :: rest.filter (· ≠ .current)
    | all => all.filter (· ≠ .current)

/-- Whether two paths have the same parts. -/
def alike (a b : String) : Bool :=
  parts a == parts b

/-- An absolute path is not moved by a base. -/
theorem join_of_isAbsolute {base path : String} (h : isAbsolute path = true) :
    join base path = path := by
  simp [join, h]

end SensorSim.Files
