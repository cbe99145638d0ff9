import SensorSim.Files.Path
import SensorSim.Files.FileSystem

/-!
# File trees in memory

A tree of directories, files and links as a list of entries, and the file system it amounts to. A
place in the tree is the list of names that leads to it from the root. Paths are followed name by
name, a link in the middle included; a relative path starts at the root.
-/

namespace SensorSim.Files

/-- What stands at a place of a tree. -/
inductive Entry where
  | directory
  | file (content : ByteArray)
  | link (target : String)

/-- A place in a tree. -/
abbrev Place := List String

/-- A tree: the entries below the root, each at its place. -/
structure Tree where
  entries : List (Place × Entry) := []

namespace Tree

/-- The entry at a place. The root is a directory. -/
def entry? (t : Tree) (place : Place) : Option Entry :=
  if place = [] then some .directory else t.entries.lookup place

/-- The reasons for which a path leads nowhere. -/
def notFound : String := "No such file or directory (os error 2)"

@[inherit_doc notFound]
def notDirectory : String := "Not a directory (os error 20)"

@[inherit_doc notFound]
def tooManyLinks : String := "Too many levels of symbolic links (os error 40)"

@[inherit_doc notFound]
def tooLong : String := "File name too long (os error 36)"

@[inherit_doc notFound]
def nullCharacter : String := "file name contained an unexpected NUL byte"

def greatestName : Nat := 255

def greatestPath : Nat := 4095

/-- The names to follow along a path. A path that ends in a slash must lead to a directory. -/
def steps (path : String) : List String :=
  pieces path ++ (if path.toList.getLast? = some '/' then ["."] else [])

/-- Follows names from a place, through at most `links` links. -/
def walk (t : Tree) (links : Nat) (place : Place) (names : List String) : Except String Place :=
  match names with
  | [] => .ok place
  | name :: rest =>
    match t.entry? place with
    | some .directory =>
      if name = "." then t.walk links place rest
      else if name = ".." then t.walk links place.dropLast rest
      else if greatestName < name.utf8ByteSize then .error tooLong
      else
        match t.entry? (place ++ [name]) with
        | none => .error notFound
        | some (.link target) =>
          match links with
          | 0 => .error tooManyLinks
          | links + 1 =>
            t.walk links (if isAbsolute target then [] else place) (steps target ++ rest)
        | some _ => t.walk links (place ++ [name]) rest
    | _ => .error notDirectory
  termination_by (links, names.length)

def greatestLinks : Nat := 40

/-- The place that a path leads to when it is followed from name to name, however long it is. -/
def locate (t : Tree) (path : String) : Except String Place :=
  if path.contains '\x00' then .error nullCharacter
  else if path.isEmpty then .error notFound
  else t.walk greatestLinks [] (steps path)

/-- The place that a path leads to when it is used as a whole, which a path that is too long is
not. -/
def find (t : Tree) (path : String) : Except String Place :=
  if !path.contains '\x00' && greatestPath < path.utf8ByteSize then .error tooLong
  else t.locate path

def pathOf (place : Place) : String :=
  "/" ++ "/".intercalate place

/-- The size recorded for a directory. -/
def directorySize : Nat := 4096

/-- The file system that a tree amounts to. A path of any length is resolved, name by name, as long
as what it resolves to is not too long itself. -/
def toFileSystem (t : Tree) : FileSystem where
  resolve path := ((t.locate path).toOption.map pathOf).filter (·.utf8ByteSize ≤ greatestPath)
  openFile path := do
    let place ← t.find path
    match t.entry? place with
    | some (.file content) => return ⟨content.size, .ok content⟩
    | some .directory => return ⟨directorySize, .error "Is a directory (os error 21)"⟩
    | _ => throw notFound
  holds path := (t.find path).toBool

def put (t : Tree) (place : Place) (e : Entry) : Tree :=
  { t with entries := (place, e) :: t.entries.filter (·.1 ≠ place) }

def hasDirectory (t : Tree) (place : Place) : Bool :=
  match t.entry? place with
  | some .directory => true
  | _ => false

/-- Follows names from a place and makes each directory that is missing when it is come to, so also
one that the next name leaves again. What stands in the way stays, and what lies beyond it is out of
reach. -/
def enter (t : Tree) (place : Place) : List String → Tree × Place
  | [] => (t, place)
  | name :: rest =>
    match t.walk greatestLinks place [name] with
    | .ok next => t.enter next rest
    | .error _ =>
      let next := place ++ [name]
      (if (t.entry? next).isSome then t else t.put next .directory).enter next rest

/-- The place that a path names, where a link at its end stands for itself. -/
def spot (t : Tree) (path : String) : Place :=
  let names := steps path
  match t.walk greatestLinks [] names.dropLast with
  | .ok place => place ++ names.getLast?.toList
  | .error _ => names

/-- Follows the link at a place, through at most `links` links, also to where nothing stands yet. -/
def follow (t : Tree) : Nat → Place → Place
  | 0, place => place
  | links + 1, place =>
    match t.entry? place with
    | some (.link target) => t.follow links (t.spot (join (pathOf place.dropLast) target))
    | _ => place

/-- Whether a text can be used as a path as a whole. -/
def isUsable (path : String) : Bool :=
  !path.isEmpty && !path.contains '\x00' && path.utf8ByteSize ≤ greatestPath

/-- Writes a file, and the directories that lead to it where they are missing. It takes the place of
a file, through a link as well, and not that of a directory. -/
def write (t : Tree) (path : String) (content : ByteArray) : Tree :=
  if !isUsable path then t else
  let names := pieces path
  let (t, parent) := t.enter [] names.dropLast
  let place := t.follow greatestLinks (parent ++ names.getLast?.toList)
  if t.hasDirectory place.dropLast && !t.hasDirectory place then t.put place (.file content) else t

/-- Makes a directory and those that lead to it. -/
def makeDirectory (t : Tree) (path : String) : Tree :=
  if !isUsable path then t else (t.enter [] (pieces path)).1

/-- Makes a link where nothing stands yet, and the directories that lead to it where they are
missing. -/
def makeLink (t : Tree) (path destination : String) : Tree :=
  if !isUsable path || !isUsable destination then t else
  let names := pieces path
  let (t, parent) := t.enter [] names.dropLast
  let place := parent ++ names.getLast?.toList
  if t.hasDirectory parent && (t.entry? place).isNone then t.put place (.link destination) else t

/-- Removes what stands at a path, and everything below it. -/
def remove (t : Tree) (path : String) : Tree :=
  if !isUsable path then t else
  let place := t.spot path
  { t with entries := t.entries.filter fun e => !place.isPrefixOf e.1 }

end Tree

end SensorSim.Files
