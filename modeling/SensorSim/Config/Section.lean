import SensorSim.Config.Value
import SensorSim.Files.Path
import SensorSim.Files.FileSystem

/-!
# Configuration sections

A section holds the raw values of one stage under their keys, in the order in which the keys were
first set. Values are read on request, and an error names the section and the key.
-/

namespace SensorSim.Config

open Files

/-- A configuration section. -/
structure Section where
  name : String
  entries : List (String × String) := []
  baseDirectory : Option String := none
deriving Repr, Inhabited

/-- Why a value cannot be had from a section. -/
inductive ConfigError where
  | missingKey (sectionName key : String)
  | invalidValue (sectionName key reason : String)
deriving DecidableEq, Repr

def ConfigError.message : ConfigError → String
  | missingKey s key => s!"key '{key}' in section '{s}' is required but not set"
  | invalidValue s key reason => s!"value of '{key}' in section '{s}' is invalid: {reason}"

namespace Section

/-- Sets a key in a list of entries: a known key keeps its place, a new one comes last. -/
def put (key value : String) : List (String × String) → List (String × String)
  | [] => [(key, value)]
  | (k, v) :: rest => if k = key then (k, value) :: rest else (k, v) :: put key value rest

def set (s : Section) (key value : String) : Section :=
  { s with entries := put key value s.entries }

/-- A section with the given raw values, set in order. -/
def ofList (name : String) (values : List (String × String)) (base : Option String := none) : Section :=
  values.foldl (fun s kv => s.set kv.1 kv.2) { name, baseDirectory := base }

def raw? (s : Section) (key : String) : Option String :=
  s.entries.lookup key

def has (s : Section) (key : String) : Bool :=
  (s.raw? key).isSome

/-- The error that the value of a key is not acceptable. -/
def invalid (s : Section) (key reason : String) : ConfigError :=
  .invalidValue s.name key reason

def get {α : Type} (s : Section) (read : Reading α) (key : String) : Except ConfigError α :=
  match s.raw? key with
  | none => .error (.missingKey s.name key)
  | some raw =>
    match read raw.toList with
    | .ok value => .ok value
    | .error fault => .error (s.invalid key fault.message)

/-- Reads the value of a key, with a default for a key that is not set. -/
def getOr {α : Type} (s : Section) (read : Reading α) (key : String) (default : α) :
    Except ConfigError α :=
  if s.has key then s.get read key else .ok default

/-- Reads a path, a relative one relative to the base directory. -/
def getPath (s : Section) (key : String) : Except ConfigError String := do
  let path ← s.get Reading.path key
  match s.baseDirectory with
  | some base => return join base path
  | none => return path

/-- Reads a path that must lead to something in the file system. -/
def getExistingPath (s : Section) (files : FileSystem) (key : String) : Except ConfigError String := do
  let path ← s.getPath key
  if files.holds path then return path
  else throw (s.invalid key s!"path '{path}' does not exist")

/-- Two sections agree when they have the same name, the same base directory and the same values,
whatever the order of the keys. -/
def agrees (s t : Section) : Bool :=
  let sameBase := match s.baseDirectory, t.baseDirectory with
    | some a, some b => alike a b
    | none, none => true
    | _, _ => false
  s.name == t.name && sameBase && s.entries.length == t.entries.length &&
    s.entries.all fun (k, v) => t.raw? k == some v

/-- The value found under a key after it was set is the new one. -/
theorem lookup_put_self (key value : String) (es : List (String × String)) :
    (put key value es).lookup key = some value := by
  induction es with
  | nil => simp [put]
  | cons e es ih =>
    obtain ⟨k, v⟩ := e
    by_cases h : k = key
    · simp [put, h]
    · have h' : (key == k) = false := by simpa using fun e => h e.symm
      simp [put, h, List.lookup_cons, h', ih]

/-- Setting a key leaves the other keys alone. -/
theorem lookup_put_of_ne {key other : String} (h : other ≠ key) (value : String)
    (es : List (String × String)) : (put key value es).lookup other = es.lookup other := by
  have hb : (other == key) = false := by simpa using h
  induction es with
  | nil => simp [put, List.lookup_cons, hb]
  | cons e es ih =>
    obtain ⟨k, v⟩ := e
    by_cases hk : k = key
    · subst hk
      simp [put, List.lookup_cons, hb]
    · simp [put, hk, List.lookup_cons, ih]

end Section

end SensorSim.Config
