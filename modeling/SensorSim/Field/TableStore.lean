import SensorSim.Field.TableFile
import SensorSim.Files.FileSystem
import SensorSim.Files.Path

/-!
# Stores of tables

A store reads every file at most once and shares its table from then on. A file is known by the
parts of the path that leads to it directly, or else of the path as given. The store makes a cell
for a file before it reads the file, and fills it with the table; when the file could not be read,
it takes the empty cell away, and the file is read again when it is next asked for.
-/

namespace SensorSim.Field

open Files

/-- A table together with its number in the store that holds it. Two tables of one store are the
same object exactly when they have the same number. -/
structure SharedTable (α : Type) where
  serial : Nat
  table : Table α

/-- The cells of a store in the order in which they were made, each under the parts of the path of
its file. A cell is empty until its file was read. -/
abbrev Cells (α : Type) := List (List PathPart × Option (SharedTable α))

namespace Cells

variable {α : Type}

def table? (cells : Cells α) (k : List PathPart) : Option (SharedTable α) :=
  (cells.lookup k).join

/-- Makes an empty cell for a file that has none. -/
def ensure (cells : Cells α) (k : List PathPart) : Cells α :=
  if (cells.lookup k).isSome then cells else cells ++ [(k, none)]

/-- Puts a table into the cell of a file. -/
def fill (k : List PathPart) (t : SharedTable α) : Cells α → Cells α
  | [] => []
  | c :: rest => if c.1 = k then (k, some t) :: rest else c :: fill k t rest

/-- Takes the cell of a file away when it is empty. The other cells keep their order. -/
def discard (k : List PathPart) : Cells α → Cells α
  | [] => []
  | c :: rest =>
    if c.1 = k then if c.2.isNone then rest else c :: rest
    else c :: discard k rest

end Cells

/-- The tables read so far. -/
structure TableStore (α : Type) where
  /-- What the values of a file are multiplied by. -/
  units : Float
  /-- The ceiling for the size of one file in bytes. -/
  limit : Nat
  /-- The memory for one table in bytes. -/
  memory : Nat := TableFile.defaultMemory
  cells : Cells α := []
  /-- How many tables were made. -/
  made : Nat := 0

/-- The ceiling that holds when none is chosen: two gibibytes. -/
def defaultLimit : Nat := 2147483648

namespace TableStore

variable {α : Type}

/-- The path that leads to a file directly, or else the path as given. -/
def directPath (files : FileSystem) (path : String) : String :=
  (files.resolve path).getD path

/-- What a file is known by. -/
def key (files : FileSystem) (path : String) : List PathPart :=
  parts (directPath files path)

def contains (s : TableStore α) (files : FileSystem) (path : String) : Bool :=
  (s.cells.table? (key files path)).isSome

def size (s : TableStore α) : Nat :=
  s.cells.countP fun c => c.2.isSome

/-- Reads a table from a file that is not kept yet. -/
def load [Sample α] (s : TableStore α) (files : FileSystem) (name : String) :
    Except TableFileError (Table α) :=
  match files.openFile name with
  | .error reason => .error (.io name reason)
  | .ok file =>
    if s.limit < file.size then .error (.oversized name file.size s.limit)
    else
      match file.content with
      | .error reason => .error (.io name reason)
      | .ok bytes => TableFile.read name s.units s.limit bytes s.memory

/-- The table of a file, and the store afterwards. -/
def get [Sample α] (s : TableStore α) (files : FileSystem) (path : String) :
    Except TableFileError (SharedTable α) × TableStore α :=
  let k := key files path
  let s := { s with cells := s.cells.ensure k }
  match s.cells.table? k with
  | some shared => (.ok shared, s)
  | none =>
    match s.load files (directPath files path) with
    | .error e => (.error e, { s with cells := s.cells.discard k })
    | .ok table =>
      let shared : SharedTable α := ⟨s.made, table⟩
      (.ok shared, { s with cells := s.cells.fill k shared, made := s.made + 1 })

def describe (s : TableStore α) : String :=
  "FieldParser \x7b value_units: " ++ Decimal.full s.units ++ ", max_bytes: " ++ toString s.limit ++
    ", loaded: " ++ toString s.size ++ " \x7d"

end TableStore

/-- The stores of one simulation: one for each kind of field. -/
structure TableStores where
  potentials : TableStore Float
  fields : TableStore Geometry.Vec3

/-- What the values of electric-field files are multiplied by to give volts per millimetre. -/
def fieldFileUnits : Float := 0.1

def TableStores.ofLimit (limit : Nat) : TableStores where
  potentials := { units := 1.0, limit }
  fields := { units := fieldFileUnits, limit }

def TableStores.describe (s : TableStores) : String :=
  "FieldCache \x7b weighting_potentials: " ++ s.potentials.describe ++ ", electric_fields: " ++
    s.fields.describe ++ " \x7d"

end SensorSim.Field
