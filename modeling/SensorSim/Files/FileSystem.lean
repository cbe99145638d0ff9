/-!
# File systems

What the simulation asks of a file system. Nothing is assumed about the answers, so a file system
may change between two questions in any way.
-/

namespace SensorSim.Files

/-- A file that has been opened: its size as recorded, and its content or the reason why it cannot
be read. -/
structure OpenFile where
  size : Nat
  content : Except String ByteArray

/-- The answers of a file system at one moment. -/
structure FileSystem where
  /-- The path that names a file directly, for a path that leads to one. -/
  resolve : String → Option String
  /-- Opens a file, or says why that is impossible. -/
  openFile : String → Except String OpenFile
  /-- Whether a path leads to anything. -/
  holds : String → Bool

/-- The file system without a file. -/
def FileSystem.empty : FileSystem where
  resolve _ := none
  openFile _ := .error "No such file or directory (os error 2)"
  holds _ := false

instance : Inhabited FileSystem := ⟨.empty⟩

end SensorSim.Files
