import SensorSim.Bus.Record

/-!
# Messages

A message carries records of one kind, for one detector or for none in particular, and bears the
number of the event in which it was dispatched.
-/

namespace SensorSim.Bus

/-- The kinds of message, by the records that they carry. -/
inductive Kind where
  | deposited
  | drifted
  | pixel
deriving DecidableEq, Repr, Inhabited

namespace Kind

def name : Kind → String
  | deposited => "DepositedCharge"
  | drifted => "PropagatedCharge"
  | pixel => "PixelCharge"

def all : List Kind := [deposited, drifted, pixel]

instance : ToString Kind := ⟨name⟩

/-- There are no other kinds. -/
theorem mem_all (k : Kind) : k ∈ all := by
  cases k <;> decide

end Kind

/-- Records of one kind. -/
inductive Records where
  | deposited (records : List Deposit)
  | drifted (records : List Drifted)
  | pixel (records : List PixelCharge)
deriving BEq, Repr, Inhabited

namespace Records

def kind : Records → Kind
  | deposited _ => .deposited
  | drifted _ => .drifted
  | pixel _ => .pixel

def length : Records → Nat
  | deposited rs => rs.length
  | drifted rs => rs.length
  | pixel rs => rs.length

def none : Kind → Records
  | .deposited => deposited []
  | .drifted => drifted []
  | .pixel => pixel []

def texts : Records → List String
  | deposited rs => rs.map toString
  | drifted rs => rs.map toString
  | pixel rs => rs.map toString

/-- The descriptions of the records: the name of their kind and their text. -/
def descriptions (r : Records) : List String :=
  r.texts.map fun t => r.kind.name ++ ": " ++ t

/-- No records of a kind are still records of that kind. -/
theorem kind_none (k : Kind) : (none k).kind = k := by
  cases k <;> rfl

end Records

/-- A message. One that was not dispatched yet bears the number zero. -/
structure Message where
  records : Records
  detector : Option String := none
  event : Nat := 0
deriving BEq, Repr, Inhabited

namespace Message

def kind (m : Message) : Kind :=
  m.records.kind

/-- The deposits that a message carries, when it is of that kind. -/
def deposits? (m : Message) : Option (List Deposit) :=
  match m.records with
  | .deposited rs => some rs
  | _ => none

/-- The drifted carriers that a message carries, when it is of that kind. -/
def drifted? (m : Message) : Option (List Drifted) :=
  match m.records with
  | .drifted rs => some rs
  | _ => none

/-- The pixel charges that a message carries, when it is of that kind. -/
def pixels? (m : Message) : Option (List PixelCharge) :=
  match m.records with
  | .pixel rs => some rs
  | _ => none

instance : ToString Message where
  toString m :=
    let target := match m.detector with
      | some d => " for " ++ d
      | none => ""
    s!"{m.kind} x{m.records.length}{target} in event {m.event}"

end Message

end SensorSim.Bus
