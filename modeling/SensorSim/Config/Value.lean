import SensorSim.Text.Quoted
import SensorSim.Text.Integer
import SensorSim.Decimal.Reading
import SensorSim.Geometry.Space

/-!
# Configuration values

The texts that a configuration value may have, by the kind of value asked for. Every value may stand
between blanks and between double quotes.
-/

namespace SensorSim.Config

open Text SensorSim.Geometry

/-- Why a text is no value of the kind asked for. -/
inductive ValueFault where
  | emptyPath
  | notBoolean (text : String)
  | notNumber (text : String)
  | notFinite (text : String)
  | notInteger (text : String) (range : IntegerRange) (fault : IntegerFault)
  | componentCount (expected found : Nat)
deriving DecidableEq, Repr

def ValueFault.message : ValueFault → String
  | emptyPath => "path is empty"
  | notBoolean text => s!"'{text}' is not a boolean"
  | notNumber text => s!"'{text}' is not a number"
  | notFinite text => s!"'{text}' is not finite"
  | notInteger text range fault => s!"'{text}' is not a valid {range.name}: {fault.message}"
  | componentCount expected found => s!"expected {expected} components, found {found}"

/-- A way to read a value of type `α` from a text. -/
abbrev Reading (α : Type) := List Char → Except ValueFault α

namespace Reading

/-- Any text. -/
def text : Reading String := fun raw =>
  .ok (String.ofList (unquote raw))

/-- A path: any text that is not empty. -/
def path : Reading String := fun raw =>
  match unquote raw with
  | [] => .error .emptyPath
  | cs => .ok (String.ofList cs)

/-- A truth value: a word in any case, or a digit. -/
def boolean : Reading Bool := fun raw =>
  let word := String.ofList ((unquote raw).map Char.toLower)
  if word = "true" ∨ word = "1" then .ok true
  else if word = "false" ∨ word = "0" then .ok false
  else .error (.notBoolean word)

def number : Reading Float := fun raw =>
  let cs := unquote raw
  match Decimal.read? cs with
  | none => .error (.notNumber (String.ofList cs))
  | some x => if x.isFinite then .ok x else .error (.notFinite (String.ofList cs))

def integer (range : IntegerRange) : Reading Int := fun raw =>
  let cs := unquote raw
  match readInteger range cs with
  | .ok n => .ok n
  | .error fault => .error (.notInteger (String.ofList cs) range fault)

/-- A natural number of a range without negative integers. -/
def natural (range : IntegerRange) : Reading Nat := fun raw =>
  (integer range raw).map Int.toNat

/-- Whether a character separates components: a blank or a comma. -/
def separates (c : Char) : Bool :=
  isBlank c || c == ','

/-- The written components of a value, which may stand between square brackets. -/
def componentTexts (raw : List Char) : List (List Char) :=
  let cs := unquote raw
  runs separates ((between? '[' ']' cs).getD cs)

/-- A value of `n` numbers. Its components are counted before any of them is read. -/
def components (n : Nat) : Reading (List Float) := fun raw =>
  let tokens := componentTexts raw
  if tokens.length = n then tokens.mapM number
  else .error (.componentCount n tokens.length)

def pair {α : Type} (build : Float → Float → α) : Reading α := fun raw =>
  match components 2 raw with
  | .ok [x, y] => .ok (build x y)
  | .ok found => .error (.componentCount 2 found.length)
  | .error fault => .error fault

def triple {α : Type} (build : Float → Float → Float → α) : Reading α := fun raw =>
  match components 3 raw with
  | .ok [x, y, z] => .ok (build x y z)
  | .ok found => .error (.componentCount 3 found.length)
  | .error fault => .error fault

def vec2 : Reading Vec2 := pair Vec2.mk

def point2 : Reading Point2 := pair Point2.mk

def vec3 : Reading Vec3 := triple Vec3.mk

def point3 : Reading Point3 := triple Point3.mk

end Reading

end SensorSim.Config
