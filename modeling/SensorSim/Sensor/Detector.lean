import SensorSim.Sensor.Model
import SensorSim.Sensor.InstalledField

/-!
# Detectors

A detector is a named sensor with the fields installed on it. A field is asked at a position of the
sensor for a pixel: the position is taken relative to the middle of that pixel.
-/

namespace SensorSim.Sensor

open SensorSim.Geometry SensorSim.Field

/-- The kinds of field that a detector carries. -/
inductive FieldKind where
  | weightingPotential
  | electricField
deriving DecidableEq, Repr

def FieldKind.name : FieldKind → String
  | weightingPotential => "weighting potential"
  | electricField => "electric field"

/-- The error that a detector has no field of a kind. -/
structure FieldQueryError where
  detector : String
  kind : FieldKind
deriving DecidableEq, Repr

def FieldQueryError.message (e : FieldQueryError) : String :=
  s!"no {e.kind.name} configured for detector '{e.detector}'"

/-- A named sensor with its fields. -/
structure Detector where
  name : String
  model : Model
  potential : Option (InstalledField Float) := none
  field : Option (InstalledField Vec3) := none

namespace Detector

/-- Installs a table as the weighting potential, which is zero outside the table. -/
def installPotentialGrid (d : Detector) (table : Table Float) (scale offset : Vec2)
    (depth : DepthRange) : Detector :=
  { d with potential := some (.ofGrid ⟨table, scale, offset, .bounded⟩ depth) }

def installPotential (d : Detector) (f : Point3 → Float) (depth : DepthRange) (origin : FieldOrigin) :
    Detector :=
  { d with potential := some (.ofFunction f depth origin) }

/-- Installs a table as the electric field, which repeats in every pixel. -/
def installFieldGrid (d : Detector) (table : Table Vec3) (scale offset : Vec2) (depth : DepthRange) :
    Detector :=
  { d with field := some (.ofGrid ⟨table, scale, offset, .periodic⟩ depth) }

def installField (d : Detector) (f : Point3 → Vec3) (depth : DepthRange) (origin : FieldOrigin) :
    Detector :=
  { d with field := some (.ofFunction f depth origin) }

def has (d : Detector) : FieldKind → Bool
  | .weightingPotential => d.potential.isSome
  | .electricField => d.field.isSome

/-- How the field of a kind was made. -/
def origin? (d : Detector) : FieldKind → Option FieldOrigin
  | .weightingPotential => d.potential.map InstalledField.origin
  | .electricField => d.field.map InstalledField.origin

/-- The depths that the field of a kind takes up. -/
def depth? (d : Detector) : FieldKind → Option DepthRange
  | .weightingPotential => d.potential.map InstalledField.depth
  | .electricField => d.field.map InstalledField.depth

/-- A position relative to the middle of a pixel; depths stay as they are. -/
def relative (d : Detector) (pos : Point3) (p : Pixel) : Point3 :=
  let c := d.model.pixelCenter p
  ⟨pos.x - c.x, pos.y - c.y, pos.z⟩

/-- The weighting potential of a pixel at a position. -/
def potentialOf (d : Detector) (pos : Point3) (p : Pixel) : Except FieldQueryError Float :=
  match d.potential with
  | some f => .ok (f.eval (d.relative pos p) d.model.pitch)
  | none => .error ⟨d.name, .weightingPotential⟩

/-- The electric field at a position, relative to a pixel. -/
def fieldOf (d : Detector) (pos : Point3) (p : Pixel) : Except FieldQueryError Vec3 :=
  match d.field with
  | some f => .ok (f.eval (d.relative pos p) d.model.pitch)
  | none => .error ⟨d.name, .electricField⟩

/-- The electric field at a position, relative to the nearest pixel. -/
def fieldAt (d : Detector) (pos : Point3) : Except FieldQueryError Vec3 :=
  d.fieldOf pos (d.model.nearestPixel pos)

end Detector

end SensorSim.Sensor
