import SensorSim.Geometry.Depth
import SensorSim.Geometry.Pixel

/-!
# Sensor geometry

A sensor is a slab under a matrix of pixels. The centre of pixel `(0, 0)` is the origin of the
sensor plane, the middle of the slab lies at depth zero, and the readout side is at the top.
-/

namespace SensorSim.Sensor

open SensorSim.Geometry
open Decimal (plain nearestInt32)

/-- The geometry of a sensor. -/
structure Model where
  name : String
  columns : Nat
  rows : Nat
  pitch : Vec2
  implant : Vec2
  thickness : Float
deriving BEq, Repr, Inhabited

/-- The wishes for a sensor. Only the implant has a default, which is the pitch. -/
structure Design where
  name : String
  matrix : Option (Nat × Nat) := none
  pitch : Option Vec2 := none
  implant : Option Vec2 := none
  thickness : Option Float := none

/-- Why a design makes no sensor. -/
inductive DesignFault where
  | noMatrix
  | noPitch
  | noThickness
  | emptyMatrix (columns rows : Nat)
  | badPitch (pitch : Vec2)
  | badImplant (implant : Vec2)
  | implantTooLarge (implant pitch : Vec2)
  | badThickness (thickness : Float)

def DesignFault.message : DesignFault → String
  | noMatrix => "number_of_pixels is required"
  | noPitch => "pixel_size is required"
  | noThickness => "sensor_thickness is required"
  | emptyMatrix columns rows => s!"pixel matrix {columns}x{rows} is empty"
  | badPitch pitch => s!"pixel_size must be finite and > 0, got {pitch}"
  | badImplant implant => s!"implant_size must be finite and > 0, got {implant}"
  | implantTooLarge implant pitch => s!"implant_size {implant} exceeds pixel_size {pitch}"
  | badThickness thickness => s!"sensor_thickness must be finite and > 0, got {plain thickness}"

/-- Whether a number can be a length: finite and positive. -/
def isLength (x : Float) : Bool :=
  x.isFinite && x > 0.0

def areLengths (v : Vec2) : Bool :=
  isLength v.x && isLength v.y

def Design.build (d : Design) : Except DesignFault Model := do
  let some (columns, rows) := d.matrix | throw .noMatrix
  let some pitch := d.pitch | throw .noPitch
  let some thickness := d.thickness | throw .noThickness
  let implant := d.implant.getD pitch
  if columns = 0 ∨ rows = 0 then throw (.emptyMatrix columns rows)
  if !areLengths pitch then throw (.badPitch pitch)
  if !areLengths implant then throw (.badImplant implant)
  if implant.x > pitch.x || implant.y > pitch.y then throw (.implantTooLarge implant pitch)
  if !isLength thickness then throw (.badThickness thickness)
  return { name := d.name, columns, rows, pitch, implant, thickness }

namespace Model

def size (m : Model) : Vec3 :=
  ⟨Float.ofNat m.columns * m.pitch.x, Float.ofNat m.rows * m.pitch.y, m.thickness⟩

def center (m : Model) : Point3 :=
  ⟨(Float.ofNat m.columns - 1.0) / 2.0 * m.pitch.x, (Float.ofNat m.rows - 1.0) / 2.0 * m.pitch.y, 0.0⟩

def depth (m : Model) : DepthRange :=
  let top := m.center.z + m.thickness / 2.0
  ⟨top - m.thickness, top⟩

def pixelCenter (m : Model) (p : Pixel) : Point3 :=
  ⟨Float.ofInt p.x * m.pitch.x, Float.ofInt p.y * m.pitch.y, m.center.z⟩

def contains (m : Model) (p : Pixel) : Bool :=
  0 ≤ p.x && 0 ≤ p.y && p.x < m.columns && p.y < m.rows

/-- The pixel whose middle is nearest to a position, in or outside the matrix. -/
def nearestPixel (m : Model) (pos : Point3) : Pixel :=
  ⟨nearestInt32 (pos.x / m.pitch.x), nearestInt32 (pos.y / m.pitch.y)⟩

def pixelAt? (m : Model) (pos : Point3) : Option Pixel :=
  let p := m.nearestPixel pos
  if (pos.x / m.pitch.x).isFinite && (pos.y / m.pitch.y).isFinite && m.contains p then some p else none

/-- Whether a position lies in the sensor, its surface included. -/
def holds (m : Model) (pos : Point3) : Bool :=
  (pos.x - m.center.x).abs ≤ m.size.x / 2.0 && (pos.y - m.center.y).abs ≤ m.size.y / 2.0 &&
    m.depth.contains pos.z

/-- The pixel under a position belongs to the matrix. -/
theorem contains_of_pixelAt? {m : Model} {pos : Point3} {p : Pixel} (h : m.pixelAt? pos = some p) :
    m.contains p = true := by
  simp only [pixelAt?] at h
  split at h
  · rename_i hc
    cases h
    simp only [Bool.and_eq_true] at hc
    exact hc.2
  · cases h

end Model

end SensorSim.Sensor
