import SensorSim.Field.Table
import SensorSim.Field.Analytic

/-!
# Installed fields

A field as it stands on a detector: a table laid around a pixel, or a function, over a range of
depths. It is asked at positions relative to the middle of a pixel and is zero outside its range of
depths.
-/

namespace SensorSim.Sensor

open SensorSim.Geometry SensorSim.Field

/-- What a table gives outside its extent. -/
inductive Boundary where
  /-- The table repeats in every cell. -/
  | periodic
  /-- There is no field outside the table. -/
  | bounded
deriving DecidableEq, Repr

/-- A table laid around the middle of a pixel. -/
structure Grid (α : Type) where
  table : Table α
  /-- The extent of the table along the rows and the columns in pitches. -/
  scale : Vec2
  /-- What is added to a position before it is looked up. -/
  offset : Vec2
  boundary : Boundary

/-- What an installed field is made of. -/
inductive Source (α : Type) where
  | grid (grid : Grid α)
  | function (f : Point3 → α)

/-- A field on a detector. -/
structure InstalledField (α : Type) where
  source : Source α
  depth : DepthRange
  origin : FieldOrigin

namespace InstalledField

variable {α : Type}

def ofGrid (grid : Grid α) (depth : DepthRange) : InstalledField α :=
  ⟨.grid grid, depth, .grid⟩

def ofFunction (f : Point3 → α) (depth : DepthRange) (origin : FieldOrigin) : InstalledField α :=
  ⟨.function f, depth, origin⟩

/-- Where a coordinate falls in a table of the given span around zero, as a fraction of it. -/
def fraction? (coordinate span : Float) : Boundary → Option Float
  | .periodic => some (Decimal.wrapUnit (coordinate / span + 0.5))
  | .bounded =>
    let f := coordinate / span + 0.5
    if 0.0 ≤ f && f ≤ 1.0 then some f else none

/-- What a table gives at a position, when that lies within its extent. -/
def lookup? (g : Grid α) (depth : DepthRange) (pos : Point3) (pitch : Vec2) : Option α := do
  let fz := (pos.z - depth.least) / depth.span
  let fx ← fraction? (pos.x + g.offset.x) (g.scale.x * pitch.x) g.boundary
  let fy ← fraction? (pos.y + g.offset.y) (g.scale.y * pitch.y) g.boundary
  g.table.sample? fx fy fz

/-- The field at a position relative to the middle of a pixel of the given pitch. -/
def eval [Sample α] (f : InstalledField α) (pos : Point3) (pitch : Vec2) : α :=
  if f.depth.contains pos.z then
    match f.source with
    | .function g => g pos
    | .grid g => (lookup? g f.depth pos pitch).getD Sample.zero
  else Sample.zero

/-- Outside its range of depths a field is zero. -/
theorem eval_of_outside [Sample α] {f : InstalledField α} {pos : Point3} (pitch : Vec2)
    (h : f.depth.contains pos.z = false) : f.eval pos pitch = Sample.zero := by
  simp [eval, h]

end InstalledField

end SensorSim.Sensor
