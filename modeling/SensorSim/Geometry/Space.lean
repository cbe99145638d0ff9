import SensorSim.Decimal.Layout

/-!
# Points and vectors

Points and displacements in space and in the pixel plane. All lengths are in millimetres. Equality
of coordinates is that of floating-point numbers: the two zeros are equal and a coordinate that is
no number differs from itself.
-/

namespace SensorSim.Geometry

open Decimal (plain)

/-- The larger of two numbers; one that is no number gives way to the other, and of two zeros the
positive one is the larger. -/
def larger (a b : Float) : Float :=
  if a.isNaN then b
  else if a < b then b
  else if a == 0.0 && b == 0.0 then a + b
  else a

/-- Equality up to a few units in the last place: the distance is at most four machine epsilons
times the larger magnitude. -/
def approxEqual (a b : Float) : Bool :=
  (a - b).abs ≤ 4.0 * 2.220446049250313e-16 * larger a.abs b.abs

/-- A displacement in space. -/
structure Vec3 where
  x : Float
  y : Float
  z : Float
deriving BEq, Repr, Inhabited

namespace Vec3

/-- The displacement of length zero. -/
def zero : Vec3 := ⟨0.0, 0.0, 0.0⟩

instance : Add Vec3 := ⟨fun a b => ⟨a.x + b.x, a.y + b.y, a.z + b.z⟩⟩
instance : Sub Vec3 := ⟨fun a b => ⟨a.x - b.x, a.y - b.y, a.z - b.z⟩⟩
instance : Neg Vec3 := ⟨fun a => ⟨-a.x, -a.y, -a.z⟩⟩

def scale (a : Vec3) (k : Float) : Vec3 :=
  ⟨a.x * k, a.y * k, a.z * k⟩

def norm (a : Vec3) : Float :=
  (a.x * a.x + a.y * a.y + a.z * a.z).sqrt

def toList (a : Vec3) : List Float :=
  [a.x, a.y, a.z]

instance : ToString Vec3 := ⟨fun a => s!"({plain a.x}, {plain a.y}, {plain a.z})"⟩

end Vec3

/-- A position in space. -/
structure Point3 where
  x : Float
  y : Float
  z : Float
deriving BEq, Repr, Inhabited

namespace Point3

def origin : Point3 := ⟨0.0, 0.0, 0.0⟩

/-- A position moved by a displacement. -/
instance : HAdd Point3 Vec3 Point3 := ⟨fun p v => ⟨p.x + v.x, p.y + v.y, p.z + v.z⟩⟩

/-- The displacement between two positions. -/
instance : HSub Point3 Point3 Vec3 := ⟨fun p q => ⟨p.x - q.x, p.y - q.y, p.z - q.z⟩⟩

instance : ToString Point3 := ⟨fun p => s!"({plain p.x}, {plain p.y}, {plain p.z})"⟩

end Point3

/-- A displacement in the pixel plane. -/
structure Vec2 where
  x : Float
  y : Float
deriving BEq, Repr, Inhabited

instance : ToString Vec2 := ⟨fun a => s!"({plain a.x}, {plain a.y})"⟩

/-- A position in the pixel plane. -/
structure Point2 where
  x : Float
  y : Float
deriving BEq, Repr, Inhabited

instance : ToString Point2 := ⟨fun p => s!"({plain p.x}, {plain p.y})"⟩

end SensorSim.Geometry
