import SensorSim.Geometry.Depth

/-!
# Fields in closed form

The weighting potential of a rectangular pad between two planes, as a series of image charges, and
the electric fields that are constant or linear in depth.
-/

namespace SensorSim.Field

open SensorSim.Geometry

/-- How an installed field was made. -/
inductive FieldOrigin where
  | grid
  | constant
  | linear
  | custom
deriving DecidableEq, Repr

def FieldOrigin.name : FieldOrigin → String
  | grid => "grid"
  | constant => "constant"
  | linear => "linear"
  | custom => "custom"

/-- The ratio of a circle's circumference to its diameter. -/
def pi : Float := 3.141592653589793

/-- The number of image charges on each side that the series of a pad takes in. -/
def padSeriesTerms : Nat := 100

/-- The solid angle that a corner at distance `a` and `b` subtends from height `c`. -/
def cornerTerm (a b c : Float) : Float :=
  let ab := a * b
  if ab == 0.0 then 0.0 else (ab / c / (a * a + b * b + c * c).sqrt).atan

/-- The four corners of a pad seen from height `u` above the point `(x, y)`. -/
def padCorners (implant : Vec2) (x y u : Float) : Float :=
  let x1 := x - implant.x / 2.0
  let x2 := x + implant.x / 2.0
  let y1 := y - implant.y / 2.0
  let y2 := y + implant.y / 2.0
  cornerTerm x1 y1 u + cornerTerm x2 y2 u - cornerTerm x1 y2 u - cornerTerm x2 y1 u

/-- The weighting potential of a pad of the given implant at the top of a depth range. -/
def padPotential (implant : Vec2) (depth : DepthRange) (p : Point3) : Float :=
  let d := depth.span
  let z := depth.greatest - p.z
  let images := (List.range padSeriesTerms).foldl (fun sum i =>
    let n := Float.ofNat (i + 1)
    sum + (padCorners implant p.x p.y (2.0 * n * d - z) - padCorners implant p.x p.y (2.0 * n * d + z))) 0.0
  1.0 / (2.0 * pi) * (padCorners implant p.x p.y z - images)

/-- The field of a bias voltage that drops evenly over a depth range. -/
def constantField (bias : Float) (depth : DepthRange) : Point3 → Vec3 :=
  let strength := bias / depth.span
  fun _ => ⟨0.0, 0.0, strength⟩

/-- The field of a bias voltage over a depleted depth range: linear in depth and never negative. -/
def linearField (bias depletion : Float) (depth : DepthRange) (p : Point3) : Vec3 :=
  let thickness := depth.span
  let z := depth.greatest - p.z
  let strength := (bias - depletion) / thickness + 2.0 * (depletion / thickness) * (1.0 - z / thickness)
  ⟨0.0, 0.0, larger strength 0.0⟩

end SensorSim.Field
