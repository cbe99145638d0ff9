import SensorSim.Geometry.Space

/-!
# Samples

What a field holds at one place: a number, as a potential does, or a vector, as an electric field
does.
-/

namespace SensorSim.Field

open SensorSim.Geometry

/-- A kind of value that a field can hold. -/
class Sample (α : Type) where
  /-- How many numbers make a value. -/
  width : Nat
  /-- The value made of the first `width` of some numbers. -/
  ofComponents : List Float → α
  /-- The numbers that a value is made of. -/
  components : α → List Float
  /-- A value with every component multiplied by a factor. -/
  scaled : α → Float → α
  /-- The value where there is no field. -/
  zero : α
  /-- The text of a value in diagnostics. -/
  text : α → String

instance : Sample Float where
  width := 1
  ofComponents cs := cs.headD 0.0
  components x := [x]
  scaled x k := x * k
  zero := 0.0
  text := Decimal.full

instance : Sample Vec3 where
  width := 3
  ofComponents
    | x :: y :: z :: _ => ⟨x, y, z⟩
    | _ => .zero
  components := Vec3.toList
  scaled := Vec3.scale
  zero := .zero
  text v := "Vector3 \x7b x: " ++ Decimal.full v.x ++ ", y: " ++ Decimal.full v.y ++ ", z: " ++
    Decimal.full v.z ++ " \x7d"

end SensorSim.Field
