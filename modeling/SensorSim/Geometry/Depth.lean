import SensorSim.Geometry.Space

/-!
# Depth ranges

The range of depths over which a sensor or a field extends.
-/

namespace SensorSim.Geometry

open Decimal (plain)

/-- A range of depths, its ends included. -/
structure DepthRange where
  least : Float
  greatest : Float
deriving BEq, Repr, Inhabited

namespace DepthRange

def span (d : DepthRange) : Float :=
  d.greatest - d.least

def contains (d : DepthRange) (z : Float) : Bool :=
  d.least ≤ z && z ≤ d.greatest

instance : ToString DepthRange := ⟨fun d => s!"[{plain d.least}, {plain d.greatest}]"⟩

end DepthRange

end SensorSim.Geometry
