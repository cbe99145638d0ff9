import SensorSim.Geometry.Space
import SensorSim.Geometry.Pixel

/-!
# Records

What the messages of an event are made of: charge carriers where they were set free, charge carriers
where they have drifted to, and the charges of pixels. Positions are those of the sensor, charges
count elementary charges, and times are in nanoseconds.
-/

namespace SensorSim.Bus

open SensorSim.Geometry
open Decimal (plain)

/-- The kinds of charge carrier. -/
inductive Carrier where
  | electron
  | hole
deriving DecidableEq, Repr, Inhabited

def Carrier.sign : Carrier → Float
  | electron => -1.0
  | hole => 1.0

def Carrier.name : Carrier → String
  | electron => "electron"
  | hole => "hole"

/-- Carriers set free at a position. -/
structure Deposit where
  position : Point3
  charge : Nat
  carrier : Carrier
  time : Float
deriving BEq, Repr, Inhabited

/-- Carriers that have drifted from one position to another. -/
structure Drifted where
  start : Point3
  position : Point3
  charge : Nat
  carrier : Carrier
  time : Float
deriving BEq, Repr, Inhabited

/-- The charge of a pixel. -/
structure PixelCharge where
  pixel : Pixel
  charge : Float
deriving BEq, Repr, Inhabited

instance : ToString Deposit where
  toString d := s!"{d.charge} {d.carrier.name}s at {d.position} (t={plain d.time} ns)"

instance : ToString Drifted where
  toString d := s!"{d.charge} {d.carrier.name}s from {d.start} to {d.position} (t={plain d.time} ns)"

instance : ToString PixelCharge where
  toString c := s!"{plain c.charge} e on pixel {c.pixel}"

end SensorSim.Bus
