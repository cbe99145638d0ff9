import SensorSim.Sensor.Detector
import SensorSim.Text.Quoted

/-!
# Diagnostics of installed fields

The text of an installed field with everything it is made of. A function shows as a placeholder.
-/

namespace SensorSim.Sensor

open SensorSim.Geometry SensorSim.Field
open Decimal (full)

def listText (items : List String) : String :=
  "[" ++ ", ".intercalate items ++ "]"

def originText : FieldOrigin → String
  | .grid => "Grid"
  | .constant => "Constant"
  | .linear => "Linear"
  | .custom => "Custom"

def boundaryText : Boundary → String
  | .periodic => "Periodic"
  | .bounded => "Bounded"

def tableText {α : Type} [Sample α] (t : Table α) : String :=
  "FieldData \x7b samples: " ++ listText (t.samples.toList.map Sample.text) ++
    ", dimensions: " ++ toString t.dimensions ++
    ", size: " ++ listText [full t.size.x, full t.size.y, full t.size.z] ++
    ", source: " ++ Text.quoted? t.source ++ " \x7d"

def gridText {α : Type} [Sample α] (g : Grid α) : String :=
  "GridField \x7b data: " ++ tableText g.table ++
    ", scale: " ++ listText [full g.scale.x, full g.scale.y] ++
    ", offset: " ++ listText [full g.offset.x, full g.offset.y] ++
    ", boundary: " ++ boundaryText g.boundary ++ " \x7d"

def sourceText {α : Type} [Sample α] : Source α → String
  | .grid g => "Grid(" ++ gridText g ++ ")"
  | .function _ => "Function(..)"

def InstalledField.describe {α : Type} [Sample α] (f : InstalledField α) : String :=
  "DetectorField \x7b source: " ++ sourceText f.source ++
    ", thickness_domain: ThicknessDomain \x7b min: " ++ full f.depth.least ++ ", max: " ++
    full f.depth.greatest ++ " \x7d, field_type: " ++ originText f.origin ++ " \x7d"

end SensorSim.Sensor
