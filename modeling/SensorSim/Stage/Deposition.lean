import SensorSim.Stage.Basic
import SensorSim.Random.ChaCha

/-!
# Deposition

Sets charge carriers free around a point: in every event a number of pairs of an electron and a
hole, each pair at the point plus an offset drawn evenly from a cube. Pairs outside the sensor are
dropped. The draws of an event depend on the seed and the number of the event alone.
-/

namespace SensorSim.Stage

open Bus Config SensorSim.Geometry SensorSim.Random
open Sensor (Model)

/-- A stage that deposits charge carriers. -/
structure Deposition where
  detector : String
  pairs : Nat := 1000
  position : Point3 := .origin
  spread : Float := 0.0
  seed : Nat := 0

namespace Deposition

/-- The stream from which the offsets of an event are drawn. -/
def stream (d : Deposition) (event : Nat) : Stream :=
  .ofSeed (UInt64.ofNat (d.seed ^^^ event))

/-- The coordinate of an offset for a number drawn from `[0, 1)`. -/
def coordinate (d : Deposition) (r : Float) : Float :=
  (r * 2.0 - 1.0) * d.spread

/-- Draws an offset. Without a spread nothing is drawn. -/
def drawOffset (d : Deposition) (s : Stream) : Vec3 × Stream :=
  if d.spread == 0.0 then (.zero, s)
  else
    let (x, s) := s.unit
    let (y, s) := s.unit
    let (z, s) := s.unit
    (⟨d.coordinate x, d.coordinate y, d.coordinate z⟩, s)

/-- An electron and a hole at a position. -/
def pairAt (pos : Point3) : List Deposit :=
  [.electron, .hole].map fun carrier => { position := pos, charge := 1, carrier, time := 0.0 }

/-- The deposits of the given number of pairs, with offsets drawn from a stream. -/
def deposits (d : Deposition) (m : Model) : Nat → Stream → List Deposit
  | 0, _ => []
  | n + 1, s =>
    let (offset, s) := d.drawOffset s
    let pos := d.position + offset
    (if m.holds pos then pairAt pos else []) ++ d.deposits m n s

/-- Reads the settings, the ones not given staying as they are, and checks them. -/
def setUp (ctx : SetupContext) : SetupM Deposition Unit := do
  let c := ctx.config
  let pairs ← SetupM.ofConfig (c.getOr (Reading.natural .unsigned32) "number_of_charges" (← get).pairs)
  modify fun d => { d with pairs }
  let position ← SetupM.ofConfig (c.getOr Reading.point3 "position" (← get).position)
  modify fun d => { d with position }
  let spread ← SetupM.ofConfig (c.getOr Reading.number "spread" (← get).spread)
  modify fun d => { d with spread }
  let seed ← SetupM.ofConfig (c.getOr (Reading.natural .unsigned64) "seed" (← get).seed)
  modify fun d => { d with seed }
  if pairs = 0 then throw (.config (c.invalid "number_of_charges" "must be at least 1"))
  if spread < 0.0 then throw (.config (c.invalid "spread" "must not be negative"))
  let detector ← SetupM.detector
  if !detector.model.holds position then
    throw (.config (c.invalid "position" s!"{position} is outside the sensor"))
  SetupM.publish .deposited

def run (ctx : RunContext) : RunM Deposition Unit := do
  let detector ← ctx.getDetector
  let d ← get
  let _ ← RunM.dispatch ctx (.deposited (d.deposits detector.model d.pairs (d.stream ctx.event)))

end Deposition

instance : Stage Deposition where
  name _ := "SimpleDeposition"
  detector? d := some d.detector
  setUp := Deposition.setUp
  run := Deposition.run

end SensorSim.Stage
