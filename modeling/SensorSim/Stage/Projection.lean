import SensorSim.Stage.Basic

/-!
# Projection

Moves deposited carriers to the readout side in a straight line along the electric field where they
were set free. Carriers that the field drives away from the readout side are lost.
-/

namespace SensorSim.Stage

open Bus SensorSim.Geometry
open Sensor (Detector FieldQueryError)

/-- A stage that moves carriers to the readout side. -/
structure Projection where
  detector : String

namespace Projection

/-- Where a carrier ends that starts at a position and drifts along a vector. -/
def landing (readout : Float) (start : Point3) (drift : Vec3) : Point3 :=
  let t := (readout - start.z) / drift.z
  ⟨start.x + drift.x * t, start.y + drift.y * t, readout⟩

/-- The direction in which the carriers of a deposit drift. -/
def drift (d : Detector) (x : Deposit) : Except FieldQueryError Vec3 := do
  return (← d.fieldAt x.position).scale x.carrier.sign

/-- What becomes of a deposit: nothing, when it drifts away from the readout side. -/
def project (d : Detector) (x : Deposit) : Except FieldQueryError (Option Drifted) := do
  let v ← drift d x
  if v.z ≤ 0.0 then return none
  else
    return some {
      start := x.position
      position := landing d.model.depth.greatest x.position v
      charge := x.charge
      carrier := x.carrier
      time := x.time }

/-- What becomes of deposits, in their order. -/
def projectAll (d : Detector) : List Deposit → Except FieldQueryError (List Drifted)
  | [] => .ok []
  | x :: xs => do
    let first ← project d x
    let rest ← projectAll d xs
    return first.toList ++ rest

/-- Subscribes to deposits and gives drifted carriers. -/
def setUp (_ : SetupContext) : SetupM Projection Unit := do
  SetupM.subscribeOwn .deposited .required
  SetupM.publish .drifted

def run (ctx : RunContext) : RunM Projection Unit := do
  let detector ← ctx.getDetector
  match ← RunM.fetch ctx .deposited with
  | none => throw (.executionFailed "deposited charge missing")
  | some m =>
    match m.deposits? with
    | none => throw (.executionFailed s!"unexpected records in {m}")
    | some xs =>
      let moved ← RunM.ofQuery (projectAll detector xs)
      let _ ← RunM.dispatch ctx (.drifted moved)

end Projection

instance : Stage Projection where
  name _ := "ProjectionPropagation"
  detector? d := some d.detector
  setUp := Projection.setUp
  run := Projection.run

end SensorSim.Stage
