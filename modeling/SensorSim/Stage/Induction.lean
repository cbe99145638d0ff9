import SensorSim.Stage.Basic

/-!
# Induction

Adds up the charge that drifting carriers induce on the pixels: for each carrier that ends under the
matrix, its charge times the change of the weighting potential, on the pixel under its end and the
eight around it.
-/

namespace SensorSim.Stage

open Bus SensorSim.Geometry
open Sensor (Detector FieldQueryError)

/-- A stage that adds up induced charge. -/
structure Induction where
  detector : String

namespace Induction

/-- Charges by pixel, in ascending order of the pixels. -/
abbrev Tally := List PixelCharge

/-- Adds a charge to a pixel, which starts from zero. -/
def addTo (p : Pixel) (q : Float) : Tally → Tally
  | [] => [⟨p, 0.0 + q⟩]
  | c :: rest =>
    match p.compare c.pixel with
    | .lt => ⟨p, 0.0 + q⟩ :: c :: rest
    | .eq => ⟨p, c.charge + q⟩ :: rest
    | .gt => c :: addTo p q rest

/-- The charge that a carrier induces on a pixel. -/
def induced (d : Detector) (x : Drifted) (p : Pixel) : Except FieldQueryError Float := do
  let final ← d.potentialOf x.position p
  let initial ← d.potentialOf x.start p
  return x.carrier.sign * Float.ofNat x.charge * (final - initial)

/-- The pixels of the matrix on which a carrier induces charge. -/
def touched (d : Detector) (x : Drifted) : List Pixel :=
  match d.model.pixelAt? x.position with
  | none => []
  | some p => p.neighbourhood.filter d.model.contains

/-- The pixels on which carriers induce charge with the charge of each, in the order of the
carriers. -/
def contributions (d : Detector) (xs : List Drifted) : Except FieldQueryError Tally :=
  (xs.flatMap fun x => (touched d x).map fun p => (x, p)).mapM fun (x, p) =>
    return ⟨p, ← induced d x p⟩

/-- The charges that carriers induce, by pixel. -/
def induce (d : Detector) (xs : List Drifted) : Except FieldQueryError Tally := do
  return (← contributions d xs).foldl (fun tally c => addTo c.pixel c.charge tally) []

/-- Subscribes to drifted carriers and gives pixel charges. -/
def setUp (_ : SetupContext) : SetupM Induction Unit := do
  SetupM.subscribeOwn .drifted .required
  SetupM.publish .pixel

def run (ctx : RunContext) : RunM Induction Unit := do
  let detector ← ctx.getDetector
  match ← RunM.fetch ctx .drifted with
  | none => return ()
  | some m =>
    match m.drifted? with
    | none => throw (.executionFailed s!"unexpected records in {m}")
    | some xs =>
      let charges ← RunM.ofQuery (induce detector xs)
      let _ ← RunM.dispatch ctx (.pixel charges)

end Induction

instance : Stage Induction where
  name _ := "PulseTransfer"
  detector? d := some d.detector
  setUp := Induction.setUp
  run := Induction.run

end SensorSim.Stage
