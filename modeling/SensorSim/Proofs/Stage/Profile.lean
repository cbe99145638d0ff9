import Mathlib
import SensorSim.Stage.Profile

/-!
# What a profile holds

A profile is taken from a detector with a weighting potential while there is room for its scan
(`sample_of_potential`). The rows of the scan stand in one list, all of the same length, so the
entry of a depth bin and a bin across is where `scanAt?` looks for it (`scanAt?_filled`). A detector
without a weighting potential has no profile (`sample_of_none`), and no detector has one whose scan
would be larger than any object (`sample_of_crowded`). Together these say what is found in a
profile, bin by bin, and where there is none (`sample_fills`).
-/

namespace SensorSim.Stage.Profile

open SensorSim.Geometry
open SensorSim.Field.TableFile (greatestObject)
open Sensor (Detector InstalledField)

/-- In rows of one length, every place before an entry is in a full row or in its own. -/
lemma getElem?_flatten {α : Type} {rows : List (List α)} {n : Nat} (even : ∀ row ∈ rows, row.length = n) (j : Nat)
    {k : Nat} (hk : k < n) : rows.flatten[j * n + k]? = rows[j]?.bind fun row => row[k]? := by
  induction rows generalizing j with
  | nil => rfl
  | cons row rows ih =>
    have full := even row (List.mem_cons_self ..)
    rw [List.flatten_cons]
    cases j with
    | zero =>
      rw [Nat.zero_mul, Nat.zero_add, List.getElem?_append_left (full ▸ hk)]
      rfl
    | succ j =>
      have behind : (j + 1) * n + k = row.length + (j * n + k) := by
        rw [full]
        ring
      rw [behind, List.getElem?_append_right (Nat.le_add_right ..), Nat.add_sub_cancel_left]
      exact ih (fun r hr => even r (List.mem_cons_of_mem _ hr)) j

/-! ## Profiles of given values -/

section

variable (d : Detector) (steps : Nat)

/-- The middle of a depth bin when the sensor is cut into `steps` of them. -/
def depthAt (j : Nat) : Float :=
  d.model.depth.least + (Float.ofNat j + 0.5) / Float.ofNat steps * (d.model.depth.greatest - d.model.depth.least)

/-- The middle of a bin across when the three pitches around the middle of pixel `(0, 0)` are cut
into `steps` of them. -/
def acrossAt (k : Nat) : Float :=
  -1.5 * d.model.pitch.x + (Float.ofNat k + 0.5) / Float.ofNat steps * (3.0 * d.model.pitch.x)

variable (value : Point3 → Pixel → Float) (position : Point2)

/-- The row of the scan at a depth. -/
def rowAt (j : Nat) : List Float :=
  (List.range steps).map fun k => value ⟨acrossAt d steps k, 0.0, depthAt d steps j⟩ ⟨1, 0⟩

/-- The profile of given values over the bins of a detector. -/
def filled : Profile where
  position := position
  alongDepth := (List.range steps).map fun j =>
    (depthAt d steps j, value ⟨position.x, position.y, depthAt d steps j⟩ ⟨0, 0⟩)
  across := (-1.5 * d.model.pitch.x, 1.5 * d.model.pitch.x)
  depth := (d.model.depth.least, d.model.depth.greatest)
  steps := steps
  scan := ((List.range steps).map (rowAt d steps value)).flatten

/-- Every row has an entry for each bin across. -/
lemma length_of_mem_rows {row : List Float} (h : row ∈ (List.range steps).map (rowAt d steps value)) :
    row.length = steps := by
  obtain ⟨j, -, rfl⟩ := List.mem_map.1 h
  rw [rowAt, List.length_map, List.length_range]

/-- The scan has an entry for each depth bin and each bin across. -/
lemma length_scan_filled : (filled d steps value position).scan.length = steps * steps := by
  rw [filled, List.length_flatten, List.map_congr_left fun row => length_of_mem_rows d steps value, List.map_const',
    List.sum_replicate, List.length_map, List.length_range, smul_eq_mul]

/-- Every depth bin has its depth and the value there. -/
lemma getElem?_alongDepth_filled {j : Nat} (hj : j < steps) :
    (filled d steps value position).alongDepth[j]? =
      some (depthAt d steps j, value ⟨position.x, position.y, depthAt d steps j⟩ ⟨0, 0⟩) := by
  rw [filled, List.getElem?_map, List.getElem?_range hj, Option.map_some]

/-- The entry of a depth bin and a bin across is found at its place in the rows. -/
lemma scanAt?_filled (j k : Nat) : (filled d steps value position).scanAt? j k =
    if j < steps ∧ k < steps then some (value ⟨acrossAt d steps k, 0.0, depthAt d steps j⟩ ⟨1, 0⟩) else none := by
  rw [scanAt?, filled]
  by_cases inside : j < steps ∧ k < steps
  · rw [if_pos inside, if_pos inside, getElem?_flatten (fun row => length_of_mem_rows d steps value) j inside.2,
      List.getElem?_map, List.getElem?_range inside.1, Option.map_some, Option.bind_some, rowAt, List.getElem?_map,
      List.getElem?_range inside.2, Option.map_some]
  · rw [if_neg inside, if_neg inside]

end

/-! ## Room -/

/-- A list that keeps to the greatest object has room. -/
lemma reserve_of_le {numbers : Nat} (room : numbers * 8 ≤ greatestObject) : reserve numbers = pure () :=
  if_neg (Nat.not_lt.2 room)

/-- A list that is larger than the greatest object has none. -/
lemma reserve_of_lt {numbers : Nat} (crowded : greatestObject < numbers * 8) : reserve numbers = .error .overflow :=
  if_pos crowded

section

variable {steps : Nat}

/-- A list of pairs has room for fewer than `2 ^ 59` of them. -/
lemma reserve_depth (few : steps < 2 ^ 59) : reserve (2 * steps) = pure () := by
  refine reserve_of_le ?_
  rw [greatestObject]
  omega

/-- A list has room for the rows of a scan when there are fewer than `2 ^ 30` of them, each as long
as that. -/
lemma reserve_scan (few : steps < 2 ^ 30) : reserve (steps * steps) = pure () := by
  refine reserve_of_le ?_
  have square : steps * steps ≤ (2 ^ 30 - 1) * (2 ^ 30 - 1) :=
    Nat.mul_le_mul (Nat.le_pred_of_lt few) (Nat.le_pred_of_lt few)
  rw [greatestObject]
  omega

/-- A scan of `2 ^ 30` bins each way, or of more, has no room. -/
lemma reserve_scan_of_crowded (crowded : 2 ^ 30 ≤ steps) : reserve (steps * steps) = .error .overflow := by
  refine reserve_of_lt ?_
  have square : 2 ^ 30 * 2 ^ 30 ≤ steps * steps := Nat.mul_le_mul crowded crowded
  rw [greatestObject]
  omega

end

/-! ## Samples -/

section

variable {d : Detector} {steps : Nat} (position : Point2)

/-- On a detector with a potential every position has a value for every pixel. -/
lemma potentialOf_of_installed {f : InstalledField Float} (installed : d.potential = some f) (pos : Point3)
    (pixel : Pixel) :
    d.potentialOf pos pixel = .ok (f.eval (d.relative pos pixel) d.model.pitch) := by
  rw [Detector.potentialOf, installed]

/-- The samples take the values of the installed potential. -/
lemma potentialAt_of_installed {f : InstalledField Float} (installed : d.potential = some f) (pos : Point3)
    (pixel : Pixel) :
    potentialAt d pos pixel = pure (f.eval (d.relative pos pixel) d.model.pitch) := by
  rw [potentialAt, potentialOf_of_installed installed]
  rfl

/-- With a potential and room for its scan, a profile is filled. -/
lemma sample_of_potential {f : InstalledField Float} (installed : d.potential = some f) (few : steps < 2 ^ 30) :
    sample d position steps =
      .ok (filled d steps (fun pos pixel => f.eval (d.relative pos pixel) d.model.pitch) position) := by
  simp only [sample, reserve_depth (few.trans (by norm_num)), reserve_scan few, potentialAt_of_installed installed,
    pure_bind, List.mapM_pure]
  rfl

/-- The samples along the depth are too many already. -/
lemma sample_of_crowded_depth (d : Detector) (crowded : 2 ^ 59 ≤ steps) :
    sample d position steps = .error .overflow := by
  have depth : reserve (2 * steps) = .error .overflow := by
    refine reserve_of_lt ?_
    rw [greatestObject]
    omega
  simp only [sample, depth]
  rfl

/-- With a potential, the samples along the depth are taken before there is no room for those of the
scan. -/
lemma sample_of_crowded {f : InstalledField Float} (installed : d.potential = some f) (crowded : 2 ^ 30 ≤ steps) :
    sample d position steps = .error .overflow := by
  rcases Nat.lt_or_ge steps (2 ^ 59) with few | many
  · simp only [sample, reserve_depth few, reserve_scan_of_crowded crowded, potentialAt_of_installed installed,
      pure_bind, List.mapM_pure]
    rfl
  · exact sample_of_crowded_depth position d many

/-- The first sample fails already. -/
lemma sample_of_none (bare : d.potential = none) (pos : 0 < steps) (few : steps < 2 ^ 59) :
    sample d position steps = .error (.fieldQuery ⟨d.name, .weightingPotential⟩) := by
  obtain ⟨n, rfl⟩ := Nat.exists_eq_add_one_of_ne_zero pos.ne'
  have missing : ∀ pos pixel, potentialAt d pos pixel = .error (.fieldQuery ⟨d.name, .weightingPotential⟩) := by
    intro pos pixel
    rw [potentialAt, Detector.potentialOf, bare]
    rfl
  simp only [sample, reserve_depth few, missing, List.range_succ_eq_map, List.mapM_cons]
  rfl

end

/-- What a profile of a detector holds when it is taken in `steps` bins each way. -/
structure Fills (d : Detector) (position : Point2) (steps : Nat) (p : Profile) : Prop where
  position_eq : p.position = position
  depth_eq : p.depth = (d.model.depth.least, d.model.depth.greatest)
  across_eq : p.across = (-1.5 * d.model.pitch.x, 1.5 * d.model.pitch.x)
  steps_eq : p.steps = steps
  length_alongDepth : p.alongDepth.length = steps
  length_scan : p.scan.length = steps * steps
  /-- The scan is known for exactly the bins. -/
  isSome_scanAt? : ∀ j k, (p.scanAt? j k).isSome ↔ j < steps ∧ k < steps
  /-- An entry for a depth has the depth of its bin and the potential of pixel `(0, 0)` there under
  the position. -/
  alongDepth : ∀ j < steps, ∃ u, p.alongDepth[j]? = some (depthAt d steps j, u) ∧
    d.potentialOf ⟨position.x, position.y, depthAt d steps j⟩ ⟨0, 0⟩ = .ok u
  /-- An entry of the scan is the potential of pixel `(1, 0)` at the same depth and in the middle of
  the bin across. -/
  scan : ∀ j < steps, ∀ k < steps, ∃ v, p.scanAt? j k = some v ∧
    d.potentialOf ⟨acrossAt d steps k, 0.0, depthAt d steps j⟩ ⟨1, 0⟩ = .ok v

/-- The profile of the values of a potential is filled with them. -/
lemma fills_filled {d : Detector} {f : InstalledField Float} (installed : d.potential = some f) (position : Point2)
    (steps : Nat) : Fills d position steps
      (filled d steps (fun pos pixel => f.eval (d.relative pos pixel) d.model.pitch) position) where
  position_eq := rfl
  depth_eq := rfl
  across_eq := rfl
  steps_eq := rfl
  length_alongDepth := by rw [filled, List.length_map, List.length_range]
  length_scan := length_scan_filled ..
  isSome_scanAt? j k := by rw [scanAt?_filled, Option.isSome_ite]
  alongDepth j hj := ⟨_, getElem?_alongDepth_filled d steps _ position hj, potentialOf_of_installed installed _ _⟩
  scan j hj k hk :=
    ⟨_, (scanAt?_filled d steps _ position j k).trans (if_pos ⟨hj, hk⟩), potentialOf_of_installed installed _ _⟩

/-- A detector with a weighting potential has a profile in fewer than `2 ^ 30` bins each way, and it
holds the potential bin by bin. From there on its scan would be larger than any object in memory,
and the program ends. A detector without a potential has no profile of one or more bins: this is
noticed at the first sample, unless there are `2 ^ 59` bins, and no room for the samples along the
depth. -/
theorem sample_fills (d : Detector) (position : Point2) (steps : Nat) :
    (∀ f, d.potential = some f →
      (steps < 2 ^ 30 → ∃ p, sample d position steps = .ok p ∧ Fills d position steps p) ∧
      (2 ^ 30 ≤ steps → sample d position steps = .error .overflow)) ∧
    (d.potential = none →
      (0 < steps → steps < 2 ^ 59 →
        sample d position steps = .error (.fieldQuery ⟨d.name, .weightingPotential⟩)) ∧
      (2 ^ 59 ≤ steps → sample d position steps = .error .overflow)) := by
  refine ⟨fun f installed => ⟨fun few => ?_, sample_of_crowded position installed⟩,
    fun bare => ⟨sample_of_none position bare, sample_of_crowded_depth position d⟩⟩
  exact ⟨_, sample_of_potential position installed few, fills_filled installed position steps⟩

/-- A pixel whose potential rises upwards and to the right. -/
def slanted : Detector where
  name := "slanted"
  model := { name := "slanted", columns := 1, rows := 1, pitch := ⟨1.0, 1.0⟩, implant := ⟨1.0, 1.0⟩, thickness := 1.0 }
  potential := some (.ofFunction (fun pos => pos.x + pos.z) ⟨-0.5, 0.5⟩ .custom)

/-- With two bins each way, depth comes first and the place across second, and nothing is known
beyond. With `2 ^ 30` there is no profile, and with `2 ^ 59` it is not noticed any more that there
is no potential. -/
theorem sample_fills_slanted :
    (∃ p, sample slanted ⟨0.0, 0.0⟩ 2 = .ok p ∧ p.alongDepth.length = 2 ∧ p.scan.length = 2 * 2 ∧
      p.alongDepth[1]? = some (0.25, 0.25) ∧ p.scanAt? 1 0 = some (-1.5) ∧ p.scanAt? 0 1 = some (-0.5) ∧
      (p.scanAt? 0 2).isSome = false) ∧
    sample slanted ⟨0.0, 0.0⟩ (2 ^ 30) = .error .overflow ∧
    sample { slanted with potential := none } ⟨0.0, 0.0⟩ 2 =
      .error (.fieldQuery ⟨"slanted", .weightingPotential⟩) ∧
    sample { slanted with potential := none } ⟨0.0, 0.0⟩ (2 ^ 59) = .error .overflow := by
  obtain ⟨p, sampled, fills⟩ := ((sample_fills slanted ⟨0.0, 0.0⟩ 2).1 _ rfl).1 (by norm_num)
  obtain ⟨u, atDepth, hu⟩ := fills.alongDepth 1 (by decide)
  obtain ⟨v, found, hv⟩ := fills.scan 1 (by decide) 0 (by decide)
  obtain ⟨w, found', hw⟩ := fills.scan 0 (by decide) 1 (by decide)
  obtain rfl : u = 0.25 := (Except.ok.inj hu).symm.trans (by decide +kernel)
  obtain rfl : v = -1.5 := (Except.ok.inj hv).symm.trans (by decide +kernel)
  obtain rfl : w = -0.5 := (Except.ok.inj hw).symm.trans (by decide +kernel)
  refine ⟨⟨p, sampled, fills.length_alongDepth, fills.length_scan, atDepth.trans ?_, found, found', ?_⟩, ?_, ?_, ?_⟩
  · exact congrArg (fun z => some (z, 0.25)) (show depthAt slanted 2 1 = 0.25 by decide +kernel)
  · rw [Bool.eq_false_iff, ne_eq, fills.isSome_scanAt?]
    decide
  · exact ((sample_fills slanted ⟨0.0, 0.0⟩ (2 ^ 30)).1 _ rfl).2 le_rfl
  · exact ((sample_fills { slanted with potential := none } ⟨0.0, 0.0⟩ 2).2 rfl).1 (by decide) (by norm_num)
  · exact ((sample_fills { slanted with potential := none } ⟨0.0, 0.0⟩ (2 ^ 59)).2 rfl).2 le_rfl

/-- Not every number of steps that a machine word counts gives a profile. -/
theorem not_forall_sample_fills :
    ¬ ∀ (d : Detector) (f : InstalledField Float) (position : Point2) (steps : Nat), d.potential = some f →
      1 ≤ steps → ∃ p, sample d position steps = .ok p ∧ Fills d position steps p := by
  intro always
  obtain ⟨p, sampled, -⟩ := always slanted _ ⟨0.0, 0.0⟩ 18446744073709551615 rfl (by norm_num)
  rw [sample_of_crowded_depth _ _ (by norm_num)] at sampled
  cases sampled

end SensorSim.Stage.Profile
