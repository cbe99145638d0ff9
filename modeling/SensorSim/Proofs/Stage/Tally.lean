import Mathlib
import SensorSim.Proofs.Stage.Charge

/-!
# Charge by pixel

The charges that are collected are a sum for each pixel: of the carriers that end under it or under
one next to it, from zero and in the order of the carriers (`induce_of_potential`). The pixels
ascend and lie in the matrix. Without a weighting potential nothing is collected, and that is an
error where a carrier ends under the matrix (`run_induction`).
-/

namespace SensorSim

open SensorSim.Geometry

/-! ## Pixels -/

namespace Geometry.Pixel

/-- One pixel comes before another: in a column before, or in the same column further down. -/
def Before (p q : Pixel) : Prop :=
  p.x < q.x ∨ p.x = q.x ∧ p.y < q.y

/-- A pixel compares as less when it comes before the other. -/
lemma compare_eq_lt_iff {p q : Pixel} : p.compare q = .lt ↔ p.Before q := by
  rw [compare, Ordering.then_eq_lt, Int.compare_eq_lt, Int.compare_eq_lt, compare_eq_iff_eq, Before]

/-- Pixels compare as equal when they are the same. -/
lemma compare_eq_eq_iff {p q : Pixel} : p.compare q = .eq ↔ p = q := by
  rw [compare, Ordering.then_eq_eq, compare_eq_iff_eq, compare_eq_iff_eq, Pixel.mk.injEq]

/-- A pixel compares as greater when the other comes before it. -/
lemma compare_eq_gt_iff {p q : Pixel} : p.compare q = .gt ↔ q.Before p := by
  rw [compare, Ordering.then_eq_gt, compare_gt_iff_gt, compare_gt_iff_gt, compare_eq_iff_eq, Before]
  omega

/-- A pixel before one that is before a third is before the third. -/
lemma Before.trans {p q r : Pixel} (h : p.Before q) (h' : q.Before r) : p.Before r := by
  rw [Before] at *
  omega

/-- No pixel comes before itself. -/
lemma Before.ne {p q : Pixel} (h : p.Before q) : p ≠ q := by
  rintro rfl
  rw [Before] at h
  omega

/-- The nine pixels of a neighbourhood are all different. -/
lemma nodup_neighbourhood (p : Pixel) : p.neighbourhood.Nodup := by
  have offsets : p.neighbourhood =
      ([(-1, -1), (0, -1), (1, -1), (-1, 0), (0, 0), (1, 0), (-1, 1), (0, 1), (1, 1)] : List (Int × Int)).map
        fun o => p.shift o.1 o.2 := rfl
  rw [offsets]
  refine List.Nodup.map ?_ (by decide)
  intro a b same
  simp only [shift, Pixel.mk.injEq] at same
  ext <;> omega

end Geometry.Pixel

namespace Sensor

/-- In a matrix that is not too large, the pixels around one of it can be named by integers of 32
bits. -/
lemma bounds_of_neighbourhood {m : Sensor.Model} (small : m.columns < 2 ^ 31 - 1 ∧ m.rows < 2 ^ 31 - 1)
    {pos : Point3} {q : Pixel} (h : m.pixelAt? pos = some q) :
    ∀ r ∈ q.neighbourhood, -2 ^ 31 ≤ r.x ∧ r.x < 2 ^ 31 ∧ -2 ^ 31 ≤ r.y ∧ r.y < 2 ^ 31 := by
  have inside := Sensor.Model.contains_of_pixelAt? h
  simp only [Sensor.Model.contains, Bool.and_eq_true, decide_eq_true_eq] at inside
  intro r hr
  obtain ⟨hx, hy⟩ := Pixel.mem_neighbourhood.1 hr
  omega

end Sensor

namespace Stage.Induction

open Bus
open Sensor (Detector FieldQueryError InstalledField)

/-! ## Adding to a tally -/

/-- The pixels of a tally ascend, so that none comes twice. -/
def Ascending (t : Tally) : Prop :=
  (t.map PixelCharge.pixel).Pairwise Pixel.Before

/-- A charge is added at the place of its pixel, which may have to be made. -/
lemma addTo_cases (p : Pixel) (q : Float) {t : Tally} (asc : Ascending t) :
    (∃ front back, t = front ++ back ∧ addTo p q t = front ++ ⟨p, 0.0 + q⟩ :: back ∧
      (∀ c ∈ front, c.pixel.Before p) ∧ ∀ c ∈ back, p.Before c.pixel) ∨
    ∃ front v back, t = front ++ ⟨p, v⟩ :: back ∧ addTo p q t = front ++ ⟨p, v + q⟩ :: back := by
  induction t with
  | nil => exact .inl ⟨[], [], rfl, rfl, nofun, nofun⟩
  | cons c rest ih =>
    obtain ⟨first, asc⟩ := List.pairwise_cons.1 asc
    rw [addTo]
    cases order : p.compare c.pixel with
    | lt =>
      have before := Pixel.compare_eq_lt_iff.1 order
      refine .inl ⟨[], c :: rest, rfl, rfl, nofun, ?_⟩
      intro c' hc'
      rcases List.mem_cons.1 hc' with rfl | hc'
      · exact before
      · exact before.trans (first _ (List.mem_map_of_mem hc'))
    | eq =>
      cases Pixel.compare_eq_eq_iff.1 order
      exact .inr ⟨[], c.charge, rest, rfl, rfl⟩
    | gt =>
      have before := Pixel.compare_eq_gt_iff.1 order
      dsimp only
      rcases ih asc with ⟨front, back, split, added, lower, upper⟩ | ⟨front, v, back, split, added⟩
      · refine .inl ⟨c :: front, back, by rw [split]; rfl, by rw [added]; rfl, ?_, upper⟩
        exact List.forall_mem_cons.2 ⟨before, lower⟩
      · exact .inr ⟨c :: front, v, back, by rw [split]; rfl, by rw [added]; rfl⟩

variable {t : Tally}

/-- The place of a pixel keeps the tally ascending. -/
lemma ascending_addTo (p : Pixel) (q : Float) (asc : Ascending t) : Ascending (addTo p q t) := by
  rcases addTo_cases p q asc with ⟨front, back, split, added, lower, upper⟩ | ⟨front, v, back, split, added⟩
  · rw [Ascending, added, List.map_append, List.map_cons, List.pairwise_append, List.pairwise_cons,
      List.forall_mem_map, List.forall_mem_map]
    rw [Ascending, split, List.map_append, List.pairwise_append, List.forall_mem_map] at asc
    obtain ⟨front', back', apart⟩ := asc
    refine ⟨front', ⟨upper, back'⟩, fun c hc => List.forall_mem_cons.2 ⟨lower c hc, apart c hc⟩⟩
  · rw [Ascending, split, List.map_append, List.map_cons] at asc
    rwa [Ascending, added, List.map_append, List.map_cons]

/-- The charges of other pixels stay as they are. -/
lemma mem_addTo_of_ne {p : Pixel} (q : Float) (asc : Ascending t) {c : PixelCharge} (other : c.pixel ≠ p) :
    c ∈ addTo p q t ↔ c ∈ t := by
  have away : ∀ v, c ≠ ⟨p, v⟩ := by
    rintro v rfl
    exact other rfl
  rcases addTo_cases p q asc with ⟨front, back, split, added, -⟩ | ⟨front, v, back, split, added⟩
  · rw [added, split, List.mem_append, List.mem_append, List.mem_cons, or_iff_right (away _)]
  · rw [added, split, List.mem_append, List.mem_append, List.mem_cons, List.mem_cons, or_iff_right (away _),
      or_iff_right (away _)]

/-- The charge is added to what the pixel has, or to zero where it has nothing yet. -/
lemma mem_addTo_self {p : Pixel} (q : Float) (asc : Ascending t) {v : Float} :
    ⟨p, v⟩ ∈ addTo p q t ↔
      (∃ w, ⟨p, w⟩ ∈ t ∧ v = w + q) ∨ (p ∉ t.map PixelCharge.pixel ∧ v = 0.0 + q) := by
  rcases addTo_cases p q asc with ⟨front, back, split, added, lower, upper⟩ | ⟨front, w, back, split, added⟩
  · have absent : p ∉ t.map PixelCharge.pixel := by
      rw [split, List.map_append, List.mem_append, List.mem_map, List.mem_map]
      rintro (⟨c, hc, rfl⟩ | ⟨c, hc, rfl⟩)
      · exact (lower c hc).ne rfl
      · exact (upper c hc).ne rfl
    have missing : ∀ w, ⟨p, w⟩ ∉ t := fun w h => absent (List.mem_map_of_mem h)
    have apart : ⟨p, v⟩ ∉ front ∧ ⟨p, v⟩ ∉ back := by
      rw [← not_or, ← List.mem_append, ← split]
      exact missing v
    rw [added, List.mem_append, List.mem_cons, or_iff_right apart.1, or_iff_left apart.2]
    simp [missing, absent]
  · have alone : ∀ u, ⟨p, u⟩ ∉ front ∧ ⟨p, u⟩ ∉ back := by
      intro u
      rw [Ascending, split, List.map_append, List.map_cons, List.pairwise_append, List.pairwise_cons] at asc
      obtain ⟨-, ⟨upper, -⟩, lower⟩ := asc
      refine ⟨fun h => ?_, fun h => ?_⟩
      · exact (lower p (List.mem_map_of_mem h) p (List.mem_cons_self ..)).ne rfl
      · exact (upper p (List.mem_map_of_mem h)).ne rfl
    rw [added, List.mem_append, List.mem_cons, or_iff_right (alone v).1, or_iff_left (alone v).2, split]
    simp [alone]

/-! ## Sums -/

/-- The sum of the contributions to a pixel, from zero and in their order. -/
def total (cs : List PixelCharge) (p : Pixel) : Float :=
  ((cs.filter (·.pixel = p)).map PixelCharge.charge).foldl (· + ·) 0.0

/-- A contribution to another pixel leaves the sum as it is. -/
lemma total_append_of_ne (cs : List PixelCharge) {c : PixelCharge} {p : Pixel} (h : p ≠ c.pixel) :
    total (cs ++ [c]) p = total cs p := by
  rw [total, List.filter_append, List.filter_cons_of_neg (by simpa using h.symm), List.filter_nil, List.append_nil,
    total]

/-- One more contribution is added to the sum. -/
lemma total_append_self (cs : List PixelCharge) (c : PixelCharge) :
    total (cs ++ [c]) c.pixel = total cs c.pixel + c.charge := by
  rw [total, List.filter_append, List.filter_cons_of_pos (by simp), List.filter_nil, List.map_append,
    List.foldl_append, total]
  rfl

/-- A pixel that nothing was contributed to has the sum zero. -/
lemma total_of_notMem {cs : List PixelCharge} {p : Pixel} (h : p ∉ cs.map PixelCharge.pixel) : total cs p = 0.0 := by
  have others : cs.filter (·.pixel = p) = [] := by
    rw [List.filter_eq_nil_iff]
    intro c hc here
    exact h (List.mem_map.2 ⟨c, hc, of_decide_eq_true here⟩)
  rw [total, others]
  rfl

/-- A tally sums some contributions: its pixels ascend, they are those of the contributions, and
each has the sum of what was contributed to it. -/
structure Sums (t : Tally) (cs : List PixelCharge) : Prop where
  ascending : Ascending t
  mem_iff : ∀ p v, ⟨p, v⟩ ∈ t ↔ p ∈ cs.map PixelCharge.pixel ∧ v = total cs p

/-- A pixel is in a tally when something was contributed to it. -/
lemma Sums.mem_pixels_iff {cs : List PixelCharge} (h : Sums t cs) {p : Pixel} :
    p ∈ t.map PixelCharge.pixel ↔ p ∈ cs.map PixelCharge.pixel := by
  refine ⟨fun hp => ?_, fun hp => ?_⟩
  · obtain ⟨c, hc, rfl⟩ := List.mem_map.1 hp
    exact ((h.mem_iff c.pixel c.charge).1 hc).1
  · exact List.mem_map.2 ⟨⟨p, total cs p⟩, (h.mem_iff p _).2 ⟨hp, rfl⟩, rfl⟩

/-- A tally that sums some contributions sums one more when it is added. -/
lemma Sums.addTo {cs : List PixelCharge} (h : Sums t cs) (c : PixelCharge) :
    Sums (addTo c.pixel c.charge t) (cs ++ [c]) := by
  refine ⟨ascending_addTo _ _ h.ascending, fun p v => ?_⟩
  have pixels : p ∈ (cs ++ [c]).map PixelCharge.pixel ↔ p ∈ cs.map PixelCharge.pixel ∨ p = c.pixel := by
    rw [List.map_append, List.mem_append, List.map_singleton, List.mem_singleton]
  by_cases same : p = c.pixel
  · subst same
    rw [mem_addTo_self _ h.ascending, h.mem_pixels_iff, total_append_self, pixels]
    by_cases known : c.pixel ∈ cs.map PixelCharge.pixel
    · simp [h.mem_iff, known]
    · rw [total_of_notMem known]
      simp [h.mem_iff, known]
  · rw [mem_addTo_of_ne _ h.ascending (c := ⟨p, v⟩) same, h.mem_iff, total_append_of_ne cs same, pixels,
      or_iff_left same]

/-- Contributions that are added one by one to a tally are summed. -/
lemma Sums.foldl {cs : List PixelCharge} (h : Sums t cs) (more : List PixelCharge) :
    Sums (more.foldl (fun tally c => Induction.addTo c.pixel c.charge tally) t) (cs ++ more) := by
  induction more generalizing t cs with
  | nil => rwa [List.append_nil]
  | cons c rest ih =>
    rw [List.foldl_cons, List.append_cons]
    exact ih (h.addTo c)

/-! ## Carriers -/

/-- A carrier reaches a pixel when it ends under it or under one next to it. -/
def Reaches (d : Detector) (x : Drifted) (p : Pixel) : Prop :=
  ∃ q, d.model.pixelAt? x.position = some q ∧ (p.x - q.x).natAbs ≤ 1 ∧ (p.y - q.y).natAbs ≤ 1

instance (d : Detector) (x : Drifted) (p : Pixel) : Decidable (Reaches d x p) :=
  match h : d.model.pixelAt? x.position with
  | none => .isFalse fun ⟨_, h', _⟩ => nomatch h.symm.trans h'
  | some q =>
    decidable_of_iff ((p.x - q.x).natAbs ≤ 1 ∧ (p.y - q.y).natAbs ≤ 1)
      ⟨fun near => ⟨q, h, near⟩, fun ⟨_, h', near⟩ => by cases h.symm.trans h'; exact near⟩

/-- The charge that a carrier induces on a pixel by the change of its potential. -/
def pulse (d : Detector) (f : InstalledField Float) (p : Pixel) (x : Drifted) : Float :=
  x.carrier.sign * Float.ofNat x.charge *
    (f.eval (d.relative x.position p) d.model.pitch - f.eval (d.relative x.start p) d.model.pitch)

variable {d : Detector}

/-- A carrier touches the pixels of the matrix that it reaches. -/
lemma mem_touched_iff {x : Drifted} {p : Pixel} : p ∈ touched d x ↔ d.model.contains p = true ∧ Reaches d x p := by
  rw [touched, Reaches]
  cases d.model.pixelAt? x.position with
  | none => simp
  | some q => simp [Pixel.mem_neighbourhood, and_comm]

/-- A carrier touches no pixel twice. -/
lemma nodup_touched (d : Detector) (x : Drifted) : (touched d x).Nodup := by
  rw [touched]
  cases d.model.pixelAt? x.position with
  | none => exact List.nodup_nil
  | some q => exact (Pixel.nodup_neighbourhood q).filter _

/-- A carrier touches no pixel exactly when it ends outside the matrix. -/
lemma touched_eq_nil_iff {x : Drifted} : touched d x = [] ↔ d.model.pixelAt? x.position = none := by
  rw [List.eq_nil_iff_forall_not_mem]
  refine ⟨fun h => ?_, fun h p hp => ?_⟩
  · by_contra ends
    obtain ⟨q, hq⟩ := Option.ne_none_iff_exists'.1 ends
    exact h q (mem_touched_iff.2 ⟨Sensor.Model.contains_of_pixelAt? hq, q, hq, by simp, by simp⟩)
  · obtain ⟨-, q, hq, -⟩ := mem_touched_iff.1 hp
    rw [h] at hq
    cases hq

/-- What carriers contribute by a potential, in their order. -/
def pulses (d : Detector) (f : InstalledField Float) (xs : List Drifted) : List PixelCharge :=
  xs.flatMap fun x => (touched d x).map fun p => ⟨p, pulse d f p x⟩

/-- With a potential every carrier contributes its pulses. -/
lemma contributions_of_potential {f : InstalledField Float} (h : d.potential = some f) (xs : List Drifted) :
    contributions d xs = .ok (pulses d f xs) := by
  have each : ∀ x p, induced d x p = .ok (pulse d f p x) := by
    intro x p
    rw [induced, Detector.potentialOf, Detector.potentialOf, h]
    rfl
  rw [contributions, pulses]
  simp only [each]
  refine (List.mapM_pure (m := Except FieldQueryError)).trans ?_
  rw [List.map_flatMap]
  simp only [List.map_map]
  rfl

/-- Without a potential there is nothing to contribute, and no carrier may end under the matrix. -/
lemma contributions_of_none (h : d.potential = none) (xs : List Drifted) :
    contributions d xs =
      if ∃ x ∈ xs, (d.model.pixelAt? x.position).isSome then .error ⟨d.name, .weightingPotential⟩ else .ok [] := by
  rw [contributions]
  cases pairs : xs.flatMap fun x => (touched d x).map fun p => (x, p) with
  | nil =>
    have outside : ¬ ∃ x ∈ xs, (d.model.pixelAt? x.position).isSome := by
      simpa [List.flatMap_eq_nil_iff, touched_eq_nil_iff] using pairs
    rw [if_neg outside]
    rfl
  | cons y rest =>
    have inside : ∃ x ∈ xs, (d.model.pixelAt? x.position).isSome := by
      by_contra outside
      have untouched : (xs.flatMap fun x => (touched d x).map fun p => (x, p)) = [] := by
        simpa [List.flatMap_eq_nil_iff, touched_eq_nil_iff] using outside
      rw [untouched] at pairs
      cases pairs
    rw [if_pos inside, List.mapM_cons]
    simp only [induced, Detector.potentialOf, h]
    rfl

/-- The pixels with pulses are those of the matrix that a carrier reaches. -/
lemma mem_pixels_pulses_iff {f : InstalledField Float} {xs : List Drifted} {p : Pixel} :
    p ∈ (pulses d f xs).map PixelCharge.pixel ↔ d.model.contains p = true ∧ ∃ x ∈ xs, Reaches d x p := by
  simp only [pulses, List.map_flatMap, List.map_map, List.mem_flatMap, List.mem_map, Function.comp_apply,
    exists_eq_right, mem_touched_iff]
  exact ⟨fun ⟨x, hx, inside, near⟩ => ⟨inside, x, hx, near⟩, fun ⟨inside, x, hx, near⟩ => ⟨x, hx, inside, near⟩⟩

/-- Each carrier contributes once to each pixel that it touches. -/
lemma filter_pulses (f : InstalledField Float) (xs : List Drifted) {p : Pixel} (inside : d.model.contains p = true) :
    (pulses d f xs).filter (·.pixel = p) = (xs.filter (Reaches d · p)).map fun x => ⟨p, pulse d f p x⟩ := by
  have once : ∀ x, ((touched d x).map fun r => (⟨r, pulse d f r x⟩ : PixelCharge)).filter (·.pixel = p) =
      if Reaches d x p then [⟨p, pulse d f p x⟩] else [] := by
    intro x
    rw [List.filter_map]
    show ((touched d x).filter (decide <| · = p)).map _ = _
    rw [List.filter_eq, (nodup_touched d x).count]
    simp only [mem_touched_iff, inside, true_and]
    split <;> rfl
  induction xs with
  | nil => rfl
  | cons x rest ih =>
    rw [pulses, List.flatMap_cons, List.filter_append, once, ← pulses, ih]
    by_cases near : Reaches d x p
    · rw [if_pos near, List.filter_cons_of_pos (by simpa using near)]
      rfl
    · rw [if_neg near, List.filter_cons_of_neg (by simpa using near)]
      rfl

/-- With a potential, what is collected is the sum for each pixel of the matrix that a carrier
reaches. -/
lemma induce_of_potential {f : InstalledField Float} (h : d.potential = some f) (xs : List Drifted) :
    ∃ charges, induce d xs = .ok charges ∧ Ascending charges ∧
      (∀ p, p ∈ charges.map PixelCharge.pixel ↔ d.model.contains p = true ∧ ∃ x ∈ xs, Reaches d x p) ∧
      ∀ c ∈ charges, c.charge = ((xs.filter (Reaches d · c.pixel)).map (pulse d f c.pixel)).foldl (· + ·) 0.0 := by
  have sums : Sums _ (pulses d f xs) := (⟨List.Pairwise.nil, by simp⟩ : Sums [] []).foldl (pulses d f xs)
  refine ⟨_, ?_, sums.ascending, fun p => ?_, fun c hc => ?_⟩
  · rw [induce, contributions_of_potential h]
    rfl
  · rw [sums.mem_pixels_iff, mem_pixels_pulses_iff]
  · obtain ⟨reached, charge⟩ := (sums.mem_iff c.pixel c.charge).1 hc
    obtain ⟨inside, -⟩ := mem_pixels_pulses_iff.1 reached
    rw [charge, total, filter_pulses f xs inside, List.map_map]
    rfl

/-! ## Whole events -/

section

variable {i : StageId} {ctx : RunContext} {t : Induction} {b : Bus} {m : Message} {xs : List Drifted}

/-- Where carriers are fetched, the stage hands over what they induce, or fails for want of a
potential. -/
lemma run_eq (here : ctx.detector = some d) (fetched : b.fetch i .drifted d.name = .ok (some m))
    (drifted : m.drifted? = some xs) : Program.run (RunQuestion.answer i) (Stage.run ctx t) b =
      match induce d xs with
      | .ok charges => handOver i d.name t b (.pixel charges)
      | .error e => ((.error (.fieldQuery e), t), b) := by
  show exec (RunQuestion.answer i) t b (Induction.run ctx) = _
  rw [Induction.run, exec_bind_ok (exec_getDetector t here), exec_bind_ok (exec_fetch_of_eq t here fetched)]
  simp only [drifted]
  cases induce d xs with
  | error e => rfl
  | ok charges => exact exec_handOver t here (.pixel charges)

/-- With a weighting potential, the charges that are dispatched ascend by pixel; their pixels are
those of the matrix that a carrier reaches; and each charge is the sum of the pulses of the carriers
that reach its pixel, from zero and in the order of the carriers. Without one, nothing is dispatched
and the stage fails when a carrier ends under the matrix, and an empty list is dispatched when none
does. -/
theorem run_induction (i : StageId) (ctx : RunContext) (t : Induction) (b : Bus) (here : ctx.detector = some d)
    (fetched : b.fetch i .drifted d.name = .ok (some m)) (drifted : m.drifted? = some xs) :
    (∀ f, d.potential = some f → ∃ charges : List PixelCharge,
      Program.run (RunQuestion.answer i) (Stage.run ctx t) b = handOver i d.name t b (.pixel charges) ∧
      (charges.map PixelCharge.pixel).Pairwise Pixel.Before ∧
      (∀ p, p ∈ charges.map PixelCharge.pixel ↔ d.model.contains p = true ∧ ∃ x ∈ xs, Reaches d x p) ∧
      ∀ c ∈ charges, c.charge =
        ((xs.filter fun x => Reaches d x c.pixel).map (pulse d f c.pixel)).foldl (· + ·) 0.0) ∧
    (d.potential = none → Program.run (RunQuestion.answer i) (Stage.run ctx t) b =
      if ∃ x ∈ xs, (d.model.pixelAt? x.position).isSome then
        ((.error (.fieldQuery ⟨d.name, .weightingPotential⟩), t), b)
      else handOver i d.name t b (.pixel [])) ∧
    -- No index of a pixel that is looked at is out of range, unless the matrix is too large.
    (d.model.columns < 2 ^ 31 - 1 ∧ d.model.rows < 2 ^ 31 - 1 → ∀ x ∈ xs, ∀ q,
      d.model.pixelAt? x.position = some q →
      ∀ r ∈ q.neighbourhood, -2 ^ 31 ≤ r.x ∧ r.x < 2 ^ 31 ∧ -2 ^ 31 ≤ r.y ∧ r.y < 2 ^ 31) := by
  rw [run_eq here fetched drifted]
  refine ⟨fun f has => ?_, fun lacks => ?_, fun small x _ q ends => Sensor.bounds_of_neighbourhood small ends⟩
  · obtain ⟨charges, induced, ascending, pixels, sums⟩ := induce_of_potential has xs
    rw [induced]
    exact ⟨charges, rfl, ascending, pixels, sums⟩
  · rw [induce, contributions_of_none lacks]
    by_cases inside : ∃ x ∈ xs, (d.model.pixelAt? x.position).isSome
    · rw [if_pos inside, if_pos inside]
      rfl
    · rw [if_neg inside, if_neg inside]
      rfl

end

/-- A matrix of two pixels whose potential is the height above the middle. -/
def twoPixels : Detector where
  name := "two"
  model := { name := "two", columns := 2, rows := 1, pitch := ⟨1.0, 1.0⟩, implant := ⟨1.0, 1.0⟩, thickness := 2.0 }
  potential := some (.ofFunction (fun pos => pos.z) ⟨-1.0, 1.0⟩ .custom)

/-- Two holes that rise under the first pixel, an electron under the second, and one that rises
beside the matrix. -/
def risen : List Drifted :=
  [⟨⟨0.0, 0.0, 0.0⟩, ⟨0.0, 0.0, 1.0⟩, 2, .hole, 0.0⟩, ⟨⟨1.0, 0.0, 0.0⟩, ⟨1.0, 0.0, 0.5⟩, 1, .electron, 0.0⟩,
    ⟨⟨5.0, 0.0, 0.0⟩, ⟨5.0, 0.0, 1.0⟩, 8, .electron, 0.0⟩]

/-- The bus on which these carriers wait for the stage with the number zero. -/
def risenBus : Bus where
  subscriptions := [⟨0, .drifted, .detector "two", .required⟩]
  event := some 1
  store := [⟨1, { records := .drifted risen, detector := some "two", event := 1 }⟩]

/-- Both pixels get two from the holes and lose a half to the electron. On a detector without the
potential the stage fails. -/
theorem run_induction_twoPixels :
    (∃ charges : List PixelCharge,
      Program.run (RunQuestion.answer 0) (Stage.run ⟨0, 1, some twoPixels⟩ (⟨"two"⟩ : Induction)) risenBus =
        ((.ok (), ⟨"two"⟩),
          risenBus.withEntries [⟨0, { records := .pixel charges, detector := some "two", event := 1 }⟩]) ∧
      ∃ c ∈ charges, c.pixel = ⟨1, 0⟩ ∧ c.charge = 1.5) ∧
    Program.run (RunQuestion.answer 0) (Stage.run ⟨0, 1, some { twoPixels with potential := none }⟩
      (⟨"two"⟩ : Induction)) risenBus =
        ((.error (.fieldQuery ⟨"two", .weightingPotential⟩), ⟨"two"⟩), risenBus) := by
  obtain ⟨sums, -, -⟩ := @run_induction twoPixels _ risen 0 ⟨0, 1, some twoPixels⟩ ⟨"two"⟩ risenBus rfl rfl rfl
  obtain ⟨-, lacks, -⟩ := @run_induction { twoPixels with potential := none } _ risen 0
    ⟨0, 1, some { twoPixels with potential := none }⟩ ⟨"two"⟩ risenBus rfl rfl rfl
  obtain ⟨charges, run, -, pixels, values⟩ := sums _ rfl
  refine ⟨⟨charges, run.trans (handOver_of_free _ rfl ?_), ?_⟩, (lacks rfl).trans (if_pos ?_)⟩
  · intro e he clash
    rw [List.mem_singleton.1 he] at clash
    have kinds : Kind.drifted = .pixel := (Message.clashes_iff.1 clash).1
    cases kinds
  · obtain ⟨c, hc, second⟩ := List.mem_map.1 ((pixels ⟨1, 0⟩).2 (by decide +kernel))
    refine ⟨c, hc, second, ?_⟩
    rw [values c hc, second]
    decide +kernel
  · decide +kernel

end Stage.Induction

end SensorSim
