import Mathlib
import SensorSim.Sensor.Model
import SensorSim.Proofs.Except
import SensorSim.Proofs.Decimal.Arithmetic

/-!
# The sensor and its pixels

A position is tested against the sensor by its distance from the centre, and against the matrix by
the pixel whose middle is nearest. Away from the boundary of the matrix the two agree
(`isSome_pixelAt?_iff_holds`). On the boundary, which belongs to the sensor, there is no pixel.
-/

namespace SensorSim.Sensor

open SensorSim.Geometry (Point3 Pixel)
open Decimal

/-! ## Rows of cells -/

/-- A number of cells in a row, which 32 bits can count, of a pitch that is a length, with a finite
extent. -/
structure IsRow (n : ℕ) (p : Float) : Prop where
  nonempty : 0 < n
  few : n < 2 ^ 31
  finite : p.isFinite
  pos : 0 < toRat p
  extent : (Float.ofNat n * p).isFinite

/-- The middle of a row, as it is computed: the middle of the first cell is the origin. -/
def middle (n : ℕ) (p : Float) : Float :=
  (Float.ofNat n - 1.0) / 2.0 * p

/-- Half of the extent of a row, as it is computed. -/
def half (n : ℕ) (p : Float) : Float :=
  Float.ofNat n * p / 2.0

/-- A coordinate is in a row, its ends included, by its distance from the middle. -/
def Spans (n : ℕ) (p x : Float) : Prop :=
  (x - middle n p).abs ≤ half n p

/-- A coordinate is in a row by the cell whose middle is nearest. -/
def InCell (n : ℕ) (p x : Float) : Prop :=
  (x / p).isFinite ∧ 0 ≤ nearestInt32 (x / p) ∧ nearestInt32 (x / p) < n

/-- A coordinate lies on an end of a row or beyond it. -/
def Beyond (n : ℕ) (p x : Float) : Prop :=
  x.isFinite → toRat x ≤ -(1 / 2) * toRat p ∨ (n - 1 / 2) * toRat p ≤ toRat x

/-- What rounding may amount to in a row. -/
def margin (n : ℕ) (p : Float) : ℚ :=
  n * toRat p / 2 ^ 51 + 2 ^ (-1072 : ℤ)

/-- A coordinate is not next to an end of a row. -/
def Clear (n : ℕ) (p x : Float) : Prop :=
  x.isFinite → margin n p ≤ |toRat x + 1 / 2 * toRat p| ∧ margin n p ≤ |toRat x - (n - 1 / 2) * toRat p|

/-- The last part of a margin is a multiple of the underflow. -/
lemma margin_eq (n : ℕ) (p : Float) : margin n p = n * toRat p / 2 ^ 51 + 8 * Binary.underflow := by
  have eight : (2 : ℚ) ^ (-1072 : ℤ) = 8 * 2 ^ (-1075 : ℤ) := by
    rw [show (8 : ℚ) = 2 ^ (3 : ℤ) by norm_num, ← zpow_add₀ two_ne_zero]
    norm_num
  rw [margin, eight, Binary.underflow]

namespace IsRow

variable {n : ℕ} {p x : Float}

/-- The number of the last cell and its half are not rounded. -/
lemma last (h : IsRow n p) :
    ((Float.ofNat n - 1.0) / 2.0).isFinite ∧ toRat ((Float.ofNat n - 1.0) / 2.0) = (n - 1) / 2 := by
  have few := h.few
  have nonempty := h.nonempty
  have cast : ((n - 1 : ℕ) : ℚ) = n - 1 := by rw [Nat.cast_sub nonempty, Nat.cast_one]
  obtain ⟨count, own⟩ := toRat_ofNat (n := n) (by omega)
  obtain ⟨t, ht, same⟩ := exists_toRat (c := n - 1) (by omega) (j := 0) (by norm_num) (by norm_num)
  obtain ⟨t', ht', same'⟩ := exists_toRat (c := n - 1) (by omega) (j := -1) (by norm_num) (by norm_num)
  have first := rounds_sub count toRat_one.1
  rw [own, toRat_one.2] at first
  obtain ⟨finite, value⟩ := first.eq_of_eq ht (by rw [same, cast, zpow_zero, mul_one])
  have second := rounds_div finite toRat_two.1 (by rw [toRat_two.2]; norm_num)
  rw [value, toRat_two.2] at second
  exact second.eq_of_eq ht' (by rw [same', cast, zpow_neg_one, div_eq_mul_inv])

/-- A row is not empty. -/
lemma wide (h : IsRow n p) : 0 < n * toRat p :=
  mul_pos (by exact_mod_cast h.nonempty) h.pos

/-- The extent of a row is rounded once. -/
lemma extent_spec (h : IsRow n p) : 0 ≤ toRat (Float.ofNat n * p) ∧
    |toRat (Float.ofNat n * p) - n * toRat p| ≤ n * toRat p / 2 ^ 53 + Binary.underflow := by
  have few := h.few
  obtain ⟨count, own⟩ := toRat_ofNat (n := n) (by omega)
  have product := rounds_mul count h.finite
  rw [own] at product
  have error := product.error h.extent
  rw [abs_of_pos h.wide] at error
  refine ⟨?_, error⟩
  have nonneg := product.ge_of_ge (isFinite_zero .positive) ((toRat_zero _).trans_le h.wide.le)
  exact (toRat_zero .positive).symm.trans_le ((le_iff (isFinite_zero _) h.extent).1 nonneg)

/-- Half of the extent is rounded once more. -/
lemma half_spec (h : IsRow n p) : (half n p).isFinite ∧
    |toRat (half n p) - n * toRat p / 2| ≤ n * toRat p / 2 ^ 52 + 2 * Binary.underflow := by
  obtain ⟨nonneg, extent⟩ := h.extent_spec
  have tiny := Binary.underflow_pos
  have wide := h.wide
  have quotient := rounds_div h.extent toRat_two.1 (by rw [toRat_two.2]; norm_num)
  rw [toRat_two.2] at quotient
  have finite := quotient.isFinite (isFinite_zero .positive) h.extent (by rw [toRat_zero]; linarith) (by linarith)
  have error := quotient.error finite
  rw [abs_of_nonneg (div_nonneg nonneg two_pos.le)] at error
  refine ⟨finite, ?_⟩
  obtain ⟨extentLow, extentHigh⟩ := abs_le.1 extent
  obtain ⟨errorLow, errorHigh⟩ := abs_le.1 error
  rw [abs_le]
  constructor
  · show _ ≤ toRat (Float.ofNat n * p / 2.0) - _
    linarith
  · show toRat (Float.ofNat n * p / 2.0) - _ ≤ _
    linarith

/-- The middle of a row is rounded once. -/
lemma middle_spec (h : IsRow n p) : (middle n p).isFinite ∧
    |toRat (middle n p) - (n - 1) / 2 * toRat p| ≤ n * toRat p / 2 ^ 53 + Binary.underflow := by
  obtain ⟨-, extent⟩ := h.extent_spec
  obtain ⟨lastFinite, last⟩ := h.last
  have tiny := two_mul_underflow_le h.finite h.pos
  have pos := h.pos
  have wide := h.wide
  have one : (1 : ℚ) ≤ n := by exact_mod_cast h.nonempty
  have cells : toRat p ≤ n * toRat p := le_mul_of_one_le_left pos.le one
  have product := rounds_mul lastFinite h.finite
  rw [last] at product
  obtain ⟨extentLow, extentHigh⟩ := abs_le.1 extent
  have nonneg : 0 ≤ (n - 1) / 2 * toRat p := mul_nonneg (by linarith) pos.le
  have finite := product.isFinite (isFinite_zero .positive) h.extent (by rwa [toRat_zero]) (by linarith)
  have error := product.error finite
  rw [abs_of_nonneg nonneg] at error
  exact ⟨finite, error.trans (by linarith)⟩

/-- What lies clearly between the ends is in the row. -/
lemma spans_of_inside (h : IsRow n p) (hx : x.isFinite) (low : -(1 / 2) * toRat p + margin n p ≤ toRat x)
    (high : toRat x ≤ (n - 1 / 2) * toRat p - margin n p) : Spans n p x := by
  obtain ⟨halfFinite, halfNear⟩ := h.half_spec
  obtain ⟨middleFinite, middleNear⟩ := h.middle_spec
  obtain ⟨t, ht, opposite⟩ := exists_toRat_eq_neg halfFinite
  have tiny := Binary.underflow_pos
  have wide := h.wide
  rw [margin_eq] at low high
  obtain ⟨halfLow, -⟩ := abs_le.1 halfNear
  obtain ⟨middleLow, middleHigh⟩ := abs_le.1 middleNear
  have apart := rounds_sub hx middleFinite
  have below : toRat t ≤ toRat x - toRat (middle n p) := by linarith
  have above : toRat x - toRat (middle n p) ≤ toRat (half n p) := by linarith
  have finite := apart.isFinite ht halfFinite below above
  refine (abs_le_iff halfFinite).2 ⟨finite, abs_le.2 ⟨?_, ?_⟩⟩
  · rw [← opposite]
    exact (le_iff ht finite).1 (apart.ge_of_ge ht below)
  · exact (le_iff finite halfFinite).1 (apart.le_of_le halfFinite above)

/-- What lies clearly beyond the ends is not in the row. -/
lemma not_spans_of_outside (h : IsRow n p) (hx : x.isFinite)
    (out : toRat x ≤ -(1 / 2) * toRat p - margin n p ∨ (n - 1 / 2) * toRat p + margin n p ≤ toRat x) :
    ¬Spans n p x := by
  intro spans
  obtain ⟨halfFinite, halfNear⟩ := h.half_spec
  obtain ⟨middleFinite, middleNear⟩ := h.middle_spec
  obtain ⟨finite, close⟩ := (abs_le_iff halfFinite).1 spans
  have tiny := Binary.underflow_pos
  have wide := h.wide
  rw [margin_eq] at out
  obtain ⟨-, halfHigh⟩ := abs_le.1 halfNear
  obtain ⟨middleLow, middleHigh⟩ := abs_le.1 middleNear
  obtain ⟨errorLow, errorHigh⟩ := abs_le.1 ((rounds_sub hx middleFinite).error finite)
  obtain ⟨closeLow, closeHigh⟩ := abs_le.1 close
  rcases out with down | up
  · have negative : toRat x - toRat (middle n p) < 0 := by linarith
    rw [abs_of_neg negative] at errorLow errorHigh
    linarith
  · have positive : 0 < toRat x - toRat (middle n p) := by linarith
    rw [abs_of_pos positive] at errorLow errorHigh
    linarith

/-! ### Cells -/

/-- In pitches, the cells of a row reach from half below zero to half below their number. -/
lemma inCell_iff (h : IsRow n p) :
    InCell n p x ↔ (x / p).isFinite ∧ -(1 / 2) < toRat (x / p) ∧ toRat (x / p) < n - 1 / 2 :=
  and_congr_right fun finite => nearestInt32_mem_iff finite h.nonempty h.few

/-- The ends of a row, in pitches, are numbers. -/
lemma exists_ends (h : IsRow n p) :
    ∃ a b : Float, (a.isFinite ∧ toRat a = -(1 / 2)) ∧ b.isFinite ∧ toRat b = n - 1 / 2 := by
  have few := h.few
  have nonempty := h.nonempty
  obtain ⟨t, ht, one⟩ := exists_toRat (c := 1) (by norm_num) (j := -1) (by norm_num) (by norm_num)
  obtain ⟨a, ha, low⟩ := exists_toRat_eq_neg ht
  obtain ⟨b, hb, high⟩ := exists_toRat (c := 2 * n - 1) (by omega) (j := -1) (by norm_num) (by norm_num)
  refine ⟨a, b, ⟨ha, ?_⟩, hb, ?_⟩
  · rw [low, one, Nat.cast_one, zpow_neg_one, one_mul, one_div]
  · rw [high, Nat.cast_sub (by omega), Nat.cast_mul, zpow_neg_one]
    push_cast
    ring

/-- There is no cell on the ends of a row or beyond them. -/
lemma not_inCell_of_beyond (h : IsRow n p) (beyond : Beyond n p x) : ¬InCell n p x := by
  rw [h.inCell_iff]
  rintro ⟨finite, low, high⟩
  cases hx : x.isFinite with
  | false =>
    rw [not_isFinite_div hx h.finite] at finite
    cases finite
  | true =>
    obtain ⟨a, b, ⟨ha, least⟩, hb, most⟩ := h.exists_ends
    have quotient := rounds_div hx h.finite h.pos.ne'
    rcases beyond hx with down | up
    · have below := quotient.le_of_le ha (by rwa [least, div_le_iff₀ h.pos])
      rw [le_iff finite ha, least] at below
      exact low.not_ge below
    · have above := quotient.ge_of_ge hb (by rwa [most, le_div_iff₀ h.pos])
      rw [le_iff hb finite, most] at above
      exact high.not_ge above

/-- There is a cell clearly between the ends of a row. -/
lemma inCell_of_inside (h : IsRow n p) (hx : x.isFinite) (low : -(1 / 2) * toRat p + margin n p ≤ toRat x)
    (high : toRat x ≤ (n - 1 / 2) * toRat p - margin n p) : InCell n p x := by
  obtain ⟨a, b, ⟨ha, least⟩, hb, most⟩ := h.exists_ends
  have quotient := rounds_div hx h.finite h.pos.ne'
  have tiny := Binary.underflow_pos
  have one : (1 : ℚ) ≤ n := by exact_mod_cast h.nonempty
  have low' : -(1 / 2) + n / 2 ^ 51 ≤ toRat x / toRat p := by
    rw [le_div_iff₀ h.pos]
    rw [margin_eq] at low
    linarith
  have high' : toRat x / toRat p ≤ n - 1 / 2 - n / 2 ^ 51 := by
    rw [div_le_iff₀ h.pos]
    rw [margin_eq] at high
    linarith
  generalize toRat x / toRat p = v at quotient low' high'
  have finite := quotient.isFinite ha hb (by rw [least]; linarith) (by rw [most]; linarith)
  have small : |v| ≤ n := abs_le.2 ⟨by linarith, by linarith⟩
  obtain ⟨errorLow, errorHigh⟩ := abs_le.1 (quotient.error finite)
  have rest : Binary.underflow < 1 / 2 ^ 54 := Binary.underflow_lt (j := -54) (by norm_num) (by norm_num)
  exact h.inCell_iff.2 ⟨finite, by linarith, by linarith⟩

/-- Where a coordinate is not next to an end, it is in the row exactly when there is a cell. -/
lemma spans_iff_inCell (h : IsRow n p) (clear : Clear n p x) : Spans n p x ↔ InCell n p x := by
  cases hx : x.isFinite with
  | false =>
    refine iff_of_false (fun spans => ?_) (h.not_inCell_of_beyond fun finite => ?_)
    · have finite := ((abs_le_iff h.half_spec.1).1 spans).1
      rw [not_isFinite_sub hx h.middle_spec.1] at finite
      cases finite
    · rw [hx] at finite
      cases finite
  | true =>
    obtain ⟨fromLow, fromHigh⟩ := clear hx
    have pos := h.pos
    have wide := h.wide
    have room : 0 ≤ margin n p := by
      rw [margin_eq]
      linarith [Binary.underflow_pos]
    have outside : toRat x ≤ -(1 / 2) * toRat p - margin n p ∨ (n - 1 / 2) * toRat p + margin n p ≤ toRat x →
        (Spans n p x ↔ InCell n p x) := by
      intro out
      refine iff_of_false (h.not_spans_of_outside hx out) (h.not_inCell_of_beyond fun _ => ?_)
      exact out.imp (fun down => by linarith) fun up => by linarith
    rcases le_abs.1 fromLow with above | below
    · rcases le_abs.1 fromHigh with beyond | within
      · exact outside (.inr (by linarith))
      · exact iff_of_true (h.spans_of_inside hx (by linarith) (by linarith))
          (h.inCell_of_inside hx (by linarith) (by linarith))
    · exact outside (.inl (by linarith))

end IsRow

/-! ## Sensors -/

/-- A length is finite and positive. -/
lemma toRat_pos_of_isLength {x : Float} (h : isLength x) : x.isFinite ∧ 0 < toRat x := by
  rw [isLength, Bool.and_eq_true, decide_eq_true_eq] at h
  obtain ⟨finite, above⟩ := h
  refine ⟨finite, ?_⟩
  rcases cases_of_isFinite finite with ⟨s, rfl⟩ | ⟨b, s, rfl⟩
  · cases s <;> exact absurd above (by decide +kernel)
  · cases s with
    | positive =>
      rw [b.toRat_toFloat, signed_positive]
      exact b.value_pos
    | negative =>
      have below := (lt_iff_compare _ _).1 above
      rw [b.unpack_toFloat] at below
      cases below

/-- The matrix and the pitch of a sensor that was built. -/
lemma Design.build_eq_ok {d : Design} {m : Model} (built : d.build = .ok m) :
    0 < m.columns ∧ 0 < m.rows ∧ isLength m.pitch.x ∧ isLength m.pitch.y := by
  unfold build at built
  rcases matrix : d.matrix with _ | ⟨columns, rows⟩
  · rw [matrix] at built
    cases built
  rcases given : d.pitch with _ | pitch
  · rw [matrix, given] at built
    cases built
  rcases thick : d.thickness with _ | thickness
  · rw [matrix, given, thick] at built
    cases built
  rw [matrix, given, thick] at built
  obtain ⟨nonempty, built⟩ := ite_throw_bind_eq_ok_iff.1 built
  obtain ⟨lengths, built⟩ := ite_throw_bind_eq_ok_iff.1 built
  obtain ⟨-, built⟩ := ite_throw_bind_eq_ok_iff.1 built
  obtain ⟨-, built⟩ := ite_throw_bind_eq_ok_iff.1 built
  obtain ⟨-, built⟩ := ite_throw_bind_eq_ok_iff.1 built
  cases built
  rw [areLengths] at lengths
  simp only [Bool.not_eq_true', Bool.not_eq_false, Bool.and_eq_true] at lengths
  obtain ⟨someColumns, someRows⟩ := not_or.1 nonempty
  exact ⟨Nat.pos_of_ne_zero someColumns, Nat.pos_of_ne_zero someRows, lengths⟩

namespace Model

/-- A sensor holds what lies in its rows, its columns and its depth. -/
lemma holds_iff {m : Model} {pos : Point3} : m.holds pos ↔
    Spans m.columns m.pitch.x pos.x ∧ Spans m.rows m.pitch.y pos.y ∧ m.depth.contains pos.z := by
  simp only [holds, Bool.and_eq_true, decide_eq_true_eq, and_assoc]
  rfl

/-- A matrix contains the pixels from the first to the last of its columns and rows. -/
lemma contains_iff {m : Model} {p : Pixel} :
    m.contains p ↔ 0 ≤ p.x ∧ 0 ≤ p.y ∧ p.x < m.columns ∧ p.y < m.rows := by
  simp only [contains, Bool.and_eq_true, decide_eq_true_eq, and_assoc]

/-- A position has a pixel where it has a cell both ways. -/
lemma isSome_pixelAt?_iff {m : Model} {pos : Point3} :
    (m.pixelAt? pos).isSome ↔ InCell m.columns m.pitch.x pos.x ∧ InCell m.rows m.pitch.y pos.y := by
  simp only [pixelAt?, Option.isSome_ite, Bool.and_eq_true, contains_iff, nearestPixel, InCell]
  tauto

/-- A position whose depth lies in a sensor, of a matrix with a finite extent that 32 bits can
count: on the boundary of the matrix and beyond there is no pixel, and where the position is not
next to the boundary, it lies in the sensor exactly when there is a pixel. -/
theorem isSome_pixelAt?_iff_holds {d : Design} {m : Model} (built : d.build = .ok m) (columns : m.columns < 2 ^ 31)
    (rows : m.rows < 2 ^ 31) (finite : m.size.x.isFinite ∧ m.size.y.isFinite) (pos : Point3)
    (deep : m.depth.contains pos.z) :
    (Beyond m.columns m.pitch.x pos.x ∨ Beyond m.rows m.pitch.y pos.y → m.pixelAt? pos = none) ∧
    (Clear m.columns m.pitch.x pos.x → Clear m.rows m.pitch.y pos.y →
      ((m.pixelAt? pos).isSome ↔ m.holds pos)) := by
  obtain ⟨someColumns, someRows, lengthX, lengthY⟩ := Design.build_eq_ok built
  obtain ⟨finiteX, posX⟩ := toRat_pos_of_isLength lengthX
  obtain ⟨finiteY, posY⟩ := toRat_pos_of_isLength lengthY
  have x : IsRow m.columns m.pitch.x := ⟨someColumns, columns, finiteX, posX, finite.1⟩
  have y : IsRow m.rows m.pitch.y := ⟨someRows, rows, finiteY, posY, finite.2⟩
  refine ⟨fun beyond => ?_, fun clearX clearY => ?_⟩
  · rw [← Option.not_isSome_iff_eq_none, isSome_pixelAt?_iff]
    rintro ⟨inX, inY⟩
    exact beyond.elim (fun h => x.not_inCell_of_beyond h inX) fun h => y.not_inCell_of_beyond h inY
  · rw [isSome_pixelAt?_iff, holds_iff, x.spans_iff_inCell clearX, y.spans_iff_inCell clearY]
    simp only [deep, and_true]

/-- A sensor of one pixel, a cube. -/
def cube : Model where
  name := "cube"
  columns := 1
  rows := 1
  pitch := ⟨1.0, 1.0⟩
  implant := ⟨1.0, 1.0⟩
  thickness := 1.0

/-- The cube is built of its design. -/
lemma build_cube :
    ({ name := "cube", matrix := some (1, 1), pitch := some ⟨1.0, 1.0⟩, thickness := some 1.0 } : Design).build =
      .ok cube := by
  rfl

/-- What is no farther from the middle of the only cell than half way to its ends is not next to
these. -/
lemma clear_of_abs_le {x : Float} (near : |toRat x| ≤ 1 / 4) : Clear 1 1.0 x := by
  intro _
  have small : margin 1 1.0 ≤ 1 / 4 := by
    rw [margin_eq, toRat_one.2]
    linarith [Binary.underflow_lt (v := 1 / 2 ^ 54) (j := -54) (by norm_num) (by norm_num)]
  obtain ⟨low, high⟩ := abs_le.1 near
  rw [toRat_one.2, Nat.cast_one]
  exact ⟨le_abs.2 (.inl (by linarith)), le_abs.2 (.inr (by linarith))⟩

/-- In the middle of a face of the cube there is no pixel. Half way to the face there is one, for
the cube holds that position. -/
theorem isSome_pixelAt?_iff_holds_cube :
    cube.pixelAt? ⟨0.5, 0.0, 0.0⟩ = none ∧ cube.holds ⟨0.25, 0.0, 0.0⟩ ∧ (cube.pixelAt? ⟨0.25, 0.0, 0.0⟩).isSome := by
  have finite : cube.size.x.isFinite ∧ cube.size.y.isFinite := by decide +kernel
  have quarter : toRat 0.25 = 1 / 4 := by
    rw [toRat_of_parts (m := 4503599627370496) (e := -54) (by decide +kernel)]
    norm_num
  have half : toRat 0.5 = 1 / 2 := by
    rw [toRat_of_parts (m := 4503599627370496) (e := -53) (by decide +kernel)]
    norm_num
  have face : Beyond 1 1.0 0.5 := by
    intro _
    rw [half, toRat_one.2]
    norm_num
  have clear : Clear 1 1.0 0.25 := clear_of_abs_le (by rw [quarter]; norm_num)
  have middle : Clear 1 1.0 0.0 := clear_of_abs_le (by rw [show toRat 0.0 = 0 from toRat_zero .positive]; norm_num)
  have inside : cube.holds ⟨0.25, 0.0, 0.0⟩ := by decide +kernel
  have deep : cube.depth.contains 0.0 := by decide +kernel
  refine ⟨?_, inside, ?_⟩
  · exact (isSome_pixelAt?_iff_holds build_cube (by decide) (by decide) finite ⟨0.5, 0.0, 0.0⟩ deep).1 (.inl face)
  · exact ((isSome_pixelAt?_iff_holds build_cube (by decide) (by decide) finite ⟨0.25, 0.0, 0.0⟩ deep).2
      clear middle).2 inside

/-- Not every position in a sensor has a pixel. -/
theorem not_forall_isSome_pixelAt?_iff_holds :
    ¬ ∀ (d : Design) (m : Model) (pos : Point3), d.build = .ok m → m.depth.contains pos.z →
      ((m.pixelAt? pos).isSome ↔ m.holds pos) := by
  intro agree
  have inside : cube.holds ⟨0.5, 0.0, 0.0⟩ := by decide +kernel
  have found := (agree _ cube ⟨0.5, 0.0, 0.0⟩ build_cube (by decide +kernel)).2 inside
  have missing : (cube.pixelAt? ⟨0.5, 0.0, 0.0⟩).isSome = false := by decide +kernel
  rw [missing] at found
  cases found

end Model

end SensorSim.Sensor
