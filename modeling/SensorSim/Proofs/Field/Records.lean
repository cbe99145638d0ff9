import Mathlib
import SensorSim.Proofs.Field.Words

/-!
# Header and records

What the header and the records of a table file are made of, and what the reader has when it is
through: the value of every record in the place of its cell (`getElem?_fill`). That no cell is empty
is never looked at; it follows from counting, for as many distinct cells as there are cells are all
of them (`exists_record`).
-/

namespace SensorSim.Field

/-! ## Cells -/

/-- A cell is known by its place in the row. -/
lemma Dimensions.index_inj {d : Dimensions} {ix iy iz jx jy jz : Nat} (h : d.Holds ix iy iz)
    (h' : d.Holds jx jy jz) : d.index ix iy iz = d.index jx jy jz ↔ (ix, iy, iz) = (jx, jy, jz) := by
  have split : ∀ {kx ky kz}, d.Holds kx ky kz →
      d.index kx ky kz % d.z = kz ∧ d.index kx ky kz / d.z % d.y = ky ∧ d.index kx ky kz / d.z / d.y = kx := by
    intro kx ky kz given
    obtain ⟨-, hy, hz⟩ := given
    have column : d.index kx ky kz / d.z = kx * d.y + ky := by
      rw [Dimensions.index, Nat.add_comm, Nat.add_mul_div_right _ _ (by omega), Nat.div_eq_of_lt hz, Nat.zero_add]
    refine ⟨?_, ?_, ?_⟩
    · rw [Dimensions.index, Nat.add_comm, Nat.add_mul_mod_self_right, Nat.mod_eq_of_lt hz]
    · rw [column, Nat.add_comm, Nat.add_mul_mod_self_right, Nat.mod_eq_of_lt hy]
    · rw [column, Nat.add_comm, Nat.add_mul_div_right _ _ (by omega), Nat.div_eq_of_lt hy, Nat.zero_add]
  refine ⟨?_, ?_⟩
  · intro e
    obtain ⟨hz, hy, hx⟩ := split h
    obtain ⟨hz', hy', hx'⟩ := split h'
    rw [e] at hz hy hx
    rw [Prod.mk.injEq, Prod.mk.injEq]
    exact ⟨hx.symm.trans hx', hy.symm.trans hy', hz.symm.trans hz'⟩
  · intro e
    cases e
    rfl

namespace TableFile

/-- The cell of a record. -/
def Record.cell (r : Record) : Nat × Nat × Nat :=
  (r.ix, r.iy, r.iz)

/-- The place of the cell of a record in the row of all cells. -/
def Record.placeOn (r : Record) (dims : Dimensions) : Nat :=
  dims.index r.ix r.iy r.iz

/-- A record is one of a grid and its value has the given number of components. -/
def Record.Fits (r : Record) (dims : Dimensions) (width : Nat) : Prop :=
  dims.Holds r.ix r.iy r.iz ∧ r.components.length = width

/-- Records of a grid are about different cells when these have different places. -/
lemma nodup_placeOn_iff {dims : Dimensions} {width : Nat} {rs : List Record}
    (fits : ∀ r ∈ rs, r.Fits dims width) :
    (rs.map fun r => r.placeOn dims).Nodup ↔ (rs.map Record.cell).Nodup := by
  rw [List.Nodup, List.pairwise_map, List.Nodup, List.pairwise_map]
  refine List.Pairwise.iff_of_mem fun {r s} hr hs => ?_
  rw [Record.placeOn, Record.placeOn, ne_eq, Dimensions.index_inj (fits r hr).1 (fits s hs).1]
  rfl

/-- The words of a header: eight that do not matter, the extents in micrometres with the thickness
first, four that do not matter, the dimensions, and one more. -/
def WritesHeader (ws : Tokens) (h : Header) : Prop :=
  ∃ ignored extents more axes trailer, ∃ thickness sizeX sizeY : Float,
    ws = ignored ++ extents ++ more ++ axes ++ trailer ∧ ignored.length = 8 ∧
    List.Forall₂ WritesNumber extents [thickness, sizeX, sizeY] ∧ more.length = 4 ∧
    List.Forall₂ WritesNatural axes [h.dimensions.x, h.dimensions.y, h.dimensions.z] ∧ trailer.length = 1 ∧
    h.size = ⟨sizeX * micrometre, sizeY * micrometre, thickness * micrometre⟩

/-- The words of a record: the place on each axis, counted from one, and the components of the
value. -/
def WritesRecord (ws : Tokens) (r : Record) : Prop :=
  ∃ places values, ws = places ++ values ∧
    List.Forall₂ WritesNatural places [r.ix + 1, r.iy + 1, r.iz + 1] ∧
    List.Forall₂ WritesNumber values r.components

/-- What is related to three values are three. -/
lemma forall₂_triple_iff {β γ : Type} {R : β → γ → Prop} {l : List β} {a b c : γ} :
    List.Forall₂ R l [a, b, c] ↔ ∃ t u v, l = [t, u, v] ∧ R t a ∧ R u b ∧ R v c := by
  refine ⟨?_, ?_⟩
  · intro h
    cases h with
    | @cons t _ _ _ ha h =>
    cases h with
    | @cons u _ _ _ hb h =>
    cases h with
    | @cons v _ _ _ hc h =>
    cases h
    exact ⟨t, u, v, rfl, ha, hb, hc⟩
  · intro e
    obtain ⟨t, u, v, rfl, ha, hb, hc⟩ := e
    exact .cons ha (.cons hb (.cons hc .nil))

namespace Reader

/-- The reader of the header reads the words of a header. -/
lemma reads_header : Reads header WritesHeader := by
  refine ((reads_skip _ 2).bind fun _ => (reads_skip _ 3).bind fun _ => (reads_skip _ 3).bind fun _ =>
    (reads_number _).bind fun _ => (reads_number _).bind fun _ => (reads_number _).bind fun _ =>
    (reads_skip _ 4).bind fun _ => (reads_natural _).bind fun _ => (reads_natural _).bind fun _ =>
    (reads_natural _).bind fun _ => (reads_skip _ 1).bind fun _ => Reads.pure _).congr fun ws h => ?_
  refine ⟨?_, ?_⟩
  · intro e
    obtain ⟨-, a, _, rfl, ha, -, b, _, rfl, hb, -, c, _, rfl, hc, thickness, _, _, rfl, ⟨t, rfl, ht⟩,
      sizeX, _, _, rfl, ⟨x, rfl, hx⟩, sizeY, _, _, rfl, ⟨y, rfl, hy⟩, -, more, _, rfl, hm,
      nx, _, _, rfl, ⟨u, rfl, hu⟩, ny, _, _, rfl, ⟨v, rfl, hv⟩, nz, _, _, rfl, ⟨w, rfl, hw⟩,
      -, trailer, _, rfl, he, rfl, rfl⟩ := e
    exact ⟨a ++ b ++ c, [t, x, y], more, [u, v, w], trailer, thickness, sizeX, sizeY, by simp,
      by simp [ha, hb, hc], forall₂_triple_iff.2 ⟨t, x, y, rfl, ht, hx, hy⟩, hm,
      forall₂_triple_iff.2 ⟨u, v, w, rfl, hu, hv, hw⟩, he, rfl⟩
  · intro e
    obtain ⟨ignored, _, more, _, trailer, thickness, sizeX, sizeY, rfl, hi, extents, hm, axes, he, hs⟩ := e
    obtain ⟨a, b, c, rfl, ha, hb, hc⟩ : ∃ a b c : Tokens, ignored = a ++ (b ++ c) ∧ a.length = 2 ∧
        b.length = 3 ∧ c.length = 3 :=
      ⟨ignored.take 2, (ignored.drop 2).take 3, (ignored.drop 2).drop 3,
        by rw [List.take_append_drop, List.take_append_drop], by simp [hi], by simp [hi], by simp [hi]⟩
    obtain ⟨size, dimensions⟩ := h
    obtain ⟨t, x, y, rfl, ht, hx, hy⟩ := forall₂_triple_iff.1 extents
    obtain ⟨u, v, w, rfl, hu, hv, hw⟩ := forall₂_triple_iff.1 axes
    refine ⟨(), a, _, ?_, ha, (), b, _, rfl, hb, (), c, _, rfl, hc, thickness, _, _, rfl, ⟨t, rfl, ht⟩,
      sizeX, _, _, rfl, ⟨x, rfl, hx⟩, sizeY, _, _, rfl, ⟨y, rfl, hy⟩, (), more, _, rfl, hm,
      dimensions.x, _, _, rfl, ⟨u, rfl, hu⟩, dimensions.y, _, _, rfl, ⟨v, rfl, hv⟩,
      dimensions.z, _, _, rfl, ⟨w, rfl, hw⟩, (), trailer, _, rfl, he, rfl, ?_⟩
    · simp
    · rw [show size = _ from hs]

/-- Marking the faults does not change what is read. -/
lemma reads_ofRecord {α : Type} (ordinal : Nat) {r : Reader α} {W : Tokens → α → Prop} (h : Reads r W) :
    Reads (ofRecord ordinal r) W := by
  intro tokens a rest
  rw [← h]
  unfold ofRecord
  cases r tokens <;> simp

/-- The reader of a record reads the words of a record of the grid. -/
lemma reads_record (dims : Dimensions) (width ordinal : Nat) :
    Reads (record dims width ordinal) fun ws r => WritesRecord ws r ∧ r.Fits dims width := by
  refine ((reads_place _ _).bind fun _ => (reads_place _ _).bind fun _ => (reads_place _ _).bind fun _ =>
    (reads_ofRecord ordinal (reads_numbers _ _)).bind fun _ => Reads.pure _).congr fun ws r => ?_
  refine ⟨?_, ?_⟩
  · intro h
    obtain ⟨ix, _, _, rfl, ⟨u, rfl, hu, hx⟩, iy, _, _, rfl, ⟨v, rfl, hv, hy⟩,
      iz, _, _, rfl, ⟨w, rfl, hw, hz⟩, components, values, _, rfl, ⟨hc, count⟩, rfl, rfl⟩ := h
    exact ⟨⟨[u, v, w], values, by simp, forall₂_triple_iff.2 ⟨u, v, w, rfl, hu, hv, hw⟩, hc⟩,
      ⟨hx, hy, hz⟩, count⟩
  · intro h
    obtain ⟨⟨_, values, rfl, places, hc⟩, ⟨hx, hy, hz⟩, count⟩ := h
    obtain ⟨u, v, w, rfl, hu, hv, hw⟩ := forall₂_triple_iff.1 places
    refine ⟨r.ix, _, _, ?_, ⟨u, rfl, hu, hx⟩, r.iy, _, _, rfl, ⟨v, rfl, hv, hy⟩,
      r.iz, _, _, rfl, ⟨w, rfl, hw, hz⟩, r.components, values, [], rfl, ⟨hc, count⟩, rfl, rfl⟩
    simp

end Reader

/-! ## Values -/

section

variable {α : Type} [Sample α]

/-- The value of a record in the units asked for. -/
def Record.value (units : Float) (r : Record) : α :=
  Sample.scaled (Sample.ofComponents r.components) units

/-- The values of some records in the places of their cells, put onto what was there. -/
def fill (dims : Dimensions) (units : Float) (cells : Values α) (rs : List Record) : Values α :=
  rs.foldl (fun cells r => cells.insert (r.placeOn dims) (r.value units)) cells

variable {dims : Dimensions} {units : Float} {cells : Values α}

/-- A place that no record is about keeps its value. -/
lemma getElem?_fill_of_notMem {rs : List Record} {i : Nat} (h : i ∉ rs.map fun r => r.placeOn dims) :
    (fill dims units cells rs)[i]? = cells[i]? := by
  induction rs generalizing cells with
  | nil => rfl
  | cons r rs ih =>
    rw [List.map_cons, List.mem_cons, not_or] at h
    refine (ih h.2).trans ?_
    rw [Std.HashMap.getElem?_insert, if_neg (by simpa using Ne.symm h.1)]

/-- Where no two records are about one cell, each puts its value in the place of its cell. -/
lemma getElem?_fill {rs : List Record} (distinct : (rs.map fun r => r.placeOn dims).Nodup) {r : Record}
    (hr : r ∈ rs) : (fill dims units cells rs)[r.placeOn dims]? = some (r.value units) := by
  induction rs generalizing cells with
  | nil => cases hr
  | cons s rs ih =>
    obtain ⟨once, distinct⟩ := List.nodup_cons.1 distinct
    rcases List.mem_cons.1 hr with rfl | hr
    · refine (getElem?_fill_of_notMem once).trans ?_
      rw [Std.HashMap.getElem?_insert_self]
    · exact ih distinct hr

/-- The row has the value that was read for a place. -/
lemma getElem?_row {i : Nat} (hi : i < dims.cells) {v : α} (h : cells[i]? = some v) :
    (row dims cells)[i]? = some v := by
  have size : i < (row dims cells).size := by rwa [row, Array.size_ofFn]
  rw [Array.getElem?_eq_getElem size]
  simp only [row, Array.getElem_ofFn, Std.HashMap.getD_eq_getD_getElem?, h, Option.getD_some]

/-- The reader of the records reads as many records of the grid as it was told to, about cells that
are different from each other and from those read before, and has their values. -/
lemma Reader.reads_records (dims : Dimensions) (units : Float) (n ordinal : Nat) (cells : Values α) :
    Reads (records dims units n ordinal cells) fun ws filled => ∃ lines rs,
      ws = lines.flatten ∧ List.Forall₂ WritesRecord lines rs ∧ rs.length = n ∧
      (∀ r ∈ rs, r.Fits dims (Sample.width α)) ∧ (rs.map fun r => r.placeOn dims).Nodup ∧
      (∀ r ∈ rs, cells.contains (r.placeOn dims) = false) ∧ filled = fill dims units cells rs := by
  induction n generalizing ordinal cells with
  | zero =>
    refine (Reads.pure cells).congr fun ws filled => ?_
    refine ⟨?_, ?_⟩
    · intro given
      obtain ⟨rfl, rfl⟩ := given
      exact ⟨[], [], rfl, .nil, rfl, nofun, .nil, nofun, rfl⟩
    · intro given
      obtain ⟨lines, rs, rfl, written, count, -, -, -, rfl⟩ := given
      obtain rfl := List.length_eq_zero_iff.1 count
      cases written
      exact ⟨rfl, rfl⟩
  | succ n ih =>
    -- Behind the first record its cell counts as read, so it is refused for all others.
    have step : Reads (records dims units (n + 1) ordinal cells) _ :=
      (reads_record dims _ ordinal).bind fun r => (Reads.throw _).ite (ih (ordinal + 1) _)
    refine step.congr fun ws filled => ?_
    simp only [and_false, false_or, Bool.not_eq_true]
    simp only [Std.HashMap.contains_insert, Bool.or_eq_false_iff, beq_eq_false_iff_ne]
    refine ⟨?_, ?_⟩
    · intro given
      obtain ⟨r, line, _, rfl, ⟨written, fits⟩, free, lines, rs, rfl, writtens, count, fitss, distinct,
        frees, rfl⟩ := given
      refine ⟨line :: lines, r :: rs, rfl, .cons written writtens, by simp [count],
        List.forall_mem_cons.2 ⟨fits, fitss⟩, ?_,
        List.forall_mem_cons.2 ⟨free, fun s hs => (frees s hs).2⟩, rfl⟩
      refine List.nodup_cons.2 ⟨fun h => ?_, distinct⟩
      obtain ⟨s, hs, e⟩ := List.mem_map.1 h
      exact (frees s hs).1 e.symm
    · intro given
      obtain ⟨_, _, rfl, writtens, count, fitss, distinct, frees, rfl⟩ := given
      cases writtens with
      | nil => cases count
      | @cons line r lines rs written writtens =>
        obtain ⟨fits, fitss⟩ := List.forall_mem_cons.1 fitss
        obtain ⟨free, frees⟩ := List.forall_mem_cons.1 frees
        obtain ⟨once, distinct⟩ := List.nodup_cons.1 distinct
        refine ⟨r, line, lines.flatten, rfl, ⟨written, fits⟩, free, lines, rs, rfl, writtens,
          by simpa using count, fitss, distinct, fun s hs => ⟨fun e => once ?_, frees s hs⟩, rfl⟩
        exact List.mem_map.2 ⟨s, hs, e.symm⟩

end

end TableFile

end SensorSim.Field
