/-!
# Pixel indices

A pixel is named by its column and its row. Indices may be negative: a position outside the matrix
still has a nearest cell.
-/

namespace SensorSim.Geometry

/-- The column and the row of a pixel. -/
structure Pixel where
  x : Int
  y : Int
deriving DecidableEq, Repr, Inhabited

namespace Pixel

/-- Pixels are ordered by column, then by row. -/
def compare (p q : Pixel) : Ordering :=
  (Ord.compare p.x q.x).then (Ord.compare p.y q.y)

def shift (p : Pixel) (dx dy : Int) : Pixel :=
  ⟨p.x + dx, p.y + dy⟩

/-- A pixel and the eight around it, row by row. -/
def neighbourhood (p : Pixel) : List Pixel :=
  [-1, 0, 1].flatMap fun dy => [-1, 0, 1].map fun dx => p.shift dx dy

instance : ToString Pixel := ⟨fun p => s!"({p.x}, {p.y})"⟩

/-- The neighbourhood of a pixel holds exactly the pixels at most one column and one row away. -/
theorem mem_neighbourhood {p q : Pixel} :
    q ∈ p.neighbourhood ↔
      (q.x - p.x).natAbs ≤ 1 ∧ (q.y - p.y).natAbs ≤ 1 := by
  obtain ⟨qx, qy⟩ := q
  obtain ⟨px, py⟩ := p
  simp only [neighbourhood, shift, List.flatMap_cons, List.flatMap_nil, List.map_cons, List.map_nil,
    List.append_nil, List.cons_append, List.nil_append, List.mem_cons, List.not_mem_nil, or_false,
    Pixel.mk.injEq]
  omega

end Pixel

end SensorSim.Geometry
