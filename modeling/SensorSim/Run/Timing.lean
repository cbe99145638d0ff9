/-!
# Timings

How long the stages of an event took, in the order in which they ran. Stages may share a name.
-/

namespace SensorSim.Run

/-- The names of the stages that ran and the microseconds that each took. -/
structure Timing where
  stages : List (String × Nat) := []
deriving DecidableEq, Repr, Inhabited

namespace Timing

/-- The microseconds that the stages of a name took together. -/
def total (t : Timing) (name : String) : Nat :=
  t.stages.foldr (fun s rest => (if s.1 = name then s.2 else 0) + rest) 0

/-- A stage adds to its own name only. -/
theorem total_cons (s : String × Nat) (t : Timing) (name : String) :
    (Timing.mk (s :: t.stages)).total name = (if s.1 = name then s.2 else 0) + t.total name :=
  rfl

end Timing

end SensorSim.Run
