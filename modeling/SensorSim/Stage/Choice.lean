import SensorSim.Stage.Basic

/-!
# Choices of stages

The stages of two types together, so that a pipeline can hold both.
-/

namespace SensorSim.Stage

variable {α β : Type} [Stage α] [Stage β]

instance : Stage (α ⊕ β) where
  name := Sum.elim Stage.name Stage.name
  detector? := Sum.elim Stage.detector? Stage.detector?
  setUp ctx
    | .inl s => Prod.map id .inl <$> Stage.setUp ctx s
    | .inr s => Prod.map id .inr <$> Stage.setUp ctx s
  run ctx
    | .inl s => Prod.map id .inl <$> Stage.run ctx s
    | .inr s => Prod.map id .inr <$> Stage.run ctx s
  close ctx
    | .inl s => Prod.map id .inl (Stage.close ctx s)
    | .inr s => Prod.map id .inr (Stage.close ctx s)

end SensorSim.Stage
