import SensorSim.Bus.Message

/-!
# Subscriptions and publications

What stages declare before the first event: the kinds of message that they take and give, each
within a scope of detectors. A message for no detector in particular lies in every scope.
-/

namespace SensorSim.Bus

/-- The number of a stage: its place in the configuration. -/
abbrev StageId := Nat

/-- The detectors that a declaration is about. -/
inductive Scope where
  | any
  | detector (name : String)
deriving DecidableEq, Repr, Inhabited

namespace Scope

/-- Whether a message for the given detector, or for none in particular, lies in a scope. -/
def covers : Scope → Option String → Bool
  | any, _ => true
  | detector _, none => true
  | detector own, some d => own == d

/-- Whether two scopes have a detector in common. -/
def overlaps : Scope → Scope → Bool
  | any, _ => true
  | detector _, any => true
  | detector a, detector b => a == b

/-- The scope of a stage that belongs to a detector, or to none. -/
def own : Option String → Scope
  | none => any
  | some d => detector d

instance : ToString Scope where
  toString
    | any => "*"
    | detector d => d

/-- Overlap does not depend on the order of the scopes. -/
theorem overlaps_comm (a b : Scope) : a.overlaps b = b.overlaps a := by
  cases a <;> cases b <;> simp [overlaps, Bool.beq_comm]

/-- A scope covers a message exactly when it overlaps the scope that the message is for. -/
theorem covers_eq_overlaps_own (s : Scope) (d : Option String) : s.covers d = s.overlaps (own d) := by
  cases s <;> cases d <;> rfl

end Scope

/-- Whether a stage can do without a message. -/
inductive Requirement where
  | required
  | optional
deriving DecidableEq, Repr, Inhabited

def Requirement.strictest : Requirement → Requirement → Requirement
  | required, _ => required
  | optional, r => r

/-- A declared interest in a kind of message. -/
structure Subscription where
  stage : StageId
  kind : Kind
  scope : Scope
  requirement : Requirement
deriving DecidableEq, Repr, Inhabited

namespace Subscription

/-- Two subscriptions are alike when they differ at most in the requirement. -/
def alike (s t : Subscription) : Bool :=
  s.stage == t.stage && s.kind == t.kind && s.scope == t.scope

end Subscription

/-- A declared intent to dispatch a kind of message. -/
structure Publication where
  stage : StageId
  kind : Kind
  scope : Scope
deriving DecidableEq, Repr, Inhabited

end SensorSim.Bus
