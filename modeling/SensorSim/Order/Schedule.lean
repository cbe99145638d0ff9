import SensorSim.Order.Graph
import SensorSim.Bus.Basic

/-!
# The order of stages

A stage that takes a kind of message runs after every stage that gives it in an overlapping scope.
The order is the least-first one over all such dependencies, or over the required ones alone when
the optional ones close a cycle.
-/

namespace SensorSim.Order

open Bus

/-- Why stages cannot be put in order. -/
inductive OrderError where
  | cyclic (stages : List StageId)
  | unknownStage (stage : StageId)
deriving DecidableEq, Repr

def OrderError.message : OrderError → String
  | cyclic [] => "cyclic dependency between modules"
  | cyclic stages => "cyclic dependency between modules " ++ ", ".intercalate (stages.map toString)
  | unknownStage stage => s!"unknown module {stage}"

/-- Whether a publication serves a subscription. -/
def serves (p : Publication) (s : Subscription) : Bool :=
  p.kind == s.kind && p.scope.overlaps s.scope

/-- The dependencies found in the declarations. One that comes from several of them is there several
times. -/
structure Dependencies where
  required : List Edge := []
  optional : List Edge := []
  /-- The required subscriptions that no stage serves. -/
  unmet : List Subscription := []
deriving Repr, Inhabited

/-- Adds the dependencies that come from one subscription. Only stages below `count` are known. -/
def Dependencies.add (count : Nat) (publications : List Publication) (d : Dependencies)
    (s : Subscription) : Except OrderError Dependencies :=
  if count ≤ s.stage then .error (.unknownStage s.stage)
  else
    let producers := (publications.filter fun p => serves p s).map Publication.stage
    match producers.find? fun p => count ≤ p with
    | some p => .error (.unknownStage p)
    | none =>
      let edges := (producers.filter fun p => p != s.stage).map fun p => (p, s.stage)
      .ok (match s.requirement with
        | .required =>
          { d with
            required := d.required ++ edges
            unmet := if producers = [] then d.unmet ++ [s] else d.unmet }
        | .optional => { d with optional := d.optional ++ edges })

/-- Adds the dependencies of subscriptions in order, up to the first that names an unknown stage. -/
def Dependencies.addAll (count : Nat) (publications : List Publication) :
    List Subscription → Dependencies → Dependencies × Option OrderError
  | [], d => (d, none)
  | s :: rest, d =>
    match d.add count publications s with
    | .ok d => addAll count publications rest d
    | .error e => (d, some e)

/-- The outcome of putting stages in order. -/
structure Schedule where
  /-- The required subscriptions that no stage serves, as far as they were looked at. -/
  unmet : List Subscription
  /-- Whether the optional dependencies were given up. -/
  relaxed : Bool
  /-- The stages in order. -/
  stages : Except OrderError (List StageId)

/-- Puts the stages `0, …, count - 1` in order by what they declared on the bus. -/
def schedule (count : Nat) (bus : Bus) : Schedule :=
  let (d, fault) := Dependencies.addAll count bus.publications bus.subscriptions {}
  match fault with
  | some e => { unmet := d.unmet, relaxed := false, stages := .error e }
  | none =>
    match Graph.order ⟨count, d.required ++ d.optional⟩ with
    | .ok stages => { unmet := d.unmet, relaxed := false, stages := .ok stages }
    | .error _ =>
      match Graph.order ⟨count, d.required⟩ with
      | .ok stages => { unmet := d.unmet, relaxed := true, stages := .ok stages }
      | .error stages => { unmet := d.unmet, relaxed := false, stages := .error (.cyclic stages) }

end SensorSim.Order
