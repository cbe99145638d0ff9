/-!
# Topological order, least first

An order of the vertices `0, …, n - 1` of a graph in which the source of every edge comes before its
target, found by taking the least vertex without an open edge into it until none is left.
`State.step` is one round, and its state shows for every vertex how many edges into it are still
open, so that what holds between two rounds can be stated.
-/

namespace SensorSim.Order

/-- An edge from the vertex that comes first to the one that comes later. -/
abbrev Edge := Nat × Nat

/-- A graph on the vertices below `count`. Edges may be parallel. -/
structure Graph where
  count : Nat
  edges : List Edge
deriving Repr, Inhabited

namespace Graph

def targets (g : Graph) (v : Nat) : List Nat :=
  (g.edges.filter fun e => e.1 == v).map Prod.snd

/-- How many edges lead into a vertex. -/
def indegree (g : Graph) (v : Nat) : Nat :=
  g.edges.countP fun e => e.2 == v

end Graph

/-- Puts a number into an ascending list that does not hold it. -/
def insertAscending (v : Nat) : List Nat → List Nat
  | [] => [v]
  | w :: rest => if v < w then v :: w :: rest else if v = w then w :: rest else w :: insertAscending v rest

/-- The state between two rounds. -/
structure State where
  /-- For every vertex the number of open edges into it. -/
  opened : Array Nat
  /-- The vertices that may come next, in ascending order. -/
  ready : List Nat
  /-- The vertices taken so far, in order. -/
  taken : List Nat
deriving Repr, Inhabited

namespace State

/-- The state before the first round. -/
def start (g : Graph) : State where
  opened := Array.ofFn fun v : Fin g.count => g.indegree v
  ready := (List.range g.count).filter fun v => g.indegree v == 0
  taken := []

/-- How many edges into a vertex are open. -/
def openInto (s : State) (v : Nat) : Nat :=
  s.opened.getD v 0

/-- Closes one edge into a vertex, which is ready when it was the last. -/
def close (s : State) (v : Nat) : State :=
  let left := s.openInto v - 1
  { s with
    opened := s.opened.setIfInBounds v left
    ready := if left = 0 then insertAscending v s.ready else s.ready }

/-- Takes the least ready vertex and closes the edges out of it. -/
def step? (g : Graph) (s : State) : Option State :=
  match s.ready with
  | [] => none
  | v :: rest => some ((g.targets v).foldl close { s with ready := rest, taken := s.taken ++ [v] })

/-- Goes on for at most the given number of rounds. -/
def run (g : Graph) : Nat → State → State
  | 0, s => s
  | rounds + 1, s =>
    match s.step? g with
    | none => s
    | some s => run g rounds s

/-- The vertices that open edges lead into. -/
def blocked (g : Graph) (s : State) : List Nat :=
  (List.range g.count).filter fun v => 0 < s.openInto v

end State

/-- The least-first topological order of a graph, or else the vertices that cannot be placed because
they lie on a cycle or behind one. -/
def Graph.order (g : Graph) : Except (List Nat) (List Nat) :=
  let s := State.run g g.count (State.start g)
  if s.taken.length = g.count then .ok s.taken else .error (s.blocked g)

/-- When a round is possible, it takes the least ready vertex. -/
theorem State.taken_step? {g : Graph} {s t : State} (h : s.step? g = some t) :
    ∃ v rest, s.ready = v :: rest ∧ t.taken = s.taken ++ [v] := by
  unfold State.step? at h
  split at h
  · cases h
  · rename_i v rest hr
    refine ⟨v, rest, hr, ?_⟩
    cases h
    have keeps : ∀ (ws : List Nat) (u : State), (ws.foldl State.close u).taken = u.taken := by
      intro ws
      induction ws with
      | nil => exact fun _ => rfl
      | cons w ws ih => exact fun u => by rw [List.foldl_cons, ih]; rfl
    rw [keeps]

end SensorSim.Order
