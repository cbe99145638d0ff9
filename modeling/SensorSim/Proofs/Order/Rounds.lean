import Mathlib
import SensorSim.Proofs.Order.LeastFirst

/-!
# The tally of open edges

A run closes edges one at a time. Between two rounds the edges that count as open into a vertex are
those from vertices not yet taken, and inside a round also those that the round has still to close
(`Tally`). So every edge that is closed counts as open, and as each round takes a vertex that was
not taken before, no vertex is ready after as many rounds as there are vertices: the bound on the
rounds of a run never cuts one short (`run_tally`).
-/

namespace SensorSim.Order.State

variable {g : Graph} {s : State}

/-- An edge that is still to be closed counts as open. -/
lemma Tally.openInto_pos {pending : List Nat} (t : s.Tally g pending) {w : Nat} (hc : w < g.count) (hw : w ∈ pending) :
    0 < s.openInto w := by
  rw [t.openInto w hc]
  have := List.count_pos_iff.2 hw
  omega

/-- Between two rounds nothing is left to be closed. -/
lemma Consistent.tally (c : s.Consistent g) : s.Tally g [] where
  openInto v hv := by rw [c.openInto v hv, List.count_nil, Nat.zero_add]
  ready := c.ready
  ascending := c.ascending
  once := c.nodup

/-! ## The number of rounds -/

/-- One more round is done at the end of a run, if one is possible. -/
lemma run_succ (g : Graph) (n : Nat) (s : State) : run g (n + 1) s = ((run g n s).step? g).getD (run g n s) := by
  induction n generalizing s with
  | zero =>
    cases h : s.step? g with
    | none => simp only [run, h, Option.getD_none]
    | some t => simp only [run, h, Option.getD_some]
  | succ n ih =>
    rw [run]
    cases h : s.step? g with
    | none => simp only [run, h, Option.getD_none]
    | some t =>
      have front : run g (n + 1) s = run g n t := by simp only [run, h]
      rw [front]
      exact ih t

/-- Once no round is possible, a run stays as it is. -/
lemma run_of_ended {n : Nat} (ended : (run g n s).ready = []) {m : Nat} (h : n ≤ m) : run g m s = run g n s := by
  induction m, h using Nat.le_induction with
  | base => rfl
  | succ m _ ih => rw [run_succ, ih, step?_eq_none_iff.2 ended, Option.getD_none]

/-- In every state between two rounds, and after every edge that is closed inside a round, the edges
that count as open into a vertex are those from vertices not yet taken and those still to be closed
in the round, parallel ones counted as often as they are there; those vertices are ready that were
not taken and have none; and no vertex is taken twice. An edge that is to be closed counts as open.
There are no more rounds than vertices, and they end because no vertex is ready. -/
theorem run_tally (g : Graph) (closed : g.Closed) :
    (∀ n s, run g n (start g) = s → s.Tally g [] ∧
      ∀ v rest, s.ready = v :: rest → v ∉ s.taken ∧
        s.step? g = some ((g.targets v).foldl close (s.take v rest)) ∧
        ∀ done pending, g.targets v = done ++ pending →
          (done.foldl close (s.take v rest)).Tally g pending ∧
          ∀ w ∈ pending, 0 < (done.foldl close (s.take v rest)).openInto w) ∧
    ∃ rounds ≤ g.count, (∀ n < rounds, (run g n (start g)).step? g = some (run g (n + 1) (start g))) ∧
      (run g rounds (start g)).ready = [] ∧ ∀ n, rounds ≤ n → run g n (start g) = run g rounds (start g) := by
  refine ⟨?_, ?_⟩
  · rintro n s rfl
    have c := consistent_run closed n
    refine ⟨c.tally, fun v rest hr => ⟨(c.of_ready hr).2.1, step?_eq_some_iff.2 ⟨v, rest, hr, rfl⟩, ?_⟩⟩
    intro done pending split
    have within := c.tally_within closed hr split
    refine ⟨within, fun w hw => within.openInto_pos ?_ hw⟩
    exact (closed v w (mem_targets.1 (split ▸ List.mem_append_right done hw))).2
  · have ends : ∃ n, (run g n (start g)).ready = [] := ⟨g.count, ready_final closed⟩
    refine ⟨Nat.find ends, Nat.find_min' ends (ready_final closed), fun n hn => ?_, Nat.find_spec ends,
      fun n hn => run_of_ended (Nat.find_spec ends) hn⟩
    -- Before the last round a vertex is ready, so the next round is done.
    cases h : (run g n (start g)).step? g with
    | none => exact absurd (step?_eq_none_iff.1 h) (Nat.find_min ends hn)
    | some t => rw [run_succ, h, Option.getD_some]

/-- A graph with two edges from the first vertex to the second, and behind these two vertices that
lead to each other and one that leads to itself. -/
def tangle : Graph where
  count := 5
  edges := [(0, 1), (0, 1), (1, 2), (2, 3), (3, 2), (1, 4), (4, 4)]

/-- Of the two edges the second counts as open when the first was closed, and the run ends after two
rounds. -/
theorem run_tally_tangle :
    tangle.Closed ∧ (∀ n, (run tangle n (start tangle)).Tally tangle []) ∧
    ([1].foldl close ((start tangle).take 0 [])).Tally tangle [1] ∧
    0 < ([1].foldl close ((start tangle).take 0 [])).openInto 1 ∧
    (∃ rounds ≤ 5,
      (∀ n < rounds, (run tangle n (start tangle)).step? tangle = some (run tangle (n + 1) (start tangle))) ∧
      (run tangle rounds (start tangle)).ready = [] ∧
      ∀ n, rounds ≤ n → run tangle n (start tangle) = run tangle rounds (start tangle)) ∧
    (run tangle 5 (start tangle)).taken = [0, 1] := by
  have closed : tangle.Closed := by
    intro u v e
    simp only [Graph.Edge, tangle, List.mem_cons, Prod.mk.injEq, List.not_mem_nil, or_false] at e
    show u < 5 ∧ v < 5
    omega
  obtain ⟨states, rounds⟩ := run_tally tangle closed
  obtain ⟨within, some_open⟩ := ((states 0 _ rfl).2 0 [] rfl).2.2 [1] [1] rfl
  exact ⟨closed, fun n => (states n _ rfl).1, within, some_open 1 (List.mem_singleton_self 1), rounds, by decide⟩

end SensorSim.Order.State
