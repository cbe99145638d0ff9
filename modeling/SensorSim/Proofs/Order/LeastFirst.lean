import Mathlib
import SensorSim.Order.Graph
import SensorSim.Proofs.Order.Topological

/-!
# The least-first order of a graph

`State.Consistent` is what every round keeps: the open edges into a vertex are those from vertices
not yet taken, the ready vertices are those that have none, and whatever was taken came behind the
sources of the edges into it. From it follow that a finished run is a topological order, that a run
which stops early leaves a cycle behind, and, as each round takes the least vertex that could come
next, that no topological order is lexicographically smaller (`Graph.leastTopological_of_order`,
`Graph.exists_order`).
-/

namespace SensorSim.Order

/-- There is an edge from `u` to `v`. -/
def Graph.Edge (g : Graph) (u v : Nat) : Prop :=
  (u, v) ∈ g.edges

/-- All edges of a graph are between its vertices. -/
def Graph.Closed (g : Graph) : Prop :=
  ∀ u v, g.Edge u v → u < g.count ∧ v < g.count

/-! ## Ascending lists -/

/-- Nothing but the vertex is inserted, and nothing is lost. -/
lemma mem_insertAscending {v w : Nat} {l : List Nat} :
    w ∈ insertAscending v l ↔ w = v ∨ w ∈ l := by
  induction l with
  | nil => simp [insertAscending]
  | cons x l ih =>
    simp only [insertAscending]
    split
    · simp
    · split
      · rename_i e
        subst e
        simp
      · simp only [List.mem_cons, ih]
        tauto

/-- A vertex is inserted where the list still ascends. -/
lemma pairwise_insertAscending {v : Nat} {l : List Nat} (h : l.Pairwise (· < ·)) :
    (insertAscending v l).Pairwise (· < ·) := by
  induction l with
  | nil => simp [insertAscending]
  | cons x l ih =>
    obtain ⟨hx, hl⟩ := List.pairwise_cons.1 h
    simp only [insertAscending]
    split
    · rename_i hvx
      refine List.pairwise_cons.2 ⟨fun w hw => ?_, h⟩
      rcases List.mem_cons.1 hw with rfl | hw
      · exact hvx
      · exact hvx.trans (hx w hw)
    · split
      · exact h
      · refine List.pairwise_cons.2 ⟨fun w hw => ?_, ih hl⟩
        rcases mem_insertAscending.1 hw with rfl | hw
        · omega
        · exact hx w hw

namespace State

/-! ## Closing edges -/

/-- Closing an edge takes no vertex. -/
@[simp] lemma taken_close (s : State) (v : Nat) : (s.close v).taken = s.taken :=
  rfl

/-- Closing an edge forgets no vertex. -/
@[simp] lemma size_close (s : State) (v : Nat) : (s.close v).opened.size = s.opened.size := by
  simp [close]

/-- Closing an edge leaves one less open into its target, and as many as before into the others. -/
lemma openInto_close (s : State) {v : Nat} (hv : v < s.opened.size) (w : Nat) :
    (s.close v).openInto w = if w = v then s.openInto v - 1 else s.openInto w := by
  simp only [openInto, close, Array.getD_eq_getD_getElem?, Array.getElem?_setIfInBounds]
  by_cases e : w = v
  · subst e
    simp [hv]
  · simp [e, Ne.symm e]

/-- A vertex gets ready when the last open edge into it is closed. -/
lemma mem_ready_close {s : State} {v w : Nat} :
    w ∈ (s.close v).ready ↔ w ∈ s.ready ∨ (w = v ∧ s.openInto v - 1 = 0) := by
  simp only [close]
  split
  · rename_i h
    rw [mem_insertAscending]
    tauto
  · rename_i h
    simp [h]

/-- The ready vertices ascend when an edge is closed. -/
lemma ascending_close {s : State} (h : s.ready.Pairwise (· < ·)) (v : Nat) :
    (s.close v).ready.Pairwise (· < ·) := by
  simp only [close]
  split
  · exact pairwise_insertAscending h
  · exact h

section

variable {ws : List Nat} {s : State}

/-- However many edges are closed, no vertex is taken. -/
@[simp] lemma taken_foldl_close (ws : List Nat) (s : State) : (ws.foldl close s).taken = s.taken := by
  induction ws generalizing s with
  | nil => rfl
  | cons w ws ih => rw [List.foldl_cons, ih, taken_close]

/-- However many edges are closed, no vertex is forgotten. -/
@[simp] lemma size_foldl_close (ws : List Nat) (s : State) :
    (ws.foldl close s).opened.size = s.opened.size := by
  induction ws generalizing s with
  | nil => rfl
  | cons w ws ih => rw [List.foldl_cons, ih, size_close]

/-- The ready vertices ascend, however many edges are closed. -/
lemma ascending_foldl_close (h : s.ready.Pairwise (· < ·)) :
    (ws.foldl close s).ready.Pairwise (· < ·) := by
  induction ws generalizing s with
  | nil => exact h
  | cons w ws ih => exact ih (ascending_close h w)

/-- Every closing counts. -/
lemma openInto_foldl_close (hws : ∀ w ∈ ws, w < s.opened.size) (v : Nat) :
    (ws.foldl close s).openInto v = s.openInto v - ws.count v := by
  induction ws generalizing s with
  | nil => simp
  | cons w ws ih =>
    have hw := hws w (List.mem_cons_self ..)
    have rest : ∀ x ∈ ws, x < (s.close w).opened.size := by
      intro x hx
      rw [size_close]
      exact hws x (List.mem_cons_of_mem _ hx)
    rw [List.foldl_cons, ih rest, openInto_close s hw, List.count_cons]
    by_cases e : v = w
    · subst e
      simp only [if_true, beq_self_eq_true]
      omega
    · simp [e, Ne.symm e]

/-- Where no more edges are closed than were open, a vertex gets ready with the last of them. -/
lemma mem_ready_foldl_close (hws : ∀ w ∈ ws, w < s.opened.size)
    (enough : ∀ w, ws.count w ≤ s.openInto w) {v : Nat} :
    v ∈ (ws.foldl close s).ready ↔ v ∈ s.ready ∨ (v ∈ ws ∧ s.openInto v = ws.count v) := by
  induction ws generalizing s with
  | nil => simp
  | cons w ws ih =>
    have hw := hws w (List.mem_cons_self ..)
    have rest : ∀ x ∈ ws, x < (s.close w).opened.size := by
      intro x hx
      rw [size_close]
      exact hws x (List.mem_cons_of_mem _ hx)
    -- The first edge that is closed was counted, so there are still enough for the others.
    have left : ∀ x, ws.count x ≤ (s.close w).openInto x := by
      intro x
      have := enough x
      rw [List.count_cons] at this
      rw [openInto_close s hw]
      by_cases e : x = w
      · subst e
        simp only [beq_self_eq_true, if_true] at this ⊢
        omega
      · simp only [beq_iff_eq, Ne.symm e, e, if_false] at this ⊢
        omega
    rw [List.foldl_cons, ih rest left, mem_ready_close, openInto_close s hw, List.count_cons, List.mem_cons]
    have some_open := enough w
    rw [List.count_cons_self] at some_open
    by_cases e : v = w
    · subst e
      simp only [beq_self_eq_true, if_true, true_and, true_or, ← List.count_pos_iff]
      omega
    · simp [e, Ne.symm e]

end

/-! ## What every round keeps -/

/-- The edges into a vertex from vertices that were not taken yet. -/
def stillOpen (g : Graph) (taken : List Nat) (v : Nat) : Nat :=
  g.edges.countP fun e => e.2 = v ∧ e.1 ∉ taken

/-- What holds between two rounds. -/
structure Consistent (g : Graph) (s : State) : Prop where
  size : s.opened.size = g.count
  openInto : ∀ v < g.count, s.openInto v = stillOpen g s.taken v
  ready : ∀ v, v ∈ s.ready ↔ v < g.count ∧ v ∉ s.taken ∧ s.openInto v = 0
  ascending : s.ready.Pairwise (· < ·)
  nodup : s.taken.Nodup
  known : ∀ v ∈ s.taken, v < g.count
  behind : ∀ u v, g.Edge u v → v ∈ s.taken → Precedes s.taken u v

variable {g : Graph} {s t : State}

/-- As often as a vertex is a target there are edges to it. -/
lemma count_targets (g : Graph) (v w : Nat) :
    (g.targets v).count w = g.edges.countP fun e => e.1 = v ∧ e.2 = w := by
  rw [Graph.targets, List.count, List.countP_map, List.countP_filter]
  refine List.countP_congr fun e _ => ?_
  simp [and_comm]

/-- Taking a vertex closes the edges out of it and no others. -/
lemma stillOpen_snoc {taken : List Nat} {v : Nat} (hv : v ∉ taken) (w : Nat) :
    stillOpen g taken w = (g.targets v).count w + stillOpen g (taken ++ [v]) w := by
  rw [count_targets]
  unfold stillOpen
  induction g.edges with
  | nil => rfl
  | cons e es ih =>
    rw [List.countP_cons, List.countP_cons, List.countP_cons, ih]
    by_cases hs : e.1 = v
    · simp only [hs, List.mem_append, List.mem_singleton, hv]
      by_cases ht : e.2 = w
      · simp [ht]
        omega
      · simp [ht]
    · simp only [hs, List.mem_append, List.mem_singleton, or_false, false_and, decide_false,
        Bool.false_eq_true, if_false]
      omega

/-- No edge into a vertex is open exactly when all their sources were taken. -/
lemma stillOpen_eq_zero_iff {taken : List Nat} {v : Nat} :
    stillOpen g taken v = 0 ↔ ∀ u, g.Edge u v → u ∈ taken := by
  simp only [stillOpen, List.countP_eq_zero, Graph.Edge, decide_eq_true_eq, not_and, not_not]
  refine ⟨?_, ?_⟩
  · intro h u hu
    exact h (u, v) hu rfl
  · rintro h ⟨u, w⟩ he rfl
    exact h u he

/-- In the beginning the edges that are open into a vertex are all those into it. -/
lemma openInto_start (g : Graph) {v : Nat} (hv : v < g.count) : (start g).openInto v = g.indegree v := by
  simp [openInto, start, Array.getD_eq_getD_getElem?, hv]

/-- Before the first round every edge is open. -/
lemma consistent_start (g : Graph) : (start g).Consistent g where
  size := by simp [start]
  openInto v hv := by
    rw [openInto_start g hv]
    simp [stillOpen, start, Graph.indegree, beq_eq_decide]
  ready v := by
    refine ⟨?_, ?_⟩
    · intro h
      obtain ⟨hr, hz⟩ := List.mem_filter.1 h
      have hv := List.mem_range.1 hr
      exact ⟨hv, List.not_mem_nil, by rw [openInto_start g hv]; exact beq_iff_eq.1 hz⟩
    · intro e
      obtain ⟨hv, -, hz⟩ := e
      rw [openInto_start g hv] at hz
      exact List.mem_filter.2 ⟨List.mem_range.2 hv, beq_iff_eq.2 hz⟩
  ascending := List.pairwise_lt_range.filter _
  nodup := .nil
  known := nofun
  behind := nofun

/-- The state in which a vertex is taken and the edges out of it are still to be closed. -/
def take (s : State) (v : Nat) (rest : List Nat) : State :=
  { s with ready := rest, taken := s.taken ++ [v] }

section

variable {v : Nat} {rest done pending : List Nat}

/-- The targets of a vertex are where its edges lead. -/
lemma mem_targets {g : Graph} {v w : Nat} : w ∈ g.targets v ↔ g.Edge v w := by
  simp [Graph.targets, Graph.Edge]

/-- The first ready vertex was not taken yet, and the sources of all edges into it were. -/
lemma Consistent.of_ready (c : s.Consistent g) (hr : s.ready = v :: rest) :
    v < g.count ∧ v ∉ s.taken ∧ ∀ u, g.Edge u v → u ∈ s.taken := by
  obtain ⟨hv, hnew, hz⟩ := (c.ready v).1 (by simp [hr])
  rw [c.openInto v hv, stillOpen_eq_zero_iff] at hz
  exact ⟨hv, hnew, hz⟩

/-- No vertex is taken twice. -/
lemma Consistent.nodup_take (c : s.Consistent g) (hr : s.ready = v :: rest) : (s.take v rest).taken.Nodup :=
  List.nodup_append.2 ⟨c.nodup, List.nodup_singleton v, fun _ hx _ hy e =>
    (c.of_ready hr).2.1 (List.mem_singleton.1 hy ▸ e ▸ hx)⟩

/-- The targets of a vertex are vertices whose open edges are counted. -/
lemma Consistent.targets_lt (c : s.Consistent g) (closed : g.Closed) :
    ∀ w ∈ g.targets v, w < (s.take v rest).opened.size := by
  intro w hw
  show w < s.opened.size
  rw [c.size]
  exact (closed v w (mem_targets.1 hw)).2

/-- As many edges are open as are closed with a vertex and stay open behind it. -/
lemma Consistent.openInto_take (c : s.Consistent g) (hr : s.ready = v :: rest) {w : Nat} (hw : w < g.count) :
    (s.take v rest).openInto w = (g.targets v).count w + stillOpen g (s.taken ++ [v]) w := by
  rw [← stillOpen_snoc (c.of_ready hr).2.1]
  exact c.openInto w hw

/-- Inside a round, the open edges into a vertex are those that are still to be closed and those
that stay open. -/
lemma Consistent.openInto_within (c : s.Consistent g) (closed : g.Closed) (hr : s.ready = v :: rest)
    (split : g.targets v = done ++ pending) {w : Nat} (hw : w < g.count) :
    (done.foldl close (s.take v rest)).openInto w = pending.count w + stillOpen g (s.taken ++ [v]) w := by
  have some_open := c.openInto_take hr hw
  rw [split, List.count_append] at some_open
  rw [openInto_foldl_close fun x hx => c.targets_lt closed x (split ▸ List.mem_append_left pending hx), some_open]
  omega

/-- No more edges are closed than are open. -/
lemma Consistent.count_done_le (c : s.Consistent g) (closed : g.Closed) (hr : s.ready = v :: rest)
    (split : g.targets v = done ++ pending) (w : Nat) : done.count w ≤ (s.take v rest).openInto w := by
  by_cases hw : w ∈ done
  · have target : w ∈ g.targets v := split ▸ List.mem_append_left pending hw
    have some_open := c.openInto_take hr (closed v w (mem_targets.1 target)).2
    rw [split, List.count_append] at some_open
    omega
  · rw [List.count_eq_zero.2 hw]
    exact Nat.zero_le _

/-- Inside a round too those vertices are ready that were not taken and have no open edge into
them. -/
lemma Consistent.mem_ready_within (c : s.Consistent g) (closed : g.Closed) (hr : s.ready = v :: rest)
    (split : g.targets v = done ++ pending) (w : Nat) : w ∈ (done.foldl close (s.take v rest)).ready ↔
      w < g.count ∧ w ∉ s.taken ++ [v] ∧ pending.count w + stillOpen g (s.taken ++ [v]) w = 0 := by
  obtain ⟨-, hnew, sources⟩ := c.of_ready hr
  obtain ⟨least, -⟩ := List.pairwise_cons.1 (hr ▸ c.ascending)
  have target : ∀ x ∈ done, x ∈ g.targets v := fun x hx => split ▸ List.mem_append_left pending hx
  have counts : ∀ x, (g.targets v).count x = done.count x + pending.count x := by
    intro x
    rw [split, List.count_append]
  rw [mem_ready_foldl_close (fun x hx => c.targets_lt closed x (target x hx)) (c.count_done_le closed hr split),
    show (s.take v rest).ready = rest from rfl]
  simp only [List.mem_append, List.mem_singleton, not_or]
  refine ⟨?_, ?_⟩
  · intro h
    -- A vertex was ready before the round, or the last open edge into it was closed in it.
    rcases h with hw | ⟨hw, all⟩
    · obtain ⟨hc, hn, hz⟩ := (c.ready w).1 (by simp [hr, hw])
      rw [c.openInto w hc, stillOpen_snoc hnew, counts] at hz
      exact ⟨hc, ⟨hn, (least w hw).ne'⟩, by omega⟩
    · have edge := mem_targets.1 (target w hw)
      have hc := (closed v w edge).2
      rw [c.openInto_take hr hc, counts] at all
      refine ⟨hc, ⟨fun hm => ?_, ?_⟩, by omega⟩
      · exact hnew (c.behind v w edge hm).left_mem
      · rintro rfl
        exact hnew (sources w edge)
  · intro h
    obtain ⟨hc, ⟨hn, ne⟩, hz⟩ := h
    have some_open := c.openInto_take hr hc
    rw [counts] at some_open
    by_cases hw : w ∈ done
    · right
      exact ⟨hw, by omega⟩
    · left
      have ready : w ∈ s.ready := by
        refine (c.ready w).2 ⟨hc, hn, ?_⟩
        rw [show s.openInto w = (s.take v rest).openInto w from rfl, some_open, List.count_eq_zero.2 hw]
        omega
      rw [hr] at ready
      exact (List.mem_cons.1 ready).resolve_left ne

/-- What a state shows where the edges to `pending` are still to be closed in the round: how many
edges into a vertex count as open, which vertices are ready, and that none was taken twice. -/
structure Tally (g : Graph) (s : State) (pending : List Nat) : Prop where
  openInto : ∀ v < g.count, s.openInto v = pending.count v + stillOpen g s.taken v
  ready : ∀ v, v ∈ s.ready ↔ v < g.count ∧ v ∉ s.taken ∧ s.openInto v = 0
  ascending : s.ready.Pairwise (· < ·)
  once : s.taken.Nodup

/-- Inside a round the edges that it has not come to are still to be closed. -/
lemma Consistent.tally_within (c : s.Consistent g) (closed : g.Closed) (hr : s.ready = v :: rest)
    (split : g.targets v = done ++ pending) : (done.foldl close (s.take v rest)).Tally g pending := by
  have taken : (done.foldl close (s.take v rest)).taken = s.taken ++ [v] := taken_foldl_close _ _
  refine ⟨fun w hw => ?_, fun w => ?_, ascending_foldl_close (List.pairwise_cons.1 (hr ▸ c.ascending)).2, ?_⟩
  · rw [taken]
    exact c.openInto_within closed hr split hw
  · rw [taken, c.mem_ready_within closed hr split]
    refine and_congr_right fun hw => ?_
    rw [c.openInto_within closed hr split hw]
  · rw [taken]
    exact c.nodup_take hr

end

/-- The rounds are over when no vertex is ready. -/
lemma step?_eq_none_iff : s.step? g = none ↔ s.ready = [] := by
  unfold step?
  split
  · rename_i hr
    simp [hr]
  · rename_i v rest hr
    simp [hr]

/-- A round takes the least ready vertex. -/
lemma step?_eq_some_iff :
    s.step? g = some t ↔
      ∃ v rest, s.ready = v :: rest ∧ t = (g.targets v).foldl close (s.take v rest) := by
  unfold step?
  split
  · rename_i hr
    simp [hr]
  · rename_i v rest hr
    simp [hr, take, eq_comm]

/-- A round keeps what holds between two rounds. -/
lemma Consistent.step (c : s.Consistent g) (closed : g.Closed) (h : s.step? g = some t) :
    t.Consistent g := by
  obtain ⟨v, rest, hr, rfl⟩ := step?_eq_some_iff.1 h
  obtain ⟨hv, -, sources⟩ := c.of_ready hr
  have after := c.tally_within closed hr (List.append_nil _).symm
  have taken : ((g.targets v).foldl close (s.take v rest)).taken = s.taken ++ [v] := taken_foldl_close _ _
  refine ⟨?_, ?_, after.ready, after.ascending, after.once, ?_, ?_⟩
  · rw [size_foldl_close]
    exact c.size
  · intro w hw
    rw [after.openInto w hw, List.count_nil, Nat.zero_add]
  · rw [taken]
    intro w hw
    rcases List.mem_append.1 hw with hw | hw
    · exact c.known w hw
    · rw [List.mem_singleton.1 hw]
      exact hv
  · rw [taken]
    intro x w he hw
    rcases List.mem_append.1 hw with hw | hw
    · exact (c.behind x w he hw).append_right [v]
    · rw [List.mem_singleton.1 hw] at he ⊢
      exact .snoc (sources x he) v

/-! ## No order is smaller -/

/-- The first difference between two lists is in favour of the first. -/
def Below (l l' : List Nat) : Prop :=
  ∃ front x y back back', l = front ++ x :: back ∧ l' = front ++ y :: back' ∧ x < y

/-- What follows on the smaller side makes no difference. -/
lemma Below.append {l l' : List Nat} (h : Below l l') (tail : List Nat) : Below (l ++ tail) l' := by
  obtain ⟨front, x, y, back, back', rfl, rfl, hxy⟩ := h
  exact ⟨front, x, y, back ++ tail, back', by simp, rfl, hxy⟩

/-- The list on the side of which the first difference is in favour is the smaller one. -/
lemma Below.lt {l l' : List Nat} (h : Below l l') : l < l' := by
  obtain ⟨front, x, y, back, back', rfl, rfl, hxy⟩ := h
  exact List.append_left_lt (List.cons_lt_cons_iff.2 (.inl hxy))

/-- Every topological order starts with the vertices taken so far or is greater. -/
def Leads (g : Graph) (s : State) : Prop :=
  ∀ l, Topological g.count g.Edge l → s.taken <+: l ∨ Below s.taken l

/-- The next vertex of an order that starts with the taken ones is ready too, so it is not less than
the one that a round takes. -/
lemma Leads.step (leads : s.Leads g) (c : s.Consistent g) (h : s.step? g = some t) : t.Leads g := by
  obtain ⟨v, rest, hr, rfl⟩ := step?_eq_some_iff.1 h
  obtain ⟨hv, hnew, -⟩ := c.of_ready hr
  intro l top
  rw [show ((g.targets v).foldl close (s.take v rest)).taken = s.taken ++ [v] from taken_foldl_close _ _]
  rcases leads l top with ⟨tail, hl⟩ | below
  · cases tail with
    | nil =>
      -- The order would end before `v`, which it must have.
      rw [List.append_nil] at hl
      exact absurd (hl ▸ top.mem_iff.2 hv) hnew
    | cons w tail =>
      -- All sources of the next vertex of the order come before it, so they were taken.
      have nodup := top.nodup
      rw [← hl] at nodup
      have ready : w ∈ s.ready := by
        have hw : w < g.count := top.mem_iff.1 (hl ▸ by simp)
        refine (c.ready w).2 ⟨hw, fun hm => ?_, ?_⟩
        · exact (List.nodup_append.1 nodup).2.2 w hm w (List.mem_cons_self ..) rfl
        · rw [c.openInto w hw, stillOpen_eq_zero_iff]
          intro u hu
          have pre := top.respects u w hu
          rw [← hl] at pre
          exact pre.mem_of_split nodup
      rw [hr] at ready
      rcases List.mem_cons.1 ready with rfl | later
      · exact .inl ⟨tail, by simp [hl]⟩
      · have least := (List.pairwise_cons.1 (hr ▸ c.ascending)).1 w later
        exact .inr ⟨s.taken, v, w, [], tail, rfl, hl.symm, least⟩
  · exact .inr (below.append [v])

/-! ## Whole runs -/

/-- What every round keeps holds after a run. -/
lemma run_invariant {P : State → Prop} (keeps : ∀ s t, P s → s.step? g = some t → P t) (rounds : Nat)
    (h : P s) : P (run g rounds s) := by
  induction rounds generalizing s with
  | zero => exact h
  | succ rounds ih =>
    rw [run]
    split
    · exact h
    · rename_i t ht
      exact ih (keeps s t h ht)

/-- A run stops early only when no vertex is ready. -/
lemma run_ends (g : Graph) (rounds : Nat) (s : State) :
    (run g rounds s).ready = [] ∨ (run g rounds s).taken.length = s.taken.length + rounds := by
  induction rounds generalizing s with
  | zero => exact .inr rfl
  | succ rounds ih =>
    rw [run]
    split
    · rename_i h
      exact .inl (step?_eq_none_iff.1 h)
    · rename_i t ht
      obtain ⟨v, rest, -, htaken⟩ := taken_step? ht
      rcases ih t with h | h
      · exact .inl h
      · right
        rw [h, htaken, List.length_append, List.length_singleton]
        omega

/-- The state in which the rounds end. -/
def final (g : Graph) : State :=
  run g g.count (start g)

/-- After any number of rounds the state is consistent. -/
lemma consistent_run (closed : g.Closed) (n : Nat) : (run g n (start g)).Consistent g :=
  run_invariant (fun _ _ c h => c.step closed h) n (consistent_start g)

/-- The state in the end is consistent. -/
lemma consistent_final (closed : g.Closed) : (final g).Consistent g :=
  consistent_run closed g.count

/-- When every vertex was taken, none is ready. -/
lemma Consistent.ready_eq_nil (c : s.Consistent g) (all : s.taken.length = g.count) : s.ready = [] := by
  cases hr : s.ready with
  | nil => rfl
  | cons v rest =>
    obtain ⟨hv, hnew, -⟩ := c.of_ready hr
    have sub : v :: s.taken ⊆ List.range g.count := by
      intro w hw
      rcases List.mem_cons.1 hw with rfl | hw
      · exact List.mem_range.2 hv
      · exact List.mem_range.2 (c.known w hw)
    have le := ((List.nodup_cons.2 ⟨hnew, c.nodup⟩).subperm sub).length_le
    rw [List.length_cons, List.length_range] at le
    omega

/-- No vertex is ready in the end. -/
lemma ready_final (closed : g.Closed) : (final g).ready = [] := by
  rcases run_ends g g.count (start g) with ended | all
  · exact ended
  · rw [show (start g).taken = [] from rfl, List.length_nil, Nat.zero_add] at all
    exact (consistent_final closed).ready_eq_nil all

/-- In the end no topological order was missed that is smaller than what was taken. -/
lemma leads_final (closed : g.Closed) : (final g).Leads g := by
  have both : (final g).Consistent g ∧ (final g).Leads g := by
    refine run_invariant (P := fun s => s.Consistent g ∧ s.Leads g) (fun s t h ht => ?_) g.count ?_
    · exact ⟨h.1.step closed ht, h.2.step h.1 ht⟩
    · exact ⟨consistent_start g, fun l _ => .inl (List.nil_prefix ..)⟩
  exact both.2

/-- When every vertex was taken, they were taken in a topological order. -/
lemma Consistent.topological (c : s.Consistent g) (closed : g.Closed) (all : s.taken.length = g.count) :
    Topological g.count g.Edge s.taken := by
  have sub : s.taken ⊆ List.range g.count := fun v hv => List.mem_range.2 (c.known v hv)
  have perm : s.taken.Perm (List.range g.count) :=
    (c.nodup.subperm sub).perm_of_length_le (by simp [all])
  refine ⟨perm, fun u v he => c.behind u v he ?_⟩
  rw [perm.mem_iff, List.mem_range]
  exact (closed u v he).2

/-- Without a cycle every vertex is taken before none is ready. -/
lemma Consistent.length_eq_count (c : s.Consistent g) (closed : g.Closed) (acyclic : Acyclic g.Edge)
    (hr : s.ready = []) : s.taken.length = g.count := by
  have all : ∀ v < g.count, v ∈ s.taken := by
    by_contra h
    push Not at h
    obtain ⟨v, hv, hn⟩ := h
    -- Of the vertices left out one has no source among them, and that one is ready.
    obtain ⟨w, ⟨hw, hm⟩, first⟩ :=
      acyclic.exists_first (P := fun v => v < g.count ∧ v ∉ s.taken) (fun _ h => h.1) ⟨hv, hn⟩
    have ready : w ∈ s.ready := by
      refine (c.ready w).2 ⟨hw, hm, ?_⟩
      rw [c.openInto w hw, stillOpen_eq_zero_iff]
      intro u hu
      by_contra hn
      exact first u ⟨(closed u w hu).1, hn⟩ hu
    rw [hr] at ready
    cases ready
  have sub : List.range g.count ⊆ s.taken := fun v hv => all v (List.mem_range.1 hv)
  have le := (c.nodup.subperm fun v hv => List.mem_range.2 (c.known v hv)).length_le
  have ge := (List.nodup_range.subperm sub).length_le
  rw [List.length_range] at le ge
  exact le_antisymm le ge

end State

namespace Graph

variable {g : Graph}

/-- The order of a graph is the lexicographically least of its topological orders. -/
lemma leastTopological_of_order (closed : g.Closed) {l : List Nat} (h : g.order = .ok l) :
    LeastTopological g.count g.Edge l := by
  simp only [order] at h
  split at h
  · rename_i all
    cases h
    have top := (State.consistent_final closed).topological closed all
    refine ⟨top, fun l' top' => ?_⟩
    rcases State.leads_final closed l' top' with pre | below
    -- An order that starts with all vertices is no longer than they are.
    · have same := pre.eq_of_length (top.length_eq.trans top'.length_eq.symm)
      exact le_of_eq same
    · exact le_of_lt below.lt
  · cases h

/-- A graph without a cycle has an order. -/
lemma exists_order (closed : g.Closed) (acyclic : Acyclic g.Edge) : ∃ l, g.order = .ok l := by
  have all := (State.consistent_final closed).length_eq_count closed acyclic (State.ready_final closed)
  refine ⟨(State.final g).taken, ?_⟩
  simp only [order]
  exact if_pos all

/-- A graph has an order exactly when it has no cycle. -/
lemma exists_order_iff (closed : g.Closed) : (∃ l, g.order = .ok l) ↔ Acyclic g.Edge := by
  refine ⟨?_, ?_⟩
  · intro e
    obtain ⟨l, h⟩ := e
    exact (leastTopological_of_order closed h).1.acyclic
  · exact exists_order closed

end Graph

end SensorSim.Order
