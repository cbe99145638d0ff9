import Mathlib
import SensorSim.Field.TableStore
import SensorSim.Proofs.Except

/-!
# What a store keeps

A store under any calls, while the files change in any way. Between two calls every cell is filled
(`WellFormed`): a call makes at most one cell, and either fills it or takes it away again
(`get_cases`). So the cells are those of the files that were read successfully, each with the table
of the first success (`mem_cells_replay_iff`), and a failure leaves nothing behind. A file without a
table is opened and parsed as it is at the time of the call (`firstRead_load`).
-/

namespace SensorSim.Field

open Files

variable {α : Type}

/-! ## Cells -/

namespace Cells

variable {cells : Cells α} {k : List PathPart}

/-- No cell is found of a file exactly when it has none. -/
lemma lookup_eq_none_iff : cells.lookup k = none ↔ k ∉ cells.map Prod.fst := by
  rw [List.lookup_eq_none_iff]
  refine ⟨?_, ?_⟩
  · intro h hk
    obtain ⟨c, hc, rfl⟩ := List.mem_map.1 hk
    exact absurd rfl (bne_iff_ne.1 (h c hc))
  · intro h c hc
    refine bne_iff_ne.2 fun e => h ?_
    rw [e]
    exact List.mem_map_of_mem hc

/-- Where no file has two cells, the table of a file is the one in its cell. -/
lemma table?_eq_some_iff (distinct : (cells.map Prod.fst).Nodup) {t : SharedTable α} :
    cells.table? k = some t ↔ (k, some t) ∈ cells := by
  rw [table?, Option.join_eq_some_iff]
  refine ⟨?_, ?_⟩
  · intro h
    obtain ⟨before, after, rfl, -⟩ := List.lookup_eq_some_iff.1 h
    exact List.mem_append_right _ (List.mem_cons_self ..)
  · intro h
    cases found : cells.lookup k with
    | none => exact absurd (List.mem_map_of_mem h) (lookup_eq_none_iff.1 found)
    | some c =>
      obtain ⟨before, after, split, -⟩ := List.lookup_eq_some_iff.1 found
      have hc : (k, c) ∈ cells := by
        rw [split]
        exact List.mem_append_right _ (List.mem_cons_self ..)
      have same := List.inj_on_of_nodup_map distinct h hc rfl
      rw [(Prod.mk.inj same).2]

/-- A file that has a cell is given no other. -/
lemma ensure_of_mem (h : k ∈ cells.map Prod.fst) : cells.ensure k = cells := by
  rw [ensure, if_pos]
  rw [Option.isSome_iff_ne_none, Ne, lookup_eq_none_iff, not_not]
  exact h

/-- A file without a cell is given an empty one behind the others. -/
lemma ensure_of_notMem (h : k ∉ cells.map Prod.fst) : cells.ensure k = cells ++ [(k, none)] := by
  rw [ensure, lookup_eq_none_iff.2 h, if_neg (by simp)]

/-- A cell that was just made is filled in its place. -/
lemma fill_append (h : k ∉ cells.map Prod.fst) (t : SharedTable α) :
    fill k t (cells ++ [(k, none)]) = cells ++ [(k, some t)] := by
  induction cells with
  | nil => simp [fill]
  | cons c rest ih =>
    rw [List.map_cons, List.mem_cons, not_or] at h
    rw [List.cons_append, fill, if_neg (Ne.symm h.1), ih h.2, List.cons_append]

/-- Taking away a cell that was just made leaves the cells as they were. -/
lemma discard_append (h : k ∉ cells.map Prod.fst) : discard k (cells ++ [(k, none)]) = cells := by
  induction cells with
  | nil => simp [discard]
  | cons c rest ih =>
    rw [List.map_cons, List.mem_cons, not_or] at h
    rw [List.cons_append, discard, if_neg (Ne.symm h.1), ih h.2]

/-- A cell that was just made has no table. -/
lemma table?_append (h : k ∉ cells.map Prod.fst) : table? (cells ++ [(k, none)]) k = none := by
  rw [table?, List.lookup_append, lookup_eq_none_iff.2 h]
  simp

end Cells

namespace TableStore

/-! ## Between calls -/

/-- What holds of a store between two calls. -/
structure WellFormed (s : TableStore α) : Prop where
  distinct : (s.cells.map Prod.fst).Nodup
  filled : ∀ c ∈ s.cells, c.2.isSome
  numbered : ∀ k t, (k, some t) ∈ s.cells → t.serial < s.made
  separate : ∀ k t k' t', (k, some t) ∈ s.cells → (k', some t') ∈ s.cells → t.serial = t'.serial → k = k'

/-- The store with the table of one more file. -/
def withTable (s : TableStore α) (k : List PathPart) (table : Table α) : TableStore α :=
  { s with cells := s.cells ++ [(k, some ⟨s.made, table⟩)], made := s.made + 1 }

variable {s : TableStore α}

/-- A file has at most one table. -/
lemma WellFormed.eq_of_mem (w : s.WellFormed) {k : List PathPart} {t t' : SharedTable α}
    (h : (k, some t) ∈ s.cells) (h' : (k, some t') ∈ s.cells) : t = t' := by
  have same := List.inj_on_of_nodup_map w.distinct h h' rfl
  exact Option.some.inj (Prod.mk.inj same).2

/-- Every cell counts, for between two calls none is empty. -/
lemma WellFormed.size_eq (w : s.WellFormed) : s.size = s.cells.length := by
  rw [size, List.countP_eq_length]
  exact w.filled

/-- A table of a new file keeps what holds of a store. -/
lemma WellFormed.withTable (w : s.WellFormed) {k : List PathPart} (fresh : k ∉ s.cells.map Prod.fst)
    (table : Table α) : (s.withTable k table).WellFormed := by
  have mem : ∀ {j t}, (j, some t) ∈ (s.withTable k table).cells ↔
      (j, some t) ∈ s.cells ∨ (j = k ∧ t = ⟨s.made, table⟩) := by
    simp [TableStore.withTable]
  refine ⟨?_, ?_, ?_, ?_⟩
  · rw [TableStore.withTable, List.map_append, List.map_singleton, ← List.concat_eq_append]
    exact w.distinct.concat fresh
  · intro c hc
    rcases List.mem_append.1 hc with hc | hc
    · exact w.filled c hc
    · rw [List.mem_singleton.1 hc]
      rfl
  · intro j t h
    rcases mem.1 h with old | ⟨-, rfl⟩
    · exact (w.numbered j t old).trans (Nat.lt_succ_self _)
    · exact Nat.lt_succ_self _
  · intro j t j' t' h h' same
    rcases mem.1 h with old | ⟨rfl, rfl⟩
    · rcases mem.1 h' with old' | ⟨rfl, rfl⟩
      · exact w.separate j t j' t' old old' same
      · exact absurd same (w.numbered j t old).ne
    · rcases mem.1 h' with old' | ⟨rfl, rfl⟩
      · exact absurd same.symm (w.numbered j' t' old').ne
      · rfl

/-! ## Files that are read -/

section

variable [Sample α]

/-- What comes of reading a file of the given name: an error when it cannot be opened, is larger
than the limit, or its content cannot be read, and otherwise what its content is parsed to. -/
inductive FirstRead (units : Float) (limit memory : Nat) (files : FileSystem) (name : String) :
    Except TableFileError (Table α) → Prop where
  | unopened {reason : String} (opened : files.openFile name = .error reason) :
      FirstRead units limit memory files name (.error (.io name reason))
  | oversized {file : OpenFile} (opened : files.openFile name = .ok file) (large : limit < file.size) :
      FirstRead units limit memory files name (.error (.oversized name file.size limit))
  | unread {file : OpenFile} {reason : String} (opened : files.openFile name = .ok file) (small : file.size ≤ limit)
      (content : file.content = .error reason) : FirstRead units limit memory files name (.error (.io name reason))
  | parsed {file : OpenFile} {bytes : ByteArray} (opened : files.openFile name = .ok file) (small : file.size ≤ limit)
      (content : file.content = .ok bytes) :
      FirstRead units limit memory files name (TableFile.read name units limit bytes memory)

/-- A file that is loaded is opened, measured, read and parsed. -/
lemma firstRead_load (s : TableStore α) (files : FileSystem) (name : String) :
    FirstRead s.units s.limit s.memory files name (s.load files name) := by
  unfold load
  split
  · rename_i reason opened
    exact .unopened opened
  · rename_i file opened
    split
    · rename_i large
      exact .oversized opened large
    · rename_i small
      split
      · rename_i reason content
        exact .unread opened (Nat.not_lt.1 small) content
      · rename_i bytes content
        exact .parsed opened (Nat.not_lt.1 small) content

/-- A file that is opened, keeps to the limit and has a content is parsed. -/
lemma FirstRead.eq_read {units : Float} {limit memory : Nat} {files : FileSystem} {name : String}
    {r : Except TableFileError (Table α)} (h : FirstRead units limit memory files name r) {file : OpenFile}
    {bytes : ByteArray} (opened : files.openFile name = .ok file) (small : file.size ≤ limit)
    (content : file.content = .ok bytes) : r = TableFile.read name units limit bytes memory := by
  cases h with
  | unopened refused => cases opened.symm.trans refused
  | oversized found large =>
    cases opened.symm.trans found
    exact absurd large (Nat.not_lt.2 small)
  | unread found _ missing =>
    cases opened.symm.trans found
    cases content.symm.trans missing
  | parsed found _ held =>
    cases opened.symm.trans found
    cases content.symm.trans held
    rfl

end

/-! ## Calls -/

/-- A call on a store. Every call finds the files as they are at its time. -/
inductive Call where
  | get (files : FileSystem) (path : String)
  | contains (files : FileSystem) (path : String)
  | size

variable [Sample α]

/-- The store after a call. Looking at it changes nothing. -/
def apply (s : TableStore α) : Call → TableStore α
  | .get files path => (s.get files path).2
  | .contains .. | .size => s

/-- The store after some calls in order. -/
def replay (s : TableStore α) (calls : List Call) : TableStore α :=
  calls.foldl apply s

/-- The last call of a sequence is made on the store that the others leave. -/
@[simp] lemma replay_snoc (s : TableStore α) (calls : List Call) (c : Call) :
    s.replay (calls ++ [c]) = (s.replay calls).apply c := by
  simp [replay]

/-- One of the calls read a file that is known by `k`, or found it read before, and gave the
table. -/
def Gave (s : TableStore α) (calls : List Call) (k : List PathPart) (t : SharedTable α) : Prop :=
  ∃ before files path after, calls = before ++ .get files path :: after ∧ key files path = k ∧
    ((s.replay before).get files path).1 = .ok t

/-- Before the first call nothing was given. -/
lemma not_gave_nil {s : TableStore α} {k : List PathPart} {t : SharedTable α} : ¬ s.Gave [] k t := by
  intro h
  obtain ⟨before, _, _, _, split, -⟩ := h
  cases before <;> cases split

/-- What one more call adds to what was given. -/
lemma gave_snoc {s : TableStore α} {calls : List Call} {c : Call} {k : List PathPart} {t : SharedTable α} :
    s.Gave (calls ++ [c]) k t ↔ s.Gave calls k t ∨
      ∃ files path, c = .get files path ∧ key files path = k ∧
        ((s.replay calls).get files path).1 = .ok t := by
  refine ⟨?_, ?_⟩
  · intro h
    obtain ⟨before, files, path, after, split, hk, ht⟩ := h
    rcases List.eq_nil_or_concat after with rfl | ⟨after', c', rfl⟩
    · obtain ⟨rfl, last⟩ := List.append_inj' split rfl
      exact .inr ⟨files, path, (List.cons.inj last).1, hk, ht⟩
    · rw [List.concat_eq_append, ← List.cons_append, ← List.append_assoc] at split
      obtain ⟨rfl, -⟩ := List.append_inj' split rfl
      exact .inl ⟨before, files, path, after', rfl, hk, ht⟩
  · intro h
    rcases h with ⟨before, files, path, after, rfl, hk, ht⟩ | ⟨files, path, rfl, hk, ht⟩
    · exact ⟨before, files, path, after ++ [c], by simp, hk, ht⟩
    · exact ⟨calls, files, path, [], rfl, hk, ht⟩

/-! ## One call -/

/-- A file whose table is kept has that table, and nothing changes. -/
lemma WellFormed.get_of_mem (w : s.WellFormed) {files : FileSystem} {path : String} {t : SharedTable α}
    (h : (key files path, some t) ∈ s.cells) : s.get files path = (.ok t, s) := by
  simp only [get, Cells.ensure_of_mem (List.mem_map_of_mem h), (Cells.table?_eq_some_iff w.distinct).2 h]

/-- Between calls a file is asked for with one of three outcomes: its table is kept, it cannot be
read and the store is as before, or it is read and its table comes last. -/
lemma WellFormed.get_cases (w : s.WellFormed) (files : FileSystem) (path : String) :
    (∃ t, (key files path, some t) ∈ s.cells ∧ s.get files path = (.ok t, s)) ∨
    (key files path ∉ s.cells.map Prod.fst ∧
      ((∃ e, s.load files (directPath files path) = .error e ∧ s.get files path = (.error e, s)) ∨
      ∃ table, s.load files (directPath files path) = .ok table ∧
        s.get files path = (.ok ⟨s.made, table⟩, s.withTable (key files path) table))) := by
  by_cases known : key files path ∈ s.cells.map Prod.fst
  · obtain ⟨⟨k, cell⟩, hc, rfl⟩ := List.mem_map.1 known
    obtain ⟨t, rfl⟩ := Option.isSome_iff_exists.1 (w.filled _ hc)
    exact .inl ⟨t, hc, w.get_of_mem hc⟩
  · refine .inr ⟨known, ?_⟩
    -- The empty cell is made behind all others, so only the end of the list changes.
    have made : s.cells.ensure (key files path) = s.cells ++ [(key files path, none)] :=
      Cells.ensure_of_notMem known
    have reads : ∀ cells, ({ s with cells } : TableStore α).load = s.load := fun _ => rfl
    cases read : s.load files (directPath files path) with
    | error e =>
      refine .inl ⟨e, rfl, ?_⟩
      simp only [get, made, Cells.table?_append known, reads, read, Cells.discard_append known]
    | ok table =>
      refine .inr ⟨table, rfl, ?_⟩
      simp only [get, made, Cells.table?_append known, reads, read, Cells.fill_append known,
        TableStore.withTable]

/-- Every call keeps what holds of a store. -/
lemma WellFormed.apply (w : s.WellFormed) (c : Call) : (s.apply c).WellFormed := by
  cases c with
  | get files path =>
    rw [TableStore.apply]
    rcases w.get_cases files path with ⟨_, _, h⟩ | ⟨fresh, ⟨_, _, h⟩ | ⟨table, _, h⟩⟩
    · rwa [h]
    · rwa [h]
    · rw [h]
      exact w.withTable fresh table
  | contains => exact w
  | size => exact w

/-- A call adds the table that it gives to the cells, unless it is there, and nothing else. -/
lemma WellFormed.mem_cells_apply_iff (w : s.WellFormed) {c : Call} {k : List PathPart} {t : SharedTable α} :
    (k, some t) ∈ (s.apply c).cells ↔ (k, some t) ∈ s.cells ∨
      ∃ files path, c = .get files path ∧ key files path = k ∧ (s.get files path).1 = .ok t := by
  cases c with
  | get files path =>
    have only : (∃ files' path', Call.get files path = .get files' path' ∧ key files' path' = k ∧
        (s.get files' path').1 = .ok t) ↔ key files path = k ∧ (s.get files path).1 = .ok t := by
      refine ⟨?_, fun h => ⟨files, path, rfl, h⟩⟩
      intro h
      obtain ⟨_, _, same, h⟩ := h
      cases same
      exact h
    rw [only, TableStore.apply]
    rcases w.get_cases files path with ⟨t', mem, h⟩ | ⟨-, ⟨e, -, h⟩ | ⟨table, -, h⟩⟩
    · rw [h]
      refine ⟨.inl, ?_⟩
      intro given
      rcases given with old | ⟨rfl, same⟩
      · exact old
      · cases same
        exact mem
    · simp [h]
    · simp only [h, TableStore.withTable, List.mem_append, List.mem_singleton, Prod.mk.injEq,
        Option.some.injEq, Except.ok.injEq]
      rw [@eq_comm _ k, @eq_comm _ t]
  | contains => simp [TableStore.apply]
  | size => simp [TableStore.apply]

/-- No call changes how a file is loaded. -/
lemma WellFormed.load_apply (w : s.WellFormed) (c : Call) : (s.apply c).load = s.load := by
  cases c with
  | get files path =>
    rw [TableStore.apply]
    rcases w.get_cases files path with ⟨_, _, h⟩ | ⟨_, ⟨_, _, h⟩ | ⟨_, _, h⟩⟩
    · rw [h]
    · rw [h]
    · rw [h]
      rfl
  | contains => rfl
  | size => rfl

/-! ## Any calls -/

/-- The store that has read nothing. -/
def ofSettings (units : Float) (limit memory : Nat) : TableStore α :=
  { units, limit, memory }

section

variable (units : Float) (limit memory : Nat) (calls : List Call)

/-- Between any two calls a store is well-formed. -/
lemma wellFormed_replay : ((ofSettings units limit memory : TableStore α).replay calls).WellFormed := by
  induction calls using List.reverseRecOn with
  | nil => exact ⟨.nil, nofun, nofun, nofun⟩
  | append_singleton calls c ih =>
    rw [replay_snoc]
    exact ih.apply c

/-- The cells hold exactly what was given. -/
lemma mem_cells_replay_iff {k : List PathPart} {t : SharedTable α} :
    (k, some t) ∈ ((ofSettings units limit memory : TableStore α).replay calls).cells ↔
      (ofSettings units limit memory).Gave calls k t := by
  induction calls using List.reverseRecOn with
  | nil => exact ⟨nofun, fun h => absurd h not_gave_nil⟩
  | append_singleton calls c ih =>
    rw [replay_snoc, (wellFormed_replay units limit memory calls).mem_cells_apply_iff, gave_snoc, ih]

/-- After any calls a file is loaded as in the beginning. -/
lemma load_replay : ((ofSettings units limit memory : TableStore α).replay calls).load =
    (ofSettings units limit memory : TableStore α).load := by
  induction calls using List.reverseRecOn with
  | nil => rfl
  | append_singleton calls c ih =>
    rw [replay_snoc, ← ih]
    exact (wellFormed_replay units limit memory calls).load_apply c

end

/-- After any calls, with any files at each of them: a file whose table was given before has that
same table, and the store stays as it is. Another file is opened and parsed as it is now, and what
is parsed is an object of its own. A failure leaves the store as it is. The files that are kept, and
their number, are those that a table was given for. -/
theorem replay_get_unique (units : Float) (limit memory : Nat) (calls : List Call) :
    let start : TableStore α := ofSettings units limit memory
    let s := start.replay calls
    (∀ files path t, start.Gave calls (key files path) t → s.get files path = (.ok t, s)) ∧
    (∀ files path, (¬ ∃ t, start.Gave calls (key files path) t) →
      FirstRead units limit memory files (directPath files path) ((s.get files path).1.map SharedTable.table) ∧
      ∀ t, (s.get files path).1 = .ok t → ∀ k t', start.Gave calls k t' → t'.serial ≠ t.serial) ∧
    (∀ k t k' t', start.Gave calls k t → start.Gave calls k' t' → (t.serial = t'.serial ↔ k = k')) ∧
    (∀ files path e, (s.get files path).1 = .error e → (s.get files path).2 = s) ∧
    (∀ files path, s.contains files path ↔ ∃ t, start.Gave calls (key files path) t) ∧
    {k | ∃ t, start.Gave calls k t}.encard = s.size := by
  intro start s
  have w : s.WellFormed := wellFormed_replay units limit memory calls
  -- What was given is what the cells hold, so every part below is a fact about the store as it
  -- stands.
  have kept : ∀ {k t}, (k, some t) ∈ s.cells ↔ start.Gave calls k t := mem_cells_replay_iff ..
  have reads : s.load = start.load := load_replay ..
  have keys : ∀ k, k ∈ s.cells.map Prod.fst ↔ ∃ t, start.Gave calls k t := by
    intro k
    refine ⟨?_, ?_⟩
    · intro h
      obtain ⟨⟨k, cell⟩, hc, rfl⟩ := List.mem_map.1 h
      obtain ⟨t, rfl⟩ := Option.isSome_iff_exists.1 (w.filled _ hc)
      exact ⟨t, kept.1 hc⟩
    · intro h
      obtain ⟨t, ht⟩ := h
      exact List.mem_map_of_mem (kept.2 ht)
  refine ⟨?_, ?_, ?_, ?_, ?_, ?_⟩
  · intro files path t given
    exact w.get_of_mem (kept.2 given)
  · intro files path never
    -- No cell has the key, so the file is loaded, in the way that was fixed when the store was
    -- made.
    have read : FirstRead units limit memory files (directPath files path) (s.load files (directPath files path)) :=
      reads ▸ firstRead_load start files (directPath files path)
    rcases w.get_cases files path with ⟨t, mem, -⟩ | ⟨-, ⟨e, loaded, h⟩ | ⟨table, loaded, h⟩⟩
    · exact absurd ⟨t, kept.1 mem⟩ never
    · rw [loaded] at read
      rw [h]
      exact ⟨read, nofun⟩
    · rw [loaded] at read
      rw [h]
      refine ⟨read, ?_⟩
      intro t made k t' given
      cases made
      exact (w.numbered k t' (kept.2 given)).ne
  · intro k t k' t' given given'
    refine ⟨w.separate k t k' t' (kept.2 given) (kept.2 given'), ?_⟩
    rintro rfl
    rw [w.eq_of_mem (kept.2 given) (kept.2 given')]
  · intro files path e failed
    rcases w.get_cases files path with ⟨_, _, h⟩ | ⟨_, ⟨_, _, h⟩ | ⟨_, _, h⟩⟩
    · rw [h]
    · rw [h]
    · rw [h] at failed
      cases failed
  · intro files path
    rw [contains, Option.isSome_iff_exists]
    simp only [Cells.table?_eq_some_iff w.distinct, kept]
  · have all : {k | ∃ t, start.Gave calls k t} = ((s.cells.map Prod.fst).toFinset : Set (List PathPart)) := by
      ext k
      rw [Set.mem_ofPred_eq, ← keys, Finset.mem_coe, List.mem_toFinset]
    rw [all, Set.encard_coe_eq_coe_finsetCard, List.toFinset_card_of_nodup w.distinct, List.length_map,
      w.size_eq]

/-- A file system at a time when every path leads to one text. -/
def holding (text : String) : FileSystem where
  resolve := some
  openFile _ := .ok ⟨text.utf8ByteSize, .ok text.toUTF8⟩
  holds _ := true

/-- The text of a table of one cell. -/
def oneCell (value : String) : String :=
  "one cell\n0 0 0 0 1 0 0 0 300 55 55 0 0 0 0 1 1 1 0\n1 1 1 " ++ value

/-- A file is read, and then all files change. The first keeps its table, and another gets a table
of its own, with the value that is written by now. -/
theorem replay_get_unique_rewritten :
    let start : TableStore Float := ofSettings 1.0 4096 4096
    let s := start.replay [.get (holding (oneCell "0.5")) "first"]
    ∃ t u, (start.get (holding (oneCell "0.5")) "first").1 = .ok t ∧ t.table.get? 0 0 0 = some 0.5 ∧
      s.get (holding (oneCell "2")) "first" = (.ok t, s) ∧
      (s.get (holding (oneCell "2")) "second").1 = .ok u ∧ u.table.get? 0 0 0 = some 2.0 ∧ u.serial ≠ t.serial := by
  intro start s
  have first : (start.get (holding (oneCell "0.5")) "first").1.toOption.map (fun t => t.table.get? 0 0 0) =
      some (some 0.5) := by
    decide +kernel
  have second : (TableFile.read "second" 1.0 4096 (oneCell "2").toUTF8 4096 :
      Except TableFileError (Table Float)).toOption.map (fun t => t.get? 0 0 0) = some (some 2.0) := by
    decide +kernel
  obtain ⟨t, given, half⟩ := toOption_map_eq_some_iff.1 first
  obtain ⟨table, read, two⟩ := toOption_map_eq_some_iff.1 second
  obtain ⟨kept, fresh, -⟩ := replay_get_unique (α := Float) 1.0 4096 4096 [.get (holding (oneCell "0.5")) "first"]
  have gave : start.Gave [.get (holding (oneCell "0.5")) "first"] (key (holding (oneCell "2")) "first") t :=
    ⟨[], _, _, [], rfl, rfl, given⟩
  have never : ¬ ∃ t, start.Gave [.get (holding (oneCell "0.5")) "first"] (key (holding (oneCell "2")) "second") t := by
    rintro ⟨t', h⟩
    have last : start.Gave ([] ++ [.get (holding (oneCell "0.5")) "first"]) _ t' := h
    rcases gave_snoc.1 last with given' | ⟨files, path, same, known, -⟩
    · exact not_gave_nil given'
    · cases same
      exact absurd known (by decide)
  obtain ⟨parsed, apart⟩ := fresh (holding (oneCell "2")) "second" never
  have now : (s.get (holding (oneCell "2")) "second").1.map SharedTable.table = .ok table :=
    (parsed.eq_read rfl (by decide) rfl).trans read
  cases made : (s.get (holding (oneCell "2")) "second").1 with
  | error e =>
    rw [made] at now
    cases now
  | ok u =>
    rw [made] at now
    cases now
    exact ⟨t, u, given, half, kept _ _ _ gave, rfl, two, (apart u made _ t gave).symm⟩

end TableStore

end SensorSim.Field
