import Mathlib.Algebra.BigOperators.Group.List.Basic
import Mathlib.Algebra.GroupWithZero.Nat
import Mathlib.Algebra.Order.BigOperators.Group.List
import Mathlib.Algebra.Order.Group.Nat
import SqlCompose.Proofs.Stmt.Rows

/-! # How many groups a statement leaves

Groups come from the rows of batches only, wherever these stand in a statement, and all of them go
into one list.  Their number is found by adding up the rows of the batches that are written.

Main statement: a statement that is written leaves as many groups as there are rows in the batches
written in it (`Stmt.adds_write`).
-/

namespace SqlCompose

namespace Rendering

/-- If the action succeeds, it has added so many groups. -/
def Adds (r : Rendering Unit) (n : Nat) : Prop :=
  ∀ w w', r w = .ok () w' → w'.groups.length = w.groups.length + n

/-- The groups of two actions add up. -/
theorem Adds.bind {r next : Rendering Unit} {m n : Nat} (hr : Adds r m) (hnext : Adds next n) :
    Adds (do r; next) (m + n) := by
  intro w w' h
  obtain ⟨_, v, hv, hw⟩ := bind_eq_ok.1 h
  have first : v.groups.length = w.groups.length + m := hr w v hv
  have second : w'.groups.length = v.groups.length + n := hnext v w' hw
  omega

/-- What never succeeds may be said to add any number. -/
theorem Adds.throw (e : SqlError) (n : Nat) : Adds (throw e) n := by
  intro w w' h
  cases h

/-- An action that leaves the groups as they are. -/
theorem Adds.zero {r : Rendering Unit} (h : ∀ w w', r w = .ok () w' → w'.groups = w.groups) :
    Adds r 0 := by
  intro w w' hw
  rw [h w w' hw, Nat.add_zero]

theorem Adds.pure : Adds (pure ()) 0 := by
  apply Adds.zero
  intro w w' h
  cases h
  rfl

/-- Text is no group. -/
theorem adds_put (text : String) : Adds (put text) 0 := by
  apply Adds.zero
  intro w w' h
  cases h
  rfl

/-- Values that are bound are flat arguments. -/
theorem adds_bindAll (values : List Value) : Adds (bindAll values) 0 := by
  apply Adds.zero
  intro w w' h
  cases h
  rfl

/-- The values of a condition are flat arguments. -/
theorem adds_cond (c : Cond) : Adds (modify c.write) 0 := by
  apply Adds.zero
  intro w w' h
  -- the new writer is the old one with the tokens of the condition in it
  have hw : w' = c.write w := by
    cases h
    rfl
  rw [hw, c.write_eq 0 w]
  rfl

/-- The groups of a step and of those behind it add up. -/
theorem Adds.inOrder_cons {r : Rendering Unit} {rs : List (Rendering Unit)} {m n : Nat}
    (hr : Adds r m) (hrest : Adds (inOrder rs) n) : Adds (inOrder (r :: rs)) (m + n) := by
  cases rs with
  | nil =>
    -- the last step stands without a step behind it, and no steps add no groups
    intro w w' h
    have first : w'.groups.length = w.groups.length + m := hr w w' h
    have rest : w'.groups.length = w'.groups.length + n := hrest w' w' rfl
    omega
  | cons next rest => exact hr.bind hrest

/-- A step that adds no groups, in front of others. -/
theorem Adds.behind_zero {r : Rendering Unit} {rs : List (Rendering Unit)} {n : Nat}
    (hrest : Adds (inOrder rs) n) (hr : Adds r 0) : Adds (inOrder (r :: rs)) n := by
  have h := hr.inOrder_cons hrest
  rw [Nat.zero_add] at h
  exact h

/-- A step in front of others that add no groups. -/
theorem Adds.before_zero {r : Rendering Unit} {rs : List (Rendering Unit)} {n : Nat}
    (hr : Adds r n) (hrest : Adds (inOrder rs) 0) : Adds (inOrder (r :: rs)) n :=
  hr.inOrder_cons hrest

/-- The groups of actions with commas between add up. -/
theorem Adds.separated {rs : List (Rendering Unit)} {ns : List Nat}
    (h : List.Forall₂ Adds rs ns) : Adds (separated "," rs) ns.sum := by
  induction h with
  | nil => exact .pure
  | @cons r n rs ns hr hrest ih =>
    rw [List.sum_cons]
    -- a comma stands between two actions, and none behind the last
    cases hrest with
    | nil => exact hr
    | cons _ _ =>
      have tail := (adds_put ",").bind ih
      rw [Nat.zero_add] at tail
      exact hr.bind tail

/-- Parentheses add no groups. -/
theorem Adds.parenthesised {r : Rendering Unit} {n : Nat} (h : Adds r n) :
    Adds (parenthesised r) n := by
  have whole := (adds_put "(").bind (h.bind (adds_put ")"))
  rw [Nat.zero_add, Nat.add_zero] at whole
  exact whole

/-- A clause for a condition adds no groups. -/
theorem adds_clause (keyword : String) (c : Cond) : Adds (clause keyword c) 0 := by
  unfold clause
  split
  · exact (adds_put keyword).bind (adds_cond c)
  · exact .pure

theorem adds_textClause (keyword text : String) : Adds (textClause keyword text) 0 := by
  unfold textClause
  split
  · exact .pure
  · exact adds_put _

theorem adds_aliasClause (alias? : Option String) : Adds (aliasClause alias?) 0 := by
  cases alias? with
  | none => exact .pure
  | some name => exact adds_put _

/-! ## Rows -/

/-- The groups that rows leave: one each, and those from inside them. -/
theorem length_rowGroups {columns : Nat} {template : String} {rs : List (List (Rendering Unit))}
    {ns : List Nat} {vs : List Writer} (h : List.Forall₂ (fun r n => Adds (row r) n) rs ns)
    (written : List.Forall₂ (WritesRow columns template) rs vs) :
    (rowGroups vs).length = rs.length + ns.sum := by
  induction h generalizing vs with
  | nil =>
    cases written
    rfl
  | @cons r n rs ns hr hrest ih =>
    cases written with
    | @cons _ v _ vs hv hvs =>
      have inside : v.groups.length = ({} : Writer).groups.length + n := hr {} v hv.2.1
      have others : (rowGroups vs).length = rs.length + ns.sum := ih hvs
      rw [rowGroups, List.flatMap_cons, List.length_append, List.length_append,
        List.length_singleton, inside, List.length_cons, List.sum_cons, List.length_nil]
      -- the row's own group stands behind those from inside it
      show 0 + n + 1 + (rowGroups vs).length = _
      omega

/-- Several rows add a group each, and what is added inside them. -/
theorem adds_rows {columns : Nat} {rs : List (List (Rendering Unit))} {ns : List Nat}
    (appendOnly : ∀ r ∈ rs, AppendOnly (row r)) (h : List.Forall₂ (fun r n => Adds (row r) n) rs ns)
    (several : 2 ≤ rs.length) : Adds (rows columns rs) (rs.length + ns.sum) := by
  match rs with
  | first :: next :: rest =>
    intro w w' hw
    -- the rows that were written leave a writer each, with what was added inside it
    obtain ⟨template, vs, written, rfl⟩ := (rows_eq_ok columns appendOnly w w').1 hw
    rw [Writer.groups_append, List.length_append, length_rowGroups h written]

end Rendering

/-! ## The kinds of statements -/

namespace Clauses

open Rendering

variable (c : Clauses)

theorem adds_writeLimit : Adds c.writeLimit 0 := by
  unfold writeLimit
  split
  · have offset : Adds (if c.offset ≠ 0 then put (" OFFSET " ++ toString c.offset.toInt)
        else pure ()) 0 := by
      split
      · exact adds_put _
      · exact .pure
    exact (adds_put _).bind offset
  · exact .pure

/-- A SELECT adds what its sources add; its own clauses bind flat arguments. -/
theorem adds_writeSelect {sources : List (Rendering Unit)} {ns : List Nat}
    (h : List.Forall₂ Adds sources ns) : Adds (c.writeSelect sources) ns.sum := by
  rw [writeSelect_eq]
  split
  · exact .throw _ _
  · split
    · exact .throw _ _
    · -- behind the sources there are the clauses for conditions, texts and limit
      have tail : Adds (inOrder [clause " WHERE " c.condition, textClause " GROUP BY " c.grouping,
          clause " HAVING " c.having, textClause " ORDER BY " c.ordering, c.writeLimit]) 0 := by
        refine Adds.behind_zero ?_ (adds_clause _ _)
        refine Adds.behind_zero ?_ (adds_textClause _ _)
        refine Adds.behind_zero ?_ (adds_clause _ _)
        refine Adds.behind_zero ?_ (adds_textClause _ _)
        exact c.adds_writeLimit
      refine Adds.behind_zero ?_ (adds_put _)
      refine Adds.behind_zero ?_ (adds_put _)
      refine Adds.behind_zero ?_ (adds_put _)
      exact (Adds.separated h).before_zero tail

/-- A DELETE adds what its first source adds. -/
theorem adds_writeDelete {table : Rendering Unit} {n : Nat} (h : Adds table n)
    (rest : List (Rendering Unit)) : Adds (c.writeDelete (table :: rest)) n := by
  rw [writeDelete_eq]
  refine Adds.behind_zero ?_ (adds_put _)
  apply h.before_zero
  exact adds_clause _ _

/-- An UPDATE adds what its first source and its assigned operands add. -/
theorem adds_writeUpdate {table : Rendering Unit} {n : Nat} (h : Adds table n)
    (rest : List (Rendering Unit)) {assignments : List (Rendering Unit)} {ns : List Nat}
    (assigned : List.Forall₂ Adds assignments ns) :
    Adds (c.writeUpdate (table :: rest) assignments) (n + ns.sum) := by
  rw [writeUpdate_eq]
  dsimp only
  split
  · exact .throw _ _
  · have items : Adds (inOrder [separated "," assignments, clause " WHERE " c.condition])
        ns.sum := by
      apply (Adds.separated assigned).before_zero
      exact adds_clause _ _
    refine Adds.behind_zero ?_ (adds_put _)
    apply h.inOrder_cons
    exact Adds.behind_zero items (adds_put _)

/-- An INSERT of what a SELECT finds adds what that adds. -/
theorem adds_insertSelectSteps {selected : Rendering Unit} {n : Nat} (h : Adds selected n) :
    Adds (inOrder [put ("INSERT INTO " ++ c.target),
      if c.insertColumns.isEmpty then put " " else c.writeColumns " " " ", selected]) n := by
  have columns :
      Adds (if c.insertColumns.isEmpty then put " " else c.writeColumns " " " ") 0 := by
    split
    · exact adds_put _
    · exact adds_put _
  refine Adds.behind_zero ?_ (adds_put _)
  exact Adds.behind_zero h columns

/-- Around its rows an INSERT writes text only. -/
theorem adds_insertRowSteps {values : List (List (Rendering Unit))} {n : Nat}
    (h : Adds (rows c.insertColumns.length values) n) :
    Adds (inOrder (c.insertRowSteps values)) n := by
  refine Adds.behind_zero ?_ (adds_put _)
  refine Adds.behind_zero ?_ (adds_put _)
  apply h.before_zero
  exact adds_put _

end Clauses

/-! ## Statements -/

namespace Stmt

open Rendering

instance (s : Stmt) : Decidable s.WritesRows :=
  inferInstanceAs (Decidable (_ ∧ _))

instance (s : Stmt) : Decidable s.IsBatch :=
  inferInstanceAs (Decidable (_ ∧ _))

/-- The groups that a statement leaves for rows of its own. -/
def ownGroups (s : Stmt) : Nat :=
  if s.IsBatch then s.rows.length else 0

/-- The rows of the batches that are written in a statement. -/
def groupCount (s : Stmt) : Nat :=
  (s.written.map ownGroups).sum

/-- The groups of a statement are its own and those of the parts that are written. -/
theorem groupCount_eq (s : Stmt) :
    s.groupCount = s.ownGroups + (s.writtenParts.map groupCount).sum := by
  rw [groupCount, written_eq, List.map_cons, List.sum_cons, List.flatMap_def, List.map_flatten,
    List.sum_flatten, List.map_map, List.map_map]
  rfl

/-- The groups that what may be a part leaves. -/
def countOf (t? : Option Stmt) : Nat :=
  (t?.map groupCount).getD 0

/-- Adding up over the parts is adding up over what may have a part. -/
theorem sum_countOf {α : Type} (part? : α → Option Stmt) (xs : List α) :
    ((xs.filterMap part?).map groupCount).sum = (xs.map fun x => countOf (part? x)).sum := by
  induction xs with
  | nil => rfl
  | cons x xs ih =>
    rw [List.map_cons, List.sum_cons, ← ih, List.filterMap_cons]
    -- what has no part counts nothing
    cases part? x with
    | none => simp [countOf]
    | some t => simp [countOf]

/-- An operand adds what the sub-statement adds that it may be. -/
theorem adds_operand {o : Operand} (part : ∀ t, o.stmt? = some t → Adds t.write t.groupCount) :
    Adds o.write (countOf o.stmt?) := by
  cases o with
  | value v =>
    rw [Operand.write]
    exact (adds_put _).bind (adds_bindAll _)
  | expr e =>
    rw [Operand.write]
    exact (adds_put _).bind (adds_bindAll _)
  | stmt s =>
    rw [Operand.write]
    exact (part s rfl).parenthesised

/-- A source adds what the sub-statement adds that it may be. -/
theorem adds_source {source : Source}
    (part : ∀ t, source.stmt? = some t → Adds t.write t.groupCount) :
    Adds source.write (countOf source.stmt?) := by
  cases source with
  | table name alias? =>
    rw [Source.write]
    exact (adds_put _).bind (adds_aliasClause _)
  | stmt s alias? =>
    rw [Source.write]
    exact (part s rfl).parenthesised.bind (adds_aliasClause _)

theorem adds_assignment {a : Assignment} {n : Nat} (operand : Adds a.operand.write n) :
    Adds a.write n := by
  obtain ⟨column, o⟩ := a
  have whole := (adds_put (column ++ " = ")).bind operand
  rw [Nat.zero_add] at whole
  rw [Assignment.write]
  exact whole

variable {s : Stmt}

/-- The sources add, one by one, what their sub-statements add. -/
theorem adds_sources (part : ∀ t ∈ s.sourceParts, Adds t.write t.groupCount) :
    List.Forall₂ Adds (s.sources.map Source.write)
      (s.sources.map fun source => countOf source.stmt?) := by
  rw [List.forall₂_map_left_iff, List.forall₂_map_right_iff, List.forall₂_same]
  intro source hsource
  apply adds_source
  intro t ht
  exact part t (List.mem_filterMap.2 ⟨source, hsource, ht⟩)

/-- The first source adds what the parts add that a DELETE or an UPDATE writes of the sources. -/
theorem adds_table {source : Source} {rest : List Source} (hsources : s.sources = source :: rest)
    (part : ∀ t ∈ s.tableParts, Adds t.write t.groupCount) :
    Adds source.write (s.tableParts.map groupCount).sum := by
  have count : (s.tableParts.map groupCount).sum = countOf source.stmt? := by
    rw [tableParts, hsources, sum_countOf]
    exact Nat.add_zero _
  rw [count]
  apply adds_source
  intro t ht
  apply part t
  rw [tableParts, hsources]
  exact List.mem_filterMap.2 ⟨source, List.mem_cons_self, ht⟩

/-- The assignments add, one by one, what their sub-statements add. -/
theorem adds_assignments (part : ∀ t ∈ s.assignmentParts, Adds t.write t.groupCount) :
    List.Forall₂ Adds (s.assignments.map Assignment.write)
      (s.assignments.map fun a => countOf a.operand.stmt?) := by
  rw [List.forall₂_map_left_iff, List.forall₂_map_right_iff, List.forall₂_same]
  intro a ha
  apply adds_assignment
  apply adds_operand
  intro t ht
  exact part t (List.mem_filterMap.2 ⟨a, ha, ht⟩)

/-- A row adds what the sub-statements in it add. -/
theorem adds_row {row : List Operand} (hrow : row ∈ s.rows)
    (part : ∀ t ∈ s.rowParts, Adds t.write t.groupCount) :
    Adds (Rendering.row (row.map Operand.write)) (row.map fun o => countOf o.stmt?).sum := by
  apply Adds.separated
  rw [List.forall₂_map_left_iff, List.forall₂_map_right_iff, List.forall₂_same]
  intro o ho
  apply adds_operand
  intro t ht
  exact part t (mem_rowParts hrow ho ht)

theorem sum_rowParts (s : Stmt) : (s.rowParts.map groupCount).sum
    = (s.rows.map fun row => (row.map fun o => countOf o.stmt?).sum).sum := by
  rw [rowParts, sum_countOf, List.map_flatten, List.sum_flatten, List.map_map]
  rfl

/-- The rows of an INSERT, one or several. -/
theorem adds_insertRows (nonempty : s.rows ≠ [])
    (part : ∀ t ∈ s.rowParts, Adds t.write t.groupCount) :
    Adds (Rendering.rows s.insertColumns.length (s.rows.map fun row => row.map Operand.write))
      ((if 2 ≤ s.rows.length then s.rows.length else 0) + (s.rowParts.map groupCount).sum) := by
  rw [sum_rowParts]
  by_cases several : 2 ≤ s.rows.length
  · have inside : List.Forall₂ (fun r n => Adds (Rendering.row r) n)
        (s.rows.map fun row => row.map Operand.write)
        (s.rows.map fun row => (row.map fun o => countOf o.stmt?).sum) := by
      rw [List.forall₂_map_left_iff, List.forall₂_map_right_iff, List.forall₂_same]
      intro row hrow
      exact adds_row hrow part
    have length : (s.rows.map fun row => row.map Operand.write).length = s.rows.length :=
      List.length_map _
    rw [if_pos several, ← length]
    exact adds_rows (appendOnly_operands s.rows) inside (length ▸ several)
  · -- a single row leaves flat arguments, and only the groups from inside it
    rw [if_neg several, Nat.zero_add]
    match hrows : s.rows with
    | [] => exact absurd hrows nonempty
    | first :: next :: rest =>
      rw [hrows, List.length_cons, List.length_cons] at several
      omega
    | [values] =>
      have hvalues : values ∈ s.rows := by
        rw [hrows]
        exact List.mem_cons_self
      have checked : Adds (checkLength s.insertColumns.length 0 (values.map Operand.write)) 0 := by
        unfold checkLength
        split
        · exact .pure
        · exact .throw _ _
      have whole := checked.bind (adds_row hvalues part)
      rw [Nat.zero_add] at whole
      exact whole

/-- A statement that writes rows of its own, from its parts. -/
theorem adds_writeRows (own : s.WritesRows) (part : ∀ t ∈ s.rowParts, Adds t.write t.groupCount) :
    Adds (s.toClauses.writeInsert (firstIsStmt s.sources) (s.sources.map Source.write)
        (s.rows.map fun row => row.map Operand.write))
      (s.ownGroups + (s.rowParts.map groupCount).sum) := by
  -- one row is no batch
  have count : s.ownGroups = if 2 ≤ s.rows.length then s.rows.length else 0 := by
    simp [ownGroups, IsBatch, own]
  rw [Clauses.writeInsert_eq, own.2, count]
  split
  · exact .throw _ _
  · simp only [List.map_nil, List.isEmpty_nil, Bool.not_true, Bool.false_eq_true, if_false]
    split
    · exact .throw _ _
    · split
      · exact .throw _ _
      · next nonempty =>
        apply Clauses.adds_insertRowSteps
        apply adds_insertRows _ part
        rintro none
        rw [none] at nonempty
        exact nonempty rfl

/-- Without rows of its own, a statement leaves no groups of its own. -/
theorem ownGroups_eq_zero (h : ¬s.WritesRows) : s.ownGroups = 0 :=
  if_neg fun batch => h batch.1

theorem ownGroups_eq_zero_of_kind {kind : StmtKind} (hkind : s.kind = kind) (h : kind ≠ .insert) :
    s.ownGroups = 0 := by
  apply ownGroups_eq_zero
  rintro ⟨isInsert, _⟩
  exact h (hkind.symm.trans isInsert)

/-- An INSERT of what a SELECT finds, from its parts. -/
theorem adds_insertSelect (isInsert : s.kind = .insert) (selects : s.sources ≠ [])
    (part : ∀ t ∈ s.writtenParts, Adds t.write t.groupCount) :
    Adds (s.toClauses.writeInsert (firstIsStmt s.sources) (s.sources.map Source.write)
        (s.rows.map fun row => row.map Operand.write))
      (s.writtenParts.map groupCount).sum := by
  rw [writtenParts_insert isInsert] at part ⊢
  rw [Clauses.writeInsert_eq, Clauses.writeInsertSelect_eq]
  split
  · exact .throw _ _
  · cases hsources : s.sources with
    | nil => exact absurd hsources selects
    | cons source rest =>
      rw [← hsources]
      have some : s.sources.isEmpty = false := by
        rw [hsources]
        rfl
      rw [some, if_neg Bool.false_ne_true] at part ⊢
      -- with a source there, the rows are left aside
      have written : (!(s.sources.map Source.write).isEmpty) = true := by
        rw [hsources]
        rfl
      rw [if_pos written]
      apply s.toClauses.adds_insertSelectSteps
      -- a statement in front is written alone, and other sources make a SELECT
      cases isStmt : firstIsStmt s.sources with
      | true =>
        rw [isStmt, if_pos rfl] at part
        rw [if_pos rfl, hsources]
        exact adds_table hsources part
      | false =>
        rw [isStmt, if_neg Bool.false_ne_true] at part
        rw [if_neg Bool.false_ne_true, sourceParts, sum_countOf]
        exact s.toClauses.adds_writeSelect (adds_sources part)

/-- A statement that is written leaves as many groups as there are rows in the batches in it. -/
theorem adds_write (s : Stmt) : Adds s.write s.groupCount := by
  induction s using induction_on_parts with
  | step s ih =>
    have part : ∀ t ∈ s.writtenParts, Adds t.write t.groupCount := by
      intro t ht
      exact ih t (writtenParts_subset_parts s t ht)
    -- only an INSERT has rows of its own; the other kinds add what their parts add
    rw [write_eq, groupCount_eq]
    unfold Clauses.write
    cases s.refusal with
    | some cause => exact .throw _ _
    | none =>
      dsimp only
      cases hkind : s.kind with
      | raw => exact .throw _ _
      | insert =>
        by_cases own : s.WritesRows
        · rw [own.writtenParts] at part ⊢
          exact adds_writeRows own part
        · have selects : s.sources ≠ [] := fun none => own ⟨hkind, none⟩
          rw [ownGroups_eq_zero own, Nat.zero_add]
          exact adds_insertSelect hkind selects part
      | delete =>
        rw [ownGroups_eq_zero_of_kind hkind (by decide), Nat.zero_add]
        rw [writtenParts_delete hkind] at part ⊢
        cases hsources : s.sources with
        | nil => exact .throw _ _
        | cons source rest =>
          exact s.toClauses.adds_writeDelete (adds_table hsources part) (rest.map Source.write)
      | update =>
        rw [ownGroups_eq_zero_of_kind hkind (by decide), Nat.zero_add]
        rw [writtenParts_update hkind, List.forall_mem_append] at part
        rw [writtenParts_update hkind, List.map_append, List.sum_append]
        obtain ⟨table, assigned⟩ := part
        cases hsources : s.sources with
        | nil => exact .throw _ _
        | cons source rest =>
          have items := adds_assignments assigned
          rw [assignmentParts, sum_countOf]
          exact s.toClauses.adds_writeUpdate (adds_table hsources table) (rest.map Source.write)
            items
      | select =>
        rw [ownGroups_eq_zero_of_kind hkind (by decide), Nat.zero_add]
        rw [writtenParts_select hkind] at part ⊢
        rw [sourceParts, sum_countOf]
        exact s.toClauses.adds_writeSelect (adds_sources part)

/-- Without a batch in a statement there are no groups. -/
theorem groupCount_eq_zero (h : ∀ t ∈ s.written, ¬t.IsBatch) : s.groupCount = 0 := by
  rw [groupCount, List.sum_eq_zero]
  intro n hn
  obtain ⟨t, ht, rfl⟩ := List.mem_map.1 hn
  exact if_neg (h t ht)

/-- Where a batch is written, there are two groups or more. -/
theorem two_le_groupCount {t : Stmt} (ht : t ∈ s.written) (batch : t.IsBatch) :
    2 ≤ s.groupCount := by
  have own : t.ownGroups = t.rows.length := if_pos batch
  have several : 2 ≤ t.rows.length := batch.2
  have counted : t.ownGroups ≤ s.groupCount :=
    List.le_sum_of_mem (List.mem_map.2 ⟨t, ht, rfl⟩)
  omega

end Stmt

end SqlCompose
