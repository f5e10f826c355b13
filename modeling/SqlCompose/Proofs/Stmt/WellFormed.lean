import SqlCompose.Proofs.Stmt.Decision

/-! # Which statements can be written

A statement is complete if it has all that its kind asks for: nothing refused, a source or a table,
something to set, rows that match the columns and share one text.  It is well-formed if it is
complete and so is every statement that is written inside it.

Main statements:

* `Stmt.decided_write`: writing a statement is decided by its well-formedness;
* `Stmt.write_bare`: what the kind of a statement does not write has no influence;
* `Stmt.writable_iff_wellFormed`: both, for a statement behind any writer;
* `Stmt.written_behind`: a statement leaves the same behind every writer, and no mark is lost.
-/

namespace SqlCompose

namespace Stmt

open Rendering

/-- The text of a row, written by itself. -/
def rowText (row : List Operand) : String :=
  textAlone (Rendering.row (rowRendering row))

/-- What a SELECT asks for: a source, and neither a negative limit nor a negative offset. -/
structure Selects (s : Stmt) : Prop where
  source : s.sources ≠ []
  limit : 0 ≤ s.limit
  offset : 0 ≤ s.offset

/-- What an INSERT of rows asks for: columns, and rows with a value for every column and one
text. -/
structure HasRows (s : Stmt) : Prop where
  columns : s.insertColumns ≠ []
  some : s.rows ≠ []
  lengths : ∀ row ∈ s.rows, row.length = s.insertColumns.length
  oneText : ∀ row ∈ s.rows, ∀ other ∈ s.rows, rowText row = rowText other

/-- Nothing is refused, and the statement has what its kind asks for. -/
def Complete (s : Stmt) : Prop :=
  s.refusal = none ∧
    match s.kind with
    | .raw => False
    | .insert =>
      s.target ≠ "" ∧
        if s.sources.isEmpty then s.HasRows else if firstIsStmt s.sources then True else s.Selects
    | .delete => s.sources ≠ []
    | .update => s.sources ≠ [] ∧ s.assignments ≠ []
    | .select => s.Selects

/-- The statement is complete, and so is every statement that is written inside it. -/
def WellFormed (s : Stmt) : Prop :=
  ∀ t ∈ s.written, t.Complete

/-- Well-formedness, in terms of the parts that are written. -/
theorem wellFormed_iff (s : Stmt) :
    s.WellFormed ↔ s.Complete ∧ ∀ t ∈ s.writtenParts, t.WellFormed := by
  unfold WellFormed
  rw [written_eq, List.forall_mem_cons, List.forall_mem_flatMap]

/-- A part, if there is one, is well-formed. -/
def PartFormed (part? : Option Stmt) : Prop :=
  ∀ t, part? = some t → t.WellFormed

/-- Parts are well-formed one by one, or as a list. -/
theorem forall_partFormed {α : Type} (part? : α → Option Stmt) (xs : List α) :
    (∀ x ∈ xs, PartFormed (part? x)) ↔ ∀ t ∈ xs.filterMap part?, t.WellFormed := by
  unfold PartFormed
  constructor
  · intro h t ht
    rcases List.mem_filterMap.1 ht with ⟨x, hx, isPart⟩
    exact h x hx t isPart
  · intro h x hx t isPart
    exact h t (List.mem_filterMap.2 ⟨x, hx, isPart⟩)

theorem allHold_sources (s : Stmt) :
    AllHold (s.sources.map fun source => PartFormed source.stmt?) ↔
      ∀ t ∈ s.sourceParts, t.WellFormed := by
  rw [allHold_map, forall_partFormed, sourceParts]

theorem allHold_table (s : Stmt) :
    AllHold ((s.sources.map fun source => PartFormed source.stmt?).take 1) ↔
      ∀ t ∈ s.tableParts, t.WellFormed := by
  rw [← List.map_take, allHold_map, forall_partFormed, tableParts]

theorem allHold_assignments (s : Stmt) :
    AllHold (s.assignments.map fun a => PartFormed a.operand.stmt?) ↔
      ∀ t ∈ s.assignmentParts, t.WellFormed := by
  rw [allHold_map, forall_partFormed, assignmentParts]

/-- What the steps of a SELECT check is what it asks for. -/
theorem selects_iff (s : Stmt) :
    (s.sources.map Source.write ≠ [] ∧ 0 ≤ s.limit ∧ 0 ≤ s.offset) ↔ s.Selects := by
  constructor
  · rintro ⟨source, limit, offset⟩
    exact ⟨by simpa using source, limit, offset⟩
  · intro h
    exact ⟨by simpa using h.source, h.limit, h.offset⟩

/-- An operand can be written unless it is an ill-formed sub-statement. -/
theorem decided_operand {o : Operand}
    (part : ∀ t, o.stmt? = some t → DecidedBy t.WellFormed t.write) :
    DecidedBy (PartFormed o.stmt?) o.write := by
  cases o with
  | value v =>
    rw [Operand.write]
    exact (DecidedBy.always fun w => ⟨_, rfl⟩).congr (by simp [PartFormed, Operand.stmt?])
  | expr e =>
    rw [Operand.write]
    exact (DecidedBy.always fun w => ⟨_, rfl⟩).congr (by simp [PartFormed, Operand.stmt?])
  | stmt s =>
    rw [Operand.write]
    exact (part s rfl).parenthesised.congr (by simp [PartFormed, Operand.stmt?])

/-- A source can be written unless it is an ill-formed sub-statement. -/
theorem decided_source {source : Source}
    (part : ∀ t, source.stmt? = some t → DecidedBy t.WellFormed t.write) :
    DecidedBy (PartFormed source.stmt?) source.write := by
  cases source with
  | table name alias? =>
    rw [Source.write]
    have written := (decided_aliasClause alias?).behind (decided_put name)
    exact written.congr (by simp [PartFormed, Source.stmt?])
  | stmt s alias? =>
    rw [Source.write]
    have written := (part s rfl).parenthesised.before (decided_aliasClause alias?)
    exact written.congr (by simp [PartFormed, Source.stmt?])

/-- An assignment can be written unless its operand is an ill-formed sub-statement. -/
theorem decided_assignment {a : Assignment}
    (part : ∀ t, a.operand.stmt? = some t → DecidedBy t.WellFormed t.write) :
    DecidedBy (PartFormed a.operand.stmt?) a.write := by
  rcases a with ⟨column, o⟩
  rw [Assignment.write]
  exact (decided_operand part).behind (decided_put _)

section

variable {s : Stmt} (part : ∀ t ∈ s.parts, DecidedBy t.WellFormed t.write)

include part

theorem decided_sources :
    List.Forall₂ DecidedBy (s.sources.map fun source => PartFormed source.stmt?)
      (s.sources.map Source.write) := by
  apply decided_each
  intro source hsource
  apply decided_source
  intro t ht
  exact part t (mem_parts_of_source hsource ht)

theorem decided_assignments :
    List.Forall₂ DecidedBy (s.assignments.map fun a => PartFormed a.operand.stmt?)
      (s.assignments.map Assignment.write) := by
  apply decided_each
  intro a ha
  apply decided_assignment
  intro t ht
  exact part t (mem_parts_of_assignment ha ht)

/-- A row is decided by the parts in it. -/
theorem decided_row {row : List Operand} (hrow : row ∈ s.rows) :
    DecidedBy (∀ o ∈ row, PartFormed o.stmt?) (Rendering.row (rowRendering row)) := by
  have each : List.Forall₂ DecidedBy (row.map fun o => PartFormed o.stmt?)
      (row.map Operand.write) := by
    apply decided_each
    intro o ho
    apply decided_operand
    intro t ht
    exact part t (mem_parts_of_row hrow ho ht)
  exact (DecidedBy.separated each).congr (allHold_map _ _)

/-- An INSERT has what it asks for, as far as rows go, and well-formed parts in them. -/
theorem hasRows_iff :
    (s.insertColumns ≠ [] ∧ s.rows.map rowRendering ≠ [] ∧
        RowsMatch s.insertColumns.length (s.rows.map rowRendering)) ↔
      s.HasRows ∧ ∀ t ∈ s.rowParts, t.WellFormed := by
  have parts : (∀ t ∈ s.rowParts, t.WellFormed) ↔
      ∀ row ∈ s.rows, ∃ v, Rendering.row (rowRendering row) {} = .ok () v := by
    rw [rowParts, ← forall_partFormed, List.forall_mem_flatten]
    apply forall₂_congr
    intro row hrow
    exact (decided_row part hrow).iff_ok {}
  -- the rows can be written exactly if their parts are well-formed
  rw [parts]
  constructor
  · rintro ⟨columns, some, h⟩
    refine ⟨⟨columns, ?_, ?_, ?_⟩, ?_⟩
    · simpa using some
    · simpa using h.lengths
    · simpa [rowText] using h.oneText
    · simpa using h.written
  · rintro ⟨h, written⟩
    have some : s.rows.map rowRendering ≠ [] := by
      simpa using h.some
    refine ⟨h.columns, some, some, ?_, ?_, ?_⟩
    · simpa using h.lengths
    · simpa using written
    · simpa [rowText] using h.oneText

/-- An INSERT of rows of its own. -/
theorem decided_insertRows (own : s.sources = []) :
    DecidedBy (s.target ≠ "" ∧ s.HasRows ∧ ∀ t ∈ s.rowParts, t.WellFormed)
      (s.toClauses.writeInsert (firstIsStmt s.sources) (s.sources.map Source.write)
        (s.rows.map fun row => row.map Operand.write)) := by
  have each : ∀ r ∈ s.rows.map rowRendering, ∃ p, DecidedBy p (Rendering.row r) := by
    intro r hr
    rcases List.mem_map.1 hr with ⟨row, hrow, rfl⟩
    exact ⟨_, decided_row part hrow⟩
  have rows : DecidedBy (RowsMatch s.insertColumns.length (s.rows.map rowRendering))
      (Rendering.rows s.insertColumns.length (s.rows.map rowRendering)) :=
    decided_rows (appendOnly_operands s.rows) each
  rw [own]
  exact (s.toClauses.decided_writeInsert_rows _ rows).congr
    (and_congr_right fun _ => hasRows_iff part)

/-- An INSERT of what a SELECT finds. -/
theorem decided_insertSelect (selects : s.sources ≠ []) :
    DecidedBy (s.target ≠ "" ∧ if firstIsStmt s.sources then ∀ t ∈ s.tableParts, t.WellFormed
        else s.Selects ∧ ∀ t ∈ s.sourceParts, t.WellFormed)
      (s.toClauses.writeInsert (firstIsStmt s.sources) (s.sources.map Source.write)
        (s.rows.map fun row => row.map Operand.write)) := by
  have nonempty : s.sources.map Source.write ≠ [] := by
    simpa using selects
  have found := s.toClauses.decided_writeInsertSelect (firstIsStmt s.sources) nonempty
    (decided_sources part)
  rw [selects_iff, allHold_sources, allHold_table] at found
  exact s.toClauses.decided_writeInsert_select _ nonempty found

end

/-- Writing a statement succeeds exactly if it is well-formed, and else fails with an error of
assembling. -/
theorem decided_write (s : Stmt) : DecidedBy s.WellFormed s.write := by
  induction s using induction_on_parts with
  | step s part =>
    rw [write_eq, wellFormed_iff]
    unfold Clauses.write Complete
    cases refused : s.refusal with
    | some cause => exact (DecidedBy.throw rfl).congr (by simp)
    | none =>
      dsimp only
      cases kind : s.kind with
      | raw => exact (DecidedBy.throw rfl).congr (by simp)
      | insert =>
        rw [writtenParts_insert kind]
        by_cases own : s.sources = []
        · -- without sources it inserts rows of its own, else what a SELECT finds
          exact (decided_insertRows part own).congr (by simp [own, and_assoc])
        · apply (decided_insertSelect part own).congr
          cases firstIsStmt s.sources <;> simp [own, and_assoc]
      | delete =>
        have written := s.toClauses.decided_writeDelete (decided_sources part)
        rw [allHold_table] at written
        exact written.congr (by simp [writtenParts_delete kind])
      | update =>
        have written := s.toClauses.decided_writeUpdate (decided_sources part)
          (decided_assignments part)
        rw [allHold_table, allHold_assignments, ← List.forall_mem_append] at written
        exact written.congr (by simp [writtenParts_update kind])
      | select =>
        have written := s.toClauses.decided_writeSelect (decided_sources part)
        rw [selects_iff, allHold_sources] at written
        exact written.congr (by simp [writtenParts_select kind])

/-! ## What has no influence -/

/-- The statement without what its kind does not write. -/
def bare (s : Stmt) : Stmt :=
  match s.refusal with
  | some cause => { refusal := some cause }
  | none =>
    match s.kind with
    | .raw => {}
    | .insert =>
      if s.sources.isEmpty then
        { kind := .insert, target := s.target, insertColumns := s.insertColumns, rows := s.rows }
      else if firstIsStmt s.sources then
        { kind := .insert, target := s.target, insertColumns := s.insertColumns,
          sources := s.sources.take 1 }
      else { s with cache := .shared, rows := [], assignments := [] }
    | .delete => { kind := .delete, condition := s.condition, sources := s.sources.take 1 }
    | .update =>
      { kind := .update, condition := s.condition, sources := s.sources.take 1,
        assignments := s.assignments }
    | .select =>
      { s with target := "", insertColumns := [], cache := .shared, rows := [],
               assignments := [] }

/-- What the kind of a statement does not write has no influence. -/
theorem write_bare (s : Stmt) : s.bare.write = s.write := by
  rw [write_eq, write_eq s]
  unfold bare Clauses.write
  cases refused : s.refusal with
  | some cause => rfl
  | none =>
    dsimp only
    cases kind : s.kind with
    | raw => rfl
    | insert =>
      -- the first source says whether there is a SELECT to write
      cases hsources : s.sources with
      | nil => rfl
      | cons source rest =>
        cases source with
        | table name alias? => rfl
        | stmt t alias? => rfl
    | delete => cases s.sources <;> rfl
    | update => cases s.sources <;> rfl
    | select => rfl

/-! ## Main statements -/

/-- A statement can be written exactly if it is well-formed.  If it is not, it fails with an error
of assembling, whatever writer it is written to, and what its kind does not write has no influence
on any of this. -/
theorem writable_iff_wellFormed (s : Stmt) (w : Writer) :
    (s.WellFormed ↔ ∃ v, s.writeTo w = (.ok (), v)) ∧
    (¬s.WellFormed ↔ ∃ e v, s.writeTo w = (.error e, v) ∧ e.isStructural = true) ∧
    s.bare.writeTo w = s.writeTo w := by
  have decided := s.decided_write
  refine ⟨?_, ?_, ?_⟩
  · simp only [writeTo_eq_ok]
    exact decided.iff_ok w
  · simp only [writeTo_eq_error]
    -- either succeeding and well-formedness both hold, or neither does
    rcases decided w with ⟨holds, v, succeeded⟩ | ⟨fails, failed⟩
    · simp [holds, succeeded]
    · simp only [fails, not_false_iff, true_iff]
      exact failed
  · rw [writeTo, write_bare, writeTo]

/-- A statement is written the same way behind every writer: it ends as it does in an empty one,
and leaves what it leaves there behind what the writer held, also where it fails half-way.  No mark
that it sets is ever lost. -/
theorem written_behind (s : Stmt) (w : Writer) :
    (s.writeTo w).1 = (s.writeTo {}).1 ∧
    (s.writeTo w).2.text = w.text ++ (s.writeTo {}).2.text ∧
    (s.writeTo w).2.args = w.args ++ (s.writeTo {}).2.args ∧
    (s.writeTo w).2.groups = w.groups ++ (s.writeTo {}).2.groups ∧
    (s.writeTo w).1 ≠ .error .lostMark := by
  have behind : s.writeTo w = ((s.writeTo {}).1, w ++ (s.writeTo {}).2) := by
    unfold writeTo
    rw [s.appendOnly_write w]
    cases s.write {} <;> rfl
  have kept : (s.writeTo w).1 ≠ .error .lostMark := by
    intro lost
    have failed : s.write w = .error .lostMark (s.writeTo w).2 :=
      writeTo_eq_error.1 (Prod.ext lost rfl)
    -- a statement only fails with errors of assembling, and a lost mark is none
    have structural : SqlError.isStructural .lostMark = true := s.decided_write.structural failed
    cases structural
  rw [behind] at kept ⊢
  exact ⟨rfl, rfl, rfl, rfl, kept⟩

end Stmt

end SqlCompose
