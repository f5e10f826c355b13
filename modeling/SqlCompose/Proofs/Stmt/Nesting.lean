import SqlCompose.Stmt.Render

/-! # Statements inside statements

The sub-statements that stand directly in a statement are its parts, as sources, in rows and as
assigned operands.  Which of them are written depends on the kind of the statement: a SELECT does
not write its rows, an INSERT of rows does not write its assignments.

* `Stmt.within` lists a statement and everything inside it, to any depth;
* `Stmt.written` lists a statement and what is written inside it, to any depth;
* `Stmt.SingleRows` says that no INSERT in a statement has more than one row.

Main statement: what passes from the parts of statements to the statements themselves holds of
every statement (`Stmt.induction_on_parts`).
-/

namespace SqlCompose

def Operand.stmt? : Operand → Option Stmt
  | .stmt s => some s
  | _ => none

def Source.stmt? : Source → Option Stmt
  | .stmt s _ => some s
  | .table .. => none

namespace Stmt

def sourceParts (s : Stmt) : List Stmt :=
  s.sources.filterMap Source.stmt?

/-- The sub-statement that is the first source. -/
def tableParts (s : Stmt) : List Stmt :=
  (s.sources.take 1).filterMap Source.stmt?

def rowParts (s : Stmt) : List Stmt :=
  s.rows.flatten.filterMap Operand.stmt?

def assignmentParts (s : Stmt) : List Stmt :=
  s.assignments.filterMap fun a => a.operand.stmt?

/-- The sub-statements that stand directly in a statement. -/
def parts (s : Stmt) : List Stmt :=
  s.sourceParts ++ s.rowParts ++ s.assignmentParts

/-- The parts that a statement of its kind writes. -/
def writtenParts (s : Stmt) : List Stmt :=
  match s.kind with
  | .raw => []
  | .insert =>
    if s.sources.isEmpty then s.rowParts
    else if firstIsStmt s.sources then s.tableParts
    else s.sourceParts
  | .delete => s.tableParts
  | .update => s.tableParts ++ s.assignmentParts
  | .select => s.sourceParts

theorem writtenParts_select {s : Stmt} (h : s.kind = .select) : s.writtenParts = s.sourceParts := by
  rw [writtenParts, h]

theorem writtenParts_delete {s : Stmt} (h : s.kind = .delete) : s.writtenParts = s.tableParts := by
  rw [writtenParts, h]

theorem writtenParts_update {s : Stmt} (h : s.kind = .update) :
    s.writtenParts = s.tableParts ++ s.assignmentParts := by
  rw [writtenParts, h]

theorem writtenParts_insert {s : Stmt} (h : s.kind = .insert) :
    s.writtenParts = if s.sources.isEmpty then s.rowParts
      else if firstIsStmt s.sources then s.tableParts else s.sourceParts := by
  rw [writtenParts, h]

/-! ## Parts are smaller -/

theorem mem_parts_of_source {s t : Stmt} {source : Source} (hsource : source ∈ s.sources)
    (ht : source.stmt? = some t) : t ∈ s.parts := by
  have h : t ∈ s.sourceParts := List.mem_filterMap.2 ⟨source, hsource, ht⟩
  simp [parts, h]

theorem mem_rowParts {s t : Stmt} {row : List Operand} {o : Operand} (hrow : row ∈ s.rows)
    (ho : o ∈ row) (ht : o.stmt? = some t) : t ∈ s.rowParts :=
  List.mem_filterMap.2 ⟨o, List.mem_flatten.2 ⟨row, hrow, ho⟩, ht⟩

theorem mem_parts_of_row {s t : Stmt} {row : List Operand} {o : Operand} (hrow : row ∈ s.rows)
    (ho : o ∈ row) (ht : o.stmt? = some t) : t ∈ s.parts := by
  have h : t ∈ s.rowParts := mem_rowParts hrow ho ht
  simp [parts, h]

theorem mem_parts_of_assignment {s t : Stmt} {a : Assignment} (ha : a ∈ s.assignments)
    (ht : a.operand.stmt? = some t) : t ∈ s.parts := by
  have h : t ∈ s.assignmentParts := List.mem_filterMap.2 ⟨a, ha, ht⟩
  simp [parts, h]

theorem sizeOf_lt_of_mem_sourceParts {s t : Stmt} (h : t ∈ s.sourceParts) :
    sizeOf t < sizeOf s := by
  obtain ⟨source, hsource, ht⟩ := List.mem_filterMap.1 h
  have inList := List.sizeOf_lt_of_mem hsource
  obtain ⟨c, sources, rows, assignments⟩ := s
  -- only a source that is a statement has a part
  cases source with
  | table name alias? => cases ht
  | stmt s' alias? =>
    cases ht
    simp only [Source.stmt.sizeOf_spec] at inList
    simp only [Stmt.mk.sizeOf_spec]
    omega

theorem sizeOf_lt_of_mem_rowParts {s t : Stmt} (h : t ∈ s.rowParts) : sizeOf t < sizeOf s := by
  obtain ⟨o, ho, ht⟩ := List.mem_filterMap.1 h
  obtain ⟨row, hrow, ho⟩ := List.mem_flatten.1 ho
  -- smaller than the operand, which is smaller than its row, which is smaller than the rows
  have inRow := List.sizeOf_lt_of_mem ho
  have inRows := List.sizeOf_lt_of_mem hrow
  obtain ⟨c, sources, rows, assignments⟩ := s
  simp only at inRows
  cases o with
  | value v => cases ht
  | expr e => cases ht
  | stmt s' =>
    cases ht
    simp only [Operand.stmt.sizeOf_spec] at inRow
    simp only [Stmt.mk.sizeOf_spec]
    omega

theorem sizeOf_lt_of_mem_assignmentParts {s t : Stmt} (h : t ∈ s.assignmentParts) :
    sizeOf t < sizeOf s := by
  obtain ⟨a, ha, ht⟩ := List.mem_filterMap.1 h
  have inList := List.sizeOf_lt_of_mem ha
  obtain ⟨c, sources, rows, assignments⟩ := s
  obtain ⟨column, o⟩ := a
  cases o with
  | value v => cases ht
  | expr e => cases ht
  | stmt s' =>
    cases ht
    simp only [Assignment.mk.sizeOf_spec, Operand.stmt.sizeOf_spec] at inList
    simp only [Stmt.mk.sizeOf_spec]
    omega

/-- Parts are smaller than the statement, so recursion into them ends. -/
theorem sizeOf_lt_of_mem_parts {s t : Stmt} (h : t ∈ s.parts) : sizeOf t < sizeOf s := by
  simp only [parts, List.mem_append] at h
  rcases h with (h | h) | h
  · exact sizeOf_lt_of_mem_sourceParts h
  · exact sizeOf_lt_of_mem_rowParts h
  · exact sizeOf_lt_of_mem_assignmentParts h

/-- What holds of a statement as soon as it holds of its parts holds of every statement. -/
@[elab_as_elim]
theorem induction_on_parts {motive : Stmt → Prop}
    (step : ∀ s : Stmt, (∀ t ∈ s.parts, motive t) → motive s) (s : Stmt) : motive s :=
  step s fun t _ => induction_on_parts step t
termination_by sizeOf s
decreasing_by exact sizeOf_lt_of_mem_parts ‹_›

theorem tableParts_subset_sourceParts (s : Stmt) : ∀ t ∈ s.tableParts, t ∈ s.sourceParts := by
  intro t ht
  obtain ⟨source, hsource, h⟩ := List.mem_filterMap.1 ht
  exact List.mem_filterMap.2 ⟨source, List.mem_of_mem_take hsource, h⟩

/-- What is written of a statement is a part of it. -/
theorem writtenParts_subset_parts (s : Stmt) : ∀ t ∈ s.writtenParts, t ∈ s.parts := by
  intro t ht
  have table := tableParts_subset_sourceParts s t
  unfold writtenParts at ht
  unfold parts
  grind

/-! ## Everything inside a statement -/

/-- The statement and every statement inside it. -/
def within (s : Stmt) : List Stmt :=
  s :: s.parts.attach.flatMap fun part => part.1.within
termination_by sizeOf s
decreasing_by exact sizeOf_lt_of_mem_parts part.2

/-- The statement and every statement that is written inside it. -/
def written (s : Stmt) : List Stmt :=
  s :: s.writtenParts.attach.flatMap fun part => part.1.written
termination_by sizeOf s
decreasing_by exact sizeOf_lt_of_mem_parts (writtenParts_subset_parts s _ part.2)

/-- A statement holds itself and what its parts hold. -/
theorem within_eq (s : Stmt) : s.within = s :: s.parts.flatMap within := by
  rw [within, List.flatMap_subtype, List.unattach_attach]
  intro t _
  rfl

/-- A statement writes itself and what its written parts write. -/
theorem written_eq (s : Stmt) : s.written = s :: s.writtenParts.flatMap written := by
  rw [written, List.flatMap_subtype, List.unattach_attach]
  intro t _
  rfl

/-- What is written inside a part that is written is written inside the statement. -/
theorem mem_written_of_part {s t u : Stmt} (ht : t ∈ s.writtenParts) (hu : u ∈ t.written) :
    u ∈ s.written := by
  rw [written_eq]
  exact List.mem_cons_of_mem _ (List.mem_flatMap.2 ⟨t, ht, hu⟩)

theorem mem_written_self (s : Stmt) : s ∈ s.written := by
  rw [written_eq]
  exact List.mem_cons_self

theorem mem_within_self (s : Stmt) : s ∈ s.within := by
  rw [within_eq]
  exact List.mem_cons_self

/-- What is inside a part is inside the statement. -/
theorem mem_within_of_part {s t u : Stmt} (ht : t ∈ s.parts) (hu : u ∈ t.within) :
    u ∈ s.within := by
  rw [within_eq]
  exact List.mem_cons_of_mem _ (List.mem_flatMap.2 ⟨t, ht, hu⟩)

/-- What is written inside a statement is inside it. -/
theorem written_subset_within (s : Stmt) : ∀ u ∈ s.written, u ∈ s.within := by
  induction s using induction_on_parts with
  | step s ih =>
    intro u hu
    rw [written_eq] at hu
    -- the statement itself, or inside a written part, which is a part
    rcases List.mem_cons.1 hu with rfl | hu
    · exact mem_within_self u
    · obtain ⟨t, ht, hu⟩ := List.mem_flatMap.1 hu
      have part : t ∈ s.parts := writtenParts_subset_parts s t ht
      exact mem_within_of_part part (ih t part u hu)

/-! ## Rows -/

/-- The statement writes rows of its own, and not what a SELECT finds. -/
def WritesRows (s : Stmt) : Prop :=
  s.kind = .insert ∧ s.sources = []

/-- The statement writes several rows of its own. -/
def IsBatch (s : Stmt) : Prop :=
  s.WritesRows ∧ 2 ≤ s.rows.length

/-- An INSERT of rows writes the statements in its rows. -/
theorem WritesRows.writtenParts {s : Stmt} (h : s.WritesRows) : s.writtenParts = s.rowParts := by
  rw [writtenParts_insert h.1, h.2]
  rfl

/-- No INSERT in the statement has more than one row. -/
def SingleRows (s : Stmt) : Prop :=
  ∀ t ∈ s.within, t.kind = .insert → t.rows.length ≤ 1

/-- Where no INSERT has more than one row, none that is written is a batch. -/
theorem SingleRows.not_isBatch {s : Stmt} (h : s.SingleRows) : ∀ t ∈ s.written, ¬t.IsBatch := by
  rintro t ht ⟨⟨isInsert, _⟩, several⟩
  have single : t.rows.length ≤ 1 := h t (written_subset_within s t ht) isInsert
  omega

end Stmt

end SqlCompose
