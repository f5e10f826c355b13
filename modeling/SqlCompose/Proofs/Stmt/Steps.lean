import SqlCompose.Proofs.Stmt.Nesting
import SqlCompose.Proofs.Cond.Reading

/-! # Statements, step by step

Every kind of statement, once what it refuses is out of the way, writes a list of steps in order:
keywords, clauses and the renderings of its parts.  The rows of an INSERT of several rows are the
one place that looks back at what was written; there, each row is written as if by itself, compared
with the first, and leaves its arguments as a group.

Main statements:

* `writeSelect_eq`, `writeDelete_eq`, `writeUpdate_eq`, `writeInsertSelect_eq`, `writeInsert_eq`:
  what each kind refuses, and its steps;
* `rows_cons_cons`, `laterRows_cons`: what the rows of an INSERT come to, row by row;
* `Stmt.appendOnly_write`: writing a statement only appends.
-/

namespace SqlCompose

namespace Rendering

/-- Do one after another. -/
def inOrder : List (Rendering Unit) → Rendering Unit
  | [] => pure ()
  | [r] => r
  | r :: rest => do
    r
    inOrder rest

/-- Steps that only append do so one after another. -/
theorem AppendOnly.inOrder {rs : List (Rendering Unit)} (h : ∀ r ∈ rs, AppendOnly r) :
    AppendOnly (inOrder rs) := by
  induction rs with
  | nil => exact .pure ()
  | cons r rest ih =>
    have hr : AppendOnly r := h r List.mem_cons_self
    have hrest : AppendOnly (Rendering.inOrder rest) :=
      ih fun r' hr' => h r' (List.mem_cons_of_mem _ hr')
    -- the last step stands without another one behind it
    cases rest with
    | nil => exact hr
    | cons r' rest => exact hr.bind fun _ => hrest

/-! ## Clauses -/

/-- A condition is written and its values are bound behind what is there. -/
theorem appendOnly_cond (c : Cond) : AppendOnly (modify c.write : Rendering PUnit) := by
  apply AppendOnly.modify
  intro w
  -- what is written are tokens, which do not depend on the writer
  rw [c.write_eq 0 w, c.write_eq 0 {}]
  apply Writer.eq_of_parts <;> simp [Writer.putTokens, Writer.put, Writer.bindAll]

/-- A condition that has nothing to write leaves the writer as it is. -/
theorem appendOnly_clause (keyword : String) (c : Cond) : AppendOnly (clause keyword c) := by
  unfold clause
  split
  · exact (appendOnly_put keyword).bind fun _ => appendOnly_cond c
  · exact .pure ()

/-- An empty text is left out with its keyword. -/
theorem appendOnly_textClause (keyword text : String) : AppendOnly (textClause keyword text) := by
  unfold textClause
  split
  · exact .pure ()
  · exact appendOnly_put _

theorem appendOnly_aliasClause (alias? : Option String) : AppendOnly (aliasClause alias?) := by
  cases alias? with
  | none => exact .pure ()
  | some name => exact appendOnly_put _

theorem AppendOnly.parenthesised {r : Rendering Unit} (h : AppendOnly r) :
    AppendOnly (parenthesised r) :=
  (appendOnly_put "(").bind fun _ => h.bind fun _ => appendOnly_put ")"

/-! ## Rows -/

section

variable {columns : Nat} {values : List (Rendering Unit)}
  {rest : List (List (Rendering Unit))} (h : AppendOnly (row values))

include h

omit h in
/-- A single row is written if it has a value for every column. -/
theorem rows_singleton (w : Writer) :
    rows columns [values] w =
      if values.length = columns then row values w
      else .error (.unsupported (.rowLength 0 values.length columns)) w := by
  rw [rows, bind_apply, checkLength]
  by_cases fits : values.length = columns
  · rw [if_pos fits, if_pos fits, pure_apply]
  · rw [if_neg fits, if_neg fits]
    rfl

/-- One later row: it must have a value for every column and the text of the first row, and it
leaves its arguments as a group. -/
theorem laterRows_cons (template : String) (index : Nat) (w : Writer) :
    laterRows columns template index (values :: rest) w =
      if values.length = columns then
        match row values {} with
        | .ok () v =>
          if v.text = template then
            laterRows columns template (index + 1) rest (w ++ ⟨"", [], v.groups ++ [v.args]⟩)
          else .error (.unsupported (.rowShape index)) (w ++ { v with text := "" })
        | .error e v => .error e (w ++ v)
      else .error (.unsupported (.rowLength index values.length columns)) w := by
  rw [laterRows, bind_apply, checkLength]
  by_cases fits : values.length = columns
  · rw [if_pos fits, if_pos fits, pure_apply]
    simp only [bind_apply, mark_apply]
    rw [h w]
    cases row values {} with
    | error e v => rfl
    | ok u v =>
      -- the text behind the mark is all that the row wrote, and it is taken back in any case
      simp only [behind_ok, textSince_mark, cutText_mark]
      by_cases same : v.text = template
      · rw [if_neg (Decidable.not_not.2 same), if_pos same, bind_apply, groupSince_mark]
      · rw [if_pos same, if_neg same]
        rfl
  · rw [if_neg fits, if_neg fits]
    rfl

/-- Several rows: the first is the template of the others. -/
theorem rows_cons_cons (next : List (Rendering Unit)) (w : Writer) :
    rows columns (values :: next :: rest) w =
      if values.length = columns then
        match row values {} with
        | .ok () v =>
          laterRows columns v.text 1 (next :: rest) (w ++ ⟨v.text, [], v.groups ++ [v.args]⟩)
        | .error e v => .error e (w ++ v)
      else .error (.unsupported (.rowLength 0 values.length columns)) w := by
  rw [rows, bind_apply, checkLength]
  · by_cases fits : values.length = columns
    · rw [if_pos fits, if_pos fits, pure_apply]
      simp only [bind_apply, mark_apply]
      -- what the first row writes by itself is what it writes here
      rw [h w]
      cases row values {} with
      | error e v => rfl
      | ok u v => simp only [behind_ok, textSince_mark, groupSince_mark]
    · rw [if_neg fits, if_neg fits]
      rfl
  · exact List.cons_ne_nil next rest

end

theorem appendOnly_row {values : List (Rendering Unit)} (h : ∀ r ∈ values, AppendOnly r) :
    AppendOnly (row values) :=
  appendOnly_separated h

/-- Later rows only append.  Each of them is taken back as a text and kept as a group. -/
theorem appendOnly_laterRows {columns : Nat} {template : String}
    {rows : List (List (Rendering Unit))} (h : ∀ values ∈ rows, AppendOnly (row values))
    (index : Nat) : AppendOnly (laterRows columns template index rows) := by
  induction rows generalizing index with
  | nil => exact .pure ()
  | cons values rest ih =>
    have hrow : AppendOnly (row values) := h values List.mem_cons_self
    have hrest (i : Nat) : AppendOnly (laterRows columns template i rest) :=
      ih (fun v hv => h v (List.mem_cons_of_mem _ hv)) i
    intro w
    -- a row is judged by what it writes by itself, and that does not depend on `w`
    rw [laterRows_cons hrow, laterRows_cons hrow]
    by_cases fits : values.length = columns
    · rw [if_pos fits, if_pos fits]
      -- it fails alike, or leaves the same group and the others follow
      cases row values {} with
      | error e v => simp
      | ok u v =>
        by_cases same : v.text = template
        · simp only [if_pos same, Writer.empty_append]
          rw [hrest (index + 1) (w ++ _), hrest (index + 1) ⟨"", [], v.groups ++ [v.args]⟩,
            behind_behind]
        · simp [if_neg same]
    · simp [if_neg fits]

/-- One row or several only append. -/
theorem appendOnly_rows {columns : Nat} {values : List (List (Rendering Unit))}
    (h : ∀ r ∈ values, AppendOnly (row r)) : AppendOnly (rows columns values) := by
  cases values with
  | nil => exact .throw _
  | cons first rest =>
    have hrow : AppendOnly (row first) := h first List.mem_cons_self
    cases rest with
    | nil =>
      -- a single row is not judged by another one
      have checked : AppendOnly (checkLength columns 0 first) := by
        unfold checkLength
        split
        · exact .pure ()
        · exact .throw _
      exact checked.bind fun _ => hrow
    | cons next rest =>
      have hrest (template : String) :
          AppendOnly (laterRows columns template 1 (next :: rest)) := by
        apply appendOnly_laterRows
        intro values hvalues
        exact h values (List.mem_cons_of_mem _ hvalues)
      -- the template is what the first row writes by itself
      intro w
      rw [rows_cons_cons hrow, rows_cons_cons hrow]
      by_cases fits : first.length = columns
      · rw [if_pos fits, if_pos fits]
        cases row first {} with
        | error e v => simp
        | ok u v =>
          simp only [Writer.empty_append]
          rw [hrest v.text (w ++ _), hrest v.text ⟨v.text, [], v.groups ++ [v.args]⟩,
            behind_behind]
      · simp [if_neg fits]

end Rendering

/-! ## The kinds of statements -/

namespace Clauses

open Rendering

/-- Write the limit and the offset, if there is a limit. -/
def writeLimit (c : Clauses) : Rendering Unit :=
  if 0 < c.limit then do
    put (" LIMIT " ++ toString c.limit.toInt)
    if c.offset ≠ 0 then put (" OFFSET " ++ toString c.offset.toInt) else pure ()
  else pure ()

def selectSteps (c : Clauses) (sources : List (Rendering Unit)) : List (Rendering Unit) :=
  [put "SELECT ", put (if c.selectColumns.isEmpty then "*" else ",".intercalate c.selectColumns),
    put " FROM ", separated "," sources, clause " WHERE " c.condition,
    textClause " GROUP BY " c.grouping, clause " HAVING " c.having,
    textClause " ORDER BY " c.ordering, c.writeLimit]

def insertSelectSteps (c : Clauses) (firstIsStmt : Bool) (sources : List (Rendering Unit)) :
    List (Rendering Unit) :=
  [put ("INSERT INTO " ++ c.target),
    if c.insertColumns.isEmpty then put " " else c.writeColumns " " " ",
    match firstIsStmt, sources with
    | true, first :: _ => first
    | _, _ => c.writeSelect sources]

def insertRowSteps (c : Clauses) (values : List (List (Rendering Unit))) :
    List (Rendering Unit) :=
  [put ("INSERT INTO " ++ c.target), c.writeColumns " " " VALUES (",
    rows c.insertColumns.length values, put ")"]

variable (c : Clauses) (sources assignments : List (Rendering Unit))
  (values : List (List (Rendering Unit)))

/-- What a SELECT asks for is checked before its first step. -/
theorem writeSelect_eq : c.writeSelect sources =
    if sources.isEmpty then throw .noTableName
    else if c.limit < 0 ∨ c.offset < 0 then throw .invalidLimitation
    else inOrder (c.selectSteps sources) := by
  unfold writeSelect
  by_cases noSource : sources.isEmpty
  · simp only [noSource, if_true]
    rfl
  · by_cases invalid : c.limit < 0 ∨ c.offset < 0
    · simp only [noSource, invalid, if_true]
      rfl
    · simp only [noSource, invalid, if_false]
      rfl

/-- A DELETE is from the first source, and the others are not written. -/
theorem writeDelete_eq : c.writeDelete sources =
    match sources with
    | [] => throw .noTableName
    | table :: _ => inOrder [put "DELETE FROM ", table, clause " WHERE " c.condition] := by
  -- only whether there is a first source counts
  cases sources <;> rfl

/-- An UPDATE is of the first source, and needs something to set. -/
theorem writeUpdate_eq : c.writeUpdate sources assignments =
    match sources with
    | [] => throw .noTableName
    | table :: _ =>
      if assignments.isEmpty then refuse .nothingToSet
      else inOrder [put "UPDATE ", table, put " SET ", separated "," assignments,
        clause " WHERE " c.condition] := by
  cases sources with
  | nil => rfl
  | cons table rest => cases assignments <;> rfl

/-- An INSERT of what a SELECT finds, as steps. -/
theorem writeInsertSelect_eq (firstIsStmt : Bool) :
    c.writeInsertSelect firstIsStmt sources
      = inOrder (c.insertSelectSteps firstIsStmt sources) := by
  unfold writeInsertSelect insertSelectSteps
  simp only [inOrder]
  split <;> rfl

/-- The checks of an INSERT, in their order.  Sources go before rows: with a source there, the rows
are not looked at. -/
theorem writeInsert_eq (firstIsStmt : Bool) : c.writeInsert firstIsStmt sources values =
    if c.target.isEmpty then throw .noTableName
    else if !sources.isEmpty then c.writeInsertSelect firstIsStmt sources
    else if c.insertColumns.isEmpty then throw .noColumnToInsert
    else if values.isEmpty then throw .noValueToInsert
    else inOrder (c.insertRowSteps values) := by
  unfold writeInsert
  by_cases noTarget : c.target.isEmpty
  · simp only [noTarget, if_true]
    rfl
  · simp only [noTarget]
    rfl

/-! ## Writing a statement only appends -/

theorem appendOnly_writeColumns (before after : String) :
    AppendOnly (c.writeColumns before after) :=
  appendOnly_put _

theorem appendOnly_writeLimit : AppendOnly c.writeLimit := by
  unfold writeLimit
  split
  · apply (appendOnly_put _).bind
    intro _
    split
    · exact appendOnly_put _
    · exact .pure ()
  · exact .pure ()

variable {sources assignments values}

/-- A SELECT only appends if its sources do. -/
theorem appendOnly_writeSelect (h : ∀ r ∈ sources, AppendOnly r) :
    AppendOnly (c.writeSelect sources) := by
  rw [writeSelect_eq]
  split
  · exact .throw _
  · split
    · exact .throw _
    · apply AppendOnly.inOrder
      simp only [selectSteps, List.forall_mem_cons]
      exact ⟨appendOnly_put _, appendOnly_put _, appendOnly_put _, appendOnly_separated h,
        appendOnly_clause _ _, appendOnly_textClause _ _, appendOnly_clause _ _,
        appendOnly_textClause _ _, c.appendOnly_writeLimit, List.forall_mem_nil _⟩

theorem appendOnly_writeDelete (h : ∀ r ∈ sources, AppendOnly r) :
    AppendOnly (c.writeDelete sources) := by
  rw [writeDelete_eq]
  cases sources with
  | nil => exact .throw _
  | cons table rest =>
    apply AppendOnly.inOrder
    simp only [List.forall_mem_cons]
    exact ⟨appendOnly_put _, h table List.mem_cons_self, appendOnly_clause _ _,
      List.forall_mem_nil _⟩

/-- An UPDATE only appends if its source and what it assigns do. -/
theorem appendOnly_writeUpdate (h : ∀ r ∈ sources, AppendOnly r)
    (assigned : ∀ r ∈ assignments, AppendOnly r) :
    AppendOnly (c.writeUpdate sources assignments) := by
  rw [writeUpdate_eq]
  cases sources with
  | nil => exact .throw _
  | cons table rest =>
    dsimp only
    split
    · exact .throw _
    · apply AppendOnly.inOrder
      simp only [List.forall_mem_cons]
      exact ⟨appendOnly_put _, h table List.mem_cons_self, appendOnly_put _,
        appendOnly_separated assigned, appendOnly_clause _ _, List.forall_mem_nil _⟩

theorem appendOnly_writeInsertSelect (firstIsStmt : Bool) (h : ∀ r ∈ sources, AppendOnly r) :
    AppendOnly (c.writeInsertSelect firstIsStmt sources) := by
  rw [writeInsertSelect_eq]
  apply AppendOnly.inOrder
  simp only [insertSelectSteps, List.forall_mem_cons]
  refine ⟨appendOnly_put _, ?_, ?_, List.forall_mem_nil _⟩
  · split
    · exact appendOnly_put _
    · exact c.appendOnly_writeColumns _ _
  · -- a statement in front is written alone
    split
    · exact h _ List.mem_cons_self
    · exact c.appendOnly_writeSelect h

/-- An INSERT only appends if its sources and the values in its rows do. -/
theorem appendOnly_writeInsert (firstIsStmt : Bool) (h : ∀ r ∈ sources, AppendOnly r)
    (bound : ∀ row ∈ values, ∀ r ∈ row, AppendOnly r) :
    AppendOnly (c.writeInsert firstIsStmt sources values) := by
  rw [writeInsert_eq]
  split
  · exact .throw _
  · split
    · exact c.appendOnly_writeInsertSelect firstIsStmt h
    · split
      · exact .throw _
      · split
        · exact .throw _
        · have rows : AppendOnly (rows c.insertColumns.length values) :=
            appendOnly_rows fun row hrow => appendOnly_row (bound row hrow)
          apply AppendOnly.inOrder
          simp only [insertRowSteps, List.forall_mem_cons]
          exact ⟨appendOnly_put _, c.appendOnly_writeColumns _ _, rows, appendOnly_put _,
            List.forall_mem_nil _⟩

/-- A statement only appends if its parts do. -/
theorem appendOnly_write (firstIsStmt : Bool) (h : ∀ r ∈ sources, AppendOnly r)
    (bound : ∀ row ∈ values, ∀ r ∈ row, AppendOnly r)
    (assigned : ∀ r ∈ assignments, AppendOnly r) :
    AppendOnly (c.write firstIsStmt sources values assignments) := by
  unfold Clauses.write
  split
  · exact .throw _
  · split
    · exact .throw _
    · exact c.appendOnly_writeInsert firstIsStmt h bound
    · exact c.appendOnly_writeDelete h
    · exact c.appendOnly_writeUpdate h assigned
    · exact c.appendOnly_writeSelect h

end Clauses

/-- Sources are written one by one. -/
theorem writeSources_eq_map (sources : List Source) :
    writeSources sources = sources.map Source.write := by
  induction sources with
  | nil => rfl
  | cons s rest ih => rw [writeSources, ih, List.map_cons]

theorem writeOperands_eq_map (row : List Operand) : writeOperands row = row.map Operand.write := by
  induction row with
  | nil => rfl
  | cons o rest ih => rw [writeOperands, ih, List.map_cons]

/-- Rows are written value by value. -/
theorem writeRows_eq_map (rows : List (List Operand)) :
    writeRows rows = rows.map fun row => row.map Operand.write := by
  induction rows with
  | nil => rfl
  | cons r rest ih => rw [writeRows, ih, writeOperands_eq_map, List.map_cons]

theorem writeAssignments_eq_map (assignments : List Assignment) :
    writeAssignments assignments = assignments.map Assignment.write := by
  induction assignments with
  | nil => rfl
  | cons a rest ih => rw [writeAssignments, ih, List.map_cons]

open Rendering

/-- An operand only appends if the sub-statement does that it may be. -/
theorem appendOnly_operand {o : Operand} (h : ∀ t, o.stmt? = some t → AppendOnly t.write) :
    AppendOnly o.write := by
  cases o with
  | value v =>
    rw [Operand.write]
    exact (appendOnly_put _).bind fun _ => appendOnly_bindAll _
  | expr e =>
    rw [Operand.write]
    exact (appendOnly_put _).bind fun _ => appendOnly_bindAll _
  | stmt s =>
    rw [Operand.write]
    exact (h s rfl).parenthesised

/-- A source only appends if the sub-statement does that it may be. -/
theorem appendOnly_source {source : Source}
    (h : ∀ t, source.stmt? = some t → AppendOnly t.write) : AppendOnly source.write := by
  cases source with
  | table name alias? =>
    rw [Source.write]
    exact (appendOnly_put _).bind fun _ => appendOnly_aliasClause _
  | stmt s alias? =>
    rw [Source.write]
    exact (h s rfl).parenthesised.bind fun _ => appendOnly_aliasClause _

namespace Stmt

/-- A statement, from its clauses and the renderings of its parts. -/
theorem write_eq (s : Stmt) :
    s.write = s.toClauses.write (firstIsStmt s.sources) (s.sources.map Source.write)
      (s.rows.map fun row => row.map Operand.write) (s.assignments.map Assignment.write) := by
  obtain ⟨c, sources, rows, assignments⟩ := s
  rw [write, writeSources_eq_map, writeRows_eq_map, writeAssignments_eq_map]

/-- Writing a statement only appends. -/
theorem appendOnly_write (s : Stmt) : AppendOnly s.write := by
  induction s using induction_on_parts with
  | step s ih =>
    rw [write_eq]
    apply Clauses.appendOnly_write
    · -- the parts are smaller, be they sources, in rows, or assigned
      intro r hr
      obtain ⟨source, hsource, rfl⟩ := List.mem_map.1 hr
      apply appendOnly_source
      intro t ht
      exact ih t (mem_parts_of_source hsource ht)
    · intro values hvalues r hr
      obtain ⟨row, hrow, rfl⟩ := List.mem_map.1 hvalues
      obtain ⟨o, ho, rfl⟩ := List.mem_map.1 hr
      apply appendOnly_operand
      intro t ht
      exact ih t (mem_parts_of_row hrow ho ht)
    · intro r hr
      obtain ⟨a, ha, rfl⟩ := List.mem_map.1 hr
      obtain ⟨column, o⟩ := a
      rw [Assignment.write]
      apply (appendOnly_put _).bind
      intro _
      apply appendOnly_operand
      intro t ht
      exact ih t (mem_parts_of_assignment ha ht)

/-- To write a statement with success is to end so as an action. -/
theorem writeTo_eq_ok {s : Stmt} {w w' : Writer} :
    s.writeTo w = (.ok (), w') ↔ s.write w = .ok () w' := by
  unfold writeTo
  cases s.write w with
  | ok u v => simp [outcome]
  | error e v => simp [outcome]

/-- To write a statement in vain is to fail as an action. -/
theorem writeTo_eq_error {s : Stmt} {w w' : Writer} {e : SqlError} :
    s.writeTo w = (.error e, w') ↔ s.write w = .error e w' := by
  unfold writeTo
  cases s.write w with
  | ok u v => simp [outcome]
  | error e' v => simp [outcome]

/-- Writing what stands in a row only appends. -/
theorem appendOnly_operands (rows : List (List Operand)) :
    ∀ r ∈ rows.map fun row => row.map Operand.write, AppendOnly (Rendering.row r) := by
  intro r hr
  obtain ⟨row, _, rfl⟩ := List.mem_map.1 hr
  apply appendOnly_row
  intro value hvalue
  obtain ⟨o, _, rfl⟩ := List.mem_map.1 hvalue
  apply appendOnly_operand
  intro t _
  exact appendOnly_write t

end Stmt

end SqlCompose
