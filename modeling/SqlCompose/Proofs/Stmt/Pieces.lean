import SqlCompose.Proofs.Cond.Reading
import SqlCompose.Proofs.Stmt.Nesting
import SqlCompose.Proofs.Text.Filling

/-! # Statements with their values in place

What a statement says, with every bound value standing where it was supplied, and no detour through
markers and argument lists (`Stmt.pieces`).  An INSERT of rows says its first row here.

A statement is aligned if every fragment in it has as many values as markers and every other text
in it has no marker (`Stmt.Aligned`).
-/

namespace SqlCompose

/-! ## Pieces -/

/-- A fragment with its own values in place of its own markers. -/
def Expr.pieces (e : Expr) : List Piece :=
  fill e.sql e.args

/-- A token, with the values of an operand in place. -/
def Token.pieces : Token → List Piece
  | operand _ e => e.pieces
  | t => chars t.text

/-- A condition with its values in place. -/
def Cond.pieces (c : Cond) : List Piece :=
  (c.tokens 0).flatMap Token.pieces

/-- A condition behind a keyword, if there is something to write. -/
def clausePieces (keyword : String) (c : Cond) : List Piece :=
  if c.isValid then chars keyword ++ c.pieces else []

/-- A text behind a keyword, if there is one. -/
def textClausePieces (keyword text : String) : List Piece :=
  if text.isEmpty then [] else chars keyword ++ chars text

def aliasPieces : Option String → List Piece
  | none => []
  | some name => chars " AS " ++ chars name

/-- Lists of pieces with commas between them. -/
def commaSeparated (pss : List (List Piece)) : List Piece :=
  (chars ",").intercalate pss

namespace Clauses

/-- The columns of an INSERT in parentheses, with what surrounds them. -/
def columnPieces (c : Clauses) (before after : String) : List Piece :=
  chars (before ++ "(") ++ (chars (",".intercalate c.insertColumns) ++ chars (")" ++ after))

def limitPieces (c : Clauses) : List Piece :=
  if 0 < c.limit then
    chars " LIMIT " ++ (chars (toString c.limit.toInt) ++
      if c.offset ≠ 0 then chars " OFFSET " ++ chars (toString c.offset.toInt) else [])
  else []

def selectPieces (c : Clauses) (sources : List (List Piece)) : List Piece :=
  chars "SELECT " ++
    (chars (if c.selectColumns.isEmpty then "*" else ",".intercalate c.selectColumns) ++
    (chars " FROM " ++
    (commaSeparated sources ++
    (clausePieces " WHERE " c.condition ++
    (textClausePieces " GROUP BY " c.grouping ++
    (clausePieces " HAVING " c.having ++
    (textClausePieces " ORDER BY " c.ordering ++ c.limitPieces)))))))

def deletePieces (c : Clauses) (sources : List (List Piece)) : List Piece :=
  chars "DELETE FROM " ++ (sources.headD [] ++ clausePieces " WHERE " c.condition)

def updatePieces (c : Clauses) (sources assignments : List (List Piece)) : List Piece :=
  chars "UPDATE " ++ (sources.headD [] ++ (chars " SET " ++
    (commaSeparated assignments ++ clausePieces " WHERE " c.condition)))

def insertSelectPieces (c : Clauses) (firstIsStmt : Bool) (sources : List (List Piece)) :
    List Piece :=
  chars "INSERT INTO " ++ (chars c.target ++
    ((if c.insertColumns.isEmpty then chars " " else c.columnPieces " " " ") ++
      if firstIsStmt then sources.headD [] else c.selectPieces sources))

/-- An INSERT of rows, with its first row. -/
def insertRowPieces (c : Clauses) (rows : List (List (List Piece))) : List Piece :=
  chars "INSERT INTO " ++ (chars c.target ++ (c.columnPieces " " " VALUES (" ++
    (commaSeparated (rows.headD []) ++ chars ")")))

/-- A statement with these clauses, from the pieces of its parts. -/
def pieces (c : Clauses) (firstIsStmt : Bool) (sources : List (List Piece))
    (rows : List (List (List Piece))) (assignments : List (List Piece)) : List Piece :=
  match c.kind with
  | .raw => []
  | .insert =>
    if sources.isEmpty then c.insertRowPieces rows else c.insertSelectPieces firstIsStmt sources
  | .delete => c.deletePieces sources
  | .update => c.updatePieces sources assignments
  | .select => c.selectPieces sources

end Clauses

mutual
/-- A statement with its values in place. -/
def Stmt.pieces : Stmt → List Piece
  | ⟨c, sources, rows, assignments⟩ =>
    c.pieces (firstIsStmt sources) (sourcePieces sources) (rowPieces rows)
      (assignmentPieces assignments)
/-- An operand with its values in place. -/
def Operand.pieces : Operand → List Piece
  | .value v => [.value v]
  | .expr e => e.pieces
  | .stmt s => chars "(" ++ (s.pieces ++ chars ")")
def Source.pieces : Source → List Piece
  | .table name alias? => chars name ++ aliasPieces alias?
  | .stmt s alias? => chars "(" ++ (s.pieces ++ (chars ")" ++ aliasPieces alias?))
def Assignment.pieces : Assignment → List Piece
  | ⟨column, operand⟩ => chars column ++ (chars " = " ++ operand.pieces)
def sourcePieces : List Source → List (List Piece)
  | [] => []
  | s :: rest => s.pieces :: sourcePieces rest
def rowPieces : List (List Operand) → List (List (List Piece))
  | [] => []
  | r :: rest => operandPieces r :: rowPieces rest
def operandPieces : List Operand → List (List Piece)
  | [] => []
  | o :: rest => o.pieces :: operandPieces rest
def assignmentPieces : List Assignment → List (List Piece)
  | [] => []
  | a :: rest => a.pieces :: assignmentPieces rest
end

/-- The pieces of sources are those of each. -/
theorem sourcePieces_eq_map (sources : List Source) :
    sourcePieces sources = sources.map Source.pieces := by
  induction sources with
  | nil => rfl
  | cons s rest ih => rw [sourcePieces, ih, List.map_cons]

theorem operandPieces_eq_map (row : List Operand) :
    operandPieces row = row.map Operand.pieces := by
  induction row with
  | nil => rfl
  | cons o rest ih => rw [operandPieces, ih, List.map_cons]

theorem rowPieces_eq_map (rows : List (List Operand)) :
    rowPieces rows = rows.map fun row => row.map Operand.pieces := by
  induction rows with
  | nil => rfl
  | cons r rest ih => rw [rowPieces, ih, operandPieces_eq_map, List.map_cons]

theorem assignmentPieces_eq_map (assignments : List Assignment) :
    assignmentPieces assignments = assignments.map Assignment.pieces := by
  induction assignments with
  | nil => rfl
  | cons a rest ih => rw [assignmentPieces, ih, List.map_cons]

namespace Stmt

/-- The pieces of a statement, from its clauses and the pieces of its parts. -/
theorem pieces_eq (s : Stmt) :
    s.pieces = s.toClauses.pieces (firstIsStmt s.sources) (s.sources.map Source.pieces)
      (s.rows.map fun row => row.map Operand.pieces) (s.assignments.map Assignment.pieces) := by
  obtain ⟨c, sources, rows, assignments⟩ := s
  rw [pieces, sourcePieces_eq_map, rowPieces_eq_map, assignmentPieces_eq_map]

end Stmt

/-! ## Alignment -/

/-- A fragment has as many values as markers. -/
def Expr.Balanced (e : Expr) : Prop :=
  markerCount e.sql = e.args.length

/-- The fragment that an operand is. -/
def Operand.fragment? : Operand → Option Expr
  | .expr e => some e
  | _ => none

/-- The name and the alias of a source. -/
def Source.texts : Source → List String
  | .table name alias? => name :: alias?.toList
  | .stmt _ alias? => alias?.toList

/-- If an operand is a fragment, that has as many values as markers. -/
def Operand.Aligned (o : Operand) : Prop :=
  ∀ e, o.fragment? = some e → e.Balanced

/-- The name and the alias of a source have no markers. -/
def Source.Aligned (source : Source) : Prop :=
  ∀ x ∈ source.texts, markerCount x = 0

/-- The fragments of the conditions are balanced, and the other texts have no markers. -/
structure Clauses.Aligned (c : Clauses) : Prop where
  condition : ∀ e ∈ c.condition.leaves, e.Balanced
  having : ∀ e ∈ c.having.leaves, e.Balanced
  target : markerCount c.target = 0
  grouping : markerCount c.grouping = 0
  ordering : markerCount c.ordering = 0
  insertColumns : ∀ x ∈ c.insertColumns, markerCount x = 0
  selectColumns : ∀ x ∈ c.selectColumns, markerCount x = 0

namespace Stmt

/-- What stands directly in a statement is aligned. -/
structure OwnAligned (s : Stmt) : Prop where
  clauses : s.toClauses.Aligned
  sources : ∀ source ∈ s.sources, source.Aligned
  rows : ∀ row ∈ s.rows, ∀ o ∈ row, o.Aligned
  columns : ∀ a ∈ s.assignments, markerCount a.column = 0
  operands : ∀ a ∈ s.assignments, a.operand.Aligned

instance (e : Expr) : Decidable e.Balanced :=
  inferInstanceAs (Decidable (_ = _))

instance (o : Operand) : Decidable o.Aligned :=
  inferInstanceAs (Decidable (∀ e ∈ o.fragment?, e.Balanced))

instance (source : Source) : Decidable source.Aligned :=
  inferInstanceAs (Decidable (∀ x ∈ source.texts, markerCount x = 0))

instance (c : Clauses) : Decidable c.Aligned :=
  decidable_of_iff ((∀ e ∈ c.condition.leaves, e.Balanced) ∧ (∀ e ∈ c.having.leaves, e.Balanced)
      ∧ markerCount c.target = 0 ∧ markerCount c.grouping = 0 ∧ markerCount c.ordering = 0
      ∧ (∀ x ∈ c.insertColumns, markerCount x = 0) ∧ ∀ x ∈ c.selectColumns, markerCount x = 0)
    ⟨fun ⟨condition, having, target, grouping, ordering, insertColumns, selectColumns⟩ =>
      ⟨condition, having, target, grouping, ordering, insertColumns, selectColumns⟩,
    fun h => ⟨h.condition, h.having, h.target, h.grouping, h.ordering, h.insertColumns,
      h.selectColumns⟩⟩

instance (s : Stmt) : Decidable s.OwnAligned :=
  decidable_of_iff (s.toClauses.Aligned ∧ (∀ source ∈ s.sources, source.Aligned)
      ∧ (∀ row ∈ s.rows, ∀ o ∈ row, o.Aligned) ∧ (∀ a ∈ s.assignments, markerCount a.column = 0)
      ∧ ∀ a ∈ s.assignments, a.operand.Aligned)
    ⟨fun ⟨clauses, sources, rows, columns, operands⟩ =>
      ⟨clauses, sources, rows, columns, operands⟩,
    fun h => ⟨h.clauses, h.sources, h.rows, h.columns, h.operands⟩⟩

/-- Every fragment in the statement, to any depth, has as many values as markers, and every other
text in it has no marker. -/
def Aligned (s : Stmt) : Prop :=
  ∀ t ∈ s.within, t.OwnAligned

theorem Aligned.own {s : Stmt} (h : s.Aligned) : s.OwnAligned :=
  h s (mem_within_self s)

/-- The parts of an aligned statement are aligned. -/
theorem Aligned.part {s t : Stmt} (h : s.Aligned) (ht : t ∈ s.parts) : t.Aligned := by
  intro u hu
  exact h u (mem_within_of_part ht hu)

end Stmt

end SqlCompose
