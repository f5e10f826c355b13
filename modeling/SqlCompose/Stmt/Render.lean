import SqlCompose.Stmt.Basic

/-! # Writing statements

`Stmt.write` writes a statement behind what a writer already holds, with markers in place of bound
values; `Stmt.render` starts with an empty writer and puts the placeholders of a dialect in place of
the markers.

The rows of an INSERT with several rows share one text.  The first row is written as a template, and
its arguments become the first group; every later row is written behind it, compared with the
template, taken back, and leaves its arguments as a group of its own.

What a kind of statement writes is put together from the renderings of its parts, so that nesting
shows in one place only, the mutual recursion at the end.
-/

namespace SqlCompose

namespace Rendering

/-- Stop with a statement that is not supported. -/
def refuse (cause : Unsupported) : Rendering Unit :=
  throw (.unsupported cause)

/-- Write a condition behind a keyword, if there is something to write. -/
def clause (keyword : String) (c : Cond) : Rendering Unit :=
  if c.isValid then do
    put keyword
    modify c.write
  else pure ()

/-- Write a text behind a keyword, if there is one. -/
def textClause (keyword text : String) : Rendering Unit :=
  if text.isEmpty then pure () else put (keyword ++ text)

def parenthesised (r : Rendering Unit) : Rendering Unit := do
  put "("
  r
  put ")"

def aliasClause : Option String → Rendering Unit
  | none => pure ()
  | some name => put (" AS " ++ name)

/-- Refuse a row that has not one value per column. -/
def checkLength (columns index : Nat) (row : List (Rendering Unit)) : Rendering Unit :=
  if row.length = columns then pure () else refuse (.rowLength index row.length columns)

def row (values : List (Rendering Unit)) : Rendering Unit :=
  separated "," values

/-- Write the rows after the first, from row `index` on, over the template of the first. -/
def laterRows (columns : Nat) (template : String) :
    Nat → List (List (Rendering Unit)) → Rendering Unit
  | _, [] => pure ()
  | index, values :: rest => do
    checkLength columns index values
    let start ← mark
    row values
    let text ← textSince start
    cutText start
    if text ≠ template then refuse (.rowShape index)
    groupSince start
    laterRows columns template (index + 1) rest

/-- Write the rows of an INSERT.  A single row binds flat arguments, several rows one group each. -/
def rows (columns : Nat) : List (List (Rendering Unit)) → Rendering Unit
  | [] => throw .noValueToInsert
  | [values] => do
    checkLength columns 0 values
    row values
  | values :: rest => do
    checkLength columns 0 values
    let start ← mark
    row values
    let template ← textSince start
    groupSince start
    laterRows columns template 1 rest

end Rendering

open Rendering in
/-- The columns of an INSERT in parentheses, with what surrounds them. -/
def Clauses.writeColumns (c : Clauses) (before after : String) : Rendering Unit :=
  put (before ++ "(" ++ ",".intercalate c.insertColumns ++ ")" ++ after)

open Rendering in
def Clauses.writeSelect (c : Clauses) (sources : List (Rendering Unit)) : Rendering Unit := do
  if sources.isEmpty then throw .noTableName
  if c.limit < 0 ∨ c.offset < 0 then throw .invalidLimitation
  put "SELECT "
  put (if c.selectColumns.isEmpty then "*" else ",".intercalate c.selectColumns)
  put " FROM "
  separated "," sources
  clause " WHERE " c.condition
  textClause " GROUP BY " c.grouping
  clause " HAVING " c.having
  textClause " ORDER BY " c.ordering
  if 0 < c.limit then
    put (" LIMIT " ++ toString c.limit.toInt)
    if c.offset ≠ 0 then put (" OFFSET " ++ toString c.offset.toInt)

open Rendering in
def Clauses.writeDelete (c : Clauses) (sources : List (Rendering Unit)) : Rendering Unit :=
  match sources with
  | [] => throw .noTableName
  | table :: _ => do
    put "DELETE FROM "
    table
    clause " WHERE " c.condition

open Rendering in
def Clauses.writeUpdate (c : Clauses) (sources assignments : List (Rendering Unit)) :
    Rendering Unit :=
  match sources with
  | [] => throw .noTableName
  | table :: _ => do
    if assignments.isEmpty then refuse .nothingToSet
    put "UPDATE "
    table
    put " SET "
    separated "," assignments
    clause " WHERE " c.condition

open Rendering in
/-- Write an INSERT of what a SELECT finds: of the sub-statement that is the first source, or of the
SELECT that the clauses of the statement itself make. -/
def Clauses.writeInsertSelect (c : Clauses) (firstIsStmt : Bool)
    (sources : List (Rendering Unit)) : Rendering Unit := do
  put ("INSERT INTO " ++ c.target)
  if c.insertColumns.isEmpty then put " " else c.writeColumns " " " "
  match firstIsStmt, sources with
  | true, first :: _ => first
  | _, _ => c.writeSelect sources

open Rendering in
def Clauses.writeInsert (c : Clauses) (firstIsStmt : Bool) (sources : List (Rendering Unit))
    (values : List (List (Rendering Unit))) : Rendering Unit := do
  if c.target.isEmpty then throw .noTableName
  if !sources.isEmpty then c.writeInsertSelect firstIsStmt sources
  else if c.insertColumns.isEmpty then throw .noColumnToInsert
  else if values.isEmpty then throw .noValueToInsert
  else
    put ("INSERT INTO " ++ c.target)
    c.writeColumns " " " VALUES ("
    rows c.insertColumns.length values
    put ")"

open Rendering in
/-- Write a statement with these clauses from the renderings of its parts. -/
def Clauses.write (c : Clauses) (firstIsStmt : Bool) (sources : List (Rendering Unit))
    (values : List (List (Rendering Unit))) (assignments : List (Rendering Unit)) :
    Rendering Unit :=
  match c.refusal with
  | some cause => refuse cause
  | none =>
    match c.kind with
    | .raw => refuse .kindNotSet
    | .insert => c.writeInsert firstIsStmt sources values
    | .delete => c.writeDelete sources
    | .update => c.writeUpdate sources assignments
    | .select => c.writeSelect sources

/-- Whether the first of some sources is a sub-statement. -/
def firstIsStmt (sources : List Source) : Bool :=
  sources.head?.any Source.isStmt

open Rendering in
mutual
/-- Write a statement, with markers for its bound values. -/
def Stmt.write : Stmt → Rendering Unit
  | ⟨c, sources, rows, assignments⟩ =>
    c.write (firstIsStmt sources) (writeSources sources) (writeRows rows)
      (writeAssignments assignments)
/-- Write what stands in the place of a value. -/
def Operand.write : Operand → Rendering Unit
  | .value v => do
    put marker
    bindAll [v]
  | .expr e => do
    put e.sql
    bindAll e.args
  | .stmt s => parenthesised s.write
def Source.write : Source → Rendering Unit
  | .table name alias? => do
    put name
    aliasClause alias?
  | .stmt s alias? => do
    parenthesised s.write
    aliasClause alias?
def Assignment.write : Assignment → Rendering Unit
  | ⟨column, operand⟩ => do
    put (column ++ " = ")
    operand.write
def writeSources : List Source → List (Rendering Unit)
  | [] => []
  | s :: rest => s.write :: writeSources rest
def writeRows : List (List Operand) → List (List (Rendering Unit))
  | [] => []
  | r :: rest => writeOperands r :: writeRows rest
def writeOperands : List Operand → List (Rendering Unit)
  | [] => []
  | o :: rest => o.write :: writeOperands rest
def writeAssignments : List Assignment → List (Rendering Unit)
  | [] => []
  | a :: rest => a.write :: writeAssignments rest
end

namespace Stmt

/-- The outcome of an action, and the writer it leaves. -/
def outcome {α : Type} : EStateM.Result SqlError Writer α → Except SqlError α × Writer
  | .ok a w => (.ok a, w)
  | .error e w => (.error e, w)

/-- Write the statement behind what a writer holds. -/
def writeTo (s : Stmt) (w : Writer) : Except SqlError Unit × Writer :=
  outcome (s.write w)

/-- Write the statement by itself, with the placeholders of a dialect; the writer that was filled
before is reset.  The markers of a statement that fails stay as they are. -/
def render (s : Stmt) (dialect : Dialect) : Except SqlError Unit × Writer :=
  match s.writeTo {} with
  | (.ok (), w) => (.ok (), w.setPlaceholders dialect)
  | failed => failed

/-- The finished statement in a dialect. -/
def build (s : Stmt) (dialect : Dialect) : Except SqlError Writer :=
  match s.render dialect with
  | (.ok (), w) => .ok w
  | (.error e, _) => .error e

end Stmt

end SqlCompose
