import SqlCompose.Cond
import SqlCompose.Record

/-! # Statements

A statement under construction: what it does, its clauses, its sources (the items of FROM), the rows
of an INSERT and the assignments of an UPDATE.  Statements nest: one may be a source, a value of a
row or the right-hand side of an assignment of another.

A clause that the kind of the statement does not write is kept all the same, because the kind may
still change while none has been set.
-/

namespace SqlCompose

/-- The clauses of a statement that hold no other statement. -/
structure Clauses where
  kind : StmtKind := .raw
  /-- The table that an INSERT writes to. -/
  target : String := ""
  condition : Cond := .empty
  grouping : String := ""
  having : Cond := .empty
  ordering : String := ""
  /-- The limit; zero for none. -/
  limit : Int64 := 0
  offset : Int64 := 0
  insertColumns : List String := []
  selectColumns : List String := []
  /-- Where the columns of record types are looked up. -/
  cache : CacheRef := .shared
  /-- The first input that a call refused; such a statement cannot be written. -/
  refusal : Option Unsupported := none
  deriving Inhabited

mutual
/-- What may stand in the place of a value. -/
inductive Operand where
  /-- A bound value. -/
  | value (v : Value)
  /-- A fragment of SQL with its own bound values. -/
  | expr (e : Expr)
  /-- A sub-statement. -/
  | stmt (s : Stmt)
inductive Source where
  | table (name : String) (alias? : Option String)
  | stmt (s : Stmt) (alias? : Option String)
structure Assignment where
  column : String
  operand : Operand
structure Stmt extends Clauses where
  sources : List Source := []
  rows : List (List Operand) := []
  assignments : List Assignment := []
end

instance : Inhabited Operand := ⟨.value .null⟩

instance : Inhabited Stmt := ⟨{}⟩

def Source.isStmt : Source → Bool
  | .table .. => false
  | .stmt .. => true

namespace Operand

/-- A fragment with its values, possibly without text. -/
def ofExpr (sql : String) (args : List Value) : Operand :=
  .expr ⟨sql, args⟩

def raw (sql : String) : Operand :=
  ofExpr sql []

end Operand

end SqlCompose
