import SqlCompose.Config
import SqlCompose.Json.Access

/-! # Configuration documents

Configurations read from JSON and written to it, and the changes of a configuration as lists of a
word and, possibly, an argument.
-/

namespace SqlCompose

def Dialect.ofJson? (j : Json) : Option Dialect :=
  j.word?.bind ofName?

def LogLevel.ofJson? (j : Json) : Option LogLevel :=
  j.word?.bind ofName?

/-- A limit that may be lifted by a null. -/
def limitOfJson? : Json → Option (Option Nat)
  | .null => some none
  | j => j.count?.map some

def ExecConfig.ofJson? (j : Json) : Option ExecConfig := do
  let base : ExecConfig := {}
  if !j.isRecordOf 5 then none
  let dialect ← j.partOr? 0 "dialect" Dialect.ofJson? base.dialect
  let namePrefix ← j.partOr? 1 "statement_prefix" Json.text? base.namePrefix
  let deallocate ← j.partOr? 2 "deallocate_after_batch" Json.bool? base.deallocateAfterBatch
  let logLevel ← j.partOr? 3 "log_level" LogLevel.ofJson? base.logLevel
  let maxSqlLength ← j.partOr? 4 "max_sql_length" limitOfJson? base.maxSqlLength
  return ⟨dialect, namePrefix, deallocate, logLevel, maxSqlLength⟩

/-- The document of a configuration; `level` is the severity at which statements are logged. -/
def ExecConfig.toJson (c : ExecConfig) : Json :=
  .obj [("dialect", .str c.dialect.name), ("statement_prefix", .str c.namePrefix),
    ("deallocate_after_batch", .bool c.deallocateAfterBatch),
    ("log_level", .str c.logLevel.name),
    ("level", c.logLevel.severity?.elim .null fun s => .str s.name),
    ("max_sql_length", c.maxSqlLength.elim .null fun n => .int n)]

def ExecConfig.Setter.ofJson? : Json → Option ExecConfig.Setter
  | .arr [.str "dialect", d] => (Dialect.ofJson? d).map .dialect
  | .arr [.str "prefix", p] => p.text?.map .namePrefix
  | .arr [.str "keep"] => some .keepBatchStatements
  | .arr [.str "log", l] => (LogLevel.ofJson? l).map .logLevel
  | .arr [.str "max", n] => n.natural?.map .maxSqlLength
  | .arr [.str "no_truncate"] => some .noTruncate
  | _ => none

def PoolLimits.ofJson? (j : Json) : Option PoolLimits := do
  let base : PoolLimits := {}
  if !j.isRecordOf 7 then none
  let writers ← j.partOr? 0 "writers" Json.count? base.writers
  let argLists ← j.partOr? 1 "arg_lists" Json.count? base.argLists
  let exprs ← j.partOr? 2 "exprs" Json.count? base.exprs
  let condLists ← j.partOr? 3 "cond_lists" Json.count? base.condLists
  let rows ← j.partOr? 4 "rows" Json.count? base.rows
  let stmts ← j.partOr? 5 "stmts" Json.count? base.stmts
  let subStmts ← j.partOr? 6 "sub_stmts" Json.count? base.subStmts
  return ⟨writers, argLists, exprs, condLists, rows, stmts, subStmts⟩

def PoolLimits.toJson (l : PoolLimits) : Json :=
  .obj [("writers", .int l.writers), ("arg_lists", .int l.argLists), ("exprs", .int l.exprs),
    ("cond_lists", .int l.condLists), ("rows", .int l.rows), ("stmts", .int l.stmts),
    ("sub_stmts", .int l.subStmts)]

end SqlCompose
