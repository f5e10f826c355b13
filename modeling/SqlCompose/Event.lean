import SqlCompose.Config
import SqlCompose.Error

/-! # Log events

What is told to the log, as causes.  An event goes to a target, has a severity, and shows fields of
text.
-/

namespace SqlCompose

/-- An event for the log. -/
inductive Event where
  /-- A statement is about to be executed. -/
  | statement (severity : Severity) (kind : StmtKind) (arguments groups : Nat) (sql : String)
  /-- A prepared statement could not be given back. -/
  | deallocateFailed (name : String) (error : SqlError)
  /-- Some rows of a batch failed. -/
  | rowsFailed (name : String) (rows failed : Nat) (affected : UInt64)
  /-- A statement name stands for other SQL already. -/
  | nameTaken (name : String)
  /-- The limits of the pools were set. -/
  | poolLimits (limits : PoolLimits)

namespace Event

def target : Event → String
  | statement .. => "sqlstmt.sql"
  | deallocateFailed .. => "sqlstmt.exec"
  | rowsFailed .. => "sqlstmt.exec"
  | nameTaken _ => "sqlstmt.exec"
  | poolLimits _ => "sqlstmt.pool"

def severity : Event → Severity
  | statement severity .. => severity
  | poolLimits _ => .debug
  | _ => .warn

def fields : Event → List (String × String)
  | statement _ kind arguments groups sql =>
    [("kind", kind.name), ("param_count", toString arguments), ("rows", toString groups),
      ("sql", sql)]
  | deallocateFailed name error =>
    [("statement", name), ("error", error.message),
      ("message", "failed to deallocate batch statement")]
  | rowsFailed name rows failed affected =>
    [("statement", name), ("rows", toString rows), ("failed", toString failed),
      ("affected", toString affected.toNat), ("message", "batch insert had failing rows")]
  | nameTaken name =>
    [("statement", name),
      ("message", "statement name already holds different SQL, preparing unregistered")]
  | poolLimits l =>
    [("writers", toString l.writers), ("arg_lists", toString l.argLists),
      ("exprs", toString l.exprs), ("cond_lists", toString l.condLists),
      ("rows", toString l.rows), ("stmts", toString l.stmts),
      ("sub_stmts", toString l.subStmts), ("message", "pool limits applied")]

end Event

end SqlCompose
