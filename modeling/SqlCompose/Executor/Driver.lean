import SqlCompose.Row

/-! # Drivers

What an executor asks of a database connection.  A driver answers in a monad `m`, which is where its
state is; `Handle` stands for a prepared statement.
-/

namespace SqlCompose

/-- A connection to a database.  Every call may fail. -/
structure Driver (m : Type → Type) (Handle : Type) where
  /-- Execute a statement; the number of rows it affected. -/
  exec : (sql : String) → (args : List Value) → m (Except SqlError UInt64)
  /-- Execute a query; its rows. -/
  query : (sql : String) → (args : List Value) → m (Except SqlError (List Row))
  /-- Prepare a statement under a name. -/
  prepare : (name sql : String) → m (Except SqlError Handle)
  /-- Execute a prepared statement once per group of arguments; a result for each, in order, unless
  nothing could be sent. -/
  sendBatch : Handle → List (List Value) → m (Except SqlError (List (Except SqlError UInt64)))
  /-- Give a prepared statement back, with the handle. -/
  deallocate : Handle → m (Except SqlError Unit)
  /-- Let go of a handle without giving the statement back. -/
  release : Handle → m Unit
  begin : m (Except SqlError Unit)
  commit : m (Except SqlError Unit)
  rollback : m (Except SqlError Unit)

namespace Driver

/-- Execute a word that affects no rows. -/
def command {m : Type → Type} [Monad m] (exec : String → List Value → m (Except SqlError UInt64))
    (word : String) : m (Except SqlError Unit) :=
  return (← exec word []).map fun _ => ()

end Driver

end SqlCompose
