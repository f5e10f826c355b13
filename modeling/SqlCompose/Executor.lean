import SqlCompose.Digest.SipHash
import SqlCompose.Event
import SqlCompose.Executor.Driver
import SqlCompose.Stmt.Render
import SqlCompose.Text.Excerpt

/-! # Executing statements

An executor renders a statement and hands it to a driver.  An INSERT of several rows is prepared and
sent as a batch with one group of arguments per row; a SELECT is a query; everything else is
executed.  A statement that cannot be rendered never reaches the driver.

Of a batch in which rows failed, the others still count: the error tells how many rows they affected
and which rows failed.  A prepared statement that cannot be given back is logged and changes no
result.
-/

namespace SqlCompose

structure Executor (m : Type → Type) (Handle : Type) where
  driver : Driver m Handle
  config : ExecConfig := {}
  /-- Where log events go. -/
  emit : Event → m Unit

namespace Executor

variable {m : Type → Type} [Monad m] {Handle α : Type} (ex : Executor m Handle)

/-- Log a rendered statement, at the level of the configuration. -/
def log (kind : StmtKind) (w : Writer) : m Unit :=
  match ex.config.logLevel.severity? with
  | none => pure ()
  | some severity =>
    let sql := match ex.config.maxSqlLength with
      | some limit => excerpt w.text limit
      | none => w.text
    ex.emit (.statement severity kind w.args.length w.groups.length sql)

/-- The failed ones of some results, with their positions from `index` on. -/
def failures : (index : Nat) → List (Except SqlError UInt64) → List RowFailure
  | _, [] => []
  | index, .ok _ :: rest => failures (index + 1) rest
  | index, .error e :: rest => ⟨index, e⟩ :: failures (index + 1) rest

/-- The rows that the successful ones of some results affected. -/
def affected (results : List (Except SqlError UInt64)) : UInt64 :=
  results.foldl (fun acc r => match r with | .ok n => acc + n | .error _ => acc) 0

/-- The outcome of a batch from its results. -/
def report (name : String) (rows : Nat) (results : List (Except SqlError UInt64)) :
    m (Except SqlError UInt64) := do
  match failures 0 results with
  | [] => return .ok (affected results)
  | failed =>
    ex.emit (.rowsFailed name rows failed.length (affected results))
    return .error (.batch (affected results) failed)

/-- Give a batch's statement back, or let go of it, as the configuration says. -/
def finish (name : String) (handle : Handle) : m Unit := do
  if ex.config.deallocateAfterBatch then
    match ← ex.driver.deallocate handle with
    | .ok () => pure ()
    | .error e => ex.emit (.deallocateFailed name e)
  else ex.driver.release handle

/-- Execute a rendered statement once per group of arguments. -/
def execBatch (w : Writer) : m (Except SqlError UInt64) := do
  let name := statementName ex.config.namePrefix w.text
  match ← ex.driver.prepare name w.text with
  | .error e => return .error e
  | .ok handle =>
    let results ← ex.driver.sendBatch handle w.groups
    ex.finish name handle
    match results with
    | .error e => return .error e
    | .ok results => ex.report name w.groups.length results

/-- Execute a statement; the number of rows it affected, or found if it is a SELECT. -/
def exec (s : Stmt) : m (Except SqlError UInt64) := do
  match s.build ex.config.dialect with
  | .error e => return .error e
  | .ok w =>
    ex.log s.kind w
    if !w.groups.isEmpty then ex.execBatch w
    else match s.kind with
      | .select => return (← ex.driver.query w.text w.args).map fun rows => .ofNat rows.length
      | _ => ex.driver.exec w.text w.args

/-- The rows of a SELECT. -/
def queryRows (s : Stmt) : m (Except SqlError (List Row)) := do
  if s.kind ≠ .select then return .error (.unsupported (.cannotFetch s.kind))
  match s.build ex.config.dialect with
  | .error e => return .error e
  | .ok w =>
    ex.log s.kind w
    ex.driver.query w.text w.args

/-- The rows of a SELECT, each read. -/
def fetchAll (read : Row → Except SqlError α) (s : Stmt) : m (Except SqlError (List α)) :=
  return (← ex.queryRows s).bind fun rows => rows.mapM read

/-- The first row of a SELECT, read; it is an error if there is none. -/
def fetchOne (read : Row → Except SqlError α) (s : Stmt) : m (Except SqlError α) :=
  return (← ex.queryRows s).bind fun rows =>
    match rows with
    | [] => .error .rowNotFound
    | row :: _ => read row

/-- The rows of a SELECT as maps by column name. -/
def fetchMaps (s : Stmt) : m (Except SqlError (List (KeyMap Value))) :=
  ex.fetchAll Row.toMap s

/-- The rows of a SELECT as lists of values. -/
def fetchArrays (s : Stmt) : m (Except SqlError (List (List Value))) :=
  ex.fetchAll Row.toArray s

end Executor

end SqlCompose
