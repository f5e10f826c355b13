import SqlCompose.Text.Marker
import SqlCompose.Json.Basic

/-! # Configuration

How statements are executed and logged (`ExecConfig`) and how many idle objects the pools keep
(`PoolLimits`).  A configuration is the default, changed by setters, or read from a JSON document:
an object by name, or a list by position.  What is missing has its default, unknown names are
ignored, and a value of the wrong kind refuses the document.
-/

namespace SqlCompose

/-- The importance of a log event. -/
inductive Severity where
  | error
  | warn
  | info
  | debug
  | trace
  deriving DecidableEq, Repr

def Severity.name : Severity → String
  | error => "ERROR"
  | warn => "WARN"
  | info => "INFO"
  | debug => "DEBUG"
  | trace => "TRACE"

/-- At which severity statements are logged, if they are. -/
inductive LogLevel where
  | off
  | at (s : Severity)
  deriving DecidableEq, Repr

namespace LogLevel

def severity? : LogLevel → Option Severity
  | off => none
  | .at s => some s

def ofName? : String → Option LogLevel
  | "off" => some off
  | "error" => some (.at .error)
  | "warn" => some (.at .warn)
  | "info" => some (.at .info)
  | "debug" => some (.at .debug)
  | "trace" => some (.at .trace)
  | _ => none

def name : LogLevel → String
  | off => "off"
  | .at .error => "error"
  | .at .warn => "warn"
  | .at .info => "info"
  | .at .debug => "debug"
  | .at .trace => "trace"

end LogLevel

/-- How statements are executed. -/
structure ExecConfig where
  dialect : Dialect := .postgres
  /-- What the names of prepared statements begin with. -/
  namePrefix : String := "sql_"
  /-- Whether a prepared statement is given back after its batch. -/
  deallocateAfterBatch : Bool := true
  logLevel : LogLevel := .at .debug
  /-- How many octets of a statement are logged; all of them without a limit. -/
  maxSqlLength : Option Nat := some 200
  deriving DecidableEq, Inhabited

namespace ExecConfig

/-- A change of a configuration. -/
inductive Setter where
  | dialect (d : Dialect)
  | namePrefix (p : String)
  | keepBatchStatements
  | logLevel (l : LogLevel)
  | maxSqlLength (n : Nat)
  | noTruncate

def set (c : ExecConfig) : Setter → ExecConfig
  | .dialect d => { c with dialect := d }
  | .namePrefix p => { c with namePrefix := p }
  | .keepBatchStatements => { c with deallocateAfterBatch := false }
  | .logLevel l => { c with logLevel := l }
  | .maxSqlLength n => { c with maxSqlLength := some n }
  | .noTruncate => { c with maxSqlLength := none }

/-- The default with changes, made in order. -/
def build (setters : List Setter) : ExecConfig :=
  setters.foldl set {}

end ExecConfig

/-- How many idle objects each pool keeps. -/
structure PoolLimits where
  writers : Nat := 256
  argLists : Nat := 1024
  exprs : Nat := 1024
  condLists : Nat := 1024
  rows : Nat := 1024
  stmts : Nat := 256
  subStmts : Nat := 256
  deriving DecidableEq, Inhabited

end SqlCompose
