import SqlCompose.Event
import SqlCompose.Executor.Driver
import SqlCompose.Postgres.Registry
import SqlCompose.Postgres.Server

/-! # A client with a statement registry

The client prepares statements under names and reuses the statement of a name for the same SQL.
Preparing takes four steps, between which other work of the same client may happen: the name is
looked up, the server prepares the statement, its handle is numbered, and the handle is registered.
A statement whose name turned out to stand for other SQL is used unregistered; one that was
registered by somebody else meanwhile gives way to theirs.

A statement lives on the server as long as handles refer to it, the registry's handle included, and
is closed with the last of them.
-/

namespace SqlCompose.Postgres

/-- A handle on a prepared statement. -/
structure Handle where
  /-- The name it was prepared under. -/
  name : String
  /-- Tells apart the statements that were prepared under one name. -/
  id : UInt64
  statement : Prepared

/-- A client and the server it talks to. -/
structure Client where
  server : Server := {}
  registry : Registry Handle := .empty
  nextId : UInt64 := 0
  /-- The number of the statement of every living handle. -/
  references : List Nat := []
  events : List Event := []

abbrev Dialogue := StateM Client

namespace Client

def ask {α : Type} (question : Server → α × Server) : Dialogue α := do
  let c ← get
  let (answer, server) := question c.server
  set { c with server }
  return answer

def emit (event : Event) : Dialogue Unit :=
  modify fun c => { c with events := c.events ++ [event] }

/-- Make one more handle on a statement. -/
def retain (h : Handle) : Dialogue Unit :=
  modify fun c => { c with references := h.statement.number :: c.references }

/-- Let go of a handle; the statement is closed with the last one. -/
def release (h : Handle) : Dialogue Unit :=
  modify fun c =>
    let references := c.references.erase h.statement.number
    if h.statement.number ∈ references then { c with references }
    else { c with references, server := c.server.close h.statement.number }

/-! ## Preparing -/

/-- Whether a message can hold a text: a zero character would end it there. -/
def isSendable (text : String) : Bool :=
  !text.toList.contains '\x00'

/-- Have the server prepare a statement from an SQL text. -/
def parse (sql : String) : Dialogue (Except SqlError Prepared) :=
  if isSendable sql then return (← ask (·.prepare sql)).mapError (·.toError)
  else return .error (.query .unsendable)

/-- A preparation that ends within `n` steps. -/
inductive Preparation : Nat → Type where
  | started (name sql : String) : Preparation 4
  /-- The name was not found, or stands for other SQL and is not to be registered. -/
  | missed (name sql : String) (register : Bool) : Preparation 3
  /-- The server has prepared the statement. -/
  | answered (name sql : String) (register : Bool) (statement : Prepared) : Preparation 2
  /-- The statement has a handle, which is to be registered. -/
  | numbered (sql : String) (handle : Handle) : Preparation 1
  | finished {n : Nat} (result : Except SqlError Handle) : Preparation n

/-- Look up a name; if it stands for this SQL, its statement is the result. -/
def lookUp (name sql : String) : Dialogue (Preparation 3) := do
  match (← get).registry.lookup name sql with
  | .hit h =>
    retain h
    return .finished (.ok h)
  | .miss => return .missed name sql true
  | .collision =>
    emit (.nameTaken name)
    return .missed name sql false

/-- Have the server prepare a statement under a name.  When that fails, it is the result. -/
def request (name sql : String) (register : Bool) : Dialogue (Preparation 2) := do
  match ← parse sql with
  | .ok statement => return .answered name sql register statement
  | .error e => return .finished (.error e)

/-- Make the handle of a statement; unless it is to be registered, it is the result. -/
def number (name sql : String) (register : Bool) (statement : Prepared) :
    Dialogue (Preparation 1) := do
  let c ← get
  let h : Handle := ⟨name, c.nextId, statement⟩
  set { c with nextId := c.nextId + 1 }
  retain h
  return if register then .numbered sql h else .finished (.ok h)

/-- Register a handle if its name is still free.  A handle that was registered for the same SQL
meanwhile takes the place of the new one. -/
def enter (sql : String) (h : Handle) : Dialogue (Preparation 0) := do
  let c ← get
  let (used, registry) := c.registry.insertIfAbsent h.name sql h
  set { c with registry }
  match c.registry.lookup h.name sql with
  | .hit _ =>
    retain used
    release h
  | .miss => retain h
  | .collision => pure ()
  return .finished (.ok used)

/-- The next step of a preparation. -/
def Preparation.step : {n : Nat} → Preparation (n + 1) → Dialogue (Preparation n)
  | _, .started name sql => lookUp name sql
  | _, .missed name sql register => request name sql register
  | _, .answered name sql register statement => number name sql register statement
  | _, .numbered sql h => enter sql h
  | _, .finished result => return .finished result

/-- The result of a preparation that has ended. -/
def Preparation.result : Preparation 0 → Except SqlError Handle
  | .finished result => result

/-- Prepare a statement under a name. -/
def prepare (name sql : String) : Dialogue (Except SqlError Handle) := do
  let p ← (Preparation.started name sql).step
  let p ← p.step
  let p ← p.step
  let p ← p.step
  return p.result

/-- Two preparations started together: both names are looked up before the server answers the first
of them, and the second statement is registered before the first. -/
def prepareTogether (name₁ sql₁ name₂ sql₂ : String) :
    Dialogue (Except SqlError Handle × Except SqlError Handle) := do
  let p₁ ← (Preparation.started name₁ sql₁).step
  let p₂ ← (Preparation.started name₂ sql₂).step
  let p₁ ← p₁.step
  let p₂ ← p₂.step
  let p₂ ← p₂.step
  let p₂ ← p₂.step
  let p₁ ← p₁.step
  let p₁ ← p₁.step
  return (p₁.result, p₂.result)

/-- Give a statement back: let go of the handle, and of the registry's if it is on the same
statement.  An entry that was registered under the name since then stays. -/
def deallocate (h : Handle) : Dialogue (Except SqlError Unit) := do
  let c ← get
  let (removed, registry) := c.registry.removeIf h.name (·.id == h.id)
  set { c with registry }
  if removed then release h
  release h
  return .ok ()

/-! ## Executing -/

/-- Execute a prepared statement.  The server is not asked if the arguments do not fit. -/
def execute (statement : Prepared) (args : List Value) : Dialogue (Except SqlError Answer) := do
  match encodeParameters statement.parameters args with
  | .error e => return .error e
  | .ok cells => return (← ask (·.execute statement cells)).mapError (·.toError)

/-- Prepare a statement, execute it and close it again; its columns and what it yields. -/
def runOnce (sql : String) (args : List Value) :
    Dialogue (Except SqlError (List Column × Answer)) := do
  match ← parse sql with
  | .error e => return .error e
  | .ok statement =>
    let answer ← execute statement args
    modify fun c => { c with server := c.server.close statement.number }
    return answer.map (statement.columns, ·)

def exec (sql : String) (args : List Value) : Dialogue (Except SqlError UInt64) :=
  return (← runOnce sql args).map fun (_, answer) => answer.affected

def query (sql : String) (args : List Value) : Dialogue (Except SqlError (List Row)) :=
  return (← runOnce sql args).bind fun (columns, answer) => answer.rows.mapM (receiveRow columns)

/-- Execute a prepared statement once per group of arguments. -/
def sendBatch (h : Handle) (groups : List (List Value)) :
    Dialogue (Except SqlError (List (Except SqlError UInt64))) := do
  let results ← groups.mapM (execute h.statement)
  return .ok (results.map fun r => r.map (·.affected))

/-- Send a word that has no parameters and yields nothing. -/
def command (word : String) : Dialogue (Except SqlError Unit) :=
  return (← ask (·.simple word)).mapError (·.toError)

def driver : Driver Dialogue Handle where
  exec := exec
  query := query
  prepare := prepare
  sendBatch := sendBatch
  deallocate := deallocate
  release := release
  begin := command "BEGIN"
  commit := command "COMMIT"
  rollback := command "ROLLBACK"

end Client

end SqlCompose.Postgres
