import SqlCompose.Event
import SqlCompose.Executor.Driver

/-! # A driver that plays back answers

A driver without a database: it takes its answers from queues and keeps a transcript of the calls
made on it.  Where a queue is empty, or holds nothing at its front, the answer is the plainest
success.
-/

namespace SqlCompose.Playback

/-- A prepared statement: its name, and which preparation made it, counted from one; preparations
that fail are counted as well. -/
structure Handle where
  name : String
  number : Nat
  deriving DecidableEq

inductive DriverCall where
  | exec (sql : String) (args : List Value)
  | query (sql : String) (args : List Value)
  | prepare (name sql : String)
  | batch (handle : Handle) (entries : List (List Value))
  | deallocate (handle : Handle)

/-- Answers in the order of the calls they are for; nothing stands for the plainest success. -/
abbrev Queue (α : Type) := List (Option (Except SqlError α))

/-- Take the answer at the front of a queue. -/
def Queue.take {α : Type} (q : Queue α) (plain : α) : Except SqlError α × Queue α :=
  match q with
  | some answer :: rest => (answer, rest)
  | none :: rest => (.ok plain, rest)
  | [] => (.ok plain, [])

/-- The answers to come and what has happened. -/
structure State where
  execs : Queue UInt64 := []
  queries : Queue (List Row) := []
  preparations : Queue Unit := []
  batches : Queue (List (Except SqlError UInt64)) := []
  deallocations : Queue Unit := []
  /-- How many preparations have been asked for. -/
  prepared : Nat := 0
  calls : List DriverCall := []
  events : List Event := []

/-- Actions on the answers and the transcript. -/
abbrev Session := StateM State

def note (call : DriverCall) : Session Unit :=
  modify fun s => { s with calls := s.calls ++ [call] }

def emit (event : Event) : Session Unit :=
  modify fun s => { s with events := s.events ++ [event] }

def exec (sql : String) (args : List Value) : Session (Except SqlError UInt64) := do
  note (.exec sql args)
  let s ← get
  let (answer, rest) := s.execs.take 1
  set { s with execs := rest }
  return answer

def query (sql : String) (args : List Value) : Session (Except SqlError (List Row)) := do
  note (.query sql args)
  let s ← get
  let (answer, rest) := s.queries.take []
  set { s with queries := rest }
  return answer

def prepare (name sql : String) : Session (Except SqlError Handle) := do
  note (.prepare name sql)
  let s ← get
  let (answer, rest) := s.preparations.take ()
  let number := s.prepared + 1
  set { s with preparations := rest, prepared := number }
  return answer.map fun () => ⟨name, number⟩

/-- Send a batch; the plainest success affects one row per entry. -/
def sendBatch (handle : Handle) (entries : List (List Value)) :
    Session (Except SqlError (List (Except SqlError UInt64))) := do
  note (.batch handle entries)
  let s ← get
  let (answer, rest) := s.batches.take (entries.map fun _ => .ok 1)
  set { s with batches := rest }
  return answer

def deallocate (handle : Handle) : Session (Except SqlError Unit) := do
  note (.deallocate handle)
  let s ← get
  let (answer, rest) := s.deallocations.take ()
  set { s with deallocations := rest }
  return answer

def driver : Driver Session Handle where
  exec := exec
  query := query
  prepare := prepare
  sendBatch := sendBatch
  deallocate := deallocate
  release _ := pure ()
  begin := Driver.command exec "BEGIN"
  commit := Driver.command exec "COMMIT"
  rollback := Driver.command exec "ROLLBACK"

end SqlCompose.Playback
