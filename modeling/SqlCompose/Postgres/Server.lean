import SqlCompose.Postgres.Decode
import SqlCompose.Postgres.Encode
import SqlCompose.Text.Digits

/-! # A server that follows a script

The script tells, for an SQL text, the parameters and columns of its statement, whether preparing it
is refused, and the replies to its executions in order, the last of which is repeated.  SQL that the
script does not know has neither parameters nor columns and is executed with the plainest reply.

The server keeps a transcript of what it was asked.  Its statements are numbered from one in the
order in which they were prepared.
-/

namespace SqlCompose.Postgres

/-- What a server says when it refuses. -/
structure ServerError where
  /-- The five characters of the state code. -/
  code : String
  message : String
  constraint : Option String := none

/-- The error that a refusal is: violated constraints are told apart by the state code. -/
def ServerError.toError (e : ServerError) : SqlError :=
  let detail := e.constraint.getD "unknown" ++ ": " ++ e.message
  match e.code with
  | "23505" => .uniqueViolation detail
  | "23503" => .foreignKeyViolation detail
  | "23514" => .checkViolation detail
  | code => .query (.database code)

/-- What an execution yields: rows of cells, and the tag of the command. -/
structure Answer where
  rows : List (List Cell) := []
  tag : String := "INSERT 0 1"

/-- A number of sixty-four bits in decimal, possibly after a plus sign. -/
def count? (word : List Char) : Option UInt64 :=
  (naturalOfText? word).bind fun n => if n < UInt64.size then some (.ofNat n) else none

/-- The number of affected rows that ends a tag; zero if no number does. -/
def Answer.affected (a : Answer) : UInt64 :=
  (count? (a.tag.toList.reverse.takeWhile (· ≠ ' ')).reverse).getD 0

/-- What a script says of an SQL text. -/
structure ScriptEntry where
  sql : String
  parameters : List DataType := []
  columns : List Column := []
  /-- Why the text is refused, if it is. -/
  refusal : Option ServerError := none
  replies : List (Except ServerError Answer) := []

structure Prepared where
  number : Nat
  sql : String
  parameters : List DataType
  columns : List Column

/-- What a server was asked. -/
inductive Exchange where
  | parse (sql : String)
  | execute (number : Nat) (parameters : List Cell)
  | close (number : Nat)
  | simple (sql : String)

/-- A server with a script. -/
structure Server where
  script : List ScriptEntry := []
  /-- How many statements have been prepared. -/
  prepared : Nat := 0
  /-- The SQL of every execution. -/
  executed : List String := []
  transcript : List Exchange := []

namespace Server

def note (s : Server) (e : Exchange) : Server :=
  { s with transcript := s.transcript ++ [e] }

/-- What the script says of an SQL text. -/
def entry (s : Server) (sql : String) : ScriptEntry :=
  (s.script.find? (·.sql == sql)).getD { sql }

def prepare (s : Server) (sql : String) : Except ServerError Prepared × Server :=
  let entry := s.entry sql
  let s := s.note (.parse sql)
  match entry.refusal with
  | some e => (.error e, s)
  | none =>
    let number := s.prepared + 1
    (.ok ⟨number, sql, entry.parameters, entry.columns⟩, { s with prepared := number })

/-- The reply to the execution after `done` ones. -/
def replyAfter : (replies : List (Except ServerError Answer)) → (done : Nat) →
    Except ServerError Answer
  | [], _ => .ok {}
  | [last], _ => last
  | first :: _, 0 => first
  | _ :: rest, done + 1 => replyAfter rest done

def execute (s : Server) (p : Prepared) (parameters : List Cell) :
    Except ServerError Answer × Server :=
  let reply := replyAfter (s.entry p.sql).replies (s.executed.count p.sql)
  (reply, { s.note (.execute p.number parameters) with executed := s.executed ++ [p.sql] })

/-- Forget a statement. -/
def close (s : Server) (number : Nat) : Server :=
  s.note (.close number)

/-- Execute an SQL text without preparing it. -/
def simple (s : Server) (sql : String) : Except ServerError Unit × Server :=
  let s := s.note (.simple sql)
  match (s.entry sql).refusal with
  | some e => (.error e, s)
  | none => (.ok (), s)

end Server

/-- Encode the parameters of a statement: there must be as many as it has, and each must fit the
type of its place. -/
def encodeParameters (types : List DataType) (args : List Value) : Except SqlError (List Cell) := do
  if types.length ≠ args.length then throw (.query (.parameterCount types.length args.length))
  (args.zip types).zipIdx.mapM fun ((v, t), index) =>
    match encode v t with
    | .ok cell => .ok cell
    | .error _ => .error (.query (.parameter index))

end SqlCompose.Postgres
