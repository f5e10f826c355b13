/-! # Kinds of statements and shapes of inputs

The names by which messages and log events speak of statements and of what builder calls are given.
-/

namespace SqlCompose

/-- What a statement does; `raw` until a call decides it. -/
inductive StmtKind where
  | raw
  | insert
  | delete
  | update
  | select
  deriving DecidableEq, Repr, Inhabited

def StmtKind.name : StmtKind → String
  | raw => "RAW"
  | insert => "INSERT"
  | delete => "DELETE"
  | update => "UPDATE"
  | select => "SELECT"

/-- The shapes of what a builder call may be given. -/
inductive InputShape where
  | nothing
  | table
  | record
  | recordType
  | map
  | row
  | statement
  deriving DecidableEq, Repr

def InputShape.name : InputShape → String
  | nothing => "nothing"
  | table => "table name"
  | record => "record"
  | recordType => "record type"
  | map => "map"
  | row => "row"
  | statement => "sub-statement"

/-- The places of a statement that accept some shapes of input and refuse others. -/
inductive InputPlace where
  | target
  | values
  | valuesBulk
  | source
  | assignments
  deriving DecidableEq, Repr

/-- The call that fills a place. -/
def InputPlace.name : InputPlace → String
  | target => "into_table"
  | values => "values"
  | valuesBulk => "values_bulk"
  | source => "from"
  | assignments => "set_all"

end SqlCompose
