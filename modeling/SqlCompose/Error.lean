import SqlCompose.Stmt.Kind
import SqlCompose.Value.Typed

/-! # Errors

What can go wrong while a statement is assembled, executed and its rows are read, as causes.  The
wording of every cause is in `SqlError.message` and the functions under it.
-/

namespace SqlCompose

/-- Why a statement is not supported. -/
inductive Unsupported where
  /-- No call has given the statement a kind. -/
  | kindNotSet
  /-- An UPDATE that sets nothing. -/
  | nothingToSet
  /-- A row with another number of values than there are columns. -/
  | rowLength (row values columns : Nat)
  /-- A row whose text differs from that of the first row. -/
  | rowShape (row : Nat)
  /-- A place of the statement was given an input it has no use for. -/
  | input (place : InputPlace) (shape : InputShape)
  /-- A record type without a table stands where a table is needed. -/
  | recordWithoutTable (key : String)
  /-- A condition compares a column with a sub-statement. -/
  | conditionOnStatement (column : String)
  /-- Rows are asked of a statement that is no SELECT. -/
  | cannotFetch (kind : StmtKind)
  /-- Any other cause, in words. -/
  | other (text : String)
  deriving DecidableEq, Repr

def Unsupported.message : Unsupported → String
  | kindNotSet => "statement kind is not set"
  | nothingToSet => "UPDATE without SET columns"
  | rowLength row values columns =>
    "row " ++ toString row ++ " has " ++ toString values ++ " values for " ++ toString columns
      ++ " INSERT columns"
  | rowShape row =>
    "row " ++ toString row ++ " of a multi-row INSERT differs in shape from row 0"
  | input place shape => place.name ++ " does not accept a " ++ shape.name
  | recordWithoutTable key => "record type " ++ key ++ " has no table name"
  | conditionOnStatement column => "condition on " ++ column ++ " cannot hold a sub-statement"
  | cannotFetch kind => "cannot fetch rows from a " ++ kind.name ++ " statement"
  | other text => text

/-- Why a column of a row cannot be read. -/
inductive Undecodable where
  | columnNotFound
  | columnUnnamed
  | indexOutOfRange
  /-- The value of the cell does not fit the type asked for. -/
  | value (error : ValueError)
  /-- The octets of a cell are not of the column's format. -/
  | malformed (index : Nat)
  /-- Columns of this type are not read. -/
  | unsupportedType (name : String)
  /-- Any other cause, in words. -/
  | other (text : String)
  deriving DecidableEq, Repr

def Undecodable.message : Undecodable → String
  | columnNotFound => "column not found"
  | columnUnnamed => "column has no name"
  | indexOutOfRange => "column index out of range"
  | value error => error.message
  | malformed index => "error deserializing column " ++ toString index
  | unsupportedType name => "unsupported column type " ++ name
  | other text => text

/-- Why a query failed. -/
inductive QueryFailure where
  /-- The database refused, with a five-character state code. -/
  | database (state : String)
  /-- The statement has another number of parameters than were given. -/
  | parameterCount (expected given : Nat)
  /-- A parameter cannot be written in the type the statement expects. -/
  | parameter (index : Nat)
  /-- A message to the server cannot hold what is to be sent. -/
  | unsendable
  /-- The server sent what its own description of the result rules out. -/
  | malformedResponse
  deriving DecidableEq, Repr

def QueryFailure.message : QueryFailure → String
  | database _ => "db error"
  | parameterCount expected given =>
    "expected " ++ toString expected ++ " parameters but got " ++ toString given
  | parameter index => "error serializing parameter " ++ toString index
  | unsendable => "error encoding message to server"
  | malformedResponse => "error parsing response from server"

/-- The state code, if the database sent one. -/
def QueryFailure.state? : QueryFailure → Option String
  | database state => some state
  | _ => none

mutual
/-- Errors of assembling, executing and reading. -/
inductive SqlError where
  /-- No target table, or no source. -/
  | noTableName
  | noColumnToInsert
  | noValueToInsert
  /-- A negative limit or offset. -/
  | invalidLimitation
  | unsupported (cause : Unsupported)
  | rowNotFound
  | decode (column : String) (cause : Undecodable)
  | query (failure : QueryFailure)
  | uniqueViolation (detail : String)
  | foreignKeyViolation (detail : String)
  | checkViolation (detail : String)
  /-- Some rows of a batch failed; `affected` counts the others. -/
  | batch (affected : UInt64) (failures : List RowFailure)
  /-- A mark does not lie inside the text and arguments of a writer. -/
  | lostMark
  | other (text : String)
structure RowFailure where
  /-- The position of the row in the batch, from zero. -/
  index : Nat
  error : SqlError
end

namespace SqlError

instance : Inhabited SqlError := ⟨.noTableName⟩

mutual
def message : SqlError → String
  | noTableName => "no table name"
  | noColumnToInsert => "no column to insert"
  | noValueToInsert => "no value to insert"
  | invalidLimitation => "invalid limitation: limit and offset must be non-negative"
  | unsupported cause => "not supported type: " ++ cause.message
  | rowNotFound => "row not found"
  | decode column cause => "Decode error on column '" ++ column ++ "': " ++ cause.message
  | query failure => "Query error: " ++ failure.message
  | uniqueViolation detail => "Unique constraint violation: " ++ detail
  | foreignKeyViolation detail => "Foreign key violation: " ++ detail
  | checkViolation detail => "Check constraint violation: " ++ detail
  | batch affected failures =>
    "batch failed for " ++ toString failures.length ++ " row(s), " ++ toString affected.toNat
      ++ " row(s) affected" ++ failureList failures
  | lostMark => "mark outside the written text"
  | other text => text
/-- Every failed row in words, each after a semicolon. -/
def failureList : List RowFailure → String
  | [] => ""
  | ⟨index, error⟩ :: rest =>
    "; row " ++ toString index ++ ": " ++ error.message ++ failureList rest
end

/-- Whether a single-row fetch found no row. -/
def isRowNotFound : SqlError → Bool
  | rowNotFound => true
  | _ => false

/-- Whether a unique constraint was violated. -/
def isUniqueViolation : SqlError → Bool
  | uniqueViolation _ => true
  | _ => false

/-- Whether the error is one of assembling, raised before any call of a driver. -/
def isStructural : SqlError → Bool
  | noTableName => true
  | noColumnToInsert => true
  | noValueToInsert => true
  | invalidLimitation => true
  | unsupported _ => true
  | _ => false

end SqlError

def RowFailure.message (f : RowFailure) : String :=
  "row " ++ toString f.index ++ ": " ++ f.error.message

end SqlCompose
