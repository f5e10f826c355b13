import SqlCompose.Error
import SqlCompose.Value.Document

/-! # Errors in documents

An error as a JSON object with its kind and its text.  What a program may want to look at without
taking the text apart has a member of its own: the state code of a database error, and the failed
rows of a batch.
-/

namespace SqlCompose.SqlError

def kindName : SqlError → String
  | noTableName => "NoTableName"
  | noColumnToInsert => "NoColumnToInsert"
  | noValueToInsert => "NoValueToInsert"
  | invalidLimitation => "InvalidLimitation"
  | unsupported _ => "NotSupportedType"
  | rowNotFound => "RowNotFound"
  | decode .. => "Decode"
  | query _ => "Query"
  | uniqueViolation _ => "UniqueViolation"
  | foreignKeyViolation _ => "ForeignKeyViolation"
  | checkViolation _ => "CheckViolation"
  | batch .. => "Batch"
  | lostMark => "LostMark"
  | other _ => "Other"

mutual
/-- What is told beside the kind and the text. -/
def details : SqlError → List (String × Json)
  | query (.database state) => [("sqlstate", .str state)]
  | batch affected failures =>
    [("affected", .ofInteger affected.toNat),
      ("failed_rows", .arr (failures.map fun f => .int f.index)),
      ("failures", .arr (failureDocuments failures))]
  | _ => []
/-- The documents of the errors of failed rows. -/
def failureDocuments : List RowFailure → List Json
  | [] => []
  | ⟨_, e⟩ :: rest =>
    .obj ([("error", .str e.kindName), ("message", .str e.message)] ++ e.details)
      :: failureDocuments rest
end

def members (e : SqlError) : List (String × Json) :=
  [("error", .str e.kindName), ("message", .str e.message)] ++ e.details

def toJson (e : SqlError) : Json :=
  .obj e.members

end SqlCompose.SqlError
