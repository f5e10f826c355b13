import SqlCompose.Postgres.Server
import SqlCompose.Value.Document

/-! # Scripts in documents

Reading the script of a server from JSON.  What is missing from an entry is empty, and a null in
place of a refusal is none.
-/

namespace SqlCompose.Postgres

def DataType.ofJson? (j : Json) : Option DataType :=
  j.text?.bind ofSqlName?

def ServerError.ofJson? (j : Json) : Option ServerError := do
  let code ← (← j.get? "code").text?
  let message ← (← j.get? "message").text?
  return ⟨code, message, ← j.optionAt? "constraint" Json.text?⟩

/-- The cell that a document spells in hexadecimal digits. -/
def cellOfJson? : Json → Option Cell
  | .null => some none
  | j => j.octets?.map some

def replyOfJson? (j : Json) : Option (Except ServerError Answer) := do
  match ← j.optionAt? "error" ServerError.ofJson? with
  | some e => return .error e
  | none =>
    let plain : Answer := {}
    let rows ← j.listAt? "rows" fun row => row.array?.bind fun cells => cells.mapM cellOfJson?
    let tag ← j.optionAt? "tag" Json.text?
    return .ok ⟨rows, tag.getD plain.tag⟩

/-- The column that a pair of a name and a type describes. -/
def Column.ofJson? : Json → Option Column
  | .arr [name, type] => do return ⟨← name.text?, ← DataType.ofJson? type⟩
  | _ => none

def ScriptEntry.ofJson? (j : Json) : Option ScriptEntry := do
  let sql ← (← j.get? "sql").text?
  let parameters ← j.listAt? "params" DataType.ofJson?
  let columns ← j.listAt? "columns" Column.ofJson?
  let refusal ← j.optionAt? "error" ServerError.ofJson?
  let replies ← j.listAt? "replies" replyOfJson?
  return ⟨sql, parameters, columns, refusal, replies⟩

end SqlCompose.Postgres
