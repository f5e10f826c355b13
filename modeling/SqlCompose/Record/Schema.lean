import SqlCompose.Record
import SqlCompose.Row

/-! # Typed record types

A schema gives every field of a record type the type it is held at.  From it come the record that an
instance shows and the reading of an instance from a row, field by field, each under its own column.
-/

namespace SqlCompose

/-- A field with the type it is held at. -/
structure TypedField extends Field where
  type : FieldType
  deriving DecidableEq

/-- A record type whose fields have types. -/
structure Schema where
  key : String
  table : Option String
  fields : List TypedField

/-- The values of typed fields, one per field. -/
def Instance : List TypedField → Type
  | [] => Unit
  | f :: rest => f.type.Carrier × Instance rest

/-- The values that an instance shows, in the order of the fields. -/
def Instance.values : (fields : List TypedField) → Instance fields → List Value
  | [], _ => []
  | f :: rest, (x, xs) => f.type.toValue x :: Instance.values rest xs

/-- Read the fields from a row, each from the first column with its name. -/
def Instance.read (r : Row) : (fields : List TypedField) → Except SqlError (Instance fields)
  | [] => .ok ()
  | f :: rest => do
    let x ← r.get f.columnName f.type
    let xs ← Instance.read r rest
    return (x, xs)

namespace Schema

/-- The record type without the types of its fields. -/
def recordType (s : Schema) : RecordType :=
  ⟨s.key, s.table, s.fields.map (·.toField)⟩

def record (s : Schema) (x : Instance s.fields) : Record :=
  ⟨s.recordType, x.values s.fields⟩

def read (s : Schema) (r : Row) : Except SqlError (Instance s.fields) :=
  Instance.read r s.fields

end Schema

end SqlCompose
