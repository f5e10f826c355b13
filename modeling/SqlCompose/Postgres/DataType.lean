/-! # PostgreSQL data types

The types that parameters and columns may have here, with their names in the catalogue, their names
in SQL, and the object identifiers that the elements of arrays carry.
-/

namespace SqlCompose.Postgres

inductive DataType where
  | bool
  | char
  | int2
  | int4
  | int8
  | oid
  | float4
  | float8
  | numeric
  | text
  | varchar
  | bpchar
  | name
  | unknown
  | bytea
  | date
  | time
  | timestamp
  | timestamptz
  | uuid
  | json
  | jsonb
  | textArray
  | varcharArray
  | int8Array
  | int4Array
  deriving DecidableEq, Repr

namespace DataType

def all : List DataType :=
  [bool, char, int2, int4, int8, oid, float4, float8, numeric, text, varchar, bpchar, name, unknown,
    bytea, date, time, timestamp, timestamptz, uuid, json, jsonb, textArray, varcharArray,
    int8Array, int4Array]

/-- The name of a type in SQL. -/
def sqlName : DataType → String
  | bool => "bool"
  | char => "char"
  | int2 => "int2"
  | int4 => "int4"
  | int8 => "int8"
  | oid => "oid"
  | float4 => "float4"
  | float8 => "float8"
  | numeric => "numeric"
  | text => "text"
  | varchar => "varchar"
  | bpchar => "bpchar"
  | name => "name"
  | unknown => "unknown"
  | bytea => "bytea"
  | date => "date"
  | time => "time"
  | timestamp => "timestamp"
  | timestamptz => "timestamptz"
  | uuid => "uuid"
  | json => "json"
  | jsonb => "jsonb"
  | textArray => "text[]"
  | varcharArray => "varchar[]"
  | int8Array => "int8[]"
  | int4Array => "int4[]"

/-- The name of a type in the catalogue, where arrays are named by an underscore in front. -/
def catalogName : DataType → String
  | textArray => "_text"
  | varcharArray => "_varchar"
  | int8Array => "_int8"
  | int4Array => "_int4"
  | t => t.sqlName

/-- The type with a name in SQL. -/
def ofSqlName? (s : String) : Option DataType :=
  all.find? fun t => t.sqlName == s

/-- The object identifier of an element type of arrays. -/
def elementOid : DataType → Nat
  | varcharArray => 1043
  | int8Array => 20
  | int4Array => 23
  | _ => 25

end DataType

end SqlCompose.Postgres
