import SqlCompose.Calendar
import SqlCompose.Json.Basic

/-! # Bound values

A `Value` is what an argument of a statement may be and what a cell of a result decodes to.  Its
kind is its constructor; integers keep their width.
-/

namespace SqlCompose

/-- A bound argument or a decoded cell. -/
inductive Value where
  | null
  | bool (b : Bool)
  | int16 (n : Int16)
  | int32 (n : Int32)
  | int64 (n : Int64)
  | uint64 (n : UInt64)
  | float32 (x : Binary32)
  | float64 (x : Binary64)
  | text (s : String)
  | bytes (b : List UInt8)
  | date (d : Date)
  | timestamp (t : Timestamp)
  | timestamptz (t : Timestamp)
  | uuid (u : Uuid)
  | json (j : Json)
  | textArray (items : List String)
  | int64Array (items : List Int64)
  deriving Inhabited

namespace Value

def kindName : Value → String
  | null => "null"
  | bool _ => "bool"
  | int16 _ => "i16"
  | int32 _ => "i32"
  | int64 _ => "i64"
  | uint64 _ => "u64"
  | float32 _ => "f32"
  | float64 _ => "f64"
  | text _ => "text"
  | bytes _ => "bytes"
  | date _ => "date"
  | timestamp _ => "timestamp"
  | timestamptz _ => "timestamptz"
  | uuid _ => "uuid"
  | json _ => "json"
  | textArray _ => "text[]"
  | int64Array _ => "i64[]"

def isNull : Value → Bool
  | null => true
  | _ => false

def asText? : Value → Option String
  | text s => some s
  | _ => none

/-- The number of an integer value of any width. -/
def number? : Value → Option Int
  | int16 n => some n.toInt
  | int32 n => some n.toInt
  | int64 n => some n.toInt
  | uint64 n => some n.toNat
  | _ => none

/-- The value of the signed sixty-four bit integer with the number `n`, if there is one. -/
def toInt64? (n : Int) : Option Int64 :=
  if Int64.minValue.toInt ≤ n ∧ n ≤ Int64.maxValue.toInt then some (Int64.ofInt n) else none

/-- An integer value of any width as a signed sixty-four bit integer, if it fits. -/
def asInt64? (v : Value) : Option Int64 :=
  v.number?.bind toInt64?

/-- Equality of values.  Values of different kinds differ; floating-point numbers are compared as
numbers, so a not-a-number differs from itself and the two zeros are equal. -/
def equal : Value → Value → Bool
  | null, null => true
  | bool a, bool b => a == b
  | int16 a, int16 b => a == b
  | int32 a, int32 b => a == b
  | int64 a, int64 b => a == b
  | uint64 a, uint64 b => a == b
  | float32 a, float32 b => a.numEq b
  | float64 a, float64 b => a.numEq b
  | text a, text b => a == b
  | bytes a, bytes b => a == b
  | date a, date b => a == b
  | timestamp a, timestamp b => a == b
  | timestamptz a, timestamptz b => a == b
  | uuid a, uuid b => a == b
  | json a, json b => a.equal b
  | textArray a, textArray b => a == b
  | int64Array a, int64Array b => a == b
  | _, _ => false

end Value

end SqlCompose
