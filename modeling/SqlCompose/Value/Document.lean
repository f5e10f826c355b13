import SqlCompose.Json.Access
import SqlCompose.Value.Typed

/-! # Values in documents

A bound value as a JSON document that tells its kind: an object whose only member is named for the
kind.  A null is a null.  Integers of sixty-four bits are texts of decimal digits, because not every
reader of JSON keeps them exact as numbers; floating-point numbers are the hexadecimal digits of
their words, and octets are hexadecimal too.
-/

namespace SqlCompose

namespace Json

/-- The number that a text of hexadecimal digits spells. -/
def hexNumber? (j : Json) : Option Nat :=
  j.text?.bind fun s => SqlCompose.hexNumber? s.toList

/-- The octets that a text of hexadecimal digits spells. -/
def octets? (j : Json) : Option (List UInt8) :=
  j.text?.bind bytesOfHex?

/-- The instant of a pair of seconds and nanoseconds. -/
def instant? : Json → Option Timestamp
  | .arr [seconds, nanos] => do Timestamp.ofParts? (← seconds.integer?) (← nanos.natural?)
  | _ => none

def ofInteger (n : Int) : Json :=
  .str (toString n)

/-- An instant as a pair of seconds and nanoseconds. -/
def ofInstant (t : Timestamp) : Json :=
  .arr [ofInteger t.seconds, .int t.nanos]

end Json

namespace Value

/-- The value of a kind that a document spells. -/
def ofPayload? (kind : String) (j : Json) : Option Value := do
  match kind with
  | "bool" => return .bool (← j.bool?)
  | "i16" => return .int16 (.ofInt (← j.integer?))
  | "i32" => return .int32 (.ofInt (← j.integer?))
  | "i64" => return .int64 (.ofInt (← j.integer?))
  | "u32" => return IntType.uint32.toValue (.ofNat (← j.natural?))
  | "u64" => return .uint64 (.ofNat (← j.natural?))
  | "f32" => return .float32 ⟨.ofNat (← j.hexNumber?)⟩
  | "f64" => return .float64 ⟨.ofNat (← j.hexNumber?)⟩
  | "text" => return .text (← j.text?)
  | "bytes" => return .bytes (← j.octets?)
  | "date" => return .date (← Date.ofDays? (← j.integer?))
  | "timestamp" => return .timestamp (← j.instant?)
  | "timestamptz" => return .timestamptz (← j.instant?)
  | "uuid" => return .uuid (← Uuid.ofBytes? (← j.octets?))
  | "json" => return .json j
  | "text[]" => return .textArray (← j.texts?)
  | "i64[]" => return .int64Array ((← (← j.array?).mapM Json.integer?).map Int64.ofInt)
  | _ => none

def ofJson? : Json → Option Value
  | .null => some .null
  | .obj [(kind, payload)] => ofPayload? kind payload
  | _ => none

/-- What is written for a value under the name of its kind. -/
def payload : Value → Json
  | null => .null
  | bool b => .bool b
  | int16 n => .int n.toInt
  | int32 n => .int n.toInt
  | int64 n => .ofInteger n.toInt
  | uint64 n => .ofInteger n.toNat
  | float32 x => .str (toHex 8 x.bits.toNat)
  | float64 x => .str (toHex 16 x.bits.toNat)
  | text s => .str s
  | bytes b => .str (hexOfBytes b)
  | date d => .int d.days
  | timestamp t => .ofInstant t
  | timestamptz t => .ofInstant t
  | uuid u => .str (hexOfBytes u.bytes)
  | json j => j
  | textArray a => .arr (a.map .str)
  | int64Array a => .arr (a.map fun n => .ofInteger n.toInt)

def toJson (v : Value) : Json :=
  if v.isNull then .null else .obj [(v.kindName, v.payload)]

end Value

end SqlCompose
