import SqlCompose.Json.Printer
import SqlCompose.Postgres.DataType
import SqlCompose.Value.Typed

/-! # Writing parameters

The binary format of a bound value in the type that a statement expects.  An integer is written in
the width of the expected type, if it fits; no other value is converted, except between the two
widths of floating point.  A null is written as no octets at all, in every type.
-/

namespace SqlCompose.Postgres

/-- Why a value cannot be written in a type. -/
inductive EncodeError where
  /-- Values of this kind are not written in the type. -/
  | wrongType
  /-- The number is out of the range of the type. -/
  | intOutOfRange
  /-- The value is longer than a length field can tell. -/
  | tooLarge
  deriving DecidableEq, Repr

/-- An integer in `n` octets, in two's complement. -/
def beInt (n : Nat) (x : Int) : List UInt8 :=
  beBytes n (x % (Nat.pow 256 n : Nat)).toNat

/-- The day from which days are counted on the wire, 2000-01-01. -/
def wireEpochDays : Int := 10957

/-- The same day in nanoseconds. -/
def wireEpochNanos : Int := wireEpochDays * secondsPerDay * nanosPerSecond

/-- The greatest length. -/
def lengthLimit : Nat := 0x7fffffff

/-- The octets of an instant: microseconds from the epoch of the wire, the fraction of a microsecond
dropped toward the epoch. -/
def encodeTimestamp (t : Timestamp) : List UInt8 :=
  beInt 8 ((t.totalNanos - wireEpochNanos).tdiv 1000)

/-- An integer in an integer type, if it is in its range. -/
def encodeInt (n : Int) : DataType → Except EncodeError (List UInt8)
  | .int2 => if IntType.int16.Holds n then .ok (beInt 2 n) else .error .intOutOfRange
  | .int4 => if IntType.int32.Holds n then .ok (beInt 4 n) else .error .intOutOfRange
  | .oid => if IntType.uint32.Holds n then .ok (beInt 4 n) else .error .intOutOfRange
  | .int8 => .ok (beInt 8 n)
  | _ => .error .wrongType

/-- An element of an array: its length and its octets. -/
def encodeElement (bytes : List UInt8) : Except EncodeError (List UInt8) :=
  if bytes.length ≤ lengthLimit then .ok (beInt 4 bytes.length ++ bytes) else .error .tooLarge

/-- Elements one after the other. -/
def encodeElements : List (List UInt8) → Except EncodeError (List UInt8)
  | [] => .ok []
  | bytes :: rest => do
    let first ← encodeElement bytes
    let more ← encodeElements rest
    return first ++ more

/-- An array of one dimension, counted from one. -/
def encodeArray (t : DataType) (elements : List (List UInt8)) :
    Except EncodeError (List UInt8) := do
  if lengthLimit < elements.length then throw .tooLarge
  let body ← encodeElements elements
  return beInt 4 1 ++ beInt 4 0 ++ beBytes 4 t.elementOid ++ beInt 4 elements.length ++ beInt 4 1
    ++ body

/-- A value that is no integer and not null in a type. -/
def encodeOther : Value → DataType → Except EncodeError (List UInt8)
  | .bool b, .bool => .ok [if b then 1 else 0]
  | .float32 x, .float4 => .ok (beBytes 4 x.bits.toNat)
  | .float32 x, .float8 => .ok (beBytes 8 x.widen.bits.toNat)
  | .float64 x, .float8 => .ok (beBytes 8 x.bits.toNat)
  | .float64 x, .float4 => .ok (beBytes 4 x.narrow.bits.toNat)
  | .text s, .text | .text s, .varchar | .text s, .bpchar | .text s, .name | .text s, .unknown =>
    .ok (utf8 s)
  | .bytes b, .bytea => .ok b
  | .date d, .date => .ok (beInt 4 (d.days - wireEpochDays))
  | .timestamp t, .timestamp => .ok (encodeTimestamp t)
  | .timestamptz t, .timestamptz => .ok (encodeTimestamp t)
  | .uuid u, .uuid => .ok u.bytes
  | .json j, .json => .ok (utf8 j.render)
  -- the version of the format stands in front
  | .json j, .jsonb => .ok (1 :: utf8 j.render)
  | .textArray a, .textArray => encodeArray .textArray (a.map utf8)
  | .textArray a, .varcharArray => encodeArray .varcharArray (a.map utf8)
  | .int64Array a, .int8Array => encodeArray .int8Array (a.map fun n => beInt 8 n.toInt)
  | _, _ => .error .wrongType

/-- The octets of a value in a type; none for a null. -/
def encode (v : Value) (t : DataType) : Except EncodeError (Option (List UInt8)) :=
  match v with
  | .null => .ok none
  | v =>
    match v.number? with
    | some n =>
      -- numbers beyond sixty-four signed bits are refused in every type
      if IntType.int64.Holds n then (encodeInt n t).map some else .error .intOutOfRange
    | none => (encodeOther v t).map some

/-- An action that adds octets to a message and may fail, keeping what it had added. -/
abbrev Encoding := EStateM EncodeError (List UInt8)

/-- Add a value in a type to a message, and tell whether it is a null, for which nothing is added.
All octets are made before the first of them is added. -/
def putValue (v : Value) (t : DataType) : Encoding Bool := do
  match encode v t with
  | .ok (some octets) =>
    modify (· ++ octets)
    return false
  | .ok none => return true
  | .error e => throw e

end SqlCompose.Postgres
