import SqlCompose.Json.Reader
import SqlCompose.Postgres.Encode
import SqlCompose.Row

/-! # Reading cells

The values that the binary format of a column's type spells.  A cell is read whole: octets left over
are as wrong as missing ones.
-/

namespace SqlCompose.Postgres

/-- The number in exactly `n` octets. -/
def readNat? (n : Nat) (bytes : List UInt8) : Option Nat :=
  if bytes.length = n then some (beValue bytes) else none

/-- The integer in exactly `n` octets, in two's complement. -/
def readInt? (n : Nat) (bytes : List UInt8) : Option Int :=
  (readNat? n bytes).map fun v =>
    if 2 * v < Nat.pow 256 n then (v : Int) else v - (Nat.pow 256 n : Nat)

/-- The integer in the first `n` octets, and what follows. -/
def takeInt? (n : Nat) (bytes : List UInt8) : Option (Int × List UInt8) :=
  (readInt? n (bytes.take n)).map fun x => (x, bytes.drop n)

/-- The instant in eight octets. -/
def readTimestamp? (bytes : List UInt8) : Option Timestamp := do
  let micros ← readInt? 8 bytes
  Timestamp.ofNanos? (micros * 1000 + wireEpochNanos)

/-- A number of elements, up to the end.  An element that is null has a negative length and is not
read. -/
def readElements? : Nat → List UInt8 → Option (List (List UInt8))
  | 0, bytes => if bytes.isEmpty then some [] else none
  | n + 1, bytes => do
    let (length, rest) ← takeInt? 4 bytes
    if length < 0 ∨ rest.length < length then none
    let more ← readElements? n (rest.drop length.toNat)
    return rest.take length.toNat :: more

/-- The elements of an array of one dimension, or of none. -/
def readArray? (bytes : List UInt8) : Option (List (List UInt8)) := do
  let (dimensions, rest) ← takeInt? 4 bytes
  let (_, rest) ← takeInt? 4 rest
  let (_, rest) ← takeInt? 4 rest
  if dimensions = 0 then readElements? 0 rest
  else if dimensions = 1 then
    let (length, rest) ← takeInt? 4 rest
    let (_, rest) ← takeInt? 4 rest
    if length < 0 then none
    readElements? length.toNat rest
  else none

def readJson? (bytes : List UInt8) : Option Json :=
  (ofUtf8? bytes).bind Json.ofText?

/-- How cells of a type are read, if they are. -/
def reader? : DataType → Option (List UInt8 → Option Value)
  | .bool => some fun bytes => (readNat? 1 bytes).map fun v => .bool (v != 0)
  | .int2 => some fun bytes => (readInt? 2 bytes).map fun n => .int16 (.ofInt n)
  | .int4 => some fun bytes => (readInt? 4 bytes).map fun n => .int32 (.ofInt n)
  | .int8 => some fun bytes => (readInt? 8 bytes).map fun n => .int64 (.ofInt n)
  | .oid => some fun bytes => (readNat? 4 bytes).map fun n => .int64 (.ofNat n)
  | .float4 => some fun bytes => (readNat? 4 bytes).map fun v => .float32 ⟨.ofNat v⟩
  | .float8 => some fun bytes => (readNat? 8 bytes).map fun v => .float64 ⟨.ofNat v⟩
  | .text | .varchar | .bpchar | .name | .unknown => some fun bytes => (ofUtf8? bytes).map .text
  | .bytea => some fun bytes => some (.bytes bytes)
  | .date => some fun bytes => do
    let days ← readInt? 4 bytes
    (Date.ofDays? (days + wireEpochDays)).map .date
  | .timestamp => some fun bytes => (readTimestamp? bytes).map .timestamp
  | .timestamptz => some fun bytes => (readTimestamp? bytes).map .timestamptz
  | .uuid => some fun bytes => (Uuid.ofBytes? bytes).map .uuid
  | .json => some fun bytes => (readJson? bytes).map .json
  | .jsonb => some fun bytes =>
    match bytes with
    | 1 :: rest => (readJson? rest).map .json
    | _ => none
  | .textArray | .varcharArray => some fun bytes => do
    let elements ← readArray? bytes
    (elements.mapM ofUtf8?).map .textArray
  | .int8Array => some fun bytes => do
    let elements ← readArray? bytes
    (elements.mapM (readInt? 8)).map fun ns => .int64Array (ns.map .ofInt)
  | _ => none

/-- A cell of a row: no octets for a null. -/
abbrev Cell := Option (List UInt8)

structure Column where
  name : String
  type : DataType

/-- Read a cell of a column at an index. -/
def readCell (c : Column) (index : Nat) (cell : Cell) : Except SqlError Value :=
  match reader? c.type with
  | none => .error (.decode c.name (.unsupportedType c.type.catalogName))
  | some read? =>
    match cell with
    | none => .ok .null
    | some bytes =>
      match read? bytes with
      | some v => .ok v
      | none => .error (.decode c.name (.malformed index))

/-- The row that cells make under columns. -/
def toRow (columns : List Column) (cells : List Cell) : Row where
  size := columns.length
  name? i := columns[i]?.map (·.name)
  value i :=
    match columns[i]? with
    | none => .error (.decode (toString i) .indexOutOfRange)
    | some c => readCell c i (cells[i]?.join)

/-- The row that a server sent as cells; it has one for each column. -/
def receiveRow (columns : List Column) (cells : List Cell) : Except SqlError Row :=
  if cells.length = columns.length then .ok (toRow columns cells)
  else .error (.query .malformedResponse)

end SqlCompose.Postgres
