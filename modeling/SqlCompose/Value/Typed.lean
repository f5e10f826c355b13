import SqlCompose.Value.Basic

/-! # Reading values at a type

A `FieldType` is a type that a field of a record or a column of a row may be read at.  `read` takes
the value of a cell to it, `toValue` back.  Integers of any width are read at any integer type that
holds the number; a null is read at optional types only, and at the type of all values.
-/

namespace SqlCompose

/-- The integer types of a field. -/
inductive IntType where
  | int16
  | int32
  | int64
  | uint32
  | uint64
  deriving DecidableEq, Repr

namespace IntType

def name : IntType → String
  | int16 => "i16"
  | int32 => "i32"
  | int64 => "i64"
  | uint32 => "u32"
  | uint64 => "u64"

def least : IntType → Int
  | int16 => -0x8000
  | int32 => -0x80000000
  | int64 => -0x8000000000000000
  | uint32 => 0
  | uint64 => 0

def greatest : IntType → Int
  | int16 => 0x7fff
  | int32 => 0x7fffffff
  | int64 => 0x7fffffffffffffff
  | uint32 => 0xffffffff
  | uint64 => 0xffffffffffffffff

/-- Whether a number belongs to the type. -/
def Holds (t : IntType) (n : Int) : Prop := t.least ≤ n ∧ n ≤ t.greatest

instance (t : IntType) (n : Int) : Decidable (t.Holds n) :=
  inferInstanceAs (Decidable (_ ∧ _))

/-- The machine integers of the type. -/
def Carrier : IntType → Type
  | int16 => Int16
  | int32 => Int32
  | int64 => Int64
  | uint32 => UInt32
  | uint64 => UInt64

/-- The machine integer of a number that belongs to the type. -/
def ofInt : (t : IntType) → Int → t.Carrier
  | int16, n => Int16.ofInt n
  | int32, n => Int32.ofInt n
  | int64, n => Int64.ofInt n
  | uint32, n => UInt32.ofNat n.toNat
  | uint64, n => UInt64.ofNat n.toNat

/-- The number of a machine integer. -/
def toInt : (t : IntType) → t.Carrier → Int
  | int16, n => Int16.toInt n
  | int32, n => Int32.toInt n
  | int64, n => Int64.toInt n
  | uint32, n => UInt32.toNat n
  | uint64, n => UInt64.toNat n

/-- A machine integer as a value.  There is no value of thirty-two unsigned bits: such a number
becomes a signed one of sixty-four. -/
def toValue : (t : IntType) → t.Carrier → Value
  | int16, n => .int16 n
  | int32, n => .int32 n
  | int64, n => .int64 n
  | uint32, n => .int64 (Int64.ofNat (UInt32.toNat n))
  | uint64, n => .uint64 n

end IntType

/-- A type that a value can be read at. -/
inductive FieldType where
  | any
  | bool
  | int (t : IntType)
  | float32
  | float64
  | text
  | bytes
  | date
  | timestamp
  | timestamptz
  | uuid
  | json
  | textArray
  | int64Array
  | optional (t : FieldType)
  deriving DecidableEq, Repr

/-- Why a value cannot be read at a type. -/
inductive ValueError where
  /-- The value is of another kind. -/
  | wrongType (expected found : String)
  /-- The number does not belong to the integer type. -/
  | outOfRange (type : IntType)
  deriving DecidableEq, Repr

def ValueError.message : ValueError → String
  | wrongType expected found => "cannot decode " ++ found ++ " as " ++ expected
  | outOfRange type => "value out of range for " ++ type.name

namespace FieldType

/-- What a field of the type holds. -/
def Carrier : FieldType → Type
  | any => Value
  | bool => Bool
  | int t => t.Carrier
  | float32 => Binary32
  | float64 => Binary64
  | text => String
  | bytes => List UInt8
  | date => Date
  | timestamp => Timestamp
  | timestamptz => Timestamp
  | uuid => Uuid
  | json => Json
  | textArray => List String
  | int64Array => List Int64
  | optional t => Option t.Carrier

/-- Refuse a value for not being of the expected kind. -/
def refuse {α : Type} (expected : String) (v : Value) : Except ValueError α :=
  .error (.wrongType expected v.kindName)

/-- Read a value at a type. -/
def read : (t : FieldType) → Value → Except ValueError t.Carrier
  | any, v => .ok v
  | bool, v =>
    match v with
    | .bool b => .ok b
    | v => refuse "bool" v
  | int t, v =>
    match v.number? with
    | some n => if t.Holds n then .ok (t.ofInt n) else .error (.outOfRange t)
    | none => refuse t.name v
  | float32, v =>
    match v with
    | .float32 x => .ok x
    | v => refuse "f32" v
  | float64, v =>
    match v with
    | .float64 x => .ok x
    | .float32 x => .ok x.widen
    | v => refuse "f64" v
  | text, v =>
    match v with
    | .text s => .ok s
    | v => refuse "text" v
  | bytes, v =>
    match v with
    | .bytes b => .ok b
    | v => refuse "bytes" v
  | date, v =>
    match v with
    | .date d => .ok d
    | v => refuse "date" v
  | timestamp, v =>
    match v with
    | .timestamp t => .ok t
    | .timestamptz t => .ok t
    | v => refuse "timestamp" v
  | timestamptz, v =>
    match v with
    | .timestamptz t => .ok t
    | .timestamp t => .ok t
    | v => refuse "timestamptz" v
  | uuid, v =>
    match v with
    | .uuid u => .ok u
    | v => refuse "uuid" v
  | json, v =>
    match v with
    | .json j => .ok j
    | v => refuse "json" v
  | textArray, v =>
    match v with
    | .textArray a => .ok a
    | v => refuse "text[]" v
  | int64Array, v =>
    match v with
    | .int64Array a => .ok a
    | v => refuse "i64[]" v
  | optional t, v =>
    match v with
    | .null => .ok none
    | v => (t.read v).map some

/-- The value that a field of the type holds. -/
def toValue : (t : FieldType) → t.Carrier → Value
  | any, v => v
  | bool, b => .bool b
  | int t, n => t.toValue n
  | float32, x => .float32 x
  | float64, x => .float64 x
  | text, s => .text s
  | bytes, b => .bytes b
  | date, d => .date d
  | timestamp, t => .timestamp t
  | timestamptz, t => .timestamptz t
  | uuid, u => .uuid u
  | json, j => .json j
  | textArray, a => .textArray a
  | int64Array, a => .int64Array a
  | optional _, none => .null
  | optional t, some x => t.toValue x

end FieldType

end SqlCompose
