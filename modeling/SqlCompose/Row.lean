import SqlCompose.KeyMap
import SqlCompose.Error

/-! # Rows

A row has a number of columns; a column may have a name, and reading its value may fail.  Several
columns may share a name: looking a name up finds the first of them, while the map of a row keeps
the value of the last.
-/

namespace SqlCompose

structure Row where
  size : Nat
  name? : Nat → Option String
  value : Nat → Except SqlError Value

namespace Row

def isEmpty (r : Row) : Bool :=
  r.size == 0

/-- The first column with a name. -/
def indexOf? (r : Row) (name : String) : Option Nat :=
  (List.range r.size).find? fun i => r.name? i == some name

/-- Read the first column with a name at a type. -/
def get (r : Row) (column : String) (t : FieldType) : Except SqlError t.Carrier := do
  match r.indexOf? column with
  | none => throw (.decode column .columnNotFound)
  | some i =>
    let v ← r.value i
    match t.read v with
    | .ok x => return x
    | .error e => throw (.decode column (.value e))

def toMap (r : Row) : Except SqlError (KeyMap Value) :=
  (List.range r.size).foldlM (fun m i => do
    match r.name? i with
    | none => throw (.decode (toString i) .columnUnnamed)
    | some name => return m.insert name (← r.value i)) .empty

def toArray (r : Row) : Except SqlError (List Value) :=
  (List.range r.size).mapM r.value

end Row

/-- A row that holds its columns. -/
structure ValueRow where
  columns : List (String × Value)

namespace ValueRow

def toRow (r : ValueRow) : Row where
  size := r.columns.length
  name? i := r.columns[i]?.map (·.1)
  value i :=
    match r.columns[i]? with
    | some (_, v) => .ok v
    | none => .error (.decode (toString i) .indexOutOfRange)

/-- Equality of names and values, column by column. -/
def equal (a b : ValueRow) : Bool :=
  a.columns.length == b.columns.length &&
    (a.columns.zip b.columns).all fun (x, y) => x.1 == y.1 && x.2.equal y.2

end ValueRow

end SqlCompose
