import SqlCompose.Value.Typed

/-! # Records and their columns

A record type names its fields and, possibly, its table; a record is an instance with the values it
shows.  The column of a field is its tag, or the identifier of the field if there is no tag or an
empty one.

A `ColumnCache` keeps the column lists of the record types that have been resolved in it.  Which
cache a statement uses, and what is in it, has no influence on the columns found.
-/

namespace SqlCompose

structure Field where
  ident : String
  /-- The column named in place of the identifier. -/
  tag : Option String := none
  deriving DecidableEq

/-- The column that a field maps to. -/
def Field.columnName (f : Field) : String :=
  match f.tag with
  | some tag => if tag.isEmpty then f.ident else tag
  | none => f.ident

/-- What is known of a record type without an instance. -/
structure RecordType where
  /-- The full name of the type, by which caches know it. -/
  key : String
  table : Option String
  /-- The fields in the order of their declaration. -/
  fields : List Field
  deriving DecidableEq

/-- The columns of a record type in the order of its fields. -/
def RecordType.columns (t : RecordType) : List String :=
  t.fields.map Field.columnName

/-- An instance of a record type, as the values it shows in the order of its fields. -/
structure Record where
  type : RecordType
  values : List Value

/-- Column lists by the key of their record type. -/
structure ColumnCache where
  entries : List (String × List String) := []
  deriving Inhabited

namespace ColumnCache

def find? (c : ColumnCache) (key : String) : Option (List String) :=
  (c.entries.find? (·.1 == key)).map (·.2)

def size (c : ColumnCache) : Nat :=
  c.entries.length

/-- The columns of a record type: those that are kept, else those of its fields, which are kept from
then on. -/
def resolve (c : ColumnCache) (t : RecordType) : List String × ColumnCache :=
  match c.find? t.key with
  | some columns => (columns, c)
  | none => (t.columns, ⟨(t.key, t.columns) :: c.entries⟩)

end ColumnCache

/-- A cache: the shared one, or one of those made later, by number. -/
inductive CacheRef where
  | shared
  | own (i : Nat)
  deriving DecidableEq, Inhabited

/-- All caches: the shared one, and those made later. -/
structure ColumnCaches where
  shared : ColumnCache := {}
  own : List ColumnCache := []
  deriving Inhabited

namespace ColumnCaches

/-- The cache of a reference; there is nothing in one that was never made. -/
def cacheAt (cs : ColumnCaches) : CacheRef → ColumnCache
  | .shared => cs.shared
  | .own i => cs.own[i]?.getD {}

def replace (cs : ColumnCaches) (ref : CacheRef) (c : ColumnCache) : ColumnCaches :=
  match ref with
  | .shared => { cs with shared := c }
  | .own i => { cs with own := cs.own.set i c }

def create (cs : ColumnCaches) : CacheRef × ColumnCaches :=
  (.own cs.own.length, { cs with own := cs.own ++ [{}] })

/-- Forget what a cache keeps. -/
def clear (cs : ColumnCaches) (ref : CacheRef) : ColumnCaches :=
  cs.replace ref {}

/-- Resolve a record type in a cache. -/
def resolve (ref : CacheRef) (t : RecordType) : StateM ColumnCaches (List String) := do
  let (columns, c) := ((← get).cacheAt ref).resolve t
  modify (·.replace ref c)
  return columns

end ColumnCaches

end SqlCompose
