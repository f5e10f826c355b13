import SqlCompose.Stmt.Input

/-! # Building statements

A statement is built by calls, each of which adds to a clause.  A call that is given an input it has
no use for leaves a refusal in the statement; the first refusal is kept and shows when the statement
is written.  The kind of a statement is that of the first call that starts one.

Calls are also values (`Call`), so that runs of calls can be spoken of: `Stmt.apply` makes one call,
`Stmt.run` makes several, in order.  Calls that need the columns of a record type look them up in
the cache of the statement, which is why they are actions on caches.
-/

namespace SqlCompose

/-- Building blocks look up columns in caches. -/
abbrev Building := StateM ColumnCaches

namespace Stmt

/-- Remember a refusal, unless there is one already. -/
def refuse (s : Stmt) (cause : Unsupported) : Stmt :=
  match s.refusal with
  | some _ => s
  | none => { s with refusal := some cause }

/-- Set the kind, unless it is set. -/
def start (s : Stmt) (kind : StmtKind) : Stmt :=
  match s.kind with
  | .raw => { s with kind := kind }
  | _ => s

/-- The columns of a record type, from the cache of the statement. -/
def columnsOf (s : Stmt) (t : RecordType) : Building (List String) :=
  ColumnCaches.resolve s.cache t

/-! ## INSERT -/

/-- Insert into the table of a record type. -/
def setRecordTarget (s : Stmt) (t : RecordType) : Stmt :=
  match t.table with
  | some name => { s with target := name }
  | none => s.refuse (.recordWithoutTable t.key)

/-- Set the table to insert into. -/
def intoTable (s : Stmt) (d : Data) : Stmt :=
  match d with
  | .table name => { s with target := name }
  | .record r => s.setRecordTarget r.type
  | .recordType t => s.setRecordTarget t
  | d => s.refuse (.input .target d.shape)

/-- Add columns to insert into. -/
def intoColumns (s : Stmt) (columns : List String) : Stmt :=
  { s with insertColumns := s.insertColumns ++ columns }

/-- Add the columns of a record type to insert into. -/
def intoColumnsOf (s : Stmt) (t : RecordType) : Building Stmt :=
  return s.intoColumns (← s.columnsOf t)

def addRow (s : Stmt) (row : List Operand) : Stmt :=
  { s with rows := s.rows ++ [row] }

/-- Add the values of a record as a row. -/
def addRecordRow (s : Stmt) (r : Record) : Stmt :=
  s.addRow (r.values.map .value)

/-- Take the columns of a record type, unless there are columns. -/
def defaultColumns (s : Stmt) (t : RecordType) : Building Stmt :=
  if s.insertColumns.isEmpty then s.intoColumnsOf t else pure s

def addSource (s : Stmt) (source : Source) : Stmt :=
  { s with sources := s.sources ++ [source] }

/-- Insert into the columns of a map, and into no others. -/
def columnsOfMap (s : Stmt) (m : ColumnMap) : Stmt :=
  { s with insertColumns := m.keys }

/-- Add one row.  A map also sets the columns to its keys, a record sets them unless there are some,
and a sub-statement makes this an INSERT of what it selects. -/
def values (s : Stmt) (d : Data) : Building Stmt :=
  match d with
  | .nothing => pure s
  | .row row => pure (s.addRow row)
  | .map m => pure ((s.columnsOfMap m).addRow (m.entries.map fun entry => entry.2))
  | .record r => return (← s.defaultColumns r.type).addRecordRow r
  | .stmt sub => pure (s.addSource (.stmt sub none))
  | d => pure (s.refuse (.input .values d.shape))

/-- The values of a map under some columns, null where it has none. -/
def mapRow (columns : List String) (m : ColumnMap) : List Operand :=
  columns.map fun column => (m.get? column).getD (.value .null)

/-- Take the columns from the first of several rows, unless there are columns. -/
def columnsFromFirst (s : Stmt) (d : Data) : Building Stmt :=
  match d with
  | .map m => pure (if s.insertColumns.isEmpty then s.intoColumns m.keys else s)
  | .record r => s.defaultColumns r.type
  | _ => pure s

/-- Add one of several rows, under the columns there are. -/
def addOneOf (s : Stmt) (d : Data) : Stmt :=
  match d with
  | .row row => s.addRow row
  | .map m => s.addRow (mapRow s.insertColumns m)
  | .record r => s.addRecordRow r
  | .stmt sub => s.addSource (.stmt sub none)
  | d => s.refuse (.input .valuesBulk d.shape)

/-- Add several rows.  The columns are taken once, from the first. -/
def valuesBulk (s : Stmt) (ds : List Data) : Building Stmt :=
  match ds with
  | [] => pure s
  | first :: _ => return ds.foldl addOneOf (← s.columnsFromFirst first)

/-- Start an INSERT: into a table, or of a record into its table, or into the columns of a record
type, or of anything else that `values` takes. -/
def insert (s : Stmt) (d : Data) : Building Stmt := do
  let s ← match d with
    | .nothing => pure s
    | .table name => pure { s with target := name }
    | .record r => do pure ((← s.values (.record r)).setRecordTarget r.type)
    | .recordType t => do pure ((← s.intoColumnsOf t).setRecordTarget t)
    | d => s.values d
  return s.start .insert

/-- The table of the first of several rows, if that is a record of a type with a table. -/
def tableOfFirst? : List Data → Option String
  | .record r :: _ => r.type.table
  | _ => none

/-- Start an INSERT of several rows.  A record in front also sets the table. -/
def insertBulk (s : Stmt) (ds : List Data) : Building Stmt := do
  let s ← (s.start .insert).valuesBulk ds
  match tableOfFirst? ds with
  | some name => return { s with target := name }
  | none => return s

/-! ## Sources -/

/-- Add the table of a record type to the sources. -/
def addRecordSource (s : Stmt) (t : RecordType) (alias? : Option String) : Stmt :=
  match t.table with
  | some name => s.addSource (.table name alias?)
  | none => s.refuse (.recordWithoutTable t.key)

def source (s : Stmt) (d : Data) (alias? : Option String) : Stmt :=
  match d with
  | .table name => s.addSource (.table name alias?)
  | .stmt sub => s.addSource (.stmt sub alias?)
  | .record r => s.addRecordSource r.type alias?
  | .recordType t => s.addRecordSource t alias?
  | d => s.refuse (.input .source d.shape)

/-! ## DELETE, UPDATE, SELECT -/

def delete (s : Stmt) (d : Data) : Stmt :=
  let s := match d with
    | .nothing => s
    | d => s.source d none
  s.start .delete

def assign (s : Stmt) (items : List Assignment) : Stmt :=
  { s with assignments := s.assignments ++ items }

def set (s : Stmt) (column : String) (operand : Operand) : Stmt :=
  s.assign [⟨column, operand⟩]

/-- Assign every entry of a map, or every field of a record. -/
def setAll (s : Stmt) (d : Data) : Building Stmt :=
  match d with
  | .map m => pure (s.assign (m.entries.map fun (column, operand) => ⟨column, operand⟩))
  | .record r => do
    let columns ← s.columnsOf r.type
    return s.assign ((columns.zip r.values).map fun (column, v) => ⟨column, .value v⟩)
  | d => pure (s.refuse (.input .assignments d.shape))

/-- Change a column by a bound amount. -/
def step (s : Stmt) (column operator : String) (amount : Value) : Stmt :=
  s.set column (.ofExpr (column ++ operator ++ marker) [amount])

/-- Start an UPDATE: of a record with all its fields, of the columns of a map, or of a source. -/
def update (s : Stmt) (d : Data) : Building Stmt := do
  let s ← match d with
    | .nothing => pure s
    | .record r => do pure ((← s.setAll (.record r)).source (.record r) none)
    | .map m => s.setAll (.map m)
    | d => pure (s.source d none)
  return s.start .update

def addSelectColumns (s : Stmt) (columns : List String) : Stmt :=
  { s with selectColumns := s.selectColumns ++ columns }

/-- Add the columns of a record type to select. -/
def selectColumnsOf (s : Stmt) (t : RecordType) : Building Stmt :=
  return s.addSelectColumns (← s.columnsOf t)

/-- Start a SELECT: of the columns of a record type from its table, or from a source. -/
def select (s : Stmt) (d : Data) : Building Stmt := do
  let s ← match d with
    | .nothing => pure s
    | .record r => do pure ((← s.selectColumnsOf r.type).source (.recordType r.type) none)
    | .recordType t => do pure ((← s.selectColumnsOf t).source (.recordType t) none)
    | d => pure (s.source d none)
  return s.start .select

/-! ## Conditions, order and limits -/

/-- Remember the refusals of a query's sub-statements. -/
def refuseStatements (s : Stmt) (q : Query) : Stmt :=
  q.statementColumns.foldl (fun s column => s.refuse (.conditionOnStatement column)) s

/-- Join a query to the WHERE condition. -/
def addCondition (s : Stmt) (op : Connective) (q : Query) : Stmt :=
  { s.refuseStatements q with condition := .combine op (s.condition :: q.conditions) }

/-- Join a query to the HAVING condition. -/
def addHaving (s : Stmt) (op : Connective) (q : Query) : Stmt :=
  { s.refuseStatements q with having := .combine op (s.having :: q.conditions) }

/-- A list in a clause with further items, each with a suffix. -/
def appendItems (clause : String) (items : List String) (suffix : String) : String :=
  items.foldl (fun acc item => (if acc.isEmpty then acc else acc ++ ", ") ++ item ++ suffix) clause

def groupBy (s : Stmt) (keys : List String) : Stmt :=
  { s with grouping := appendItems s.grouping keys "" }

/-- Add items to the order, each followed by a direction. -/
def orderBy (s : Stmt) (items : List String) (direction : String) : Stmt :=
  { s with ordering := appendItems s.ordering items direction }

def setLimit (s : Stmt) (n : Int64) : Stmt :=
  { s with limit := n }

def setLimitOffset (s : Stmt) (n offset : Int64) : Stmt :=
  { s with limit := n, offset := offset }

/-- Look columns up in a cache from now on. -/
def withCache (s : Stmt) (cache : CacheRef) : Stmt :=
  { s with cache := cache }

def rowCount (s : Stmt) : Nat :=
  s.rows.length

end Stmt

inductive Call where
  | insert (d : Data)
  | insertBulk (ds : List Data)
  | delete (d : Data)
  | update (d : Data)
  | select (d : Data)
  | intoTable (d : Data)
  | intoColumns (columns : List String)
  | intoColumnsOf (t : RecordType)
  | values (d : Data)
  | valuesBulk (ds : List Data)
  | source (d : Data) (alias? : Option String)
  | selectColumns (columns : List String)
  | selectColumnsOf (t : RecordType)
  | set (column : String) (operand : Operand)
  | increase (column : String) (amount : Value)
  | decrease (column : String) (amount : Value)
  | setAll (d : Data)
  | condition (op : Connective) (q : Query)
  | having (op : Connective) (q : Query)
  | groupBy (keys : List String)
  | orderBy (items : List String)
  | ascending (columns : List String)
  | descending (columns : List String)
  | limit (n : Int64)
  | limitOffset (n offset : Int64)
  | withCache (cache : CacheRef)
  | reset

/-- Raise a column by one. -/
def Call.increment (column : String) : Call :=
  .increase column (.int32 1)

/-- Lower a column by one. -/
def Call.decrement (column : String) : Call :=
  .decrease column (.int32 1)

/-- Make a call on a statement. -/
def Stmt.apply (s : Stmt) : Call → Building Stmt
  | .insert d => s.insert d
  | .insertBulk ds => s.insertBulk ds
  | .delete d => pure (s.delete d)
  | .update d => s.update d
  | .select d => s.select d
  | .intoTable d => pure (s.intoTable d)
  | .intoColumns columns => pure (s.intoColumns columns)
  | .intoColumnsOf t => s.intoColumnsOf t
  | .values d => s.values d
  | .valuesBulk ds => s.valuesBulk ds
  | .source d alias? => pure (s.source d alias?)
  | .selectColumns columns => pure (s.addSelectColumns columns)
  | .selectColumnsOf t => s.selectColumnsOf t
  | .set column operand => pure (s.set column operand)
  | .increase column amount => pure (s.step column " + " amount)
  | .decrease column amount => pure (s.step column " - " amount)
  | .setAll d => s.setAll d
  | .condition op q => pure (s.addCondition op q)
  | .having op q => pure (s.addHaving op q)
  | .groupBy keys => pure (s.groupBy keys)
  | .orderBy items => pure (s.orderBy items "")
  | .ascending columns => pure (s.orderBy columns " ASC")
  | .descending columns => pure (s.orderBy columns " DESC")
  | .limit n => pure (s.setLimit n)
  | .limitOffset n offset => pure (s.setLimitOffset n offset)
  | .withCache cache => pure (s.withCache cache)
  | .reset => pure {}

/-- Make calls in order. -/
def Stmt.run (s : Stmt) (calls : List Call) : Building Stmt :=
  calls.foldlM Stmt.apply s

end SqlCompose
