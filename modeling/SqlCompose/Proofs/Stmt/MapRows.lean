import Mathlib.Data.List.Sort
import SqlCompose.Proofs.Stmt.Batch
import SqlCompose.Stmt.Builder

/-! # Rows given as maps

A map gives the values of a row by column, but a row is kept by position.  A row of its own brings
its columns with it, in place of those there were; rows given together are looked up under the
columns there are.  What stands where is then settled by the order of the calls: the columns change
again when the next map brings its own, and the rows added before stay as they are.

When the statement is written, a row is only asked for as many values as there are columns.  So a
row that was made under other columns may be written, with values under columns that they were not
given for: a row keeps its columns exactly if it is the row its map makes under the columns of the
statement.

Main statements:

* `run_addsRows`: the columns and the rows after a run of calls, with the map of every row;
* `rows_keep_columns_iff`: the rows of an INSERT that can be written keep their columns exactly if
  the columns of the statement make the same rows of the maps;
* `bulk_rows_keep_columns`: rows that are only ever given together keep their columns.
-/

namespace SqlCompose

/-- A row of its own is what its map holds for its columns. -/
theorem Stmt.mapRow_keys (m : ColumnMap) :
    Stmt.mapRow m.keys m = m.entries.map fun entry => entry.2 := by
  unfold Stmt.mapRow KeyMap.keys
  rw [List.map_map]
  apply List.map_congr_left
  rintro ⟨column, operand⟩ entry
  have found : m.get? column = some operand := KeyMap.get?_of_mem entry
  show (m.get? column).getD (.value .null) = operand
  rw [found, Option.getD_some]

/-! ## Where rows come from -/

/-- Where a row comes from. -/
inductive Origin where
  /-- A map that brought its columns. -/
  | own (m : ColumnMap)
  /-- A map that was looked up under columns. -/
  | under (columns : List String) (m : ColumnMap)

namespace Origin

/-- The row that is made of it. -/
def row : Origin → List Operand
  | own m => m.entries.map fun entry => entry.2
  | under columns m => Stmt.mapRow columns m

/-- What is held for a column, null if the map was looked up and has no such column. -/
def held (column : String) : Origin → Option Operand
  | own m => m.get? column
  | under _ m => some ((m.get? column).getD (.value .null))

/-- The columns make the same row of the map. -/
def Fits (columns : List String) : Origin → Prop
  | own m => m.keys = columns
  | under given m => Stmt.mapRow given m = Stmt.mapRow columns m

/-- Under every column stands what is held for it. -/
def Keeps (o : Origin) (columns : List String) (row : List Operand) : Prop :=
  ∀ (j : Nat) (column : String), columns[j]? = some column →
    ∃ operand, row[j]? = some operand ∧ o.held column = some operand

variable {columns : List String}

/-- The row of a map under columns holds what the map holds for them. -/
theorem mapRow_getElem? {m : ColumnMap} {j : Nat} {column : String}
    (place : columns[j]? = some column) :
    (Stmt.mapRow columns m)[j]? = some ((m.get? column).getD (.value .null)) := by
  unfold Stmt.mapRow
  rw [List.getElem?_map, place, Option.map_some]

/-- A row that its columns would make again keeps them. -/
theorem Fits.keeps {o : Origin} (fits : o.Fits columns) : o.Keeps columns o.row := by
  intro j column place
  cases o with
  | own m =>
    -- the column is a key of the map, and has an entry
    have brought : m.keys = columns := fits
    have key : column ∈ m.keys := by
      rw [brought]
      exact List.mem_of_getElem? place
    obtain ⟨⟨_, operand⟩, entry, same⟩ := List.mem_map.1 key
    have found : m.get? column = some operand := by
      rw [← same]
      exact KeyMap.get?_of_mem entry
    refine ⟨operand, ?_, found⟩
    rw [row, ← Stmt.mapRow_keys, brought, mapRow_getElem? place, found, Option.getD_some]
  | under given m =>
    have same : Stmt.mapRow given m = Stmt.mapRow columns m := fits
    refine ⟨_, ?_, rfl⟩
    rw [row, same, mapRow_getElem? place]

/-- Among lists of keys, what has no other keys and is as long is the same. -/
theorem eq_of_sorted {keys : List String} (sorted : columns.Pairwise KeyBefore)
    (sortedKeys : keys.Pairwise KeyBefore) (within : ∀ column ∈ columns, column ∈ keys)
    (length : keys.length = columns.length) : keys = columns := by
  have same : columns.Perm keys :=
    (List.subperm_of_subset sorted.nodup within).perm_of_length_le (Nat.le_of_eq length)
  exact same.symm.eq_of_pairwise' sortedKeys sorted

/-- A row with a value for every column keeps its columns only if they make the same row. -/
theorem fits_of_keeps {o : Origin} (sorted : columns.Pairwise KeyBefore)
    (length : o.row.length = columns.length) (keeps : o.Keeps columns o.row) :
    o.Fits columns := by
  cases o with
  | own m =>
    have within : ∀ column ∈ columns, column ∈ m.keys := by
      intro column member
      obtain ⟨j, place⟩ := List.mem_iff_getElem?.1 member
      obtain ⟨operand, -, found⟩ := keeps j column place
      exact KeyMap.mem_keys_of_get? found
    have size : m.keys.length = columns.length := by
      rw [← length, row, KeyMap.keys, List.length_map, List.length_map]
    exact eq_of_sorted sorted m.keys_sorted within size
  | under given m =>
    have looked : Stmt.mapRow columns m = (Origin.under given m).row := by
      apply List.ext_getElem?
      intro j
      rcases place : columns[j]? with _ | column
      · -- behind the last column neither row has a value
        have behind : (Origin.under given m).row.length ≤ j := by
          rw [length]
          exact List.getElem?_eq_none_iff.1 place
        rw [List.getElem?_eq_none_iff.2 behind, Stmt.mapRow, List.getElem?_map, place,
          Option.map_none]
      · obtain ⟨operand, stands, held⟩ := keeps j column place
        rw [mapRow_getElem? place, stands]
        exact held
    exact looked.symm

/-- A row with a value for every column keeps its columns exactly if they make it again. -/
theorem keeps_iff {o : Origin} (sorted : columns.Pairwise KeyBefore)
    (length : o.row.length = columns.length) : o.Keeps columns o.row ↔ o.Fits columns :=
  ⟨fits_of_keeps sorted length, Fits.keeps⟩

end Origin

/-! ## Calls with maps -/

/-- A call that adds rows given as maps. -/
inductive MapCall where
  | insert (m : ColumnMap)
  | values (m : ColumnMap)
  | valuesBulk (ms : List ColumnMap)

namespace MapCall

def toCall : MapCall → Call
  | insert m => .insert (.map m)
  | values m => .values (.map m)
  | valuesBulk ms => .valuesBulk (ms.map .map)

/-- The columns after the call, from those before. -/
def columns (before : List String) : MapCall → List String
  | insert m => m.keys
  | values m => m.keys
  | valuesBulk [] => before
  | valuesBulk (first :: _) => if before.isEmpty then first.keys else before

/-- Where the rows that the call adds come from. -/
def origins (before : List String) : MapCall → List Origin
  | insert m => [.own m]
  | values m => [.own m]
  | valuesBulk ms => ms.map (.under (columns before (valuesBulk ms)))

/-- The columns after calls. -/
def columnsAfter (before : List String) (calls : List MapCall) : List String :=
  calls.foldl columns before

/-- Where the rows that calls add come from. -/
def allOrigins (before : List String) : List MapCall → List Origin
  | [] => []
  | call :: rest => call.origins before ++ allOrigins (call.columns before) rest

/-- Columns that maps gave are in key order. -/
theorem columns_sorted {before : List String} (sorted : before.Pairwise KeyBefore)
    (call : MapCall) : (call.columns before).Pairwise KeyBefore := by
  rcases call with m | m | (_ | ⟨first, _⟩)
  · exact m.keys_sorted
  · exact m.keys_sorted
  · exact sorted
  · rw [columns]
    split
    · exact first.keys_sorted
    · exact sorted

/-- After any calls with maps, the columns are in key order. -/
theorem columnsAfter_sorted {before : List String} (sorted : before.Pairwise KeyBefore)
    (calls : List MapCall) : (columnsAfter before calls).Pairwise KeyBefore :=
  List.foldlRecOn calls columns sorted fun _ given call _ => columns_sorted given call

/-- Where there are columns, maps given together leave them. -/
theorem columnsAfter_bulk {before : List String} (some : before ≠ [])
    (mss : List (List ColumnMap)) : columnsAfter before (mss.map .valuesBulk) = before := by
  unfold columnsAfter
  rw [List.foldl_map]
  refine List.foldlRecOn (motive := fun columns => columns = before) mss _ rfl ?_
  rintro _ rfl ms -
  rcases ms with _ | ⟨first, rest⟩
  · rfl
  · exact if_neg (by simpa using some)

/-- Maps that are only ever given together are looked up under the columns of the end, unless there
were none yet. -/
theorem mem_allOrigins_bulk {before : List String} {mss : List (List ColumnMap)} {o : Origin}
    (member : o ∈ allOrigins before (mss.map .valuesBulk)) :
    ∃ given m, o = .under given m ∧
      (given = [] ∨ given = columnsAfter before (mss.map .valuesBulk)) := by
  induction mss generalizing before with
  | nil => cases member
  | cons ms rest ih =>
    rcases List.mem_append.1 member with here | later
    · obtain ⟨m, -, rfl⟩ := List.mem_map.1 here
      refine ⟨_, m, rfl, ?_⟩
      -- once there are columns they stay, and are those of the end
      by_cases none : (valuesBulk ms).columns before = []
      · exact .inl none
      · exact .inr (columnsAfter_bulk none rest).symm
    · exact ih later

end MapCall

namespace Stmt

/-- A statement with other columns, and with rows from these origins behind those it had. -/
structure AddsRows (s t : Stmt) (columns : List String) (origins : List Origin) : Prop where
  columns : t.insertColumns = columns
  rows : t.rows = s.rows ++ origins.map Origin.row

theorem AddsRows.refl (s : Stmt) : AddsRows s s s.insertColumns [] :=
  ⟨rfl, (List.append_nil _).symm⟩

/-- What one run adds, and then another. -/
theorem AddsRows.trans {s t u : Stmt} {columns columns' : List String}
    {origins origins' : List Origin} (h : AddsRows s t columns origins)
    (h' : AddsRows t u columns' origins') : AddsRows s u columns' (origins ++ origins') := by
  refine ⟨h'.columns, ?_⟩
  rw [h'.rows, h.rows, List.map_append, List.append_assoc]

/-- Starting a statement leaves its columns and its rows. -/
theorem start_addsRows (s : Stmt) (kind : StmtKind) :
    AddsRows s (s.start kind) s.insertColumns [] := by
  unfold start
  split
  · exact ⟨rfl, (AddsRows.refl s).rows⟩
  · exact .refl s

/-- Maps given together are looked up under the columns there are. -/
theorem foldl_addOneOf_addsRows (s : Stmt) (ms : List ColumnMap) :
    AddsRows s ((ms.map Data.map).foldl addOneOf s) s.insertColumns
      (ms.map (.under s.insertColumns)) := by
  induction ms generalizing s with
  | nil => exact .refl s
  | cons m rest ih =>
    have first : AddsRows s (s.addOneOf (.map m)) s.insertColumns [.under s.insertColumns m] :=
      ⟨rfl, rfl⟩
    exact first.trans (ih (s.addOneOf (.map m)))

/-- What a call does to the columns and the rows. -/
theorem apply_addsRows (s : Stmt) (call : MapCall) (caches : ColumnCaches) :
    AddsRows s (s.apply call.toCall caches).1 (call.columns s.insertColumns)
      (call.origins s.insertColumns) := by
  rcases call with m | m | (_ | ⟨first, rest⟩)
  · have added : AddsRows s ((s.columnsOfMap m).addRow (m.entries.map fun entry => entry.2)) m.keys
      [.own m] := ⟨rfl, rfl⟩
    exact added.trans (start_addsRows _ .insert)
  · exact ⟨rfl, rfl⟩
  · exact .refl s
  · -- the columns are settled by the first map, before any is looked up
    have settled : AddsRows s (if s.insertColumns.isEmpty then s.intoColumns first.keys else s)
        ((MapCall.valuesBulk (first :: rest)).columns s.insertColumns) [] := by
      rw [MapCall.columns]
      split
      · next none =>
        have noColumns : s.insertColumns = [] := List.isEmpty_iff.1 none
        refine ⟨?_, (AddsRows.refl s).rows⟩
        show s.insertColumns ++ first.keys = first.keys
        rw [noColumns, List.nil_append]
      · exact .refl s
    have looked := settled.trans (foldl_addOneOf_addsRows _ (first :: rest))
    rw [settled.columns] at looked
    exact looked

/-- What calls do to the columns and the rows, in any order and number. -/
theorem run_addsRows (s : Stmt) (calls : List MapCall) (caches : ColumnCaches) :
    AddsRows s (s.run (calls.map MapCall.toCall) caches).1
      (MapCall.columnsAfter s.insertColumns calls) (MapCall.allOrigins s.insertColumns calls) := by
  induction calls generalizing s caches with
  | nil => exact .refl s
  | cons call rest ih =>
    have one := apply_addsRows s call caches
    have others := ih (s.apply call.toCall caches).1 (s.apply call.toCall caches).2
    rw [one.columns] at others
    exact one.trans others

/-! ## The rows of a written statement -/

theorem only_self {t : Stmt} {row : List Operand} (single : t.rows = [row]) : t.only row = t := by
  obtain ⟨clauses, sources, rows, assignments⟩ := t
  cases single
  rfl

/-- In a statement that can be written every row has a value for every column. -/
theorem WritesRows.row_length {t : Stmt} (own : t.WritesRows) {w : Writer}
    (written : t.write {} = .ok () w) : ∀ row ∈ t.rows, row.length = t.insertColumns.length := by
  have inserts : t.InsertsRows := own.inserts written
  intro row member
  by_cases several : 2 ≤ t.rows.length
  · obtain ⟨template, vs, fits, -⟩ := (inserts.write_eq_ok_of_several several w).1 written
    obtain ⟨v, length, -⟩ := exists_of_forall₂ fits member
    rw [length_rowRendering] at length
    exact length
  · -- a single row is written as it is without others
    have some : 0 < t.rows.length := List.length_pos_of_mem member
    have one : t.rows.length = 1 := by omega
    obtain ⟨only, rows⟩ := List.length_eq_one_iff.1 one
    rw [rows, List.mem_singleton] at member
    rw [← member] at rows
    rw [← only_self rows] at written
    exact ((inserts.only_eq_ok row w).1 written).1

/-- The rows that are written: none if the statement inserts what a SELECT finds. -/
def writtenRows (t : Stmt) : List (List Operand) :=
  if t.sources.isEmpty then t.rows else []

/-- In every written row there stands, under every column, what its origin holds for that. -/
def RowsKeepColumns (t : Stmt) (origins : List Origin) : Prop :=
  ∀ (i : Nat) (row : List Operand), t.writtenRows[i]? = some row →
    ∃ o, origins[i]? = some o ∧ o.Keeps t.insertColumns row

/-- A statement that writes no rows of its own keeps columns trivially. -/
theorem rowsKeepColumns_of_sources {t : Stmt} (selects : t.sources ≠ []) (origins : List Origin) :
    t.RowsKeepColumns origins := by
  have none : t.writtenRows = [] := by
    rw [writtenRows, if_neg]
    simpa using selects
  intro i row stands
  rw [none] at stands
  cases stands

/-- Rows keep their columns one by one. -/
theorem rowsKeepColumns_iff {t : Stmt} {origins : List Origin} (own : t.sources = [])
    (rows : t.rows = origins.map Origin.row) :
    t.RowsKeepColumns origins ↔ ∀ o ∈ origins, o.Keeps t.insertColumns o.row := by
  have all : t.writtenRows = origins.map Origin.row := by
    rw [writtenRows, own, List.isEmpty_nil, if_pos rfl, rows]
  unfold RowsKeepColumns
  rw [all]
  constructor
  · intro keeps o member
    obtain ⟨i, place⟩ := List.mem_iff_getElem?.1 member
    have stands : (origins.map Origin.row)[i]? = some o.row := by
      rw [List.getElem?_map, place, Option.map_some]
    obtain ⟨o', place', kept⟩ := keeps i o.row stands
    rw [place] at place'
    cases place'
    exact kept
  · intro keeps i row stands
    rw [List.getElem?_map, Option.map_eq_some_iff] at stands
    obtain ⟨o, place, rfl⟩ := stands
    exact ⟨o, place, keeps o (List.mem_of_getElem? place)⟩

section

variable {s t : Stmt} (noColumns : s.insertColumns = []) (noRows : s.rows = [])
  {calls : List MapCall} {caches : ColumnCaches}
  (ran : (s.run (calls.map MapCall.toCall) caches).1 = t)

include noColumns noRows ran

omit noRows in
/-- The columns that calls with maps leave. -/
theorem run_columns : t.insertColumns = MapCall.columnsAfter [] calls := by
  have added := run_addsRows s calls caches
  rw [← ran, added.columns, noColumns]

/-- The rows that they leave. -/
theorem run_rows : t.rows = (MapCall.allOrigins [] calls).map Origin.row := by
  have added := run_addsRows s calls caches
  rw [← ran, added.rows, noRows, noColumns, List.nil_append]

variable (own : t.WritesRows) {w : Writer} (written : t.write {} = .ok () w)

include own written

/-- In a statement that can be written, every row made of a map has a value for every column. -/
theorem origin_length :
    ∀ o ∈ MapCall.allOrigins [] calls, o.row.length = t.insertColumns.length := by
  intro o member
  apply own.row_length written
  rw [run_rows noColumns noRows ran]
  exact List.mem_map.2 ⟨o, member, rfl⟩

/-- Rows keep their columns exactly if the columns at the end make them again. -/
theorem rowsKeepColumns_iff_fits :
    t.RowsKeepColumns (MapCall.allOrigins [] calls) ↔
      ∀ o ∈ MapCall.allOrigins [] calls, o.Fits t.insertColumns := by
  have sorted : t.insertColumns.Pairwise KeyBefore := by
    rw [run_columns noColumns ran]
    exact MapCall.columnsAfter_sorted .nil calls
  rw [rowsKeepColumns_iff own.2 (run_rows noColumns noRows ran)]
  apply forall₂_congr
  intro o member
  exact Origin.keeps_iff sorted (origin_length noColumns noRows ran own written o member)

end

/-- Calls with maps leave an INSERT whose rows keep their columns exactly if the columns it ends
with make the same rows of the maps, or no rows are written. -/
theorem rows_keep_columns_iff {s t : Stmt} (noColumns : s.insertColumns = [])
    (noRows : s.rows = []) {calls : List MapCall} {caches : ColumnCaches}
    (ran : (s.run (calls.map MapCall.toCall) caches).1 = t) (isInsert : t.kind = .insert)
    {w : Writer} (written : t.writeTo {} = (.ok (), w)) :
    t.RowsKeepColumns (MapCall.allOrigins [] calls) ↔
      t.sources ≠ [] ∨ ∀ o ∈ MapCall.allOrigins [] calls, o.Fits t.insertColumns := by
  -- with sources there are no rows to write
  by_cases own : t.sources = []
  · have iff_fits := rowsKeepColumns_iff_fits noColumns noRows ran ⟨isInsert, own⟩
      (writeTo_eq_ok.1 written)
    constructor
    · intro keeps
      exact .inr (iff_fits.1 keeps)
    · rintro (selects | fits)
      · exact absurd own selects
      · exact iff_fits.2 fits
  · constructor
    · intro _
      exact .inl own
    · intro _
      exact rowsKeepColumns_of_sources own _

/-- An INSERT into a table, without columns and rows. -/
def intoT : Stmt := { kind := .insert, target := "t" }

/-- A map that holds a number for every column. -/
def numbers (pairs : List (String × Int32)) : ColumnMap :=
  .ofList (pairs.map fun (column, n) => (column, .value (.int32 n)))

/-- Maps given together, one of them with a key less, and then one of its own with the same keys. -/
def sameKeys : List MapCall :=
  [.valuesBulk [numbers [("a", 1), ("b", 2)], numbers [("b", 3)]],
    .values (numbers [("b", 5), ("a", 4)])]

theorem sameKeys_keep_columns :
    intoT.insertColumns = [] ∧ intoT.rows = [] ∧
    (intoT.run (sameKeys.map MapCall.toCall) {}).1.kind = .insert ∧
    (intoT.run (sameKeys.map MapCall.toCall) {}).1.writeTo {} = (.ok (),
      ⟨"INSERT INTO t (a,b) VALUES (??,??)", [],
        [[.int32 1, .int32 2], [.null, .int32 3], [.int32 4, .int32 5]]⟩) ∧
    (intoT.run (sameKeys.map MapCall.toCall) {}).1.RowsKeepColumns
      (MapCall.allOrigins [] sameKeys) := by
  have written : (intoT.run (sameKeys.map MapCall.toCall) {}).1.writeTo {} = (.ok (),
      ⟨"INSERT INTO t (a,b) VALUES (??,??)", [],
        [[.int32 1, .int32 2], [.null, .int32 3], [.int32 4, .int32 5]]⟩) := by
    rfl
  refine ⟨rfl, rfl, rfl, written, (rows_keep_columns_iff rfl rfl rfl rfl written).2 (.inr ?_)⟩
  intro o member
  rcases member with _ | ⟨_, _ | ⟨_, _ | ⟨_, ⟨⟩⟩⟩⟩
  · rfl
  · rfl
  · rfl

/-- A map that is looked up under its column, and then one of its own with another. -/
def otherKey : List MapCall :=
  [.valuesBulk [numbers [("a", 1)]], .values (numbers [("b", 2)])]

/-- What the first map holds for its column is bound to the column of the second. -/
theorem otherKey_not_keep_columns :
    intoT.insertColumns = [] ∧ intoT.rows = [] ∧
    (intoT.run (otherKey.map MapCall.toCall) {}).1.kind = .insert ∧
    (intoT.run (otherKey.map MapCall.toCall) {}).1.writeTo {} = (.ok (),
      ⟨"INSERT INTO t (b) VALUES (??)", [], [[.int32 1], [.int32 2]]⟩) ∧
    ¬(intoT.run (otherKey.map MapCall.toCall) {}).1.RowsKeepColumns
      (MapCall.allOrigins [] otherKey) := by
  refine ⟨rfl, rfl, rfl, rfl, ?_⟩
  intro keeps
  obtain ⟨o, place, kept⟩ := keeps 0 [.value (.int32 1)] rfl
  cases place
  obtain ⟨operand, stands, held⟩ := kept 0 "b" rfl
  -- the value is there, and the map has none for that column
  cases stands
  cases held

/-- Rows that are only ever given together keep their columns. -/
theorem bulk_rows_keep_columns {s t : Stmt} (noColumns : s.insertColumns = [])
    (noRows : s.rows = []) {mss : List (List ColumnMap)} {caches : ColumnCaches}
    (ran : (s.run ((mss.map .valuesBulk).map MapCall.toCall) caches).1 = t)
    (isInsert : t.kind = .insert) {w : Writer} (written : t.writeTo {} = (.ok (), w)) :
    t.RowsKeepColumns (MapCall.allOrigins [] (mss.map .valuesBulk)) := by
  by_cases own : t.sources = []
  · have success : t.write {} = .ok () w := writeTo_eq_ok.1 written
    rw [rowsKeepColumns_iff_fits noColumns noRows ran ⟨isInsert, own⟩ success]
    intro o member
    have length := origin_length noColumns noRows ran ⟨isInsert, own⟩ success o member
    have ends := run_columns noColumns ran
    obtain ⟨given, m, rfl, none | same⟩ := MapCall.mem_allOrigins_bulk member
    · -- a row made under no columns has no values, and is written under none only
      have noneAtEnd : t.insertColumns = [] := by
        apply List.length_eq_zero_iff.1
        rw [← length, none]
        rfl
      show mapRow given m = mapRow t.insertColumns m
      rw [none, noneAtEnd]
    · show mapRow given m = mapRow t.insertColumns m
      rw [same, ends]
  · exact rowsKeepColumns_of_sources own _

end Stmt

end SqlCompose
