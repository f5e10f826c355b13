import Mathlib.Data.List.Nodup
import SqlCompose.Proofs.Value.Reading
import SqlCompose.Record.Schema

/-! # Records in rows

A record shows one value for each of its columns.  As a row, its columns may stand in any order and
among others: a field is looked up by the name of its column, and where no other column has that
name, the value found is the one shown (`get_eq`).

Column names come from a cache.  Whatever has been resolved in it before, a record type finds its
own columns there, as long as every key stands for one type (`resolve_columns`).

Main statement: `record_survives_row`.
-/

namespace SqlCompose

/-! ## Columns from a cache -/

namespace ColumnCache

/-- What is kept under the key of the type are its columns. -/
def Knows (c : ColumnCache) (t : RecordType) : Prop :=
  ∀ columns, c.find? t.key = some columns → columns = t.columns

theorem knows_empty (t : RecordType) : ({} : ColumnCache).Knows t := by
  intro columns found
  cases found

/-- A cache that knows a type gives its columns. -/
theorem Knows.resolve_columns {c : ColumnCache} {t : RecordType} (knows : c.Knows t) :
    (c.resolve t).1 = t.columns := by
  unfold resolve
  cases found : c.find? t.key with
  | some columns => exact knows columns found
  | none => rfl

/-- Resolving another type leaves what is known, unless the two share a key. -/
theorem Knows.resolve {c : ColumnCache} {t u : RecordType} (knows : c.Knows t)
    (own : u.key = t.key → u = t) : (c.resolve u).2.Knows t := by
  intro columns found
  unfold ColumnCache.resolve at found
  cases kept : c.find? u.key with
  | some _ =>
    rw [kept] at found
    exact knows columns found
  | none =>
    rw [kept] at found
    -- the new entry is in front, and is what is found under its own key
    by_cases same : u.key = t.key
    · have type : u = t := own same
      subst type
      simp only [find?, List.find?_cons, beq_self_eq_true, Option.map_some] at found
      exact (Option.some.inj found).symm
    · have other : (u.key == t.key) = false := beq_false_of_ne same
      simp only [find?, List.find?_cons, other] at found
      exact knows columns found

/-- The cache after record types have been resolved in it. -/
def resolveAll (c : ColumnCache) (types : List RecordType) : ColumnCache :=
  types.foldl (fun c t => (c.resolve t).2) c

/-- Resolving any number of types leaves what is known. -/
theorem Knows.resolveAll {types : List RecordType} {t : RecordType}
    (own : ∀ u ∈ types, u.key = t.key → u = t) {c : ColumnCache} (knows : c.Knows t) :
    (c.resolveAll types).Knows t := by
  induction types generalizing c with
  | nil => exact knows
  | cons u rest ih =>
    have first : (c.resolve u).2.Knows t := knows.resolve (own u List.mem_cons_self)
    exact ih (fun v mem => own v (List.mem_cons_of_mem _ mem)) first

end ColumnCache

/-! ## Finding a column -/

namespace ValueRow

variable {r : ValueRow} {name : String}

theorem indexOf?_isSome {v : Value} (mem : (name, v) ∈ r.columns) :
    ∃ i, r.toRow.indexOf? name = some i := by
  rcases List.getElem?_of_mem mem with ⟨i, at_i⟩
  have lt : i < r.columns.length := (List.getElem?_eq_some_iff.1 at_i).1
  have found : (r.toRow.indexOf? name).isSome := by
    rw [Row.indexOf?, List.find?_isSome]
    refine ⟨i, List.mem_range.2 lt, ?_⟩
    simp [toRow, at_i]
  exact Option.isSome_iff_exists.1 found

/-- The column found under a name has that name. -/
theorem getElem?_of_indexOf? {i : Nat} (found : r.toRow.indexOf? name = some i) :
    ∃ v, r.columns[i]? = some (name, v) := by
  have named : r.toRow.name? i = some name := by
    simpa using List.find?_some found
  rcases Option.map_eq_some_iff.1 named with ⟨⟨_, v⟩, at_i, rfl⟩
  exact ⟨v, at_i⟩

/-- Where one value only stands under a name, that value is read. -/
theorem get_eq {t : FieldType} {v : Value} {x : t.Carrier} (mem : (name, v) ∈ r.columns)
    (only : ∀ w, (name, w) ∈ r.columns → w = v) (reads : t.read v = .ok x) :
    r.toRow.get name t = .ok x := by
  rcases indexOf?_isSome mem with ⟨i, found⟩
  rcases getElem?_of_indexOf? found with ⟨w, at_i⟩
  have same : w = v := only w (List.mem_of_getElem? at_i)
  have value : r.toRow.value i = .ok v := by
    simp only [toRow, at_i, same]
  simp only [Row.get, found, value, bind, Except.bind, reads]
  rfl

end ValueRow

/-! ## Reading the fields -/

theorem Instance.length_values (fields : List TypedField) (x : Instance fields) :
    (x.values fields).length = fields.length := by
  induction fields with
  | nil => rfl
  | cons f rest ih => exact congrArg Nat.succ (ih x.2)

/-- Under each column of the fields the row has the value that the instance shows, and no other. -/
def Instance.ShownIn (r : ValueRow) (fields : List TypedField) (x : Instance fields) : Prop :=
  ∀ c ∈ (fields.map (·.columnName)).zip (x.values fields),
    c ∈ r.columns ∧ ∀ w, (c.1, w) ∈ r.columns → w = c.2

/-- An instance that is shown is read as one that shows the same. -/
theorem Instance.ShownIn.read {r : ValueRow} {fields : List TypedField} {x : Instance fields}
    (shown : x.ShownIn r fields) :
    ∃ y, Instance.read r.toRow fields = .ok y ∧ y.values fields = x.values fields := by
  induction fields with
  | nil => exact ⟨(), rfl, rfl⟩
  | cons f rest ih =>
    rcases x with ⟨a, xs⟩
    rcases shown (f.columnName, f.type.toValue a) List.mem_cons_self with ⟨mem, only⟩
    have later : Instance.ShownIn r rest xs := fun c hc => shown c (List.mem_cons_of_mem _ hc)
    -- the field read may be another one, but it shows the same
    rcases f.type.read_toValue a with ⟨b, reads, same⟩
    rcases ih later with ⟨ys, readsRest, sameRest⟩
    have got : r.toRow.get f.columnName f.type = .ok b := ValueRow.get_eq mem only reads
    refine ⟨(b, ys), ?_, ?_⟩
    · simp only [Instance.read, got, readsRest, bind, Except.bind]
      rfl
    · exact congrArg₂ List.cons same sameRest

/-- An instance is shown in a row that has its columns among others of other names. -/
theorem Instance.shownIn_of_perm {r : ValueRow} {fields : List TypedField} {x : Instance fields}
    {others : List (String × Value)} (distinct : (fields.map (·.columnName)).Nodup)
    (foreign : ∀ c ∈ others, c.1 ∉ fields.map (·.columnName))
    (perm : r.columns.Perm ((fields.map (·.columnName)).zip (x.values fields) ++ others)) :
    x.ShownIn r fields := by
  have length : (fields.map (·.columnName)).length ≤ (x.values fields).length := by
    have same := Instance.length_values fields x
    rw [List.length_map]
    omega
  have names : ((fields.map (·.columnName)).zip (x.values fields)).map Prod.fst
      = fields.map (·.columnName) := List.map_fst_zip length
  intro c hc
  have named : c.1 ∈ fields.map (·.columnName) := (List.of_mem_zip hc).1
  refine ⟨perm.mem_iff.2 (List.mem_append_left _ hc), ?_⟩
  intro w hw
  -- among its own columns names are distinct, and the others have other names
  rcases List.mem_append.1 (perm.mem_iff.1 hw) with own | other
  · have nodup : (((fields.map (·.columnName)).zip (x.values fields)).map Prod.fst).Nodup := by
      rw [names]
      exact distinct
    have same : (c.1, w) = c := List.inj_on_of_nodup_map nodup own hc rfl
    exact congrArg Prod.snd same
  · exact absurd named (foreign (c.1, w) other)

/-- A record is shown as a row: every column that the cache gives for its type, with the value that
the record shows for it, in any order and among any columns of other names.  From this row a record
is read, and it shows the same values. -/
theorem record_survives_row (s : Schema) (x : Instance s.fields)
    (distinct : s.recordType.columns.Nodup) (earlier : List RecordType)
    (own : ∀ t ∈ earlier, t.key = s.key → t = s.recordType) (others : List (String × Value))
    (foreign : ∀ c ∈ others, c.1 ∉ s.recordType.columns) (row : ValueRow)
    (perm : row.columns.Perm
      ((((({} : ColumnCache).resolveAll earlier).resolve s.recordType).1.zip (s.record x).values)
        ++ others)) :
    ∃ y, s.read row.toRow = .ok y ∧ (s.record y).values = (s.record x).values := by
  have columns : s.recordType.columns = s.fields.map (·.columnName) :=
    List.map_map
  have knows : (({} : ColumnCache).resolveAll earlier).Knows s.recordType :=
    (ColumnCache.knows_empty s.recordType).resolveAll own
  rw [knows.resolve_columns] at perm
  rw [columns] at distinct foreign perm
  have shown : x.ShownIn row s.fields := Instance.shownIn_of_perm distinct foreign perm
  exact shown.read

/-- A record with a tag that is used and one that is empty, a number beyond thirty-one bits, an
optional field without a value and a field of any value, in a row that mixes its columns with two of
one other name. -/
theorem taggedRecord_survives :
    let s : Schema := ⟨"Ticket", none, [⟨⟨"id", some "number"⟩, .int .uint32⟩,
      ⟨⟨"note", some ""⟩, .optional .text⟩, ⟨⟨"extra", none⟩, .any⟩]⟩
    let row : ValueRow := ⟨[("extra", .int16 7), ("id", .null), ("note", .null),
      ("number", .int64 4000000000), ("id", .bool true)]⟩
    s.recordType.columns.Nodup ∧ ∃ y, s.read row.toRow = .ok y ∧
      (s.record y).values = [.int64 4000000000, .null, .int16 7] := by
  intro s row
  let x : Instance s.fields := ((4000000000 : UInt32), (none : Option String), Value.int16 7, ())
  let number : String × Value := ("number", .int64 4000000000)
  let note : String × Value := ("note", .null)
  let extra : String × Value := ("extra", .int16 7)
  let others : List (String × Value) := [("id", .null), ("id", .bool true)]
  have perm : row.columns.Perm ([number, note, extra] ++ others) := by
    have first : row.columns.Perm (number :: [extra, ("id", .null), note, ("id", .bool true)]) :=
      @List.perm_middle _ number [extra, ("id", .null), note] [("id", .bool true)]
    have second : [extra, ("id", .null), note, ("id", .bool true)].Perm (note :: extra :: others) :=
      @List.perm_middle _ note [extra, ("id", .null)] [("id", .bool true)]
    exact first.trans (second.cons number)
  have own : ∀ t ∈ [s.recordType], t.key = s.key → t = s.recordType :=
    fun t mem _ => List.mem_singleton.1 mem
  exact ⟨by decide,
    record_survives_row s x (by decide) [s.recordType] own others (by decide) row perm⟩

end SqlCompose
