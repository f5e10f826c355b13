import SqlCompose.Proofs.Stmt.MapRows

/-! # Rows given together and one by one

Rows may be given together, in one call, or one by one.  Given together, they take the columns from
the first of them; given one by one, each of them settles the columns anew.  For rows of one sort
that is the same: once the first has settled the columns, every other one finds its own columns
there and adds a row, or a source, and nothing else.  Maps with the same keys have them in the same
order, and a record type that is looked up again gives the columns it gave before, even if it has
none.

Main statements:

* `ColumnCaches.resolve_resolve`: looking columns up again finds the same and keeps nothing new;
* `values_of_settled`: what one row adds under columns that are settled;
* `bulk_adds_singles`: rows of one sort may be given together or one by one.
-/

namespace SqlCompose

/-! ## Columns that are looked up again -/

/-- A record type that is looked up again is found. -/
theorem ColumnCache.resolve_resolve (c : ColumnCache) (t : RecordType) :
    (c.resolve t).2.resolve t = c.resolve t := by
  cases found : c.find? t.key with
  | some columns =>
    have kept : c.resolve t = (columns, c) := by
      rw [resolve, found]
    rw [kept, kept]
  | none =>
    have added : c.resolve t = (t.columns, ⟨(t.key, t.columns) :: c.entries⟩) := by
      rw [resolve, found]
    have foundThen :
        ColumnCache.find? ⟨(t.key, t.columns) :: c.entries⟩ t.key = some t.columns := by
      simp [find?]
    rw [added, resolve, foundThen]

namespace ColumnCaches

theorem resolve_eq (ref : CacheRef) (t : RecordType) (cs : ColumnCaches) :
    resolve ref t cs =
      (((cs.cacheAt ref).resolve t).1, cs.replace ref ((cs.cacheAt ref).resolve t).2) :=
  rfl

/-- A cache that is replaced is the new one, and replacing one that was never made does nothing. -/
theorem cacheAt_replace (cs : ColumnCaches) (ref : CacheRef) (c : ColumnCache) :
    ((cs.replace ref c).cacheAt ref = c ∧ ∀ c', (cs.replace ref c).replace ref c' =
      cs.replace ref c') ∨ ∀ c', cs.replace ref c' = cs := by
  cases ref with
  | shared =>
    left
    exact ⟨rfl, fun _ => rfl⟩
  | own i =>
    by_cases made : i < cs.own.length
    · left
      constructor
      · simp [replace, cacheAt, made]
      · intro c'
        simp [replace]
    · -- no cache has this number, and nothing can be kept there
      right
      intro c'
      have outside : cs.own.length ≤ i := Nat.le_of_not_lt made
      rw [replace, List.set_eq_of_length_le outside]

/-- Looking columns up again finds the same and keeps nothing new. -/
theorem resolve_resolve (ref : CacheRef) (t : RecordType) (cs : ColumnCaches) :
    resolve ref t (resolve ref t cs).2 = resolve ref t cs := by
  rw [resolve_eq ref t cs]
  -- the cache was made and keeps the columns, or was not and keeps nothing
  rcases cs.cacheAt_replace ref ((cs.cacheAt ref).resolve t).2 with ⟨here, again⟩ | nowhere
  · rw [resolve_eq, here, ColumnCache.resolve_resolve, again]
  · rw [nowhere, resolve_eq, nowhere]

end ColumnCaches

namespace Stmt

/-! ## Rows under settled columns -/

/-- The row finds its own columns in the statement: a map has these as its keys, and where a record
would have to look for columns, its type has none, and is known to have none. -/
def Settled (s : Stmt) (caches : ColumnCaches) : Data → Prop
  | .row _ => True
  | .stmt _ => True
  | .map m => m.keys = s.insertColumns
  | .record r => s.insertColumns ≠ [] ∨ s.columnsOf r.type caches = ([], caches)
  | _ => False

variable {s : Stmt} {caches : ColumnCaches}

/-- To set the columns that there are changes nothing. -/
theorem withColumns_self {columns : List String} (same : columns = s.insertColumns) :
    { s with insertColumns := columns } = s := by
  rcases s with ⟨clauses, sources, rows, assignments⟩
  rw [same]

/-- Under settled columns, one row adds what it adds among others. -/
theorem values_of_settled {d : Data} (settled : s.Settled caches d) :
    s.values d caches = (s.addOneOf d, caches) := by
  cases d with
  | row row => rfl
  | stmt sub => rfl
  | map m =>
    -- it sets the columns that there are, and its values in order are those under its own keys
    have own : m.keys = s.insertColumns := settled
    have columns : s.columnsOfMap m = s := withColumns_self own
    show ((s.columnsOfMap m).addRow (m.entries.map fun entry => entry.2), caches) = _
    rw [columns, ← mapRow_keys, own]
    rfl
  | record r =>
    have columns : s.defaultColumns r.type caches = (s, caches) := by
      by_cases none : s.insertColumns = []
      · have known : s.columnsOf r.type caches = ([], caches) :=
          settled.resolve_left (fun some => some none)
        rw [defaultColumns, none, if_pos List.isEmpty_nil]
        show (s.intoColumns (s.columnsOf r.type caches).1, (s.columnsOf r.type caches).2) = _
        rw [known, intoColumns, withColumns_self (List.append_nil _)]
      · rw [defaultColumns, if_neg (by simpa using none)]
        rfl
    show ((s.defaultColumns r.type caches).1.addRecordRow r, (s.defaultColumns r.type caches).2) = _
    rw [columns]
    rfl
  | _ => exact settled.elim

/-- One of several rows leaves the columns and the cache. -/
theorem addOneOf_keeps (s : Stmt) (d : Data) :
    (s.addOneOf d).insertColumns = s.insertColumns ∧ (s.addOneOf d).cache = s.cache := by
  unfold addOneOf
  split
  · exact ⟨rfl, rfl⟩
  · exact ⟨rfl, rfl⟩
  · exact ⟨rfl, rfl⟩
  · exact ⟨rfl, rfl⟩
  · unfold refuse
    split
    · exact ⟨rfl, rfl⟩
    · exact ⟨rfl, rfl⟩

/-- Adding a row leaves columns settled. -/
theorem Settled.addOneOf {d : Data} (settled : s.Settled caches d) (e : Data) :
    (s.addOneOf e).Settled caches d := by
  rcases s.addOneOf_keeps e with ⟨columns, cache⟩
  cases d with
  | map m =>
    show m.keys = (s.addOneOf e).insertColumns
    rw [columns]
    exact settled
  | record r =>
    show (s.addOneOf e).insertColumns ≠ [] ∨ (s.addOneOf e).columnsOf r.type caches = ([], caches)
    rw [columns, columnsOf, cache]
    exact settled
  | _ => exact settled

/-- Under settled columns, rows given one by one add what they add together. -/
theorem foldlM_values_of_settled {ds : List Data} (settled : ∀ d ∈ ds, s.Settled caches d) :
    ds.foldlM values s caches = (ds.foldl addOneOf s, caches) := by
  induction ds generalizing s with
  | nil => rfl
  | cons d rest ih =>
    have first : s.values d caches = (s.addOneOf d, caches) :=
      values_of_settled (settled d List.mem_cons_self)
    have others : ∀ e ∈ rest, (s.addOneOf d).Settled caches e := by
      intro e member
      exact (settled e (List.mem_cons_of_mem _ member)).addOneOf d
    rw [List.foldl_cons, ← ih others, List.foldlM_cons]
    show List.foldlM values (s.values d caches).1 rest (s.values d caches).2 = _
    rw [first]

/-- If every one of the rows, given first, leaves settled columns for all, and adds then what it
adds among others, they may be given together or one by one. -/
theorem valuesBulk_of_settled {ds : List Data}
    (settling : ∀ first ∈ ds, ∃ t caches', s.columnsFromFirst first caches = (t, caches') ∧
      s.values first caches = (t.addOneOf first, caches') ∧ ∀ d ∈ ds, t.Settled caches' d) :
    s.valuesBulk ds caches = ds.foldlM values s caches := by
  rcases ds with _ | ⟨first, rest⟩
  · rfl
  rcases settling first List.mem_cons_self with ⟨t, caches', taken, one, settled⟩
  have together : s.valuesBulk (first :: rest) caches =
      ((first :: rest).foldl addOneOf t, caches') := by
    show ((first :: rest).foldl addOneOf (s.columnsFromFirst first caches).1,
      (s.columnsFromFirst first caches).2) = _
    rw [taken]
  have alone : t.values first caches' = (t.addOneOf first, caches') :=
    values_of_settled (settled first List.mem_cons_self)
  rw [together, ← foldlM_values_of_settled settled, List.foldlM_cons, List.foldlM_cons]
  show List.foldlM values (t.values first caches').1 rest (t.values first caches').2 =
    List.foldlM values (s.values first caches).1 rest (s.values first caches).2
  rw [alone, one]

/-! ## Rows of one sort -/

/-- Rows of one sort: by position, records of one type, sub-statements, or maps with the same
keys. -/
inductive OneSort : List Data → Prop
  | rows (rows : List (List Operand)) : OneSort (rows.map .row)
  | records (t : RecordType) (rs : List Record) (type : ∀ r ∈ rs, r.type = t) :
      OneSort (rs.map .record)
  | statements (subs : List Stmt) : OneSort (subs.map .stmt)
  | maps (ms : List ColumnMap)
      (keys : ∀ m ∈ ms, ∀ m' ∈ ms, ∀ key, key ∈ m.keys ↔ key ∈ m'.keys) : OneSort (ms.map .map)

section

variable (noColumns : s.insertColumns = [])

include noColumns

/-- Records of one type: the first one's columns are those of all, even if there are none. -/
theorem settled_record {r : Record} {t : RecordType} (type : r.type = t) :
    (s.defaultColumns t caches).1.Settled (s.defaultColumns t caches).2 (.record r) := by
  subst type
  have taken : s.defaultColumns r.type caches =
      (s.intoColumns (s.columnsOf r.type caches).1, (s.columnsOf r.type caches).2) := by
    rw [defaultColumns, noColumns, if_pos List.isEmpty_nil]
    rfl
  have columns : (s.intoColumns (s.columnsOf r.type caches).1).insertColumns =
      (s.columnsOf r.type caches).1 := by
    rw [intoColumns, noColumns, List.nil_append]
  rw [taken]
  by_cases none : (s.columnsOf r.type caches).1 = []
  · -- it looks for columns again, and there are none again
    right
    show ColumnCaches.resolve s.cache r.type (s.columnsOf r.type caches).2 = _
    rw [columnsOf, ColumnCaches.resolve_resolve]
    exact Prod.ext none rfl
  · left
    show (s.intoColumns (s.columnsOf r.type caches).1).insertColumns ≠ []
    rw [columns]
    exact none

/-- A map brings the columns it would take for itself and others. -/
theorem columnsOfMap_eq (m : ColumnMap) : s.columnsOfMap m = s.intoColumns m.keys := by
  rw [columnsOfMap, intoColumns, noColumns, List.nil_append]

/-- Rows of one sort, given together, add what they add one by one. -/
theorem OneSort.valuesBulk_eq {ds : List Data} (sort : OneSort ds) (caches : ColumnCaches) :
    s.valuesBulk ds caches = ds.foldlM values s caches := by
  apply valuesBulk_of_settled
  rcases sort with ⟨rows⟩ | ⟨t, rs, type⟩ | ⟨subs⟩ | ⟨ms, keys⟩
  · refine List.forall_mem_map.2 fun first _ => ⟨s, caches, rfl, rfl, ?_⟩
    exact List.forall_mem_map.2 fun _ _ => trivial
  · refine List.forall_mem_map.2 fun first member => ⟨_, _, rfl, rfl, ?_⟩
    refine List.forall_mem_map.2 ?_
    intro r other
    have same : r.type = first.type := by
      rw [type r other, type first member]
    exact settled_record noColumns same
  · refine List.forall_mem_map.2 fun first _ => ⟨s, caches, rfl, rfl, ?_⟩
    exact List.forall_mem_map.2 fun _ _ => trivial
  · refine List.forall_mem_map.2 ?_
    intro first member
    have taken : s.columnsFromFirst (.map first) caches = (s.columnsOfMap first, caches) := by
      rw [columnsFromFirst, noColumns, if_pos List.isEmpty_nil, columnsOfMap_eq noColumns]
      rfl
    -- by itself a map gives its values in order, among others by the names of the columns
    have one : s.values (.map first) caches =
        ((s.columnsOfMap first).addOneOf (.map first), caches) := by
      show ((s.columnsOfMap first).addRow (first.entries.map fun entry => entry.2), caches) = _
      rw [← mapRow_keys]
      rfl
    refine ⟨s.columnsOfMap first, caches, taken, one, ?_⟩
    refine List.forall_mem_map.2 ?_
    intro m other
    exact m.keys_sorted.eq_of_mem_iff first.keys_sorted (keys m other first member)

end

/-- To a statement without columns, rows of one sort may be given together or one by one: the
statement and the caches are the same then, and so is what is written in every dialect. -/
theorem bulk_adds_singles {s : Stmt} (noColumns : s.insertColumns = []) {ds : List Data}
    (sort : OneSort ds) (caches : ColumnCaches) :
    s.run [.valuesBulk ds] caches = s.run (ds.map .values) caches ∧
    ∀ dialect, (s.run [.valuesBulk ds] caches).1.render dialect =
      (s.run (ds.map .values) caches).1.render dialect := by
  have same : s.run [.valuesBulk ds] caches = s.run (ds.map .values) caches := by
    calc s.run [.valuesBulk ds] caches
        = s.valuesBulk ds caches := rfl
      _ = ds.foldlM values s caches := sort.valuesBulk_eq noColumns caches
      _ = s.run (ds.map .values) caches := by
        rw [run, List.foldlM_map]
        rfl
  refine ⟨same, ?_⟩
  intro dialect
  rw [same]

/-- Two maps with the same keys, put in in different orders, one of them twice. -/
def twoMaps : List ColumnMap :=
  [numbers [("b", 2), ("a", 1)], numbers [("a", 5), ("b", 4), ("a", 3)]]

theorem twoMaps_added :
    intoT.insertColumns = [] ∧ OneSort (twoMaps.map .map) ∧
    intoT.run [.valuesBulk (twoMaps.map .map)] {} =
      intoT.run ((twoMaps.map .map).map .values) {} ∧
    (intoT.run ((twoMaps.map .map).map .values) {}).1.writeTo {} = (.ok (),
      ⟨"INSERT INTO t (a,b) VALUES (??,??)", [],
        [[.int32 1, .int32 2], [.int32 3, .int32 4]]⟩) := by
  have keys : ∀ m ∈ twoMaps, m.keys = ["a", "b"] :=
    List.forall_mem_cons.2 ⟨rfl, List.forall_mem_singleton.2 rfl⟩
  have sort : OneSort (twoMaps.map .map) := by
    apply OneSort.maps
    intro m member m' member' key
    rw [keys m member, keys m' member']
  exact ⟨rfl, sort, (bulk_adds_singles rfl sort {}).1, rfl⟩

end Stmt

end SqlCompose
