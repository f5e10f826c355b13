import SqlCompose.Proofs.Stmt.Legibility
import SqlCompose.Stmt.Builder

/-! # Statements built by calls

What stands in a statement comes from the inputs of the calls that built it and, for the columns of
record types, from caches.  Where a call puts texts together, a word stands between them that keeps
markers from forming, and a fragment that a call makes itself binds one value for its one marker.
So a statement that is built from aligned inputs is aligned.

Main statements:

* `Stmt.apply_aligned`: an aligned call keeps the statement and the caches aligned;
* `Stmt.run_aligned`: a run of aligned calls keeps them aligned.
-/

namespace SqlCompose

/-! ## Columns and caches -/

/-- The table and the columns of a record type have no markers. -/
structure RecordType.Aligned (t : RecordType) : Prop where
  table : ∀ name ∈ t.table, markerCount name = 0
  columns : ∀ x ∈ t.columns, markerCount x = 0

/-- The columns that a cache keeps have no markers. -/
def ColumnCache.Aligned (c : ColumnCache) : Prop :=
  ∀ entry ∈ c.entries, ∀ x ∈ entry.2, markerCount x = 0

/-- All caches keep columns without markers. -/
structure ColumnCaches.Aligned (cs : ColumnCaches) : Prop where
  shared : cs.shared.Aligned
  own : ∀ c ∈ cs.own, c.Aligned

theorem ColumnCache.aligned_empty : ColumnCache.Aligned {} := by
  intro entry hentry
  cases hentry

/-- Columns come from a cache that keeps none with markers, or from the type itself; kept from then
on, they leave the cache aligned. -/
theorem ColumnCache.Aligned.resolve {c : ColumnCache} (h : c.Aligned) {t : RecordType}
    (ht : t.Aligned) :
    (∀ x ∈ (c.resolve t).1, markerCount x = 0) ∧ (c.resolve t).2.Aligned := by
  unfold ColumnCache.resolve
  split
  · next columns kept =>
    -- kept already: the columns are those of an entry
    obtain ⟨entry, found, rfl⟩ := Option.map_eq_some_iff.1 kept
    have hentry : entry ∈ c.entries := List.mem_of_find?_eq_some found
    exact ⟨h entry hentry, h⟩
  · -- not kept: the columns of the type are the entry that is added
    refine ⟨ht.columns, ?_⟩
    intro entry hentry
    rcases List.mem_cons.1 hentry with rfl | hentry
    · exact ht.columns
    · exact h entry hentry

/-- The cache of a reference is aligned, also if it was never made. -/
theorem ColumnCaches.Aligned.cacheAt {cs : ColumnCaches} (h : cs.Aligned) (ref : CacheRef) :
    (cs.cacheAt ref).Aligned := by
  cases ref with
  | shared => exact h.shared
  | own i =>
    rw [ColumnCaches.cacheAt]
    cases made : cs.own[i]? with
    | none => exact ColumnCache.aligned_empty
    | some c => exact h.own c (List.mem_of_getElem? made)

/-- An aligned cache may take the place of any other. -/
theorem ColumnCaches.Aligned.replace {cs : ColumnCaches} (h : cs.Aligned) (ref : CacheRef)
    {c : ColumnCache} (hc : c.Aligned) : (cs.replace ref c).Aligned := by
  cases ref with
  | shared => exact ⟨hc, h.own⟩
  | own i =>
    refine ⟨h.shared, ?_⟩
    intro other hother
    rcases List.mem_or_eq_of_mem_set hother with hother | rfl
    · exact h.own other hother
    · exact hc

namespace Building

/-- The action keeps caches aligned, and what it returns has the property. -/
def Gives {α : Type} (P : α → Prop) (b : Building α) : Prop :=
  ∀ cs : ColumnCaches, cs.Aligned → P (b cs).1 ∧ (b cs).2.Aligned

variable {α β : Type} {P : α → Prop} {Q : β → Prop}

theorem Gives.pure {a : α} (h : P a) : Gives P (pure a) := by
  intro cs hcs
  exact ⟨h, hcs⟩

/-- What follows may rely on what the first action gives. -/
theorem Gives.bind {b : Building α} {next : α → Building β} (hb : Gives P b)
    (hnext : ∀ a, P a → Gives Q (next a)) : Gives Q (b >>= next) := by
  intro cs hcs
  obtain ⟨ha, kept⟩ := hb cs hcs
  exact hnext (b cs).1 ha (b cs).2 kept

/-- The columns of an aligned record type have no markers, whichever cache they come from. -/
theorem gives_resolve (ref : CacheRef) {t : RecordType} (ht : t.Aligned) :
    Gives (fun columns => ∀ x ∈ columns, markerCount x = 0) (ColumnCaches.resolve ref t) := by
  intro cs hcs
  obtain ⟨columns, kept⟩ := (hcs.cacheAt ref).resolve ht
  exact ⟨columns, hcs.replace ref kept⟩

end Building

open Building

/-! ## Inputs -/

/-- The operand is aligned, and so is the sub-statement that it is. -/
structure Operand.AlignedWithin (o : Operand) : Prop where
  own : o.Aligned
  inside : ∀ t, o.stmt? = some t → t.Aligned

/-- The source is aligned, and so is the sub-statement that it is. -/
structure Source.AlignedWithin (source : Source) : Prop where
  own : source.Aligned
  inside : ∀ t, source.stmt? = some t → t.Aligned

/-- The column of an assignment has no marker, and the operand is aligned. -/
structure Assignment.AlignedWithin (a : Assignment) : Prop where
  column : markerCount a.column = 0
  operand : a.operand.AlignedWithin

/-- The fragments of a condition have as many values as markers. -/
def Cond.Aligned (c : Cond) : Prop :=
  ∀ e ∈ c.leaves, e.Balanced

/-- The columns of a map have no markers, and the operands are aligned. -/
def ColumnMap.Aligned (m : ColumnMap) : Prop :=
  ∀ entry ∈ m.entries, markerCount entry.1 = 0 ∧ entry.2.AlignedWithin

/-- The texts of an input have no markers, and its fragments as many values as markers. -/
def Data.Aligned : Data → Prop
  | nothing => True
  | table name => markerCount name = 0
  | record r => r.type.Aligned
  | recordType t => t.Aligned
  | map m => m.Aligned
  | row values => ∀ o ∈ values, o.AlignedWithin
  | stmt s => s.Aligned

/-- The conditions of a query, or the columns and operands they are made of, are aligned. -/
def Query.Aligned : Query → Prop
  | cond c => c.Aligned
  | conds cs => ∀ c ∈ cs, c.Aligned
  | map m => m.Aligned

/-- The inputs of a call are aligned. -/
def Call.Aligned : Call → Prop
  | insert d | delete d | update d | select d | intoTable d | values d | setAll d => d.Aligned
  | insertBulk ds | valuesBulk ds => ∀ d ∈ ds, d.Aligned
  | intoColumns texts | selectColumns texts | groupBy texts | orderBy texts | ascending texts
  | descending texts => ∀ x ∈ texts, markerCount x = 0
  | intoColumnsOf t | selectColumnsOf t => t.Aligned
  | source d alias? => d.Aligned ∧ ∀ name ∈ alias?, markerCount name = 0
  | set column operand => markerCount column = 0 ∧ operand.AlignedWithin
  | increase column _ | decrease column _ => markerCount column = 0
  | condition _ q | having _ q => q.Aligned
  | limit _ | limitOffset _ _ | withCache _ | reset => True

/-- A bound value has no text that could hold a marker. -/
theorem Operand.aligned_value (v : Value) : (Operand.value v).AlignedWithin := by
  constructor
  · intro e he
    cases he
  · intro t ht
    cases ht

theorem ColumnMap.Aligned.keys {m : ColumnMap} (h : m.Aligned) :
    ∀ x ∈ m.keys, markerCount x = 0 := by
  intro x hx
  obtain ⟨entry, hentry, rfl⟩ := List.mem_map.1 hx
  exact (h entry hentry).1

/-- Looked up under columns, an aligned map makes aligned rows: a null stands where it has no
item. -/
theorem ColumnMap.Aligned.mapRow {m : ColumnMap} (h : m.Aligned) (columns : List String) :
    ∀ o ∈ Stmt.mapRow columns m, o.AlignedWithin := by
  intro o ho
  obtain ⟨column, _, rfl⟩ := List.mem_map.1 ho
  cases found : m.get? column with
  | none => exact Operand.aligned_value .null
  | some o => exact (h (column, o) (mem_of_lookup found)).2

/-! ## Conditions -/

namespace Cond

theorem aligned_empty : Aligned .empty := by
  intro e he
  cases he

/-- A fragment that binds a value for each of its markers. -/
theorem aligned_expr {sql : String} {args : List Value} (balanced : markerCount sql = args.length) :
    (expr sql args).Aligned := by
  unfold expr
  split
  · exact aligned_empty
  · intro e he
    obtain rfl : e = ⟨sql, args⟩ := List.mem_singleton.1 he
    exact balanced

/-- The comparison of a column with a bound value has one marker. -/
theorem aligned_eq {column : String} (free : markerCount column = 0) (value : Value) :
    (eq column value).Aligned := by
  unfold eq
  split
  · exact aligned_empty
  · apply aligned_expr
    -- the equals sign between column and marker lets no other marker form
    rw [markerCount_divided (by decide), free]
    rfl

/-- A leaf of the children is a leaf of one of them. -/
theorem mem_childrenLeaves {e : Expr} {children : List Cond} (h : e ∈ childrenLeaves children) :
    ∃ c ∈ children, e ∈ c.leaves := by
  induction children with
  | nil => cases h
  | cons c rest ih =>
    rw [childrenLeaves] at h
    rcases List.mem_append.1 h with h | h
    · exact ⟨c, List.mem_cons_self, h⟩
    · obtain ⟨d, hd, h⟩ := ih h
      exact ⟨d, List.mem_cons_of_mem _ hd, h⟩

/-- Joining conditions makes no new leaves. -/
theorem aligned_combine (op : Connective) {conds : List Cond} (h : ∀ c ∈ conds, c.Aligned) :
    (combine op conds).Aligned := by
  -- only the valid ones are joined
  have kept : ∀ c ∈ conds.filter isValid, c.Aligned := by
    intro c hc
    exact h c (List.mem_filter.1 hc).1
  unfold combine
  split
  · exact aligned_empty
  · next c single =>
    apply kept c
    rw [single]
    exact List.mem_cons_self
  · intro e he
    obtain ⟨c, hc, he⟩ := mem_childrenLeaves he
    exact kept c hc e he

end Cond

/-- The fragment that a column equals an operand has the markers of the operand: one for a value,
and those of a fragment. -/
theorem Operand.AlignedWithin.equality? {o : Operand} (h : o.AlignedWithin) {column : String}
    (free : markerCount column = 0) : ∀ c ∈ o.equality? column, c.Aligned := by
  intro c hc
  cases o with
  | value v =>
    cases hc
    exact Cond.aligned_eq free v
  | expr e =>
    cases hc
    apply Cond.aligned_expr
    -- the markers are those of the fragment, since the column has none
    have balanced : markerCount e.sql = e.args.length := h.own e rfl
    rw [markerCount_divided (by decide), free, balanced, Nat.zero_add]
  | stmt s => cases hc

/-- What a query puts forward is aligned if the query is. -/
theorem Query.Aligned.conditions {q : Query} (h : q.Aligned) : ∀ c ∈ q.conditions, c.Aligned := by
  cases q with
  | cond c =>
    intro d hd
    obtain rfl : d = c := List.mem_singleton.1 hd
    exact h
  | conds cs => exact h
  | map m =>
    intro c hc
    obtain ⟨⟨column, operand⟩, hentry, made⟩ := List.mem_filterMap.1 hc
    obtain ⟨free, aligned⟩ := h _ hentry
    exact aligned.equality? free c made

/-! ## Statements from aligned parts -/

namespace Stmt

/-- A statement is aligned if all that stands in it is. -/
theorem Aligned.of_parts {s : Stmt} (clauses : s.toClauses.Aligned)
    (sources : ∀ source ∈ s.sources, source.AlignedWithin)
    (rows : ∀ row ∈ s.rows, ∀ o ∈ row, o.AlignedWithin)
    (assignments : ∀ a ∈ s.assignments, a.AlignedWithin) : s.Aligned := by
  intro t ht
  rw [within_eq] at ht
  rcases List.mem_cons.1 ht with rfl | ht
  · exact
      { clauses := clauses
        sources := fun source hsource => (sources source hsource).own
        rows := fun row hrow o ho => (rows row hrow o ho).own
        columns := fun a ha => (assignments a ha).column
        operands := fun a ha => (assignments a ha).operand.own }
  · obtain ⟨part, hpart, ht⟩ := List.mem_flatMap.1 ht
    have aligned : part.Aligned := by
      -- a part is a source, an operand in a row, or an assigned operand
      simp only [parts, List.mem_append] at hpart
      rcases hpart with (hpart | hpart) | hpart
      · obtain ⟨source, hsource, isPart⟩ := List.mem_filterMap.1 hpart
        exact (sources source hsource).inside part isPart
      · obtain ⟨o, ho, isPart⟩ := List.mem_filterMap.1 hpart
        obtain ⟨row, hrow, ho⟩ := List.mem_flatten.1 ho
        exact (rows row hrow o ho).inside part isPart
      · obtain ⟨a, ha, isPart⟩ := List.mem_filterMap.1 hpart
        exact (assignments a ha).operand.inside part isPart
    exact aligned t ht

theorem aligned_empty : Aligned {} := by
  apply Aligned.of_parts
  · decide
  · intro source hsource
    cases hsource
  · intro row hrow
    cases hrow
  · intro a ha
    cases ha

section

variable {s : Stmt} (h : s.Aligned)

include h

theorem Aligned.source_mem {source : Source} (hsource : source ∈ s.sources) :
    source.AlignedWithin :=
  ⟨h.own.sources source hsource, fun _ ht => h.part (mem_parts_of_source hsource ht)⟩

theorem Aligned.row_mem {row : List Operand} (hrow : row ∈ s.rows) :
    ∀ o ∈ row, o.AlignedWithin :=
  fun o ho => ⟨h.own.rows row hrow o ho, fun _ ht => h.part (mem_parts_of_row hrow ho ht)⟩

theorem Aligned.assignment_mem {a : Assignment} (ha : a ∈ s.assignments) : a.AlignedWithin :=
  ⟨h.own.columns a ha, h.own.operands a ha, fun _ ht => h.part (mem_parts_of_assignment ha ht)⟩

/-! ## What calls change -/

/-- Other clauses that are aligned keep the statement so. -/
theorem Aligned.withClauses {c : Clauses} (hc : c.Aligned) :
    Aligned ⟨c, s.sources, s.rows, s.assignments⟩ :=
  .of_parts hc (fun _ => h.source_mem) (fun _ => h.row_mem) (fun _ => h.assignment_mem)

/-- A refusal is no text. -/
theorem Aligned.refuse (cause : Unsupported) : (s.refuse cause).Aligned := by
  unfold Stmt.refuse
  split
  · exact h
  · exact h.withClauses { h.own.clauses with }

theorem Aligned.start (kind : StmtKind) : (s.start kind).Aligned := by
  unfold Stmt.start
  split
  · exact h.withClauses { h.own.clauses with }
  · exact h

theorem Aligned.withTarget {name : String} (free : markerCount name = 0) :
    Aligned { s with target := name } :=
  h.withClauses { h.own.clauses with target := free }

/-- A further source that is aligned keeps the statement so. -/
theorem Aligned.addSource {source : Source} (hsource : source.AlignedWithin) :
    (s.addSource source).Aligned := by
  refine .of_parts h.own.clauses ?_ (fun _ => h.row_mem) (fun _ => h.assignment_mem)
  intro other hother
  rcases List.mem_append.1 hother with hother | hother
  · exact h.source_mem hother
  · obtain rfl : other = source := List.mem_singleton.1 hother
    exact hsource

/-- A further row of aligned operands keeps the statement aligned. -/
theorem Aligned.addRow {row : List Operand} (hrow : ∀ o ∈ row, o.AlignedWithin) :
    (s.addRow row).Aligned := by
  refine .of_parts h.own.clauses (fun _ => h.source_mem) ?_ (fun _ => h.assignment_mem)
  intro other hother
  rcases List.mem_append.1 hother with hother | hother
  · exact h.row_mem hother
  · obtain rfl : other = row := List.mem_singleton.1 hother
    exact hrow

/-- Further assignments that are aligned keep the statement so. -/
theorem Aligned.assign {items : List Assignment} (hitems : ∀ a ∈ items, a.AlignedWithin) :
    (s.assign items).Aligned := by
  refine .of_parts h.own.clauses (fun _ => h.source_mem) (fun _ => h.row_mem) ?_
  intro a ha
  rcases List.mem_append.1 ha with ha | ha
  · exact h.assignment_mem ha
  · exact hitems a ha

/-- The values of a record are bound, so that its row has no fragments. -/
theorem Aligned.addRecordRow (r : Record) : (s.addRecordRow r).Aligned := by
  apply h.addRow
  intro o ho
  obtain ⟨v, _, rfl⟩ := List.mem_map.1 ho
  exact Operand.aligned_value v

/-- An aligned sub-statement may be a source if its alias has no marker. -/
theorem Aligned.addStmt {sub : Stmt} (hsub : sub.Aligned) {alias? : Option String}
    (named : ∀ name ∈ alias?, markerCount name = 0) :
    (s.addSource (.stmt sub alias?)).Aligned := by
  apply h.addSource
  constructor
  · intro x hx
    exact named x (Option.mem_toList.1 hx)
  · intro t ht
    cases ht
    exact hsub

/-- A table may be a source if neither its name nor its alias has a marker. -/
theorem Aligned.addTable {name : String} (free : markerCount name = 0) {alias? : Option String}
    (named : ∀ name ∈ alias?, markerCount name = 0) :
    (s.addSource (.table name alias?)).Aligned := by
  apply h.addSource
  constructor
  · intro x hx
    rcases List.mem_cons.1 hx with rfl | hx
    · exact free
    · exact named x (Option.mem_toList.1 hx)
  · intro t ht
    cases ht

theorem Aligned.intoColumns {columns : List String} (free : ∀ x ∈ columns, markerCount x = 0) :
    (s.intoColumns columns).Aligned := by
  have all : ∀ x ∈ s.insertColumns ++ columns, markerCount x = 0 :=
    List.forall_mem_append.2 ⟨h.own.clauses.insertColumns, free⟩
  exact h.withClauses { h.own.clauses with insertColumns := all }

theorem Aligned.addSelectColumns {columns : List String}
    (free : ∀ x ∈ columns, markerCount x = 0) : (s.addSelectColumns columns).Aligned := by
  have all : ∀ x ∈ s.selectColumns ++ columns, markerCount x = 0 :=
    List.forall_mem_append.2 ⟨h.own.clauses.selectColumns, free⟩
  exact h.withClauses { h.own.clauses with selectColumns := all }

end

/-- A change by the columns of an aligned record type. -/
theorem gives_columnsOf (s : Stmt) {t : RecordType} (ht : t.Aligned) {change : List String → Stmt}
    (changed : ∀ columns, (∀ x ∈ columns, markerCount x = 0) → (change columns).Aligned) :
    Gives Aligned (do let columns ← s.columnsOf t; return change columns) :=
  (gives_resolve s.cache ht).bind fun columns free => .pure (changed columns free)

/-! ## Calls -/

/-- Items are divided by commas, and followed by suffixes that have no question marks. -/
theorem markerCount_appendItems {clause suffix : String} {items : List String}
    (free : markerCount clause = 0) (items_free : ∀ x ∈ items, markerCount x = 0)
    (plain : '?' ∉ suffix.toList) : markerCount (appendItems clause items suffix) = 0 := by
  induction items generalizing clause with
  | nil => exact free
  | cons item rest ih =>
    obtain ⟨first, others⟩ := List.forall_mem_cons.1 items_free
    apply ih _ others
    rw [markerCount_suffix plain]
    -- the first item of a clause stands alone, every other one behind a comma
    split
    · next none =>
      rw [String.isEmpty_iff.1 none, String.empty_append]
      exact first
    · rw [markerCount_divided (by decide), free, first]

theorem gives_start {s : Stmt} (h : s.Aligned) (kind : StmtKind) :
    Gives Aligned (pure (s.start kind)) :=
  .pure (h.start kind)

section

variable {s : Stmt} (h : s.Aligned)

include h

theorem Aligned.setRecordTarget {t : RecordType} (ht : t.Aligned) :
    (s.setRecordTarget t).Aligned := by
  unfold Stmt.setRecordTarget
  split
  · next name named => exact h.withTarget (ht.table name named)
  · exact h.refuse _

/-- The table of an aligned input has no marker, and any other input is refused. -/
theorem Aligned.intoTable {d : Data} (hd : d.Aligned) : (s.intoTable d).Aligned := by
  cases d with
  | table name => exact h.withTarget hd
  | record r => exact h.setRecordTarget hd
  | recordType t => exact h.setRecordTarget hd
  | _ => exact h.refuse _

theorem Aligned.gives_intoColumnsOf {t : RecordType} (ht : t.Aligned) :
    Gives Aligned (s.intoColumnsOf t) :=
  s.gives_columnsOf ht fun _ => h.intoColumns

theorem Aligned.gives_selectColumnsOf {t : RecordType} (ht : t.Aligned) :
    Gives Aligned (s.selectColumnsOf t) :=
  s.gives_columnsOf ht fun _ => h.addSelectColumns

/-- Columns are looked up only if there are none yet. -/
theorem Aligned.gives_defaultColumns {t : RecordType} (ht : t.Aligned) :
    Gives Aligned (s.defaultColumns t) := by
  unfold Stmt.defaultColumns
  split
  · exact h.gives_intoColumnsOf ht
  · exact .pure h

/-- One row more, and perhaps other columns: those of a map in place of the old ones, or those of a
record's type. -/
theorem Aligned.gives_values {d : Data} (hd : d.Aligned) : Gives Aligned (s.values d) := by
  cases d with
  | nothing => exact .pure h
  | row row => exact .pure (h.addRow hd)
  | map m =>
    have hm : m.Aligned := hd
    -- the columns are replaced first, so that the row stands under its own keys
    have columns : (s.columnsOfMap m).Aligned :=
      h.withClauses { h.own.clauses with insertColumns := hm.keys }
    apply Gives.pure
    apply columns.addRow
    intro o ho
    obtain ⟨entry, hentry, rfl⟩ := List.mem_map.1 ho
    exact (hm entry hentry).2
  | record r => exact (h.gives_defaultColumns hd).bind fun t ht => .pure (ht.addRecordRow r)
  | stmt sub => exact .pure (h.addStmt hd (by simp))
  | _ => exact .pure (h.refuse _)

/-- The columns that the first of several rows brings have no markers. -/
theorem Aligned.gives_columnsFromFirst {d : Data} (hd : d.Aligned) :
    Gives Aligned (s.columnsFromFirst d) := by
  cases d with
  | map m =>
    have hm : m.Aligned := hd
    apply Gives.pure
    split
    · exact h.intoColumns hm.keys
    · exact h
  | record r => exact h.gives_defaultColumns hd
  | _ => exact .pure h

/-- One of several rows: a map is looked up under the columns of the statement, and the others stand
as they are. -/
theorem Aligned.addOneOf {d : Data} (hd : d.Aligned) : (s.addOneOf d).Aligned := by
  cases d with
  | row row => exact h.addRow hd
  | map m =>
    have hm : m.Aligned := hd
    exact h.addRow (hm.mapRow s.insertColumns)
  | record r => exact h.addRecordRow r
  | stmt sub => exact h.addStmt hd (by simp)
  | _ => exact h.refuse _

/-- The columns come from the first row, and then all rows are added. -/
theorem Aligned.gives_valuesBulk {ds : List Data} (hds : ∀ d ∈ ds, d.Aligned) :
    Gives Aligned (s.valuesBulk ds) := by
  cases ds with
  | nil => exact .pure h
  | cons first rest =>
    apply (h.gives_columnsFromFirst (hds first List.mem_cons_self)).bind
    intro t ht
    apply Gives.pure
    -- one row after the other, under columns that do not change any more
    exact List.foldlRecOn _ _ ht fun _ hu d hd => hu.addOneOf (hds d hd)

/-- The input of an INSERT is a row, the table, or both. -/
theorem Aligned.gives_insert {d : Data} (hd : d.Aligned) : Gives Aligned (s.insert d) := by
  have started : ∀ t : Stmt, t.Aligned → Gives Aligned (pure (t.start .insert)) :=
    fun t ht => gives_start ht .insert
  cases d with
  | nothing => exact Gives.bind (.pure h) started
  | table name => exact Gives.bind (.pure (h.withTarget hd)) started
  | record r =>
    have values : Gives Aligned (s.values (.record r)) := h.gives_values hd
    exact values.bind fun t ht => Gives.bind (.pure (ht.setRecordTarget hd)) started
  | recordType t =>
    exact (h.gives_intoColumnsOf hd).bind fun u hu =>
      Gives.bind (.pure (hu.setRecordTarget hd)) started
  | map m => exact (h.gives_values (d := .map m) hd).bind started
  | row row => exact (h.gives_values (d := .row row) hd).bind started
  | stmt sub => exact (h.gives_values (d := .stmt sub) hd).bind started

/-- Several rows are added, and a record in front also names the table. -/
theorem Aligned.gives_insertBulk {ds : List Data} (hds : ∀ d ∈ ds, d.Aligned) :
    Gives Aligned (s.insertBulk ds) := by
  apply ((h.start .insert).gives_valuesBulk hds).bind
  intro t ht
  split
  · next name named =>
    -- the table is that of a record in front
    match ds with
    | .record r :: rest =>
      have hr : r.type.Aligned := hds (.record r) List.mem_cons_self
      exact .pure (ht.withTarget (hr.table name named))
    | [] => cases named
  · exact .pure ht

/-- A table, a sub-statement or the table of a record type; whatever else is refused. -/
theorem Aligned.source {d : Data} (hd : d.Aligned) {alias? : Option String}
    (named : ∀ name ∈ alias?, markerCount name = 0) : (s.source d alias?).Aligned := by
  have record {t : RecordType} (ht : t.Aligned) : (s.addRecordSource t alias?).Aligned := by
    unfold addRecordSource
    split
    · next name table => exact h.addTable (ht.table name table) named
    · exact h.refuse _
  cases d with
  | table name => exact h.addTable hd named
  | stmt sub => exact h.addStmt hd named
  | record r => exact record hd
  | recordType t => exact record hd
  | _ => exact h.refuse _

/-- A source without an alias. -/
theorem Aligned.sourceNamed {d : Data} (hd : d.Aligned) : (s.source d none).Aligned :=
  h.source hd (by simp)

theorem Aligned.delete {d : Data} (hd : d.Aligned) : (s.delete d).Aligned := by
  cases d with
  | nothing => exact h.start .delete
  | _ => exact (h.sourceNamed hd).start .delete

theorem Aligned.set {column : String} (free : markerCount column = 0) {operand : Operand}
    (aligned : operand.AlignedWithin) : (s.set column operand).Aligned := by
  apply h.assign
  intro a ha
  obtain rfl : a = ⟨column, operand⟩ := List.mem_singleton.1 ha
  exact ⟨free, aligned⟩

/-- The fragment for a change of a column binds the amount for its one marker. -/
theorem Aligned.step {column operator : String} (free : markerCount column = 0)
    (divides : Divides operator) (amount : Value) :
    (s.step column operator amount).Aligned := by
  apply h.set free
  constructor
  · intro e he
    cases he
    show markerCount (column ++ operator ++ marker) = 1
    rw [markerCount_divided divides, free]
    rfl
  · intro t ht
    cases ht

/-- A column for every entry of a map, or for every field of a record. -/
theorem Aligned.gives_setAll {d : Data} (hd : d.Aligned) : Gives Aligned (s.setAll d) := by
  cases d with
  | map m =>
    apply Gives.pure
    apply h.assign
    intro a ha
    obtain ⟨entry, hentry, rfl⟩ := List.mem_map.1 ha
    obtain ⟨free, aligned⟩ := hd entry hentry
    exact ⟨free, aligned⟩
  | record r =>
    -- columns and values are paired up to the shorter of the two lists
    apply s.gives_columnsOf hd
    intro columns free
    apply h.assign
    intro a ha
    obtain ⟨⟨column, v⟩, hpair, rfl⟩ := List.mem_map.1 ha
    exact ⟨free column (List.of_mem_zip hpair).1, Operand.aligned_value v⟩
  | _ => exact .pure (h.refuse _)

/-- An UPDATE of a record sets all its fields in the table of its type. -/
theorem Aligned.gives_update {d : Data} (hd : d.Aligned) : Gives Aligned (s.update d) := by
  have started : ∀ t : Stmt, t.Aligned → Gives Aligned (pure (t.start .update)) :=
    fun t ht => gives_start ht .update
  cases d with
  | nothing => exact Gives.bind (.pure h) started
  | record r =>
    have assigned : Gives Aligned (s.setAll (.record r)) := h.gives_setAll hd
    exact assigned.bind fun t ht => Gives.bind (.pure (ht.sourceNamed hd)) started
  | map m => exact (h.gives_setAll (d := .map m) hd).bind started
  | _ => exact Gives.bind (.pure (h.sourceNamed hd)) started

/-- A SELECT by a record type takes its columns and its table. -/
theorem Aligned.gives_select {d : Data} (hd : d.Aligned) : Gives Aligned (s.select d) := by
  have started : ∀ t : Stmt, t.Aligned → Gives Aligned (pure (t.start .select)) :=
    fun t ht => gives_start ht .select
  cases d with
  | nothing => exact Gives.bind (.pure h) started
  | record r =>
    exact (h.gives_selectColumnsOf hd).bind fun t ht =>
      Gives.bind (.pure (ht.sourceNamed (d := .recordType r.type) hd)) started
  | recordType t =>
    exact (h.gives_selectColumnsOf hd).bind fun u hu =>
      Gives.bind (.pure (hu.sourceNamed (d := .recordType t) hd)) started
  | _ => exact Gives.bind (.pure (h.sourceNamed hd)) started

theorem Aligned.refuseStatements (q : Query) : (s.refuseStatements q).Aligned :=
  List.foldlRecOn _ _ h fun _ ht column _ => ht.refuse (.conditionOnStatement column)

/-- The joined condition has the leaves of the old one and those of the query. -/
theorem Aligned.addCondition (op : Connective) {q : Query} (hq : q.Aligned) :
    (s.addCondition op q).Aligned := by
  have refused : (s.refuseStatements q).Aligned := h.refuseStatements q
  have joined : (Cond.combine op (s.condition :: q.conditions)).Aligned := by
    apply Cond.aligned_combine
    exact List.forall_mem_cons.2 ⟨h.own.clauses.condition, hq.conditions⟩
  exact refused.withClauses { refused.own.clauses with condition := joined }

theorem Aligned.addHaving (op : Connective) {q : Query} (hq : q.Aligned) :
    (s.addHaving op q).Aligned := by
  have refused : (s.refuseStatements q).Aligned := h.refuseStatements q
  have joined : (Cond.combine op (s.having :: q.conditions)).Aligned := by
    apply Cond.aligned_combine
    exact List.forall_mem_cons.2 ⟨h.own.clauses.having, hq.conditions⟩
  exact refused.withClauses { refused.own.clauses with having := joined }

theorem Aligned.groupBy {keys : List String} (free : ∀ x ∈ keys, markerCount x = 0) :
    (s.groupBy keys).Aligned := by
  have grouping := markerCount_appendItems h.own.clauses.grouping free (by decide : '?' ∉ "".toList)
  exact h.withClauses { h.own.clauses with grouping := grouping }

/-- The items are divided by commas, and a direction has no question mark that could complete a
marker. -/
theorem Aligned.orderBy {items : List String} (free : ∀ x ∈ items, markerCount x = 0)
    {direction : String} (plain : '?' ∉ direction.toList) :
    (s.orderBy items direction).Aligned := by
  have ordering := markerCount_appendItems h.own.clauses.ordering free plain
  exact h.withClauses { h.own.clauses with ordering := ordering }

end

/-- A call with aligned inputs keeps the statement and the caches aligned. -/
theorem apply_aligned {s : Stmt} (h : s.Aligned) {call : Call} (hcall : call.Aligned) :
    Gives Aligned (s.apply call) := by
  cases call with
  | insert d => exact h.gives_insert hcall
  | insertBulk ds => exact h.gives_insertBulk hcall
  | delete d => exact .pure (h.delete hcall)
  | update d => exact h.gives_update hcall
  | select d => exact h.gives_select hcall
  | intoTable d => exact .pure (h.intoTable hcall)
  | intoColumns columns => exact .pure (h.intoColumns hcall)
  | intoColumnsOf t => exact h.gives_intoColumnsOf hcall
  | values d => exact h.gives_values hcall
  | valuesBulk ds => exact h.gives_valuesBulk hcall
  | source d alias? => exact .pure (h.source hcall.1 hcall.2)
  | selectColumns columns => exact .pure (h.addSelectColumns hcall)
  | selectColumnsOf t => exact h.gives_selectColumnsOf hcall
  | set column operand => exact .pure (h.set hcall.1 hcall.2)
  | increase column amount => exact .pure (h.step hcall (by decide) amount)
  | decrease column amount => exact .pure (h.step hcall (by decide) amount)
  | setAll d => exact h.gives_setAll hcall
  | condition op q => exact .pure (h.addCondition op hcall)
  | having op q => exact .pure (h.addHaving op hcall)
  | groupBy keys => exact .pure (h.groupBy hcall)
  | orderBy items => exact .pure (h.orderBy hcall (by decide))
  | ascending columns => exact .pure (h.orderBy hcall (by decide))
  | descending columns => exact .pure (h.orderBy hcall (by decide))
  | limit n => exact .pure (h.withClauses { h.own.clauses with })
  | limitOffset n offset => exact .pure (h.withClauses { h.own.clauses with })
  | withCache cache => exact .pure (h.withClauses { h.own.clauses with })
  | reset => exact .pure aligned_empty

/-- Calls with aligned inputs, in any order and number, keep the statement and the caches
aligned. -/
theorem run_aligned {s : Stmt} (h : s.Aligned) {calls : List Call}
    (hcalls : ∀ call ∈ calls, call.Aligned) : Gives Aligned (s.run calls) := by
  induction calls generalizing s with
  | nil => exact .pure h
  | cons call rest ih =>
    obtain ⟨first, others⟩ := List.forall_mem_cons.1 hcalls
    -- a call keeps the caches aligned too, so that the rest may look columns up in them
    rw [run, List.foldlM_cons]
    exact (apply_aligned h first).bind fun t ht => ih ht others

end Stmt

end SqlCompose
