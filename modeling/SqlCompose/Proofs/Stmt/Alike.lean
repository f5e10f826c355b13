import Mathlib.Data.List.Forall2
import SqlCompose.Proofs.Stmt.Steps
import SqlCompose.Stmt.Builder

/-! # Statements that are alike

Two statements are alike if they differ only in the caches where they look columns up, and in
sub-statements that are written the same.  Alike statements are written the same, and a call that
looks no columns up keeps them alike, also if its inputs are not the same but alike themselves.

Main statements:

* `Stmt.Alike.write`: alike statements are written the same;
* `Stmt.Alike.change`: a change of the clauses that does not look at the cache keeps statements
  alike.
-/

namespace SqlCompose

/-! ## Alike inputs -/

/-- The operands are the same, or sub-statements that are written the same. -/
inductive Operand.Alike : Operand → Operand → Prop
  | same (o : Operand) : Alike o o
  | stmt {s t : Stmt} (written : s.write = t.write) : Alike (.stmt s) (.stmt t)

/-- The maps have the same columns, with alike operands. -/
def ColumnMap.Alike (m m' : ColumnMap) : Prop :=
  List.Forall₂ (fun e e' => e.1 = e'.1 ∧ e.2.Alike e'.2) m.entries m'.entries

/-- The inputs are the same but for sub-statements, and these are written the same. -/
inductive Data.Alike : Data → Data → Prop
  | nothing : Alike .nothing .nothing
  | table (name : String) : Alike (.table name) (.table name)
  | record (r : Record) : Alike (.record r) (.record r)
  | recordType (t : RecordType) : Alike (.recordType t) (.recordType t)
  | map {m m' : ColumnMap} (entries : m.Alike m') : Alike (.map m) (.map m')
  | row {row row' : List Operand} (values : List.Forall₂ Operand.Alike row row') :
      Alike (.row row) (.row row')
  | stmt {s t : Stmt} (written : s.write = t.write) : Alike (.stmt s) (.stmt t)

/-- The queries are the same but for sub-statements, and these are written the same. -/
inductive Query.Alike : Query → Query → Prop
  | same (q : Query) : Alike q q
  | map {m m' : ColumnMap} (entries : m.Alike m') : Alike (.map m) (.map m')

/-- The calls are the same but for sub-statements in their inputs, and these are written the
same. -/
inductive Call.Alike : Call → Call → Prop
  | same (call : Call) : Alike call call
  | insert {d d' : Data} (h : d.Alike d') : Alike (.insert d) (.insert d')
  | insertBulk {ds ds' : List Data} (h : List.Forall₂ Data.Alike ds ds') :
      Alike (.insertBulk ds) (.insertBulk ds')
  | delete {d d' : Data} (h : d.Alike d') : Alike (.delete d) (.delete d')
  | update {d d' : Data} (h : d.Alike d') : Alike (.update d) (.update d')
  | select {d d' : Data} (h : d.Alike d') : Alike (.select d) (.select d')
  | intoTable {d d' : Data} (h : d.Alike d') : Alike (.intoTable d) (.intoTable d')
  | values {d d' : Data} (h : d.Alike d') : Alike (.values d) (.values d')
  | valuesBulk {ds ds' : List Data} (h : List.Forall₂ Data.Alike ds ds') :
      Alike (.valuesBulk ds) (.valuesBulk ds')
  | source {d d' : Data} (h : d.Alike d') (alias? : Option String) :
      Alike (.source d alias?) (.source d' alias?)
  | set (column : String) {o o' : Operand} (h : o.Alike o') :
      Alike (.set column o) (.set column o')
  | setAll {d d' : Data} (h : d.Alike d') : Alike (.setAll d) (.setAll d')
  | condition (op : Connective) {q q' : Query} (h : q.Alike q') :
      Alike (.condition op q) (.condition op q')
  | having (op : Connective) {q q' : Query} (h : q.Alike q') :
      Alike (.having op q) (.having op q')

/-- What shows of a source: whether it is a sub-statement, and how it is written. -/
def Source.shown (source : Source) : Bool × Rendering Unit :=
  (source.isStmt, source.write)

theorem Operand.Alike.write {o o' : Operand} (alike : o.Alike o') : o.write = o'.write := by
  cases alike with
  | same => rfl
  | stmt written => rw [Operand.write, Operand.write, written]

/-- A sub-statement makes no fragment, whichever it is, so alike operands make the same one or
none. -/
theorem Operand.Alike.equality? {o o' : Operand} (alike : o.Alike o') (column : String) :
    o.equality? column = o'.equality? column := by
  cases alike with
  | same => rfl
  | stmt written => rfl

/-- Alike rows are written the same, value by value. -/
theorem map_write_of_alike {row row' : List Operand} (alike : List.Forall₂ Operand.Alike row row') :
    row.map Operand.write = row'.map Operand.write := by
  induction alike with
  | nil => rfl
  | cons first _ ih => exact congrArg₂ List.cons first.write ih

/-- Under a key stands what has been made of the item that stood there. -/
theorem lookup_map {α β : Type} (f : α → β) (key : String) (entries : List (String × α)) :
    (entries.map fun e => (e.1, f e.2)).lookup key = (entries.lookup key).map f := by
  induction entries with
  | nil => rfl
  | cons e rest ih =>
    rw [List.map_cons, lookup_entry, lookup_entry, ih, apply_ite (Option.map f)]
    rfl

namespace ColumnMap.Alike

/-- A map is like itself. -/
theorem refl (m : ColumnMap) : m.Alike m :=
  List.forall₂_same.2 fun e _ => ⟨rfl, .same e.2⟩

variable {m m' : ColumnMap} (alike : m.Alike m')

include alike

/-- What is made of the entries is the same if it does not tell alike operands apart. -/
theorem map_eq {γ : Type} {f : String × Operand → γ}
    (same : ∀ column o o', o.Alike o' → f (column, o) = f (column, o')) :
    m.entries.map f = m'.entries.map f := by
  unfold ColumnMap.Alike at alike
  -- the proofs of their order would get in the way of an induction on the entries
  generalize m.entries = entries, m'.entries = entries' at alike ⊢
  induction alike with
  | nil => rfl
  | @cons e e' _ _ first _ ih =>
    rcases e with ⟨column, o⟩
    rcases e' with ⟨_, o'⟩
    rcases first with ⟨rfl, operands⟩
    exact congrArg₂ List.cons (same column o o' operands) ih

theorem keys_eq : m.keys = m'.keys :=
  alike.map_eq fun _ _ _ _ => rfl

theorem write_values : (m.entries.map fun e => e.2).map Operand.write =
    (m'.entries.map fun e => e.2).map Operand.write := by
  rw [List.map_map, List.map_map]
  exact alike.map_eq fun _ _ _ operands => operands.write

/-- Looked up under any columns, alike maps make rows that are written the same; where one has no
item, neither has the other. -/
theorem write_mapRow (columns : List String) :
    (Stmt.mapRow columns m).map Operand.write = (Stmt.mapRow columns m').map Operand.write := by
  have found (column : String) :
      (m.get? column).map Operand.write = (m'.get? column).map Operand.write := by
    -- what is found of what is written is what is written of what is found
    rw [KeyMap.get?, KeyMap.get?, ← lookup_map, ← lookup_map]
    exact congrArg (List.lookup column)
      (alike.map_eq fun key _ _ operands => congrArg (Prod.mk key) operands.write)
  unfold Stmt.mapRow
  rw [List.map_map, List.map_map]
  apply List.map_congr_left
  intro column _
  show Operand.write ((m.get? column).getD _) = Operand.write ((m'.get? column).getD _)
  rw [← Option.getD_map Operand.write, ← Option.getD_map Operand.write, found]

/-- Alike maps put forward the same conditions, since only values and fragments make one. -/
theorem conditions_eq : (Query.map m).conditions = (Query.map m').conditions := by
  have made := alike.map_eq (f := fun e => e.2.equality? e.1)
    fun column _ _ operands => operands.equality? column
  -- the entries that make no condition drop out of both lists
  have filtered := congrArg (List.filterMap id) made
  rwa [List.filterMap_map, List.filterMap_map] at filtered

/-- The columns that are compared with sub-statements are the same, since alike operands are
sub-statements together. -/
theorem statementColumns_eq :
    (Query.map m).statementColumns = (Query.map m').statementColumns := by
  -- for each entry, whether it makes no fragment, and its column
  have made := alike.map_eq (f := fun e => ((e.2.equality? e.1).isNone, e.1))
    fun column _ _ operands =>
      congrArg (fun made => (Option.isNone made, column)) (operands.equality? column)
  have filtered := congrArg (fun pairs => (pairs.filter Prod.fst).map Prod.snd) made
  simp only [List.filter_map, List.map_map] at filtered
  exact filtered

end ColumnMap.Alike

/-- Alike queries put forward the same conditions. -/
theorem Query.Alike.conditions_eq {q q' : Query} (alike : q.Alike q') :
    q.conditions = q'.conditions := by
  cases alike with
  | same => rfl
  | map entries => exact entries.conditions_eq

/-- Alike queries are refused for the same columns. -/
theorem Query.Alike.statementColumns_eq {q q' : Query} (alike : q.Alike q') :
    q.statementColumns = q'.statementColumns := by
  cases alike with
  | same => rfl
  | map entries => exact entries.statementColumns_eq

namespace Data.Alike

/-- An input is like itself. -/
theorem refl (d : Data) : d.Alike d := by
  cases d with
  | nothing => exact .nothing
  | table name => exact .table name
  | record r => exact .record r
  | recordType t => exact .recordType t
  | map m => exact .map (.refl m)
  | row row => exact .row (List.forall₂_same.2 fun o _ => .same o)
  | stmt s => exact .stmt rfl

theorem refl_all (ds : List Data) : List.Forall₂ Data.Alike ds ds :=
  List.forall₂_same.2 fun d _ => .refl d

end Data.Alike

/-! ## Alike statements -/

namespace Stmt

/-- The statements differ in their caches only, and in sub-statements that are written the same. -/
structure Alike (s t : Stmt) : Prop where
  clauses : ∃ cache, t.toClauses = { s.toClauses with cache := cache }
  sources : s.sources.map Source.shown = t.sources.map Source.shown
  rows : (s.rows.map fun row => row.map Operand.write) = t.rows.map fun row => row.map Operand.write
  assignments : s.assignments.map Assignment.write = t.assignments.map Assignment.write

/-- A statement is like itself. -/
theorem Alike.refl (s : Stmt) : s.Alike s :=
  ⟨⟨s.cache, rfl⟩, rfl, rfl, rfl⟩

/-- What is written does not tell alike statements apart. -/
theorem Alike.write {s t : Stmt} (alike : s.Alike t) : s.write = t.write := by
  rcases alike with ⟨⟨cache, clauses⟩, sources, rows, assignments⟩
  have first : firstIsStmt s.sources = firstIsStmt t.sources := by
    have shown (sources : List Source) :
        firstIsStmt sources = (sources.map Source.shown).head?.any Prod.fst := by
      cases sources with
      | _ => rfl
    rw [shown, shown, sources]
  have written : s.sources.map Source.write = t.sources.map Source.write := by
    have parts := congrArg (List.map Prod.snd) sources
    rwa [List.map_map, List.map_map] at parts
  -- how a statement is written depends on these four and on the clauses without the cache
  rw [write_eq, write_eq, clauses, first, written, rows, assignments]
  rfl

section

variable {s t : Stmt} (h : s.Alike t)

include h

/-- A change of the clauses that does not look at the cache. -/
theorem Alike.change (f : Clauses → Clauses)
    (blind : ∀ c cache, f { c with cache := cache } = { f c with cache := cache }) :
    Alike ⟨f s.toClauses, s.sources, s.rows, s.assignments⟩
      ⟨f t.toClauses, t.sources, t.rows, t.assignments⟩ := by
  rcases h.clauses with ⟨cache, clauses⟩
  refine { h with clauses := ⟨cache, ?_⟩ }
  rw [clauses, blind]

/-- To choose another cache makes no difference. -/
theorem Alike.withCache_left (cache : CacheRef) : (s.withCache cache).Alike t := by
  rcases h.clauses with ⟨other, clauses⟩
  exact { h with clauses := ⟨other, clauses⟩ }

theorem Alike.withCache (cache : CacheRef) : (s.withCache cache).Alike (t.withCache cache) := by
  rcases h.clauses with ⟨other, clauses⟩
  refine { h with clauses := ⟨cache, ?_⟩ }
  rw [Stmt.withCache, clauses]
  rfl

theorem Alike.withTarget (name : String) :
    Alike { s with target := name } { t with target := name } :=
  h.change (fun c => { c with target := name }) fun _ _ => rfl

/-- Whether a refusal is remembered depends on earlier refusals only, which alike statements
share. -/
theorem Alike.refuse (cause : Unsupported) : (s.refuse cause).Alike (t.refuse cause) := by
  have refusals : t.refusal = s.refusal := by
    rcases h.clauses with ⟨cache, clauses⟩
    rw [clauses]
  unfold Stmt.refuse
  rw [refusals]
  -- an earlier refusal stays, and else the cause is noted in both
  cases s.refusal with
  | some _ => exact h
  | none => exact h.change (fun c => { c with refusal := some cause }) fun _ _ => rfl

/-- Alike statements are of one kind, and so stay undecided or take the new kind together. -/
theorem Alike.start (kind : StmtKind) : (s.start kind).Alike (t.start kind) := by
  have kinds : t.kind = s.kind := by
    rcases h.clauses with ⟨cache, clauses⟩
    rw [clauses]
  unfold Stmt.start
  rw [kinds]
  cases s.kind with
  | raw => exact h.change (fun c => { c with kind := kind }) fun _ _ => rfl
  | _ => exact h

theorem Alike.insertColumns_eq : t.insertColumns = s.insertColumns := by
  rcases h.clauses with ⟨cache, clauses⟩
  rw [clauses]

theorem Alike.intoColumns (columns : List String) :
    (s.intoColumns columns).Alike (t.intoColumns columns) :=
  h.change (fun c => { c with insertColumns := c.insertColumns ++ columns }) fun _ _ => rfl

/-- The columns of alike maps replace those that either statement had. -/
theorem Alike.columnsOfMap {m m' : ColumnMap} (entries : m.Alike m') :
    (s.columnsOfMap m).Alike (t.columnsOfMap m') := by
  unfold Stmt.columnsOfMap
  rw [entries.keys_eq]
  exact h.change (fun c => { c with insertColumns := m'.keys }) fun _ _ => rfl

theorem Alike.addSelectColumns (columns : List String) :
    (s.addSelectColumns columns).Alike (t.addSelectColumns columns) :=
  h.change (fun c => { c with selectColumns := c.selectColumns ++ columns }) fun _ _ => rfl

theorem Alike.groupBy (keys : List String) : (s.groupBy keys).Alike (t.groupBy keys) :=
  h.change (fun c => { c with grouping := appendItems c.grouping keys "" }) fun _ _ => rfl

theorem Alike.orderBy (items : List String) (direction : String) :
    (s.orderBy items direction).Alike (t.orderBy items direction) :=
  h.change (fun c => { c with ordering := appendItems c.ordering items direction }) fun _ _ => rfl

theorem Alike.setLimit (n : Int64) : (s.setLimit n).Alike (t.setLimit n) :=
  h.change (fun c => { c with limit := n }) fun _ _ => rfl

theorem Alike.setLimitOffset (n offset : Int64) :
    (s.setLimitOffset n offset).Alike (t.setLimitOffset n offset) :=
  h.change (fun c => { c with limit := n, offset := offset }) fun _ _ => rfl

/-- A source may be exchanged for one that shows the same. -/
theorem Alike.addSource {source source' : Source} (same : source.shown = source'.shown) :
    (s.addSource source).Alike (t.addSource source') := by
  refine { h with sources := ?_ }
  show (s.sources ++ [source]).map Source.shown = (t.sources ++ [source']).map Source.shown
  rw [List.map_append, List.map_append, h.sources, List.map_singleton, List.map_singleton, same]

/-- A row may be exchanged for one that is written the same. -/
theorem Alike.addRow {row row' : List Operand}
    (same : row.map Operand.write = row'.map Operand.write) :
    (s.addRow row).Alike (t.addRow row') := by
  refine { h with rows := ?_ }
  show (s.rows ++ [row]).map (·.map Operand.write) = (t.rows ++ [row']).map (·.map Operand.write)
  rw [List.map_append, List.map_append, h.rows, List.map_singleton, List.map_singleton, same]

/-- Assignments may be exchanged for others that are written the same. -/
theorem Alike.assign {items items' : List Assignment}
    (same : items.map Assignment.write = items'.map Assignment.write) :
    (s.assign items).Alike (t.assign items') := by
  refine { h with assignments := ?_ }
  show (s.assignments ++ items).map Assignment.write = (t.assignments ++ items').map _
  rw [List.map_append, List.map_append, h.assignments, same]

theorem Alike.addRecordRow (r : Record) : (s.addRecordRow r).Alike (t.addRecordRow r) :=
  h.addRow rfl

/-- A sub-statement may be exchanged for another one that is written the same. -/
theorem Alike.addStmt {sub sub' : Stmt} (written : sub.write = sub'.write)
    (alias? : Option String) :
    (s.addSource (.stmt sub alias?)).Alike (t.addSource (.stmt sub' alias?)) := by
  apply h.addSource
  rw [Source.shown, Source.shown, Source.write, Source.write, written]
  rfl

/-- The table of a record type is set, or its absence refused, in both. -/
theorem Alike.setRecordTarget (type : RecordType) :
    (s.setRecordTarget type).Alike (t.setRecordTarget type) := by
  unfold Stmt.setRecordTarget
  split
  · next name _ => exact h.withTarget name
  · exact h.refuse _

/-- An input that names no table is refused in both. -/
theorem Alike.intoTable {d d' : Data} (inputs : d.Alike d') :
    (s.intoTable d).Alike (t.intoTable d') := by
  cases inputs with
  | table name => exact h.withTarget name
  | record r => exact h.setRecordTarget r.type
  | recordType type => exact h.setRecordTarget type
  | nothing | map _ | row _ | stmt _ => exact h.refuse _

theorem Alike.addRecordSource (type : RecordType) (alias? : Option String) :
    (s.addRecordSource type alias?).Alike (t.addRecordSource type alias?) := by
  unfold Stmt.addRecordSource
  split
  · exact h.addSource rfl
  · exact h.refuse _

/-- A source is added, or the input refused, in both. -/
theorem Alike.source {d d' : Data} (inputs : d.Alike d') (alias? : Option String) :
    (s.source d alias?).Alike (t.source d' alias?) := by
  cases inputs with
  | table name => exact h.addSource rfl
  | stmt written => exact h.addStmt written alias?
  | record r => exact h.addRecordSource r.type alias?
  | recordType type => exact h.addRecordSource type alias?
  | nothing | map _ | row _ => exact h.refuse _

/-- Without an input there is no source, and with one it is added before the kind is set. -/
theorem Alike.delete {d d' : Data} (inputs : d.Alike d') : (s.delete d).Alike (t.delete d') := by
  -- every input but none is used as a source first
  have sourced := (h.source inputs none).start .delete
  cases inputs with
  | nothing => exact h.start .delete
  | _ => exact sourced

/-- A row is added under the columns there are.  They are the same in both, so a map is looked up
under the same columns. -/
theorem Alike.addOneOf {d d' : Data} (inputs : d.Alike d') :
    (s.addOneOf d).Alike (t.addOneOf d') := by
  cases inputs with
  | row values => exact h.addRow (map_write_of_alike values)
  | @map m m' entries =>
    apply h.addRow
    rw [h.insertColumns_eq]
    exact entries.write_mapRow s.insertColumns
  | record r => exact h.addRecordRow r
  | stmt written => exact h.addStmt written none
  | nothing | table _ | recordType _ => exact h.refuse _

omit h in
/-- Rows are added one after the other. -/
theorem Alike.addAll {ds ds' : List Data} (inputs : List.Forall₂ Data.Alike ds ds') {s t : Stmt}
    (h : s.Alike t) : (ds.foldl Stmt.addOneOf s).Alike (ds'.foldl Stmt.addOneOf t) := by
  induction inputs generalizing s t with
  | nil => exact h
  | cons first _ ih => exact ih (h.addOneOf first)

theorem Alike.set (column : String) {o o' : Operand} (operands : o.Alike o') :
    (s.set column o).Alike (t.set column o') := by
  apply h.assign
  rw [List.map_singleton, List.map_singleton, Assignment.write, Assignment.write, operands.write]

/-- Both statements remember the same refusals, in the same order. -/
theorem Alike.refuseStatements {q q' : Query} (queries : q.Alike q') :
    (s.refuseStatements q).Alike (t.refuseStatements q') := by
  unfold Stmt.refuseStatements
  rw [queries.statementColumns_eq]
  -- one refusal after the other, from statements that may have some already
  generalize q'.statementColumns = columns
  induction columns generalizing s t with
  | nil => exact h
  | cons column _ ih => exact ih (h.refuse _)

/-- The conditions of a query are joined to the same condition in both. -/
theorem Alike.addCondition (op : Connective) {q q' : Query} (queries : q.Alike q') :
    (s.addCondition op q).Alike (t.addCondition op q') := by
  have held : t.condition = s.condition := by
    rcases h.clauses with ⟨cache, clauses⟩
    rw [clauses]
  have joined : Cond.combine op (t.condition :: q'.conditions) =
      Cond.combine op (s.condition :: q.conditions) := by
    rw [held, queries.conditions_eq]
  unfold Stmt.addCondition
  rw [joined]
  exact (h.refuseStatements queries).change
    (fun c => { c with condition := Cond.combine op (s.condition :: q.conditions) }) fun _ _ => rfl

theorem Alike.addHaving (op : Connective) {q q' : Query} (queries : q.Alike q') :
    (s.addHaving op q).Alike (t.addHaving op q') := by
  have held : t.having = s.having := by
    rcases h.clauses with ⟨cache, clauses⟩
    rw [clauses]
  have joined : Cond.combine op (t.having :: q'.conditions) =
      Cond.combine op (s.having :: q.conditions) := by
    rw [held, queries.conditions_eq]
  unfold Stmt.addHaving
  rw [joined]
  exact (h.refuseStatements queries).change
    (fun c => { c with having := Cond.combine op (s.having :: q.conditions) }) fun _ _ => rfl

end

end Stmt

end SqlCompose
