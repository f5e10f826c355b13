import SqlCompose.Proofs.Cond.Alike
import SqlCompose.Proofs.Cond.Validity
import SqlCompose.Proofs.Stmt.Conditions

/-! # Conditions that calls accumulate

The conditions of a statement are touched by two kinds of calls only, and by a reset.  All others
leave them as they are, whatever else they do or refuse.  So after a run of calls a restriction is
what its own calls have joined, one query after another, since the last reset.

What is joined is composed, and so are the conditions of a statement.  How the conditions are spread
over the calls makes no difference to what is written.

Main statements:

* `Restriction.cond_run`: a restriction after a run of calls of any kind;
* `conditions_wellShaped`: composed conditions, and those that calls accumulate, are well-shaped;
* `regrouping_renders_alike`: neither regrouping of conditions nor invalid ones show in what is
  written.
-/

namespace SqlCompose

/-! ## What a call does to restrictions -/

namespace Stmt

/-- A statement with the same restrictions as another one. -/
structure KeepsRestrictions (s t : Stmt) : Prop where
  condition : t.condition = s.condition
  having : t.having = s.having

theorem KeepsRestrictions.refl (s : Stmt) : KeepsRestrictions s s :=
  ⟨rfl, rfl⟩

theorem KeepsRestrictions.trans {s t u : Stmt} (h : KeepsRestrictions s t)
    (h' : KeepsRestrictions t u) : KeepsRestrictions s u :=
  ⟨h'.condition.trans h.condition, h'.having.trans h.having⟩

/-- One step after another, none of which touches a restriction. -/
theorem keeps_foldl {α : Type} {step : Stmt → α → Stmt}
    (keeps : ∀ s a, KeepsRestrictions s (step s a)) (s : Stmt) (as : List α) :
    KeepsRestrictions s (as.foldl step s) := by
  induction as generalizing s with
  | nil => exact .refl s
  | cons a rest ih => exact (keeps s a).trans (ih (step s a))

variable (s : Stmt)

/-- To remember a refusal is to leave the conditions alone. -/
theorem keeps_refuse (cause : Unsupported) : KeepsRestrictions s (s.refuse cause) := by
  unfold refuse
  split
  · exact .refl s
  · exact ⟨rfl, rfl⟩

/-- To take a kind is to leave the conditions alone, too. -/
theorem keeps_start (kind : StmtKind) : KeepsRestrictions s (s.start kind) := by
  unfold start
  split
  · exact ⟨rfl, rfl⟩
  · exact .refl s

theorem keeps_setRecordTarget (t : RecordType) :
    KeepsRestrictions s (s.setRecordTarget t) := by
  unfold setRecordTarget
  split
  · exact ⟨rfl, rfl⟩
  · exact s.keeps_refuse _

/-- Whatever stands for the table, the conditions are not looked at. -/
theorem keeps_intoTable (d : Data) : KeepsRestrictions s (s.intoTable d) := by
  unfold intoTable
  split
  · exact ⟨rfl, rfl⟩
  · exact s.keeps_setRecordTarget _
  · exact s.keeps_setRecordTarget _
  · exact s.keeps_refuse _

theorem keeps_defaultColumns (t : RecordType) (caches : ColumnCaches) :
    KeepsRestrictions s (s.defaultColumns t caches).1 := by
  unfold defaultColumns
  split
  · exact ⟨rfl, rfl⟩
  · exact .refl s

/-- A row may bring other columns, but no condition. -/
theorem keeps_values (d : Data) (caches : ColumnCaches) :
    KeepsRestrictions s (s.values d caches).1 := by
  unfold values
  split
  · exact .refl s
  · exact ⟨rfl, rfl⟩
  · exact ⟨rfl, rfl⟩
  · next r =>
    -- the columns of the record's type come first, then its row
    have added : KeepsRestrictions (s.defaultColumns r.type caches).1
        ((s.defaultColumns r.type caches).1.addRecordRow r) := ⟨rfl, rfl⟩
    exact (s.keeps_defaultColumns r.type caches).trans added
  · exact ⟨rfl, rfl⟩
  · exact s.keeps_refuse _

/-- The first of several rows may bring columns, but no condition. -/
theorem keeps_columnsFromFirst (d : Data) (caches : ColumnCaches) :
    KeepsRestrictions s (s.columnsFromFirst d caches).1 := by
  unfold columnsFromFirst
  split
  · next m =>
    show KeepsRestrictions s (if s.insertColumns.isEmpty then s.intoColumns m.keys else s)
    split
    · exact ⟨rfl, rfl⟩
    · exact .refl s
  · exact s.keeps_defaultColumns _ caches
  · exact .refl s

theorem keeps_addOneOf (d : Data) : KeepsRestrictions s (s.addOneOf d) := by
  unfold addOneOf
  split
  · exact ⟨rfl, rfl⟩
  · exact ⟨rfl, rfl⟩
  · exact ⟨rfl, rfl⟩
  · exact ⟨rfl, rfl⟩
  · exact s.keeps_refuse _

/-- Columns and rows are taken from several inputs, and no condition. -/
theorem keeps_valuesBulk (ds : List Data) (caches : ColumnCaches) :
    KeepsRestrictions s (s.valuesBulk ds caches).1 := by
  rcases ds with _ | ⟨first, rest⟩
  · exact .refl s
  · exact (s.keeps_columnsFromFirst first caches).trans
      (keeps_foldl keeps_addOneOf _ (first :: rest))

/-- An INSERT starts with columns, a row or a table, whatever it is given. -/
theorem keeps_insert (d : Data) (caches : ColumnCaches) :
    KeepsRestrictions s (s.insert d caches).1 := by
  -- nothing, a table, a record, a record type, a map, a row, a sub-statement
  rcases d with _ | name | r | t | m | row | sub
  · exact s.keeps_start .insert
  · have target : KeepsRestrictions s { s with target := name } := ⟨rfl, rfl⟩
    exact target.trans (keeps_start _ .insert)
  · exact ((s.keeps_values (.record r) caches).trans (keeps_setRecordTarget _ r.type)).trans
      (keeps_start _ .insert)
  · have columns : KeepsRestrictions s (s.intoColumnsOf t caches).1 := ⟨rfl, rfl⟩
    exact (columns.trans (keeps_setRecordTarget _ t)).trans (keeps_start _ .insert)
  · exact (s.keeps_values (.map m) caches).trans (keeps_start _ .insert)
  · exact (s.keeps_values (.row row) caches).trans (keeps_start _ .insert)
  · exact (s.keeps_values (.stmt sub) caches).trans (keeps_start _ .insert)

/-- An INSERT of several rows may also take a table from the first. -/
theorem keeps_insertBulk (ds : List Data) (caches : ColumnCaches) :
    KeepsRestrictions s (s.insertBulk ds caches).1 := by
  have rows := (s.keeps_start .insert).trans ((s.start .insert).keeps_valuesBulk ds caches)
  unfold insertBulk
  cases tableOfFirst? ds with
  | none => exact rows
  | some name => exact ⟨rows.condition, rows.having⟩

theorem keeps_addRecordSource (t : RecordType) (alias? : Option String) :
    KeepsRestrictions s (s.addRecordSource t alias?) := by
  unfold addRecordSource
  split
  · exact ⟨rfl, rfl⟩
  · exact s.keeps_refuse _

/-- A source brings its own conditions, if it is a sub-statement, and keeps them to itself. -/
theorem keeps_source (d : Data) (alias? : Option String) :
    KeepsRestrictions s (s.source d alias?) := by
  unfold source
  split
  · exact ⟨rfl, rfl⟩
  · exact ⟨rfl, rfl⟩
  · exact s.keeps_addRecordSource _ alias?
  · exact s.keeps_addRecordSource _ alias?
  · exact s.keeps_refuse _

theorem keeps_delete (d : Data) : KeepsRestrictions s (s.delete d) := by
  unfold delete
  split
  · exact s.keeps_start .delete
  · exact (s.keeps_source _ none).trans (keeps_start _ .delete)

/-- Assignments are no restrictions, even those of a map. -/
theorem keeps_setAll (d : Data) (caches : ColumnCaches) :
    KeepsRestrictions s (s.setAll d caches).1 := by
  unfold setAll
  split
  · exact ⟨rfl, rfl⟩
  · exact ⟨rfl, rfl⟩
  · exact s.keeps_refuse _

/-- An UPDATE by a map sets its columns; it does not compare them. -/
theorem keeps_update (d : Data) (caches : ColumnCaches) :
    KeepsRestrictions s (s.update d caches).1 := by
  rcases d with _ | name | r | t | m | row | sub
  · exact s.keeps_start .update
  · exact (s.keeps_source (.table name) none).trans (keeps_start _ .update)
  · exact ((s.keeps_setAll (.record r) caches).trans (keeps_source _ (.record r) none)).trans
      (keeps_start _ .update)
  · exact (s.keeps_source (.recordType t) none).trans (keeps_start _ .update)
  · exact (s.keeps_setAll (.map m) caches).trans (keeps_start _ .update)
  · exact (s.keeps_source (.row row) none).trans (keeps_start _ .update)
  · exact (s.keeps_source (.stmt sub) none).trans (keeps_start _ .update)

/-- A SELECT starts with columns and a source. -/
theorem keeps_select (d : Data) (caches : ColumnCaches) :
    KeepsRestrictions s (s.select d caches).1 := by
  have columns (t : RecordType) : KeepsRestrictions s (s.selectColumnsOf t caches).1 := ⟨rfl, rfl⟩
  rcases d with _ | name | r | t | m | row | sub
  · exact s.keeps_start .select
  · exact (s.keeps_source (.table name) none).trans (keeps_start _ .select)
  · exact ((columns r.type).trans (keeps_source _ (.recordType r.type) none)).trans
      (keeps_start _ .select)
  · exact ((columns t).trans (keeps_source _ (.recordType t) none)).trans (keeps_start _ .select)
  · exact (s.keeps_source (.map m) none).trans (keeps_start _ .select)
  · exact (s.keeps_source (.row row) none).trans (keeps_start _ .select)
  · exact (s.keeps_source (.stmt sub) none).trans (keeps_start _ .select)

/-- Refused columns of a query leave the conditions as they are. -/
theorem keeps_refuseStatements (q : Query) : KeepsRestrictions s (s.refuseStatements q) :=
  keeps_foldl (fun s column => s.keeps_refuse (.conditionOnStatement column)) s q.statementColumns

end Stmt

namespace Restriction

/-- The condition of a restriction after a call: the conditions of a query are joined to it by a
call of its own, a reset leaves none, and no other call touches it. -/
def after (f : Restriction) (c : Cond) : Call → Cond
  | .condition op q => if f = rows then .combine op (c :: q.conditions) else c
  | .having op q => if f = groups then .combine op (c :: q.conditions) else c
  | .reset => .empty
  | _ => c

/-- What keeps the restrictions keeps each of them. -/
theorem cond_of_keeps {s t : Stmt} (h : s.KeepsRestrictions t) (f : Restriction) :
    f.cond t = f.cond s := by
  cases f with
  | rows => exact h.condition
  | groups => exact h.having

/-- A call does to a restriction what `after` says, and it does nothing else to it. -/
theorem cond_apply (s : Stmt) (call : Call) (caches : ColumnCaches) (f : Restriction) :
    f.cond (s.apply call caches).1 = f.after (f.cond s) call := by
  cases call with
  | condition op q =>
    -- a query may be refused in part, which leaves both restrictions
    cases f with
    | rows => rfl
    | groups => exact (s.keeps_refuseStatements q).having
  | having op q =>
    cases f with
    | rows => exact (s.keeps_refuseStatements q).condition
    | groups => rfl
  | reset => cases f <;> rfl
  | insert d => exact cond_of_keeps (s.keeps_insert d caches) f
  | insertBulk ds => exact cond_of_keeps (s.keeps_insertBulk ds caches) f
  | delete d => exact cond_of_keeps (s.keeps_delete d) f
  | update d => exact cond_of_keeps (s.keeps_update d caches) f
  | select d => exact cond_of_keeps (s.keeps_select d caches) f
  | intoTable d => exact cond_of_keeps (s.keeps_intoTable d) f
  | values d => exact cond_of_keeps (s.keeps_values d caches) f
  | valuesBulk ds => exact cond_of_keeps (s.keeps_valuesBulk ds caches) f
  | source d alias? => exact cond_of_keeps (s.keeps_source d alias?) f
  | setAll d => exact cond_of_keeps (s.keeps_setAll d caches) f
  | _ => exact cond_of_keeps ⟨rfl, rfl⟩ f

/-- The condition of a restriction after a run of calls of any kind. -/
theorem cond_run (s : Stmt) (calls : List Call) (caches : ColumnCaches) (f : Restriction) :
    f.cond (s.run calls caches).1 = calls.foldl f.after (f.cond s) := by
  induction calls generalizing s caches with
  | nil => rfl
  | cons call rest ih =>
    rw [List.foldl_cons, ← cond_apply s call caches f]
    exact ih (s.apply call caches).1 (s.apply call caches).2

end Restriction

/-! ## Composed conditions -/

/-- The conditions that a query is given are composed. -/
def Query.Composed : Query → Prop
  | cond c => Cond.Composed c
  | conds cs => ∀ c ∈ cs, Cond.Composed c
  | map _ => True

/-- The conditions that a call is given are composed. -/
def Call.Composed : Call → Prop
  | condition _ q => q.Composed
  | having _ q => q.Composed
  | _ => True

/-- The condition that a column equals an operand is made by the operations on conditions. -/
theorem Operand.composed_equality? {column : String} {o : Operand} {c : Cond}
    (equality : o.equality? column = some c) : Cond.Composed c := by
  cases o with
  | value v =>
    cases equality
    exact .eq column v
  | expr e =>
    cases equality
    exact .expr _ _
  -- no condition is made of a sub-statement
  | stmt s => cases equality

/-- A query puts forward composed conditions, be they given or made from a map. -/
theorem Query.Composed.conditions {q : Query} (h : q.Composed) :
    ∀ c ∈ q.conditions, Cond.Composed c := by
  intro c hc
  cases q with
  | cond d =>
    rw [List.mem_singleton.1 hc]
    exact h
  | conds cs => exact h c hc
  | map m =>
    rcases List.mem_filterMap.1 hc with ⟨⟨column, operand⟩, -, equality⟩
    exact Operand.composed_equality? equality

/-- A call with composed conditions leaves a composed one, from a composed one. -/
theorem Call.Composed.after {call : Call} (h : call.Composed) (f : Restriction) {c : Cond}
    (composed : Cond.Composed c) : Cond.Composed (f.after c call) := by
  -- joined in front are the old condition and those of the query
  have joined {q : Query} (given : q.Composed) (op : Connective) :
      Cond.Composed (.combine op (c :: q.conditions)) :=
    .combine op _ (List.forall_mem_cons.2 ⟨composed, given.conditions⟩)
  cases call with
  | condition op q =>
    rw [Restriction.after]
    split
    · exact joined h op
    · exact composed
  | having op q =>
    rw [Restriction.after]
    split
    · exact joined h op
    · exact composed
  | reset => exact .empty
  | _ => exact composed

/-- Calls that are given composed conditions leave composed conditions. -/
theorem Restriction.composed_run {s : Stmt} {f : Restriction}
    (composed : Cond.Composed (f.cond s)) {calls : List Call}
    (given : ∀ call ∈ calls, call.Composed) (caches : ColumnCaches) :
    Cond.Composed (f.cond (s.run calls caches).1) := by
  rw [cond_run]
  exact List.foldlRecOn calls f.after composed fun _ before call member =>
    (given call member).after f before

namespace Stmt

/-- Conditions of every composition are well-shaped, and so are those that calls accumulate, of any
kind and number. -/
theorem conditions_wellShaped :
    (∀ c, Cond.Composed c → c.WellShaped) ∧
    ∀ calls : List Call, (∀ call ∈ calls, call.Composed) →
      ∀ (caches : ColumnCaches) (f : Restriction), (f.cond (run {} calls caches).1).WellShaped := by
  constructor
  · intro c composed
    exact composed.proper.wellShaped
  · intro calls given caches f
    -- a new statement has the empty condition in both places
    have start : Cond.Composed (f.cond {}) := by
      cases f with
      | rows => exact .empty
      | groups => exact .empty
    exact (Restriction.composed_run start given caches).proper.wellShaped

/-- A fragment without text, a list with an empty condition, and a map, between other calls. -/
def restricting : List Call :=
  [.select (.table "t"), .condition .and (.cond Cond.blankLeaf),
    .condition .or (.conds [.any [.raw "a", .raw "b"], .empty]), .values .nothing,
    .condition .and (.map (.ofList [("x", .value (.int32 1))])), .having .or (.text "c")]

/-- Nothing is left of the fragment without text, nor of the empty condition in the list. -/
theorem restricting_wellShaped :
    (∀ call ∈ restricting, call.Composed) ∧
    (run {} restricting {}).1.condition = .list .and
      [.list .or [.leaf ⟨"a", []⟩, .leaf ⟨"b", []⟩], .leaf ⟨"x = ??", [.int32 1]⟩] ∧
    (run {} restricting {}).1.condition.WellShaped ∧
    Cond.WellShaped Cond.blankLeaf := by
  have inner : Cond.Composed (.any [.raw "a", .raw "b"]) := by
    refine .combine .or _ (List.forall_mem_cons.2 ⟨.raw _, ?_⟩)
    exact List.forall_mem_singleton.2 (.raw _)
  have given : ∀ call ∈ restricting, call.Composed := by
    simp only [restricting, List.forall_mem_cons]
    -- call by call: only three of them are given conditions
    refine ⟨trivial, Cond.Composed.leaf _, ?_, trivial, trivial, Cond.Composed.raw _,
      List.forall_mem_nil _⟩
    exact List.forall_mem_cons.2 ⟨inner, List.forall_mem_singleton.2 .empty⟩
  refine ⟨given, rfl, ?_, ?_⟩
  · exact conditions_wellShaped.2 restricting given {} .rows
  · exact conditions_wellShaped.1 _ (.leaf _)

end Stmt

/-! ## Grouping does not show -/

/-- Of two conditions put in the same place the second one stays. -/
theorem Restriction.put_put (s : Stmt) (c d : Cond) (f : Restriction) :
    f.put (f.put s c) d = f.put s d := by
  cases f with
  | rows => rfl
  | groups => rfl

namespace Rendering

/-- Conditions that are written alike make the same clause. -/
theorem clause_congr {c d : Cond} (h : Cond.Alike c d) (keyword : String) :
    clause keyword c = clause keyword d := by
  have written : c.write = d.write := funext h.written
  rw [clause, clause, h.valid, written]

/-- A condition makes the clause that it makes when it is joined to nothing. -/
theorem clause_combine_singleton (op : Connective) (c : Cond) (keyword : String) :
    clause keyword (.combine op [c]) = clause keyword c := by
  -- the only condition stays as it is, or is dropped like every invalid one
  by_cases valid : c.isValid = true
  · rw [Cond.combine_singleton op valid]
  · have nothing : Cond.combine op [c] = .empty := Cond.combine_without op valid [] []
    rw [nothing, clause, clause, if_neg valid]
    rfl

end Rendering

namespace Stmt

/-- Of a restriction nothing is written but its clause. -/
theorem write_put_congr {f : Restriction} {c d : Cond}
    (same : Rendering.clause f.keyword c = Rendering.clause f.keyword d) (s : Stmt) :
    (f.put s c).write = (f.put s d).write := by
  rcases s with ⟨clauses, sources, rows, assignments⟩
  -- the kinds that do not write the clause do not look at the condition
  cases f with
  | rows =>
    have clauseRows : Rendering.clause " WHERE " c = Rendering.clause " WHERE " d := same
    simp only [Restriction.put, write, Clauses.write, Clauses.writeInsert,
      Clauses.writeInsertSelect, Clauses.writeDelete, Clauses.writeUpdate, Clauses.writeSelect,
      Clauses.writeColumns, clauseRows]
  | groups =>
    have clauseGroups : Rendering.clause " HAVING " c = Rendering.clause " HAVING " d := same
    simp only [Restriction.put, write, Clauses.write, Clauses.writeInsert,
      Clauses.writeInsertSelect, Clauses.writeDelete, Clauses.writeUpdate, Clauses.writeSelect,
      Clauses.writeColumns, clauseGroups]

/-- One call for each of some conditions joins them one by one. -/
theorem run_each (s : Stmt) (f : Restriction) (op : Connective) (cs : List Cond)
    (caches : ColumnCaches) :
    s.run (cs.map fun c => f.call op (.cond c)) caches =
      (f.put s (Cond.joinEach op (f.cond s) cs), caches) := by
  induction cs generalizing s with
  | nil =>
    rw [Cond.joinEach, List.foldl_nil, Restriction.put_cond]
    rfl
  | cons c rest ih =>
    -- a plain query leaves nothing but the joined condition, from which the others go on
    have plain : (Query.cond c).Plain := trivial
    have first := Restriction.apply_call s plain f op caches
    have others := ih (f.put s (.combine op [f.cond s, c]))
    rw [Restriction.cond_put, Restriction.put_put] at others
    calc s.run ((c :: rest).map fun c => f.call op (.cond c)) caches
        = run (s.apply (f.call op (.cond c)) caches).1 (rest.map fun c => f.call op (.cond c))
            (s.apply (f.call op (.cond c)) caches).2 := rfl
      _ = run (f.put s (.combine op [f.cond s, c])) (rest.map fun c => f.call op (.cond c))
            caches := by rw [first]; rfl
      _ = _ := others

/-- Two statements that come out the same, behind every writer and in every dialect. -/
structure RendersLike (s t : Stmt) : Prop where
  writeTo : ∀ w, s.writeTo w = t.writeTo w
  render : ∀ dialect, s.render dialect = t.render dialect

/-- Rendering sees nothing of a statement but how it is written. -/
theorem RendersLike.of_write {s t : Stmt} (same : s.write = t.write) : RendersLike s t := by
  have written (w : Writer) : s.writeTo w = t.writeTo w := by
    rw [Stmt.writeTo, Stmt.writeTo, same]
  refine ⟨written, ?_⟩
  intro dialect
  rw [Stmt.render, Stmt.render, written]

/-- What is written does not tell whether some conditions were joined by themselves before they were
joined with others, whether invalid ones were among them, whether a single condition was joined to
nothing, and over how many calls conditions were spread. -/
theorem regrouping_renders_alike (op : Connective) :
    (∀ (xs ys zs : List Cond) (k : Cond.Context) (w : Writer),
      (k.fill (.combine op (xs ++ .combine op ys :: zs))).write w =
        (k.fill (.combine op (xs ++ ys ++ zs))).write w) ∧
    (∀ xs ys : List Cond, Cond.Padded xs ys → Cond.combine op ys = Cond.combine op xs) ∧
    (∀ c : Cond, c.isValid = true → Cond.combine op [c] = c) ∧
    ∀ (f : Restriction) (s : Stmt) (cs : List Cond) (caches : ColumnCaches),
      RendersLike (s.run (cs.map fun c => f.call op (.cond c)) caches).1
        (s.run [f.call op (.conds cs)] caches).1 := by
  refine ⟨?_, ?_, ?_, ?_⟩
  · intro xs ys zs k w
    exact ((Cond.combine_regroup op xs ys zs).fill k).written w
  · intro xs ys padded
    exact padded.combine_eq op
  · intro c valid
    exact Cond.combine_singleton op valid
  · intro f s cs caches
    have plain : (Query.conds cs).Plain := trivial
    have atOnce : (s.run [f.call op (.conds cs)] caches).1 =
        f.put s (.combine op (f.cond s :: cs)) :=
      congrArg Prod.fst (Restriction.apply_call s plain f op caches)
    rw [run_each, atOnce]
    apply RendersLike.of_write
    apply write_put_congr
    -- what was joined one by one is only compared as a clause, where nothing tells it from itself
    -- joined to nothing
    rw [← Rendering.clause_combine_singleton op]
    exact Rendering.clause_congr (Cond.alike_joinEach op (f.cond s) cs) f.keyword

/-- A conjunction in a conjunction, inside of a disjunction, with what is not valid around. -/
theorem conjunctions_render_alike :
    Cond.Padded [.raw "a", .expr "b = ??" [.int32 1]]
      [Cond.blankLeaf, .raw "a", .empty, .expr "b = ??" [.int32 1]] ∧
    Cond.all [Cond.blankLeaf, .raw "a", .empty, .expr "b = ??" [.int32 1]] =
      .all [.raw "a", .expr "b = ??" [.int32 1]] ∧
    (Cond.any [.raw "a", .raw "b"]).isValid = true ∧
    Cond.all [.any [.raw "a", .raw "b"]] = .any [.raw "a", .raw "b"] ∧
    (Cond.any [.all [.all [.raw "a", .raw "b"], .any [.raw "c", .raw "d"]], .raw "e"]).write {} =
      (Cond.any [.all [.raw "a", .raw "b", .any [.raw "c", .raw "d"]], .raw "e"]).write {} ∧
    (Cond.any [.all [.raw "a", .raw "b", .any [.raw "c", .raw "d"]], .raw "e"]).write {} =
      ⟨"((a) AND (b) AND ((c) OR (d))) OR (e)", [], []⟩ := by
  have padded : Cond.Padded [.raw "a", .expr "b = ??" [.int32 1]]
      [Cond.blankLeaf, .raw "a", .empty, .expr "b = ??" [.int32 1]] :=
    .insert _ rfl (.keep _ (.insert _ rfl (.keep _ .nil)))
  have valid : (Cond.any [.raw "a", .raw "b"]).isValid = true := rfl
  refine ⟨padded, ?_, valid, ?_, ?_, rfl⟩
  · exact (regrouping_renders_alike .and).2.1 _ _ padded
  · exact (regrouping_renders_alike .and).2.2.1 _ valid
  · exact (regrouping_renders_alike .and).1 [] [.raw "a", .raw "b"] [.any [.raw "c", .raw "d"]]
      (.operand .or [] .place [.raw "e"]) {}

end Stmt

end SqlCompose
