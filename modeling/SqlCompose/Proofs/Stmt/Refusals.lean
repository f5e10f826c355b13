import SqlCompose.Stmt.Builder
import SqlCompose.Stmt.Render

/-! # What the first calls decide

A call puts its inputs into places of the statement, and a place takes some shapes of input and
rejects others (`InputPlace.accepts`).  Whether a call rejects something is seen from its inputs
alone, so the refusals of a run can be listed without making its calls (`Call.refusals`).  A
statement remembers the first of them and, in the same way, the first kind that a call gives it.

`Takes` says what a piece of a call adds to both, and pieces add up.  By cases over the calls
(`takes_apply`) and by induction over runs (`takes_run`), a statement knows the first refusal and
the first kind of all its calls since it was empty.

Main statement: `first_kind_and_refusal_stay`.
-/

namespace SqlCompose

/-! ## What calls reject -/

/-- Whether a place takes inputs of a shape. -/
def InputPlace.accepts : InputPlace → InputShape → Bool
  | target, .table | target, .record | target, .recordType => true
  | values, .nothing | values, .row | values, .map | values, .record | values, .statement => true
  | valuesBulk, .row | valuesBulk, .map | valuesBulk, .record | valuesBulk, .statement => true
  | source, .table | source, .record | source, .recordType | source, .statement => true
  | assignments, .map | assignments, .record => true
  | _, _ => false

/-- Whether a place takes a record, or a record type, for its table. -/
def InputPlace.needsTable : InputPlace → Bool
  | target | source => true
  | _ => false

/-- The record type of an input. -/
def Data.recordType? : Data → Option RecordType
  | record r => some r.type
  | recordType t => some t
  | _ => none

/-- Why a record type cannot stand for its table, if it has none. -/
def RecordType.refusal? (t : RecordType) : Option Unsupported :=
  if t.table.isSome then none else some (.recordWithoutTable t.key)

/-- Why a place rejects an input, if it does. -/
def Data.refusal? (place : InputPlace) (d : Data) : Option Unsupported :=
  if place.accepts d.shape then
    if place.needsTable then d.recordType?.bind RecordType.refusal? else none
  else some (.input place d.shape)

namespace Call

/-- The places into which a call puts its inputs, in order.  A call that starts a statement leaves
its input to the others. -/
def inputs : Call → List (InputPlace × Data)
  | insert .nothing | delete .nothing | update .nothing | select .nothing => []
  | insert (.table name) => [(.target, .table name)]
  | insert (.record r) => [(.values, .record r), (.target, .record r)]
  | insert (.recordType t) => [(.target, .recordType t)]
  | insert d => [(.values, d)]
  | update (.record r) => [(.assignments, .record r), (.source, .record r)]
  | update (.map m) => [(.assignments, .map m)]
  | delete d | update d | select d | source d _ => [(.source, d)]
  | insertBulk ds | valuesBulk ds => ds.map ((.valuesBulk, ·))
  | intoTable d => [(.target, d)]
  | values d => [(.values, d)]
  | setAll d => [(.assignments, d)]
  | _ => []

def query? : Call → Option Query
  | condition _ q | having _ q => some q
  | _ => none

/-- What a call rejects, in order: inputs that their place does not take, and columns that are to be
compared with sub-statements. -/
def refusals (call : Call) : List Unsupported :=
  (call.inputs.flatMap fun input => (input.2.refusal? input.1).toList) ++
    call.query?.toList.flatMap fun q => q.statementColumns.map .conditionOnStatement

/-- A call that puts its input into one place rejects what that place rejects. -/
theorem refusals_of_one {call : Call} {place : InputPlace} {d : Data}
    (inputs : call.inputs = [(place, d)]) (plain : call.query? = none) :
    call.refusals = (d.refusal? place).toList := by
  rw [refusals, inputs, plain, List.flatMap_singleton]
  exact List.append_nil _

/-- A call with two places rejects what either of them does, in their order. -/
theorem refusals_of_two {call : Call} {place place' : InputPlace} {d d' : Data}
    (inputs : call.inputs = [(place, d), (place', d')]) (plain : call.query? = none) :
    call.refusals = (d.refusal? place).toList ++ (d'.refusal? place').toList := by
  rw [refusals, inputs, plain, List.flatMap_cons, List.flatMap_singleton]
  exact List.append_nil _

/-- A call with several rows rejects each of them by itself. -/
theorem refusals_of_rows {call : Call} {ds : List Data}
    (inputs : call.inputs = ds.map ((.valuesBulk, ·))) (plain : call.query? = none) :
    call.refusals = ds.flatMap fun d => (d.refusal? .valuesBulk).toList := by
  rw [refusals, inputs, plain, List.flatMap_map]
  exact List.append_nil _

/-- A call with a query rejects the sub-statements that columns are to be compared with. -/
theorem refusals_of_query {call : Call} {q : Query} (inputs : call.inputs = [])
    (query : call.query? = some q) :
    call.refusals = q.statementColumns.map .conditionOnStatement := by
  rw [refusals, inputs, query]
  exact List.append_nil _

/-- The kind of the statements that a call starts, if it starts one. -/
def starts? : Call → Option StmtKind
  | insert _ | insertBulk _ => some .insert
  | delete _ => some .delete
  | update _ => some .update
  | select _ => some .select
  | _ => none

end Call

/-- A kind, if it has been decided. -/
def StmtKind.decided? : StmtKind → Option StmtKind
  | raw => none
  | kind => some kind

theorem StmtKind.eq_getD_decided? (kind : StmtKind) : kind = kind.decided?.getD .raw := by
  cases kind with
  | _ => rfl

namespace Stmt

/-! ## What pieces of a call add -/

/-- A kind and refusals are added to a statement: what it knows already stays, and else the first of
them is remembered. -/
structure Takes (s : Stmt) (kind? : Option StmtKind) (refusals : List Unsupported) (t : Stmt) :
    Prop where
  kind : t.kind.decided? = s.kind.decided?.or kind?
  refusal : t.refusal = s.refusal.or refusals.head?

section

variable {s t u : Stmt}

/-- A piece that touches neither the kind nor the refusal adds nothing. -/
theorem Takes.of_eq (kind : t.kind = s.kind) (refusal : t.refusal = s.refusal) :
    Takes s none [] t := by
  constructor
  · rw [kind, Option.or_none]
  · rw [refusal, List.head?_nil, Option.or_none]

/-- What two pieces add, the first of them first. -/
theorem Takes.trans {kind? kind?' : Option StmtKind} {refusals refusals' : List Unsupported}
    (first : Takes s kind? refusals t) (then_ : Takes t kind?' refusals' u) :
    Takes s (kind?.or kind?') (refusals ++ refusals') u := by
  constructor
  · rw [then_.kind, first.kind, Option.or_assoc]
  · rw [then_.refusal, first.refusal, List.head?_append, Option.or_assoc]

/-- A piece that adds no kind goes before one that rejects nothing. -/
theorem Takes.thenStart {refusals : List Unsupported} {kind? : Option StmtKind}
    (first : Takes s none refusals t) (then_ : Takes t kind? [] u) :
    Takes s kind? refusals u := by
  have both := first.trans then_
  rwa [Option.none_or, List.append_nil] at both

end

variable (s : Stmt)

/-- A cause is remembered unless there is an earlier one. -/
theorem takes_refuse (cause : Unsupported) : Takes s none [cause] (s.refuse cause) := by
  cases known : s.refusal with
  | none =>
    rw [refuse, known]
    exact ⟨(Option.or_none).symm, by rw [known]; rfl⟩
  -- the cause is lost behind an earlier one
  | some earlier =>
    rw [refuse, known]
    exact ⟨(Option.or_none).symm, by rw [known]; rfl⟩

/-- A kind is taken unless there is one already, and nothing is rejected. -/
theorem takes_start (kind : StmtKind) : Takes s kind.decided? [] (s.start kind) := by
  cases known : s.kind with
  | raw =>
    rw [start, known]
    exact ⟨by rw [known]; rfl, (Option.or_none).symm⟩
  -- any other kind has been decided before and stays
  | _ =>
    rw [start, known]
    exact ⟨by rw [known]; rfl, (Option.or_none).symm⟩

/-- A record type is rejected as a table just if it has none. -/
theorem takes_setRecordTarget (t : RecordType) :
    Takes s none t.refusal?.toList (s.setRecordTarget t) := by
  unfold setRecordTarget RecordType.refusal?
  cases t.table with
  | some name => exact .of_eq rfl rfl
  | none => exact s.takes_refuse _

/-- A record type is rejected as a source just if it has no table. -/
theorem takes_addRecordSource (t : RecordType) (alias? : Option String) :
    Takes s none t.refusal?.toList (s.addRecordSource t alias?) := by
  unfold addRecordSource RecordType.refusal?
  cases t.table with
  | some name => exact .of_eq rfl rfl
  | none => exact s.takes_refuse _

theorem takes_defaultColumns (t : RecordType) (caches : ColumnCaches) :
    Takes s none [] (s.defaultColumns t caches).1 := by
  unfold defaultColumns
  -- the columns may be replaced, but they are no part of what is compared
  split
  · exact .of_eq rfl rfl
  · exact .of_eq rfl rfl

/-! ## Places -/

/-- The place of the table rejects what it does not accept, and nothing else. -/
theorem takes_target (d : Data) :
    Takes s none (d.refusal? .target).toList (s.intoTable d) := by
  cases d with
  | table name => exact .of_eq rfl rfl
  | record r => exact s.takes_setRecordTarget r.type
  | recordType t => exact s.takes_setRecordTarget t
  | nothing | map _ | row _ | stmt _ => exact s.takes_refuse _

/-- The place of a row rejects what it does not accept, whatever the caches hold. -/
theorem takes_values (d : Data) (caches : ColumnCaches) :
    Takes s none (d.refusal? .values).toList (s.values d caches).1 := by
  cases d with
  | nothing | row _ | map _ | stmt _ => exact .of_eq rfl rfl
  -- the columns of the record come first, then its row
  | record r => exact (s.takes_defaultColumns r.type caches).trans (.of_eq rfl rfl)
  | table _ | recordType _ => exact s.takes_refuse _

/-- The first row may bring columns, but rejects nothing. -/
theorem takes_columnsFromFirst (d : Data) (caches : ColumnCaches) :
    Takes s none [] (s.columnsFromFirst d caches).1 := by
  cases d with
  | map m =>
    show Takes s none [] (if s.insertColumns.isEmpty then s.intoColumns m.keys else s)
    split
    · exact .of_eq rfl rfl
    · exact .of_eq rfl rfl
  | record r => exact s.takes_defaultColumns r.type caches
  | _ => exact .of_eq rfl rfl

/-- The place of several rows is stricter than that of one: an empty input is rejected. -/
theorem takes_addOneOf (d : Data) :
    Takes s none (d.refusal? .valuesBulk).toList (s.addOneOf d) := by
  cases d with
  | row _ | map _ | record _ | stmt _ => exact .of_eq rfl rfl
  | nothing | table _ | recordType _ => exact s.takes_refuse _

/-- One piece after another, each of which adds refusals only. -/
theorem takes_foldl {α : Type} {step : Stmt → α → Stmt} {refusals : α → List Unsupported}
    (takes : ∀ s a, Takes s none (refusals a) (step s a)) (as : List α) :
    Takes s none (as.flatMap refusals) (as.foldl step s) := by
  induction as generalizing s with
  | nil => exact .of_eq rfl rfl
  -- the rest goes on from what the first piece made
  | cons a rest ih => exact (takes s a).trans (ih (step s a))

/-- Each of several rows is rejected for itself, and those after a rejected one are looked at
too. -/
theorem takes_valuesBulk (ds : List Data) (caches : ColumnCaches) :
    Takes s none (ds.flatMap fun d => (d.refusal? .valuesBulk).toList)
      (s.valuesBulk ds caches).1 := by
  cases ds with
  | nil => exact .of_eq rfl rfl
  | cons first rest =>
    have rows := takes_foldl (s.columnsFromFirst first caches).1 takes_addOneOf (first :: rest)
    exact (s.takes_columnsFromFirst first caches).trans rows

/-- The place of a source rejects what it does not accept. -/
theorem takes_source (d : Data) (alias? : Option String) :
    Takes s none (d.refusal? .source).toList (s.source d alias?) := by
  cases d with
  | table _ | stmt _ => exact .of_eq rfl rfl
  | record r => exact s.takes_addRecordSource r.type alias?
  | recordType t => exact s.takes_addRecordSource t alias?
  | nothing | map _ | row _ => exact s.takes_refuse _

/-- The place of assignments takes maps and records only. -/
theorem takes_setAll (d : Data) (caches : ColumnCaches) :
    Takes s none (d.refusal? .assignments).toList (s.setAll d caches).1 := by
  cases d with
  | map _ | record _ => exact .of_eq rfl rfl
  | nothing | table _ | recordType _ | row _ | stmt _ => exact s.takes_refuse _

/-- Each column that is to be compared with a sub-statement is rejected, in key order. -/
theorem takes_refuseStatements (q : Query) :
    Takes s none (q.statementColumns.map .conditionOnStatement) (s.refuseStatements q) := by
  have one : ∀ (s : Stmt) (column : String), Takes s none [.conditionOnStatement column]
      (s.refuse (.conditionOnStatement column)) := fun s column => s.takes_refuse _
  rw [List.map_eq_flatMap]
  exact takes_foldl s one q.statementColumns

/-! ## Calls -/

/-- An INSERT is started, and its input rejected by the places it goes to. -/
theorem takes_insert (d : Data) (caches : ColumnCaches) :
    Takes s (some .insert) (Call.insert d).refusals (s.insert d caches).1 := by
  have values := s.takes_values d caches
  cases d with
  | nothing => exact s.takes_start .insert
  | table name =>
    have target : Takes s none [] { s with target := name } := .of_eq rfl rfl
    exact target.thenStart (takes_start _ .insert)
  | record r =>
    -- a record is a row first and a table second
    rw [Call.refusals_of_two rfl rfl]
    exact (values.trans (takes_target _ (.record r))).thenStart (takes_start _ .insert)
  | recordType t =>
    rw [Call.refusals_of_one rfl rfl]
    have columns : Takes s none [] (s.intoColumnsOf t caches).1 := .of_eq rfl rfl
    exact (columns.trans (takes_target _ (.recordType t))).thenStart (takes_start _ .insert)
  -- all others are rows only, and are rejected as such
  | map _ | row _ | stmt _ => exact values.thenStart (takes_start _ .insert)

theorem takes_insertBulk (ds : List Data) (caches : ColumnCaches) :
    Takes s (some .insert) (Call.insertBulk ds).refusals (s.insertBulk ds caches).1 := by
  rw [Call.refusals_of_rows rfl rfl]
  -- here the kind is set first, but it rejects nothing, so the order does not show
  have rows := (s.takes_start .insert).trans ((s.start .insert).takes_valuesBulk ds caches)
  unfold insertBulk
  cases tableOfFirst? ds with
  | none => exact rows
  | some name => exact ⟨rows.kind, rows.refusal⟩

/-- The input of a DELETE is its source. -/
theorem takes_delete (d : Data) : Takes s (some .delete) (Call.delete d).refusals (s.delete d) := by
  -- the kind is set behind the source
  have source := (s.takes_source d none).thenStart (takes_start _ .delete)
  cases d with
  | nothing => exact s.takes_start .delete
  | _ =>
    rw [Call.refusals_of_one rfl rfl]
    exact source

/-- The input of an UPDATE is its source; a map or a record is assigned first. -/
theorem takes_update (d : Data) (caches : ColumnCaches) :
    Takes s (some .update) (Call.update d).refusals (s.update d caches).1 := by
  have assigned := s.takes_setAll d caches
  have source := (s.takes_source d none).thenStart (takes_start _ .update)
  cases d with
  | nothing => exact s.takes_start .update
  | record r =>
    -- assigned first, which rejects no record, and then a source
    rw [Call.refusals_of_two rfl rfl]
    exact (assigned.trans (takes_source _ (.record r) none)).thenStart (takes_start _ .update)
  | map m => exact assigned.thenStart (takes_start _ .update)
  | table _ | recordType _ | row _ | stmt _ =>
    rw [Call.refusals_of_one rfl rfl]
    exact source

/-- The input of a SELECT is its source, and the columns of a record type are no reason to reject
it. -/
theorem takes_select (d : Data) (caches : ColumnCaches) :
    Takes s (some .select) (Call.select d).refusals (s.select d caches).1 := by
  have columns (t : RecordType) : Takes s none [] (s.selectColumnsOf t caches).1 := .of_eq rfl rfl
  have source := (s.takes_source d none).thenStart (takes_start _ .select)
  cases d with
  | nothing => exact s.takes_start .select
  | record r =>
    rw [Call.refusals_of_one rfl rfl]
    exact ((columns r.type).trans (takes_source _ (.record r) none)).thenStart
      (takes_start _ .select)
  | recordType t =>
    rw [Call.refusals_of_one rfl rfl]
    exact ((columns t).trans (takes_source _ (.recordType t) none)).thenStart
      (takes_start _ .select)
  | table _ | map _ | row _ | stmt _ =>
    rw [Call.refusals_of_one rfl rfl]
    exact source

theorem takes_condition (op : Connective) (q : Query) :
    Takes s none (Call.condition op q).refusals (s.addCondition op q) := by
  rw [Call.refusals_of_query rfl rfl]
  have refused := s.takes_refuseStatements q
  exact ⟨refused.kind, refused.refusal⟩

theorem takes_having (op : Connective) (q : Query) :
    Takes s none (Call.having op q).refusals (s.addHaving op q) := by
  rw [Call.refusals_of_query rfl rfl]
  have refused := s.takes_refuseStatements q
  exact ⟨refused.kind, refused.refusal⟩

/-- A call other than a reset adds its kind and what it rejects. -/
theorem takes_apply {call : Call} (lasting : call ≠ .reset) (caches : ColumnCaches) :
    Takes s call.starts? call.refusals (s.apply call caches).1 := by
  cases call with
  | insert d => exact s.takes_insert d caches
  | insertBulk ds => exact s.takes_insertBulk ds caches
  | delete d => exact s.takes_delete d
  | update d => exact s.takes_update d caches
  | select d => exact s.takes_select d caches
  | intoTable d =>
    rw [Call.refusals_of_one rfl rfl]
    exact s.takes_target d
  | values d =>
    rw [Call.refusals_of_one rfl rfl]
    exact s.takes_values d caches
  | valuesBulk ds =>
    rw [Call.refusals_of_rows rfl rfl]
    exact s.takes_valuesBulk ds caches
  | source d alias? =>
    rw [Call.refusals_of_one rfl rfl]
    exact s.takes_source d alias?
  | setAll d =>
    rw [Call.refusals_of_one rfl rfl]
    exact s.takes_setAll d caches
  | condition op q => exact s.takes_condition op q
  | having op q => exact s.takes_having op q
  | reset => exact absurd rfl lasting
  | _ => exact .of_eq rfl rfl

/-- A run of calls adds the first kind and the first refusal of them all. -/
theorem takes_run {calls : List Call} (lasting : .reset ∉ calls) (caches : ColumnCaches) :
    Takes s (calls.findSome? Call.starts?) (calls.flatMap Call.refusals)
      (s.run calls caches).1 := by
  induction calls generalizing s caches with
  | nil => exact .of_eq rfl rfl
  | cons call rest ih =>
    have now : call ≠ .reset := by
      rintro rfl
      exact lasting List.mem_cons_self
    have later : .reset ∉ rest := fun mem => lasting (List.mem_cons_of_mem _ mem)
    have first := s.takes_apply now caches
    have added := first.trans (ih _ later (s.apply call caches).2)
    -- the first kind is that of this call, if it starts a statement, and else comes later
    rw [List.findSome?_cons, List.flatMap_cons]
    cases starts : call.starts? with
    | none => rwa [starts, Option.none_or] at added
    | some kind => rwa [starts, Option.some_or] at added

/-! ## What stays -/

/-- A statement with a refusal is not written. -/
theorem write_of_refusal {s : Stmt} {cause : Unsupported} (refused : s.refusal = some cause) :
    s.write = Rendering.refuse cause := by
  rcases s with ⟨clauses, sources, rows, assignments⟩
  have refused' : clauses.refusal = some cause := refused
  rw [write, Clauses.write, refused']

/-- The kind of a statement is that of the first call that started it.  Once a call has rejected
something, the first refusal is all that comes of writing the statement, in every dialect, whatever
calls follow, and nothing is written; without a rejection there is no refusal.  A reset statement is
like an empty one. -/
theorem first_kind_and_refusal_stay {first later : List Call} (lasting : .reset ∉ first ++ later)
    (caches : ColumnCaches) :
    let s := (run {} (first ++ later) caches).1
    s.kind = ((first ++ later).findSome? Call.starts?).getD .raw ∧
    (∀ cause, (first.flatMap Call.refusals).head? = some cause →
      (∀ w, s.writeTo w = (.error (.unsupported cause), w)) ∧
      ∀ dialect, s.render dialect = (.error (.unsupported cause), {})) ∧
    ((∀ call ∈ first ++ later, call.refusals = []) → s.refusal = none) ∧
    ∀ (t : Stmt) (calls : List Call) (caches' : ColumnCaches),
      t.run (.reset :: calls) caches' = run {} calls caches' := by
  intro s
  have taken : Takes {} _ _ s := takes_run {} lasting caches
  refine ⟨?_, ?_, ?_, ?_⟩
  · rw [s.kind.eq_getD_decided?, taken.kind]
    rfl
  · intro cause rejected
    -- the refusals of the later calls stand behind those of the first ones
    have refused : s.refusal = some cause := by
      rw [taken.refusal, List.flatMap_append, List.head?_append, rejected]
      rfl
    have alone (w : Writer) : s.writeTo w = (.error (.unsupported cause), w) := by
      rw [writeTo, write_of_refusal refused]
      rfl
    refine ⟨alone, ?_⟩
    intro dialect
    rw [render, alone]
  · intro accepted
    rw [taken.refusal, List.flatMap_eq_nil_iff.2 accepted]
    rfl
  · intro t calls caches'
    rfl

/-- A type without a table. -/
def badge : RecordType :=
  ⟨"Badge", none, [⟨"name", none⟩]⟩

/-- A column is compared with a sub-statement, and an UPDATE is to find its table. -/
def misused : List Call :=
  [.condition .and (.map (.ofList [("b", .value (.int32 1)), ("a", .stmt {})])),
    .update (.recordType badge)]

/-- Calls that would do for an INSERT, and one more rejection. -/
def continued : List Call :=
  [.insert (.table "t"), .values (.map (.ofList [("a", .value .null)])), .setAll .nothing]

/-- The column is rejected first, so that the missing table is not told; and an UPDATE it stays,
though an INSERT follows. -/
theorem misused_stays :
    .reset ∉ misused ++ continued ∧
    misused.flatMap Call.refusals = [.conditionOnStatement "a", .recordWithoutTable "Badge"] ∧
    let s := (run {} (misused ++ continued) {}).1
    s.kind = .update ∧
    s.writeTo ⟨"x", [], []⟩ = (.error (.unsupported (.conditionOnStatement "a")), ⟨"x", [], []⟩) ∧
    s.render .postgres = (.error (.unsupported (.conditionOnStatement "a")), {}) ∧
    s.run [.reset, .delete (.table "t")] {} = run {} [.delete (.table "t")] {} := by
  -- there is no reset among the calls
  have lasting : .reset ∉ misused ++ continued := by
    simp [misused, continued]
  have rejected : misused.flatMap Call.refusals
      = [.conditionOnStatement "a", .recordWithoutTable "Badge"] := rfl
  rcases first_kind_and_refusal_stay lasting {} with ⟨kind, refused, _, emptied⟩
  have written := refused (.conditionOnStatement "a") (by rw [rejected]; rfl)
  exact ⟨lasting, rejected, kind, written.1 _, written.2 _, emptied _ _ _⟩

end Stmt

end SqlCompose
