import SqlCompose.Proofs.Cond.Joining
import SqlCompose.Proofs.Stmt.Framing
import SqlCompose.Proofs.Stmt.WellFormed
import SqlCompose.Stmt.Builder

/-! # Conditions of a statement

A statement restricts rows by WHERE and groups by HAVING.  Each restriction has calls that join
further conditions to it by AND or by OR.  Every valid condition that a call supplies is joined in
turn, and so is every equality that a map stands for, with the connective of the call.  So a map is
a conjunction if the call joins by AND, and a disjunction if it joins by OR.

Main statements:

* `run_joins`: what a run of calls makes of a restriction;
* `conditions_fold_left`: what it is then, as a function of its leaves, and where it is written;
* `orMap_conjoins_iff`: a map joined by OR is the conjunction of its equalities exactly if it has no
  two of them.
-/

namespace SqlCompose

/-! ## What queries supply -/

/-- The fragment that a column equals an operand; none if the operand is a sub-statement. -/
def Operand.comparison? (column : String) : Operand → Option Expr
  | .value v => some ⟨column ++ " = " ++ marker, [v]⟩
  | .expr e => some ⟨column ++ " = " ++ e.sql, e.args⟩
  | .stmt _ => none

/-- A column with a name is compared as its fragment says. -/
theorem Operand.equality?_eq {column : String} (name : column ≠ "") (o : Operand) :
    o.equality? column = (o.comparison? column).map .leaf := by
  cases o with
  | value v => simp [equality?, comparison?, Cond.eq, Cond.expr, name]
  | expr e => simp [equality?, comparison?, Cond.expr]
  | stmt s => rfl

/-- A column can be compared with anything but a sub-statement. -/
theorem Operand.comparison?_isSome {column : String} {o : Operand} (plain : o.stmt? = none) :
    (o.comparison? column).isSome = true := by
  cases o with
  | value v => rfl
  | expr e => rfl
  | stmt s => cases plain

/-- A comparison has a text. -/
theorem Operand.comparison?_text {column : String} {o : Operand} {e : Expr}
    (fragment : o.comparison? column = some e) : e.sql.isEmpty = false := by
  cases o with
  | value v =>
    cases fragment
    simp
  | expr e =>
    cases fragment
    simp
  | stmt s => cases fragment

namespace ColumnMap

/-- The fragments that the columns equal their operands, in key order. -/
def comparisons (m : ColumnMap) : List Expr :=
  m.entries.filterMap fun (column, operand) => operand.comparison? column

/-- A condition for every column, in key order. -/
def equalities (m : ColumnMap) : List Cond :=
  m.comparisons.map .leaf

/-- Every column has a name, and is set to a value or a fragment. -/
def Plain (m : ColumnMap) : Prop :=
  ∀ entry ∈ m.entries, entry.1 ≠ "" ∧ entry.2.stmt? = none

/-- Every equality is valid. -/
theorem equalities_valid (m : ColumnMap) : ∀ c ∈ m.equalities, c.isValid = true := by
  intro c hc
  rcases List.mem_map.1 hc with ⟨e, he, rfl⟩
  rcases List.mem_filterMap.1 he with ⟨⟨column, operand⟩, -, fragment⟩
  have text : e.sql.isEmpty = false := Operand.comparison?_text fragment
  simp [Cond.isValid, text]

/-- A plain map stands for as many equalities as it has columns. -/
theorem Plain.length_comparisons {m : ColumnMap} (plain : m.Plain) :
    m.comparisons.length = m.size := by
  have each : ∀ entry ∈ m.entries, (entry.2.comparison? entry.1).isSome = true :=
    fun entry member => Operand.comparison?_isSome (plain entry member).2
  rw [comparisons, List.length_filterMap_eq_countP, List.countP_eq_length.2 each, KeyMap.size]

/-- A plain map stands for its equalities, and for nothing else. -/
theorem Plain.conditions_map {m : ColumnMap} (plain : m.Plain) :
    (Query.map m).conditions = m.equalities := by
  rw [Query.conditions, equalities, comparisons, List.map_filterMap]
  apply List.filterMap_congr
  intro entry member
  exact Operand.equality?_eq (plain entry member).1 entry.2

end ColumnMap

namespace Query

/-- The conditions that a query supplies: the valid ones, or an equality for every column. -/
def supplied : Query → List Cond
  | cond c => [c].filter Cond.isValid
  | conds cs => cs.filter Cond.isValid
  | map m => m.equalities

/-- A query without columns that have no name, and without sub-statements. -/
def Plain : Query → Prop
  | map m => m.Plain
  | _ => True

/-- What a plain query supplies are its valid conditions. -/
theorem Plain.filter_conditions {q : Query} (plain : q.Plain) :
    q.conditions.filter Cond.isValid = q.supplied := by
  cases q with
  | cond c => rfl
  | conds cs => rfl
  | map m =>
    have equalities : m.Plain := plain
    rw [equalities.conditions_map, supplied]
    exact List.filter_eq_self.2 m.equalities_valid

/-- A plain query has nothing to refuse. -/
theorem Plain.statementColumns {q : Query} (plain : q.Plain) : q.statementColumns = [] := by
  cases q with
  | cond c => rfl
  | conds cs => rfl
  | map m =>
    rw [Query.statementColumns, List.map_eq_nil_iff, List.filter_eq_nil_iff]
    rintro ⟨column, operand⟩ member
    have name : column ≠ "" := (plain _ member).1
    have fragment : (operand.comparison? column).isSome = true :=
      Operand.comparison?_isSome (plain _ member).2
    show ¬(operand.equality? column).isNone = true
    rw [Operand.equality?_eq name, Option.isNone_map, ← Option.not_isSome, fragment]
    exact Bool.false_ne_true

end Query

/-! ## Runs of calls -/

namespace Restriction

def call (op : Connective) (q : Query) : Restriction → Call
  | rows => .condition op q
  | groups => .having op q

/-- A call with a plain query joins its conditions to its restriction, and does nothing else. -/
theorem apply_call (s : Stmt) {q : Query} (plain : q.Plain) (f : Restriction)
    (op : Connective) (caches : ColumnCaches) :
    s.apply (f.call op q) caches = (f.put s (.combine op (f.cond s :: q.conditions)), caches) := by
  have kept : s.refuseStatements q = s := by
    rw [Stmt.refuseStatements, plain.statementColumns, List.foldl_nil]
  cases f with
  | rows =>
    show (s.addCondition op q, caches) = _
    rw [Stmt.addCondition, kept]
    rfl
  | groups =>
    show (s.addHaving op q, caches) = _
    rw [Stmt.addHaving, kept]
    rfl

end Restriction

/-- A call that joins a query to a restriction. -/
structure JoinCall where
  on : Restriction
  op : Connective
  query : Query

namespace JoinCall

def toCall (call : JoinCall) : Call :=
  call.on.call call.op call.query

/-- What calls supply to a restriction, in their order. -/
def supplies (f : Restriction) (calls : List JoinCall) : List Supply :=
  (calls.filter fun call => call.on = f).flatMap fun call =>
    call.query.supplied.map (Supply.mk call.op)

end JoinCall

namespace Stmt

/-- One call supplies the conditions of its query to its own restriction. -/
theorem apply_joins (s : Stmt) {call : JoinCall} (plain : call.query.Plain)
    (caches : ColumnCaches) (f : Restriction) :
    Cond.Joins (f.cond s) (f.cond (s.apply call.toCall caches).1)
      (JoinCall.supplies f [call]) := by
  rw [JoinCall.toCall, Restriction.apply_call s plain]
  -- a call joins to its own restriction, and leaves the other
  by_cases own : call.on = f
  · have supplied : JoinCall.supplies f [call] = call.query.supplied.map (Supply.mk call.op) := by
      simp [JoinCall.supplies, own]
    rw [supplied, ← plain.filter_conditions, ← own, Restriction.cond_put]
    exact .combine call.op (call.on.cond s) call.query.conditions
  · -- the call is one of the other restriction
    have supplied : JoinCall.supplies f [call] = [] := by
      simp [JoinCall.supplies, own]
    rw [supplied, Restriction.cond_put_other _ _ (Ne.symm own)]
    exact .refl (f.cond s)

/-- Calls supply the conditions of their queries to their own restrictions, one after another. -/
theorem run_joins (s : Stmt) {calls : List JoinCall} (plain : ∀ call ∈ calls, call.query.Plain)
    (caches : ColumnCaches) (f : Restriction) :
    Cond.Joins (f.cond s) (f.cond (s.run (calls.map JoinCall.toCall) caches).1)
      (JoinCall.supplies f calls) := by
  induction calls generalizing s caches with
  | nil => exact .refl (f.cond s)
  | cons call rest ih =>
    have first := apply_joins s (plain call List.mem_cons_self) caches f
    have others := ih (s.apply call.toCall caches).1
      (fun call' member => plain call' (List.mem_cons_of_mem _ member))
      (s.apply call.toCall caches).2
    -- what calls supply is what the first supplies, and then what the others do
    have together : JoinCall.supplies f (call :: rest) =
        JoinCall.supplies f [call] ++ JoinCall.supplies f rest := by
      rw [JoinCall.supplies, JoinCall.supplies, JoinCall.supplies, ← List.flatMap_append,
        ← List.filter_append, List.singleton_append]
    rw [together]
    exact first.trans others

/-! ## Main statements -/

/-- After calls that join plain queries to restrictions, the condition of a restriction is, as a
function of its leaves, what its own calls supply, joined in turn to what there was; its leaves are
theirs, in their order; there is something to write exactly if there was or if anything was
supplied; and a statement that can be written writes it, keyword and all, between things that do not
depend on it. -/
theorem conditions_fold_left {s t : Stmt} {calls : List JoinCall}
    (plain : ∀ call ∈ calls, call.query.Plain) {caches : ColumnCaches}
    (ran : (s.run (calls.map JoinCall.toCall) caches).1 = t) (f : Restriction) :
    (∀ ν, (f.cond t).truth? ν = joinInTurn ν (f.cond s).kept.length ((f.cond s).truth? ν)
      (JoinCall.supplies f calls)) ∧
    (f.cond t).kept = (f.cond s).kept ++
      (JoinCall.supplies f calls).flatMap (fun supply => supply.cond.leaves) ∧
    ((f.cond t).isValid = true ↔ (f.cond s).isValid = true ∨ JoinCall.supplies f calls ≠ []) ∧
    (f.WrittenBy t → t.WellFormed → ∃ before after : Writer, ∀ c w,
      (f.put t c).writeTo w = (.ok (), w ++ (before ++ f.clause c ++ after))) := by
  have joins := run_joins s plain caches f
  rw [ran] at joins
  refine ⟨joins.truth, joins.leaves, joins.isValid_iff, ?_⟩
  intro writes formed
  rcases Restriction.framed_write writes with ⟨before, after, framed⟩ | failed
  · refine ⟨before, after, ?_⟩
    intro c w
    exact writeTo_eq_ok.2 (framed c w)
  · -- it can be written with the condition that it has
    rcases t.decided_write.succeeds formed {} with ⟨v, succeeded⟩
    rw [← f.put_cond t] at succeeded
    exact absurd succeeded (failed _ _ _)

/-- A DELETE from a table, without conditions. -/
def deleteFromT : Stmt := { kind := .delete, sources := [.table "t" none] }

/-- Calls of both restrictions, with a fragment, a list that is partly valid, and a map. -/
def narrowing : List JoinCall :=
  [⟨.rows, .and, .text "x = 1"⟩, ⟨.rows, .or, .conds [.empty, .raw "y = 2"]⟩,
    ⟨.groups, .and, .text "z = 3"⟩, ⟨.rows, .and, .map (.ofList [("a", .value (.int32 4))])⟩]

theorem narrowing_folds_left :
    (∀ call ∈ narrowing, call.query.Plain) ∧
    (deleteFromT.run (narrowing.map JoinCall.toCall) {}).1.writeTo {} = (.ok (),
      ⟨"DELETE FROM t WHERE ((x = 1) OR (y = 2)) AND (a = ??)", [.int32 4], []⟩) ∧
    ∀ ν, (deleteFromT.run (narrowing.map JoinCall.toCall) {}).1.condition.truth? ν =
      some ((ν 0 || ν 1) && ν 2) := by
  have plain : ∀ call ∈ narrowing, call.query.Plain := by
    intro call member
    rcases member with _ | ⟨_, _ | ⟨_, _ | ⟨_, _ | ⟨_, ⟨⟩⟩⟩⟩⟩
    · trivial
    · trivial
    · trivial
    · rintro entry (_ | ⟨_, ⟨⟩⟩)
      exact ⟨by decide, rfl⟩
  refine ⟨plain, rfl, ?_⟩
  intro ν
  exact (conditions_fold_left plain rfl .rows).1 ν

/-! ## Maps joined by OR -/

/-- A map that is joined by OR is the conjunction of its equalities, as a function of the leaves,
exactly if it has no two of them. -/
theorem orMap_conjoins_iff {s t : Stmt} {f : Restriction} (composed : Cond.Composed (f.cond s))
    {m : ColumnMap} (plain : m.Plain) {caches : ColumnCaches}
    (ran : (s.apply (f.call .or (.map m)) caches).1 = t) :
    (f.cond t).kept = (Cond.any [f.cond s, .all m.equalities]).kept ∧
    ((∀ ν, (f.cond t).truth? ν = (Cond.any [f.cond s, .all m.equalities]).truth? ν) ↔
      m.size ≤ 1) := by
  have plainQuery : (Query.map m).Plain := plain
  have joined : f.cond t = Cond.any (f.cond s :: m.equalities) := by
    rw [← ran, Restriction.apply_call s plainQuery, Restriction.cond_put, plain.conditions_map,
      Cond.any]
  -- the equalities are single leaves, so only their number counts
  rw [joined, ← plain.length_comparisons]
  constructor
  · exact Cond.kept_any_all (f.cond s) m.equalities
  · exact Cond.truth?_any_all_iff composed.proper m.equalities_valid

/-- A DELETE from a table of the rows where one column is one. -/
def deleteOne : Stmt := { deleteFromT with condition := .raw "x = 1" }

def twoColumns : ColumnMap :=
  .ofList [("a", .value (.int32 1)), ("b", .value (.int32 2))]

def oneColumn : ColumnMap :=
  .ofList [("a", .value (.int32 1))]

theorem orOneColumn_conjoins :
    Cond.Composed (Restriction.rows.cond deleteOne) ∧ oneColumn.Plain ∧
    ∀ ν, (deleteOne.apply (.condition .or (.map oneColumn)) {}).1.condition.truth? ν =
      (Cond.any [.raw "x = 1", .all oneColumn.equalities]).truth? ν := by
  have composed : Cond.Composed (Restriction.rows.cond deleteOne) := .raw "x = 1"
  have plain : oneColumn.Plain := by
    rintro entry (_ | ⟨_, ⟨⟩⟩)
    exact ⟨by decide, rfl⟩
  refine ⟨composed, plain, ?_⟩
  exact (orMap_conjoins_iff composed plain rfl).2.2 (by decide)

/-- Rows where only one of the columns has its number are deleted, too. -/
theorem orTwoColumns_not_conjoins :
    Cond.Composed (Restriction.rows.cond deleteOne) ∧ twoColumns.Plain ∧
    (deleteOne.apply (.condition .or (.map twoColumns)) {}).1.writeTo {} = (.ok (),
      ⟨"DELETE FROM t WHERE (x = 1) OR (a = ??) OR (b = ??)", [.int32 1, .int32 2], []⟩) ∧
    ¬∀ ν, (deleteOne.apply (.condition .or (.map twoColumns)) {}).1.condition.truth? ν =
      (Cond.any [.raw "x = 1", .all twoColumns.equalities]).truth? ν := by
  refine ⟨.raw "x = 1", ?_, rfl, ?_⟩
  · rintro entry (_ | ⟨_, _ | ⟨_, ⟨⟩⟩⟩)
    · exact ⟨by decide, rfl⟩
    · exact ⟨by decide, rfl⟩
  · intro same
    -- `a = 1` holds and `b = 2` does not: the disjunction is true, the conjunction false
    have firstOnly := same fun i => decide (i = 1)
    cases firstOnly

end Stmt

end SqlCompose
