import SqlCompose.Stmt.Builder
import SqlCompose.Stmt.Render

/-! # Clauses that are filled in any order

Many calls fill one clause each: they look at what the clause holds, and at nothing else of the
statement, and leave something else there.  So a run of such calls makes of every clause what the
calls for this clause make of it, in their order, wherever the calls for other clauses stand between
them.  Calls may be moved past those for other clauses.

A limit and its offset are one clause, and so are the items of the order whatever their direction.

Main statements:

* `Stmt.run_fills`: a clause after a run is what the calls for it make of what it held;
* `Stmt.clauses_in_any_order`: runs that have the same calls for every clause, in the same order for
  each, end in the same statement.
-/

namespace SqlCompose

/-! ## Clauses and their calls -/

/-- What a call may fill. -/
inductive Clause where
  | condition
  | having
  | grouping
  | ordering
  | limits
  | assignments
  | selectColumns
  | insertColumns
  | sources
  deriving DecidableEq

namespace Clause

/-- What a clause holds. -/
abbrev Part : Clause → Type
  | condition => Cond
  | having => Cond
  | grouping => String
  | ordering => String
  | limits => Int64 × Int64
  | assignments => List Assignment
  | selectColumns => List String
  | insertColumns => List String
  | sources => List Source

/-- What the clause holds in a statement. -/
def get : (c : Clause) → Stmt → c.Part
  | condition, s => s.condition
  | having, s => s.having
  | grouping, s => s.grouping
  | ordering, s => s.ordering
  | limits, s => (s.limit, s.offset)
  | assignments, s => s.assignments
  | selectColumns, s => s.selectColumns
  | insertColumns, s => s.insertColumns
  | sources, s => s.sources

/-- What a call makes of what the clause holds. -/
def after : (c : Clause) → c.Part → Call → c.Part
  | condition, held, .condition op q => .combine op (held :: q.conditions)
  | having, held, .having op q => .combine op (held :: q.conditions)
  | grouping, held, .groupBy keys => Stmt.appendItems held keys ""
  | ordering, held, .orderBy items => Stmt.appendItems held items ""
  | ordering, held, .ascending columns => Stmt.appendItems held columns " ASC"
  | ordering, held, .descending columns => Stmt.appendItems held columns " DESC"
  | limits, (_, offset), .limit n => (n, offset)
  | limits, _, .limitOffset n offset => (n, offset)
  | assignments, held, .set column operand => held ++ [⟨column, operand⟩]
  | assignments, held, .increase column amount =>
    held ++ [⟨column, .ofExpr (column ++ " + " ++ marker) [amount]⟩]
  | assignments, held, .decrease column amount =>
    held ++ [⟨column, .ofExpr (column ++ " - " ++ marker) [amount]⟩]
  | assignments, held, .setAll (.map m) =>
    held ++ m.entries.map fun (column, operand) => ⟨column, operand⟩
  | selectColumns, held, .selectColumns columns => held ++ columns
  | insertColumns, held, .intoColumns columns => held ++ columns
  | sources, held, .source (.table name) alias? => held ++ [.table name alias?]
  | sources, held, .source (.stmt sub) alias? => held ++ [.stmt sub alias?]
  | _, held, _ => held

end Clause

namespace Call

/-- The clause that the call fills, if it is a call that fills one clause from its input alone. -/
def clause? : Call → Option Clause
  | .condition _ _ => some .condition
  | .having _ _ => some .having
  | .groupBy _ => some .grouping
  | .orderBy _ => some .ordering
  | .ascending _ => some .ordering
  | .descending _ => some .ordering
  | .limit _ => some .limits
  | .limitOffset _ _ => some .limits
  | .set _ _ => some .assignments
  | .increase _ _ => some .assignments
  | .decrease _ _ => some .assignments
  | .setAll (.map _) => some .assignments
  | .selectColumns _ => some .selectColumns
  | .intoColumns _ => some .insertColumns
  | .source (.table _) _ => some .sources
  | .source (.stmt _) _ => some .sources
  | _ => none

/-- The call rejects nothing of its input: a statement without a refusal has none afterwards. -/
def Accepted (call : Call) : Prop :=
  ∀ (s : Stmt) (caches : ColumnCaches), s.refusal = none → (s.apply call caches).1.refusal = none

end Call

namespace Stmt

/-- A query that compares no column with a sub-statement leaves no refusal. -/
theorem refuseStatements_eq_self {q : Query} (plain : q.statementColumns = []) (s : Stmt) :
    s.refuseStatements q = s := by
  rw [refuseStatements, plain, List.foldl_nil]

/-- A refusal stays. -/
theorem refusal_refuseStatements {s : Stmt} {cause : Unsupported} (refused : s.refusal = some cause)
    (columns : List String) :
    (columns.foldl (fun s column => s.refuse (.conditionOnStatement column)) s).refusal =
      some cause := by
  induction columns generalizing s with
  | nil => exact refused
  | cons column rest ih =>
    apply ih
    simp only [refuse, refused]

/-- A query whose first refusal does not show refuses nothing. -/
theorem statementColumns_of_accepted {q : Query}
    (accepted : (refuseStatements {} q).refusal = none) : q.statementColumns = [] := by
  cases columns : q.statementColumns with
  | nil => rfl
  | cons column rest =>
    have refused : (refuseStatements {} q).refusal = some (.conditionOnStatement column) := by
      rw [refuseStatements, columns, List.foldl_cons]
      exact refusal_refuseStatements rfl rest
    rw [accepted] at refused
    cases refused

/-- What a statement has besides the clauses that calls fill. -/
def outside (s : Stmt) : StmtKind × String × CacheRef × Option Unsupported × List (List Operand) :=
  (s.kind, s.target, s.cache, s.refusal, s.rows)

/-- A statement is what its clauses hold, and the rest. -/
theorem eq_of_parts {s t : Stmt} (parts : ∀ c : Clause, c.get s = c.get t)
    (outside : s.outside = t.outside) : s = t := by
  rcases s with ⟨⟨⟩⟩
  rcases t with ⟨⟨⟩⟩
  cases outside
  cases parts .condition
  cases parts .having
  cases parts .grouping
  cases parts .ordering
  cases parts .limits
  cases parts .assignments
  cases parts .selectColumns
  cases parts .insertColumns
  cases parts .sources
  rfl

/-- The call makes of every clause what it should, and touches nothing else. -/
structure Fills (call : Call) (s t : Stmt) : Prop where
  parts : ∀ c : Clause, c.get t = c.after (c.get s) call
  outside : t.outside = s.outside

/-- A call for a clause that is accepted fills it. -/
theorem apply_fills (s : Stmt) {call : Call} (clause : call.clause?.isSome)
    (accepted : call.Accepted) (caches : ColumnCaches) :
    Fills call s (s.apply call caches).1 ∧ (s.apply call caches).2 = caches := by
  cases call with
  | condition op q =>
    -- an accepted query has nothing to refuse, so it only joins its conditions
    have plain : q.statementColumns = [] := statementColumns_of_accepted (accepted {} {} rfl)
    show Fills (.condition op q) s (s.addCondition op q) ∧ caches = caches
    rw [addCondition, refuseStatements_eq_self plain]
    refine ⟨⟨?_, rfl⟩, rfl⟩
    intro c
    cases c with
    | _ => rfl
  | having op q =>
    have plain : q.statementColumns = [] := statementColumns_of_accepted (accepted {} {} rfl)
    show Fills (.having op q) s (s.addHaving op q) ∧ caches = caches
    rw [addHaving, refuseStatements_eq_self plain]
    refine ⟨⟨?_, rfl⟩, rfl⟩
    intro c
    cases c with
    | _ => rfl
  | setAll d =>
    cases d with
    | map m =>
      refine ⟨⟨?_, rfl⟩, rfl⟩
      intro c
      cases c with
      | _ => rfl
    | _ => cases clause
  | source d alias? =>
    cases d with
    | table name | stmt sub =>
      refine ⟨⟨?_, rfl⟩, rfl⟩
      intro c
      cases c with
      | _ => rfl
    | _ => cases clause
  | groupBy _ | orderBy _ | ascending _ | descending _ | limit _ | limitOffset _ _ | set _ _
  | increase _ _ | decrease _ _ | selectColumns _ | intoColumns _ =>
    refine ⟨⟨?_, rfl⟩, rfl⟩
    intro c
    cases c with
    | _ => rfl
  | _ => cases clause

end Stmt

/-! ## Runs of calls -/

namespace Clause

/-- A call for another clause, or for none, leaves what the clause holds. -/
theorem after_of_ne {c : Clause} {call : Call} (other : call.clause? ≠ some c) (held : c.Part) :
    c.after held call = held := by
  cases c with
  | condition =>
    cases call with
    | condition _ _ => exact absurd rfl other
    | _ => rfl
  | having =>
    cases call with
    | having _ _ => exact absurd rfl other
    | _ => rfl
  | grouping =>
    cases call with
    | groupBy _ => exact absurd rfl other
    | _ => rfl
  | ordering =>
    cases call with
    | orderBy _ | ascending _ | descending _ => exact absurd rfl other
    | _ => rfl
  | limits =>
    cases call with
    | limit _ | limitOffset _ _ => exact absurd rfl other
    | _ => rfl
  | assignments =>
    cases call with
    | set _ _ | increase _ _ | decrease _ _ => exact absurd rfl other
    | setAll d =>
      cases d with
      | map m => exact absurd rfl other
      | _ => rfl
    | _ => rfl
  | selectColumns =>
    cases call with
    | selectColumns _ => exact absurd rfl other
    | _ => rfl
  | insertColumns =>
    cases call with
    | intoColumns _ => exact absurd rfl other
    | _ => rfl
  | sources =>
    cases call with
    | source d _ =>
      cases d with
      | table _ | stmt _ => exact absurd rfl other
      | _ => rfl
    | _ => rfl

/-- The calls for the clause, in their order. -/
def callsFor (c : Clause) (calls : List Call) : List Call :=
  calls.filter fun call => call.clause? = some c

/-- What calls make of a clause, the calls for it make of it by themselves. -/
theorem foldl_callsFor (c : Clause) (held : c.Part) (calls : List Call) :
    (c.callsFor calls).foldl c.after held = calls.foldl c.after held := by
  induction calls generalizing held with
  | nil => rfl
  | cons call rest ih =>
    -- a call for the clause is kept by the filter, any other one does nothing to it
    by_cases own : call.clause? = some c
    · have kept : c.callsFor (call :: rest) = call :: c.callsFor rest :=
        List.filter_cons_of_pos (by simpa using own)
      rw [kept]
      exact ih (c.after held call)
    · have left : c.callsFor (call :: rest) = c.callsFor rest :=
        List.filter_cons_of_neg (by simpa using own)
      rw [left, List.foldl_cons, after_of_ne own]
      exact ih held

end Clause

namespace Stmt

/-- After accepted calls for clauses, every clause is what the calls for it make of what it held,
and the rest is as before. -/
theorem run_fills (s : Stmt) {calls : List Call} (clauses : ∀ call ∈ calls, call.clause?.isSome)
    (accepted : ∀ call ∈ calls, call.Accepted) (caches : ColumnCaches) :
    (∀ c : Clause, c.get (s.run calls caches).1 = (c.callsFor calls).foldl c.after (c.get s)) ∧
    (s.run calls caches).1.outside = s.outside ∧ (s.run calls caches).2 = caches := by
  simp only [Clause.foldl_callsFor]
  induction calls generalizing s with
  | nil => exact ⟨fun c => rfl, rfl, rfl⟩
  | cons call rest ih =>
    rcases s.apply_fills (clauses call List.mem_cons_self) (accepted call List.mem_cons_self) caches
      with ⟨filled, same⟩
    rcases ih (s.apply call caches).1 (fun later member => clauses later (.tail _ member))
      (fun later member => accepted later (.tail _ member)) with ⟨parts, outside, kept⟩
    have run : s.run (call :: rest) caches = (s.apply call caches).1.run rest caches := by
      show (s.apply call caches).1.run rest (s.apply call caches).2 = _
      rw [same]
    rw [run]
    refine ⟨?_, outside.trans filled.outside, kept⟩
    intro c
    rw [parts c, filled.parts c, List.foldl_cons]

/-- Accepted calls for clauses may stand in any order that keeps the order of the calls for each
clause: the statement is the same then, and so is what is written in every dialect. -/
theorem clauses_in_any_order (s : Stmt) {xs ys : List Call} (reordered : xs.Perm ys)
    (clauses : ∀ call ∈ xs, call.clause?.isSome) (accepted : ∀ call ∈ xs, call.Accepted)
    (order : ∀ c : Clause, c.callsFor xs = c.callsFor ys) (caches : ColumnCaches) :
    s.run xs caches = s.run ys caches ∧
    ∀ dialect, (s.run xs caches).1.render dialect = (s.run ys caches).1.render dialect := by
  have clauses' : ∀ call ∈ ys, call.clause?.isSome :=
    fun call member => clauses call (reordered.mem_iff.2 member)
  have accepted' : ∀ call ∈ ys, call.Accepted :=
    fun call member => accepted call (reordered.mem_iff.2 member)
  rcases s.run_fills clauses accepted caches with ⟨parts, outside, kept⟩
  rcases s.run_fills clauses' accepted' caches with ⟨parts', outside', kept'⟩
  -- clause by clause, both runs make the same calls in the same order
  have statement : (s.run xs caches).1 = (s.run ys caches).1 := by
    apply eq_of_parts
    · intro c
      rw [parts c, parts' c, order c]
    · rw [outside, outside']
  have same : s.run xs caches = s.run ys caches :=
    Prod.ext statement (kept.trans kept'.symm)
  refine ⟨same, ?_⟩
  intro dialect
  rw [same]

/-- The calls of a SELECT in the order in which its clauses are written. -/
def asWritten : List Call :=
  [.source (.table "t") none, .condition .and (.text "x = 1"),
    .condition .or (.map (.ofList [("y", .value (.int32 2))])), .descending ["a"],
    .limitOffset 9 5, .limit 7]

/-- The same calls, mixed: those for one clause stand in the same order. -/
def mixed : List Call :=
  [.limitOffset 9 5, .condition .and (.text "x = 1"), .limit 7, .source (.table "t") none,
    .descending ["a"], .condition .or (.map (.ofList [("y", .value (.int32 2))]))]

theorem mixed_same :
    asWritten.Perm mixed ∧ (∀ call ∈ asWritten, call.clause?.isSome) ∧
    (∀ call ∈ asWritten, call.Accepted) ∧
    (∀ c : Clause, c.callsFor asWritten = c.callsFor mixed) ∧
    run { kind := .select } asWritten {} = run { kind := .select } mixed {} ∧
    (run { kind := .select } mixed {}).1.writeTo {} = (.ok (),
      ⟨"SELECT * FROM t WHERE (x = 1) OR (y = ??) ORDER BY a DESC LIMIT 7 OFFSET 5",
        [.int32 2], []⟩) := by
  -- calls are told apart by where they stand
  let call (i : Nat) : Call := asWritten[i]?.getD .reset
  have reordered : asWritten.Perm mixed := by
    have places : [0, 1, 2, 3, 4, 5].Perm [4, 1, 5, 0, 3, 2] := by decide
    exact places.map call
  have clauses : ∀ call ∈ asWritten, call.clause?.isSome := by
    simp [asWritten, Call.clause?]
  have accepted : ∀ call ∈ asWritten, call.Accepted := by
    simp only [asWritten, List.forall_mem_cons]
    refine ⟨?_, ?_, ?_, ?_, ?_, ?_, List.forall_mem_nil _⟩
    all_goals exact fun _ _ none => none
  have order : ∀ c : Clause, c.callsFor asWritten = c.callsFor mixed := by
    intro c
    cases c with
    | _ => rfl
  exact ⟨reordered, clauses, accepted, order,
    (clauses_in_any_order _ reordered clauses accepted order {}).1, rfl⟩

end Stmt

end SqlCompose
