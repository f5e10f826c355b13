import SqlCompose.Proofs.Stmt.Steps

/-! # Restrictions and where they are written

A statement restricts rows by WHERE and groups by HAVING.  A restriction is written behind whatever
may fail, if its condition has something to write, and nothing else looks at the condition.  So two
statements that differ in one restriction are written alike up to it and from there on.

Main statement: a statement writes its restriction between the same things, whatever it is, or
cannot be written at all (`Restriction.framed_write`).
-/

namespace SqlCompose

/-- What a statement restricts by a condition. -/
inductive Restriction where
  /-- Rows, by WHERE. -/
  | rows
  /-- Groups, by HAVING. -/
  | groups
  deriving DecidableEq

namespace Restriction

def keyword : Restriction → String
  | rows => " WHERE "
  | groups => " HAVING "

def cond (s : Stmt) : Restriction → Cond
  | rows => s.condition
  | groups => s.having

def put (s : Stmt) (c : Cond) : Restriction → Stmt
  | rows => { s with condition := c }
  | groups => { s with having := c }

section

variable (s : Stmt) (c : Cond)

@[simp] theorem cond_put (f : Restriction) : f.cond (f.put s c) = c := by
  cases f <;> rfl

theorem cond_put_other {f g : Restriction} (other : f ≠ g) : f.cond (g.put s c) = f.cond s := by
  cases f with
  | rows =>
    cases g with
    | rows => exact absurd rfl other
    | groups => rfl
  | groups =>
    cases g with
    | rows => rfl
    | groups => exact absurd rfl other

@[simp] theorem put_cond (f : Restriction) : f.put s (f.cond s) = s := by
  rcases s with ⟨clauses, sources, rows, assignments⟩
  cases f <;> rfl

end

/-! ## Where a condition is written -/

/-- What is written for a condition: the keyword and the tokens with the values of the leaves, or
nothing at all. -/
def clause (c : Cond) (f : Restriction) : Writer :=
  if c.isValid then ⟨f.keyword ++ spell (c.tokens 0), c.leaves.flatMap Expr.args, []⟩ else {}

/-- Writing a clause appends it and always succeeds. -/
theorem clause_apply (f : Restriction) (c : Cond) (w : Writer) :
    Rendering.clause f.keyword c w = .ok () (w ++ f.clause c) := by
  unfold Rendering.clause clause
  by_cases valid : c.isValid = true
  · rw [if_pos valid, if_pos valid]
    show EStateM.Result.ok () (c.write (w.put f.keyword)) = _
    rw [c.write_eq 0]
    congr 1
    apply Writer.eq_of_parts <;>
      simp [Writer.putTokens, Writer.put, Writer.bindAll, Cond.args_tokens, String.append_assoc]
  · rw [if_neg valid, if_neg valid, Writer.append_empty]
    rfl

/-- The action writes the condition between the same things, whatever it is, or always fails. -/
def Framed (r : Cond → Rendering Unit) (f : Restriction) : Prop :=
  (∃ before after : Writer, ∀ c w, r c w = .ok () (w ++ (before ++ f.clause c ++ after))) ∨
    ∀ c w v, r c w ≠ .ok () v

open Rendering

variable {f : Restriction} {r : Rendering Unit} {next : Cond → Rendering Unit}

/-- What always fails writes no condition. -/
theorem Framed.stopped (e : SqlError) : f.Framed fun _ => throw e := by
  refine .inr ?_
  intro c w v failed
  cases failed

/-- A check in front that does not look at the condition. -/
theorem Framed.unless {p : Prop} [Decidable p] {e : SqlError} (h : f.Framed next) :
    f.Framed fun c => if p then throw e else next c := by
  by_cases stops : p
  · simp only [if_pos stops]
    exact .stopped e
  · simp only [if_neg stops]
    exact h

/-- The condition with something behind it. -/
theorem framed_clause (f : Restriction) (h : AppendOnly r) :
    f.Framed fun c => (do Rendering.clause f.keyword c; r) := by
  have goesOn (c : Cond) (w : Writer) :
      (do Rendering.clause f.keyword c; r : Rendering Unit) w =
        behind (w ++ f.clause c) (r {}) := by
    rw [bind_apply, clause_apply]
    exact h _
  -- what follows succeeds on every writer, or fails on every one
  rcases ran : r {} with ⟨⟨⟩, v⟩ | ⟨e, v⟩
  · rw [ran] at goesOn
    refine .inl ⟨{}, v, ?_⟩
    intro c w
    rw [Writer.empty_append, ← Writer.append_assoc]
    exact goesOn c w
  · rw [ran] at goesOn
    refine .inr ?_
    intro c w v' succeeded
    cases (goesOn c w).symm.trans succeeded

/-- The condition with nothing around it. -/
theorem framed_clause_alone (f : Restriction) : f.Framed (Rendering.clause f.keyword) := by
  refine .inl ⟨{}, {}, ?_⟩
  intro c w
  rw [clause_apply, Writer.empty_append, Writer.append_empty]

/-- Something in front that does not depend on the condition. -/
theorem Framed.behind (h : f.Framed next) (first : AppendOnly r) :
    f.Framed fun c => (do r; next c) := by
  -- it leaves the same behind every writer, or fails on every one
  rcases ran : r {} with ⟨⟨⟩, u⟩ | ⟨e, u⟩
  · have goesOn (c : Cond) (w : Writer) :
        (do r; next c : Rendering Unit) w = next c (w ++ u) := by
      rw [bind_apply, first w, ran]
      rfl
    rcases h with ⟨before, after, framed⟩ | failed
    · refine .inl ⟨u ++ before, after, ?_⟩
      intro c w
      have whole : w ++ (u ++ before ++ f.clause c ++ after) =
          w ++ u ++ (before ++ f.clause c ++ after) := by
        simp only [Writer.append_assoc]
      rw [whole, ← framed c (w ++ u)]
      exact goesOn c w
    · refine .inr ?_
      intro c w v succeeded
      exact failed c (w ++ u) v ((goesOn c w).symm.trans succeeded)
  · have stops (c : Cond) (w : Writer) :
        (do r; next c : Rendering Unit) w = .error e (w ++ u) := by
      rw [bind_apply, first w, ran]
      rfl
    refine .inr ?_
    intro c w v succeeded
    cases (stops c w).symm.trans succeeded

/-- The kind of the statement writes the restriction. -/
def WrittenBy (s : Stmt) (f : Restriction) : Prop :=
  match s.kind with
  | .raw => False
  | .insert => s.sources ≠ [] ∧ firstIsStmt s.sources = false
  | .delete => f = rows
  | .update => f = rows
  | .select => True

/-- A SELECT writes WHERE behind its sources, and HAVING behind its grouping. -/
theorem framed_selectSteps {sources : List (Rendering Unit)} (s : Stmt) (f : Restriction)
    (h : ∀ r ∈ sources, AppendOnly r) :
    f.Framed fun c => inOrder ((f.put s c).toClauses.selectSteps sources) := by
  have tail : AppendOnly (inOrder [textClause " ORDER BY " s.ordering, s.toClauses.writeLimit]) :=
    (appendOnly_textClause _ _).bind fun _ => s.toClauses.appendOnly_writeLimit
  have columns := appendOnly_put
    (if s.selectColumns.isEmpty then "*" else ",".intercalate s.selectColumns)
  cases f with
  -- HAVING stays as it is, and is part of what follows
  | rows =>
    have rest : AppendOnly (inOrder [textClause " GROUP BY " s.grouping,
        Rendering.clause " HAVING " s.having, textClause " ORDER BY " s.ordering,
        s.toClauses.writeLimit]) :=
      (appendOnly_textClause _ _).bind fun _ => (appendOnly_clause _ _).bind fun _ => tail
    have condition := framed_clause rows rest
    exact (((condition.behind (appendOnly_separated h)).behind
      (appendOnly_put " FROM ")).behind columns).behind (appendOnly_put "SELECT ")
  -- WHERE stays as it is, and is part of what comes before
  | groups =>
    have condition := framed_clause groups tail
    exact (((((condition.behind (appendOnly_textClause " GROUP BY " s.grouping)).behind
      (appendOnly_clause " WHERE " s.condition)).behind (appendOnly_separated h)).behind
      (appendOnly_put " FROM ")).behind columns).behind (appendOnly_put "SELECT ")

section

variable (s : Stmt)

theorem appendOnly_sources : ∀ r ∈ s.sources.map Source.write, AppendOnly r := by
  intro r hr
  rcases List.mem_map.1 hr with ⟨source, -, rfl⟩
  exact appendOnly_source fun t _ => t.appendOnly_write

theorem appendOnly_assignments : ∀ r ∈ s.assignments.map Assignment.write, AppendOnly r := by
  intro r hr
  rcases List.mem_map.1 hr with ⟨⟨column, operand⟩, -, rfl⟩
  rw [Assignment.write]
  have written : AppendOnly operand.write := appendOnly_operand fun t _ => t.appendOnly_write
  exact (appendOnly_put (column ++ " = ")).bind fun _ => written

/-- A SELECT writes either restriction between the same things, or fails its checks. -/
theorem framed_writeSelect (f : Restriction) :
    f.Framed fun c => (f.put s c).toClauses.writeSelect (s.sources.map Source.write) := by
  have steps := framed_selectSteps s f (appendOnly_sources s)
  -- the checks in front do not look at the condition
  have shape (c : Cond) : (f.put s c).toClauses.writeSelect (s.sources.map Source.write) =
      if (s.sources.map Source.write).isEmpty then MonadExcept.throw .noTableName
      else if s.limit < 0 ∨ s.offset < 0 then MonadExcept.throw .invalidLimitation
      else inOrder ((f.put s c).toClauses.selectSteps (s.sources.map Source.write)) := by
    cases f <;> exact Clauses.writeSelect_eq _ _
  simp only [shape]
  exact steps.unless.unless

/-- A DELETE writes WHERE behind its table. -/
theorem framed_writeDelete :
    rows.Framed fun c => (rows.put s c).toClauses.writeDelete (s.sources.map Source.write) := by
  have appended := appendOnly_sources s
  simp only [Clauses.writeDelete_eq]
  generalize s.sources.map Source.write = sources at appended ⊢
  rcases sources with _ | ⟨table, rest⟩
  · exact .stopped .noTableName
  · have first : AppendOnly table := appended table List.mem_cons_self
    have condition := framed_clause_alone rows
    exact (condition.behind first).behind (appendOnly_put "DELETE FROM ")

/-- An UPDATE writes WHERE behind its assignments. -/
theorem framed_writeUpdate :
    rows.Framed fun c => (rows.put s c).toClauses.writeUpdate (s.sources.map Source.write)
      (s.assignments.map Assignment.write) := by
  have appended := appendOnly_sources s
  have items : AppendOnly (separated "," (s.assignments.map Assignment.write)) :=
    appendOnly_separated (appendOnly_assignments s)
  simp only [Clauses.writeUpdate_eq]
  generalize s.sources.map Source.write = sources at appended ⊢
  rcases sources with _ | ⟨table, rest⟩
  · exact .stopped .noTableName
  · have first : AppendOnly table := appended table List.mem_cons_self
    have condition := framed_clause_alone rows
    have steps := (((condition.behind items).behind (appendOnly_put " SET ")).behind
      first).behind (appendOnly_put "UPDATE ")
    exact steps.unless

/-- An INSERT of what a SELECT of its own finds. -/
theorem framed_writeInsert (f : Restriction) (selects : s.sources ≠ []) :
    f.Framed fun c => (f.put s c).toClauses.writeInsert false (s.sources.map Source.write)
      (s.rows.map fun row => row.map Operand.write) := by
  have columns : AppendOnly
      (if s.insertColumns.isEmpty then Rendering.put " "
        else s.toClauses.writeColumns " " " ") := by
    split
    · exact appendOnly_put _
    · exact appendOnly_put _
  have steps := ((framed_writeSelect s f).behind columns).behind
    (appendOnly_put ("INSERT INTO " ++ s.target))
  have some : (!(s.sources.map Source.write).isEmpty) = true := by
    simpa using selects
  have shape (c : Cond) : (f.put s c).toClauses.writeInsert false (s.sources.map Source.write)
      (s.rows.map fun row => row.map Operand.write) =
        if s.target.isEmpty then MonadExcept.throw .noTableName
        else inOrder [Rendering.put ("INSERT INTO " ++ s.target),
          if s.insertColumns.isEmpty then Rendering.put " " else s.toClauses.writeColumns " " " ",
          (f.put s c).toClauses.writeSelect (s.sources.map Source.write)] := by
    rw [Clauses.writeInsert_eq, if_pos some, Clauses.writeInsertSelect_eq]
    cases f <;> rfl
  simp only [shape]
  exact steps.unless

end

/-- A statement writes its restriction between the same things, whatever it is, or cannot be written
at all. -/
theorem framed_write {s : Stmt} {f : Restriction} (writes : f.WrittenBy s) :
    f.Framed fun c => (f.put s c).write := by
  have shape (c : Cond) : (f.put s c).write =
      (f.put s c).toClauses.write (firstIsStmt s.sources) (s.sources.map Source.write)
        (s.rows.map fun row => row.map Operand.write) (s.assignments.map Assignment.write) := by
    cases f <;> exact Stmt.write_eq _
  -- neither what is refused nor the kind depends on the condition
  have sameRefusal (c : Cond) : (f.put s c).refusal = s.refusal := by
    cases f <;> rfl
  have sameKind (c : Cond) : (f.put s c).kind = s.kind := by
    cases f <;> rfl
  simp only [shape, Clauses.write, sameRefusal, sameKind]
  unfold WrittenBy at writes
  cases s.refusal with
  | some cause => exact .stopped _
  | none =>
    cases kind : s.kind with
    | raw =>
      rw [kind] at writes
      exact writes.elim
    | insert =>
      rw [kind] at writes
      rw [writes.2]
      exact framed_writeInsert s f writes.1
    | delete =>
      rw [kind] at writes
      cases writes
      exact framed_writeDelete s
    | update =>
      rw [kind] at writes
      cases writes
      exact framed_writeUpdate s
    | select => exact framed_writeSelect s f

end Restriction

end SqlCompose
