import SqlCompose.Proofs.Stmt.Batch

/-! # What decides whether a rendering succeeds

Some of what a statement must have is checked before anything is written and some after, and what
fails inside comes out through everything around it.  Still, whether an action succeeds does not
depend on the writer it runs on, and two actions one after another succeed exactly if each of them
does.  So every rendering is decided by a condition, put together as the rendering is, and whatever
fails says that something could not be assembled.

Main statements:

* `DecidedBy.bind`, `DecidedBy.inOrder`: what decides actions one after another;
* `decided_rows`: the rows of an INSERT are written exactly if they match;
* `decided_writeSelect`, `decided_writeDelete`, `decided_writeUpdate`, `decided_writeInsert_rows`,
  `decided_writeInsert_select`: what decides each kind of statement.
-/

namespace SqlCompose

namespace Rendering

/-- The action succeeds if the condition holds, and else fails with an error of assembling, on
every writer alike. -/
def DecidedBy (p : Prop) (r : Rendering Unit) : Prop :=
  ∀ w, (p ∧ ∃ v, r w = .ok () v) ∨ (¬p ∧ ∃ e v, r w = .error e v ∧ e.isStructural = true)

section

variable {p q : Prop} {r next : Rendering Unit}

/-- Where the action has succeeded, the condition holds. -/
theorem DecidedBy.of_ok (h : DecidedBy p r) {w v : Writer} (succeeded : r w = .ok () v) : p := by
  rcases h w with ⟨holds, -⟩ | ⟨-, e, v', failed, -⟩
  · exact holds
  · rw [succeeded] at failed
    cases failed

/-- Where the condition holds, the action succeeds on every writer. -/
theorem DecidedBy.succeeds (h : DecidedBy p r) (holds : p) (w : Writer) : ∃ v, r w = .ok () v := by
  rcases h w with ⟨-, succeeded⟩ | ⟨fails, -⟩
  · exact succeeded
  · exact absurd holds fails

/-- What an action fails with is an error of assembling. -/
theorem DecidedBy.structural (h : DecidedBy p r) {w v : Writer} {e : SqlError}
    (failed : r w = .error e v) : e.isStructural = true := by
  rcases h w with ⟨-, v', succeeded⟩ | ⟨-, e', v', failed', structural⟩
  · rw [failed] at succeeded
    cases succeeded
  · rw [failed] at failed'
    cases failed'
    exact structural

/-- The condition may be tested by running the action, on any writer. -/
theorem DecidedBy.iff_ok (h : DecidedBy p r) (w : Writer) : p ↔ ∃ v, r w = .ok () v :=
  ⟨fun holds => h.succeeds holds w, fun ⟨_, succeeded⟩ => h.of_ok succeeded⟩

theorem DecidedBy.congr (h : DecidedBy p r) (same : p ↔ q) : DecidedBy q r := by
  rw [← propext same]
  exact h

/-- An action that always succeeds. -/
theorem DecidedBy.always (h : ∀ w, ∃ v, r w = .ok () v) : DecidedBy True r :=
  fun w => .inl ⟨trivial, h w⟩

/-- An action that never succeeds. -/
theorem DecidedBy.throw {e : SqlError} (structural : e.isStructural = true) :
    DecidedBy False (throw e) :=
  fun w => .inr ⟨id, e, w, rfl, structural⟩

theorem decided_put (text : String) : DecidedBy True (put text) :=
  .always fun _ => ⟨_, rfl⟩

/-! ## One action after another -/

/-- Two actions succeed together if both do, since the second does so on every writer. -/
theorem DecidedBy.bind (first : DecidedBy p r) (second : DecidedBy q next) :
    DecidedBy (p ∧ q) (do r; next) := by
  intro w
  rcases first w with ⟨hp, v, succeeded⟩ | ⟨hp, e, v, failed, structural⟩
  · -- the second action is asked about the writer that the first one leaves
    have goesOn : (do r; next : Rendering Unit) w = next v := by
      rw [bind_apply, succeeded]
    rw [goesOn]
    rcases second v with ⟨hq, v', ended⟩ | ⟨hq, e, v', failed, structural⟩
    · exact .inl ⟨⟨hp, hq⟩, v', ended⟩
    · exact .inr ⟨fun both => hq both.2, e, v', failed, structural⟩
  · -- after a failure the second action is not run
    have stops : (do r; next : Rendering Unit) w = .error e v := by
      rw [bind_apply, failed]
    exact .inr ⟨fun both => hp both.1, e, v, stops, structural⟩

/-- What stands in front always succeeds. -/
theorem DecidedBy.behind (second : DecidedBy q next) (first : DecidedBy True r) :
    DecidedBy q (do r; next) :=
  (first.bind second).congr (by simp)

/-- What stands behind always succeeds. -/
theorem DecidedBy.before (first : DecidedBy p r) (second : DecidedBy True next) :
    DecidedBy p (do r; next) :=
  (first.bind second).congr (by simp)

/-- A check in front that stops if something is the case. -/
theorem DecidedBy.unless {c : Prop} [Decidable c] (stops : DecidedBy False r)
    (h : DecidedBy p next) : DecidedBy (¬c ∧ p) (if c then r else next) := by
  by_cases hc : c
  · rw [if_pos hc]
    exact stops.congr (by simp [hc])
  · rw [if_neg hc]
    exact h.congr (by simp [hc])

end

/-- All of some conditions hold. -/
def AllHold (ps : List Prop) : Prop :=
  ∀ p ∈ ps, p

@[simp] theorem allHold_nil : AllHold [] ↔ True :=
  iff_of_true (List.forall_mem_nil fun p => p) trivial

@[simp] theorem allHold_cons (q : Prop) (ps : List Prop) :
    AllHold (q :: ps) ↔ q ∧ AllHold ps :=
  List.forall_mem_cons (p := fun p => p)

theorem allHold_map {α : Type} (f : α → Prop) (xs : List α) :
    AllHold (xs.map f) ↔ ∀ x ∈ xs, f x :=
  List.forall_mem_map (P := fun p => p)

/-- Actions that are each decided by a condition of what they are made of. -/
theorem decided_each {α : Type} {f : α → Prop} {r : α → Rendering Unit} {xs : List α}
    (h : ∀ x ∈ xs, DecidedBy (f x) (r x)) : List.Forall₂ DecidedBy (xs.map f) (xs.map r) := by
  rw [List.forall₂_map_left_iff, List.forall₂_map_right_iff, List.forall₂_same]
  exact h

/-- Actions one after another succeed exactly if all of them do. -/
theorem DecidedBy.inOrder {ps : List Prop} {rs : List (Rendering Unit)}
    (h : List.Forall₂ DecidedBy ps rs) : DecidedBy (AllHold ps) (inOrder rs) := by
  induction h with
  | nil => exact (DecidedBy.always fun w => ⟨w, rfl⟩).congr allHold_nil.symm
  | @cons p r ps rs hr hrest ih =>
    rw [allHold_cons]
    -- the last step has none behind it
    rcases hrest with _ | ⟨-, -⟩
    · exact hr.congr (by simp)
    · exact hr.bind ih

/-- The same, with a separator between. -/
theorem DecidedBy.separated {separator : String} {ps : List Prop} {rs : List (Rendering Unit)}
    (h : List.Forall₂ DecidedBy ps rs) : DecidedBy (AllHold ps) (separated separator rs) := by
  induction h with
  | nil => exact (DecidedBy.always fun w => ⟨w, rfl⟩).congr allHold_nil.symm
  | @cons p r ps rs hr hrest ih =>
    rw [allHold_cons]
    rcases hrest with _ | ⟨-, -⟩
    · exact hr.congr (by simp)
    · exact hr.bind (ih.behind (decided_put separator))

theorem DecidedBy.parenthesised {p : Prop} {r : Rendering Unit} (h : DecidedBy p r) :
    DecidedBy p (parenthesised r) :=
  (h.before (decided_put ")")).behind (decided_put "(")

theorem decided_clause (keyword : String) (c : Cond) : DecidedBy True (clause keyword c) := by
  unfold clause
  split
  · exact .always fun w => ⟨_, rfl⟩
  · exact .always fun w => ⟨w, rfl⟩

theorem decided_textClause (keyword text : String) :
    DecidedBy True (textClause keyword text) := by
  unfold textClause
  split
  · exact .always fun w => ⟨w, rfl⟩
  · exact decided_put _

theorem decided_aliasClause (alias? : Option String) : DecidedBy True (aliasClause alias?) := by
  rcases alias? with _ | name
  · exact .always fun w => ⟨w, rfl⟩
  · exact decided_put _

/-! ## Rows -/

/-- The text that an action writes into an empty writer. -/
def textAlone (r : Rendering Unit) : String :=
  match r {} with
  | .ok _ v => v.text
  | .error _ v => v.text

/-- Of an action that succeeds it is the text that was written. -/
theorem textAlone_eq {r : Rendering Unit} {v : Writer} (succeeded : r {} = .ok () v) :
    textAlone r = v.text := by
  rw [textAlone, succeeded]

/-- The length of a row is checked by looking at it, without writing it. -/
theorem decided_checkLength (columns index : Nat) (r : List (Rendering Unit)) :
    DecidedBy (r.length = columns) (checkLength columns index r) := by
  unfold checkLength
  by_cases fits : r.length = columns
  · rw [if_pos fits]
    exact (DecidedBy.always fun w => ⟨w, rfl⟩).congr (by simp [fits])
  · rw [if_neg fits]
    exact (DecidedBy.throw rfl).congr (by simp [fits])

/-- What is said about a row to blame is an error of assembling. -/
theorem structural_blame {columns index : Nat} {r : List (Rendering Unit)} {p : Prop}
    (h : DecidedBy p (row r)) : (blame columns index r).isStructural = true := by
  unfold blame
  split
  · cases failed : row r {} with
    | ok _ v => rfl
    | error e v => exact h.structural failed
  · rfl

/-- Rows match if there are some, each has a value for every column and can be written by itself,
and all have one text. -/
structure RowsMatch (columns : Nat) (rs : List (List (Rendering Unit))) : Prop where
  some : rs ≠ []
  lengths : ∀ r ∈ rs, r.length = columns
  written : ∀ r ∈ rs, ∃ v, row r {} = .ok () v
  oneText : ∀ r ∈ rs, ∀ other ∈ rs, textAlone (row r) = textAlone (row other)

section

variable {columns : Nat} {rs : List (List (Rendering Unit))}

/-- Rows that all fit one template match. -/
theorem rowsMatch_of_writesRow {template : String} {vs : List Writer} (some : rs ≠ [])
    (fits : List.Forall₂ (WritesRow columns template) rs vs) : RowsMatch columns rs := by
  have each : ∀ r ∈ rs, ∃ v, WritesRow columns template r v :=
    fun r hr => Stmt.exists_of_forall₂ fits hr
  constructor
  · exact some
  · intro r hr
    rcases each r hr with ⟨v, length, -, -⟩
    exact length
  · intro r hr
    rcases each r hr with ⟨v, -, written, -⟩
    exact ⟨v, written⟩
  · intro r hr other hother
    rcases each r hr with ⟨v, -, written, text⟩
    -- both have the text of the template
    rcases each other hother with ⟨v', -, written', text'⟩
    rw [textAlone_eq written, textAlone_eq written', text, text']

/-- Rows that match agree with each other. -/
theorem RowsMatch.agree (h : RowsMatch columns rs) {first r : List (Rendering Unit)}
    (hfirst : first ∈ rs) (hr : r ∈ rs) : Agree columns first r := by
  rcases h.written first hfirst with ⟨v, written⟩
  rcases h.written r hr with ⟨v', written'⟩
  have same : v'.text = v.text := by
    rw [← textAlone_eq written, ← textAlone_eq written', h.oneText first hfirst r hr]
  have firstFits : Fits columns v.text first := ⟨v, h.lengths first hfirst, written, rfl⟩
  exact ⟨v.text, firstFits, v', h.lengths r hr, written', same⟩

/-- Rows are written exactly if they match. -/
theorem decided_rows (appendOnly : ∀ r ∈ rs, AppendOnly (row r))
    (decided : ∀ r ∈ rs, ∃ p, DecidedBy p (row r)) :
    DecidedBy (RowsMatch columns rs) (rows columns rs) := by
  match rs with
  | [] =>
    have none : ¬RowsMatch columns [] := fun h => h.some rfl
    exact (DecidedBy.throw rfl).congr (by simp [none])
  | [r] =>
    rcases decided r List.mem_cons_self with ⟨p, hp⟩
    -- a single row has nothing to match but its length
    have single : (r.length = columns ∧ p) ↔ RowsMatch columns [r] := by
      rw [hp.iff_ok {}]
      constructor
      · rintro ⟨length, written⟩
        constructor <;> simp [length, written]
      · intro h
        exact ⟨h.lengths r List.mem_cons_self, h.written r List.mem_cons_self⟩
    exact ((decided_checkLength columns 0 r).bind hp).congr single
  | first :: next :: rest =>
    intro w
    cases ran : rows columns (first :: next :: rest) w with
    | ok _ w' =>
      rcases (rows_eq_ok columns appendOnly w w').1 ran with ⟨template, vs, fits, -⟩
      exact .inl ⟨rowsMatch_of_writesRow (List.cons_ne_nil _ _) fits, w', rfl⟩
    | error e w' =>
      -- the row to blame does not agree with the first, as all of them would if they matched
      rcases rows_error columns appendOnly ran with ⟨i, hi, -, misfit, rfl⟩
      have member : (first :: next :: rest)[i] ∈ first :: next :: rest := List.getElem_mem hi
      rcases decided _ member with ⟨p, hp⟩
      refine .inr ⟨?_, _, w', rfl, structural_blame hp⟩
      intro matching
      exact misfit (matching.agree List.mem_cons_self member)

end

end Rendering

/-! ## The kinds of statements -/

namespace Clauses

open Rendering

variable (c : Clauses) {sources assignments : List (Rendering Unit)}
  {values : List (List (Rendering Unit))} {ps qs : List Prop}

/-- A limit that is not positive is left out, so that writing it cannot fail. -/
theorem decided_writeLimit : DecidedBy True c.writeLimit := by
  unfold writeLimit
  split
  · apply (decided_put _).before
    split
    · exact decided_put _
    · exact .always fun w => ⟨w, rfl⟩
  · exact .always fun w => ⟨w, rfl⟩

/-- A SELECT needs a source, a limit and an offset that are not negative, and sources that can be
written. -/
theorem decided_writeSelect (h : List.Forall₂ DecidedBy ps sources) :
    DecidedBy ((sources ≠ [] ∧ 0 ≤ c.limit ∧ 0 ≤ c.offset) ∧ AllHold ps)
      (c.writeSelect sources) := by
  -- of the steps only the sources can fail
  have each : List.Forall₂ DecidedBy
      [True, True, True, AllHold ps, True, True, True, True, True] (c.selectSteps sources) :=
    .cons (decided_put _) <| .cons (decided_put _) <| .cons (decided_put _) <|
      .cons (.separated h) <| .cons (decided_clause _ _) <| .cons (decided_textClause _ _) <|
      .cons (decided_clause _ _) <| .cons (decided_textClause _ _) <|
      .cons c.decided_writeLimit .nil
  have steps : DecidedBy (AllHold ps) (inOrder (c.selectSteps sources)) :=
    (DecidedBy.inOrder each).congr (by simp)
  -- the checks come in front, the last one told first
  have checked := DecidedBy.unless (c := c.limit < 0 ∨ c.offset < 0)
    (DecidedBy.throw (e := .invalidLimitation) rfl) steps
  have whole := DecidedBy.unless (c := sources.isEmpty)
    (DecidedBy.throw (e := .noTableName) rfl) checked
  rw [writeSelect_eq]
  exact whole.congr (by simp [Int64.not_lt, and_assoc])

/-- A DELETE needs a first source that can be written, and does not look at the limit. -/
theorem decided_writeDelete (h : List.Forall₂ DecidedBy ps sources) :
    DecidedBy (sources ≠ [] ∧ AllHold (ps.take 1)) (c.writeDelete sources) := by
  rw [writeDelete_eq]
  cases h with
  | nil => exact (DecidedBy.throw rfl).congr (by simp)
  | @cons p table ps rest htable hrest =>
    have steps : DecidedBy p (do put "DELETE FROM "; table; clause " WHERE " c.condition) :=
      (htable.before (decided_clause _ _)).behind (decided_put _)
    exact steps.congr (by simp)

/-- An UPDATE needs a first source and something to set, and does not look at the limit. -/
theorem decided_writeUpdate (h : List.Forall₂ DecidedBy ps sources)
    (assigned : List.Forall₂ DecidedBy qs assignments) :
    DecidedBy ((sources ≠ [] ∧ assignments ≠ []) ∧ AllHold (ps.take 1) ∧ AllHold qs)
      (c.writeUpdate sources assignments) := by
  rw [writeUpdate_eq]
  cases h with
  | nil => exact (DecidedBy.throw rfl).congr (by simp)
  | @cons p table ps rest htable hrest =>
    have each : List.Forall₂ DecidedBy [True, p, True, AllHold qs, True]
        [put "UPDATE ", table, put " SET ", Rendering.separated "," assignments,
          clause " WHERE " c.condition] :=
      .cons (decided_put _) <| .cons htable <| .cons (decided_put _) <|
        .cons (.separated assigned) <| .cons (decided_clause _ _) .nil
    have whole := DecidedBy.unless (c := assignments.isEmpty)
      (DecidedBy.throw (e := .unsupported .nothingToSet) rfl) (DecidedBy.inOrder each)
    exact whole.congr (by simp)

/-- What a SELECT finds, inserted: that of the first source, or of a SELECT of its own. -/
theorem decided_writeInsertSelect (firstIsStmt : Bool) (nonempty : sources ≠ [])
    (h : List.Forall₂ DecidedBy ps sources) :
    DecidedBy (if firstIsStmt then AllHold (ps.take 1)
        else (sources ≠ [] ∧ 0 ≤ c.limit ∧ 0 ≤ c.offset) ∧ AllHold ps)
      (c.writeInsertSelect firstIsStmt sources) := by
  have columns : DecidedBy True
      (if c.insertColumns.isEmpty then put " " else c.writeColumns " " " ") := by
    split
    · exact decided_put _
    · exact decided_put _
  rw [writeInsertSelect_eq]
  cases firstIsStmt with
  | false =>
    have steps := ((c.decided_writeSelect h).behind columns).behind
      (decided_put ("INSERT INTO " ++ c.target))
    exact steps.congr (by simp)
  | true =>
    cases h with
    | nil => exact absurd rfl nonempty
    | @cons p first ps rest hfirst hrest =>
      have steps := (hfirst.behind columns).behind (decided_put ("INSERT INTO " ++ c.target))
      exact steps.congr (by simp)

/-- An INSERT of rows of its own. -/
theorem decided_writeInsert_rows {p : Prop} (firstIsStmt : Bool)
    (h : DecidedBy p (rows c.insertColumns.length values)) :
    DecidedBy (c.target ≠ "" ∧ c.insertColumns ≠ [] ∧ values ≠ [] ∧ p)
      (c.writeInsert firstIsStmt [] values) := by
  have each : List.Forall₂ DecidedBy [True, True, p, True] (c.insertRowSteps values) :=
    .cons (decided_put _) <| .cons (decided_put _) <| .cons h <| .cons (decided_put _) .nil
  have steps : DecidedBy p (inOrder (c.insertRowSteps values)) :=
    (DecidedBy.inOrder each).congr (by simp)
  -- the checks from the inside out: rows, columns, table
  have checkedRows := DecidedBy.unless (c := values.isEmpty)
    (DecidedBy.throw (e := .noValueToInsert) rfl) steps
  have checkedColumns := DecidedBy.unless (c := c.insertColumns.isEmpty)
    (DecidedBy.throw (e := .noColumnToInsert) rfl) checkedRows
  have whole := DecidedBy.unless (c := c.target.isEmpty)
    (DecidedBy.throw (e := .noTableName) rfl) checkedColumns
  rw [writeInsert_eq]
  exact whole.congr (by simp)

/-- An INSERT of what a SELECT finds, with its table. -/
theorem decided_writeInsert_select {p : Prop} (firstIsStmt : Bool) (nonempty : sources ≠ [])
    (h : DecidedBy p (c.writeInsertSelect firstIsStmt sources)) :
    DecidedBy (c.target ≠ "" ∧ p) (c.writeInsert firstIsStmt sources values) := by
  have whole := DecidedBy.unless (c := c.target.isEmpty)
    (DecidedBy.throw (e := .noTableName) rfl) h
  have selects : (!sources.isEmpty) = true := by
    simpa using nonempty
  rw [writeInsert_eq, if_pos selects]
  exact whole.congr (by simp)

end Clauses

end SqlCompose
