import SqlCompose.Proofs.Stmt.Groups

/-! # A batch is its rows, one by one

An INSERT of several rows is compared with the INSERTs of its rows one by one.  Both write the same
around their rows, so what a batch asks of its rows, that they fit one template, is that the single
INSERTs succeed with one text, and the groups of the batch are the arguments of these.

Main statements:

* `Stmt.InsertsRows.write_eq_ok`: a batch without batches inside is written exactly if its rows are,
  one by one, with one text;
* `Stmt.batch_refines_singles`: this, and which row is to blame otherwise, and for what.
-/

namespace SqlCompose

/-- What an INSERT writes in front of its rows. -/
def Clauses.beforeRows (c : Clauses) : String :=
  "INSERT INTO " ++ c.target ++
    (" " ++ "(" ++ ",".intercalate c.insertColumns ++ ")" ++ " VALUES (")

/-- What an INSERT leaves, of what its rows leave. -/
def Clauses.aroundRows (c : Clauses) (v : Writer) : Writer :=
  ⟨c.beforeRows ++ v.text ++ ")", v.args, v.groups⟩

/-- The text of an INSERT tells the text of its rows. -/
theorem Clauses.text_aroundRows_inj {c : Clauses} {u v : Writer} :
    (c.aroundRows u).text = (c.aroundRows v).text ↔ u.text = v.text := by
  unfold aroundRows
  rw [String.append_left_inj, String.append_right_inj]

namespace Stmt

open Rendering

/-- The statement with one row only. -/
def only (s : Stmt) (row : List Operand) : Stmt :=
  { s with rows := [row] }

@[simp] theorem only_rows (s : Stmt) (row : List Operand) : (s.only row).rows = [row] := rfl

@[simp] theorem only_toClauses (s : Stmt) (row : List Operand) :
    (s.only row).toClauses = s.toClauses := rfl

/-- An INSERT of rows into columns of a table, with nothing refused. -/
structure InsertsRows (s : Stmt) : Prop where
  own : s.WritesRows
  accepted : s.refusal = none
  target : s.target ≠ ""
  columns : s.insertColumns ≠ []

/-- A statement that writes rows of its own can only be written if nothing is refused and it has a
table and columns. -/
theorem WritesRows.inserts {s : Stmt} (own : s.WritesRows) {w w' : Writer}
    (written : s.write w = .ok () w') : s.InsertsRows := by
  -- what is checked first must have been in order, or nothing would be written
  rw [write_eq] at written
  unfold Clauses.write at written
  cases accepted : s.refusal with
  | some cause =>
    rw [accepted] at written
    cases written
  | none =>
    rw [accepted, own.1, own.2] at written
    dsimp only at written
    rw [Clauses.writeInsert_eq] at written
    by_cases target : s.target = ""
    · rw [target, if_pos (by decide)] at written
      cases written
    · by_cases columns : s.insertColumns = []
      · have some : ¬s.target.isEmpty = true := by simpa using target
        rw [if_neg some, columns] at written
        cases written
      · exact ⟨own, accepted, target, columns⟩

/-- Two rows can be written one by one, with the same text. -/
def Agrees (s : Stmt) (first row : List Operand) : Prop :=
  ∃ u v, (s.only first).writeTo {} = (.ok (), u) ∧ (s.only row).writeTo {} = (.ok (), v) ∧
    v.text = u.text

/-- What is wrong with a row that does not agree with the first: its length, or what fails in its
own INSERT, or its text. -/
def blame (s : Stmt) (index : Nat) (row : List Operand) : SqlError :=
  if row.length = s.insertColumns.length then
    match (s.only row).writeTo {} with
    | (.ok (), _) => .unsupported (.rowShape index)
    | (.error e, _) => e
  else .unsupported (.rowLength index row.length s.insertColumns.length)

/-- What the values of a row write, side by side. -/
def rowRendering (row : List Operand) : List (Rendering Unit) :=
  row.map Operand.write

@[simp] theorem length_rowRendering (row : List Operand) :
    (rowRendering row).length = row.length :=
  List.length_map _

theorem exists_rows {s : Stmt} (several : 2 ≤ s.rows.length) :
    ∃ first next rest, s.rows = first :: next :: rest := by
  match hrows : s.rows with
  | first :: next :: rest => exact ⟨first, next, rest, rfl⟩
  | [_] =>
    rw [hrows] at several
    cases Nat.lt_irrefl 1 several
  | [] =>
    rw [hrows] at several
    cases several

/-- In a row without batches inside there are no groups. -/
theorem groups_of_row {s : Stmt} {row : List Operand} (hrow : row ∈ s.rows)
    (inner : ∀ t ∈ s.rowParts, t.groupCount = 0) {v : Writer}
    (hv : Rendering.row (rowRendering row) {} = .ok () v) : v.groups = [] := by
  have count : v.groups.length = 0 + (row.map fun o => countOf o.stmt?).sum :=
    adds_row hrow (fun t _ => adds_write t) {} v hv
  have none : (row.map fun o => countOf o.stmt?).sum = 0 := by
    apply List.sum_eq_zero
    intro n hn
    obtain ⟨o, ho, rfl⟩ := List.mem_map.1 hn
    cases part : o.stmt? with
    | none => rfl
    | some t => exact inner t (mem_rowParts hrow ho part)
  exact List.length_eq_zero_iff.1 (by omega)

/-- What is paired up with another list has a partner there. -/
theorem exists_of_forall₂ {α β : Type} {R : α → β → Prop} {xs : List α} {ys : List β}
    (h : List.Forall₂ R xs ys) {x : α} (hx : x ∈ xs) : ∃ y, R x y := by
  induction h with
  | nil => cases hx
  | @cons x' y xs ys hxy _ ih =>
    -- the first pair, or one behind it
    rcases List.mem_cons.1 hx with rfl | hx
    · exact ⟨y, hxy⟩
    · exact ih hx

/-- Rows that leave no groups have one group each, their arguments. -/
theorem forall₂_rowGroups {α : Type} {R : α → Writer → Prop} {Q : α → List Value → Prop}
    {rows : List α} {vs : List Writer} (h : List.Forall₂ R rows vs)
    (hR : ∀ row v, R row v → v.groups = [] ∧ Q row v.args) :
    List.Forall₂ Q rows (rowGroups vs) := by
  induction h with
  | nil => exact .nil
  | @cons row v rows vs hv _ ih =>
    obtain ⟨noGroups, group⟩ := hR row v hv
    rw [rowGroups, List.flatMap_cons, noGroups, List.nil_append]
    exact .cons group ih

namespace InsertsRows

variable {s : Stmt} (h : s.InsertsRows)

include h

theorem single (row : List Operand) : (s.only row).InsertsRows :=
  ⟨h.own, h.accepted, h.target, h.columns⟩

/-- An INSERT of rows ends as its rows do, and leaves what they leave, with the same around them. -/
theorem write_apply (nonempty : s.rows ≠ []) :
    s.write {} = match Rendering.rows s.insertColumns.length (s.rows.map rowRendering) {} with
      | .ok () v => .ok () (s.aroundRows v)
      | .error e v => .error e ⟨s.beforeRows ++ v.text, v.args, v.groups⟩ := by
  have appendOnly :
      AppendOnly (Rendering.rows s.insertColumns.length (s.rows.map rowRendering)) :=
    appendOnly_rows (appendOnly_operands s.rows)
  have target : s.target.isEmpty = false := by
    simpa using h.target
  have columns : s.insertColumns.isEmpty = false := by
    simpa using h.columns
  have values : (s.rows.map rowRendering).isEmpty = false := by
    simpa using nonempty
  have steps : s.write = inOrder (s.insertRowSteps (s.rows.map rowRendering)) := by
    rw [write_eq]
    unfold Clauses.write
    rw [h.accepted, h.own.1, h.own.2]
    show s.toClauses.writeInsert _ [] (s.rows.map rowRendering) = _
    rw [Clauses.writeInsert_eq, target, columns, values]
    rfl
  have before : (({} : Writer).put ("INSERT INTO " ++ s.target)).put
      (" " ++ "(" ++ ",".intercalate s.insertColumns ++ ")" ++ " VALUES (")
        = ⟨s.beforeRows, [], []⟩ := by
    apply Writer.eq_of_parts <;> simp [Writer.put, Clauses.beforeRows, String.append_assoc]
  -- the rows are written behind the text in front of them, and so leave what they leave alone
  rw [steps, Clauses.insertRowSteps, Clauses.writeColumns]
  simp only [inOrder, bind_apply, put_apply]
  rw [before, appendOnly ⟨s.beforeRows, [], []⟩]
  cases Rendering.rows s.insertColumns.length (s.rows.map rowRendering) {} with
  | ok u v => rfl
  | error e v => rfl

/-- The INSERT of a single row. -/
theorem only_apply (row : List Operand) :
    (s.only row).write {} =
      if row.length = s.insertColumns.length then
        match Rendering.row (rowRendering row) {} with
        | .ok () v => .ok () (s.aroundRows v)
        | .error e v => .error e ⟨s.beforeRows ++ v.text, v.args, v.groups⟩
      else .error (.unsupported (.rowLength 0 row.length s.insertColumns.length))
        ⟨s.beforeRows ++ "", [], []⟩ := by
  rw [(h.single row).write_apply (List.cons_ne_nil _ _), only_rows, only_toClauses,
    List.map_singleton, rows_singleton, length_rowRendering]
  by_cases fits : row.length = s.insertColumns.length
  · rw [if_pos fits, if_pos fits]
  · rw [if_neg fits, if_neg fits]

/-- The INSERT of a single row succeeds if the row has a value for every column and can be
written. -/
theorem only_eq_ok (row : List Operand) (u : Writer) :
    (s.only row).write {} = .ok () u ↔ row.length = s.insertColumns.length ∧
      ∃ v, Rendering.row (rowRendering row) {} = .ok () v ∧ u = s.aroundRows v := by
  rw [h.only_apply]
  by_cases fits : row.length = s.insertColumns.length
  · rw [if_pos fits]
    cases Rendering.row (rowRendering row) {} with
    | ok _ v =>
      constructor
      · intro hu
        cases hu
        exact ⟨fits, v, rfl, rfl⟩
      · rintro ⟨_, v', hv', rfl⟩
        cases hv'
        rfl
    | error e v =>
      constructor
      · intro hu
        cases hu
      · rintro ⟨_, v', hv', _⟩
        cases hv'
  · rw [if_neg fits]
    constructor
    · intro hu
      cases hu
    · rintro ⟨length, _⟩
      exact absurd length fits

/-- In the INSERT of a row without batches inside there are no groups. -/
theorem groups_of_only {row : List Operand} (hrow : row ∈ s.rows)
    (inner : ∀ t ∈ s.rowParts, t.groupCount = 0) {v : Writer}
    (hv : (s.only row).write {} = .ok () v) : v.groups = [] := by
  obtain ⟨_, v', hv', rfl⟩ := (h.only_eq_ok row v).1 hv
  show v'.groups = []
  exact groups_of_row hrow inner hv'

/-- The same, for a row that leaves no groups: it fits a template, with its arguments. -/
theorem only_eq_ok_of_groups (row : List Operand) (text : String) (group : List Value) :
    (s.only row).write {} = .ok () ⟨text, group, []⟩ ↔
      ∃ template, text = s.beforeRows ++ template ++ ")" ∧
        WritesRow s.insertColumns.length template (rowRendering row) ⟨template, group, []⟩ := by
  unfold WritesRow
  rw [h.only_eq_ok, length_rowRendering]
  constructor
  · rintro ⟨fits, v, written, same⟩
    obtain ⟨text', args, groups⟩ := v
    cases same
    exact ⟨text', rfl, fits, written, rfl⟩
  · rintro ⟨template, rfl, fits, written, _⟩
    exact ⟨fits, _, written, rfl⟩

/-- A batch is written exactly if its rows fit one template. -/
theorem write_eq_ok_of_several (several : 2 ≤ s.rows.length) (w : Writer) :
    s.write {} = .ok () w ↔ ∃ template vs,
      List.Forall₂ (fun row v => WritesRow s.insertColumns.length template (rowRendering row) v)
        s.rows vs ∧ w = s.aroundRows ⟨template, [], rowGroups vs⟩ := by
  have appendOnly : ∀ r ∈ s.rows.map rowRendering, AppendOnly (Rendering.row r) :=
    appendOnly_operands s.rows
  obtain ⟨first, next, rest, hrows⟩ := exists_rows several
  have spec (v : Writer) :
      Rendering.rows s.insertColumns.length (s.rows.map rowRendering) {} = .ok () v ↔
        ∃ template vs, List.Forall₂
          (fun row v => WritesRow s.insertColumns.length template (rowRendering row) v)
          s.rows vs ∧ v = ⟨template, [], rowGroups vs⟩ := by
    simp only [← List.forall₂_map_left_iff (f := rowRendering)]
    -- the rows are at least two, which is where they are held against a template
    rw [hrows] at appendOnly ⊢
    have h := rows_eq_ok s.insertColumns.length appendOnly {} v
    simp only [Writer.empty_append] at h
    exact h
  rw [h.write_apply (by rw [hrows]; exact List.cons_ne_nil _ _)]
  -- the statement ends as its rows do
  cases written : Rendering.rows s.insertColumns.length (s.rows.map rowRendering) {} with
  | ok _ v =>
    constructor
    · intro hw
      cases hw
      obtain ⟨template, vs, fits, rfl⟩ := (spec v).1 written
      exact ⟨template, vs, fits, rfl⟩
    · rintro ⟨template, vs, fits, rfl⟩
      have same := (spec _).2 ⟨template, vs, fits, rfl⟩
      rw [written] at same
      cases same
      rfl
  | error e v =>
    constructor
    · intro hw
      cases hw
    · rintro ⟨template, vs, fits, rfl⟩
      have same := (spec _).2 ⟨template, vs, fits, rfl⟩
      rw [written] at same
      cases same

/-- A batch without batches inside is written exactly if its rows are, one by one, with the text of
the batch; its groups are the arguments of the rows. -/
theorem write_eq_ok (several : 2 ≤ s.rows.length) (inner : ∀ t ∈ s.rowParts, t.groupCount = 0)
    (w : Writer) :
    s.write {} = .ok () w ↔ w.args = [] ∧
      List.Forall₂ (fun row group => (s.only row).write {} = .ok () ⟨w.text, group, []⟩)
        s.rows w.groups := by
  rw [h.write_eq_ok_of_several several]
  constructor
  · rintro ⟨template, vs, fits, rfl⟩
    refine ⟨rfl, ?_⟩
    -- without groups from inside, a row leaves one group, its arguments
    have silent : ∀ row ∈ s.rows, ∀ v, Rendering.row (rowRendering row) {} = .ok () v →
        v.groups = [] :=
      fun row hrow v hv => groups_of_row hrow inner hv
    apply forall₂_rowGroups ((List.forall₂_and_left _ _).2 ⟨silent, fits⟩)
    rintro row ⟨text, group, groups⟩ ⟨noGroups, fits⟩
    obtain rfl : groups = [] := noGroups _ fits.2.1
    obtain rfl : text = template := fits.2.2
    exact ⟨rfl, (h.only_eq_ok_of_groups row _ group).2 ⟨text, rfl, fits⟩⟩
  · rintro ⟨noArgs, singles⟩
    -- all rows have the text of the batch around them, and so one template
    have common : ∃ template, w.text = s.beforeRows ++ template ++ ")" := by
      cases hrows : s.rows with
      | nil =>
        rw [hrows] at several
        cases several
      | cons first rest =>
        rw [hrows] at singles
        generalize w.groups = groups at singles
        cases singles with
        | cons single _ =>
          obtain ⟨template, text, _⟩ := (h.only_eq_ok_of_groups first w.text _).1 single
          exact ⟨template, text⟩
    obtain ⟨template, text⟩ := common
    have fits : List.Forall₂ (fun row group => WritesRow s.insertColumns.length template
        (rowRendering row) ⟨template, group, []⟩) s.rows w.groups := by
      apply singles.imp
      intro row group single
      obtain ⟨template', text', fits⟩ := (h.only_eq_ok_of_groups row w.text group).1 single
      have same : template' = template := by
        rw [text, String.append_left_inj, String.append_right_inj] at text'
        exact text'.symm
      rw [same] at fits
      exact fits
    refine ⟨template, w.groups.map fun group => ⟨template, group, []⟩, ?_, ?_⟩
    · rw [List.forall₂_map_right_iff]
      exact fits
    · apply Writer.eq_of_parts
      · exact text
      · exact noArgs
      · simp [Clauses.aroundRows, rowGroups, List.flatMap_map]

/-- Rows agree as statements exactly if they agree as parts of one. -/
theorem agrees_iff (first row : List Operand) :
    s.Agrees first row ↔
      Agree s.insertColumns.length (rowRendering first) (rowRendering row) := by
  unfold Agrees Agree Fits WritesRow
  simp only [writeTo_eq_ok, h.only_eq_ok, length_rowRendering]
  constructor
  · rintro ⟨_, _, ⟨fits, u, hu, rfl⟩, ⟨fits', v, hv, rfl⟩, same⟩
    have text : v.text = u.text := Clauses.text_aroundRows_inj.1 same
    exact ⟨u.text, ⟨u, fits, hu, rfl⟩, v, fits', hv, text⟩
  · rintro ⟨template, ⟨u, fits, hu, rfl⟩, v, fits', hv, text⟩
    exact ⟨_, _, ⟨fits, u, hu, rfl⟩, ⟨fits', v, hv, rfl⟩, Clauses.text_aroundRows_inj.2 text⟩

/-- A row is blamed for the same, as a statement of its own or as a part. -/
theorem blame_eq (index : Nat) (row : List Operand) :
    s.blame index row = Rendering.blame s.insertColumns.length index (rowRendering row) := by
  unfold Stmt.blame Rendering.blame
  rw [length_rowRendering, writeTo, h.only_apply]
  by_cases fits : row.length = s.insertColumns.length
  · rw [if_pos fits, if_pos fits, if_pos fits]
    cases Rendering.row (rowRendering row) {} with
    | ok _ v => rfl
    | error e v => rfl
  · rw [if_neg fits, if_neg fits]

/-- If a batch fails, it is because of the first row that does not agree with the first one. -/
theorem write_eq_error (several : 2 ≤ s.rows.length) {e : SqlError} {w : Writer}
    (failed : s.write {} = .error e w) :
    ∃ i, ∃ hi : i < s.rows.length, (∀ j, ∀ hj : j < i, s.Agrees s.rows[0] s.rows[j]) ∧
      ¬s.Agrees s.rows[0] s.rows[i] ∧ e = s.blame i s.rows[i] := by
  obtain ⟨first, next, rest, hrows⟩ := exists_rows several
  have appendOnly : ∀ r ∈ s.rows.map rowRendering, AppendOnly (Rendering.row r) :=
    appendOnly_operands s.rows
  -- nothing else is refused, so it is the rows that fail
  have rowsFailed : ∃ v,
      Rendering.rows s.insertColumns.length (s.rows.map rowRendering) {} = .error e v := by
    rw [h.write_apply (by rw [hrows]; exact List.cons_ne_nil _ _)] at failed
    cases written : Rendering.rows s.insertColumns.length (s.rows.map rowRendering) {} with
    | ok _ v =>
      rw [written] at failed
      cases failed
    | error e' v =>
      rw [written] at failed
      cases failed
      exact ⟨v, rfl⟩
  obtain ⟨v, rowsFailed⟩ := rowsFailed
  simp only [hrows, List.map_cons] at appendOnly rowsFailed ⊢
  obtain ⟨i, hi, before, misfit, blamed⟩ := rows_error _ appendOnly rowsFailed
  have inside : i < (first :: next :: rest).length := by simpa using hi
  have entry (j : Nat) (hj : j < (first :: next :: rest).length)
      (hj' : j < (List.map rowRendering (first :: next :: rest)).length) :
      rowRendering (first :: next :: rest)[j]
        = (List.map rowRendering (first :: next :: rest))[j] :=
    (List.getElem_map rowRendering).symm
  refine ⟨i, inside, ?_, ?_, ?_⟩
  · intro j hj
    rw [List.getElem_cons_zero, h.agrees_iff, entry j _ (Nat.lt_trans hj hi)]
    exact before j hj
  · rw [List.getElem_cons_zero, h.agrees_iff, entry i _ hi]
    exact misfit
  · rw [h.blame_eq, entry i _ hi]
    exact blamed

end InsertsRows

/-- An INSERT of several rows, none of which has an INSERT of several rows inside, is a batch of
INSERTs of its rows one by one.

It succeeds exactly if all of these do, with one text.  Then its text is theirs, it has no flat
arguments, and its groups are the arguments of the single INSERTs, in order.  If it fails, the first
row whose INSERT does not succeed with the text of the first is to blame. -/
theorem batch_refines_singles {s : Stmt} (inserts : s.InsertsRows) (several : 2 ≤ s.rows.length)
    (inner : ∀ t ∈ s.rowParts, t.SingleRows) :
    ((∃ w, s.writeTo {} = (.ok (), w)) ↔
      ∃ text, ∀ row ∈ s.rows, ∃ v, (s.only row).writeTo {} = (.ok (), v) ∧ v.text = text) ∧
    (∀ w, s.writeTo {} = (.ok (), w) → w.args = [] ∧
      List.Forall₂ (fun row group => (s.only row).writeTo {} = (.ok (), ⟨w.text, group, []⟩))
        s.rows w.groups) ∧
    ∀ e w, s.writeTo {} = (.error e, w) →
      ∃ i, ∃ hi : i < s.rows.length, (∀ j, ∀ hj : j < i, s.Agrees s.rows[0] s.rows[j]) ∧
        ¬s.Agrees s.rows[0] s.rows[i] ∧ e = s.blame i s.rows[i] := by
  have noGroups : ∀ t ∈ s.rowParts, t.groupCount = 0 := by
    intro t ht
    exact groupCount_eq_zero (inner t ht).not_isBatch
  have written := inserts.write_eq_ok several noGroups
  simp only [writeTo_eq_ok, writeTo_eq_error]
  refine ⟨?_, ?_, ?_⟩
  · constructor
    · rintro ⟨w, hw⟩
      obtain ⟨_, singles⟩ := (written w).1 hw
      refine ⟨w.text, ?_⟩
      intro row hrow
      obtain ⟨group, single⟩ := exists_of_forall₂ singles hrow
      exact ⟨_, single, rfl⟩
    · rintro ⟨text, singles⟩
      -- the batch leaves the common text, and the arguments of the single INSERTs
      refine ⟨⟨text, [], s.rows.map fun row => ((s.only row).writeTo {}).2.args⟩, ?_⟩
      rw [written]
      refine ⟨rfl, ?_⟩
      rw [List.forall₂_map_right_iff, List.forall₂_same]
      intro row hrow
      obtain ⟨v, hv, rfl⟩ := singles row hrow
      have silent : v.groups = [] := inserts.groups_of_only hrow noGroups hv
      rw [writeTo_eq_ok.2 hv, hv]
      exact congrArg (EStateM.Result.ok ()) (Writer.eq_of_parts rfl rfl silent)
  · intro w hw
    exact (written w).1 hw
  · intro e w failed
    exact inserts.write_eq_error several failed

/-- An INSERT of two rows, each with a value and what a SELECT finds. -/
def twoRows : Stmt where
  kind := .insert
  target := "t"
  insertColumns := ["a", "b"]
  rows := [[.value (.int32 1), .stmt { kind := .select, sources := [.table "u" none],
                                       condition := .leaf ⟨"c = ??", [.int32 2]⟩ }],
           [.value (.int32 3), .stmt { kind := .select, sources := [.table "u" none],
                                       condition := .leaf ⟨"c = ??", [.int32 4]⟩ }]]

theorem twoRows_refines_singles :
    twoRows.InsertsRows ∧ 2 ≤ twoRows.rows.length ∧ (∀ t ∈ twoRows.rowParts, t.SingleRows) ∧
    List.Forall₂ (fun row group => (twoRows.only row).writeTo {} = (.ok (),
        ⟨"INSERT INTO t (a,b) VALUES (??,(SELECT * FROM u WHERE c = ??))", group, []⟩))
      twoRows.rows [[.int32 1, .int32 2], [.int32 3, .int32 4]] := by
  have inserts : twoRows.InsertsRows := by
    constructor
    · exact ⟨rfl, rfl⟩
    · rfl
    · decide
    · decide
  have inner : ∀ t ∈ twoRows.rowParts, t.SingleRows := by
    intro t ht
    have plain : t.within = [t] ∧ t.kind = .select := by
      simp [rowParts, twoRows, List.filterMap_cons, Operand.stmt?] at ht
      rcases ht with rfl | rfl <;>
        simp [within_eq, parts, sourceParts, rowParts, assignmentParts, List.filterMap_cons,
          Source.stmt?]
    intro u hu isInsert
    rw [plain.1, List.mem_singleton] at hu
    rw [hu, plain.2] at isInsert
    cases isInsert
  have several : 2 ≤ twoRows.rows.length := by decide
  have written : twoRows.writeTo {} = (.ok (),
      ⟨"INSERT INTO t (a,b) VALUES (??,(SELECT * FROM u WHERE c = ??))", [],
        [[.int32 1, .int32 2], [.int32 3, .int32 4]]⟩) := by
    rfl
  exact ⟨inserts, several, inner, ((batch_refines_singles inserts several inner).2.1 _ written).2⟩

end Stmt

end SqlCompose
