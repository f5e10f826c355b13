import Mathlib.Data.List.Forall2
import SqlCompose.Proofs.Stmt.Legibility
import SqlCompose.Proofs.Stmt.Steps

/-! # Markers and arguments

Text and arguments are gathered in two lists.  What an action writes is given by pieces, in which
both are one: the text with markers in place of the values, and the values (`Rendering.Writes`).
A statement in which no INSERT writes several rows writes its pieces, and these are legible if it
is aligned, so that the markers of its text are those of its values.

Main statements:

* `Stmt.writes_pieces`: an aligned statement without batches writes its pieces;
* `Stmt.markers_match_arguments`: the `k`-th marker of its text belongs to the `k`-th argument.
-/

namespace SqlCompose

/-- The writer that holds pieces: their text with markers, and their values. -/
def Writer.ofPieces (ps : List Piece) : Writer :=
  ⟨textOf ps, valuesOf ps, []⟩

@[simp] theorem Writer.ofPieces_nil : Writer.ofPieces [] = {} := rfl

theorem Writer.ofPieces_append (ps qs : List Piece) :
    Writer.ofPieces (ps ++ qs) = Writer.ofPieces ps ++ Writer.ofPieces qs := by
  apply eq_of_parts <;> simp [ofPieces]

namespace Rendering

/-- If the action succeeds, it has written the pieces. -/
def Writes (r : Rendering Unit) (ps : List Piece) : Prop :=
  ∀ w w', r w = .ok () w' → w' = w ++ Writer.ofPieces ps

/-- Two actions write the pieces of the one and then those of the other. -/
theorem Writes.bind {r next : Rendering Unit} {ps qs : List Piece} (hr : Writes r ps)
    (hnext : Writes next qs) : Writes (do r; next) (ps ++ qs) := by
  intro w w' h
  obtain ⟨_, v, hv, hw⟩ := bind_eq_ok.1 h
  rw [hnext v w' hw, hr w v hv, Writer.ofPieces_append, Writer.append_assoc]

theorem Writes.pure : Writes (pure ()) [] := by
  intro w w' h
  cases h
  rw [Writer.ofPieces_nil, Writer.append_empty]

/-- What never succeeds may be said to write anything. -/
theorem Writes.throw (e : SqlError) (ps : List Piece) : Writes (throw e) ps := by
  intro w w' h
  cases h

/-- Text is written letter by letter. -/
theorem writes_put (text : String) : Writes (put text) (chars text) := by
  intro w w' h
  cases h
  apply Writer.eq_of_parts <;> simp [Writer.put, Writer.ofPieces]

/-- Text and values that come apart from pieces. -/
theorem writes_fragment {text : String} {values : List Value} {ps : List Piece}
    (htext : textOf ps = text) (hvalues : valuesOf ps = values) :
    Writes (do put text; bindAll values) ps := by
  intro w w' h
  -- writing a fragment cannot fail, so the new writer is known
  cases h
  apply Writer.eq_of_parts <;> simp [Writer.put, Writer.bindAll, Writer.ofPieces, htext, hvalues]

/-- A step in front of others writes its pieces in front of theirs. -/
theorem Writes.inOrder_cons {r : Rendering Unit} {rs : List (Rendering Unit)}
    {ps qs : List Piece} (hr : Writes r ps) (hrest : Writes (inOrder rs) qs) :
    Writes (inOrder (r :: rs)) (ps ++ qs) := by
  cases rs with
  | nil =>
    -- the last step stands without a step behind it, and nothing has the pieces of nothing
    intro w w' h
    obtain rfl : w' = w ++ Writer.ofPieces ps := hr w w' h
    have rest : w ++ Writer.ofPieces ps = w ++ Writer.ofPieces ps ++ Writer.ofPieces qs :=
      hrest _ _ rfl
    rw [Writer.ofPieces_append, ← Writer.append_assoc]
    exact rest
  | cons next rest => exact hr.bind hrest

/-- Between actions the comma is a piece of its own. -/
theorem Writes.separated {rs : List (Rendering Unit)} {pss : List (List Piece)}
    (h : List.Forall₂ Writes rs pss) : Writes (separated "," rs) (commaSeparated pss) := by
  induction h with
  | nil => exact .pure
  | @cons r ps rs pss hr hrest ih =>
    -- no comma stands behind the last action
    cases hrest with
    | nil =>
      rw [commaSeparated, List.intercalate_singleton]
      exact hr
    | cons _ _ =>
      rw [commaSeparated, List.intercalate_cons_cons, List.append_assoc]
      exact hr.bind ((writes_put ",").bind ih)

theorem Writes.parenthesised {r : Rendering Unit} {ps : List Piece} (h : Writes r ps) :
    Writes (parenthesised r) (chars "(" ++ (ps ++ chars ")")) :=
  (writes_put "(").bind (h.bind (writes_put ")"))

/-! ## Conditions -/

/-- A balanced fragment comes apart into its text and its values, and so do tokens. -/
theorem ofPieces_tokens {ts : List Token}
    (balanced : ∀ leaf ∈ ts.filterMap Token.leaf?, leaf.1.Balanced) :
    Writer.ofPieces (ts.flatMap Token.pieces) = ⟨spell ts, ts.flatMap Token.args, []⟩ := by
  induction ts with
  | nil => rfl
  | cons t ts ih =>
    -- a fragment is filled with its values, and any other token is plain text
    have token : textOf t.pieces = t.text ∧ valuesOf t.pieces = t.args := by
      cases t with
      | operand k e =>
        have own : e.Balanced := balanced (e, k) (by simp [Token.leaf?])
        exact ⟨textOf_fill own, valuesOf_fill own⟩
      | _ => exact ⟨textOf_chars _, valuesOf_chars _⟩
    have others := ih fun leaf hleaf => balanced leaf (by
      rw [List.filterMap_cons]
      split
      · exact hleaf
      · exact List.mem_cons_of_mem _ hleaf)
    rw [List.flatMap_cons, Writer.ofPieces_append, others]
    apply Writer.eq_of_parts
    · simp [Writer.ofPieces, token.1, spell]
    · simp [Writer.ofPieces, token.2]
    · rfl

/-- A condition with balanced leaves writes its tokens, with the values where they belong. -/
theorem writes_cond {c : Cond} (balanced : ∀ e ∈ c.leaves, e.Balanced) :
    Writes (modify c.write) c.pieces := by
  -- the leaves of the tokens are those of the condition
  have tokens : Writer.ofPieces c.pieces
      = ⟨spell (c.tokens 0), (c.tokens 0).flatMap Token.args, []⟩ := by
    apply ofPieces_tokens
    intro leaf hleaf
    rw [Cond.leaves_tokens] at hleaf
    exact balanced leaf.1 (List.fst_mem_of_mem_zipIdx hleaf)
  intro w w' h
  have hw : w' = c.write w := by
    cases h
    rfl
  rw [hw, c.write_eq 0 w, tokens]
  apply Writer.eq_of_parts <;> simp [Writer.putTokens, Writer.put, Writer.bindAll]

/-- A condition is written behind its keyword, or both are left out. -/
theorem writes_clause {keyword : String} {c : Cond} (balanced : ∀ e ∈ c.leaves, e.Balanced) :
    Writes (clause keyword c) (clausePieces keyword c) := by
  unfold clause clausePieces
  split
  · exact (writes_put keyword).bind (writes_cond balanced)
  · exact .pure

/-- A text is written behind its keyword, or both are left out. -/
theorem writes_textClause (keyword text : String) :
    Writes (textClause keyword text) (textClausePieces keyword text) := by
  unfold textClause textClausePieces
  split
  · exact .pure
  · rw [← chars_append]
    exact writes_put _

theorem writes_aliasClause (alias? : Option String) :
    Writes (aliasClause alias?) (aliasPieces alias?) := by
  cases alias? with
  | none => exact .pure
  | some name =>
    rw [aliasPieces, ← chars_append]
    exact writes_put _

end Rendering

/-! ## The kinds of statements -/

namespace Clauses

open Rendering

theorem writes_writeColumns (c : Clauses) (before after : String) :
    Writes (c.writeColumns before after) (c.columnPieces before after) := by
  have text : chars (before ++ "(" ++ ",".intercalate c.insertColumns ++ ")" ++ after)
      = c.columnPieces before after := by
    simp [columnPieces, chars_append, String.append_assoc]
  rw [← text]
  exact writes_put _

/-- The limit and the offset are written as numbers, and bind nothing. -/
theorem writes_writeLimit (c : Clauses) : Writes c.writeLimit c.limitPieces := by
  unfold writeLimit limitPieces
  split
  · rw [← List.append_assoc, ← chars_append]
    apply (writes_put _).bind
    split
    · rw [← chars_append]
      exact writes_put _
    · exact .pure
  · exact .pure

variable {c : Clauses} (aligned : c.Aligned)

include aligned

/-- A SELECT writes the pieces of its clauses, in their order, around those of its sources. -/
theorem Aligned.writes_select {sources : List (Rendering Unit)} {pss : List (List Piece)}
    (h : List.Forall₂ Writes sources pss) :
    Writes (c.writeSelect sources) (c.selectPieces pss) := by
  rw [writeSelect_eq]
  split
  · exact .throw _ _
  · split
    · exact .throw _ _
    · -- the steps and the pieces are listed in the same order
      unfold selectSteps selectPieces
      apply (writes_put _).inOrder_cons
      apply (writes_put _).inOrder_cons
      apply (writes_put _).inOrder_cons
      apply (Writes.separated h).inOrder_cons
      apply (writes_clause aligned.condition).inOrder_cons
      apply (writes_textClause _ _).inOrder_cons
      apply (writes_clause aligned.having).inOrder_cons
      apply (writes_textClause _ _).inOrder_cons
      exact c.writes_writeLimit

/-- A DELETE writes the pieces of its first source and of its condition. -/
theorem Aligned.writes_delete {table : Rendering Unit} {ps : List Piece} (h : Writes table ps)
    (rest : List (Rendering Unit)) (others : List (List Piece)) :
    Writes (c.writeDelete (table :: rest)) (c.deletePieces (ps :: others)) := by
  rw [writeDelete_eq]
  unfold deletePieces
  apply (writes_put _).inOrder_cons
  apply h.inOrder_cons
  exact writes_clause aligned.condition

/-- An UPDATE writes what it assigns between its source and its condition. -/
theorem Aligned.writes_update {table : Rendering Unit} {ps : List Piece} (h : Writes table ps)
    (rest : List (Rendering Unit)) (others : List (List Piece))
    {assignments : List (Rendering Unit)} {pss : List (List Piece)}
    (assigned : List.Forall₂ Writes assignments pss) :
    Writes (c.writeUpdate (table :: rest) assignments) (c.updatePieces (ps :: others) pss) := by
  rw [writeUpdate_eq]
  unfold updatePieces
  dsimp only
  split
  · exact .throw _ _
  · apply (writes_put _).inOrder_cons
    apply h.inOrder_cons
    apply (writes_put _).inOrder_cons
    apply (Writes.separated assigned).inOrder_cons
    exact writes_clause aligned.condition

omit aligned in
/-- Without columns an INSERT has a blank where they would stand. -/
theorem writes_insertColumns (c : Clauses) :
    Writes (if c.insertColumns.isEmpty then put " " else c.writeColumns " " " ")
      (if c.insertColumns.isEmpty then chars " " else c.columnPieces " " " ") := by
  split
  · exact writes_put " "
  · exact c.writes_writeColumns _ _

omit aligned in
/-- Every INSERT starts with its table. -/
theorem writes_target (c : Clauses) {rs : List (Rendering Unit)} {ps : List Piece}
    (h : Writes (inOrder rs) ps) :
    Writes (inOrder (put ("INSERT INTO " ++ c.target) :: rs))
      (chars "INSERT INTO " ++ (chars c.target ++ ps)) := by
  rw [← List.append_assoc, ← chars_append]
  exact (writes_put _).inOrder_cons h

omit aligned in
/-- An INSERT of what the sub-statement that is its first source selects. -/
theorem writes_insertStmt (c : Clauses) {first : Rendering Unit} {ps : List Piece}
    (h : Writes first ps) (rest : List (Rendering Unit)) (others : List (List Piece)) :
    Writes (c.writeInsertSelect true (first :: rest))
      (c.insertSelectPieces true (ps :: others)) := by
  rw [writeInsertSelect_eq]
  unfold insertSelectSteps insertSelectPieces
  apply c.writes_target
  apply c.writes_insertColumns.inOrder_cons
  exact h

/-- An INSERT of what a SELECT with its own clauses finds. -/
theorem Aligned.writes_insertSelect {sources : List (Rendering Unit)} {pss : List (List Piece)}
    (h : List.Forall₂ Writes sources pss) :
    Writes (c.writeInsertSelect false sources) (c.insertSelectPieces false pss) := by
  rw [writeInsertSelect_eq]
  unfold insertSelectSteps insertSelectPieces
  apply c.writes_target
  apply c.writes_insertColumns.inOrder_cons
  exact aligned.writes_select h

omit aligned in
/-- An INSERT of one row. -/
theorem writes_insertRow (c : Clauses) {values : List (Rendering Unit)} {pss : List (List Piece)}
    (h : List.Forall₂ Writes values pss) :
    Writes (inOrder (c.insertRowSteps [values])) (c.insertRowPieces [pss]) := by
  -- a check of the length writes nothing
  have checked : Writes (checkLength c.insertColumns.length 0 values) [] := by
    unfold checkLength
    split
    · exact .pure
    · exact .throw _ _
  have row : Writes (rows c.insertColumns.length [values]) (commaSeparated pss) :=
    checked.bind (Writes.separated h)
  unfold insertRowSteps insertRowPieces
  apply c.writes_target
  apply (c.writes_writeColumns _ _).inOrder_cons
  apply row.inOrder_cons
  exact writes_put ")"

end Clauses

/-! ## Statements -/

open Rendering

/-- An operand writes itself: a marker for a value, the pieces of a fragment, or a sub-statement in
parentheses. -/
theorem writes_operand {o : Operand} (aligned : o.Aligned)
    (part : ∀ t, o.stmt? = some t → Writes t.write t.pieces) : Writes o.write o.pieces := by
  cases o with
  | value v =>
    rw [Operand.write, Operand.pieces]
    exact writes_fragment (textOf_value v) (valuesOf_value v)
  | expr e =>
    rw [Operand.write, Operand.pieces]
    have balanced : e.Balanced := aligned e rfl
    exact writes_fragment (textOf_fill balanced) (valuesOf_fill balanced)
  | stmt s =>
    rw [Operand.write, Operand.pieces]
    exact (part s rfl).parenthesised

/-- A source writes itself, with its alias behind it. -/
theorem writes_source {source : Source}
    (part : ∀ t, source.stmt? = some t → Writes t.write t.pieces) :
    Writes source.write source.pieces := by
  cases source with
  | table name alias? =>
    rw [Source.write, Source.pieces]
    exact (writes_put name).bind (writes_aliasClause alias?)
  | stmt s alias? =>
    have shape : (Source.stmt s alias?).pieces
        = chars "(" ++ (s.pieces ++ chars ")") ++ aliasPieces alias? := by
      simp [Source.pieces]
    rw [Source.write, shape]
    exact (part s rfl).parenthesised.bind (writes_aliasClause alias?)

/-- An assignment writes its column, an equals sign and its operand. -/
theorem writes_assignment {a : Assignment} (operand : Writes a.operand.write a.operand.pieces) :
    Writes a.write a.pieces := by
  obtain ⟨column, o⟩ := a
  rw [Assignment.write, Assignment.pieces, ← List.append_assoc, ← chars_append]
  exact (writes_put _).bind operand

namespace Stmt

section

variable {s : Stmt} (own : s.OwnAligned)

/-- The sources write their pieces one by one. -/
theorem writes_sources (part : ∀ t ∈ s.sourceParts, Writes t.write t.pieces) :
    List.Forall₂ Writes (s.sources.map Source.write) (s.sources.map Source.pieces) := by
  rw [List.forall₂_map_left_iff, List.forall₂_map_right_iff, List.forall₂_same]
  intro source hsource
  apply writes_source
  intro t ht
  exact part t (List.mem_filterMap.2 ⟨source, hsource, ht⟩)

theorem writes_table {source : Source} {rest : List Source} (hsources : s.sources = source :: rest)
    (part : ∀ t ∈ s.tableParts, Writes t.write t.pieces) :
    Writes source.write source.pieces := by
  apply writes_source
  intro t ht
  apply part t
  rw [tableParts, hsources]
  exact List.mem_filterMap.2 ⟨source, List.mem_cons_self, ht⟩

include own

/-- The operands in a row write their pieces one by one. -/
theorem OwnAligned.writes_row {row : List Operand} (hrow : row ∈ s.rows)
    (part : ∀ t ∈ s.rowParts, Writes t.write t.pieces) :
    List.Forall₂ Writes (row.map Operand.write) (row.map Operand.pieces) := by
  rw [List.forall₂_map_left_iff, List.forall₂_map_right_iff, List.forall₂_same]
  intro o ho
  apply writes_operand (own.rows row hrow o ho)
  intro t ht
  exact part t (mem_rowParts hrow ho ht)

/-- The assignments write their pieces one by one. -/
theorem OwnAligned.writes_assignments
    (part : ∀ t ∈ s.assignmentParts, Writes t.write t.pieces) :
    List.Forall₂ Writes (s.assignments.map Assignment.write)
      (s.assignments.map Assignment.pieces) := by
  rw [List.forall₂_map_left_iff, List.forall₂_map_right_iff, List.forall₂_same]
  intro a ha
  apply writes_assignment
  apply writes_operand (own.operands a ha)
  intro t ht
  exact part t (List.mem_filterMap.2 ⟨a, ha, ht⟩)

/-- An INSERT that is no batch, from its parts. -/
theorem OwnAligned.writes_insert (isInsert : s.kind = .insert) (single : ¬s.IsBatch)
    (part : ∀ t ∈ s.writtenParts, Writes t.write t.pieces) :
    Writes (s.toClauses.writeInsert (firstIsStmt s.sources) (s.sources.map Source.write)
        (s.rows.map fun row => row.map Operand.write))
      (if (s.sources.map Source.pieces).isEmpty
        then s.toClauses.insertRowPieces (s.rows.map fun row => row.map Operand.pieces)
        else s.toClauses.insertSelectPieces (firstIsStmt s.sources)
          (s.sources.map Source.pieces)) := by
  rw [writtenParts_insert isInsert] at part
  rw [Clauses.writeInsert_eq]
  split
  · exact .throw _ _
  · cases hsources : s.sources with
    | nil =>
      rw [hsources] at part
      simp only [List.map_nil, List.isEmpty_nil, Bool.not_true, Bool.false_eq_true, if_false,
        if_true]
      split
      · exact .throw _ _
      · -- there is at most one row, because the statement is no batch
        have few : s.rows.length < 2 := by
          by_contra several
          exact single ⟨⟨isInsert, hsources⟩, by omega⟩
        cases hrows : s.rows with
        | nil => exact .throw _ _
        | cons row rest =>
          cases rest with
          | nil =>
            have hrow : row ∈ s.rows := by
              rw [hrows]
              exact List.mem_cons_self
            exact s.toClauses.writes_insertRow (own.writes_row hrow part)
          | cons next rest =>
            rw [hrows, List.length_cons, List.length_cons] at few
            omega
    | cons source rest =>
      -- a sub-statement in front is written alone; other sources make a SELECT
      cases isStmt : firstIsStmt s.sources with
      | true =>
        rw [isStmt, hsources] at part
        rw [hsources] at isStmt
        rw [isStmt]
        exact s.toClauses.writes_insertStmt (writes_table hsources part) (rest.map Source.write) _
      | false =>
        rw [isStmt, hsources] at part
        have sources := writes_sources part
        rw [hsources] at isStmt sources
        rw [isStmt]
        exact own.clauses.writes_insertSelect sources

end

/-- An aligned statement in which no INSERT that is written has several rows writes its pieces. -/
theorem writes_pieces {s : Stmt} (aligned : s.Aligned) (single : ∀ t ∈ s.written, ¬t.IsBatch) :
    Writes s.write s.pieces := by
  induction s using induction_on_parts with
  | step s ih =>
    -- the parts are smaller, and they are aligned and without batches like the whole
    have part : ∀ t ∈ s.writtenParts, Writes t.write t.pieces := by
      intro t ht
      have isPart : t ∈ s.parts := writtenParts_subset_parts s t ht
      apply ih t isPart (aligned.part isPart)
      intro u hu
      exact single u (mem_written_of_part ht hu)
    -- kind by kind, as `part` speaks of the parts that the kind writes
    rw [write_eq, pieces_eq]
    unfold Clauses.write Clauses.pieces
    cases s.refusal with
    | some cause => exact .throw _ _
    | none =>
      dsimp only
      cases hkind : s.kind with
      | raw => exact .throw _ _
      | insert => exact aligned.own.writes_insert hkind (single s (mem_written_self s)) part
      | delete =>
        rw [writtenParts_delete hkind] at part
        cases hsources : s.sources with
        | nil => exact .throw _ _
        | cons source rest =>
          exact aligned.own.clauses.writes_delete (writes_table hsources part) _ _
      | update =>
        rw [writtenParts_update hkind, List.forall_mem_append] at part
        obtain ⟨table, assigned⟩ := part
        cases hsources : s.sources with
        | nil => exact .throw _ _
        | cons source rest =>
          exact aligned.own.clauses.writes_update (writes_table hsources table) _ _
            (aligned.own.writes_assignments assigned)
      | select =>
        rw [writtenParts_select hkind] at part
        exact aligned.own.clauses.writes_select (writes_sources part)

/-- An aligned statement without batches, written by itself, leaves its pieces. -/
theorem eq_ofPieces {s : Stmt} {w : Writer} (aligned : s.Aligned)
    (single : ∀ t ∈ s.written, ¬t.IsBatch) (written : s.write {} = .ok () w) :
    w = Writer.ofPieces s.pieces := by
  have h := writes_pieces aligned single {} w written
  rw [Writer.empty_append] at h
  exact h

/-- An aligned statement without batches has a marker for each argument. -/
theorem markerCount_eq {s : Stmt} {w : Writer} (aligned : s.Aligned)
    (single : ∀ t ∈ s.written, ¬t.IsBatch) (written : s.write {} = .ok () w) :
    markerCount w.text = w.args.length := by
  rw [eq_ofPieces aligned single written]
  exact markerCount_textOf (detached_pieces aligned).legible

/-- An aligned statement in which no INSERT has several rows, written by itself, has a marker for
each argument and no groups, and with the `k`-th argument in place of the `k`-th marker it says what
the statement says with every value where it was supplied. -/
theorem markers_match_arguments {s : Stmt} {w : Writer} (aligned : s.Aligned)
    (single : s.SingleRows) (written : s.writeTo {} = (.ok (), w)) :
    markerCount w.text = w.args.length ∧ w.groups = [] ∧ fill w.text w.args = s.pieces := by
  have success : s.write {} = .ok () w := writeTo_eq_ok.1 written
  have count : markerCount w.text = w.args.length :=
    markerCount_eq aligned single.not_isBatch success
  obtain rfl : w = Writer.ofPieces s.pieces := eq_ofPieces aligned single.not_isBatch success
  exact ⟨count, rfl, fill_textOf (detached_pieces aligned).legible⟩

/-- An UPDATE with question marks at the seams. -/
def questionable : Stmt where
  kind := .update
  condition := .leaf ⟨"? < ??", [.int32 3]⟩
  sources := [.table "t?" none]
  assignments := [⟨"a?", .expr ⟨"?b + ?? - c?", [.int32 1]⟩⟩,
    ⟨"?d", .stmt { kind := .select, sources := [.table "u" (some "?v")],
                   condition := .leaf ⟨"e? = ??", [.int32 2]⟩ }⟩]

/-- Question marks of the texts stand beside markers and other question marks, and no marker is
taken for another. -/
theorem questionable_markers_match :
    questionable.Aligned ∧ questionable.SingleRows ∧
    questionable.writeTo {} = (.ok (), ⟨
      "UPDATE t? SET a? = ?b + ?? - c?,?d = (SELECT * FROM u AS ?v WHERE e? = ??) WHERE ? < ??",
      [.int32 1, .int32 2, .int32 3], []⟩) ∧
    fill "UPDATE t? SET a? = ?b + ?? - c?,?d = (SELECT * FROM u AS ?v WHERE e? = ??) WHERE ? < ??"
      [.int32 1, .int32 2, .int32 3] = questionable.pieces := by
  -- the sub-statement that is assigned is all that stands inside
  have within : questionable.within = [questionable, questionable.parts.head!] := by
    simp [within_eq, parts, sourceParts, rowParts, assignmentParts, questionable,
      List.filterMap_cons, Source.stmt?, Operand.stmt?]
  have aligned : questionable.Aligned := by
    rw [Aligned, within]
    decide +kernel
  have single : questionable.SingleRows := by
    rw [SingleRows, within]
    decide +kernel
  have written : questionable.writeTo {} = (.ok (), ⟨
      "UPDATE t? SET a? = ?b + ?? - c?,?d = (SELECT * FROM u AS ?v WHERE e? = ??) WHERE ? < ??",
      [.int32 1, .int32 2, .int32 3], []⟩) := by
    rfl
  exact ⟨aligned, single, written, (markers_match_arguments aligned single written).2.2⟩

end Stmt

end SqlCompose
