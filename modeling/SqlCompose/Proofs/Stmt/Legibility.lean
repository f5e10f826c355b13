import SqlCompose.Proofs.Stmt.Pieces

/-! # Aligned statements are legible

What stands next to each other in a statement is always divided by a character that is no question
mark: a parenthesis, a comma, or the space of a keyword.  So no seam makes or moves a marker,
whatever question marks the texts of the statement start or end with.

Main statement: the pieces of an aligned statement are legible and may stand behind anything
(`Stmt.detached_pieces`).
-/

namespace SqlCompose

/-- Legible pieces that may stand behind any others. -/
structure Detached (ps : List Piece) : Prop where
  legible : Legible ps
  start : PlainStart ps

theorem Detached.nil : Detached [] :=
  ⟨legible_nil, plainStart_nil⟩

/-- Detached pieces may stand behind legible ones, whatever these end with. -/
theorem Legible.append_detached {ps qs : List Piece} (hp : Legible ps) (hq : Detached qs) :
    Legible (ps ++ qs) :=
  hp.append hq.legible (.inr hq.start)

theorem Detached.append {ps qs : List Piece} (hp : Detached ps) (hq : Detached qs) :
    Detached (ps ++ qs) :=
  ⟨hp.legible.append_detached hq, hp.start.append hq.start⟩

/-- A word that keeps apart what stands on its two sides: there is something in it, but no question
mark. -/
structure Divides (word : String) : Prop where
  nonempty : word ≠ ""
  unmarked : '?' ∉ word.toList

instance (word : String) : Decidable (Divides word) :=
  decidable_of_iff (word ≠ "" ∧ '?' ∉ word.toList)
    ⟨fun ⟨nonempty, unmarked⟩ => ⟨nonempty, unmarked⟩, fun h => ⟨h.nonempty, h.unmarked⟩⟩

/-- A word that divides has a first letter. -/
theorem Divides.chars_ne_nil {word : String} (h : Divides word) : chars word ≠ [] := by
  intro none
  have empty : word = textOf [] := by rw [← none, textOf_chars]
  exact h.nonempty empty

/-- A text without question marks may stand behind anything. -/
theorem detached_plain {text : String} (plain : '?' ∉ text.toList) : Detached (chars text) :=
  ⟨(plain_chars plain).1, (plain_chars plain).2.1⟩

theorem Divides.detached {word : String} (h : Divides word) : Detached (chars word) :=
  detached_plain h.unmarked

/-- Anything legible may stand behind a word that divides. -/
theorem Legible.behind {word : String} {ps : List Piece} (hp : Legible ps) (h : Divides word) :
    Detached (chars word ++ ps) := by
  obtain ⟨legible, start, last⟩ := plain_chars h.unmarked
  refine ⟨legible.append hp (.inl last), ?_⟩
  -- the word is not empty, so what comes first is its first letter
  cases hword : chars word with
  | nil => exact absurd hword h.chars_ne_nil
  | cons p rest =>
    rw [hword] at start
    exact start

/-- No marker is made or lost where a word that divides stands between two texts. -/
theorem markerCount_divided {word : String} (h : Divides word) (before after : String) :
    markerCount (before ++ word ++ after) = markerCount before + markerCount after := by
  -- any values will do: they only make the markers visible as pieces
  have enough (text : String) : ∃ values : List Value, markerCount text = values.length :=
    ⟨List.replicate (markerCount text) .null, by rw [List.length_replicate]⟩
  obtain ⟨first, hfirst⟩ := enough before
  obtain ⟨second, hsecond⟩ := enough after
  have legible : Legible (fill before first ++ (chars word ++ fill after second)) :=
    (legible_fill hfirst).append_detached ((legible_fill hsecond).behind h)
  have counted := markerCount_textOf legible
  rw [textOf_append, textOf_append, textOf_chars, textOf_fill hfirst, textOf_fill hsecond,
    valuesOf_append, valuesOf_append, valuesOf_chars, valuesOf_fill hfirst,
    valuesOf_fill hsecond, List.nil_append, List.length_append, ← hfirst, ← hsecond] at counted
  rw [String.append_assoc]
  exact counted

/-- A suffix without question marks makes no marker. -/
theorem markerCount_suffix {suffix : String} (plain : '?' ∉ suffix.toList) (text : String) :
    markerCount (text ++ suffix) = markerCount text := by
  by_cases empty : suffix = ""
  · rw [empty, String.append_empty]
  · have counted := markerCount_divided ⟨empty, plain⟩ text ""
    rw [String.append_empty] at counted
    exact counted

/-- Legible lists with commas between them. -/
theorem legible_commaSeparated {pss : List (List Piece)} (h : ∀ ps ∈ pss, Legible ps) :
    Legible (commaSeparated pss) := by
  induction pss with
  | nil => exact legible_nil
  | cons ps rest ih =>
    have first : Legible ps := h ps List.mem_cons_self
    have others : Legible (commaSeparated rest) := by
      apply ih
      intro qs hqs
      exact h qs (List.mem_cons_of_mem _ hqs)
    -- a comma stands in front of every list but the first
    cases rest with
    | nil =>
      rw [commaSeparated, List.intercalate_singleton]
      exact first
    | cons qs rest =>
      rw [commaSeparated, List.intercalate_cons_cons, List.append_assoc]
      exact first.append_detached (others.behind (by decide))

/-- A list of texts with commas between them, letter by letter. -/
theorem chars_intercalate (items : List String) :
    chars (",".intercalate items) = commaSeparated (items.map chars) := by
  induction items with
  | nil => rfl
  | cons item rest ih =>
    -- a comma stands in front of every text but the first
    cases rest with
    | nil =>
      rw [String.intercalate_singleton, List.map_singleton, commaSeparated,
        List.intercalate_singleton]
    | cons next rest =>
      rw [String.intercalate_cons_cons, chars_append, chars_append, ih]
      simp only [commaSeparated, List.map_cons, List.intercalate_cons_cons]

/-- Texts without markers, with commas between them. -/
theorem legible_list {items : List String} (free : ∀ item ∈ items, markerCount item = 0) :
    Legible (chars (",".intercalate items)) := by
  rw [chars_intercalate]
  apply legible_commaSeparated
  intro ps hps
  obtain ⟨item, hitem, rfl⟩ := List.mem_map.1 hps
  exact legible_chars (free item hitem)

/-- A number has no question mark. -/
theorem question_not_mem_toString (n : Int) : '?' ∉ (toString n).toList := by
  have noDigit (m : Nat) : '?' ∉ (toString m).toList := by
    intro h
    rw [Nat.toString_eq_ofList_toDigits, String.toList_ofList] at h
    -- a character of a number is a digit, and a question mark is none
    have digit := Nat.isDigit_of_mem_toDigits (by decide) (by decide) h
    revert digit
    decide
  cases n with
  | ofNat m => exact noDigit m
  | negSucc m =>
    show '?' ∉ ("-" ++ toString (m + 1)).toList
    rw [String.toList_append, List.mem_append]
    -- of a negative number the sign is looked at too
    rintro (sign | h)
    · revert sign
      decide
    · exact noDigit (m + 1) h

/-! ## Conditions -/

/-- Detached pieces that anything may stand behind. -/
structure Sealed (ps : List Piece) : Prop extends Detached ps where
  finish : PlainEnd ps

theorem Sealed.nil : Sealed [] :=
  ⟨.nil, plainEnd_nil⟩

theorem Sealed.append {ps qs : List Piece} (hp : Sealed ps) (hq : Sealed qs) :
    Sealed (ps ++ qs) :=
  ⟨hp.toDetached.append hq.toDetached, hp.finish.append hq.finish⟩

/-- A word that divides ends with a letter that begins no marker. -/
theorem Divides.sealed {word : String} (h : Divides word) : Sealed (chars word) :=
  ⟨h.detached, (plain_chars h.unmarked).2.2⟩

/-- Anything legible between words that divide. -/
theorem Legible.between {before after : String} {ps : List Piece} (hp : Legible ps)
    (hbefore : Divides before) (hafter : Divides after) :
    Sealed (chars before ++ (ps ++ chars after)) := by
  have whole : Legible (ps ++ chars after) := hp.append_detached hafter.detached
  refine ⟨whole.behind hbefore, ?_⟩
  intro p hlast
  -- the last piece is the last letter of the second word
  have last : p ∈ (chars after).getLast? := by
    rw [List.getLast?_append, List.getLast?_append] at hlast
    cases h : (chars after).getLast? with
    | some q => simpa [h] using hlast
    | none => exact absurd (List.getLast?_eq_none_iff.1 h) hafter.chars_ne_nil
  exact hafter.sealed.finish p last

/-- A fragment with a value for each marker is legible, since its markers are found from the
left. -/
theorem Expr.Balanced.legible {e : Expr} (h : e.Balanced) : Legible e.pieces :=
  legible_fill h

namespace Cond

/-- In parentheses anything legible is sealed. -/
theorem sealed_inParens {ts : List Token} (h : Legible (ts.flatMap Token.pieces)) :
    Sealed ((inParens true ts).flatMap Token.pieces) := by
  have shape : (inParens true ts).flatMap Token.pieces
      = chars "(" ++ (ts.flatMap Token.pieces ++ chars ")") := by
    simp [inParens, Token.pieces, Token.text]
  rw [shape]
  exact h.between (by decide) (by decide)

/-- The words between conditions divide them. -/
theorem sealed_separator (op : Connective) : Sealed (chars op.separator) := by
  apply Divides.sealed
  cases op with
  | and => decide
  | or => decide

mutual
/-- A child of a list is sealed: a fragment stands in parentheses, and a list without them starts
and ends with a child that is sealed. -/
theorem sealed_child (op : Connective) : (c : Cond) → (k : Nat) →
    (∀ e ∈ c.leaves, e.Balanced) →
    Sealed ((inParens (c.needsParens op) (c.tokens k)).flatMap Token.pieces)
  | empty, k, _ => by
    exact Sealed.nil
  | leaf e, k, balanced => by
    apply sealed_inParens
    have fragment : Legible e.pieces := (balanced e (List.mem_singleton.2 rfl)).legible
    rw [tokens, List.flatMap_singleton]
    exact fragment
  | list childOp children, k, balanced => by
    have inside : Sealed ((childrenTokens childOp k children).flatMap Token.pieces) :=
      sealed_children childOp children k balanced
    rw [tokens]
    cases (list childOp children).needsParens op with
    | true => exact sealed_inParens inside.legible
    | false => exact inside
/-- The children of a list are sealed together. -/
theorem sealed_children (op : Connective) : (children : List Cond) → (k : Nat) →
    (∀ e ∈ childrenLeaves children, e.Balanced) →
    Sealed ((childrenTokens op k children).flatMap Token.pieces)
  | [], k, _ => by
    exact Sealed.nil
  | [c], k, balanced => by
    rw [childrenTokens]
    apply sealed_child op c k
    intro e he
    apply balanced e
    rw [childrenLeaves]
    exact List.mem_append_left _ he
  | c :: d :: rest, k, balanced => by
    rw [childrenLeaves] at balanced
    -- a child ends with a plain character, so the word behind it may start with any
    have first : Sealed ((inParens (c.needsParens op) (c.tokens k)).flatMap Token.pieces) :=
      sealed_child op c k fun e he => balanced e (List.mem_append_left _ he)
    have others : Sealed ((childrenTokens op (k + c.leaves.length) (d :: rest)).flatMap
        Token.pieces) :=
      sealed_children op (d :: rest) _ fun e he => balanced e (List.mem_append_right _ he)
    rw [childrenTokens, List.flatMap_append, List.flatMap_cons]
    · exact first.append ((sealed_separator op).append others)
    · exact List.cons_ne_nil d rest
end

/-- A condition with balanced leaves is legible. -/
theorem legible_pieces {c : Cond} (balanced : ∀ e ∈ c.leaves, e.Balanced) : Legible c.pieces := by
  cases c with
  | empty => exact legible_nil
  | leaf e =>
    have fragment : Legible e.pieces := (balanced e (List.mem_singleton.2 rfl)).legible
    rw [pieces, tokens, List.flatMap_singleton]
    exact fragment
  | list op children => exact (sealed_children op children 0 balanced).legible

end Cond

/-! ## Clauses -/

/-- A condition behind a keyword, or nothing at all. -/
theorem detached_clausePieces {keyword : String} {c : Cond}
    (balanced : ∀ e ∈ c.leaves, e.Balanced) (divides : Divides keyword) :
    Detached (clausePieces keyword c) := by
  unfold clausePieces
  split
  · exact (Cond.legible_pieces balanced).behind divides
  · exact .nil

/-- A text without markers behind a keyword, or nothing at all. -/
theorem detached_textClausePieces {keyword text : String} (free : markerCount text = 0)
    (divides : Divides keyword) : Detached (textClausePieces keyword text) := by
  unfold textClausePieces
  split
  · exact .nil
  · exact (legible_chars free).behind divides

/-- The word in front of an alias keeps it apart from the source. -/
theorem detached_aliasPieces {alias? : Option String}
    (free : ∀ name ∈ alias?.toList, markerCount name = 0) : Detached (aliasPieces alias?) := by
  cases alias? with
  | none => exact .nil
  | some name =>
    have name : Legible (chars name) := legible_chars (free name List.mem_cons_self)
    exact name.behind (by decide)

namespace Clauses

/-- Numbers have no question marks, so that the end of a SELECT may stand behind anything. -/
theorem detached_limitPieces (c : Clauses) : Detached c.limitPieces := by
  have number (n : Int64) : Detached (chars (toString n.toInt)) :=
    detached_plain (question_not_mem_toString n.toInt)
  have keyword {word : String} (plain : '?' ∉ word.toList) (n : Int64) :
      Detached (chars word ++ chars (toString n.toInt)) :=
    (detached_plain plain).append (number n)
  unfold limitPieces
  split
  · rw [← List.append_assoc]
    apply (keyword (by decide) c.limit).append
    split
    · exact keyword (by decide) c.offset
    · exact .nil
  · exact .nil

variable {c : Clauses} (h : c.Aligned)

include h

/-- The parentheses around columns keep them apart from what stands on either side. -/
theorem Aligned.columns {before after : String} {ps : List Piece} (legible : Legible ps)
    (hbefore : Divides (before ++ "(")) (hafter : Divides (")" ++ after)) :
    Detached (c.columnPieces before after ++ ps) := by
  have columns : Legible (chars (",".intercalate c.insertColumns)) :=
    legible_list h.insertColumns
  unfold columnPieces
  rw [List.append_assoc, List.append_assoc]
  -- outside in: the word in front, the columns, and the word behind them
  apply Legible.behind _ hbefore
  exact columns.append_detached (legible.behind hafter)

/-- The keywords of a SELECT keep its texts, its sources and its conditions apart. -/
theorem Aligned.select {sources : List (List Piece)} (legible : ∀ ps ∈ sources, Legible ps) :
    Detached (c.selectPieces sources) := by
  have columns : Legible (chars
      (if c.selectColumns.isEmpty then "*" else ",".intercalate c.selectColumns)) := by
    split
    · exact (plain_chars (by decide)).1
    · exact legible_list h.selectColumns
  -- each clause behind the sources starts with its keyword, if it is there
  have tail : Detached (clausePieces " WHERE " c.condition ++
      (textClausePieces " GROUP BY " c.grouping ++ (clausePieces " HAVING " c.having ++
      (textClausePieces " ORDER BY " c.ordering ++ c.limitPieces)))) := by
    apply (detached_clausePieces h.condition (by decide)).append
    apply (detached_textClausePieces h.grouping (by decide)).append
    apply (detached_clausePieces h.having (by decide)).append
    apply (detached_textClausePieces h.ordering (by decide)).append
    exact detached_limitPieces c
  unfold selectPieces
  apply Legible.behind _ (by decide)
  apply columns.append_detached
  apply Legible.behind _ (by decide)
  exact (legible_commaSeparated legible).append_detached tail

omit h in
/-- The first source is legible if all are. -/
theorem legible_headD {pss : List (List Piece)} (legible : ∀ ps ∈ pss, Legible ps) :
    Legible (pss.headD []) := by
  cases pss with
  | nil => exact legible_nil
  | cons ps rest => exact legible ps List.mem_cons_self

theorem Aligned.delete {sources : List (List Piece)} (legible : ∀ ps ∈ sources, Legible ps) :
    Detached (c.deletePieces sources) := by
  have table : Legible (sources.headD []) := legible_headD legible
  unfold deletePieces
  apply Legible.behind _ (by decide)
  exact table.append_detached (detached_clausePieces h.condition (by decide))

/-- Commas and keywords keep the assignments of an UPDATE apart. -/
theorem Aligned.update {sources assignments : List (List Piece)}
    (legible : ∀ ps ∈ sources, Legible ps) (assigned : ∀ ps ∈ assignments, Legible ps) :
    Detached (c.updatePieces sources assignments) := by
  have table : Legible (sources.headD []) := legible_headD legible
  have items : Legible (commaSeparated assignments) := legible_commaSeparated assigned
  unfold updatePieces
  apply Legible.behind _ (by decide)
  apply table.append_detached
  apply Legible.behind _ (by decide)
  exact items.append_detached (detached_clausePieces h.condition (by decide))

theorem Aligned.insertSelect {firstIsStmt : Bool} {sources : List (List Piece)}
    (legible : ∀ ps ∈ sources, Legible ps) :
    Detached (c.insertSelectPieces firstIsStmt sources) := by
  have selected : Legible
      (if firstIsStmt then sources.headD [] else c.selectPieces sources) := by
    split
    · exact legible_headD legible
    · exact (h.select legible).legible
  unfold insertSelectPieces
  apply Legible.behind _ (by decide)
  apply (legible_chars h.target).append_detached
  -- what is selected matters only as something legible; the split is on the columns
  generalize (if firstIsStmt then sources.headD [] else c.selectPieces sources) = ps at selected ⊢
  split
  · exact selected.behind (by decide)
  · exact h.columns selected (by decide) (by decide)

/-- The closing parenthesis keeps the last value of a row apart from whatever follows. -/
theorem Aligned.insertRow {rows : List (List (List Piece))}
    (legible : ∀ row ∈ rows, ∀ ps ∈ row, Legible ps) : Detached (c.insertRowPieces rows) := by
  have row : Legible (commaSeparated (rows.headD [])) := by
    cases rows with
    | nil => exact legible_nil
    | cons row rest => exact legible_commaSeparated (legible row List.mem_cons_self)
  have closed : Legible (commaSeparated (rows.headD []) ++ chars ")") :=
    row.append_detached (detached_plain (by decide))
  unfold insertRowPieces
  apply Legible.behind _ (by decide)
  exact (legible_chars h.target).append_detached (h.columns closed (by decide) (by decide))

/-- A statement whose clauses are aligned and whose parts are legible is detached. -/
theorem Aligned.pieces {firstIsStmt : Bool} {sources assignments : List (List Piece)}
    {rows : List (List (List Piece))} (legible : ∀ ps ∈ sources, Legible ps)
    (bound : ∀ row ∈ rows, ∀ ps ∈ row, Legible ps) (assigned : ∀ ps ∈ assignments, Legible ps) :
    Detached (c.pieces firstIsStmt sources rows assignments) := by
  unfold Clauses.pieces
  split
  · exact .nil
  · split
    · exact h.insertRow bound
    · exact h.insertSelect legible
  · exact h.delete legible
  · exact h.update legible assigned
  · exact h.select legible

end Clauses

/-! ## Statements -/

/-- A value by itself is legible, a fragment by its balance, and a sub-statement by its
parentheses. -/
theorem legible_operand {o : Operand} (aligned : o.Aligned)
    (part : ∀ t, o.stmt? = some t → Detached t.pieces) : Legible o.pieces := by
  cases o with
  | value v =>
    rw [Operand.pieces]
    exact .singleton _
  | expr e =>
    rw [Operand.pieces]
    exact (aligned e rfl).legible
  | stmt s =>
    rw [Operand.pieces]
    have inside : Legible s.pieces := (part s rfl).legible
    exact (inside.between (by decide) (by decide)).legible

/-- An alias is kept apart from what it names. -/
theorem legible_source {source : Source} (aligned : source.Aligned)
    (part : ∀ t, source.stmt? = some t → Detached t.pieces) : Legible source.pieces := by
  cases source with
  | table name alias? =>
    rw [Source.pieces]
    have table : Legible (chars name) := legible_chars (aligned name List.mem_cons_self)
    apply table.append_detached
    apply detached_aliasPieces
    intro x hx
    exact aligned x (List.mem_cons_of_mem _ hx)
  | stmt s alias? =>
    rw [Source.pieces]
    have inside : Legible s.pieces := (part s rfl).legible
    -- the parenthesis and the alias stand behind the sub-statement
    have closing : Detached (chars ")" ++ aliasPieces alias?) :=
      (detached_plain (by decide)).append (detached_aliasPieces aligned)
    exact ((inside.append_detached closing).behind (by decide)).legible

/-- The equals sign keeps a column and its operand apart. -/
theorem legible_assignment {a : Assignment} (column : markerCount a.column = 0)
    (operand : Legible a.operand.pieces) : Legible a.pieces := by
  obtain ⟨name, o⟩ := a
  rw [Assignment.pieces]
  exact (legible_chars column).append_detached
    (operand.behind (by decide))

namespace Stmt

/-- The pieces of an aligned statement are legible and may stand behind any others. -/
theorem detached_pieces {s : Stmt} (h : s.Aligned) : Detached s.pieces := by
  induction s using induction_on_parts with
  | step s ih =>
    -- every part is smaller and aligned like the whole
    have part {t : Stmt} (ht : t ∈ s.parts) : Detached t.pieces := ih t ht (h.part ht)
    rw [pieces_eq]
    apply h.own.clauses.pieces
    · intro ps hps
      obtain ⟨source, hsource, rfl⟩ := List.mem_map.1 hps
      apply legible_source (h.own.sources source hsource)
      intro t ht
      exact part (mem_parts_of_source hsource ht)
    · intro rowPieces hrowPieces ps hps
      obtain ⟨row, hrow, rfl⟩ := List.mem_map.1 hrowPieces
      obtain ⟨o, ho, rfl⟩ := List.mem_map.1 hps
      apply legible_operand (h.own.rows row hrow o ho)
      intro t ht
      exact part (mem_parts_of_row hrow ho ht)
    · intro ps hps
      obtain ⟨a, ha, rfl⟩ := List.mem_map.1 hps
      apply legible_assignment (h.own.columns a ha)
      apply legible_operand (h.own.operands a ha)
      intro t ht
      exact part (mem_parts_of_assignment ha ht)

end Stmt

end SqlCompose
