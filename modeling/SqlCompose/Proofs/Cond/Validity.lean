import SqlCompose.Proofs.Cond.Reading

/-! # What is valid, and what is written

Whether a condition is valid is told from its kind alone: the empty condition and a fragment without
text are not, lists are.  That is right for the conditions that the operations make, because nothing
invalid gets into a list.  So an invalid node can only be the root, and a list has words to write.

A fragment without text is taken over with its values.  As a part of other conditions it is dropped,
but by itself it still binds them, without any text they could belong to.

Main statements:

* `Proper.wellShaped`: what a proper condition is made of, node by node;
* `showsValidity_iff`: a composed condition writes text exactly if it is valid, and an invalid one
  binds nothing exactly if it is not a fragment with values.
-/

namespace SqlCompose

theorem spell_append (ts us : List Token) : spell (ts ++ us) = spell ts ++ spell us := by
  simp [spell]

theorem spell_cons (t : Token) (ts : List Token) : spell (t :: ts) = t.text ++ spell ts := by
  simp [spell]

/-- Both connectives are written with a word. -/
theorem Connective.separator_ne_empty (op : Connective) : op.separator ≠ "" := by
  cases op with
  | and => decide
  | or => decide

namespace Cond

/-! ## Nodes -/

/-- A condition stands somewhere in another one: it is that one, or stands in one of its
children. -/
inductive Within : Cond → Cond → Prop
  | self (c : Cond) : Within c c
  | child {d c : Cond} {children : List Cond} (op : Connective) (member : c ∈ children)
      (h : Within d c) : Within d (.list op children)

/-- The conditions that are not valid: the empty one, and fragments without text. -/
theorem isValid_eq_false_iff {c : Cond} :
    c.isValid = false ↔ c = empty ∨ ∃ args, c = leaf ⟨"", args⟩ := by
  constructor
  · intro invalid
    rcases c with _ | ⟨sql, args⟩ | ⟨op, children⟩
    · exact .inl rfl
    · have noText : sql = "" := by
        simpa [isValid] using invalid
      exact .inr ⟨args, by rw [noText]⟩
    · cases invalid
  · rintro (rfl | ⟨args, rfl⟩)
    · rfl
    · rfl

/-- What a list in a condition must be like, and where something invalid may stand. -/
structure WellShaped (c : Cond) : Prop where
  /-- Every list has two children or more. -/
  several : ∀ op children, Within (list op children) c → 2 ≤ children.length
  /-- Every child has something to write. -/
  valid : ∀ op children, Within (list op children) c → ∀ d ∈ children, d.isValid = true
  /-- Nothing is invalid but the root, and that only as the empty condition or without text. -/
  invalid : ∀ d, Within d c →
    (d.isValid = false ↔ d = c ∧ (c = empty ∨ ∃ args, c = leaf ⟨"", args⟩))

/-- A proper list has two valid, proper children at least. -/
theorem Proper.list_inv {op : Connective} {children : List Cond} (h : Proper (.list op children)) :
    2 ≤ children.length ∧ ∀ c ∈ children, c.isValid = true ∧ Proper c := by
  cases h with
  | list _ _ several valid proper => exact ⟨several, fun c hc => ⟨valid c hc, proper c hc⟩⟩

/-- Every node of a proper condition is proper. -/
theorem Proper.within {c d : Cond} (h : Proper c) (node : Within d c) : Proper d := by
  induction node with
  | self => exact h
  | child op member _ ih => exact ih (h.list_inv.2 _ member).2

/-- Every node of a proper condition is valid, the root apart. -/
theorem Proper.eq_or_valid {c d : Cond} (h : Proper c) (node : Within d c) :
    d = c ∨ d.isValid = true := by
  induction node with
  | self => exact .inl rfl
  | child op member _ ih =>
    -- the child is valid as a child, even where the node is the child itself
    rcases h.list_inv.2 _ member with ⟨valid, proper⟩
    rcases ih proper with rfl | valid'
    · exact .inr valid
    · exact .inr valid'

/-- Proper conditions have the shape of composed ones, node by node. -/
theorem Proper.wellShaped {c : Cond} (h : Proper c) : WellShaped c := by
  constructor
  · intro op children node
    exact (h.within node).list_inv.1
  · intro op children node d hd
    exact ((h.within node).list_inv.2 d hd).1
  · intro d node
    constructor
    · intro invalid
      -- something invalid is the root, as every other node is valid
      rcases h.eq_or_valid node with rfl | valid
      · exact ⟨rfl, isValid_eq_false_iff.1 invalid⟩
      · rw [valid] at invalid
        cases invalid
    · rintro ⟨rfl, shape⟩
      exact isValid_eq_false_iff.2 shape

/-! ## Text -/

/-- Two children are written with a word between. -/
theorem spell_childrenTokens_ne_empty (op : Connective) (k : Nat) {children : List Cond}
    (several : 2 ≤ children.length) : spell (childrenTokens op k children) ≠ "" := by
  rcases children with _ | ⟨c, _ | ⟨d, rest⟩⟩
  · simp at several
  · simp at several
  · -- whatever the first child writes, the word behind it is there
    rw [childrenTokens, spell_append, spell_cons]
    · intro blank
      rw [String.append_eq_empty_iff, String.append_eq_empty_iff] at blank
      exact op.separator_ne_empty blank.2.1
    · exact List.cons_ne_nil d rest

/-- A proper condition has text exactly if it is valid. -/
theorem Proper.spell_tokens_eq_empty_iff {c : Cond} (h : Proper c) (k : Nat) :
    spell (c.tokens k) = "" ↔ c.isValid = false := by
  rcases c with _ | ⟨sql, args⟩ | ⟨op, children⟩
  · exact iff_of_true rfl rfl
  · rw [tokens, spell_cons]
    simp [spell, Token.text, isValid]
  · refine iff_of_false ?_ (by simp [isValid])
    rw [tokens]
    exact spell_childrenTokens_ne_empty op k h.list_inv.1

/-- By itself, a condition writes its tokens and binds the values of its leaves, whatever the writer
held. -/
theorem writeOver_eq (c : Cond) (w : Writer) :
    c.writeOver w = ⟨spell (c.tokens 0), c.leaves.flatMap Expr.args, []⟩ := by
  rw [writeOver, write_eq c 0]
  apply Writer.eq_of_parts
  · simp [Writer.putTokens, Writer.put, Writer.bindAll, Writer.reset]
  · rw [← args_tokens c 0]
    simp [Writer.putTokens, Writer.put, Writer.bindAll, Writer.reset]
  · rfl

/-- Written over anything, the condition leaves no text exactly if it is not valid, and then no
values either. -/
def ShowsValidity (c : Cond) : Prop :=
  ∀ w, ((c.writeOver w).text = "" ↔ c.isValid = false) ∧
    (c.isValid = false → (c.writeOver w).text = "" ∧ (c.writeOver w).args = [])

/-- A composed condition leaves no text exactly if it is not valid.  It leaves no values either,
unless it is a fragment without text that has values. -/
theorem showsValidity_iff {c : Cond} (composed : Composed c) :
    (∀ w, (c.writeOver w).text = "" ↔ c.isValid = false) ∧
    (c.ShowsValidity ↔ ∀ args, c = leaf ⟨"", args⟩ → args = []) := by
  have text (w : Writer) : (c.writeOver w).text = "" ↔ c.isValid = false := by
    rw [writeOver_eq]
    exact composed.proper.spell_tokens_eq_empty_iff 0
  refine ⟨text, ?_⟩
  constructor
  · rintro shows args rfl
    have noValues := ((shows {}).2 (isValid_eq_false_iff.2 (.inr ⟨args, rfl⟩))).2
    rw [writeOver_eq, leaves, List.flatMap_singleton] at noValues
    exact noValues
  · intro noValues w
    refine ⟨text w, ?_⟩
    intro invalid
    refine ⟨(text w).2 invalid, ?_⟩
    rw [writeOver_eq]
    -- the empty condition binds nothing; a fragment without text binds what it has
    rcases isValid_eq_false_iff.1 invalid with rfl | ⟨args, rfl⟩
    · rfl
    · rw [noValues args rfl, leaves, List.flatMap_singleton]

/-- A fragment without text that has a value. -/
def blankLeaf : Cond := leaf ⟨"", [.int32 1]⟩

/-- Such fragments among others that have something to write. -/
def blanksDropped : Cond :=
  all [blankLeaf, any [blankLeaf, raw "x = 1"], expr "y = ??" [.int32 2]]

/-- Joined with others, it leaves nothing. -/
theorem blanksDropped_showsValidity :
    Composed blanksDropped ∧
    blanksDropped.writeOver ⟨"z", [.null], []⟩ = ⟨"(x = 1) AND (y = ??)", [.int32 2], []⟩ ∧
    blanksDropped.ShowsValidity := by
  have inner : Composed (any [blankLeaf, raw "x = 1"]) := by
    refine .combine .or _ (List.forall_mem_cons.2 ⟨.leaf _, ?_⟩)
    exact List.forall_mem_singleton.2 (.raw _)
  have composed : Composed blanksDropped := by
    unfold blanksDropped
    refine .combine .and _ (List.forall_mem_cons.2 ⟨.leaf _, ?_⟩)
    exact List.forall_mem_cons.2 ⟨inner, List.forall_mem_singleton.2 (.expr _ _)⟩
  refine ⟨composed, rfl, (showsValidity_iff composed).2.2 ?_⟩
  intro args same
  cases same

/-- By itself, it leaves its value. -/
theorem blankLeaf_not_showsValidity :
    Composed blankLeaf ∧ blankLeaf.isValid = false ∧
    blankLeaf.writeOver ⟨"z", [.null], []⟩ = ⟨"", [.int32 1], []⟩ ∧ ¬blankLeaf.ShowsValidity := by
  refine ⟨.leaf _, rfl, rfl, ?_⟩
  intro shows
  have noValues := ((shows {}).2 rfl).2
  cases noValues

end Cond

end SqlCompose
