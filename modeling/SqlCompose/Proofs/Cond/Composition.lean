import SqlCompose.Cond

/-! # Composed conditions

The conditions that the operations of the library make, and the shape that they all have: lists
have two children or more, and every child has something to write.

Main statement: every composed condition is proper (`Composed.proper`).
-/

namespace SqlCompose.Cond

/-- The conditions that come of any composition of the operations on conditions. -/
inductive Composed : Cond → Prop
  | empty : Composed .empty
  /-- A fragment is taken over as it is, also without text. -/
  | leaf (e : Expr) : Composed (.leaf e)
  | expr (sql : String) (args : List Value) : Composed (.expr sql args)
  | raw (sql : String) : Composed (.raw sql)
  | eq (column : String) (value : Value) : Composed (.eq column value)
  | combine (op : Connective) (conds : List Cond) (h : ∀ c ∈ conds, Composed c) :
      Composed (.combine op conds)
  | combineWith (op : Connective) (c : Cond) (others : List Cond) (hc : Composed c)
      (h : ∀ o ∈ others, Composed o) : Composed (c.combineWith op others)

/-- Every list in the condition has two children or more, all of them valid. -/
inductive Proper : Cond → Prop
  | empty : Proper .empty
  | leaf (e : Expr) : Proper (.leaf e)
  | list (op : Connective) (children : List Cond) (several : 2 ≤ children.length)
      (valid : ∀ c ∈ children, c.isValid = true) (proper : ∀ c ∈ children, Proper c) :
      Proper (.list op children)

theorem proper_expr (sql : String) (args : List Value) : Proper (.expr sql args) := by
  unfold expr
  split
  · exact .empty
  · exact .leaf _

/-- Joining keeps the shape: what is not valid is dropped, and a list is made of two or more. -/
theorem proper_combine (op : Connective) {conds : List Cond} (h : ∀ c ∈ conds, Proper c) :
    Proper (combine op conds) := by
  have kept : ∀ c ∈ conds.filter isValid, c.isValid = true ∧ Proper c := by
    intro c hc
    obtain ⟨hmem, hvalid⟩ := List.mem_filter.1 hc
    exact ⟨hvalid, h c hmem⟩
  unfold combine
  split
  · exact .empty
  · next c hfilter =>
    rw [hfilter] at kept
    exact (kept c List.mem_cons_self).2
  · next notNone notOne =>
    apply Proper.list
    · -- neither none nor one is valid, so there are two at least
      match hfilter : conds.filter isValid with
      | [] => exact absurd hfilter notNone
      | [c] => exact absurd hfilter (notOne c)
      | _ :: _ :: _ => simp
    · intro c hc
      exact (kept c hc).1
    · intro c hc
      exact (kept c hc).2

/-- Joining to a condition keeps the shape. -/
theorem proper_combineWith (op : Connective) {c : Cond} {others : List Cond} (hc : Proper c)
    (h : ∀ o ∈ others, Proper o) : Proper (c.combineWith op others) := by
  unfold combineWith
  split
  · exact hc
  · apply proper_combine
    intro o ho
    rcases List.mem_cons.1 ho with rfl | ho
    · exact hc
    · exact h o ho

/-- Every composed condition is proper. -/
theorem Composed.proper {c : Cond} (h : Composed c) : Proper c := by
  induction h with
  | empty => exact .empty
  | leaf e => exact .leaf e
  | expr sql args => exact proper_expr sql args
  | raw sql => exact proper_expr sql []
  | eq column value =>
    unfold Cond.eq
    split
    · exact .empty
    · exact proper_expr _ _
  | combine op conds _ ih => exact proper_combine op ih
  | combineWith op c others _ _ ihc ih => exact proper_combineWith op ihc ih

end SqlCompose.Cond
