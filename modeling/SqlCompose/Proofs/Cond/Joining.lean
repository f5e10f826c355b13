import SqlCompose.Proofs.Cond.Reading

/-! # Joining conditions one after another

Conditions may be supplied one at a time, each with the connective that joins it to what there is.
At first there may be nothing, and then the first condition stands for itself, whatever the
connective.  Joining builds a tree in which what is not valid is dropped, and which has no lists of
fewer than two; what it comes to is still the values of the supplied conditions, joined in turn from
the left, and its leaves are theirs, in the order in which they were supplied.

Main statements:

* `Joins.combine`: one joining of several conditions;
* `Joins.trans`: one joining after another;
* `Proper.value_eq_false`: a condition of false leaves is false, which tells AND from OR.
-/

namespace SqlCompose

namespace Connective

theorem join_assoc (op : Connective) (a b c : Bool) :
    op.join (op.join a b) c = op.join a (op.join b c) := by
  cases op with
  | and => exact Bool.and_assoc a b c
  | or => exact Bool.or_assoc a b c

theorem join_neutral (op : Connective) (a : Bool) : op.join a op.neutral = a := by
  cases op with
  | and => exact Bool.and_true a
  | or => exact Bool.or_false a

/-- A truth value joined to what there is; nothing is neutral for both connectives. -/
def onto (op : Connective) : Option Bool → Bool → Bool
  | none, b => b
  | some a, b => op.join a b

/-- Joining by OR to nothing is joining to false. -/
theorem or_onto (current : Option Bool) (b : Bool) :
    or.onto current b = (current.getD false || b) := by
  cases current <;> rfl

end Connective

/-- A condition that is supplied, with the connective that joins it to what there is. -/
structure Supply where
  op : Connective
  cond : Cond

/-- What supplies come to, joined in turn to what there is, their first leaf being at position
`k`. -/
def joinInTurn (ν : Nat → Bool) : (k : Nat) → Option Bool → List Supply → Option Bool
  | _, current, [] => current
  | k, current, s :: rest =>
    joinInTurn ν (k + s.cond.leaves.length) (some (s.op.onto current (s.cond.value ν k))) rest

/-- Supplies behind one another go on from what the first ones come to. -/
theorem joinInTurn_append (ν : Nat → Bool) (k : Nat) (current : Option Bool)
    (ss ss' : List Supply) :
    joinInTurn ν k current (ss ++ ss') =
      joinInTurn ν (k + (ss.flatMap fun s => s.cond.leaves).length) (joinInTurn ν k current ss)
        ss' := by
  -- position and value move on with every supply
  induction ss generalizing k current with
  | nil => rfl
  | cons s rest ih =>
    rw [List.cons_append, joinInTurn, ih, joinInTurn, List.flatMap_cons, List.length_append,
      Nat.add_assoc]

namespace Cond

/-- The value of a condition, if there is something to write. -/
def truth? (ν : Nat → Bool) (c : Cond) : Option Bool :=
  if c.isValid then some (c.value ν 0) else none

/-- The leaves of a condition, if there is something to write. -/
def kept (c : Cond) : List Expr :=
  if c.isValid then c.leaves else []

theorem truth?_of_valid {c : Cond} (valid : c.isValid = true) (ν : Nat → Bool) :
    c.truth? ν = some (c.value ν 0) :=
  if_pos valid

theorem kept_of_valid {c : Cond} (valid : c.isValid = true) : c.kept = c.leaves :=
  if_pos valid

theorem truth?_of_not_valid {c : Cond} (invalid : ¬c.isValid = true) (ν : Nat → Bool) :
    c.truth? ν = none :=
  if_neg invalid

theorem kept_of_not_valid {c : Cond} (invalid : ¬c.isValid = true) : c.kept = [] :=
  if_neg invalid

/-! ## Joining valid conditions -/

theorem childrenLeaves_eq_flatMap (children : List Cond) :
    childrenLeaves children = children.flatMap leaves := by
  induction children with
  | nil => rfl
  | cons c rest ih => rw [childrenLeaves, ih, List.flatMap_cons]

theorem childrenValue_singleton (ν : Nat → Bool) (op : Connective) (k : Nat) (c : Cond) :
    childrenValue ν op k [c] = c.value ν k := by
  rw [childrenValue, childrenValue, Connective.join_neutral]

theorem isValid_of_mem_filter (conds : List Cond) : ∀ c ∈ conds.filter isValid, c.isValid = true :=
  fun _ member => (List.mem_filter.1 member).2

/-- What is not valid has no part in joining. -/
theorem combine_filter (op : Connective) (conds : List Cond) :
    combine op (conds.filter isValid) = combine op conds := by
  rw [combine, combine, List.filter_filter]
  simp only [Bool.and_self]

section

variable {children : List Cond} (nonempty : children ≠ [])
  (valid : ∀ c ∈ children, c.isValid = true) (op : Connective)

include nonempty valid

/-- Valid conditions make a list, unless there is only one. -/
theorem combine_of_valid :
    (∃ c, children = [c] ∧ combine op children = c) ∨ combine op children = list op children := by
  rw [combine, List.filter_eq_self.2 valid]
  -- `combine` tells a single condition from several
  rcases children with _ | ⟨c, _ | ⟨d, rest⟩⟩
  · exact absurd rfl nonempty
  · exact .inl ⟨c, rfl, rfl⟩
  · exact .inr rfl

theorem isValid_combine : (combine op children).isValid = true := by
  rcases combine_of_valid nonempty valid op with ⟨c, rfl, same⟩ | same
  · rw [same]
    exact valid c List.mem_cons_self
  · rw [same]
    rfl

theorem leaves_combine : (combine op children).leaves = children.flatMap leaves := by
  rcases combine_of_valid nonempty valid op with ⟨c, rfl, same⟩ | same
  · rw [same, List.flatMap_singleton]
  · rw [same, leaves, childrenLeaves_eq_flatMap]

/-- Valid conditions come to their values, joined by the connective. -/
theorem value_combine (ν : Nat → Bool) (k : Nat) :
    (combine op children).value ν k = childrenValue ν op k children := by
  rcases combine_of_valid nonempty valid op with ⟨c, rfl, same⟩ | same
  · rw [same, childrenValue_singleton]
  · rw [same, value]

end

/-- The values of the children of a list, joined to one in front in turn. -/
theorem joinInTurn_children (ν : Nat → Bool) (op : Connective) (k : Nat) (a : Bool)
    (children : List Cond) :
    joinInTurn ν k (some a) (children.map (Supply.mk op)) =
      some (op.join a (childrenValue ν op k children)) := by
  induction children generalizing k a with
  | nil => rw [List.map_nil, joinInTurn, childrenValue, Connective.join_neutral]
  | cons c rest ih =>
    rw [List.map_cons, joinInTurn, ih, childrenValue, Connective.onto, Connective.join_assoc]

/-- Joining all at once is joining in turn, from nothing. -/
theorem truth?_combine (ν : Nat → Bool) (op : Connective) (conds : List Cond) :
    (combine op conds).truth? ν =
      joinInTurn ν 0 none ((conds.filter isValid).map (Supply.mk op)) := by
  rw [← combine_filter]
  have valid := isValid_of_mem_filter conds
  generalize conds.filter isValid = children at valid ⊢
  rcases children with _ | ⟨c, rest⟩
  · rfl
  · -- the first one is joined to nothing, the others to what it comes to
    have nonempty : c :: rest ≠ [] := List.cons_ne_nil c rest
    rw [truth?_of_valid (isValid_combine nonempty valid op), value_combine nonempty valid]
    rw [List.map_cons, joinInTurn, joinInTurn_children, childrenValue]
    rfl

/-- Joining keeps the leaves of the valid conditions, in order. -/
theorem kept_combine (op : Connective) (conds : List Cond) :
    (combine op conds).kept = (conds.filter isValid).flatMap leaves := by
  rw [← combine_filter]
  have valid := isValid_of_mem_filter conds
  generalize conds.filter isValid = children at valid ⊢
  rcases children with _ | ⟨c, rest⟩
  · -- nothing valid, nothing kept
    rfl
  · have nonempty : c :: rest ≠ [] := List.cons_ne_nil c rest
    rw [kept_of_valid (isValid_combine nonempty valid op), leaves_combine nonempty valid]

theorem flatMap_filter_singleton (c : Cond) : ([c].filter isValid).flatMap leaves = c.kept := by
  by_cases valid : c.isValid = true
  · rw [List.filter_cons_of_pos valid, List.filter_nil, List.flatMap_singleton, kept_of_valid valid]
  · rw [List.filter_cons_of_neg valid, List.filter_nil, List.flatMap_nil, kept_of_not_valid valid]

/-- What joining keeps, seen from the first condition. -/
theorem kept_combine_cons (op : Connective) (c : Cond) (others : List Cond) :
    (combine op (c :: others)).kept = c.kept ++ (others.filter isValid).flatMap leaves := by
  rw [kept_combine, ← flatMap_filter_singleton c, ← List.flatMap_append, ← List.filter_append,
    List.singleton_append]

/-! ## Joining in turn -/

/-- A condition is what another one and supplies come to, joined in turn: it has their leaves in
order, and their values joined from the left. -/
structure Joins (c d : Cond) (ss : List Supply) : Prop where
  truth : ∀ ν, d.truth? ν = joinInTurn ν c.kept.length (c.truth? ν) ss
  leaves : d.kept = c.kept ++ ss.flatMap fun s => s.cond.leaves

theorem Joins.refl (c : Cond) : Joins c c [] :=
  ⟨fun _ => rfl, (List.append_nil _).symm⟩

/-- Joining in turn may be done in two steps. -/
theorem Joins.trans {b c d : Cond} {ss ss' : List Supply} (h : Joins b c ss)
    (h' : Joins c d ss') : Joins b d (ss ++ ss') := by
  constructor
  · intro ν
    rw [h'.truth, h.truth, h.leaves, List.length_append, joinInTurn_append]
  · rw [h'.leaves, h.leaves, List.flatMap_append, List.append_assoc]

/-- Joining a condition with others joins the valid ones to it in turn. -/
theorem Joins.combine (op : Connective) (c : Cond) (others : List Cond) :
    Joins c (combine op (c :: others)) ((others.filter isValid).map (Supply.mk op)) := by
  constructor
  · intro ν
    rw [truth?_combine]
    -- `c` is the first to be joined, or is dropped, and then there was nothing
    by_cases valid : c.isValid = true
    · rw [List.filter_cons_of_pos valid, List.map_cons, joinInTurn, Nat.zero_add,
        kept_of_valid valid, truth?_of_valid valid]
      rfl
    · rw [List.filter_cons_of_neg valid, kept_of_not_valid valid, truth?_of_not_valid valid]
      rfl
  · rw [kept_combine_cons, List.flatMap_map]

theorem isSome_truth? (ν : Nat → Bool) (c : Cond) : (c.truth? ν).isSome = c.isValid := by
  unfold truth?
  cases c.isValid <;> rfl

/-- There is a value as soon as there was one, or anything is supplied. -/
theorem isSome_joinInTurn (ν : Nat → Bool) (k : Nat) (current : Option Bool) (ss : List Supply) :
    (joinInTurn ν k current ss).isSome = (current.isSome || !ss.isEmpty) := by
  induction ss generalizing k current with
  | nil => simp [joinInTurn]
  | cons s rest ih => simp [joinInTurn, ih]

/-- There is something to write if there was, or if anything was supplied. -/
theorem Joins.isValid_iff {c d : Cond} {ss : List Supply} (h : Joins c d ss) :
    d.isValid = true ↔ c.isValid = true ∨ ss ≠ [] := by
  have ν : Nat → Bool := fun _ => true
  have some : d.isValid = (c.isValid || !ss.isEmpty) := by
    rw [← isSome_truth? ν d, h.truth ν, isSome_joinInTurn, isSome_truth?]
  simp [some]

/-! ## False leaves -/

/-- Children that are false each come to false, unless there are none. -/
theorem childrenValue_eq_false {ν : Nat → Bool} (op : Connective) {children : List Cond}
    (nonempty : children ≠ [])
    (each : ∀ c ∈ children, ∀ k, (∀ i, k ≤ i → i < k + c.leaves.length → ν i = false) →
      c.value ν k = false) (k : Nat)
    (no : ∀ i, k ≤ i → i < k + (childrenLeaves children).length → ν i = false) :
    childrenValue ν op k children = false := by
  induction children generalizing k with
  | nil => exact absurd rfl nonempty
  | cons c rest ih =>
    rw [childrenLeaves, List.length_append] at no
    have first : c.value ν k = false := by
      apply each c List.mem_cons_self
      intro i low high
      exact no i low (by omega)
    rw [childrenValue, first]
    cases op with
    -- one false child makes a conjunction false
    | and => rfl
    | or =>
      -- a disjunction is only false if the others are, too
      rcases rest with _ | ⟨d, rest⟩
      · rfl
      · apply ih (List.cons_ne_nil d rest)
        · intro c' hc'
          exact each c' (List.mem_cons_of_mem _ hc')
        · intro i low high
          exact no i (by omega) (by omega)

/-- A condition of false leaves is false. -/
theorem Proper.value_eq_false {c : Cond} (h : Proper c) (valid : c.isValid = true)
    {ν : Nat → Bool} {k : Nat} (no : ∀ i, k ≤ i → i < k + c.leaves.length → ν i = false) :
    c.value ν k = false := by
  induction h generalizing k with
  | empty => cases valid
  | leaf e => exact no k (Nat.le_refl k) (Nat.lt_succ_self k)
  | list op children several childrenValid _ ih =>
    have nonempty : children ≠ [] := by
      rintro rfl
      cases several
    apply childrenValue_eq_false op nonempty _ k no
    intro c hc k' no'
    exact ih c hc (childrenValid c hc) no'

/-- A proper condition of false leaves is not true, whether or not it is valid. -/
theorem Proper.truth?_getD {c : Cond} (h : Proper c) {ν : Nat → Bool}
    (no : ∀ i < c.kept.length, ν i = false) : (c.truth? ν).getD false = false := by
  by_cases valid : c.isValid = true
  · rw [kept_of_valid valid] at no
    rw [truth?_of_valid valid, Option.getD_some]
    apply h.value_eq_false valid
    intro i _ high
    exact no i (by omega)
  · rw [truth?_of_not_valid valid, Option.getD_none]

/-! ## AND inside OR -/

/-- A condition or a valid one. -/
theorem truth?_any_pair (c : Cond) {d : Cond} (valid : d.isValid = true) (ν : Nat → Bool) :
    (any [c, d]).truth? ν = some ((c.truth? ν).getD false || d.value ν c.kept.length) := by
  rw [any, (Joins.combine .or c [d]).truth, List.filter_cons_of_pos valid, List.filter_nil,
    List.map_singleton, joinInTurn, joinInTurn, Connective.or_onto]

/-- Joining several by OR keeps the leaves that joining their conjunction keeps. -/
theorem kept_any_all (c : Cond) (others : List Cond) :
    (any (c :: others)).kept = (any [c, all others]).kept := by
  rw [any, any, kept_combine_cons, kept_combine_cons, flatMap_filter_singleton, all, kept_combine]

section

variable {c : Cond} (proper : Proper c)

include proper

/-- Of all leaves, let only the first of two fragments be true: joined by OR they come to true, and
their conjunction to false. -/
theorem any_all_differ {e e' : Expr} {rest : List Expr}
    (valid : ∀ d ∈ leaf e :: leaf e' :: rest.map leaf, d.isValid = true) {ν : Nat → Bool}
    (no : ∀ i < c.kept.length, ν i = false) (first : ν c.kept.length = true)
    (second : ν (c.kept.length + 1) = false) :
    (any (c :: leaf e :: leaf e' :: rest.map leaf)).truth? ν = some true ∧
    (any [c, all (leaf e :: leaf e' :: rest.map leaf)]).truth? ν = some false := by
  have nonempty : leaf e :: leaf e' :: rest.map leaf ≠ [] := List.cons_ne_nil _ _
  constructor
  · rw [any, (Joins.combine .or c _).truth, List.filter_eq_self.2 valid, List.map_cons, joinInTurn,
      value, first, Connective.or_onto, Bool.or_true, joinInTurn_children]
    rfl
  · have conjunction :
        (all (leaf e :: leaf e' :: rest.map leaf)).value ν c.kept.length = false := by
      rw [all, value_combine nonempty valid]
      simp [childrenValue, value, leaves, Connective.join, second]
    have whole : (all (leaf e :: leaf e' :: rest.map leaf)).isValid = true :=
      isValid_combine nonempty valid .and
    rw [truth?_any_pair c whole, conjunction, proper.truth?_getD no, Bool.or_false]

/-- Joining fragments by OR to a proper condition is joining their conjunction to it exactly if
there are no two of them. -/
theorem truth?_any_all_iff {es : List Expr} (valid : ∀ d ∈ es.map leaf, d.isValid = true) :
    (∀ ν, (any (c :: es.map leaf)).truth? ν = (any [c, all (es.map leaf)]).truth? ν) ↔
      es.length ≤ 1 := by
  -- none, one, or two at least, which `any_all_differ` tells apart
  rcases es with _ | ⟨e, _ | ⟨e', rest⟩⟩
  · have nothing : any [c, empty] = any [c] := by
      rw [any, any, ← combine_filter, ← combine_filter .or [c]]
      rfl
    refine iff_of_true ?_ (Nat.zero_le 1)
    intro ν
    rw [List.map_nil, show all [] = empty from rfl, nothing]
  · have alone : all [leaf e] = leaf e := by
      rw [all, combine, List.filter_cons_of_pos (valid _ List.mem_cons_self), List.filter_nil]
    refine iff_of_true ?_ (Nat.le_refl 1)
    intro ν
    rw [List.map_singleton, alone]
  · refine iff_of_false ?_ (by simp)
    intro same
    have firstOnly (i : Nat) (low : i < c.kept.length) : decide (i = c.kept.length) = false :=
      decide_eq_false (Nat.ne_of_lt low)
    rcases any_all_differ proper valid firstOnly (decide_eq_true rfl)
      (decide_eq_false (Nat.succ_ne_self _)) with ⟨disjunction, conjunction⟩
    have differ := (disjunction.symm.trans (same _)).trans conjunction
    cases differ

end

end Cond

end SqlCompose
