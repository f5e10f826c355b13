import SqlCompose.Proofs.Cond.Joining

/-! # Conditions that are written alike

Joining does not merge lists: a conjunction that is joined by AND with other conditions stays a list
of its own, as one child of the new list.  But a list is written as part of its parent if it has the
same connective, and so nobody can tell from what is written how conditions were grouped, or whether
some of them had nothing to write.

Main statements:

* `combine_regroup`: a joined part of a list of conditions may be joined by itself beforehand;
* `Alike.fill`: conditions that are written alike stay so inside of every other condition;
* `Padded.combine_eq`: what is not valid has no part in joining, wherever it stands.
-/

namespace SqlCompose.Cond

/-- What is written does not tell the conditions apart: neither has something to write without the
other, they stand in parentheses in the same places, and they write the same. -/
structure Alike (c d : Cond) : Prop where
  valid : c.isValid = d.isValid
  parens : ∀ op, c.needsParens op = d.needsParens op
  written : ∀ w, c.write w = d.write w

theorem Alike.refl (c : Cond) : Alike c c :=
  ⟨rfl, fun _ => rfl, fun _ => rfl⟩

theorem Alike.of_eq {c d : Cond} (same : c = d) : Alike c d :=
  same ▸ .refl c

theorem Alike.trans {b c d : Cond} (h : Alike b c) (h' : Alike c d) : Alike b d := by
  constructor
  · exact h.valid.trans h'.valid
  · intro op
    exact (h.parens op).trans (h'.parens op)
  · intro w
    exact (h.written w).trans (h'.written w)

/-! ## Children of a list -/

section

variable (op : Connective)

/-- The first of several children, in front of the others. -/
theorem writeChildren_cons (c : Cond) {rest : List Cond} (some : rest ≠ []) (w : Writer) :
    writeChildren op (c :: rest) w =
      writeChildren op rest ((wrapped (c.needsParens op) c.write w).put op.separator) := by
  rw [writeChildren]
  exact some

/-- The children of two lists, one list behind the other. -/
theorem writeChildren_append {us vs : List Cond} (someU : us ≠ []) (someV : vs ≠ [])
    (w : Writer) : writeChildren op (us ++ vs) w =
      writeChildren op vs ((writeChildren op us w).put op.separator) := by
  induction us generalizing w with
  | nil => exact absurd rfl someU
  | cons c rest ih =>
    -- behind the last one of `us` there is a separator only because `vs` has something in it
    by_cases last : rest = []
    · rw [last, List.singleton_append, writeChildren_cons op c someV, writeChildren]
    · have someBoth : rest ++ vs ≠ [] := List.append_ne_nil_of_left_ne_nil last vs
      rw [List.cons_append, writeChildren_cons op c someBoth, ih last, writeChildren_cons op c last]

/-- Children that are written alike by themselves are written alike among others. -/
theorem writeChildren_between {us vs : List Cond} (someU : us ≠ []) (someV : vs ≠ [])
    (same : ∀ w, writeChildren op us w = writeChildren op vs w) (xs zs : List Cond) (w : Writer) :
    writeChildren op (xs ++ us ++ zs) w = writeChildren op (xs ++ vs ++ zs) w := by
  have front (w : Writer) : writeChildren op (xs ++ us) w = writeChildren op (xs ++ vs) w := by
    -- with something in front, or nothing; then likewise behind
    by_cases noneX : xs = []
    · rw [noneX, List.nil_append, List.nil_append, same]
    · rw [writeChildren_append op noneX someU, writeChildren_append op noneX someV, same]
  by_cases noneZ : zs = []
  · rw [noneZ, List.append_nil, List.append_nil, front]
  · have someXU : xs ++ us ≠ [] := List.append_ne_nil_of_right_ne_nil xs someU
    have someXV : xs ++ vs ≠ [] := List.append_ne_nil_of_right_ne_nil xs someV
    rw [writeChildren_append op someXU noneZ, writeChildren_append op someXV noneZ, front]

/-- A list in a list with the same connective is written as its children are. -/
theorem writeChildren_list (children : List Cond) (w : Writer) :
    writeChildren op [list op children] w = writeChildren op children w := by
  have noParens : (list op children).needsParens op = false := by
    simp [needsParens]
  rw [writeChildren, noParens]
  show (list op children).write w = _
  rw [write]

theorem Alike.writeChildren_singleton {c d : Cond} (h : Alike c d) (w : Writer) :
    writeChildren op [c] w = writeChildren op [d] w := by
  rw [writeChildren, writeChildren, h.parens op, funext h.written]

end

/-! ## Joining -/

section

variable (op : Connective)

/-- A valid condition by itself is joined to nothing. -/
theorem combine_singleton {c : Cond} (valid : c.isValid = true) : combine op [c] = c := by
  rw [combine, List.filter_cons_of_pos valid, List.filter_nil]

/-- Joining looks at the valid ones only. -/
theorem combine_congr {xs ys : List Cond} (same : xs.filter isValid = ys.filter isValid) :
    combine op xs = combine op ys := by
  rw [← combine_filter, same, combine_filter]

/-- A condition that is not valid may be left out. -/
theorem combine_without {c : Cond} (invalid : ¬c.isValid = true) (xs zs : List Cond) :
    combine op (xs ++ c :: zs) = combine op (xs ++ zs) := by
  apply combine_congr
  rw [List.filter_append, List.filter_cons_of_neg invalid, List.filter_append]

/-- Two or more valid conditions make a list. -/
theorem combine_several {children : List Cond} (valid : ∀ c ∈ children, c.isValid = true)
    (several : 2 ≤ children.length) : combine op children = list op children := by
  have nonempty : children ≠ [] := by
    rintro rfl
    simp at several
  rcases combine_of_valid nonempty valid op with ⟨c, rfl, -⟩ | same
  · simp at several
  · exact same

/-- Around valid conditions, joining looks at the valid ones only. -/
theorem combine_around {ts : List Cond} (valid : ∀ c ∈ ts, c.isValid = true) (xs zs : List Cond) :
    combine op (xs ++ ts ++ zs) = combine op (xs.filter isValid ++ ts ++ zs.filter isValid) := by
  rw [← combine_filter, List.filter_append, List.filter_append, List.filter_eq_self.2 valid]

/-- Valid conditions that have others around them make a list with these. -/
theorem combine_among {xs ts zs : List Cond} (some : ts ≠ []) (others : ¬(xs = [] ∧ zs = []))
    (validX : ∀ c ∈ xs, c.isValid = true) (valid : ∀ c ∈ ts, c.isValid = true)
    (validZ : ∀ c ∈ zs, c.isValid = true) :
    combine op (xs ++ ts ++ zs) = list op (xs ++ ts ++ zs) := by
  apply combine_several
  · intro c member
    rcases List.mem_append.1 member with front | inZ
    · rcases List.mem_append.1 front with inX | inT
      · exact validX c inX
      · exact valid c inT
    · exact validZ c inZ
  · have lengthT : 0 < ts.length := List.length_pos_iff.2 some
    have lengthOthers : 0 < xs.length + zs.length := by
      rw [Nat.pos_iff_ne_zero, Ne, Nat.add_eq_zero_iff]
      simpa using others
    rw [List.length_append, List.length_append]
    omega

/-- Conditions that are written alike, both by themselves and as children, are so among others. -/
theorem alike_combine_between {us vs : List Cond} (someU : us ≠ []) (someV : vs ≠ [])
    (validU : ∀ c ∈ us, c.isValid = true) (validV : ∀ c ∈ vs, c.isValid = true)
    (alone : Alike (combine op us) (combine op vs))
    (same : ∀ w, writeChildren op us w = writeChildren op vs w) (xs zs : List Cond) :
    Alike (combine op (xs ++ us ++ zs)) (combine op (xs ++ vs ++ zs)) := by
  rw [combine_around op validU, combine_around op validV]
  have validX := isValid_of_mem_filter xs
  have validZ := isValid_of_mem_filter zs
  generalize xs.filter isValid = xs at validX ⊢
  generalize zs.filter isValid = zs at validZ ⊢
  -- without others nothing is made but the two themselves; with others, both make a list
  by_cases none : xs = [] ∧ zs = []
  · rcases none with ⟨rfl, rfl⟩
    rw [List.nil_append, List.append_nil, List.nil_append, List.append_nil]
    exact alone
  · rw [combine_among op someU none validX validU validZ,
      combine_among op someV none validX validV validZ]
    constructor
    · rfl
    · intro parent
      rfl
    · intro w
      rw [write, write]
      exact writeChildren_between op someU someV same xs zs w

/-- Some of the conditions may be joined by themselves before all are joined. -/
theorem combine_regroup (xs ys zs : List Cond) :
    Alike (combine op (xs ++ combine op ys :: zs)) (combine op (xs ++ ys ++ zs)) := by
  have inner : combine op (xs ++ ys ++ zs) = combine op (xs ++ ys.filter isValid ++ zs) := by
    apply combine_congr
    simp only [List.filter_append, List.filter_filter, Bool.and_self]
  rw [inner, ← combine_filter op ys]
  have valid := isValid_of_mem_filter ys
  generalize ys.filter isValid = ys at valid ⊢
  by_cases nonempty : ys = []
  · -- of no valid ones the empty condition is made, which is dropped in turn
    rw [nonempty, List.append_nil]
    have invalid : ¬(combine op []).isValid = true := Bool.false_ne_true
    exact .of_eq (combine_without op invalid xs zs)
  · have validJoined : (combine op ys).isValid = true := isValid_combine nonempty valid op
    rw [← List.singleton_append, ← List.append_assoc]
    apply alike_combine_between op (List.cons_ne_nil _ _) nonempty _ valid
    · exact .of_eq (combine_singleton op validJoined)
    · -- a single one is the child itself; several are a list, which is written without parentheses
      intro w
      rcases combine_of_valid nonempty valid op with ⟨c, rfl, same⟩ | same
      · rw [same]
      · rw [same, writeChildren_list]
    · intro c hc
      rw [List.mem_singleton.1 hc]
      exact validJoined

end

/-! ## Surroundings -/

/-- A condition with one place left open. -/
inductive Context where
  | place
  /-- The place is in a child of a list. -/
  | child (op : Connective) (before : List Cond) (inner : Context) (after : List Cond)
  /-- The place is in one of several conditions that are joined. -/
  | operand (op : Connective) (before : List Cond) (inner : Context) (after : List Cond)

/-- The condition with another one in its open place. -/
def Context.fill : Context → Cond → Cond
  | place, c => c
  | child op before inner after, c => list op (before ++ inner.fill c :: after)
  | operand op before inner after, c => combine op (before ++ inner.fill c :: after)

/-- One child of a list may be exchanged. -/
theorem Alike.list {c d : Cond} (h : Alike c d) (op : Connective) (xs zs : List Cond) :
    Alike (.list op (xs ++ c :: zs)) (.list op (xs ++ d :: zs)) := by
  constructor
  · rfl
  · intro parent
    rfl
  · intro w
    have among := writeChildren_between op (List.cons_ne_nil c []) (List.cons_ne_nil d [])
      (h.writeChildren_singleton op) xs zs w
    rw [List.append_assoc, List.append_assoc] at among
    rw [write, write]
    exact among

/-- One of several conditions that are joined may be exchanged. -/
theorem Alike.combine {c d : Cond} (h : Alike c d) (op : Connective) (xs zs : List Cond) :
    Alike (combine op (xs ++ c :: zs)) (combine op (xs ++ d :: zs)) := by
  by_cases valid : c.isValid = true
  · have valid' : d.isValid = true := h.valid.symm.trans valid
    have alone : Alike (Cond.combine op [c]) (Cond.combine op [d]) := by
      rw [combine_singleton op valid, combine_singleton op valid']
      exact h
    have among := alike_combine_between op (List.cons_ne_nil c []) (List.cons_ne_nil d [])
      (by simpa using valid) (by simpa using valid') alone (h.writeChildren_singleton op) xs zs
    rw [List.append_assoc, List.append_assoc] at among
    exact among
  · -- neither is taken up
    have invalid' : ¬d.isValid = true := by
      rw [← h.valid]
      exact valid
    rw [combine_without op valid, combine_without op invalid']
    exact .refl _

/-- Conditions that are written alike are so inside of every condition. -/
theorem Alike.fill {c d : Cond} (h : Alike c d) (k : Context) : Alike (k.fill c) (k.fill d) := by
  induction k with
  | place => exact h
  | child op before inner after ih => exact ih.list op before after
  | operand op before inner after ih => exact ih.combine op before after

/-! ## Neutral operands -/

/-- A list of conditions, and the same with invalid ones put in anywhere. -/
inductive Padded : List Cond → List Cond → Prop
  | nil : Padded [] []
  | keep {xs ys : List Cond} (c : Cond) (h : Padded xs ys) : Padded (c :: xs) (c :: ys)
  | insert {xs ys : List Cond} (c : Cond) (invalid : c.isValid = false) (h : Padded xs ys) :
      Padded xs (c :: ys)

/-- Padding leaves the valid ones. -/
theorem Padded.filter_eq {xs ys : List Cond} (h : Padded xs ys) :
    ys.filter isValid = xs.filter isValid := by
  induction h with
  | nil => rfl
  | keep c _ ih => rw [List.filter_cons, List.filter_cons, ih]
  | insert c invalid _ ih => rw [List.filter_cons_of_neg (Bool.eq_false_iff.1 invalid), ih]

/-- Invalid ones that are put in have no part in joining. -/
theorem Padded.combine_eq {xs ys : List Cond} (h : Padded xs ys) (op : Connective) :
    Cond.combine op ys = Cond.combine op xs :=
  combine_congr op h.filter_eq

/-! ## One condition after another -/

/-- Conditions joined to another one by one. -/
def joinEach (op : Connective) (c : Cond) (others : List Cond) : Cond :=
  others.foldl (fun joined d => combine op [joined, d]) c

/-- Joining one by one is written as joining all at once is. -/
theorem alike_joinEach (op : Connective) (c : Cond) (others : List Cond) :
    Alike (combine op [joinEach op c others]) (combine op (c :: others)) := by
  induction others generalizing c with
  | nil => exact .refl _
  | cons d rest ih =>
    have first : Alike (combine op (combine op [c, d] :: rest)) (combine op (c :: d :: rest)) :=
      combine_regroup op [] [c, d] rest
    exact (ih (combine op [c, d])).trans first

end SqlCompose.Cond
