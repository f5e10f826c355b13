import SqlCompose.Proofs.Cond.Composition
import SqlCompose.Proofs.Writer.Append

/-! # Reading conditions back

A written condition is a sequence of tokens: parentheses, the words AND and OR, and the fragments
of the leaves, each of which is one opaque operand.  Such a sequence is read with AND binding
tighter than OR: a disjunction is one or more conjunctions with OR between them, a conjunction is
one or more factors with AND between them, and a factor is an operand or a disjunction in
parentheses.

An assignment gives a truth value to every leaf, by its position from the left.

Main statements:

* `write_eq`: a condition writes the texts of its tokens and binds the values of its leaves, in
  order;
* `Reads.unique`: a sequence of tokens has at most one value;
* `reads_tokens`: the tokens of a proper condition are read with the value of the condition.
-/

namespace SqlCompose

/-- What a written condition is made of. -/
inductive Token where
  | opening
  | closing
  | word (op : Connective)
  /-- The fragment of a leaf, with the leaf's position from the left. -/
  | operand (position : Nat) (e : Expr)

namespace Token

/-- What is written for a token. -/
def text : Token → String
  | opening => "("
  | closing => ")"
  | word op => op.separator
  | operand _ e => e.sql

/-- The leaf that an operand stands for, with its position. -/
def leaf? : Token → Option (Expr × Nat)
  | operand k e => some (e, k)
  | _ => none

def args : Token → List Value
  | operand _ e => e.args
  | _ => []

end Token

/-- The text of tokens. -/
def spell (ts : List Token) : String :=
  String.join (ts.map Token.text)

namespace Writer

def putTokens (w : Writer) (ts : List Token) : Writer :=
  (w.put (spell ts)).bindAll (ts.flatMap Token.args)

theorem putTokens_nil (w : Writer) : w.putTokens [] = w := by
  apply eq_of_parts <;> simp [putTokens, put, bindAll, spell]

theorem putTokens_putTokens (w : Writer) (ts us : List Token) :
    (w.putTokens ts).putTokens us = w.putTokens (ts ++ us) := by
  apply eq_of_parts <;> simp [putTokens, put, bindAll, spell, String.append_assoc]

end Writer

/-- Two truth values joined. -/
def Connective.join : Connective → Bool → Bool → Bool
  | and, a, b => a && b
  | or, a, b => a || b

/-- What nothing joined comes to. -/
def Connective.neutral : Connective → Bool
  | and => true
  | or => false

namespace Cond

mutual
/-- The leaves, from the left. -/
def leaves : Cond → List Expr
  | empty => []
  | leaf e => [e]
  | list _ children => childrenLeaves children
def childrenLeaves : List Cond → List Expr
  | [] => []
  | c :: rest => c.leaves ++ childrenLeaves rest
end

mutual
/-- The value under an assignment, the first leaf being at position `k`. -/
def value (ν : Nat → Bool) : (k : Nat) → Cond → Bool
  | _, empty => true
  | k, leaf _ => ν k
  | k, list op children => childrenValue ν op k children
def childrenValue (ν : Nat → Bool) (op : Connective) : (k : Nat) → List Cond → Bool
  | _, [] => op.neutral
  | k, c :: rest => op.join (c.value ν k) (childrenValue ν op (k + c.leaves.length) rest)
end

/-- Tokens, in parentheses or not. -/
def inParens (parens : Bool) (ts : List Token) : List Token :=
  if parens then .opening :: (ts ++ [.closing]) else ts

mutual
/-- The tokens that are written, the first leaf being at position `k`. -/
def tokens : (k : Nat) → Cond → List Token
  | _, empty => []
  | k, leaf e => [.operand k e]
  | k, list op children => childrenTokens op k children
def childrenTokens (op : Connective) : (k : Nat) → List Cond → List Token
  | _, [] => []
  | k, [c] => inParens (c.needsParens op) (c.tokens k)
  | k, c :: rest =>
    inParens (c.needsParens op) (c.tokens k)
      ++ .word op :: childrenTokens op (k + c.leaves.length) rest
end

end Cond

/-! ## The grammar -/

/-- What tokens may be read as. -/
inductive Phrase where
  | factor
  | conjunction
  | disjunction

/-- Tokens are read as a phrase with a value, under an assignment of values to operands. -/
inductive Reads (ν : Nat → Bool) : Phrase → List Token → Bool → Prop
  | operand (k : Nat) (e : Expr) : Reads ν .factor [.operand k e] (ν k)
  | parens {ts : List Token} {b : Bool} (h : Reads ν .disjunction ts b) :
      Reads ν .factor (.opening :: (ts ++ [.closing])) b
  | factor {ts : List Token} {b : Bool} (h : Reads ν .factor ts b) : Reads ν .conjunction ts b
  | and {ts us : List Token} {a b : Bool} (left : Reads ν .factor ts a)
      (right : Reads ν .conjunction us b) :
      Reads ν .conjunction (ts ++ .word .and :: us) (a && b)
  | conjunction {ts : List Token} {b : Bool} (h : Reads ν .conjunction ts b) :
      Reads ν .disjunction ts b
  | or {ts us : List Token} {a b : Bool} (left : Reads ν .conjunction ts a)
      (right : Reads ν .disjunction us b) :
      Reads ν .disjunction (ts ++ .word .or :: us) (a || b)

/-! ## Readings are unique

The value of a sequence can be computed from the left.  `done` is the value of the conjunctions
that are complete, `current` that of the factors of the present conjunction; what is outside of
open parentheses waits on a stack.  A reading fixes what the computation does with its tokens. -/

mutual
/-- The value of tokens that start where a factor is expected. -/
def beforeFactor (ν : Nat → Bool) :
    List Token → (done current : Bool) → List (Bool × Bool) → Option Bool
  | .operand k _ :: ts, done, current, stack => afterFactor ν ts done (current && ν k) stack
  | .opening :: ts, done, current, stack => beforeFactor ν ts false true ((done, current) :: stack)
  | _, _, _, _ => none
/-- The value of tokens that start where a factor is complete. -/
def afterFactor (ν : Nat → Bool) :
    List Token → (done current : Bool) → List (Bool × Bool) → Option Bool
  | [], done, current, [] => some (done || current)
  | .word .and :: ts, done, current, stack => beforeFactor ν ts done current stack
  | .word .or :: ts, done, current, stack => beforeFactor ν ts (done || current) true stack
  | .closing :: ts, done, current, (outerDone, outerCurrent) :: stack =>
    afterFactor ν ts outerDone (outerCurrent && (done || current)) stack
  | _, _, _, _ => none
end

/-- What the computation makes of a phrase: it multiplies a factor or a conjunction to the present
conjunction, and adds a disjunction that stands at the start of a conjunction. -/
def Phrase.Computes (ν : Nat → Bool) (ts : List Token) (b : Bool) : Phrase → Prop
  | disjunction => ∀ done, ∃ done' current', (done' || current') = (done || b) ∧
      ∀ rest stack, beforeFactor ν (ts ++ rest) done true stack
        = afterFactor ν rest done' current' stack
  | _ => ∀ rest done current stack, beforeFactor ν (ts ++ rest) done current stack
      = afterFactor ν rest done (current && b) stack

section

variable {ν : Nat → Bool} {ts us : List Token} {a b : Bool}

/-- What is read has the value that the computation gives it. -/
theorem Reads.computes {phrase : Phrase} (h : Reads ν phrase ts b) :
    phrase.Computes ν ts b := by
  induction h with
  | operand k e =>
    intro rest done current stack
    rfl
  | parens _ ih =>
    intro rest done current stack
    -- inside, a value is computed from nothing; the closing one takes the outer value off the stack
    obtain ⟨done', current', value, computed⟩ := ih false
    rw [List.cons_append, beforeFactor, List.append_assoc, computed]
    rw [List.singleton_append, afterFactor, value, Bool.false_or]
  | factor _ ih => exact ih
  | and _ _ left right =>
    intro rest done current stack
    rw [List.append_assoc, left, List.cons_append, afterFactor, right, Bool.and_assoc]
  | @conjunction ts b _ ih =>
    intro done
    refine ⟨done, b, rfl, ?_⟩
    intro rest stack
    rw [ih, Bool.true_and]
  -- the finished conjunction becomes part of what is done, and a new one begins
  | @or ts us a b _ _ left right =>
    intro done
    obtain ⟨done', current', value, computed⟩ := right (done || a)
    refine ⟨done', current', ?_, ?_⟩
    · rw [value, Bool.or_assoc]
    · intro rest stack
      rw [List.append_assoc, left, Bool.true_and, List.cons_append, afterFactor, computed]

/-- A sequence of tokens has at most one value. -/
theorem Reads.unique (ha : Reads ν .disjunction ts a) (hb : Reads ν .disjunction ts b) :
    a = b := by
  -- every reading gives what the computation gives, and that is a function of the tokens
  have computed {b : Bool} (h : Reads ν .disjunction ts b) :
      beforeFactor ν ts false true [] = some b := by
    obtain ⟨done, current, value, computed⟩ := h.computes false
    rw [← List.append_nil ts, computed, afterFactor, value, Bool.false_or]
  exact Option.some.inj ((computed ha).symm.trans (computed hb))

/-! ## The tokens of a proper condition -/

/-- The phrase that a list with a connective is written as. -/
def Connective.phrase : Connective → Phrase
  | .and => .conjunction
  | .or => .disjunction

/-- A factor may stand in a list with either connective. -/
theorem Reads.ofFactor (op : Connective) (h : Reads ν .factor ts b) : Reads ν op.phrase ts b := by
  cases op with
  | and => exact .factor h
  | or => exact .conjunction (.factor h)

/-- Lists with the same connective make one list. -/
theorem Reads.join (op : Connective) (left : Reads ν op.phrase ts a)
    (right : Reads ν op.phrase us b) :
    Reads ν op.phrase (ts ++ .word op :: us) (op.join a b) := by
  -- the left list is as long as its phrase says, so the induction is on its reading
  generalize hphrase : op.phrase = phrase at left right ⊢
  induction left with
  | operand k e => cases op <;> cases hphrase
  | parens _ _ => cases op <;> cases hphrase
  | factor h _ =>
    cases op with
    | and => exact .and h right
    | or => cases hphrase
  | @and ts us' a b h _ _ ih =>
    cases op with
    | and =>
      have whole := Reads.and h (ih rfl right)
      rw [List.append_assoc, List.cons_append]
      show Reads ν .conjunction _ ((a && b) && _)
      rw [Bool.and_assoc]
      exact whole
    | or => cases hphrase
  | conjunction h _ =>
    cases op with
    | and => cases hphrase
    | or => exact .or h right
  | @or ts us' a b h _ _ ih =>
    cases op with
    | and => cases hphrase
    | or =>
      have whole := Reads.or h (ih rfl right)
      rw [List.append_assoc, List.cons_append]
      show Reads ν .disjunction _ ((a || b) || _)
      rw [Bool.or_assoc]
      exact whole

/-- Every phrase that a list may be written as is a disjunction. -/
theorem Reads.toDisjunction (op : Connective) (h : Reads ν op.phrase ts b) :
    Reads ν .disjunction ts b := by
  cases op with
  | and => exact .conjunction h
  | or => exact h

end

namespace Cond

/-- The phrase that a condition is written as. -/
def phrase : Cond → Phrase
  | list op _ => op.phrase
  | _ => .factor

/-- A child stands in its parent's list, whether in parentheses or not. -/
theorem reads_child {ν : Nat → Bool} {c : Cond} {ts : List Token} {b : Bool}
    (h : Reads ν c.phrase ts b) (valid : c.isValid = true) (op : Connective) :
    Reads ν op.phrase (inParens (c.needsParens op) ts) b := by
  cases c with
  | empty => cases valid
  | leaf e =>
    -- a leaf always stands in parentheses
    have inside : Reads ν .disjunction ts b := Reads.toDisjunction .and (.factor h)
    exact Reads.ofFactor op (.parens inside)
  | list childOp children =>
    by_cases same : childOp = op
    · subst same
      have noParens : (list childOp children).needsParens childOp = false := by
        simp [needsParens]
      rw [noParens]
      exact h
    · -- in parentheses any phrase is a factor
      have parens : (list childOp children).needsParens op = true := by
        simp [needsParens, same]
      rw [parens]
      exact Reads.ofFactor op (.parens (Reads.toDisjunction childOp h))

/-- The children of a list are read as a phrase of its connective. -/
theorem reads_children {ν : Nat → Bool} (op : Connective) {children : List Cond}
    (nonempty : children ≠ []) (valid : ∀ c ∈ children, c.isValid = true)
    (h : ∀ c ∈ children, ∀ k, Reads ν c.phrase (c.tokens k) (c.value ν k)) (k : Nat) :
    Reads ν op.phrase (childrenTokens op k children) (childrenValue ν op k children) := by
  induction children generalizing k with
  | nil => exact absurd rfl nonempty
  | cons c rest ih =>
    have first : Reads ν op.phrase (inParens (c.needsParens op) (c.tokens k)) (c.value ν k) :=
      reads_child (h c List.mem_cons_self k) (valid c List.mem_cons_self) op
    -- the last child has no word behind it
    cases rest with
    | nil =>
      have alone : childrenValue ν op k [c] = c.value ν k := by
        cases op <;> simp [childrenValue, Connective.join, Connective.neutral]
      rw [alone, childrenTokens]
      exact first
    | cons d rest =>
      rw [childrenTokens, childrenValue]
      · -- the first child, the word, and what the others are read as
        apply Reads.join op first
        apply ih (List.cons_ne_nil d rest)
        · intro c' hc'
          exact valid c' (List.mem_cons_of_mem _ hc')
        · intro c' hc'
          exact h c' (List.mem_cons_of_mem _ hc')
      · exact List.cons_ne_nil d rest

/-- The tokens of a proper condition are read with the value of the condition. -/
theorem reads_tokens {c : Cond} (h : Proper c) (valid : c.isValid = true) (ν : Nat → Bool)
    (k : Nat) : Reads ν c.phrase (c.tokens k) (c.value ν k) := by
  induction h generalizing k with
  | empty => cases valid
  | leaf e => exact .operand k e
  | list op children several childrenValid _ ih =>
    apply reads_children op _ childrenValid
    · intro c hc k
      exact ih c hc (childrenValid c hc) k
    · rintro rfl
      cases several

/-! ## Writing tokens -/

theorem putTokens_inParens (w : Writer) (parens : Bool) (ts : List Token) :
    wrapped parens (fun v => v.putTokens ts) w = w.putTokens (inParens parens ts) := by
  cases parens with
  | false => rfl
  | true =>
    apply Writer.eq_of_parts <;>
      simp [wrapped, inParens, Writer.putTokens, Writer.put, Writer.bindAll, spell, Token.text,
        Token.args, String.append_assoc]

mutual
/-- Writing a condition is writing its tokens. -/
theorem write_eq : (c : Cond) → (k : Nat) → (w : Writer) → c.write w = w.putTokens (c.tokens k)
  | empty, k, w => by
    rw [write, tokens, Writer.putTokens_nil]
  | leaf e, k, w => by
    apply Writer.eq_of_parts <;>
      simp [write, tokens, Writer.putTokens, Writer.put, Writer.bindAll, spell, Token.text,
        Token.args]
  | list op children, k, w => by
    rw [write, tokens]
    exact writeChildren_eq op children k w
/-- Writing the children of a list is writing their tokens. -/
theorem writeChildren_eq (op : Connective) : (children : List Cond) → (k : Nat) → (w : Writer) →
    writeChildren op children w = w.putTokens (childrenTokens op k children)
  | [], k, w => by
    rw [writeChildren, childrenTokens, Writer.putTokens_nil]
  | [c], k, w => by
    have body : c.write = fun v => v.putTokens (c.tokens k) := funext (write_eq c k)
    rw [writeChildren, childrenTokens, body, putTokens_inParens]
  | c :: d :: rest, k, w => by
    have body : c.write = fun v => v.putTokens (c.tokens k) := funext (write_eq c k)
    have separator (v : Writer) : v.put op.separator = v.putTokens [.word op] := by
      apply Writer.eq_of_parts <;>
        simp [Writer.putTokens, Writer.put, Writer.bindAll, spell, Token.text, Token.args]
    rw [writeChildren, childrenTokens, body, putTokens_inParens, separator,
      writeChildren_eq op (d :: rest) (k + c.leaves.length), Writer.putTokens_putTokens,
      Writer.putTokens_putTokens, List.singleton_append]
    · exact List.cons_ne_nil d rest
    · exact List.cons_ne_nil d rest
end

theorem leaf?_inParens (parens : Bool) (ts : List Token) :
    (inParens parens ts).filterMap Token.leaf? = ts.filterMap Token.leaf? := by
  cases parens <;> simp [inParens, List.filterMap_cons, Token.leaf?]

mutual
/-- The operands of the tokens are the leaves, numbered from the left. -/
theorem leaves_tokens : (c : Cond) → (k : Nat) →
    (c.tokens k).filterMap Token.leaf? = c.leaves.zipIdx k
  | empty, k => rfl
  | leaf e, k => rfl
  | list op children, k => by
    rw [tokens, leaves]
    exact leaves_childrenTokens op children k
/-- The operands of the tokens of the children of a list. -/
theorem leaves_childrenTokens (op : Connective) : (children : List Cond) → (k : Nat) →
    (childrenTokens op k children).filterMap Token.leaf? = (childrenLeaves children).zipIdx k
  | [], k => rfl
  | [c], k => by
    rw [childrenTokens, leaf?_inParens, leaves_tokens c k, childrenLeaves, childrenLeaves,
      List.append_nil]
  | c :: d :: rest, k => by
    have word : Token.leaf? (.word op) = none := rfl
    have first : childrenLeaves (c :: d :: rest) = c.leaves ++ childrenLeaves (d :: rest) := by
      rw [childrenLeaves]
    rw [childrenTokens, List.filterMap_append, leaf?_inParens, leaves_tokens c k,
      List.filterMap_cons_none word, leaves_childrenTokens op (d :: rest), first,
      List.zipIdx_append]
    exact List.cons_ne_nil d rest
end

/-- Tokens bind the values of their operands. -/
theorem args_of_leaves (ts : List Token) :
    ts.flatMap Token.args = (ts.filterMap Token.leaf?).flatMap fun leaf => leaf.1.args := by
  induction ts with
  | nil => rfl
  | cons t ts ih => cases t <;> simp [List.filterMap_cons, Token.args, Token.leaf?, ih]

theorem args_tokens (c : Cond) (k : Nat) :
    (c.tokens k).flatMap Token.args = c.leaves.flatMap Expr.args := by
  rw [args_of_leaves, leaves_tokens]
  calc (c.leaves.zipIdx k).flatMap (fun leaf => leaf.1.args)
      = ((c.leaves.zipIdx k).map Prod.fst).flatMap Expr.args := by rw [List.flatMap_map]
    _ = c.leaves.flatMap Expr.args := by rw [List.zipIdx_map_fst]

/-- What a valid composed condition writes is read with AND binding tighter than OR, has exactly
one value, and that is the value of the condition; every leaf is one operand, and the arguments are
those of the leaves from the left. -/
theorem written_reads_as_value {c : Cond} (composed : Composed c) (valid : c.isValid = true)
    (w : Writer) :
    (c.write w).text = w.text ++ spell (c.tokens 0) ∧
    (c.tokens 0).filterMap Token.leaf? = c.leaves.zipIdx ∧
    (∀ ν b, Reads ν .disjunction (c.tokens 0) b ↔ b = c.value ν 0) ∧
    (c.write w).args = w.args ++ c.leaves.flatMap Expr.args := by
  have written : c.write w = w.putTokens (c.tokens 0) := write_eq c 0 w
  refine ⟨?_, leaves_tokens c 0, ?_, ?_⟩
  · rw [written]
    rfl
  · intro ν b
    have reading : Reads ν .disjunction (c.tokens 0) (c.value ν 0) := by
      have h := reads_tokens composed.proper valid ν 0
      cases c with
      | empty => cases valid
      | leaf e => exact Reads.toDisjunction .and (.factor h)
      | list op children => exact Reads.toDisjunction op h
    constructor
    · intro h
      exact h.unique reading
    · rintro rfl
      exact reading
  · rw [written, ← args_tokens c 0]
    rfl

/-- A disjunction in a conjunction keeps its parentheses. -/
theorem disjunction_in_conjunction_reads :
    Composed (.all [.any [.raw "a", .raw "b"], .expr "c = ??" [.int32 7]]) ∧
    (all [.any [.raw "a", .raw "b"], .expr "c = ??" [.int32 7]]).isValid = true ∧
    spell [.opening, .opening, .operand 0 ⟨"a", []⟩, .closing, .word .or, .opening,
      .operand 1 ⟨"b", []⟩, .closing, .closing, .word .and, .opening,
      .operand 2 ⟨"c = ??", [.int32 7]⟩, .closing] = "((a) OR (b)) AND (c = ??)" ∧
    ∀ ν b, Reads ν .disjunction [.opening, .opening, .operand 0 ⟨"a", []⟩, .closing, .word .or,
      .opening, .operand 1 ⟨"b", []⟩, .closing, .closing, .word .and, .opening,
      .operand 2 ⟨"c = ??", [.int32 7]⟩, .closing] b ↔ b = ((ν 0 || ν 1) && ν 2) := by
  have inner : Composed (.any [.raw "a", .raw "b"]) := by
    apply Composed.combine
    intro c hc
    rcases List.mem_cons.1 hc with rfl | hc
    · exact .raw "a"
    · rw [List.mem_singleton.1 hc]
      exact .raw "b"
  have composed : Composed (.all [.any [.raw "a", .raw "b"], .expr "c = ??" [.int32 7]]) := by
    apply Composed.combine
    intro c hc
    rcases List.mem_cons.1 hc with rfl | hc
    · exact inner
    · rw [List.mem_singleton.1 hc]
      exact .expr _ _
  have valid : (all [.any [.raw "a", .raw "b"], .expr "c = ??" [.int32 7]]).isValid = true := by
    decide +kernel
  refine ⟨composed, valid, by decide +kernel, ?_⟩
  intro ν b
  have h := (written_reads_as_value composed valid {}).2.2.1 ν b
  have shape : all [.any [.raw "a", .raw "b"], .expr "c = ??" [.int32 7]]
      = list .and [list .or [leaf ⟨"a", []⟩, leaf ⟨"b", []⟩], leaf ⟨"c = ??", [.int32 7]⟩] := rfl
  rw [shape] at h
  simpa [tokens, childrenTokens, inParens, needsParens, leaves, childrenLeaves, value,
    childrenValue, Connective.join, Connective.neutral] using h

end Cond

end SqlCompose
