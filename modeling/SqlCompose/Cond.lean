import SqlCompose.Writer

/-! # Conditions

A condition is empty, a raw fragment of SQL with the values bound in it, or a list of conditions
joined by AND or OR.  Joining drops what is not valid and does not make lists of fewer than two: of
no valid operand comes the empty condition, of one that operand itself.

Written, a child of a list stands in parentheses if it is a fragment or a list with the other
connective; a list with the same connective is written as part of its parent.
-/

namespace SqlCompose

/-- A raw fragment of SQL and the values its markers refer to. -/
structure Expr where
  sql : String
  args : List Value

/-- How a list of conditions is joined. -/
inductive Connective where
  | and
  | or
  deriving DecidableEq, Repr

def Connective.separator : Connective → String
  | and => " AND "
  | or => " OR "

inductive Cond where
  | empty
  | leaf (e : Expr)
  | list (op : Connective) (children : List Cond)

namespace Cond

instance : Inhabited Cond := ⟨empty⟩

/-- Whether there is something to write: neither the empty condition nor a fragment without text. -/
def isValid : Cond → Bool
  | empty => false
  | leaf e => !e.sql.isEmpty
  | list _ _ => true

/-- A fragment with its values; the empty condition if it has no text. -/
def expr (sql : String) (args : List Value) : Cond :=
  if sql.isEmpty then empty else leaf ⟨sql, args⟩

def raw (sql : String) : Cond :=
  expr sql []

/-- The condition that a column has a value; the empty condition if the column has no name. -/
def eq (column : String) (value : Value) : Cond :=
  if column.isEmpty then empty else expr (column ++ " = " ++ marker) [value]

/-- Join the valid ones of some conditions. -/
def combine (op : Connective) (conds : List Cond) : Cond :=
  match conds.filter isValid with
  | [] => empty
  | [c] => c
  | children => list op children

def all (conds : List Cond) : Cond :=
  combine .and conds

def any (conds : List Cond) : Cond :=
  combine .or conds

/-- Join a condition with others; it stays as it is if there are none. -/
def combineWith (op : Connective) (c : Cond) (others : List Cond) : Cond :=
  if others.isEmpty then c else combine op (c :: others)

def children : Cond → List Cond
  | list _ children => children
  | _ => []

/-- Whether a condition stands in parentheses as a child of a list. -/
def needsParens (parent : Connective) : Cond → Bool
  | empty => false
  | leaf _ => true
  | list op _ => op != parent

/-- Write something, in parentheses or not. -/
def wrapped (parens : Bool) (body : Writer → Writer) (w : Writer) : Writer :=
  if parens then (body (w.put "(")).put ")" else body w

mutual
/-- Write a condition and bind its values. -/
def write : Cond → Writer → Writer
  | empty, w => w
  | leaf e, w => (w.put e.sql).bindAll e.args
  | list op children, w => writeChildren op children w
def writeChildren (op : Connective) : List Cond → Writer → Writer
  | [], w => w
  | [c], w => wrapped (c.needsParens op) c.write w
  | c :: rest, w => writeChildren op rest ((wrapped (c.needsParens op) c.write w).put op.separator)
end

/-- A condition by itself, in an empty writer. -/
def toWriter (c : Cond) : Writer :=
  c.write {}

/-- Write a condition by itself, in place of what a writer holds. -/
def writeOver (c : Cond) (w : Writer) : Writer :=
  c.write w.reset

end Cond

end SqlCompose
