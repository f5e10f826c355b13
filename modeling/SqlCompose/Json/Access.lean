import SqlCompose.Json.Basic
import SqlCompose.Text.Digits

/-! # Taking documents apart

What a document is, if it is of the expected kind.
-/

namespace SqlCompose.Json

def bool? : Json → Option Bool
  | .bool b => some b
  | _ => none

def text? : Json → Option String
  | .str s => some s
  | _ => none

def count? : Json → Option Nat
  | .int n => if 0 ≤ n then some n.toNat else none
  | _ => none

/-- An integer, as a number or as a text of decimal digits. -/
def integer? : Json → Option Int
  | .int n => some n
  | .str s => integerOfText? s.toList
  | _ => none

/-- An integer that is not negative, as a number or as a text of decimal digits. -/
def natural? (j : Json) : Option Nat :=
  j.integer?.bind fun n => if 0 ≤ n then some n.toNat else none

def array? : Json → Option (List Json)
  | .arr items => some items
  | _ => none

def texts? (j : Json) : Option (List String) :=
  j.array?.bind fun items => items.mapM text?

/-- The word that a document chooses: a text, or an object whose only member is that word with a
null. -/
def word? : Json → Option String
  | .str s => some s
  | .obj [(key, .null)] => some key
  | _ => none

/-- The part of a document under a name, or at a position if the document is a list. -/
def part? (j : Json) (position : Nat) (name : String) : Option Json :=
  match j with
  | .obj _ => j.get? name
  | .arr items => items[position]?
  | _ => none

/-- Read a part, or take its default where it is missing. -/
def partOr? {α : Type} (j : Json) (position : Nat) (name : String) (read? : Json → Option α)
    (default : α) : Option α :=
  match j.part? position name with
  | none => some default
  | some part => read? part

/-- Whether a document can hold `size` named parts: an object, or a list that is not longer. -/
def isRecordOf (j : Json) (size : Nat) : Bool :=
  match j with
  | .obj _ => true
  | .arr items => items.length ≤ size
  | _ => false

/-- Read the items of a list under a name; there are none without such a member. -/
def listAt? {α : Type} (j : Json) (name : String) (read? : Json → Option α) : Option (List α) :=
  match j.get? name with
  | none => some []
  | some part => part.array?.bind fun items => items.mapM read?

/-- Read what is under a name, unless it is missing or null. -/
def optionAt? {α : Type} (j : Json) (name : String) (read? : Json → Option α) :
    Option (Option α) :=
  match j.get? name with
  | none => some none
  | some .null => some none
  | some part => (read? part).map some

end SqlCompose.Json
