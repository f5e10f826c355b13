import SqlCompose.Float.Binary
import SqlCompose.KeyMap

/-! # JSON documents

A document as a value: integers of up to sixty-four bits are exact, every other number is a
double.  The members of an object are listed by key, one per key.
-/

namespace SqlCompose

inductive Json where
  | null
  | bool (b : Bool)
  | int (n : Int)
  | float (x : Binary64)
  | str (s : String)
  | arr (items : List Json)
  | obj (members : List (String × Json))

namespace Json

instance : Inhabited Json := ⟨.null⟩

/-- An object with the members of a list; of two members with one key the later is kept. -/
def ofMembers (members : List (String × Json)) : Json :=
  .obj (KeyMap.ofList members).entries

def get? (j : Json) (key : String) : Option Json :=
  match j with
  | .obj members => members.lookup key
  | _ => none

mutual
/-- Equality of documents.  Numbers are compared as numbers within their kind: the two zeros of
floating point are equal, an integer never equals a floating-point number. -/
def equal : Json → Json → Bool
  | .null, .null => true
  | .bool a, .bool b => a == b
  | .int a, .int b => a == b
  | .float a, .float b => a.numEq b
  | .str a, .str b => a == b
  | .arr a, .arr b => equalItems a b
  | .obj a, .obj b => equalMembers a b
  | _, _ => false
def equalItems : List Json → List Json → Bool
  | [], [] => true
  | a :: as, b :: bs => equal a b && equalItems as bs
  | _, _ => false
def equalMembers : List (String × Json) → List (String × Json) → Bool
  | [], [] => true
  | (k, a) :: as, (l, b) :: bs => k == l && equal a b && equalMembers as bs
  | _, _ => false
end

end Json

end SqlCompose
