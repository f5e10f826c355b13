/-! # Decimal digits

Integers as texts of ASCII decimal digits.  Leading zeros are allowed; nothing else may stand
beside the digits than one sign in front.
-/

namespace SqlCompose

/-- The number that decimal digits spell, most significant first. -/
def digitsValue (digits : List Char) : Nat :=
  digits.foldl (fun acc c => acc * 10 + (c.toNat - '0'.toNat)) 0

/-- The number of a text that is one or more digits. -/
def ofDigits? (s : List Char) : Option Nat :=
  if s.isEmpty ∨ !s.all Char.isDigit then none else some (digitsValue s)

/-- The number of a text of digits, possibly after a plus sign. -/
def naturalOfText? : List Char → Option Nat
  | '+' :: digits => ofDigits? digits
  | digits => ofDigits? digits

/-- The number of a text of digits, possibly after a sign. -/
def integerOfText? : List Char → Option Int
  | '-' :: digits => (ofDigits? digits).map fun n => -(n : Int)
  | s => (naturalOfText? s).map Int.ofNat

end SqlCompose
