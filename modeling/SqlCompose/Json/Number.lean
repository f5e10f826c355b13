import SqlCompose.Json.Basic
import SqlCompose.Text.Digits

/-! # Reading numbers

A number without point and exponent that fits sixty-four bits is an integer.  Any other number is
read in two steps: as many leading digits as fit sixty-four bits form the significand, and the
significand, rounded to a double, is then multiplied or divided by a power of ten, itself a double.
Two roundings can differ from one, so the steps are kept apart here.
-/

namespace SqlCompose.Json

/-- The numeral in front of a text, split at its point and at its exponent mark. -/
structure Numeral where
  negative : Bool
  whole : List Char
  fraction : Option (List Char)
  /-- Whether the exponent is negative, and its digits. -/
  exponent : Option (Bool × List Char)

/-- A non-empty run of digits and what follows it. -/
def digitRun? (s : List Char) : Option (List Char × List Char) :=
  match s.takeWhile Char.isDigit with
  | [] => none
  | ds => some (ds, s.dropWhile Char.isDigit)

/-- The fraction of a numeral, if a point stands in front. -/
def fraction? (s : List Char) : Option (Option (List Char) × List Char) :=
  match s with
  | '.' :: rest => (digitRun? rest).map fun (ds, rest) => (some ds, rest)
  | _ => some (none, s)

/-- The digits of an exponent and what follows, after its sign. -/
def exponentDigits? (negative : Bool) (s : List Char) :
    Option (Option (Bool × List Char) × List Char) :=
  (digitRun? s).map fun (ds, rest) => (some (negative, ds), rest)

/-- The exponent of a numeral, if an exponent mark stands in front. -/
def exponent? (s : List Char) : Option (Option (Bool × List Char) × List Char) :=
  match s with
  | e :: rest =>
    if e = 'e' ∨ e = 'E' then
      match rest with
      | '+' :: rest => exponentDigits? false rest
      | '-' :: rest => exponentDigits? true rest
      | _ => exponentDigits? false rest
    else some (none, s)
  | [] => some (none, s)

/-- The numeral in front of a text and what follows it.  A whole part of more than one digit has no
leading zero. -/
def numeral? (s : List Char) : Option (Numeral × List Char) := do
  let (negative, s) := match s with
    | '-' :: rest => (true, rest)
    | _ => (false, s)
  let (whole, s) ← digitRun? s
  if whole.head? = some '0' ∧ whole.length ≠ 1 then none
  let (fraction, s) ← fraction? s
  let (exponent, s) ← exponent? s
  return (⟨negative, whole, fraction, exponent⟩, s)

def significandLimit : Nat := 0xffffffffffffffff

/-- Take in digits as long as the significand stays within its limit; with the digits left over. -/
def absorb (significand : Nat) : List Char → Nat × List Char
  | [] => (significand, [])
  | c :: rest =>
    let next := significand * 10 + (c.toNat - '0'.toNat)
    if next ≤ significandLimit then absorb next rest else (significand, c :: rest)

/-- The greatest power of ten that is a finite double. -/
def greatestPower : Nat := 308

def powerOfTen (e : Nat) : Binary64 := .ofNat (Nat.pow 10 e)

/-- `x * 10 ^ exponent` in steps of at most `greatestPower`; `none` if it exceeds every finite
number.  A magnitude that has become zero stays zero, so `fuel` need only cover the steps to
zero. -/
def scaleMagnitude? : Nat → Binary64 → Int → Option Binary64
  | 0, x, _ => some x
  | fuel + 1, x, exponent =>
    if exponent.natAbs ≤ greatestPower then
      if 0 ≤ exponent then
        let y := x.mulMagnitude (powerOfTen exponent.natAbs)
        if y.isFinite then some y else none
      else some (x.divMagnitude (powerOfTen exponent.natAbs))
    else if x.isZero then some x
    else if 0 ≤ exponent then none
    else scaleMagnitude? fuel (x.divMagnitude (powerOfTen greatestPower)) (exponent + greatestPower)

/-- The exponents that are told apart; an exponent outside counts as the nearer end. -/
def exponentLimit : Nat := 0x7fffffff

/-- The sign of a number on its magnitude. -/
def withSign (negative : Bool) (x : Binary64) : Json :=
  .float (if negative then x.neg else x)

/-- The number that a numeral stands for, unless its magnitude exceeds every finite double. -/
def Numeral.value? (n : Numeral) : Option Json :=
  let (significand, beyond) := absorb 0 n.whole
  match n.fraction, n.exponent, beyond with
  | none, none, [] =>
    if !n.negative then some (.int significand)
    -- a negative zero and integers below the least one are doubles
    else if significand = 0 ∨ 0x8000000000000000 < significand then
      some (withSign true (.ofNat significand))
    else some (.int (-significand))
  | fraction, exponent, beyond =>
    let digits := fraction.getD []
    let (significand, unread) := absorb significand digits
    let shift : Int := beyond.length - (digits.length - unread.length : Nat)
    match exponent with
    | none => (scaleMagnitude? 4 (.ofNat significand) shift).map (withSign n.negative)
    | some (down, ds) =>
      let e := digitsValue ds
      if exponentLimit < e then
        if significand ≠ 0 ∧ !down then none else some (withSign n.negative (.ofNat 0))
      else
        let total :=
          if down then max (shift - e) (-exponentLimit - 1) else min (shift + e) exponentLimit
        (scaleMagnitude? 4 (.ofNat significand) total).map (withSign n.negative)

end SqlCompose.Json
