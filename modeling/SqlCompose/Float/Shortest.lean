import SqlCompose.Float.Binary

/-! # The shortest decimal that reads back

The numbers that round to a given word form an interval; its ends belong to it iff the mantissa is
even.  `shortestDecimal` tests, for one, two, … seventeen digits, the two neighbours of the exact
value on that decimal grid, and takes the first grid with a neighbour inside the interval, the
nearer of two, the even one on a tie.
-/

namespace SqlCompose

/-- The number `digits * 10 ^ exponent`. -/
structure Decimal where
  digits : Nat
  exponent : Int
  deriving DecidableEq, Repr

namespace Decimal

/-- A power of ten over the common denominator: `(scale up, scale down)`. -/
def scale (exponent : Int) : Nat × Nat :=
  if 0 ≤ exponent then (Nat.pow 10 exponent.toNat, 1) else (1, Nat.pow 10 (-exponent).toNat)

/-- Move trailing zeros of the digits into the exponent; `fuel` bounds their number. -/
def trim : Nat → Decimal → Decimal
  | 0, d => d
  | fuel + 1, ⟨digits, exponent⟩ =>
    if digits ≠ 0 ∧ digits % 10 = 0 then trim fuel ⟨digits / 10, exponent + 1⟩
    else ⟨digits, exponent⟩

end Decimal

/-- The positive numbers that round to one word, in units of `2 ^ exponent`: from `low` to `high`
around `value`, with the ends if `closed`. -/
structure RoundingInterval where
  low : Nat
  value : Nat
  high : Nat
  exponent : Int
  closed : Bool

namespace RoundingInterval

/-- The interval of the word with a mantissa and an exponent, in quarters of a unit.  Below a power
of two the words are twice as dense, unless the exponent is already the least. -/
def ofMantissa (l : Layout) (mantissa : Nat) (exponent : Int) : RoundingInterval :=
  let denseBelow := mantissa = Nat.pow 2 l.fractionBits ∧ exponent ≠ l.leastExponent
  { low := 4 * mantissa - (if denseBelow then 1 else 2)
    value := 4 * mantissa
    high := 4 * mantissa + 2
    exponent := exponent - 2
    closed := mantissa % 2 = 0 }

def contains (i : RoundingInterval) (d : Decimal) : Bool :=
  let (up, down) := Decimal.scale d.exponent
  let (unitNum, unitDen) := Layout.ratio 1 i.exponent
  let x := d.digits * up * unitDen
  let lo := i.low * unitNum * down
  let hi := i.high * unitNum * down
  if i.closed then lo ≤ x && x ≤ hi else lo < x && x < hi

/-- The neighbour of the exact value on the grid of step `10 ^ e` that is nearest among those in the
interval. -/
def nearestOnGrid? (i : RoundingInterval) (e : Int) : Option Decimal :=
  let (up, down) := Decimal.scale e
  let (unitNum, unitDen) := Layout.ratio 1 i.exponent
  let num := i.value * unitNum * down
  let den := unitDen * up
  let below : Decimal := ⟨num / den, e⟩
  let above : Decimal := ⟨num / den + 1, e⟩
  let r := num % den
  match i.contains below, i.contains above with
  | true, true =>
    if 2 * r < den ∨ (2 * r = den ∧ below.digits % 2 = 0) then some below else some above
  | true, false => some below
  | false, true => some above
  | false, false => none

/-- The first grid, from the exponent `e` down, that has a neighbour in the interval. -/
def firstGrid : Nat → RoundingInterval → Int → Decimal
  | 0, i, e => (i.nearestOnGrid? e).getD ⟨0, 0⟩
  | more + 1, i, e => (i.nearestOnGrid? e).getD (firstGrid more i (e - 1))

end RoundingInterval

/-- The position of the leading decimal digit of `num / den`, or one more. -/
def decimalMagnitude (num den : Nat) : Int :=
  ((Nat.toDigits 10 num).length : Int) - (Nat.toDigits 10 den).length

/-- The shortest decimal of the positive number `mantissa * 2 ^ exponent` of a layout. -/
def shortestDecimal (l : Layout) (mantissa : Nat) (exponent : Int) : Decimal :=
  let (num, den) := Layout.ratio mantissa exponent
  let top := decimalMagnitude num den
  (RoundingInterval.firstGrid 18 (.ofMantissa l mantissa exponent) top).trim 40

/-- How a decimal is laid out as text. -/
structure DecimalStyle where
  /-- Leading digits at these powers of ten and between are written positionally. -/
  leastPositional : Int
  greatestPositional : Int
  /-- What stands before a non-negative exponent. -/
  exponentSign : String

/-- A positive decimal as text: positional within the style's range, with at least one digit on each
side of the point; otherwise one digit, the rest behind a point, and the exponent. -/
def Decimal.render (style : DecimalStyle) (d : Decimal) : String :=
  let ds := Nat.toDigits 10 d.digits
  let lead : Int := d.exponent + ds.length - 1
  if style.leastPositional ≤ lead ∧ lead ≤ style.greatestPositional then
    if 0 ≤ d.exponent then
      String.ofList (ds ++ List.replicate d.exponent.toNat '0') ++ ".0"
    else if 0 ≤ lead then
      String.ofList (ds.take (lead.toNat + 1)) ++ "." ++ String.ofList (ds.drop (lead.toNat + 1))
    else
      "0." ++ String.ofList (List.replicate (-lead - 1).toNat '0' ++ ds)
  else
    let body := match ds with
      | [] => ""
      | [c] => String.ofList [c]
      | c :: rest => String.ofList (c :: '.' :: rest)
    let exponent :=
      if 0 ≤ lead then style.exponentSign ++ toString lead.toNat else "-" ++ toString (-lead).toNat
    body ++ "e" ++ exponent

end SqlCompose
