/-! # Binary floating point, exactly

A floating-point number is held as the word that encodes it, so that a value that is bound,
encoded and decoded comes back bit for bit, not-a-numbers included.  A `Layout` gives the widths of
the exponent and of the fraction; the finite words of a layout stand for `m * 2 ^ q`, and
`Layout.ofRatio` rounds a quotient of natural numbers to the nearest of them, a tie going to the
even one.  Widening, narrowing, products and quotients are all this one rounding.
-/

namespace SqlCompose

/-- The widths of a binary interchange format. -/
structure Layout where
  exponentBits : Nat
  fractionBits : Nat

namespace Layout

/-- Eight bits of exponent and twenty-three of fraction. -/
def single : Layout := ⟨8, 23⟩

/-- Eleven bits of exponent and fifty-two of fraction. -/
def double : Layout := ⟨11, 52⟩

/-- The exponent field of infinities and not-a-numbers. -/
def exponentLimit (l : Layout) : Nat := Nat.pow 2 l.exponentBits - 1

/-- The exponent `q` of the smallest positive number `1 * 2 ^ q`. -/
def leastExponent (l : Layout) : Int := 2 - Nat.pow 2 (l.exponentBits - 1) - l.fractionBits

def infinity (l : Layout) : Nat := l.exponentLimit * Nat.pow 2 l.fractionBits

def signBit (l : Layout) : Nat := Nat.pow 2 (l.exponentBits + l.fractionBits)

/-- The bit of the fraction that makes a not-a-number quiet. -/
def quietBit (l : Layout) : Nat := Nat.pow 2 (l.fractionBits - 1)

end Layout

/-- What a word stands for: a not-a-number with its fraction field, an infinity, or the number
`mantissa * 2 ^ exponent`, each with a sign. -/
inductive FloatDatum where
  | nan (negative : Bool) (payload : Nat)
  | infinite (negative : Bool)
  | finite (negative : Bool) (mantissa : Nat) (exponent : Int)
  deriving DecidableEq, Repr

namespace Layout

/-- Read a word. -/
def datum (l : Layout) (word : Nat) : FloatDatum :=
  let negative := word / l.signBit % 2 == 1
  let exponent := word / Nat.pow 2 l.fractionBits % Nat.pow 2 l.exponentBits
  let fraction := word % Nat.pow 2 l.fractionBits
  if exponent = l.exponentLimit then
    if fraction = 0 then .infinite negative else .nan negative fraction
  else if exponent = 0 then .finite negative fraction l.leastExponent
  else
    .finite negative (Nat.pow 2 l.fractionBits + fraction) (l.leastExponent + (exponent - 1 : Nat))

/-- A word with the given sign and magnitude. -/
def signed (l : Layout) (negative : Bool) (magnitude : Nat) : Nat :=
  if negative then l.signBit + magnitude else magnitude

/-- A natural number times a power of two, as a quotient of natural numbers. -/
def ratio (mantissa : Nat) (exponent : Int) : Nat × Nat :=
  if 0 ≤ exponent then (mantissa * Nat.pow 2 exponent.toNat, 1)
  else (mantissa, Nat.pow 2 (-exponent).toNat)

/-- The quotient rounded to the nearest integer, a tie to the even one. -/
def roundDiv (num den : Nat) : Nat :=
  let q := num / den
  let r := num % den
  if 2 * r < den ∨ (2 * r = den ∧ q % 2 = 0) then q else q + 1

/-- The exponent at which the quotient `num / den` has as many binary digits as a mantissa has,
or the least exponent if that is larger. -/
def ratioExponent (l : Layout) (num den : Nat) : Int :=
  let guess : Int := (num.log2 : Int) - den.log2 - l.fractionBits
  let (n, d) :=
    if 0 ≤ guess then (num, den * Nat.pow 2 guess.toNat)
    else (num * Nat.pow 2 (-guess).toNat, den)
  -- the guess is exact or one too large
  let exact := if n / d < Nat.pow 2 l.fractionBits then guess - 1 else guess
  max exact l.leastExponent

/-- The magnitude of the number nearest to `num / den`, a tie going to the even word; a quotient
too large for a finite number gives infinity. -/
def ofRatio (l : Layout) (num den : Nat) : Nat :=
  if num = 0 then 0
  else
    let e := l.ratioExponent num den
    let q :=
      if 0 ≤ e then roundDiv num (den * Nat.pow 2 e.toNat)
      else roundDiv (num * Nat.pow 2 (-e).toNat) den
    -- a carry out of the mantissa moves into the exponent field by itself
    min ((e - l.leastExponent).toNat * Nat.pow 2 l.fractionBits + q) l.infinity

/-- The word of layout `wanted` nearest to the number that a word of layout `l` stands for.  A
not-a-number keeps the leading bits of its fraction and becomes quiet. -/
def convert (l wanted : Layout) (word : Nat) : Nat :=
  match l.datum word with
  | .infinite negative => wanted.signed negative wanted.infinity
  | .finite negative mantissa exponent =>
    let (num, den) := ratio mantissa exponent
    wanted.signed negative (wanted.ofRatio num den)
  | .nan negative payload =>
    let scaled := payload * Nat.pow 2 wanted.fractionBits / Nat.pow 2 l.fractionBits
    wanted.signed negative (wanted.infinity + (scaled ||| wanted.quietBit))

/-- Whether two words are equal as numbers: a not-a-number equals nothing, the two zeros are
equal. -/
def numEq (l : Layout) (a b : Nat) : Bool :=
  match l.datum a, l.datum b with
  | .nan .., _ => false
  | _, .nan .. => false
  | .finite _ 0 _, .finite _ 0 _ => true
  | x, y => x == y

end Layout

/-- A single-precision number, held as its word. -/
structure Binary32 where
  bits : UInt32
  deriving DecidableEq, Inhabited

/-- A double-precision number, held as its word. -/
structure Binary64 where
  bits : UInt64
  deriving DecidableEq, Inhabited

namespace Binary32

def numEq (a b : Binary32) : Bool :=
  Layout.single.numEq a.bits.toNat b.bits.toNat

def widen (x : Binary32) : Binary64 :=
  ⟨UInt64.ofNat (Layout.single.convert Layout.double x.bits.toNat)⟩

end Binary32

namespace Binary64

def numEq (a b : Binary64) : Bool :=
  Layout.double.numEq a.bits.toNat b.bits.toNat

def narrow (x : Binary64) : Binary32 :=
  ⟨UInt32.ofNat (Layout.double.convert Layout.single x.bits.toNat)⟩

def datum (x : Binary64) : FloatDatum :=
  Layout.double.datum x.bits.toNat

/-- The number nearest to a quotient of natural numbers. -/
def ofRatio (num den : Nat) : Binary64 :=
  ⟨UInt64.ofNat (Layout.double.ofRatio num den)⟩

def ofNat (n : Nat) : Binary64 :=
  ofRatio n 1

def neg (x : Binary64) : Binary64 :=
  ⟨x.bits ^^^ UInt64.ofNat Layout.double.signBit⟩

def isZero (x : Binary64) : Bool :=
  match x.datum with
  | .finite _ 0 _ => true
  | _ => false

def isFinite (x : Binary64) : Bool :=
  match x.datum with
  | .finite .. => true
  | _ => false

/-- The magnitude of a finite number as a quotient. -/
def magnitude (x : Binary64) : Nat × Nat :=
  match x.datum with
  | .finite _ mantissa exponent => Layout.ratio mantissa exponent
  | _ => (0, 1)

/-- The product of two finite magnitudes, rounded. -/
def mulMagnitude (x y : Binary64) : Binary64 :=
  ofRatio (x.magnitude.1 * y.magnitude.1) (x.magnitude.2 * y.magnitude.2)

/-- The quotient of two finite magnitudes, rounded; the divisor is not zero. -/
def divMagnitude (x y : Binary64) : Binary64 :=
  ofRatio (x.magnitude.1 * y.magnitude.2) (x.magnitude.2 * y.magnitude.1)

end Binary64

end SqlCompose
