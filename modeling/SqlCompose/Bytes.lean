/-! # Octets

Octet strings are `List UInt8`: the form in which binary values are held and in which the
wire format of a parameter is written.  Main statements: a number written in `n` octets, most
significant first, reads back modulo `256 ^ n` (`beValue_beBytes`), and a text is determined
by its UTF-8 octets (`utf8_inj`).
-/

namespace SqlCompose

/-- The `n` low octets of a number, most significant first. -/
def beBytes : Nat → Nat → List UInt8
  | 0, _ => []
  | n + 1, v => beBytes n (v / 256) ++ [UInt8.ofNat (v % 256)]

/-- The number that octets spell, most significant first. -/
def beValue (bytes : List UInt8) : Nat :=
  bytes.foldl (fun acc byte => acc * 256 + byte.toNat) 0

/-- As many octets as asked for, whatever the number. -/
@[simp] theorem length_beBytes (n v : Nat) : (beBytes n v).length = n := by
  induction n generalizing v with
  | zero => rfl
  | succ n ih => simp [beBytes, ih]

/-- One more octet behind counts the ones before it 256 times. -/
theorem beValue_concat (bytes : List UInt8) (byte : UInt8) :
    beValue (bytes ++ [byte]) = beValue bytes * 256 + byte.toNat := by
  simp [beValue]

/-- Of a number that needs more octets, the low ones are read back. -/
theorem beValue_beBytes (n v : Nat) : beValue (beBytes n v) = v % Nat.pow 256 n := by
  induction n generalizing v with
  | zero => simp [beBytes, beValue, Nat.mod_one]
  | succ n ih =>
    -- the last octet is the remainder, those before it spell the quotient
    have low : (UInt8.ofNat (v % 256)).toNat = v % 256 := by simp
    have next : Nat.pow 256 (n + 1) = 256 * Nat.pow 256 n := Nat.mul_comm _ _
    rw [beBytes, beValue_concat, ih, low, next, Nat.mod_mul]
    omega

def utf8 (s : String) : List UInt8 :=
  s.toByteArray.data.toList

/-- A text is known by its octets, so an order of octets is one of texts. -/
theorem utf8_inj {s t : String} (h : utf8 s = utf8 t) : s = t := by
  apply String.toByteArray_inj.1
  cases hs : s.toByteArray
  cases ht : t.toByteArray
  simp_all [utf8]

/-- The text that octets encode in UTF-8, if they do. -/
def ofUtf8? (bytes : List UInt8) : Option String :=
  String.fromUTF8? ⟨bytes.toArray⟩

/-- The lower-case hexadecimal digit of a number below sixteen. -/
def hexDigit (n : Nat) : Char :=
  Nat.digitChar (n % 16)

/-- The last `width` hexadecimal digits of a number, in lower case. -/
def hexDigits : Nat → Nat → List Char
  | 0, _ => []
  | width + 1, n => hexDigits width (n / 16) ++ [hexDigit n]

/-- A number in exactly `width` lower-case hexadecimal digits. -/
def toHex (width n : Nat) : String :=
  String.ofList (hexDigits width n)

/-- Octets as text, two lower-case hexadecimal digits each. -/
def hexOfBytes (bytes : List UInt8) : String :=
  String.ofList (bytes.flatMap fun b => hexDigits 2 b.toNat)

/-- The value of a hexadecimal digit of either case. -/
def hexValue? (c : Char) : Option Nat :=
  if '0' ≤ c ∧ c ≤ '9' then some (c.toNat - '0'.toNat)
  else if 'a' ≤ c ∧ c ≤ 'f' then some (c.toNat - 'a'.toNat + 10)
  else if 'A' ≤ c ∧ c ≤ 'F' then some (c.toNat - 'A'.toNat + 10)
  else none

/-- The number that hexadecimal digits spell; `none` if a character is no such digit. -/
def hexNumber? (digits : List Char) : Option Nat :=
  digits.foldlM (fun acc c => (hexValue? c).map (acc * 16 + ·)) 0

/-- The octets that pairs of hexadecimal digits spell. -/
def bytesOfHexDigits? : List Char → Option (List UInt8)
  | [] => some []
  | [_] => none
  | a :: b :: rest => do
    let hi ← hexValue? a
    let lo ← hexValue? b
    let more ← bytesOfHexDigits? rest
    return UInt8.ofNat (hi * 16 + lo) :: more

/-- The octets that a text of hexadecimal digit pairs spells. -/
def bytesOfHex? (s : String) : Option (List UInt8) :=
  bytesOfHexDigits? s.toList

end SqlCompose
