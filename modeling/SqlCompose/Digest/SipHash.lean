import SqlCompose.Bytes

/-! # SipHash

SipHash-1-3 with a zero key: one round per block of eight octets, three to finish.  Statement names
are made of it, so equal texts must have equal digests from one run to the next.
-/

namespace SqlCompose

namespace SipHash

structure State where
  a : UInt64
  b : UInt64
  c : UInt64
  d : UInt64

def rotl (x : UInt64) (n : UInt64) : UInt64 :=
  (x <<< n) ||| (x >>> (64 - n))

def round (s : State) : State :=
  let a := s.a + s.b
  let b := rotl s.b 13 ^^^ a
  let a := rotl a 32
  let c := s.c + s.d
  let d := rotl s.d 16 ^^^ c
  let a := a + d
  let d := rotl d 21 ^^^ a
  let c := c + b
  let b := rotl b 17 ^^^ c
  let c := rotl c 32
  ⟨a, b, c, d⟩

/-- The state of the zero key. -/
def start : State :=
  ⟨0x736f6d6570736575, 0x646f72616e646f6d, 0x6c7967656e657261, 0x7465646279746573⟩

def absorb (s : State) (word : UInt64) : State :=
  let s := round { s with d := s.d ^^^ word }
  { s with a := s.a ^^^ word }

/-- The word that up to eight octets make, the first one lowest. -/
def littleEndian (bytes : List UInt8) : UInt64 :=
  UInt64.ofNat (beValue bytes.reverse)

/-- Take in octets, eight at a time; `blocks` is the number of whole blocks.  The last, incomplete
block carries the number of all octets in its highest one. -/
def absorbBlocks (size : Nat) : Nat → List UInt8 → State → State
  | 0, bytes, s => absorb s (littleEndian bytes ||| (UInt64.ofNat size <<< 56))
  | blocks + 1, bytes, s =>
    absorbBlocks size blocks (bytes.drop 8) (absorb s (littleEndian (bytes.take 8)))

def digest (bytes : List UInt8) : UInt64 :=
  let s := absorbBlocks bytes.length (bytes.length / 8) bytes start
  let s := round (round (round { s with c := s.c ^^^ 0xff }))
  s.a ^^^ s.b ^^^ s.c ^^^ s.d

end SipHash

/-- The digest of a text: of its UTF-8 octets and one octet `ff` behind them. -/
def textDigest (s : String) : UInt64 :=
  SipHash.digest (utf8 s ++ [0xff])

/-- The name under which a statement is prepared: a given beginning, then its digest in sixteen
hexadecimal digits. -/
def statementName (namePrefix sql : String) : String :=
  namePrefix ++ toHex 16 (textDigest sql).toNat

end SqlCompose
