import SqlCompose.Json.Number

/-! # Reading documents

The grammar is the strict one: no comments, no trailing commas, no control characters inside
texts, no half surrogate pairs, and nothing but blanks around the document.  Arrays and objects nest
at most `depthLimit` deep, less one.
-/

namespace SqlCompose.Json

/-- A document may not open this many arrays and objects inside one another. -/
def depthLimit : Nat := 128

def isBlank (c : Char) : Bool :=
  c = ' ' || c = '\n' || c = '\t' || c = '\r'

def skipBlanks (s : List Char) : List Char :=
  s.dropWhile isBlank

/-- The character of a pair of surrogates. -/
def ofSurrogates (high low : Nat) : Char :=
  Char.ofNat (0x10000 + (high - 0xD800) * 0x400 + (low - 0xDC00))

/-- The character that a one-letter escape stands for. -/
def escaped? : Char → Option Char
  | '"' => some '"'
  | '\\' => some '\\'
  | '/' => some '/'
  | 'b' => some '\x08'
  | 'f' => some '\x0c'
  | 'n' => some '\n'
  | 'r' => some '\r'
  | 't' => some '\t'
  | _ => none

/-- The rest of a text after its opening quote, and what follows the closing one; `seen` is what
has been read, last character first. -/
def textRest? (seen : List Char) : List Char → Option (String × List Char)
  | '"' :: rest => some (String.ofList seen.reverse, rest)
  | '\\' :: 'u' :: a :: b :: c :: d :: rest =>
    match hexNumber? [a, b, c, d] with
    | none => none
    | some high =>
      if 0xDC00 ≤ high ∧ high ≤ 0xDFFF then none
      else if 0xD800 ≤ high ∧ high ≤ 0xDBFF then
        match rest with
        | '\\' :: 'u' :: e :: f :: g :: h :: rest =>
          match hexNumber? [e, f, g, h] with
          | none => none
          | some low =>
            if 0xDC00 ≤ low ∧ low ≤ 0xDFFF then textRest? (ofSurrogates high low :: seen) rest
            else none
        | _ => none
      else textRest? (Char.ofNat high :: seen) rest
  | '\\' :: c :: rest =>
    match escaped? c with
    | some c => textRest? (c :: seen) rest
    | none => none
  | c :: rest => if c.toNat < 0x20 then none else textRest? (c :: seen) rest
  | [] => none

/-- What follows a fixed word, if it stands in front. -/
def afterWord? : List Char → List Char → Option (List Char)
  | [], s => some s
  | c :: word, d :: s => if c = d then afterWord? word s else none
  | _ :: _, [] => none

mutual
/-- The document in front of a text and what follows it.  `fuel` bounds the steps, `depth` the
arrays and objects that may still open. -/
def document? : (fuel depth : Nat) → List Char → Option (Json × List Char)
  | 0, _, _ => none
  | fuel + 1, depth, s =>
    match skipBlanks s with
    | '"' :: rest => (textRest? [] rest).map fun (t, rest) => (.str t, rest)
    | '[' :: rest =>
      if depth ≤ 1 then none
      else match skipBlanks rest with
        | ']' :: rest => some (.arr [], rest)
        | _ => (items? fuel (depth - 1) rest).map fun (items, rest) => (.arr items, rest)
    | '\x7b' :: rest =>
      if depth ≤ 1 then none
      else match skipBlanks rest with
        | '\x7d' :: rest => some (.obj [], rest)
        | _ => (members? fuel (depth - 1) rest).map fun (members, rest) => (ofMembers members, rest)
    | 't' :: rest => (afterWord? "rue".toList rest).map fun rest => (.bool true, rest)
    | 'f' :: rest => (afterWord? "alse".toList rest).map fun rest => (.bool false, rest)
    | 'n' :: rest => (afterWord? "ull".toList rest).map fun rest => (.null, rest)
    | s => do
      let (n, rest) ← numeral? s
      let v ← n.value?
      return (v, rest)
/-- One or more items up to the closing bracket, and what follows it. -/
def items? : (fuel depth : Nat) → List Char → Option (List Json × List Char)
  | 0, _, _ => none
  | fuel + 1, depth, s => do
    let (item, rest) ← document? fuel depth s
    match skipBlanks rest with
    | ']' :: rest => return ([item], rest)
    | ',' :: rest =>
      let (items, rest) ← items? fuel depth rest
      return (item :: items, rest)
    | _ => none
/-- One or more members up to the closing brace, and what follows it. -/
def members? : (fuel depth : Nat) → List Char → Option (List (String × Json) × List Char)
  | 0, _, _ => none
  | fuel + 1, depth, s =>
    match skipBlanks s with
    | '"' :: rest => do
      let (key, rest) ← textRest? [] rest
      match skipBlanks rest with
      | ':' :: rest =>
        let (value, rest) ← document? fuel depth rest
        match skipBlanks rest with
        | '\x7d' :: rest => return ([(key, value)], rest)
        | ',' :: rest =>
          let (members, rest) ← members? fuel depth rest
          return ((key, value) :: members, rest)
        | _ => none
      | _ => none
    | _ => none
end

/-- The document that a text is, from end to end.  Every second step at least reads a character, so
twice the length of the text is enough. -/
def ofText? (s : String) : Option Json := do
  let chars := s.toList
  let (j, rest) ← document? (2 * chars.length + 2) depthLimit chars
  if (skipBlanks rest).isEmpty then some j else none

end SqlCompose.Json
