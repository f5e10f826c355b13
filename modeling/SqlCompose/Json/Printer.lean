import SqlCompose.Float.Shortest
import SqlCompose.Json.Basic

/-! # Writing documents

The compact form: no blanks, members in key order, characters beyond ASCII as themselves, and the
shortest decimal of a double.
-/

namespace SqlCompose.Json

/-- Doubles from `1e-5` up to but excluding `1e16` are positional; a non-negative exponent has a
plus sign. -/
def numberStyle : DecimalStyle := ⟨-5, 15, "+"⟩

/-- A double as text.  What is no number is written as `null`. -/
def renderFloat (x : Binary64) : String :=
  match x.datum with
  | .finite negative mantissa exponent =>
    let magnitude := if mantissa = 0 then "0.0"
      else (shortestDecimal .double mantissa exponent).render numberStyle
    if negative then "-" ++ magnitude else magnitude
  | _ => "null"

/-- A character inside a quoted text. -/
def renderChar (c : Char) : List Char :=
  if c = '"' then ['\\', '"']
  else if c = '\\' then ['\\', '\\']
  else if c = '\x08' then ['\\', 'b']
  else if c = '\x0c' then ['\\', 'f']
  else if c = '\n' then ['\\', 'n']
  else if c = '\r' then ['\\', 'r']
  else if c = '\t' then ['\\', 't']
  else if c.toNat < 0x20 then ['\\', 'u'] ++ hexDigits 4 c.toNat
  else [c]

def renderText (s : String) : String :=
  "\"" ++ String.ofList (s.toList.flatMap renderChar) ++ "\""

mutual
def render : Json → String
  | .null => "null"
  | .bool true => "true"
  | .bool false => "false"
  | .int n => toString n
  | .float x => renderFloat x
  | .str s => renderText s
  | .arr items => "[" ++ renderItems items ++ "]"
  | .obj members => "\x7b" ++ renderMembers members ++ "\x7d"
def renderItems : List Json → String
  | [] => ""
  | [item] => render item
  | item :: rest => render item ++ "," ++ renderItems rest
def renderMembers : List (String × Json) → String
  | [] => ""
  | [(key, value)] => renderText key ++ ":" ++ render value
  | (key, value) :: rest => renderText key ++ ":" ++ render value ++ "," ++ renderMembers rest
end

end SqlCompose.Json
