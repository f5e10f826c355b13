import SqlCompose.Text.Split

/-! # Excerpts

The beginning of a long text: at most as many octets as there is room for, stepping back to the end
of a character.
-/

namespace SqlCompose

/-- The greatest offset at most `limit` that does not fall inside a character. -/
def stepBack (text : String) : (limit : Nat) → Nat
  | 0 => 0
  | n + 1 => if (splitText? text (n + 1)).isSome then n + 1 else stepBack text n

/-- A text of at most `limit` octets as it is, the beginning of a longer one with three dots behind
it.  The cut always exists, because the beginning of a text is no place inside a character. -/
def excerpt (text : String) (limit : Nat) : String :=
  if (utf8 text).length ≤ limit then text
  else match splitText? text (stepBack text limit) with
    | some (before, _) => before ++ "..."
    | none => text

end SqlCompose
