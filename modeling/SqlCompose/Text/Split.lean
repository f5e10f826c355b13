import SqlCompose.Bytes

/-! # Cutting texts at octets

An offset in UTF-8 octets cuts a text only where it falls between two characters.  Main statement:
the length of a first part is such an offset, and cuts it off again (`splitText?_append`).
-/

namespace SqlCompose

/-- The two parts of a text at an offset in UTF-8 octets, if the offset is not beyond the end and
not inside a character. -/
def splitText? (text : String) (offset : Nat) : Option (String × String) :=
  if offset ≤ (utf8 text).length then do
    let before ← ofUtf8? ((utf8 text).take offset)
    let after ← ofUtf8? ((utf8 text).drop offset)
    return (before, after)
  else none

theorem utf8_append (s t : String) : utf8 (s ++ t) = utf8 s ++ utf8 t := by
  simp [utf8, String.toByteArray_append, ByteArray.data_append]

/-- The octets of a text are read as that text. -/
theorem ofUtf8?_utf8 (s : String) : ofUtf8? (utf8 s) = some s := by
  simp only [ofUtf8?, utf8, Array.toArray_toList]
  rw [String.fromUTF8?, dif_pos s.isValidUTF8]
  rfl

/-- At the length of its first part a text comes apart where it was put together. -/
theorem splitText?_append (s t : String) :
    splitText? (s ++ t) (utf8 s).length = some (s, t) := by
  simp [splitText?, utf8_append, ofUtf8?_utf8]

theorem splitText?_zero (s : String) : splitText? s 0 = some ("", s) := by
  simpa [utf8] using splitText?_append "" s

end SqlCompose
