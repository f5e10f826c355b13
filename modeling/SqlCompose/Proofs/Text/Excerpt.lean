import SqlCompose.Text.Excerpt

/-! # Where excerpts are cut

An offset cuts a text exactly where a beginning of whole characters ends, and it yields that
beginning (`splitText?_eq_some_iff`).  Stepping back from a limit stops at the greatest of these
offsets, so that no longer beginning fits, and it stops before it has gone back over a whole
character.

Main statement: `excerpt_longest_beginning`.
-/

namespace SqlCompose

/-! ## Places where a text can be cut -/

/-- Octets that are read as a text are those of the text. -/
theorem utf8_of_ofUtf8? {bytes : List UInt8} {s : String} (read : ofUtf8? bytes = some s) :
    utf8 s = bytes := by
  rw [ofUtf8?, String.fromUTF8?] at read
  split at read
  · cases read
    rfl
  · cases read

/-- An offset cuts a text into two if the first of them is that long. -/
theorem splitText?_eq_some_iff {text before after : String} {offset : Nat} :
    splitText? text offset = some (before, after) ↔
      text = before ++ after ∧ offset = (utf8 before).length := by
  constructor
  · intro cut
    rw [splitText?] at cut
    split at cut
    · next within =>
      rcases Option.bind_eq_some_iff.1 cut with ⟨first, readFirst, rest⟩
      rcases Option.bind_eq_some_iff.1 rest with ⟨second, readSecond, parts⟩
      cases parts
      have octetsFirst : utf8 before = (utf8 text).take offset := utf8_of_ofUtf8? readFirst
      have octetsSecond : utf8 after = (utf8 text).drop offset := utf8_of_ofUtf8? readSecond
      constructor
      · apply utf8_inj
        rw [utf8_append, octetsFirst, octetsSecond, List.take_append_drop]
      · rw [octetsFirst, List.length_take_of_le within]
    · cases cut
  · rintro ⟨rfl, rfl⟩
    exact splitText?_append before after

theorem utf8_length_singleton (c : Char) : (utf8 (String.singleton c)).length = c.utf8Size := by
  rw [utf8, String.toByteArray_singleton]
  simp [List.utf8Encode]

/-- Of two beginnings of a text, the one with fewer octets begins the other. -/
theorem prefix_of_length_le {p q text : String} (hp : p.toList <+: text.toList)
    (hq : q.toList <+: text.toList) (le : (utf8 p).length ≤ (utf8 q).length) :
    p.toList <+: q.toList := by
  rcases List.prefix_or_prefix_of_prefix hp hq with shorter | ⟨rest, longer⟩
  · exact shorter
  · have text_eq : q ++ String.ofList rest = p := by
      rw [← String.toList_inj, String.toList_append, String.toList_ofList, longer]
    have octets : utf8 q ++ utf8 (String.ofList rest) = utf8 p := by
      rw [← utf8_append, text_eq]
    have none : utf8 (String.ofList rest) = [] := by
      rw [← octets, List.length_append] at le
      exact List.length_eq_zero_iff.1 (by omega)
    rw [none, List.append_nil] at octets
    have same : q = p := utf8_inj octets
    subst same
    exact List.prefix_rfl

/-! ## Stepping back -/

theorem stepBack_le (text : String) (limit : Nat) : stepBack text limit ≤ limit := by
  induction limit with
  | zero => exact Nat.le_refl 0
  | succ n ih =>
    rw [stepBack]
    split
    · exact Nat.le_refl _
    · exact Nat.le_succ_of_le ih

/-- Stepping back never ends inside a character. -/
theorem stepBack_cuts (text : String) (limit : Nat) :
    (splitText? text (stepBack text limit)).isSome := by
  induction limit with
  | zero =>
    rw [stepBack, splitText?_zero]
    rfl
  | succ n ih =>
    rw [stepBack]
    split
    · next cuts => exact cuts
    · exact ih

/-- Stepping back passes no place where the text can be cut. -/
theorem le_stepBack {text : String} {offset limit : Nat} (within : offset ≤ limit)
    (cuts : (splitText? text offset).isSome) : offset ≤ stepBack text limit := by
  induction limit with
  | zero => exact within
  | succ n ih =>
    rw [stepBack]
    split
    · exact within
    · -- one step back; the place is no cut, so the wanted offset is another one
      next inside =>
      have other : offset ≠ n + 1 := by
        rintro rfl
        exact inside cuts
      exact ih (by omega)

/-! ## What is left of a text -/

/-- A beginning of a text, of whole characters, that fits into so many octets and that every other
which does so begins. -/
structure LongestBeginning (text : String) (limit : Nat) (before : String) : Prop where
  begins : before.toList <+: text.toList
  fits : (utf8 before).length ≤ limit
  longest : ∀ p : String, p.toList <+: text.toList → (utf8 p).length ≤ limit →
    p.toList <+: before.toList

/-- The beginning in front of where stepping back stops is the longest that fits. -/
theorem longestBeginning_of_split {text before after : String} {limit : Nat}
    (cut : splitText? text (stepBack text limit) = some (before, after)) :
    LongestBeginning text limit before := by
  rcases splitText?_eq_some_iff.1 cut with ⟨text_eq, offset_eq⟩
  have begins : before.toList <+: text.toList := by
    rw [text_eq, String.toList_append]
    exact List.prefix_append _ _
  refine ⟨begins, offset_eq ▸ stepBack_le text limit, ?_⟩
  rintro p ⟨rest, rest_eq⟩ within
  have parts : text = p ++ String.ofList rest := by
    rw [← String.toList_inj, String.toList_append, String.toList_ofList, rest_eq]
  have cuts : (splitText? text (utf8 p).length).isSome := by
    rw [parts, splitText?_append]
    rfl
  exact prefix_of_length_le ⟨rest, rest_eq⟩ begins (offset_eq ▸ le_stepBack within cuts)

/-- The character behind the longest beginning has no room, and it has four octets at most. -/
theorem LongestBeginning.room_lt {text before : String} {limit : Nat}
    (h : LongestBeginning text limit before) (long : limit < (utf8 text).length) :
    limit < (utf8 before).length + 4 := by
  rcases h.begins with ⟨rest, rest_eq⟩
  cases rest with
  | nil =>
    rw [List.append_nil, String.toList_inj] at rest_eq
    rw [← rest_eq] at long
    omega
  | cons c rest =>
    -- with one character more the beginning would be longer, so that one does not fit
    let next : String := before ++ String.singleton c
    have next_toList : next.toList = before.toList ++ [c] := by
      rw [String.toList_append, String.toList_singleton]
    have begins : next.toList <+: text.toList := by
      rw [next_toList, ← rest_eq]
      exact ⟨rest, by rw [List.append_assoc, List.singleton_append]⟩
    have size : (utf8 next).length = (utf8 before).length + c.utf8Size := by
      rw [utf8_append, List.length_append, utf8_length_singleton]
    have four := c.utf8Size_le_four
    apply Nat.lt_of_not_le
    intro room
    have shorter := (h.longest next begins (by omega)).length_le
    rw [next_toList, List.length_append, List.length_singleton] at shorter
    omega

/-- An excerpt is the text itself if it fits.  Otherwise it is the longest beginning of whole
characters that fits, with dots behind it: stepping back ends where that one ends, and so less than
four octets of the room are left. -/
theorem excerpt_longest_beginning (text : String) (limit : Nat) :
    ∃ before after, splitText? text (stepBack text limit) = some (before, after) ∧
      text = before ++ after ∧ LongestBeginning text limit before ∧
      if (utf8 text).length ≤ limit then excerpt text limit = text
      else excerpt text limit = before ++ "..." ∧ limit < (utf8 before).length + 4 := by
  rcases Option.isSome_iff_exists.1 (stepBack_cuts text limit) with ⟨⟨before, after⟩, cut⟩
  have longest : LongestBeginning text limit before := longestBeginning_of_split cut
  refine ⟨before, after, cut, (splitText?_eq_some_iff.1 cut).1, longest, ?_⟩
  split
  · next short => rw [excerpt, if_pos short]
  · next long =>
    rw [excerpt, if_neg long, cut]
    exact ⟨rfl, longest.room_lt (Nat.lt_of_not_le long)⟩

-- The third octet is the second one of a character, and the cut is in front of it.
example : excerpt "abé" 3 = "ab..." := by
  decide +kernel

end SqlCompose
