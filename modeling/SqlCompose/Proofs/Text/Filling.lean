import Mathlib.Data.List.Chain
import SqlCompose.Text.Marker
import SqlCompose.Value.Basic

/-! # Texts with their values in place

A list of pieces is a text in which bound values stand where they were supplied.  Such a list comes
apart into a text with markers (`textOf`) and a list of values (`valuesOf`); a text with markers is
filled with values (`fill`) by putting the `k`-th value in place of the `k`-th marker.

Coming apart and filling are inverse on lists where no question mark stands in front of a question
mark or a value (`Legible`): only there could the text show a marker at another place.

Main statements:

* `fill_textOf`, `markerCount_textOf`: filling what a legible list came apart into gives it back;
* `textOf_fill`, `valuesOf_fill`, `legible_fill`: a text filled with as many values as it has
  markers is legible and comes apart into that text and those values;
* `Legible.append`: legible lists may stand behind one another where the seam is no question mark.
-/

namespace SqlCompose

/-- A character of a text, or a bound value that stands in it. -/
inductive Piece where
  | char (c : Char)
  | value (v : Value)

/-- What is written for a piece: the character, or a marker. -/
def Piece.letters : Piece → List Char
  | char c => [c]
  | value _ => marker.toList

/-- The value that a piece is. -/
def Piece.value? : Piece → Option Value
  | char _ => none
  | value v => some v

def textOf (ps : List Piece) : String :=
  String.ofList (ps.flatMap Piece.letters)

def valuesOf (ps : List Piece) : List Value :=
  ps.filterMap Piece.value?

/-- The pieces of a text without values. -/
def chars (text : String) : List Piece :=
  text.toList.map .char

/-- The segments that follow markers, each with a value in place of its marker. -/
def fillSegments : List (List Char) → List Value → List Piece
  | [], _ => []
  | segment :: rest, v :: values => .value v :: (segment.map .char ++ fillSegments rest values)
  | segment :: rest, [] => (marker.toList ++ segment).map .char ++ fillSegments rest []

/-- A text cut at its markers, with values in place of the markers. -/
def filled (cut : List Char × List (List Char)) (values : List Value) : List Piece :=
  cut.1.map .char ++ fillSegments cut.2 values

/-- The text with the `k`-th value in place of the `k`-th marker, found from the left and not
overlapping. -/
def fill (text : String) (values : List Value) : List Piece :=
  filled (cutAtMarkers text.toList) values

/-! ## Coming apart -/

@[simp] theorem textOf_nil : textOf [] = "" := rfl

@[simp] theorem valuesOf_nil : valuesOf [] = [] := rfl

@[simp] theorem textOf_append (ps qs : List Piece) :
    textOf (ps ++ qs) = textOf ps ++ textOf qs := by
  simp [textOf, String.ofList_append]

@[simp] theorem valuesOf_append (ps qs : List Piece) :
    valuesOf (ps ++ qs) = valuesOf ps ++ valuesOf qs := by
  simp [valuesOf]

@[simp] theorem textOf_chars (text : String) : textOf (chars text) = text := by
  have h : (chars text).flatMap Piece.letters = text.toList := by
    simp [chars, List.flatMap_map, Piece.letters]
  rw [textOf, h, String.ofList_toList]

@[simp] theorem valuesOf_chars (text : String) : valuesOf (chars text) = [] := by
  simp [valuesOf, chars, List.filterMap_map, Piece.value?]

theorem chars_append (s t : String) : chars (s ++ t) = chars s ++ chars t := by
  simp [chars]

@[simp] theorem textOf_value (v : Value) : textOf [.value v] = marker := by
  simp [textOf, Piece.letters]

@[simp] theorem valuesOf_value (v : Value) : valuesOf [.value v] = [v] := rfl

/-! ## Legible lists -/

/-- Whether a piece is a question mark. -/
def Piece.IsQuestion (p : Piece) : Prop :=
  p = .char '?'

/-- Whether what is written for a piece starts with a question mark. -/
def Piece.StartsMark : Piece → Prop
  | char c => c = '?'
  | value _ => True

/-- No question mark stands in front of a question mark or a value. -/
def Legible (ps : List Piece) : Prop :=
  ps.IsChain fun p q => p.IsQuestion → ¬q.StartsMark

/-- What comes first does not start with a question mark when written. -/
def PlainStart (ps : List Piece) : Prop :=
  ∀ p ∈ ps.head?, ¬p.StartsMark

/-- What comes last is no question mark. -/
def PlainEnd (ps : List Piece) : Prop :=
  ∀ p ∈ ps.getLast?, ¬p.IsQuestion

@[simp] theorem legible_nil : Legible [] := .nil

@[simp] theorem plainStart_nil : PlainStart [] := by
  simp [PlainStart]

@[simp] theorem plainEnd_nil : PlainEnd [] := by
  simp [PlainEnd]

/-- Legible lists behind one another, where one side of the seam is no question mark. -/
theorem Legible.append {ps qs : List Piece} (hp : Legible ps) (hq : Legible qs)
    (seam : PlainEnd ps ∨ PlainStart qs) : Legible (ps ++ qs) := by
  apply List.IsChain.append hp hq
  intro p hlast q hhead isQuestion
  rcases seam with h | h
  · exact absurd isQuestion (h p hlast)
  · exact h q hhead

/-- Plain starts are kept when lists stand behind one another. -/
theorem PlainStart.append {ps qs : List Piece} (hp : PlainStart ps) (hq : PlainStart qs) :
    PlainStart (ps ++ qs) := by
  cases ps with
  | nil => exact hq
  | cons p ps => exact hp

/-- Plain ends are kept when lists stand behind one another. -/
theorem PlainEnd.append {ps qs : List Piece} (hp : PlainEnd ps) (hq : PlainEnd qs) :
    PlainEnd (ps ++ qs) := by
  intro p hlast
  rw [List.getLast?_append] at hlast
  -- the last piece is that of `qs`, unless `qs` is empty
  cases h : qs.getLast? with
  | none =>
    rw [h] at hlast
    exact hp p hlast
  | some q =>
    rw [h] at hlast
    exact hq p (by simpa [h] using hlast)

/-- In a text without question marks every seam is plain. -/
theorem plain_chars {text : String} (h : '?' ∉ text.toList) :
    Legible (chars text) ∧ PlainStart (chars text) ∧ PlainEnd (chars text) := by
  have plain : ∀ p ∈ chars text, ¬p.IsQuestion ∧ ¬p.StartsMark := by
    intro p hp
    obtain ⟨c, hc, rfl⟩ := List.mem_map.1 hp
    have ne : c ≠ '?' := by
      rintro rfl
      exact h hc
    simp [Piece.IsQuestion, Piece.StartsMark, ne]
  refine ⟨?_, ?_, ?_⟩
  · apply List.Pairwise.isChain
    apply List.pairwise_of_forall_mem_list
    intro p hp q _ isQuestion
    exact absurd isQuestion (plain p hp).1
  · intro p hhead
    exact (plain p (List.mem_of_mem_head? hhead)).2
  · intro p hlast
    exact (plain p (List.mem_of_mem_getLast? hlast)).1

/-! ## Filling what came apart -/

/-- Pieces cut at their values: what is before the first, and what follows each of them. -/
def segments : List Piece → List Char × List (List Char)
  | [] => ([], [])
  | .char c :: ps => (c :: (segments ps).1, (segments ps).2)
  | .value _ :: ps => ([], (segments ps).1 :: (segments ps).2)

/-- The markers of a legible list's text are those of its values. -/
theorem cutAtMarkers_letters {ps : List Piece} (h : Legible ps) :
    cutAtMarkers (ps.flatMap Piece.letters) = segments ps := by
  induction ps with
  | nil => rfl
  | cons p ps ih =>
    obtain ⟨next, rest⟩ := List.isChain_cons.1 h
    have tail := ih rest
    cases p with
    | value v =>
      -- a value is written as a marker, and the cut begins with it
      show cutAtMarkers ('?' :: '?' :: ps.flatMap Piece.letters) = _
      rw [cutAtMarkers, tail, segments]
    | char c =>
      show cutAtMarkers (c :: ps.flatMap Piece.letters) = _
      rw [cutAtMarkers, tail, segments]
      -- a question mark here is followed by a character that is none
      intro letters hc hletters
      cases ps with
      | nil => cases hletters
      | cons q ps =>
        have plain : ¬q.StartsMark := next q rfl (congrArg Piece.char hc)
        cases q with
        | value v => exact plain trivial
        | char d =>
          have hd : d = '?' := (List.cons.inj hletters).1
          exact plain hd

/-- A segment follows each value. -/
theorem length_segments (ps : List Piece) : (segments ps).2.length = (valuesOf ps).length := by
  induction ps with
  | nil => rfl
  | cons p ps ih =>
    cases p with
    | char c => exact ih
    | value v => exact congrArg Nat.succ ih

/-- Pieces cut at their values and filled with them are the same pieces. -/
theorem filled_segments (ps : List Piece) : filled (segments ps) (valuesOf ps) = ps := by
  induction ps with
  | nil => rfl
  | cons p ps ih =>
    cases p with
    | char c => exact congrArg (Piece.char c :: ·) ih
    | value v => exact congrArg (Piece.value v :: ·) ih

/-- The text of a legible list has a marker for each of its values. -/
theorem markerCount_textOf {ps : List Piece} (h : Legible ps) :
    markerCount (textOf ps) = (valuesOf ps).length := by
  rw [markerCount, textOf, String.toList_ofList, cutAtMarkers_letters h, length_segments]

/-- Filling the text of a legible list with its values gives the list back. -/
theorem fill_textOf {ps : List Piece} (h : Legible ps) : fill (textOf ps) (valuesOf ps) = ps := by
  rw [fill, textOf, String.toList_ofList, cutAtMarkers_letters h, filled_segments]

/-! ## Filling a text with as many values as it has markers -/

/-- Filling a text with as many values as it has markers does not change what is written. -/
theorem letters_filled (text : List Char) (values : List Value)
    (count : (cutAtMarkers text).2.length = values.length) :
    (filled (cutAtMarkers text) values).flatMap Piece.letters = text := by
  -- along the cut: a marker, any other character, the end of the text
  induction text using cutAtMarkers.induct generalizing values with
  | case1 rest ih =>
    rw [cutAtMarkers] at count ⊢
    cases values with
    | nil => cases count
    | cons v values =>
      have tail := ih values (Nat.succ.inj count)
      exact congrArg (fun letters => '?' :: '?' :: letters) tail
  | case2 c rest noMarker ih =>
    rw [cutAtMarkers] at count ⊢
    · exact congrArg (c :: ·) (ih values count)
    · exact noMarker
    · exact noMarker
  | case3 =>
    cases values with
    | nil => rfl
    | cons v values => cases count

/-- The values of a filled text are those it was filled with. -/
theorem valuesOf_filled (cut : List Char × List (List Char)) (values : List Value)
    (count : cut.2.length = values.length) : valuesOf (filled cut values) = values := by
  obtain ⟨first, rest⟩ := cut
  have noValues (segment : List Char) : valuesOf (segment.map .char) = [] := by
    simp [valuesOf, List.filterMap_map, Piece.value?]
  rw [filled, valuesOf_append, noValues, List.nil_append]
  induction rest generalizing values with
  | nil =>
    cases values with
    | nil => rfl
    | cons v values => cases count
  | cons segment rest ih =>
    cases values with
    | nil => cases count
    | cons v values =>
      have tail := ih values (Nat.succ.inj count)
      show v :: valuesOf (segment.map .char ++ fillSegments rest values) = _
      rw [valuesOf_append, noValues, List.nil_append, tail]

/-- In a filled text no question mark stands in front of a question mark or a value. -/
theorem legible_filled (text : List Char) (values : List Value)
    (count : (cutAtMarkers text).2.length = values.length) :
    Legible (filled (cutAtMarkers text) values) := by
  induction text using cutAtMarkers.induct generalizing values with
  | case1 rest ih =>
    rw [cutAtMarkers] at count ⊢
    cases values with
    | nil => cases count
    | cons v values =>
      have tail := ih values (Nat.succ.inj count)
      apply List.isChain_cons.2 ⟨?_, tail⟩
      -- what stands in place of the marker is a value, and no question mark
      intro q _ isQuestion
      cases isQuestion
  | case2 c rest noMarker ih =>
    have tail := ih values
    rw [cutAtMarkers] at count ⊢
    · apply List.isChain_cons.2 ⟨?_, tail count⟩
      intro q hhead isQuestion startsMark
      have hc : c = '?' := by cases isQuestion; rfl
      -- the rest starts with what the filled rest starts with, and that is no question mark
      have letters := letters_filled rest values count
      generalize filled (cutAtMarkers rest) values = ps at hhead letters
      cases ps with
      | nil => cases hhead
      | cons p ps =>
        cases hhead
        cases q with
        | char d =>
          cases startsMark
          exact noMarker _ hc letters.symm
        | value v => exact noMarker _ hc letters.symm
    · exact noMarker
    · exact noMarker
  | case3 =>
    cases values with
    | nil => exact legible_nil
    | cons v values => cases count

section

variable {text : String} {values : List Value} (count : markerCount text = values.length)

include count

/-- A filled text comes apart into the text it was. -/
theorem textOf_fill : textOf (fill text values) = text := by
  have h : (fill text values).flatMap Piece.letters = text.toList :=
    letters_filled text.toList values count
  rw [textOf, h, String.ofList_toList]

/-- A filled text comes apart into the values it was filled with. -/
theorem valuesOf_fill : valuesOf (fill text values) = values :=
  valuesOf_filled _ values count

/-- A filled text is legible. -/
theorem legible_fill : Legible (fill text values) :=
  legible_filled text.toList values count

end

/-- A text without markers is legible. -/
theorem legible_chars {text : String} (free : markerCount text = 0) : Legible (chars text) := by
  have h : fill text [] = chars text := by
    have noSegments : (cutAtMarkers text.toList).2 = [] := List.length_eq_zero_iff.1 free
    have letters := letters_filled text.toList [] free
    simp only [filled, noSegments, fillSegments, List.append_nil, List.flatMap_map,
      Piece.letters] at letters
    simp only [fill, filled, noSegments, fillSegments, List.append_nil, chars]
    congr 1
    simpa using letters
  rw [← h]
  exact legible_fill free

end SqlCompose
