import SqlCompose.Writer

/-! # Placeholders in place of markers

A text is cut at its markers: from the left, each time at the first place where a marker stands, and
going on behind that marker.  `Segments` says so by places in the text, and `cutAtMarkers` finds the
only such cut (`segments_cutAtMarkers`, `Segments.unique`).

The placeholders of a database stand between the segments.  A text read from the left is copied
character by character, with the next placeholder for every marker met (`numbered`).  No two
question marks are next to each other in what PostgreSQL gets, however many there were in a row: a
segment has no marker, one that a marker follows does not end in a question mark, and a number ends
in a digit.

Main statement: `markers_become_placeholders`.
-/

namespace SqlCompose

/-! ## Where markers stand -/

/-- A marker stands at a place of the text. -/
def MarkerAt (text : List Char) (place : Nat) : Prop :=
  marker.toList <+: text.drop place

/-- No marker stands anywhere in the text. -/
def MarkerFree (text : List Char) : Prop :=
  ∀ place, ¬MarkerAt text place

/-- A marker stands in front exactly if the text begins with two question marks. -/
theorem markerAt_zero {text : List Char} :
    MarkerAt text 0 ↔ ∃ rest, text = '?' :: '?' :: rest := by
  constructor
  · rintro ⟨rest, same⟩
    exact ⟨rest, same.symm⟩
  · rintro ⟨rest, rfl⟩
    exact ⟨rest, rfl⟩

theorem markerFree_nil : MarkerFree [] := by
  rintro place ⟨rest, same⟩
  rw [List.drop_nil] at same
  cases same

/-- A text has no markers exactly if none stands in front and none behind the first character. -/
theorem markerFree_cons {c : Char} {text : List Char} :
    MarkerFree (c :: text) ↔ ¬MarkerAt (c :: text) 0 ∧ MarkerFree text := by
  constructor
  · intro free
    exact ⟨free 0, fun place at_place => free (place + 1) at_place⟩
  · rintro ⟨here, free⟩ place at_place
    cases place with
    | zero => exact here at_place
    | succ place => exact free place at_place

/-- A character that is no question mark begins no marker. -/
theorem MarkerFree.cons_of_ne {c : Char} {text : List Char} (ne : c ≠ '?')
    (free : MarkerFree text) : MarkerFree (c :: text) := by
  refine markerFree_cons.2 ⟨?_, free⟩
  intro here
  rcases markerAt_zero.1 here with ⟨rest, same⟩
  exact ne (List.cons.inj same).1

/-- Text without question marks in front of a text without markers. -/
theorem MarkerFree.append_plain {front text : List Char} (plain : '?' ∉ front)
    (free : MarkerFree text) : MarkerFree (front ++ text) := by
  induction front with
  | nil => exact free
  | cons c front ih =>
    have ne : c ≠ '?' := fun same => plain (same ▸ List.mem_cons_self)
    have tail : MarkerFree (front ++ text) := ih fun mem => plain (List.mem_cons_of_mem _ mem)
    exact tail.cons_of_ne ne

/-! ## The cut -/

/-- The segments of a text between its markers, found from the left and not overlapping. -/
inductive Segments : List Char → List (List Char) → Prop
  | whole {text : List Char} (free : MarkerFree text) : Segments text [text]
  | cut {text : List Char} {place : Nat} {segments : List (List Char)}
      (here : MarkerAt text place) (first : ∀ before < place, ¬MarkerAt text before)
      (behind : Segments (text.drop (place + 2)) segments) :
      Segments text (text.take place :: segments)

/-- There is only one way to cut. -/
theorem Segments.unique {text : List Char} {a b : List (List Char)} (ha : Segments text a)
    (hb : Segments text b) : a = b := by
  induction ha generalizing b with
  | whole free =>
    cases hb with
    -- either both cuts find a marker, or neither does
    | whole _ => rfl
    | cut here _ _ => exact absurd here (free _)
  | @cut text place segments here first behind ih =>
    cases hb with
    | whole free => exact absurd here (free _)
    | @cut _ place' segments' here' first' behind' =>
      -- each of the two places is the first one
      have le : place ≤ place' := Nat.le_of_not_lt fun lt => first place' lt here'
      have ge : place' ≤ place := Nat.le_of_not_lt fun lt => first' place lt here
      have same : place' = place := Nat.le_antisymm ge le
      subst same
      rw [ih behind']

/-- One character more in front, at which no marker stands. -/
theorem Segments.cons {c : Char} {text first : List Char} {rest : List (List Char)}
    (segments : Segments text (first :: rest)) (noMarker : ¬MarkerAt (c :: text) 0) :
    Segments (c :: text) ((c :: first) :: rest) := by
  cases segments with
  | whole free => exact .whole (markerFree_cons.2 ⟨noMarker, free⟩)
  | @cut _ place _ here first behind =>
    refine @Segments.cut (c :: text) (place + 1) rest here ?_ behind
    intro before lt
    cases before with
    | zero => exact noMarker
    | succ before => exact first before (Nat.lt_of_succ_lt_succ lt)

/-- The cut that is computed is a cut at the markers. -/
theorem segments_cutAtMarkers (text : List Char) :
    Segments text ((cutAtMarkers text).1 :: (cutAtMarkers text).2) := by
  induction text using cutAtMarkers.induct with
  | case1 rest ih =>
    have here : MarkerAt ('?' :: '?' :: rest) 0 := markerAt_zero.2 ⟨rest, rfl⟩
    rw [cutAtMarkers]
    exact .cut here (fun _ lt => absurd lt (Nat.not_lt_zero _)) ih
  -- the character is no question mark, or no question mark follows it
  | case2 c rest noMarker ih =>
    rw [cutAtMarkers]
    · apply ih.cons
      intro here
      rcases markerAt_zero.1 here with ⟨more, same⟩
      rcases List.cons.inj same with ⟨hc, hrest⟩
      exact noMarker more hc hrest
    · exact noMarker
  | case3 => exact .whole markerFree_nil

/-- In a text without markers there is nothing to cut. -/
theorem MarkerFree.cutAtMarkers_eq {text : List Char} (free : MarkerFree text) :
    cutAtMarkers text = (text, []) := by
  have same := (segments_cutAtMarkers text).unique (.whole free)
  rcases List.cons.inj same with ⟨first, rest⟩
  exact Prod.ext first rest

/-- A text that is one segment has no markers. -/
theorem Segments.markerFree {text first : List Char} (segments : Segments text [first]) :
    MarkerFree text := by
  cases segments with
  | whole free => exact free
  | cut _ _ behind => cases behind

/-! ## Placeholders between the segments -/

/-- The `n`-th placeholder stands in front of the `n`-th segment. -/
theorem joinNumbered_eq (placeholder : Nat → List Char) (k : Nat) (segments : List (List Char)) :
    joinNumbered placeholder k segments
      = (segments.zipIdx k).flatMap fun (segment, n) => placeholder n ++ segment := by
  induction segments generalizing k with
  | nil => rfl
  | cons segment rest ih =>
    rw [joinNumbered, ih, List.zipIdx_cons, List.flatMap_cons]

/-- Placeholders that are all the same. -/
theorem joinNumbered_const (placeholder : List Char) (k : Nat) (segments : List (List Char)) :
    joinNumbered (fun _ => placeholder) k segments = segments.flatMap (placeholder ++ ·) := by
  induction segments generalizing k with
  | nil => rfl
  | cons segment rest ih => rw [joinNumbered, ih, List.flatMap_cons]

/-- The text with placeholders numbered from `k` in place of its markers. -/
def numbered (placeholder : Nat → List Char) (k : Nat) (text : List Char) : List Char :=
  (cutAtMarkers text).1 ++ joinNumbered placeholder k (cutAtMarkers text).2

section

variable (placeholder : Nat → List Char) (k : Nat)

/-- A marker becomes the next placeholder. -/
theorem numbered_marker (rest : List Char) :
    numbered placeholder k ('?' :: '?' :: rest)
      = placeholder k ++ numbered placeholder (k + 1) rest := by
  simp only [numbered, cutAtMarkers, joinNumbered, List.nil_append, List.append_assoc]

/-- A character at which no marker stands is copied. -/
theorem numbered_cons {c : Char} {rest : List Char}
    (noMarker : ∀ more, c = '?' → rest = '?' :: more → False) :
    numbered placeholder k (c :: rest) = c :: numbered placeholder k rest := by
  rw [numbered, cutAtMarkers]
  · rfl
  · exact noMarker

/-- A text without markers is copied as it is. -/
theorem MarkerFree.numbered_eq {text : List Char} (free : MarkerFree text) :
    numbered placeholder k text = text := by
  simp only [numbered, free.cutAtMarkers_eq, joinNumbered, List.append_nil]

end

/-- PostgreSQL's placeholders are a dollar sign and a decimal number. -/
theorem placeholder_postgres (k : Nat) :
    Dialect.postgres.placeholder k = ("$" ++ toString k).toList := by
  have digits : (toString k).toList = Nat.toDigits 10 k := String.toList_ofList
  rw [String.toList_append, digits]
  rfl

/-- No placeholder of PostgreSQL has a question mark. -/
theorem question_not_mem_postgres (k : Nat) : '?' ∉ Dialect.postgres.placeholder k := by
  intro mem
  rcases List.mem_cons.1 mem with same | digit
  · exact absurd same (by decide)
  · have isDigit : '?'.isDigit = true := Nat.isDigit_of_mem_toDigits (by decide) (by decide) digit
    exact absurd isDigit (by decide)

/-- What PostgreSQL gets has no markers. -/
theorem markerFree_numbered (k : Nat) (text : List Char) :
    MarkerFree (numbered Dialect.postgres.placeholder k text) := by
  induction text using cutAtMarkers.induct generalizing k with
  | case1 rest ih =>
    rw [numbered_marker]
    exact (ih (k + 1)).append_plain (question_not_mem_postgres k)
  | case2 c rest noMarker ih =>
    have tail := ih k
    rw [numbered_cons _ _ noMarker]
    -- the rest has no markers; what is left is that none stands at the copied character
    refine markerFree_cons.2 ⟨?_, tail⟩
    intro here
    rcases markerAt_zero.1 here with ⟨more, same⟩
    rcases List.cons.inj same with ⟨hc, next⟩
    -- the character behind is a question mark too; it was copied, or begins a placeholder
    cases rest using cutAtMarkers.fun_cases with
    | case1 rest => exact noMarker _ hc rfl
    | case2 d rest noMarker' =>
      rw [numbered_cons _ _ noMarker'] at next
      have hd : d = '?' := (List.cons.inj next).1
      exact noMarker rest hc (by rw [hd])
    | case3 => cases next
  | case3 => exact markerFree_nil

example : numbered Dialect.postgres.placeholder 1 "?????".toList = "$1$2?".toList := by decide

theorem setPlaceholders_text (w : Writer) (d : Dialect) :
    (w.setPlaceholders d).text = String.ofList (numbered d.placeholder 1 w.text.toList) := rfl

/-- A writer whose text has no markers is left as it is. -/
theorem setPlaceholders_of_markerFree {w : Writer} (free : MarkerFree w.text.toList)
    (d : Dialect) : w.setPlaceholders d = w := by
  have text : (w.setPlaceholders d).text = w.text := by
    rw [setPlaceholders_text, free.numbered_eq, String.ofList_toList]
  calc w.setPlaceholders d = { w with text := (w.setPlaceholders d).text } := rfl
    _ = w := by rw [text]

/-- The text of a writer has exactly one cut at its markers.  Its segments stay as they are, and
between them stands `$1`, `$2` and so on for PostgreSQL and a question mark for the other databases;
the arguments and their groups stay too.  A text without markers is left as it is, and so is what
PostgreSQL gets, for every database. -/
theorem markers_become_placeholders (w : Writer) :
    ∃ first rest, (∀ segments, Segments w.text.toList segments ↔ segments = first :: rest) ∧
      w.setPlaceholders .postgres = { w with
        text := String.ofList (first ++
          (rest.zipIdx 1).flatMap fun (segment, n) => ("$" ++ toString n).toList ++ segment) } ∧
      (∀ d, d = .generic ∨ d = .mysql → w.setPlaceholders d = { w with
        text := String.ofList (first ++ rest.flatMap fun segment => '?' :: segment) }) ∧
      (rest = [] → ∀ d, w.setPlaceholders d = w) ∧
      MarkerFree (w.setPlaceholders .postgres).text.toList ∧
      ∀ d, (w.setPlaceholders .postgres).setPlaceholders d = w.setPlaceholders .postgres := by
  have cut := segments_cutAtMarkers w.text.toList
  have free : MarkerFree (w.setPlaceholders .postgres).text.toList := by
    rw [setPlaceholders_text, String.toList_ofList]
    exact markerFree_numbered 1 w.text.toList
  refine ⟨(cutAtMarkers w.text.toList).1, (cutAtMarkers w.text.toList).2, ?_, ?_, ?_, ?_, free, ?_⟩
  · intro segments
    constructor
    · intro other
      exact other.unique cut
    · rintro rfl
      exact cut
  · have between := joinNumbered_eq Dialect.postgres.placeholder 1 (cutAtMarkers w.text.toList).2
    simp only [placeholder_postgres] at between
    rw [← between]
    rfl
  · intro d unnumbered
    have question : d.placeholder = fun _ => ['?'] := by
      rcases unnumbered with rfl | rfl
      · rfl
      · rfl
    have between := joinNumbered_const ['?'] 1 (cutAtMarkers w.text.toList).2
    calc w.setPlaceholders d
        = { w with text := String.ofList (numbered d.placeholder 1 w.text.toList) } := rfl
      _ = _ := by rw [numbered, question, between]; rfl
  · intro none d
    have whole : MarkerFree w.text.toList := by
      rw [none] at cut
      exact cut.markerFree
    exact setPlaceholders_of_markerFree whole d
  · intro d
    exact setPlaceholders_of_markerFree free d

end SqlCompose
