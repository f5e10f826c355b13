import Mathlib.Data.Nat.Find
import SqlCompose.Row

/-! # Columns that share a name

A name is looked up from the first column on, and the map of a row is filled from the first column
on as well.  So of several columns with one name the lookup finds the first, while the map keeps the
last that was put in.  Both know the same names, and they agree on the values exactly if, for each
name, its first and its last column hold the same one.

Main statements:

* `indexOf?_eq_some_iff`: a lookup finds the first column with the name;
* `Readable.toMap_holds_last`: the map of a readable row holds the value of the last;
* `mapAgrees_iff`: when decoding into a map and looking up by name agree.
-/

namespace SqlCompose

namespace Row

/-- Every column has a name, and its value can be read. -/
structure Readable (r : Row) : Prop where
  named : ∀ i < r.size, ∃ name, r.name? i = some name
  read : ∀ i < r.size, ∃ v, r.value i = .ok v

/-- The first column with a name. -/
def First (r : Row) (name : String) (i : Nat) : Prop :=
  i < r.size ∧ r.name? i = some name ∧ ∀ k < i, r.name? k ≠ some name

/-- The last column with a name. -/
def Last (r : Row) (name : String) (i : Nat) : Prop :=
  i < r.size ∧ r.name? i = some name ∧ ∀ k, i < k → k < r.size → r.name? k ≠ some name

/-- The map of the row has the names that are found in it, and under each of them the value that is
read under the name. -/
def MapAgrees (r : Row) : Prop :=
  ∃ m, r.toMap = .ok m ∧ ∀ name, ((m.get? name).isSome ↔ (r.indexOf? name).isSome) ∧
    ∀ v, m.get? name = some v → r.get name .any = .ok v

variable {r : Row} {name : String}

/-! ## The first column -/

/-- A lookup finds the first column with the name. -/
theorem indexOf?_eq_some_iff {i : Nat} : r.indexOf? name = some i ↔ r.First name i := by
  rw [indexOf?, List.find?_range_eq_some]
  simp only [beq_iff_eq, List.mem_range, Bool.not_eq_true', beq_eq_false_iff_ne, First]
  exact and_left_comm

/-- A lookup finds something if there is a column with the name. -/
theorem indexOf?_isSome_iff : (r.indexOf? name).isSome ↔ ∃ i < r.size, r.name? i = some name := by
  simp [indexOf?, List.find?_isSome]

/-- Reading at the type of all values gives the value of the first column. -/
theorem First.get_any {i : Nat} {v : Value} (first : r.First name i) (value : r.value i = .ok v) :
    r.get name .any = .ok v := by
  have found : r.indexOf? name = some i := indexOf?_eq_some_iff.2 first
  simp only [get, found, value, bind, Except.bind, FieldType.read]
  rfl

/-! ## The last column -/

/-- There is a last column with a name if there is one at all. -/
theorem exists_last_iff : (∃ i, r.Last name i) ↔ ∃ i < r.size, r.name? i = some name := by
  constructor
  · rintro ⟨i, lt, named, -⟩
    exact ⟨i, lt, named⟩
  · rintro ⟨i, lt, named⟩
    let Named (k : Nat) : Prop := k < r.size ∧ r.name? k = some name
    have greatest : Named (Nat.findGreatest Named r.size) :=
      Nat.findGreatest_spec (P := Named) (Nat.le_of_lt lt) ⟨lt, named⟩
    refine ⟨Nat.findGreatest Named r.size, greatest.1, greatest.2, ?_⟩
    intro k after within same
    exact Nat.findGreatest_is_greatest (P := Named) after (Nat.le_of_lt within) ⟨within, same⟩

section

variable {n : Nat} {name? : Nat → Option String} {value : Nat → Except SqlError Value}

/-- A further column is the last with its own name, and leaves the last with any other. -/
theorem last_succ {own : String} (named : name? n = some own) {i : Nat} :
    Last ⟨n + 1, name?, value⟩ name i ↔
      if name = own then i = n else Last ⟨n, name?, value⟩ name i := by
  split
  · -- the further column itself is the last with its name
    next same =>
    subst same
    constructor
    · rintro ⟨lt, -, none⟩
      by_contra other
      exact none n (by simp only at lt; omega) (Nat.lt_succ_self n) named
    · rintro rfl
      refine ⟨Nat.lt_succ_self _, named, ?_⟩
      intro k after within
      simp only at within
      omega
  · -- the further column has another name, so the last one is where it was
    next other =>
    have foreign : name? n ≠ some name := by
      rw [named]
      exact fun same => other (Option.some.inj same).symm
    constructor
    · rintro ⟨lt, here, none⟩
      have before : i ≠ n := by
        rintro rfl
        exact foreign here
      refine ⟨by simp only at lt ⊢; omega, here, ?_⟩
      intro k after within
      exact none k after (Nat.lt_succ_of_lt within)
    · rintro ⟨lt, here, none⟩
      refine ⟨Nat.lt_succ_of_lt lt, here, ?_⟩
      intro k after within
      rcases Nat.lt_succ_iff_lt_or_eq.1 within with earlier | rfl
      · exact none k after earlier
      · exact foreign

/-- The map of one more column: the value of the column is put under its name. -/
theorem toMap_succ {m : KeyMap Value} {own : String} {v : Value}
    (earlier : toMap ⟨n, name?, value⟩ = .ok m) (named : name? n = some own)
    (reads : value n = .ok v) : toMap ⟨n + 1, name?, value⟩ = .ok (m.insert own v) := by
  unfold toMap at earlier ⊢
  rw [List.range_succ, List.foldlM_append, earlier]
  simp [named, reads, bind, Except.bind]
  rfl

end

/-- The map of a readable row holds under each name the value of the last column with the name. -/
theorem Readable.toMap_holds_last (readable : r.Readable) :
    ∃ m, r.toMap = .ok m ∧
      ∀ name v, m.get? name = some v ↔ ∃ i, r.Last name i ∧ r.value i = .ok v := by
  rcases r with ⟨size, name?, value⟩
  induction size with
  | zero =>
    refine ⟨.empty, rfl, ?_⟩
    intro name v
    simp [Last]
  | succ n ih =>
    have before : Readable ⟨n, name?, value⟩ :=
      ⟨fun i lt => readable.named i (Nat.lt_succ_of_lt lt),
        fun i lt => readable.read i (Nat.lt_succ_of_lt lt)⟩
    rcases ih before with ⟨m, earlier, holds⟩
    rcases readable.named n (Nat.lt_succ_self n) with ⟨own, named⟩
    rcases readable.read n (Nat.lt_succ_self n) with ⟨v, reads⟩
    refine ⟨m.insert own v, toMap_succ earlier named reads, ?_⟩
    intro name w
    rw [KeyMap.get?_insert]
    simp only [last_succ named]
    split
    · -- the further column has taken the place of all columns with its name
      have read : value n = .ok v := reads
      simp [read]
    · exact holds name w

/-! ## Where both agree -/

/-- The map of a readable row and the lookup by name know the same names.  They agree on the values
exactly if, for each name, the first column with it and the last one hold the same value. -/
theorem mapAgrees_iff {r : Row} (readable : r.Readable) :
    (∃ m, r.toMap = .ok m ∧ ∀ name, (m.get? name).isSome ↔ (r.indexOf? name).isSome) ∧
    (r.MapAgrees ↔ ∀ name i j, r.First name i → r.Last name j → r.value i = r.value j) := by
  rcases readable.toMap_holds_last with ⟨m, made, holds⟩
  have known (name : String) : (m.get? name).isSome ↔ (r.indexOf? name).isSome := by
    rw [indexOf?_isSome_iff, ← exists_last_iff, Option.isSome_iff_exists]
    constructor
    · rintro ⟨v, held⟩
      rcases (holds name v).1 held with ⟨j, last, -⟩
      exact ⟨j, last⟩
    · rintro ⟨j, last⟩
      rcases readable.read j last.1 with ⟨v, value⟩
      exact ⟨v, (holds name v).2 ⟨j, last, value⟩⟩
  refine ⟨⟨m, made, known⟩, ?_, ?_⟩
  · rintro ⟨m', made', agrees⟩ name i j first last
    have same : m' = m := Except.ok.inj (made'.symm.trans made)
    subst same
    rcases readable.read i first.1 with ⟨v, valueFirst⟩
    rcases readable.read j last.1 with ⟨w, valueLast⟩
    have looked : r.get name .any = .ok w :=
      (agrees name).2 w ((holds name w).2 ⟨j, last, valueLast⟩)
    -- the map holds the last value, the lookup gives the first, and they agree
    have equal : v = w := Except.ok.inj ((first.get_any valueFirst).symm.trans looked)
    rw [valueFirst, valueLast, equal]
  · intro same
    refine ⟨m, made, fun name => ⟨known name, ?_⟩⟩
    intro v held
    rcases (holds name v).1 held with ⟨j, last, valueLast⟩
    rcases Option.isSome_iff_exists.1 ((known name).1 (by rw [held]; rfl)) with ⟨i, found⟩
    have first : r.First name i := indexOf?_eq_some_iff.1 found
    exact first.get_any ((same name i j first last).trans valueLast)

end Row

namespace ValueRow

/-- A row of values is readable. -/
theorem readable_toRow (r : ValueRow) : r.toRow.Readable := by
  constructor
  · intro i lt
    have lt : i < r.columns.length := lt
    exact ⟨r.columns[i].1, by simp [toRow, lt]⟩
  · intro i lt
    have lt : i < r.columns.length := lt
    exact ⟨r.columns[i].2, by simp [toRow, lt]⟩

/-- Where each name stands for one value only, its first and its last column hold the same. -/
theorem value_eq_of_names {r : ValueRow}
    (same : ∀ c ∈ r.columns, ∀ d ∈ r.columns, c.1 = d.1 → c.2 = d.2) {name : String} {i j : Nat}
    (first : r.toRow.First name i) (last : r.toRow.Last name j) :
    r.toRow.value i = r.toRow.value j := by
  have ltFirst : i < r.columns.length := first.1
  have ltLast : j < r.columns.length := last.1
  have names : r.toRow.name? i = r.toRow.name? j := first.2.1.trans last.2.1.symm
  simp only [toRow, List.getElem?_eq_getElem, ltFirst, ltLast, Option.map_some,
    Option.some.injEq] at names
  have values := same _ (List.getElem_mem ltFirst) _ (List.getElem_mem ltLast) names
  simp only [toRow, List.getElem?_eq_getElem, ltFirst, ltLast, values]

/-- Two tables joined on a key that has the same name in both. -/
def joined (left right : Value) : ValueRow :=
  ⟨[("id", left), ("name", .text "x"), ("id", right)]⟩

theorem equalKeys_agree :
    let row := (joined (.int32 1) (.int32 1)).toRow
    row.Readable ∧ row.indexOf? "id" = some 0 ∧ row.Last "id" 2 ∧ row.MapAgrees := by
  intro row
  have readable : row.Readable := (joined (.int32 1) (.int32 1)).readable_toRow
  have last : row.Last "id" 2 := by
    refine ⟨by decide, rfl, ?_⟩
    intro k after within
    exact absurd within (Nat.not_lt.2 after)
  refine ⟨readable, rfl, last, (Row.mapAgrees_iff readable).2.2 ?_⟩
  intro name i j first last
  exact value_eq_of_names (by simp [joined]) first last

/-- Where the keys differ, the lookup finds the left one, and the map holds the right one. -/
theorem unequalKeys_not_agree :
    let row := (joined (.int32 1) (.int32 2)).toRow
    row.Readable ∧ row.get "id" .any = .ok (.int32 1) ∧
    (∃ m, row.toMap = .ok m ∧ m.get? "id" = some (.int32 2)) ∧ ¬row.MapAgrees := by
  intro row
  have readable : row.Readable := (joined (.int32 1) (.int32 2)).readable_toRow
  have looked : row.get "id" .any = .ok (.int32 1) := rfl
  have made : ∃ m, row.toMap = .ok m ∧ m.get? "id" = some (.int32 2) := ⟨_, rfl, rfl⟩
  refine ⟨readable, looked, made, ?_⟩
  rintro ⟨m, same, agrees⟩
  rcases made with ⟨m', made, held⟩
  have equal : m' = m := Except.ok.inj (made.symm.trans same)
  subst equal
  have found : row.get "id" .any = .ok (.int32 2) := (agrees "id").2 _ held
  cases looked.symm.trans found

end ValueRow

end SqlCompose
