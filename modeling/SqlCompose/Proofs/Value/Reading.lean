import SqlCompose.Value.Typed

/-! # What a field shows is read back

A machine integer and its number determine each other within the range of the type (`ofInt_toInt`,
`toInt_ofInt`), and the value it is shown as has that number, whatever the width of the value
(`number?_toValue`).

Main statement: `FieldType.read_toValue`.  A field that shows a value reads one that shows the same
value.  It need not be the same field: an optional field with a null in it shows what an empty one
shows.
-/

namespace SqlCompose

namespace IntType

theorem holds_toInt (t : IntType) (n : t.Carrier) : t.Holds (t.toInt n) := by
  cases t with
  | int16 => exact ⟨Int16.le_toInt n, Int16.toInt_le n⟩
  | int32 => exact ⟨Int32.le_toInt n, Int32.toInt_le n⟩
  | int64 => exact ⟨Int64.le_toInt n, Int64.toInt_le n⟩
  | uint32 => exact ⟨Int.natCast_nonneg _, Int.ofNat_le.2 (Nat.le_of_lt_succ (UInt32.toNat_lt n))⟩
  | uint64 => exact ⟨Int.natCast_nonneg _, Int.ofNat_le.2 (Nat.le_of_lt_succ (UInt64.toNat_lt n))⟩

/-- A machine integer is that of its number. -/
theorem ofInt_toInt (t : IntType) (n : t.Carrier) : t.ofInt (t.toInt n) = n := by
  cases t with
  | int16 => exact Int16.ofInt_toInt n
  | int32 => exact Int32.ofInt_toInt n
  | int64 => exact Int64.ofInt_toInt n
  | uint32 => exact UInt32.ofNat_toNat
  | uint64 => exact UInt64.ofNat_toNat

/-- A number of the type is that of its machine integer. -/
theorem toInt_ofInt {t : IntType} {n : Int} (holds : t.Holds n) : t.toInt (t.ofInt n) = n := by
  rcases holds with ⟨least, greatest⟩
  cases t with
  | int16 => exact Int16.toInt_ofInt_of_le least (Int.lt_add_one_of_le greatest)
  | int32 => exact Int32.toInt_ofInt_of_le least (Int.lt_add_one_of_le greatest)
  | int64 => exact Int64.toInt_ofInt_of_le least (Int.lt_add_one_of_le greatest)
  | uint32 =>
    have lt : n.toNat < 2 ^ 32 := by
      simp only [IntType.greatest, IntType.least] at least greatest
      omega
    show ((UInt32.ofNat n.toNat).toNat : Int) = n
    rw [UInt32.toNat_ofNat_of_lt' lt, Int.toNat_of_nonneg least]
  | uint64 =>
    have lt : n.toNat < 2 ^ 64 := by
      simp only [IntType.greatest, IntType.least] at least greatest
      omega
    show ((UInt64.ofNat n.toNat).toNat : Int) = n
    rw [UInt64.toNat_ofNat_of_lt' lt, Int.toNat_of_nonneg least]

/-- The value of a machine integer has its number, also where it is of another width. -/
theorem number?_toValue (t : IntType) (n : t.Carrier) :
    (t.toValue n).number? = some (t.toInt n) := by
  cases t with
  | uint32 =>
    have lt : UInt32.toNat n < 2 ^ 63 := Nat.lt_trans (UInt32.toNat_lt n) (by decide)
    exact congrArg some (Int64.toInt_ofNat_of_lt lt)
  | _ => rfl

end IntType

namespace FieldType

theorem read_int (t : IntType) (n : t.Carrier) : (int t).read ((int t).toValue n) = .ok n := by
  have number : ((int t).toValue n).number? = some (t.toInt n) := t.number?_toValue n
  simp only [read, number, if_pos (t.holds_toInt n), t.ofInt_toInt]

/-- A field that is not null is read by its type. -/
theorem read_optional {t : FieldType} {v : Value} (ne : v ≠ .null) :
    (optional t).read v = (t.read v).map some := by
  cases v with
  | null => exact absurd rfl ne
  | _ => rfl

/-- What a field shows is read as a field that shows the same. -/
theorem read_toValue (t : FieldType) (x : t.Carrier) :
    ∃ y, t.read (t.toValue x) = .ok y ∧ t.toValue y = t.toValue x := by
  induction t with
  | int t => exact ⟨x, read_int t x, rfl⟩
  | optional t ih =>
    cases x with
    | none => exact ⟨none, rfl, rfl⟩
    | some a =>
      rcases ih a with ⟨y, reads, same⟩
      -- a present field may show null, and is then read as an absent one
      by_cases null : t.toValue a = .null
      · have shown : (optional t).toValue (some a) = .null := null
        rw [shown]
        exact ⟨none, rfl, rfl⟩
      · have shown : (optional t).read ((optional t).toValue (some a)) = .ok (some y) := by
          show (optional t).read (t.toValue a) = _
          rw [read_optional null, reads]
          rfl
        exact ⟨some y, shown, same⟩
  | _ => exact ⟨x, rfl, rfl⟩

end FieldType

end SqlCompose
