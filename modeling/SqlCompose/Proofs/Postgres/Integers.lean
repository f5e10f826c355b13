import Mathlib.Algebra.Ring.Int.Defs
import Mathlib.Data.List.Induction
import SqlCompose.Proofs.Postgres.Octets
import SqlCompose.Proofs.Value.Reading

/-! # Integers stay exact

An integer value has a number, whatever its width.  The number is read at an integer type, taken to
sixty-four signed bits, or written in a column, and it is the same number each time: where it is out
of the range, it is refused, and nothing of it is kept.

The range of a type is stated here by its bits (`IntType.Range`), and the octets of a number by the
number they spell (`Spells`), neither by way of the conversions.

Main statements:

* `FieldType.read_integer_iff`: what an integer is read as has its number;
* `Value.asInt64?_eq_some_iff`: so has the signed integer of sixty-four bits;
* `Postgres.Spells.unique`: a number is spelled by one text of octets only, given their count;
* `Postgres.integers_stay_exact`: the conversions are exact, and agree on what they refuse.
-/

namespace SqlCompose

/-! ## Ranges -/

namespace IntType

def bits : IntType → Nat
  | int16 => 16
  | int32 => 32
  | int64 => 64
  | uint32 => 32
  | uint64 => 64

def signed : IntType → Bool
  | int16 => true
  | int32 => true
  | int64 => true
  | uint32 => false
  | uint64 => false

/-- The numbers that the bits of the type can tell. -/
def Range (t : IntType) (n : Int) : Prop :=
  if t.signed then -2 ^ (t.bits - 1) ≤ n ∧ n < 2 ^ (t.bits - 1) else 0 ≤ n ∧ n < 2 ^ t.bits

instance (t : IntType) (n : Int) : Decidable (t.Range n) :=
  inferInstanceAs (Decidable
    (if t.signed then -2 ^ (t.bits - 1) ≤ n ∧ n < 2 ^ (t.bits - 1) else 0 ≤ n ∧ n < 2 ^ t.bits))

/-- The bounds of the type are those of its bits. -/
theorem holds_iff_range (t : IntType) (n : Int) : t.Holds n ↔ t.Range n := by
  cases t with
  | _ =>
    simp [Holds, least, greatest, Range, signed, bits]
    omega

/-- The octets of the type have room for its range, and for as much below zero. -/
theorem within_octets (t : IntType) {n : Int} (range : t.Range n) :
    -256 ^ (t.bits / 8) ≤ n ∧ n < 256 ^ (t.bits / 8) := by
  cases t with
  | _ =>
    simp [Range, signed, bits] at range ⊢
    omega

end IntType

/-! ## Reading -/

section

variable {v : Value} {n : Int} (number : v.number? = some n)

include number

namespace FieldType

/-- An integer is read where its number is in range. -/
theorem read_integer (t : IntType) :
    (int t).read v = if t.Holds n then .ok (t.ofInt n) else .error (.outOfRange t) := by
  simp only [read, number]

/-- An integer is read as the one integer of the type that has its number. -/
theorem read_integer_iff (t : IntType) (x : t.Carrier) :
    (int t).read v = .ok x ↔ t.toInt x = n := by
  rw [read_integer number]
  constructor
  · intro reads
    split at reads
    · next holds =>
      cases reads
      exact IntType.toInt_ofInt holds
    · cases reads
  · rintro rfl
    rw [if_pos (t.holds_toInt x), t.ofInt_toInt]

/-- Out of range, the error names the type that was asked for. -/
theorem read_integer_of_not_range {t : IntType} (outside : ¬t.Range n) :
    (int t).read v = .error (.outOfRange t) := by
  rw [read_integer number, if_neg]
  rwa [t.holds_iff_range]

/-- An integer can be read exactly in the range of the type. -/
theorem exists_read_integer_iff (t : IntType) : (∃ x, (int t).read v = .ok x) ↔ t.Range n := by
  constructor
  · rintro ⟨x, reads⟩
    -- what was read has the number, and every integer of the type is in range
    have same : t.toInt x = n := (read_integer_iff number t x).1 reads
    rw [← same, ← t.holds_iff_range]
    exact t.holds_toInt x
  · intro range
    have holds : t.Holds n := (t.holds_iff_range n).2 range
    exact ⟨t.ofInt n, (read_integer_iff number t _).2 (IntType.toInt_ofInt holds)⟩

end FieldType

namespace Value

/-- The signed integer of sixty-four bits that a value is taken as is the one with its number. -/
theorem asInt64?_eq_some_iff (m : Int64) : v.asInt64? = some m ↔ m.toInt = n := by
  have found : v.asInt64? = if IntType.int64.Holds n then some (Int64.ofInt n) else none := by
    rw [asInt64?, number]
    rfl
  rw [found]
  constructor
  · intro same
    split at same
    · next holds =>
      cases same
      exact IntType.toInt_ofInt holds
    · cases same
  · rintro rfl
    have holds : IntType.int64.Holds m.toInt := IntType.holds_toInt .int64 m
    rw [if_pos holds, Int64.ofInt_toInt]

end Value

end

namespace Postgres

/-! ## Octets of a number -/

/-- Octets that spell a number in two's complement, most significant first: as many as given, and as
a natural number they are the number, or what it is greater by the size of the field if negative. -/
def Spells (width : Nat) (octets : List UInt8) (n : Int) : Prop :=
  octets.length = width ∧ (beValue octets : Int) = if 0 ≤ n then n else n + 256 ^ width

/-- Octets are known by the number that they spell and by how many they are. -/
theorem beBytes_beValue (octets : List UInt8) :
    beBytes octets.length (beValue octets) = octets := by
  induction octets using List.reverseRecOn with
  | nil => rfl
  | append_singleton front byte ih =>
    have lt : byte.toNat < 256 := byte.toNat_lt
    -- the last octet is the remainder, and the ones in front are the quotient
    have high : (beValue front * 256 + byte.toNat) / 256 = beValue front := by omega
    have low : (beValue front * 256 + byte.toNat) % 256 = byte.toNat := by omega
    rw [List.length_append, List.length_singleton, beValue_concat, beBytes, high, low, ih,
      UInt8.ofNat_toNat]

/-- A number is spelled in one way. -/
theorem Spells.unique {width : Nat} {octets octets' : List UInt8} {n : Int}
    (spells : Spells width octets n) (spells' : Spells width octets' n) : octets = octets' := by
  have same : beValue octets = beValue octets' :=
    Int.ofNat.inj (spells.2.trans spells'.2.symm)
  rw [← beBytes_beValue octets, ← beBytes_beValue octets', spells.1, spells'.1, same]

/-- The octets of a number that has room in them spell it. -/
theorem spells_beInt {width : Nat} {n : Int} (least : -256 ^ width ≤ n)
    (greatest : n < 256 ^ width) : Spells width (beInt width n) n := by
  refine ⟨length_beInt width n, ?_⟩
  have size : ((Nat.pow 256 width : Nat) : Int) = 256 ^ width := Int.natCast_pow 256 width
  have pos : (0 : Int) < 256 ^ width := Int.pow_pos (by decide)
  have nonneg := Int.emod_nonneg n (Int.ne_of_gt pos)
  have lt := Int.emod_lt_of_pos n pos
  -- what is written is the residue, which is the number itself unless that is negative
  have residue : (beValue (beInt width n) : Int) = n % 256 ^ width := by
    rw [beInt, beValue_beBytes, Int.natCast_emod, size, Int.toNat_of_nonneg nonneg, Int.emod_emod]
  rw [residue]
  split
  · next sign => exact Int.emod_eq_of_lt sign greatest
  · next sign =>
    rw [← Int.add_emod_right]
    exact Int.emod_eq_of_lt (by omega) (by omega)

/-! ## Columns of integers -/

namespace DataType

/-- The integers of a column type. -/
def integers? : DataType → Option IntType
  | .int2 => some .int16
  | .int4 => some .int32
  | .int8 => some .int64
  | .oid => some .uint32
  | _ => none

end DataType

section

variable {t : DataType} {type : IntType} (integers : t.integers? = some type) {n : Int}

include integers

/-- The numbers of the types of columns are among those of sixty-four signed bits. -/
theorem holds_int64 (holds : type.Holds n) : IntType.int64.Holds n := by
  cases t with
  | int2 | int4 | int8 | oid =>
    cases integers
    simp only [IntType.Holds, IntType.least, IntType.greatest] at holds ⊢
    omega
  | _ => cases integers

/-- In its range a number is written in the width of the column. -/
theorem encodeInt_of_holds (holds : type.Holds n) :
    encodeInt n t = .ok (beInt (type.bits / 8) n) := by
  cases t with
  | int2 | int4 | oid =>
    cases integers
    exact if_pos holds
  | int8 =>
    cases integers
    rfl
  | _ => cases integers

/-- In the widest column the range has been looked at before. -/
theorem encodeInt_of_not_holds (wide : IntType.int64.Holds n) (outside : ¬type.Holds n) :
    encodeInt n t = .error .intOutOfRange := by
  cases t with
  | int2 | int4 | oid =>
    cases integers
    exact if_neg outside
  | int8 =>
    cases integers
    exact absurd wide outside
  | _ => cases integers

variable {v : Value} (number : v.number? = some n)

include number

/-- An integer in a column of integers: its octets in the width of the type, if it is in range. -/
theorem encode_integer :
    encode v t =
      if type.Holds n then .ok (some (beInt (type.bits / 8) n)) else .error .intOutOfRange := by
  have notNull : v = .null → False := by
    rintro rfl
    cases number
  simp only [encode, number]
  -- sixty-four bits are looked at first, for all columns alike
  by_cases holds : type.Holds n
  · rw [if_pos holds, if_pos (holds_int64 integers holds), encodeInt_of_holds integers holds]
    rfl
  · rw [if_neg holds]
    split
    · next wide =>
      rw [encodeInt_of_not_holds integers wide holds]
      rfl
    · rfl

/-- Within the range of the column, the octets that spell the number are added to the message. -/
theorem putValue_integer (range : type.Range n) (message : List UInt8) :
    ∃ octets, Spells (type.bits / 8) octets n ∧
      putValue v t message = .ok false (message ++ octets) := by
  refine ⟨beInt (type.bits / 8) n, ?_, ?_⟩
  · rcases type.within_octets range with ⟨least, greatest⟩
    exact spells_beInt least greatest
  · have encoded : encode v t = .ok (some (beInt (type.bits / 8) n)) := by
      rw [encode_integer integers number, if_pos ((type.holds_iff_range n).2 range)]
    rw [putValue, encoded]
    rfl

/-- Beyond it, the message stays as it is. -/
theorem putValue_of_not_range (outside : ¬type.Range n) (message : List UInt8) :
    putValue v t message = .error .intOutOfRange message := by
  have encoded : encode v t = .error .intOutOfRange := by
    rw [encode_integer integers number, if_neg]
    rwa [type.holds_iff_range]
  rw [putValue, encoded]
  rfl

/-- What is added is what spells the number, and nothing else. -/
theorem putValue_integer_iff (message written : List UInt8) :
    putValue v t message = .ok false written ↔
      type.Range n ∧ ∃ octets, Spells (type.bits / 8) octets n ∧ written = message ++ octets := by
  constructor
  · intro put
    by_cases range : type.Range n
    · rcases putValue_integer integers number range message with ⟨octets, spells, added⟩
      rw [added] at put
      cases put
      exact ⟨range, octets, spells, rfl⟩
    · rw [putValue_of_not_range integers number range message] at put
      cases put
  · rintro ⟨range, octets, spells, rfl⟩
    rcases putValue_integer integers number range message with ⟨octets', spells', added⟩
    -- there is only one way to spell the number
    rw [added, spells.unique spells']

end

/-! ## All conversions -/

/-- The number of an integer value is what it is read as at every integer type, taken to as
sixty-four signed bits, and written as in every column of integers, if it is in the range there.
Otherwise it is refused as out of range, and nothing is written. -/
theorem integers_stay_exact {v : Value} {n : Int} (number : v.number? = some n) :
    (∀ t : IntType,
      (∀ x, (FieldType.int t).read v = .ok x ↔ t.toInt x = n) ∧
      ((∃ x, (FieldType.int t).read v = .ok x) ↔ t.Range n) ∧
      (¬t.Range n → (FieldType.int t).read v = .error (.outOfRange t))) ∧
    (∀ m, (v.asInt64? = some m ↔ m.toInt = n) ∧
      (v.asInt64? = some m ↔ (FieldType.int .int64).read v = .ok m)) ∧
    (∀ message, (∃ m, v.asInt64? = some m) ↔ ∃ written,
      putValue v .int8 message = .ok false written) ∧
    ∀ t type, DataType.integers? t = some type → ∀ message,
      (∀ written, putValue v t message = .ok false written ↔
        type.Range n ∧ ∃ octets, Spells (type.bits / 8) octets n ∧ written = message ++ octets) ∧
      (¬type.Range n → putValue v t message = .error .intOutOfRange message) := by
  have signed : DataType.integers? .int8 = some .int64 := rfl
  refine ⟨?_, ?_, ?_, ?_⟩
  · intro t
    exact ⟨FieldType.read_integer_iff number t, FieldType.exists_read_integer_iff number t,
      FieldType.read_integer_of_not_range number⟩
  · intro m
    have taken : v.asInt64? = some m ↔ m.toInt = n := Value.asInt64?_eq_some_iff number m
    exact ⟨taken, taken.trans (FieldType.read_integer_iff number .int64 m).symm⟩
  · intro message
    calc (∃ m, v.asInt64? = some m)
        ↔ ∃ m : Int64, (FieldType.int .int64).read v = .ok m := by
          apply exists_congr
          intro m
          exact (Value.asInt64?_eq_some_iff number m).trans
            (FieldType.read_integer_iff number .int64 m).symm
      _ ↔ IntType.int64.Range n := FieldType.exists_read_integer_iff number .int64
      _ ↔ ∃ written, putValue v .int8 message = .ok false written := by
          constructor
          · intro range
            rcases putValue_integer signed number range message with ⟨octets, -, added⟩
            exact ⟨_, added⟩
          · rintro ⟨written, put⟩
            exact ((putValue_integer_iff signed number message written).1 put).1
  · intro t type integers message
    exact ⟨putValue_integer_iff integers number message,
      fun outside => putValue_of_not_range integers number outside message⟩

/-- The least number of thirty-two signed bits, held in sixty-four, behind an octet of a message. -/
theorem leastNumber_stays_exact :
    let v : Value := .int64 (-2147483648)
    v.number? = some (-2147483648) ∧ v.asInt64? = some (-2147483648) ∧
    (FieldType.int .int32).read v = .ok (Int32.minValue) ∧
    (FieldType.int .int16).read v = .error (.outOfRange .int16) ∧
    (FieldType.int .uint64).read v = .error (.outOfRange .uint64) ∧
    putValue v .int4 [7] = .ok false [7, 128, 0, 0, 0] ∧
    putValue v .int2 [7] = .error .intOutOfRange [7] ∧
    putValue v .oid [7] = .error .intOutOfRange [7] := by
  intro v
  have number : v.number? = some (-2147483648) := rfl
  rcases integers_stay_exact number with ⟨reads, takes, -, puts⟩
  have octets : Spells 4 [128, 0, 0, 0] (-2147483648) := ⟨rfl, by decide⟩
  refine ⟨number, (takes _).1.2 rfl, ?_, ?_, ?_, ?_, ?_, ?_⟩
  · exact ((reads .int32).1 _).2 rfl
  · exact (reads .int16).2.2 (by decide)
  · exact (reads .uint64).2.2 (by decide)
  · exact ((puts .int4 .int32 rfl [7]).1 _).2 ⟨by decide, _, octets, rfl⟩
  · exact (puts .int2 .int16 rfl [7]).2 (by decide)
  · exact (puts .oid .uint32 rfl [7]).2 (by decide)

end Postgres

end SqlCompose
