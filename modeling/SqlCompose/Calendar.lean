/-! # Days and instants

Days are counted from 1970-01-01 in the proleptic Gregorian calendar, and instants in seconds and
nanoseconds from its first midnight.  Both are limited to the years -262143 to 262142, and the limit
is part of the type.

An instant may lie in a leap second.  A leap second goes with the second before it, whose
nanoseconds then run on to two seconds: 23:59:60.5 is 23:59:59 and 1 500 000 000 nanoseconds.  The
type has room for them in every second, but a pair of numbers is an instant in a leap second only if
the second is the last one of a minute (`Timestamp.ofParts?`).
-/

namespace SqlCompose

/-- The first day of the year -262143. -/
def firstDay : Int := -96465292

/-- The last day of the year 262142. -/
def lastDay : Int := 95026236

def secondsPerDay : Int := 86400

def nanosPerSecond : Nat := 1000000000

/-- A calendar day. -/
structure Date where
  /-- Days from 1970-01-01. -/
  days : Int
  inRange : firstDay ≤ days ∧ days ≤ lastDay
  deriving DecidableEq

/-- The day a number of days from 1970-01-01, unless it is out of range. -/
def Date.ofDays? (days : Int) : Option Date :=
  if h : firstDay ≤ days ∧ days ≤ lastDay then some ⟨days, h⟩ else none

/-- An instant, or a date and time of day without a time zone. -/
structure Timestamp where
  /-- Whole seconds from 1970-01-01 00:00:00, rounded down. -/
  seconds : Int
  /-- Nanoseconds into that second, and into the leap second behind it. -/
  nanos : Nat
  nanos_lt : nanos < 2 * nanosPerSecond
  inRange : firstDay * secondsPerDay ≤ seconds ∧ seconds < (lastDay + 1) * secondsPerDay
  deriving DecidableEq

/-- Whether these nanoseconds are told for this second: a leap second follows the last second of a
minute only. -/
def NanosFit (seconds : Int) (nanos : Nat) : Prop :=
  nanos < nanosPerSecond ∨ nanos < 2 * nanosPerSecond ∧ seconds.emod 60 = 59

instance (seconds : Int) (nanos : Nat) : Decidable (NanosFit seconds nanos) :=
  inferInstanceAs (Decidable (_ ∨ _))

theorem NanosFit.lt {seconds : Int} {nanos : Nat} (fit : NanosFit seconds nanos) :
    nanos < 2 * nanosPerSecond := by
  rcases fit with ordinary | ⟨leap, _⟩
  · exact Nat.lt_of_lt_of_le ordinary (by decide)
  · exact leap

/-- The instant with these seconds and nanoseconds, unless they are out of range. -/
def Timestamp.ofParts? (seconds : Int) (nanos : Nat) : Option Timestamp :=
  if h : NanosFit seconds nanos ∧
      firstDay * secondsPerDay ≤ seconds ∧ seconds < (lastDay + 1) * secondsPerDay then
    some ⟨seconds, nanos, h.1.lt, h.2⟩
  else none

/-- Nanoseconds from 1970-01-01 00:00:00.  Leap seconds are not counted: a fraction of more than a
second reaches into the second that follows. -/
def Timestamp.totalNanos (t : Timestamp) : Int :=
  t.seconds * nanosPerSecond + t.nanos

/-- The instant a number of nanoseconds from 1970-01-01 00:00:00, unless it is out of range.  It
lies in no leap second. -/
def Timestamp.ofNanos? (n : Int) : Option Timestamp :=
  ofParts? (n.fdiv nanosPerSecond) (n.fmod nanosPerSecond).toNat

/-- A universally unique identifier: sixteen octets. -/
structure Uuid where
  bytes : List UInt8
  length_bytes : bytes.length = 16
  deriving DecidableEq

def Uuid.ofBytes? (bytes : List UInt8) : Option Uuid :=
  if h : bytes.length = 16 then some ⟨bytes, h⟩ else none

end SqlCompose
