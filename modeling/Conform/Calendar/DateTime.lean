import Conform.Calendar.Date

/-!
# Points in time

A `DateTime` is a date and a time of day, perhaps with an offset from universal time. It names a
point in time: a date-time without an offset is taken to be in universal time, and one with an
offset is earlier than its local reading by that offset. An `Instant` is such a point, written in
universal time.

Three counts tie these together. `DateTime.localCount` is the number of microseconds up to the
local reading, `DateTime.count` is that number less the offset, and `Instant.ofCount?` goes back;
it fails exactly if the point lies outside the years 1 to 9999. Instants are ordered by their
numbers from the year down to the microsecond.
-/

namespace Conform

/-- **A time of day**, down to the microsecond. -/
structure TimeOfDay where
  hour : Nat
  minute : Nat
  second : Nat
  microsecond : Nat
  in_range : hour < 24 ∧ minute < 60 ∧ second < 60 ∧ microsecond < 1000000
deriving DecidableEq, Repr

namespace TimeOfDay

/-- The time with the given numbers, if there is one. -/
def of? (h m s us : Nat) : Option TimeOfDay :=
  if ok : h < 24 ∧ m < 60 ∧ s < 60 ∧ us < 1000000 then some ⟨h, m, s, us, ok⟩ else none

/-- The start of a day. -/
def midnight : TimeOfDay := ⟨0, 0, 0, 0, by decide⟩

/-- Microseconds since midnight. -/
def count (t : TimeOfDay) : Nat :=
  ((t.hour * 60 + t.minute) * 60 + t.second) * 1000000 + t.microsecond

end TimeOfDay

/-- The number of microseconds of a day. -/
def dayLength : Nat := 86400000000

/-- **An offset from universal time**: less than a day either way, in microseconds. -/
structure Offset where
  microseconds : Int
  in_range : microseconds.natAbs < dayLength
deriving DecidableEq, Repr

namespace Offset

/-- The offset of so many microseconds, if it is less than a day. -/
def of? (us : Int) : Option Offset :=
  if h : us.natAbs < dayLength then some ⟨us, h⟩ else none

/-- No offset at all. -/
def zero : Offset := ⟨0, by decide⟩

end Offset

/-- **A date and a time of day**, perhaps with an offset from universal time. -/
structure DateTime where
  date : Date
  time : TimeOfDay
  offset : Option Offset
deriving DecidableEq, Repr

/-- **A point in time**, written in universal time. -/
structure Instant where
  date : Date
  time : TimeOfDay
deriving DecidableEq, Repr

namespace Instant

/-- Microseconds from the day before the calendar's first day. -/
def count (i : Instant) : Int := i.date.ordinal * dayLength + i.time.count

/-- The time of day that is so many microseconds after midnight. -/
def timeOfCount? (us : Nat) : Option TimeOfDay :=
  TimeOfDay.of? (us / 3600000000) (us / 60000000 % 60) (us / 1000000 % 60) (us % 1000000)

/-- **The point with a given count**, if it lies in the years 1 to 9999. -/
def ofCount? (n : Int) : Option Instant := do
  let date ← Date.ofOrdinal? (n.fdiv dayLength)
  let time ← timeOfCount? (n.fmod dayLength).toNat
  return ⟨date, time⟩

/-- The numbers of an instant, from the year down to the microsecond. -/
def fields (i : Instant) : List Nat :=
  [i.date.year, i.date.month, i.date.day, i.time.hour, i.time.minute, i.time.second,
    i.time.microsecond]

/-- **Earlier than**: the first number in which two instants differ decides. -/
def before (i j : Instant) : Bool := decide (i.fields < j.fields)

/-- An instant as a date-time in universal time. -/
def toDateTime (i : Instant) : DateTime := ⟨i.date, i.time, some .zero⟩

end Instant

namespace DateTime

/-- The start of a day, in universal time. -/
def ofDate (d : Date) : DateTime := ⟨d, .midnight, none⟩

/-- Microseconds up to the local reading. -/
def localCount (t : DateTime) : Int := t.date.ordinal * dayLength + t.time.count

/-- The offset in microseconds; none counts as zero. -/
def shift (t : DateTime) : Int := (t.offset.map (·.microseconds)).getD 0

/-- Microseconds up to the point in time that is named. -/
def count (t : DateTime) : Int := t.localCount - t.shift

/-- **The instant that a date-time names**, if it lies in the years 1 to 9999. -/
def instant? (t : DateTime) : Option Instant :=
  if t.shift = 0 then some ⟨t.date, t.time⟩ else Instant.ofCount? t.count

end DateTime

end Conform
