/-!
# Calendar dates

A date of the Gregorian calendar in the years 1 to 9999. A `Date` holds its three numbers and
the fact that there is such a day, so every date that can be written down exists.

`Date.ordinal` counts the days up to a date, the first day of the year 1 being day 1, and
`Date.ofOrdinal?` goes back. A year splits off by the lengths of the 400-year, 100-year, 4-year
and single-year cycles; the month is found by passing over whole months.
-/

namespace Conform

/-- Whether a year has a 29th of February. -/
def isLeapYear (y : Nat) : Bool := y % 4 == 0 && (y % 100 != 0 || y % 400 == 0)

/-- The number of days of a month. -/
def daysInMonth (y m : Nat) : Nat :=
  match m with
  | 2 => if isLeapYear y then 29 else 28
  | 4 | 6 | 9 | 11 => 30
  | _ => 31

/-- The number of days in the years before `y`. -/
def daysBeforeYear (y : Nat) : Nat :=
  (y - 1) * 365 + (y - 1) / 4 - (y - 1) / 100 + (y - 1) / 400

/-- The number of days in the months before the month `m` of the year `y`. -/
def daysBeforeMonth (y m : Nat) : Nat :=
  ((List.range m).drop 1).foldl (fun days k => days + daysInMonth y k) 0

/-- **A date**: a day that exists in the years 1 to 9999. -/
structure Date where
  year : Nat
  month : Nat
  day : Nat
  exists_day : 1 ≤ year ∧ year ≤ 9999 ∧ 1 ≤ month ∧ month ≤ 12 ∧ 1 ≤ day ∧
    day ≤ daysInMonth year month
deriving DecidableEq, Repr

namespace Date

/-- The date with the given numbers, if there is one. -/
def of? (y m d : Nat) : Option Date :=
  if h : 1 ≤ y ∧ y ≤ 9999 ∧ 1 ≤ m ∧ m ≤ 12 ∧ 1 ≤ d ∧ d ≤ daysInMonth y m then
    some ⟨y, m, d, h⟩
  else none

/-- The number of the day, the first day of the year 1 being day 1. -/
def ordinal (d : Date) : Nat :=
  daysBeforeYear d.year + daysBeforeMonth d.year d.month + d.day

/-- The month and day of the day number `day` – counted from zero – at or after the month
`month`, at most `months` months being passed over. -/
def splitMonths (y : Nat) : (months : Nat) → (month day : Nat) → Nat × Nat
  | 0, month, day => (month, day)
  | months + 1, month, day =>
    if day < daysInMonth y month then (month, day)
    else splitMonths y months (month + 1) (day - daysInMonth y month)

/-- The year that the day number `day` – counted from zero – falls into, and the number of the
day in that year, counted from zero. -/
def splitYears (day : Nat) : Nat × Nat :=
  let (q400, r) := (day / 146097, day % 146097)
  let (q100, r) := (min (r / 36524) 3, r - 36524 * min (r / 36524) 3)
  let (q4, r) := (r / 1461, r % 1461)
  let (q1, r) := (min (r / 365) 3, r - 365 * min (r / 365) 3)
  (400 * q400 + 100 * q100 + 4 * q4 + q1 + 1, r)

/-- **The date of a day number**, if it lies in the years 1 to 9999. -/
def ofOrdinal? (n : Int) : Option Date :=
  if n < 1 then none
  else
    let (y, r) := splitYears (n.toNat - 1)
    let (m, d) := splitMonths y 11 1 r
    of? y m (d + 1)

/-- The day number of the Monday of the first week of a year: the week that holds the year's
first Thursday. -/
def firstMonday (y : Nat) : Int :=
  let newYear := daysBeforeYear y + 1
  let w := (newYear + 6) % 7
  let monday : Int := (newYear : Int) - w
  if 3 < w then monday + 7 else monday

/-- Whether a year has a 53rd week: it starts with a Thursday, or it is a leap year and starts
with a Wednesday. -/
def hasWeek53 (y : Nat) : Bool :=
  let w := (daysBeforeYear y + 7) % 7
  w == 3 || (w == 2 && isLeapYear y)

/-- The date that is given by a year, the number of a week in it, and a day from 1 for Monday. -/
def ofWeek? (y week day : Nat) : Option Date :=
  if 1 ≤ y ∧ y ≤ 9999 ∧ 1 ≤ week ∧ (week < 53 ∨ (week = 53 ∧ hasWeek53 y)) ∧
      1 ≤ day ∧ day ≤ 7 then
    ofOrdinal? (firstMonday y + (week - 1) * 7 + (day - 1))
  else none

end Date

end Conform
