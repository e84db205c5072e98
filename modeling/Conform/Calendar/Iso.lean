import Conform.Calendar.DateTime
import Conform.Number.Numeral

/-!
# The ISO 8601 form of dates

A date is written `YYYY-MM-DD`, a date-time as the date, a separator and the time, with six
digits of fraction if the microsecond is not zero and with the offset if there is one.

More is read than is written. A date may do without its hyphens, and may be given by the number
of its week and the day in the week, or by the week alone. The date part is told apart by its
length and its fifth and sixth characters (`separatorAt`), after which any single character
separates the time. A time has up to three parts of two digits, with colons between all of them or
none. A fraction of a second may follow any of the parts after a point or a comma; after the third
it may follow a colon where colons are used, and where none are it needs no mark. Its digits after
the sixth are dropped. The offset starts at the first sign in the time and is written like a time;
a single ASCII character that stands in front of the sign is passed over. An offset of less than a
second either way is read as none from universal time.
-/

namespace Conform.Iso

/-! ## Writing -/

/-- A number with leading zeros. -/
def padded (width n : Nat) : String :=
  let digits := Nat.toDigits 10 n
  String.ofList (List.replicate (width - digits.length) '0' ++ digits)

/-- The text of a date. -/
def dateText (d : Date) : String :=
  padded 4 d.year ++ "-" ++ padded 2 d.month ++ "-" ++ padded 2 d.day

/-- A fraction of a second, if there is one. -/
def fractionText (us : Nat) : String := if us = 0 then "" else "." ++ padded 6 us

/-- The text of a time of day. -/
def timeText (t : TimeOfDay) : String :=
  padded 2 t.hour ++ ":" ++ padded 2 t.minute ++ ":" ++ padded 2 t.second ++
    fractionText t.microsecond

/-- The text of an offset: hours and minutes, and seconds if they are not all zero. -/
def offsetText (o : Offset) : String :=
  let us := o.microseconds.natAbs
  (if o.microseconds < 0 then "-" else "+") ++
    padded 2 (us / 3600000000) ++ ":" ++ padded 2 (us / 60000000 % 60) ++
    (if us % 60000000 = 0 then "" else ":" ++ padded 2 (us / 1000000 % 60)) ++
    fractionText (us % 1000000)

/-- The text of a date-time, with `separator` between date and time. -/
def dateTimeText (separator : String) (t : DateTime) : String :=
  dateText t.date ++ separator ++ timeText t.time ++ (t.offset.map offsetText).getD ""

/-! ## Reading -/

/-- The number that exactly `n` digits at the front spell, and the rest. -/
def takeNumber (n : Nat) (cs : List Char) : Option (Nat × List Char) :=
  let ds := cs.take n
  if ds.length = n ∧ ds.all isDigit then some (decimal ds, cs.drop n) else none

/-- The number of characters of the date part of a text of at least seven characters. -/
def separatorAt (cs : List Char) : Nat :=
  let at? := fun n => cs[n]?
  if cs.length = 7 then 7
  else if at? 4 = some '-' then
    if at? 5 = some 'W' then
      if at? 8 = some '-' then
        if ((at? 10).map isDigit).getD false then 8 else 10
      else 8
    else 10
  else if at? 4 = some 'W' then
    let digitsEnd := 7 + ((cs.drop 7).takeWhile isDigit).length
    if digitsEnd < 9 then digitsEnd
    else if digitsEnd % 2 = 0 then 7
    else 8
  else 8

/-- A hyphen at the front, if hyphens are used. -/
def takeHyphen (used : Bool) (cs : List Char) : Option (List Char) :=
  if used then
    match cs with
    | '-' :: rest => some rest
    | _ => none
  else some cs

/-- The date that a whole text spells. -/
def readDate (cs : List Char) : Option Date := do
  let (year, cs) ← takeNumber 4 cs
  let hyphens := cs.head? == some '-'
  let cs := if hyphens then cs.drop 1 else cs
  match cs with
  | 'W' :: cs =>
    let (week, cs) ← takeNumber 2 cs
    if cs.isEmpty then Date.ofWeek? year week 1
    else
      let cs ← takeHyphen hyphens cs
      let (day, cs) ← takeNumber 1 cs
      if cs.isEmpty then Date.ofWeek? year week day else none
  | _ =>
    let (month, cs) ← takeNumber 2 cs
    let cs ← takeHyphen hyphens cs
    let (day, cs) ← takeNumber 2 cs
    if cs.isEmpty then Date.of? year month day else none

/-- **A time as it is read**, before its ranges are looked at, and whether characters were left
over at its end. -/
structure Clock where
  hour : Nat
  minute : Nat
  second : Nat
  microsecond : Nat
  leftOver : Bool

/-- Whether a character after the last part counts as left over. The nul character ends a time. -/
def isExtra (c : Char) : Bool := c != '\x00'

/-- The fraction of a second: at least one digit, of which six count; other characters may be
left over only after the sixth. -/
def readFraction (cs : List Char) : Option (Nat × Bool) :=
  let ds := cs.take 6
  if ds.isEmpty || !ds.all isDigit then none
  else
    some (decimal ds * pow10 (6 - ds.length), ((cs.drop 6).dropWhile isDigit).head?.any isExtra)

/-- The parts of a time, of which at most `left` are still to come, the microseconds after them,
and whether characters were left over. `colons?` tells whether there are colons between the parts;
if it does not the first part decides. -/
def readParts (colons? : Option Bool) : (left : Nat) → List Char → Option (List Nat × Nat × Bool)
  | 0, cs => (readFraction cs).map fun (us, leftOver) => ([], us, leftOver)
  | left + 1, cs => do
    let (n, cs) ← takeNumber 2 cs
    let colons := colons?.getD (cs.head? == some ':')
    match cs with
    | [] => return ([n], 0, false)
    | [c] => if c.toNat < 0x80 then return ([n], 0, isExtra c) else none
    | c :: rest =>
      let (ns, us, leftOver) ←
        if colons && c == ':' then readParts colons left rest
        else if c == '.' || c == ',' then readParts colons 0 rest
        else if colons then none
        else readParts colons left cs
      return (n :: ns, us, leftOver)

/-- The time that a text spells. -/
def readClock (cs : List Char) : Option Clock := do
  let (ns, us, leftOver) ← readParts none 3 cs
  return ⟨ns.headD 0, (ns.drop 1).headD 0, (ns.drop 2).headD 0, us, leftOver⟩

/-- The time of day and the offset that a text spells. An offset of less than a second is none from
universal time. -/
def readTime (cs : List Char) : Option (TimeOfDay × Option Offset) := do
  let (timePart, offsetPart) := cs.span fun c => c != '+' && c != '-'
  let c ← readClock timePart
  let time ← TimeOfDay.of? c.hour c.minute c.second c.microsecond
  match offsetPart with
  | [] => if c.leftOver then none else return (time, none)
  | sign :: offsetPart =>
    let o ← readClock offsetPart
    if o.leftOver then none
    else
      let seconds : Int := (o.hour * 60 + o.minute) * 60 + o.second
      let us := if seconds = 0 then 0 else seconds * 1000000 + o.microsecond
      let offset ← Offset.of? (if sign == '-' then -us else us)
      return (time, some offset)

/-- **The date-time that a text spells.** -/
def readDateTime (cs : List Char) : Option DateTime :=
  if cs.length < 7 then none
  else do
    let n := separatorAt cs
    let date ← readDate (cs.take n)
    match cs.drop n with
    | [] => return .ofDate date
    | _ :: cs =>
      let (time, offset) ← readTime cs
      return ⟨date, time, offset⟩

end Conform.Iso
