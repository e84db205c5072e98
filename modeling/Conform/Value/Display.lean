import Conform.Value.Basic
import Conform.Calendar.Iso
import Conform.Text.Quoted

/-!
# The text of values

A value has two texts. `Value.shown` can be read back: texts stand between quotes, and a list, a
tuple or a map shows its members. `Value.plainText` is the text of a key in a path or in a
message: a text is itself, a date-time has a space between date and time, and anything else is
shown.
-/

namespace Conform.Value

/-- A list of texts with commas between them. -/
def commaSeparated (texts : List String) : String := ", ".intercalate texts

/-- A constructor call: a name and its arguments. -/
def call (name : String) (arguments : List String) : String :=
  name ++ "(" ++ commaSeparated arguments ++ ")"

/-- An offset, shown: as days, seconds and microseconds of which the last two are not
negative. -/
def shownOffset (o : Offset) : String :=
  if o.microseconds = 0 then "datetime.timezone.utc"
  else
    let days := o.microseconds.fdiv dayLength
    let rest := (o.microseconds.fmod dayLength).toNat
    let part := fun (name : String) (n : Int) => if n = 0 then [] else [name ++ "=" ++ toString n]
    call "datetime.timezone" [call "datetime.timedelta"
      (part "days" days ++ part "seconds" (rest / 1000000) ++
        part "microseconds" (rest % 1000000))]

/-- A date-time, shown. -/
def shownDateTime (t : DateTime) : String :=
  let tail :=
    if t.time.microsecond ≠ 0 then [t.time.second, t.time.microsecond]
    else if t.time.second ≠ 0 then [t.time.second]
    else []
  call "datetime.datetime"
    (([t.date.year, t.date.month, t.date.day, t.time.hour, t.time.minute] ++ tail).map toString ++
      (t.offset.map fun o => "tzinfo=" ++ shownOffset o).toList)

mutual
/-- **A value as it can be read back.** -/
def shown : Value → String
  | .null => "None"
  | .bool b => if b then "True" else "False"
  | .number n => n.text
  | .text s => Text.quoted s
  | .bytes octets => Text.quotedOctets octets
  | .date d => call "datetime.date" ([d.year, d.month, d.day].map toString)
  | .dateTime t => shownDateTime t
  | .absent => "ABSENT"
  | .list items => "[" ++ commaSeparated (shownItems items) ++ "]"
  | .tuple [item] => "(" ++ shown item ++ ",)"
  | .tuple items => "(" ++ commaSeparated (shownItems items) ++ ")"
  | .set [] => call "set" []
  | .set items => "\x7b" ++ commaSeparated (shownItems items) ++ "\x7d"
  | .map entries => "\x7b" ++ commaSeparated (shownEntries entries) ++ "\x7d"
  | v => v.typeName

/-- Each value of a list, shown. -/
def shownItems : List Value → List String
  | [] => []
  | v :: vs => shown v :: shownItems vs

/-- Each entry of a map, shown. -/
def shownEntries : List (Value × Value) → List String
  | [] => []
  | (k, v) :: es => (shown k ++ ": " ++ shown v) :: shownEntries es
end

/-- **A value as the text of a key.** -/
def plainText : Value → String
  | .text s => s
  | .date d => Iso.dateText d
  | .dateTime t => Iso.dateTimeText " " t
  | v => v.shown

end Conform.Value
