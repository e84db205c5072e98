import Conform.Document.Yaml.Property
import Conform.Number.Numeral

/-!
# Tags

The type of a node is told by its tag, or found from the form of a plain scalar: `null`, truth
values by eight words in three spellings, integers to four bases or in sixties, floating-point
numbers, points in time, and the two signs `<<` and `=`. The indicators `!`, `&` and `*` have a
type without values. Any other scalar is a text.

`Tag.ofPlain` decides by the form alone; whether the scalar names anything is not asked here. A
scalar that counts as plain by its tag may end in a line break, which makes no difference to its
form.
-/

namespace Conform.Yaml

/-- **The type of a node.** -/
inductive Tag where
  | null | truth | integer | float | text | binary | moment
  | sequence | mapping
  /-- Pairs in order. -/
  | pairs
  /-- The keys of a mapping. -/
  | keySet
  /-- The sign that merges a mapping into another. -/
  | merge
  /-- The sign for the value that stands for a mapping. -/
  | standIn
  | unknown
deriving DecidableEq, Repr

namespace Tag

/-- What the full names of the usual tags start with. -/
def commonPrefix : String := "tag:yaml.org,2002:"

/-- The tag of a full name. -/
def ofName (name : String) : Tag :=
  let usual := [("null", null), ("bool", truth), ("int", integer), ("float", float),
    ("str", text), ("binary", binary), ("timestamp", moment), ("seq", sequence),
    ("map", mapping), ("omap", pairs), ("pairs", pairs), ("set", keySet), ("merge", merge),
    ("value", standIn)]
  ((usual.map fun u => (commonPrefix ++ u.1, u.2)).lookup name).getD unknown

/-! ## Forms of plain scalars -/

/-- Characters without a line feed at their end. -/
def dropLastBreak (cs : List Char) : List Char :=
  if cs.getLast? = some '\n' then cs.dropLast else cs

/-- Words in small letters, with a capital, and in capitals. -/
def spellings (words : List String) : List String :=
  words.flatMap fun w => [w, w.capitalize, w.map asciiUpper]

/-- Whether a plain scalar is a null. -/
def isNullWord (s : String) : Bool := s == "~" || (spellings ["null"]).contains s

/-- Whether a plain scalar is a truth value. -/
def isTruthWord (s : String) : Bool :=
  (spellings ["yes", "no", "true", "false", "on", "off"]).contains s

/-- Characters without a sign. -/
def dropSign (cs : List Char) : List Char := (takeSign cs).2

/-- Whether all characters are low lines or digits to a base. -/
def areDigits (base : Nat) (cs : List Char) : Bool :=
  cs.all fun c => c == '_' || ((hexDigit? c).any fun d => decide (d < base))

/-- Whether characters are a part of a numeral in sixties: one digit, or two of which the first
is below six. -/
def isSixtieth : List Char → Bool
  | [c] => isDigit c
  | [c, d] => '0' ≤ c && c ≤ '5' && isDigit d
  | _ => false

/-- Whether characters start with a digit and go on with digits and low lines. -/
def isWhole : List Char → Bool
  | [] => false
  | c :: cs => isDigit c && areDigits 10 cs

/-- Characters split at their colons. -/
def splitColons (cs : List Char) : List (List Char) :=
  ((String.ofList cs).splitOn ":").map (·.toList)

/-- Whether characters are a numeral in sixties of at least two parts. -/
def isSexagesimal (cs : List Char) : Bool :=
  match splitColons cs with
  | first :: part :: parts => isWhole first && (part :: parts).all isSixtieth
  | _ => false

/-- Whether a plain scalar has the form of an integer. -/
def isInteger (cs : List Char) : Bool :=
  match dropSign cs with
  | ['0'] => true
  | '0' :: 'b' :: ds => !ds.isEmpty && areDigits 2 ds
  | '0' :: 'x' :: ds => !ds.isEmpty && areDigits 16 ds
  | '0' :: ds => areDigits 8 ds
  | ds => isWhole ds || isSexagesimal ds

/-- Whether characters are nothing or an exponent with a sign. -/
def isExponent : List Char → Bool
  | [] => true
  | e :: sign :: d :: ds =>
    (e == 'e' || e == 'E') && (sign == '+' || sign == '-') && (d :: ds).all isDigit
  | _ => false

/-- Whether characters are digits and low lines with perhaps an exponent after them. -/
def isFraction (cs : List Char) : Bool :=
  isExponent (cs.dropWhile fun c => c == '_' || isDigit c)

/-- Whether a plain scalar has the form of a floating-point number. -/
def isFloat (cs : List Char) : Bool :=
  let unsigned := dropSign cs
  let (whole, point) := unsigned.span (· != '.')
  match whole, point with
  | _, [] => false
  | [], _ :: fraction =>
    [".inf", ".Inf", ".INF"].contains (String.ofList unsigned) ||
      [".nan", ".NaN", ".NAN"].contains (String.ofList cs) ||
      (cs.length == unsigned.length && fraction.head?.any isDigit && isFraction fraction)
  | whole, _ :: fraction =>
    (isWhole whole && isFraction fraction) || (isSexagesimal whole && areDigits 10 fraction)

end Tag

/-! ## Points in time -/

/-- **A point in time as it is written**: the digits of its parts. -/
structure MomentParts where
  year : List Char
  month : List Char
  day : List Char
  /-- Hour, minute and second, and the digits after the point. -/
  clock : Option (List Char × List Char × List Char × List Char) := none
  /-- Whether the offset is negative, its hours and its minutes. -/
  offset : Option (Bool × List Char × List Char) := none
deriving Repr

namespace MomentParts

/-- One or two digits at the front. -/
def takeShort (cs : List Char) : Option (List Char × List Char) :=
  let digits := (cs.take 2).takeWhile isDigit
  if digits.isEmpty then none else some (digits, cs.drop digits.length)

/-- Exactly `n` digits at the front. -/
def takeExactly (n : Nat) (cs : List Char) : Option (List Char × List Char) :=
  let digits := (cs.take n).takeWhile isDigit
  if digits.length = n then some (digits, cs.drop n) else none

/-- A given character at the front. -/
def takeChar (c : Char) : List Char → Option (List Char)
  | d :: cs => if c = d then some cs else none
  | [] => none

/-- What stands between date and time: a `T`, or blanks. -/
def takeGap : List Char → Option (List Char)
  | 'T' :: cs => some cs
  | 't' :: cs => some cs
  | cs => if cs.head?.any isIndent then some (cs.dropWhile isIndent) else none

/-- An offset, which is the whole rest. -/
def readOffset (cs : List Char) : Option (Bool × List Char × List Char) := do
  match cs with
  | ['Z'] => return (false, [], [])
  | sign :: cs =>
    if sign != '+' && sign != '-' then none
    let (hours, cs) ← takeShort cs
    match cs with
    | [] => return (sign == '-', hours, [])
    | cs =>
      let (minutes, cs) ← takeExactly 2 (← takeChar ':' cs)
      if cs.isEmpty then return (sign == '-', hours, minutes) else none
  | [] => none

/-- A time of day, and the rest. -/
def readClock (cs : List Char) :
    Option ((List Char × List Char × List Char × List Char) × List Char) := do
  let (hour, cs) ← takeShort cs
  let (minute, cs) ← takeExactly 2 (← takeChar ':' cs)
  let (second, cs) ← takeExactly 2 (← takeChar ':' cs)
  match cs with
  | '.' :: cs =>
    let (fraction, cs) := cs.span isDigit
    return ((hour, minute, second, fraction), cs)
  | cs => return ((hour, minute, second, []), cs)

/-- **The parts of a point in time**: a date, and perhaps a time and an offset after it. A line
break may end the text. -/
def read (cs : List Char) : Option MomentParts := do
  let cs := Tag.dropLastBreak cs
  let (year, cs) ← takeExactly 4 cs
  let (month, cs) ← takeShort (← takeChar '-' cs)
  let (day, cs) ← takeShort (← takeChar '-' cs)
  if cs.isEmpty then return { year, month, day }
  let (clock, cs) ← readClock (← takeGap cs)
  if cs.isEmpty then return { year, month, day, clock }
  return { year, month, day, clock, offset := ← readOffset (cs.dropWhile isIndent) }

/-- Whether the form is that of a plain scalar: a bare date has two digits for month and day. -/
def isPlain (p : MomentParts) : Bool :=
  p.clock.isSome || (p.month.length == 2 && p.day.length == 2)

end MomentParts

/-- The tag of a scalar by its form, which is not empty. -/
def Tag.ofForm (cs : List Char) : Tag :=
  let s := String.ofList cs
  if Tag.isNullWord s then .null
  else if Tag.isTruthWord s then .truth
  else if Tag.isFloat cs then .float
  else if Tag.isInteger cs then .integer
  else if s = "<<" then .merge
  else if (MomentParts.read cs).any (·.isPlain) then .moment
  else if s = "=" then .standIn
  else if ["!", "&", "*"].contains s then .unknown
  else .text

/-- **The tag of a plain scalar.** -/
def Tag.ofPlain (s : String) : Tag :=
  if s = "" then .null
  else
    match Tag.dropLastBreak s.toList with
    | [] => .text
    | cs => .ofForm cs

end Conform.Yaml
