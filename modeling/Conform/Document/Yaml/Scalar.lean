import Conform.Document.Yaml.Tag
import Conform.Number.Sexagesimal
import Conform.Number.Spelled
import Conform.Text.Base64
import Conform.Text.Casing
import Conform.Value.Basic

/-!
# Values of scalars

What the text of a scalar names, given its tag. The form of a plain scalar has been looked at
when its tag was found, but there are still texts that name nothing: a day that the calendar does
not have, or digits that are all low lines. A text with a tag written in front of it may have any
form; a number in it may be spelled in any script, with blanks around it.
-/

namespace Conform.Yaml

/-- The words for truth values. -/
def truthWords : List (String × Bool) :=
  [("yes", true), ("no", false), ("true", true), ("false", false), ("on", true), ("off", false)]

/-- Characters without low lines. -/
def dropLowLines (cs : List Char) : List Char := cs.filter (· != '_')

/-! ## Integers -/

/-- The integer to a base that characters spell. -/
def integerToBase (base : Nat) (cs : List Char) : Parsed Int :=
  match spelledInteger? base cs with
  | some n => return n
  | none => throw (.noInteger base (String.ofList cs))

/-- The size of an integer: to a base that its first digits tell, or in sixties. -/
def integerSize (cs : List Char) : Parsed Int :=
  match cs with
  | [] => throw .emptyNumeral
  | ['0'] => return 0
  | '0' :: 'b' :: ds => integerToBase 2 ds
  | '0' :: 'x' :: ds => integerToBase 16 ds
  | '0' :: _ => integerToBase 8 cs
  | cs =>
    if cs.contains ':' then do
      let parts ← (Tag.splitColons cs).mapM (integerToBase 10)
      return sexagesimal parts
    else integerToBase 10 cs

/-- An integer. -/
def integerOf (text : String) : Parsed Int := do
  let (negative, cs) := takeSign (dropLowLines text.toList)
  let n ← integerSize cs
  return if negative then -n else n

/-! ## Floating-point numbers -/

/-- The floating-point number that characters spell. -/
def floatOfChars (cs : List Char) : Parsed Binary64 :=
  match spelledFloat? cs with
  | some x => return x
  | none => throw (.noFloat (String.ofList cs))

/-- The size of a floating-point number. -/
def floatSize (cs : List Char) : Parsed Binary64 :=
  if String.ofList cs = ".inf" then return .infinity false
  else if String.ofList cs = ".nan" then return .notANumber (some .yaml)
  else if cs.contains ':' then do
    match Binary64.sexagesimal? (← (Tag.splitColons cs).mapM floatOfChars) with
    | some x => return x
    | none => throw .hugeSixties
  else floatOfChars cs

/-- The characters of a floating-point number, in small letters and without low lines. -/
def floatChars (text : String) : List Char :=
  (Text.lower (String.ofList (dropLowLines text.toList))).toList

/-- Whether a text is the word for what is not a number. -/
def isNaNWord (text : String) : Bool := Tag.dropSign (floatChars text) == ".nan".toList

/-- A floating-point number. -/
def floatOf (text : String) : Parsed Binary64 := do
  let cs := floatChars text
  if cs.isEmpty then throw .emptyNumeral
  let (negative, cs) := takeSign cs
  let x ← floatSize cs
  return if negative then x.negated else x

/-! ## Points in time -/

/-- The microseconds of the digits after the point, of which six count. -/
def microsecondOf (digits : List Char) : Nat :=
  let ds := digits.take 6
  decimal ds * pow10 (6 - ds.length)

namespace MomentParts

/-- The date of a point in time. -/
def date? (p : MomentParts) : Option Date :=
  Date.of? (decimal p.year) (decimal p.month) (decimal p.day)

/-- The offset of a point in time. -/
def offset? (negative : Bool) (hours minutes : List Char) : Option Offset :=
  let us : Int := (decimal hours * 60 + decimal minutes) * 60000000
  Offset.of? (if negative then -us else us)

/-- **The value of a point in time**: a date, or a date-time. -/
def value? (p : MomentParts) : Option Value := do
  let date ← p.date?
  match p.clock with
  | none => return .date date
  | some (hour, minute, second, fraction) =>
    let time ←
      TimeOfDay.of? (decimal hour) (decimal minute) (decimal second) (microsecondOf fraction)
    match p.offset with
    | none => return .dateTime ⟨date, time, none⟩
    | some (negative, hours, minutes) =>
      return .dateTime ⟨date, time, some (← offset? negative hours minutes)⟩

end MomentParts

/-- A point in time. -/
def momentOf (text : String) : Parsed Value :=
  match MomentParts.read text.toList with
  | none => throw .noMoment
  | some p =>
    match p.value? with
    | some v => return v
    | none => throw .noDate

/-! ## Values -/

/-- What is there, or the document is not in its format. -/
def orMalformed {α : Type} : Option α → Parsed α
  | some a => return a
  | none => throw .malformed

/-- A truth value. -/
def truthOf (text : String) : Parsed Bool :=
  let word := Text.lower text
  match truthWords.lookup word with
  | some b => return b
  | none => throw (.noTruth word)

/-- **The value of a scalar** with a tag. -/
def scalarValue (tag : Tag) (text : String) : Parsed Value :=
  match tag with
  | .null => return .null
  | .truth => (fun b => .bool b) <$> truthOf text
  | .integer => (fun n => .int n) <$> integerOf text
  | .float => (fun x => .float x) <$> floatOf text
  | .text => return .text text
  | .binary => (fun os => .bytes os) <$> orMalformed do
    if text.toList.any fun c => 0x80 ≤ c.toNat then none
    Text.octetsOfBase64? text.toList
  | .moment => momentOf text
  | _ => throw .malformed

end Conform.Yaml
