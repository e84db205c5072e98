import Conform.Value.Basic
import Conform.Text.Blank
import Conform.Calendar.Iso

/-!
# Values on the time line

A date, a date-time or a text in ISO 8601 form names an instant. Without an offset it is taken to
be in universal time, and a bare date is the start of its day. In a text, blanks at the ends do
not count, and every `Z` stands for the offset `+00:00`.

There are four ways to fail (`InstantError`): the text is blank, the text is no date, the value is
neither text nor date, or the instant lies outside the years 1 to 9999.
-/

namespace Conform

/-- **Why a value names no instant.** -/
inductive InstantError where
  | emptyText
  | notIso
  | wrongType (typeName : String)
  /-- The date exists, but in universal time it leaves the years 1 to 9999. -/
  | outOfRange
deriving DecidableEq, Repr

/-- The wording of a failure to name an instant. -/
def InstantError.message : InstantError → String
  | emptyText => "Empty date string"
  | notIso => "invalid date"
  | wrongType name => "Expected ISO-8601 string or date, got " ++ name
  | outOfRange => "date value out of range"

/-- Characters with every `Z` written as an offset. -/
def expandZulu (cs : List Char) : List Char :=
  cs.flatMap fun c => if c = 'Z' then "+00:00".toList else [c]

/-- The date-time that a text names. -/
def dateTimeOfText (s : String) : Except InstantError DateTime :=
  match Text.trimChars Text.isBlank s.toList with
  | [] => throw .emptyText
  | cs =>
    match Iso.readDateTime (expandZulu cs) with
    | some t => return t
    | none => throw .notIso

/-- The instant that a date-time names. -/
def DateTime.instant (t : DateTime) : Except InstantError Instant :=
  match t.instant? with
  | some i => return i
  | none => throw .outOfRange

/-- **The instant that a text names.** -/
def instantOfText (s : String) : Except InstantError Instant := do
  (← dateTimeOfText s).instant

/-- **The instant that a value names.** A timestamp, which only a default can have, counts as the
date-time that it names, to the microsecond, and the missing point in time as none. -/
def Value.instant : Value → Except InstantError Instant
  | .dateTime t | .timestamp t => t.instant
  | .date d => (DateTime.ofDate d).instant
  | .text s => instantOfText s
  | v => throw (.wrongType v.typeName)

/-- **A bound on dates**: a text and the instant that it names. -/
structure DateBound where
  text : String
  instant : Instant
  names_instant : instantOfText text = .ok instant

/-- The bound that a text spells. -/
def DateBound.ofText (s : String) : Except InstantError DateBound :=
  match h : instantOfText s with
  | .ok i => .ok ⟨s, i, h⟩
  | .error e => .error e

end Conform
