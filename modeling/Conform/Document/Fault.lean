import Conform.Text.Quoted

/-!
# Faults of documents

Most documents that cannot be read are simply not in their format. There are a few faults
besides: a scalar is said to be a number, a truth value or a point in time and its text is none,
or a text has the form of a date or of an escape and what it names does not exist.
-/

namespace Conform

/-- **A format of documents.** -/
inductive DocumentFormat where
  | yaml
  | json
deriving DecidableEq, Repr

namespace DocumentFormat

/-- Every format. -/
def all : List DocumentFormat := [yaml, json]

/-- The name by which a format is asked for. -/
def name : DocumentFormat → String
  | yaml => "yaml"
  | json => "json"

/-- The title of a format in messages. -/
def title : DocumentFormat → String
  | yaml => "YAML"
  | json => "JSON"

/-- The format with a given name. -/
def ofName? (s : String) : Option DocumentFormat := all.find? (·.name == s)

end DocumentFormat

/-- **Why a document cannot be read.** -/
inductive DocumentFault where
  /-- The text is not in the format. -/
  | malformed
  /-- A point in time that the calendar does not have. -/
  | noDate
  /-- A text that should be an integer to a base. -/
  | noInteger (base : Nat) (text : String)
  /-- A text that should be a floating-point number. -/
  | noFloat (text : String)
  /-- A numeral without a character. -/
  | emptyNumeral
  /-- A numeral in sixties with so many parts that no floating-point number is as large. -/
  | hugeSixties
  /-- A text in small letters that should be a word for a truth value. -/
  | noTruth (text : String)
  /-- A text that should have the form of a point in time. -/
  | noMoment
  /-- A mapping in the place of a point in time. -/
  | momentMapping
  /-- An escape for a code point beyond the last. -/
  | noCodePoint
  /-- An escape for a code point that does not even fit into a machine integer. -/
  | hugeCodePoint
deriving DecidableEq, Repr

namespace DocumentFault

/-- The number of characters of a text that is no integer which a message shows, quotes
included. -/
def shownLiteral : Nat := 200

/-- The wording of a fault in a document of a format. -/
def message (format : DocumentFormat) : DocumentFault → String
  | malformed => "Failed to parse " ++ format.title
  | noDate => "invalid date"
  | noInteger base text =>
    "invalid literal for int() with base " ++ base.repr ++ ": " ++
      ((Text.quoted text).take shownLiteral).toString
  | noFloat text => "could not convert string to float: " ++ Text.quoted text
  | emptyNumeral => "string index out of range"
  | hugeSixties => "int too large to convert to float"
  | noTruth text => Text.quoted text
  | noMoment => "'NoneType' object has no attribute 'groupdict'"
  | momentMapping => "expected string or bytes-like object, got 'list'"
  | noCodePoint => "chr() arg not in range(0x110000)"
  | hugeCodePoint => "Python int too large to convert to C int"

end DocumentFault

/-- What is read from a document. -/
abbrev Parsed (α : Type) := Except DocumentFault α

end Conform
