import Conform.Violation.Message
import Conform.Value.Basic
import Conform.Text.Quoted

/-!
# Violations

A violation says which rule a value has failed and where. It carries its message and the parts
that were filled into it, so that a caller can word it anew. The root of the data has the empty
path; its message calls it `root`, its parts do not.

A `Rejection` is what a caller receives instead of a result: one violation or more.
-/

namespace Conform

/-- **The kind of a violation.** -/
inductive ViolationCode where
  /-- A required field is missing and has no default. -/
  | requiredMissing
  /-- A null was given for a field that does not accept it. -/
  | nullable
  /-- The value has the wrong kind for its node. -/
  | typeMismatch
  /-- The value is not one of those allowed. -/
  | enumMismatch
  /-- A text does not match the pattern of its node. -/
  | patternMismatch
  /-- A text or an array is too short or too long. -/
  | lengthOutOfRange
  /-- A number or a date lies outside its bounds. -/
  | rangeOutOfBounds
  | notInteger
  | notPositive
  | notNegative
  /-- No member of a union fits the value. -/
  | unionNoMatch
deriving DecidableEq, Repr

namespace ViolationCode

/-- Every code. -/
def all : List ViolationCode :=
  [requiredMissing, nullable, typeMismatch, enumMismatch, patternMismatch, lengthOutOfRange,
    rangeOutOfBounds, notInteger, notPositive, notNegative, unionNoMatch]

/-- The text of a code. -/
def text : ViolationCode → String
  | requiredMissing => "required-missing"
  | nullable => "nullable-violation"
  | typeMismatch => "type-mismatch"
  | enumMismatch => "enum-mismatch"
  | patternMismatch => "pattern-mismatch"
  | lengthOutOfRange => "length-out-of-range"
  | rangeOutOfBounds => "range-out-of-bounds"
  | notInteger => "not-integer"
  | notPositive => "not-positive"
  | notNegative => "not-negative"
  | unionNoMatch => "union-no-match"

/-- The code with a given text. -/
def ofText? (s : String) : Option ViolationCode := all.find? (·.text == s)

/-- What is said of a text that is no code. -/
def unknownMessage (s : String) : String :=
  Text.quoted s ++ " is not a valid ViolationCode"

end ViolationCode

/-- The code of the violations of a rule. -/
def Rule.code : Rule → ViolationCode
  | required => .requiredMissing
  | nullable => .nullable
  | union => .unionNoMatch
  | stringType | numberType | booleanType | dateType | objectType | arrayType => .typeMismatch
  | stringEnum | numberEnum => .enumMismatch
  | stringPattern => .patternMismatch
  | stringMin | stringMax | arrayMin | arrayMax => .lengthOutOfRange
  | numberMin | numberMax | dateMin | dateMax => .rangeOutOfBounds
  | numberInteger => .notInteger
  | numberPositive => .notPositive
  | numberNegative => .notNegative

/-- **A violation**: a failed rule and the place where it failed. -/
structure Violation where
  code : ViolationCode
  /-- The name of the rule, which is the name of its message. -/
  rule : String
  /-- The text of the path; empty for the root. -/
  path : String
  message : String
  parts : Parts
deriving DecidableEq, Repr

namespace Violation

/-- What the message calls the place with a given path. -/
def placeName (path : String) : String := if path = "" then "root" else path

/-- **The violation of a named rule** at a path, worded by a catalog. -/
def worded (messages : Catalog) (code : ViolationCode) (rule path : String) (extra : Parts) :
    Violation :=
  let place := Placeholder.path.name
  { code, rule, path
    message := messages.format rule ((place, placeName path) :: extra)
    parts := (place, path) :: extra }

/-- The violation of a rule of the library. -/
def ofRule (messages : Catalog) (rule : Rule) (path : String) (extra : Parts) : Violation :=
  worded messages rule.code rule.key path extra

/-- The text of a value that is one. -/
def textOf? : Value → Option String
  | .text s => some s
  | _ => none

/-- The violation with the given fields, if they are all texts and the code is one. -/
def ofFields? (code rule path message : Value) (parts : List (String × Value)) :
    Option Violation := do
  return {
    code := ← ViolationCode.ofText? (← textOf? code)
    rule := ← textOf? rule
    path := ← textOf? path
    message := ← textOf? message
    parts := ← parts.mapM fun (name, v) => return (name, ← textOf? v) }

end Violation

/-- **A rejection**: the violations found, of which there is at least one. -/
structure Rejection where
  first : Violation
  others : List Violation
deriving DecidableEq, Repr

namespace Rejection

/-- The rejection for a list of violations, if it is not empty. -/
def ofList? : List Violation → Option Rejection
  | [] => none
  | v :: vs => some ⟨v, vs⟩

/-- The violations, in the order in which they were found. -/
def violations (r : Rejection) : List Violation := r.first :: r.others

/-- The messages of all violations. -/
def message (r : Rejection) : String := "; ".intercalate (r.violations.map (·.message))

/-- The paths of all violations. -/
def paths (r : Rejection) : List String := r.violations.map (·.path)

/-- What is said of a rejection without a violation. -/
def emptyMessage : String := "ValidationError needs at least one violation"

end Rejection

end Conform
