/-!
# Rules and their messages

Each way in which a value can fail its schema has a rule, named by a category and a word, and a
message with places for the parts of the violation: where it happened, the bound or the pattern
that was missed, and the ending of a plural. A `Placeholder` is such a place.
-/

namespace Conform

/-- **A place in a message** that is filled with a part of the violation. -/
inductive Placeholder where
  | path
  | min
  | max
  | pattern
  | pluralSuffix
deriving DecidableEq, Repr

namespace Placeholder

/-- The name of a place, and of the part that fills it. -/
def name : Placeholder → String
  | path => "path"
  | min => "min"
  | max => "max"
  | pattern => "pattern"
  | pluralSuffix => "plural_suffix"

/-- The places, in the order in which they are filled. -/
def all : List Placeholder := [path, min, max, pattern, pluralSuffix]

/-- How a place is written in a message: its name in braces. -/
def mark (p : Placeholder) : String := "\x7b" ++ p.name ++ "\x7d"

end Placeholder

/-- **A rule** that a value can fail. -/
inductive Rule where
  | required | nullable | union
  | stringType | stringEnum | stringPattern | stringMin | stringMax
  | numberType | numberEnum | numberMin | numberMax
  | numberInteger | numberPositive | numberNegative
  | booleanType
  | dateType | dateMin | dateMax
  | objectType
  | arrayType | arrayMin | arrayMax
deriving DecidableEq, Repr

namespace Rule

/-- Every rule. -/
def all : List Rule :=
  [required, nullable, union, stringType, stringEnum, stringPattern, stringMin, stringMax,
    numberType, numberEnum, numberMin, numberMax, numberInteger, numberPositive, numberNegative,
    booleanType, dateType, dateMin, dateMax, objectType, arrayType, arrayMin, arrayMax]

/-- The name of a rule: its category, a dot, and a word. -/
def key : Rule → String
  | required => "base.required"
  | nullable => "base.nullable"
  | union => "base.union"
  | stringType => "string.type"
  | stringEnum => "string.enum"
  | stringPattern => "string.pattern"
  | stringMin => "string.min"
  | stringMax => "string.max"
  | numberType => "number.type"
  | numberEnum => "number.enum"
  | numberMin => "number.min"
  | numberMax => "number.max"
  | numberInteger => "number.integer"
  | numberPositive => "number.positive"
  | numberNegative => "number.negative"
  | booleanType => "boolean.type"
  | dateType => "date.type"
  | dateMin => "date.min"
  | dateMax => "date.max"
  | objectType => "object.type"
  | arrayType => "array.type"
  | arrayMin => "array.min"
  | arrayMax => "array.max"

/-- The rule with a given name. -/
def ofKey? (key : String) : Option Rule := all.find? (·.key == key)

open Placeholder in
/-- The message of a rule after the path that it starts with. -/
def predicate : Rule → String
  | required => "is required"
  | nullable => "cannot be null"
  | union => "does not match any of the allowed shapes"
  | stringType => "must be a string"
  | stringEnum | numberEnum => "must be one of the allowed values"
  | stringPattern => "must match the pattern " ++ pattern.mark
  | stringMin => "must be at least " ++ min.mark ++ " character" ++ pluralSuffix.mark ++ " long"
  | stringMax => "must be at most " ++ max.mark ++ " character" ++ pluralSuffix.mark ++ " long"
  | numberType => "must be a number"
  | numberMin => "must be greater than or equal to " ++ min.mark
  | numberMax => "must be less than or equal to " ++ max.mark
  | numberInteger => "must be an integer"
  | numberPositive => "must be positive"
  | numberNegative => "must be negative"
  | booleanType => "must be a boolean"
  | dateType => "must be a valid date"
  | dateMin => "must be on or after " ++ min.mark
  | dateMax => "must be on or before " ++ max.mark
  | objectType => "must be an object"
  | arrayType => "must be an array"
  | arrayMin => "must contain at least " ++ min.mark ++ " item" ++ pluralSuffix.mark
  | arrayMax => "must contain at most " ++ max.mark ++ " item" ++ pluralSuffix.mark

/-- **The message of a rule**, unless the caller has given another. -/
def template (r : Rule) : String := Placeholder.path.mark ++ " " ++ r.predicate

/-- The message of a rule that nobody has given one for. -/
def unknownTemplate : String := Placeholder.path.mark ++ " is invalid"

end Rule

end Conform
