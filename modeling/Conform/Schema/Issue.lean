import Conform.Value.Display
import Conform.Value.Instant
import Conform.Pattern.Escape

/-!
# Faults of schemas and options

A schema or a set of options is given as a value, and may be malformed. Each `Issue` names a
place in it and what is wrong there; all of them are found, not only the first. Apart from these
there is the *overflow*: a bound that can be read but lies beyond what can be represented. An
overflow ends the reading at once, whatever else is wrong.

`Reading` is the outcome of reading. Its applicative structure reads two things independently
and joins their faults.
-/

namespace Conform

/-- **What is wrong** at a place. -/
inductive IssueCode where
  | boolParsing | boolType
  | intParsing | intParsingSize | intType | intFromFloat | finiteNumber | greaterThanEqual
  | floatParsing | floatType
  | stringType | stringUnicode
  | listType | dictType | tooShort
  | literalError | missing | extraForbidden | invalidKey | modelType
  | unknownKind
  | refused
  | frozenInstance
deriving DecidableEq, Repr

/-- The text of a code. -/
def IssueCode.text : IssueCode → String
  | boolParsing => "bool_parsing"
  | boolType => "bool_type"
  | intParsing => "int_parsing"
  | intParsingSize => "int_parsing_size"
  | intType => "int_type"
  | intFromFloat => "int_from_float"
  | finiteNumber => "finite_number"
  | greaterThanEqual => "greater_than_equal"
  | floatParsing => "float_parsing"
  | floatType => "float_type"
  | stringType => "string_type"
  | stringUnicode => "string_unicode"
  | listType => "list_type"
  | dictType => "dict_type"
  | tooShort => "too_short"
  | literalError => "literal_error"
  | missing => "missing"
  | extraForbidden => "extra_forbidden"
  | invalidKey => "invalid_key"
  | modelType => "model_type"
  | unknownKind => "union_tag_invalid"
  | refused => "value_error"
  | frozenInstance => "frozen_instance"

/-- **An issue**: a place, as the keys that lead to it, and what is wrong there. -/
structure Issue where
  place : List String
  code : IssueCode
deriving DecidableEq, Repr

/-- An issue at the place itself. -/
def Issue.here (code : IssueCode) : Issue := ⟨[], code⟩

/-- An issue seen from one key further out. -/
def Issue.below (key : String) (i : Issue) : Issue := { i with place := key :: i.place }

/-- **A number beyond what can be represented.** -/
inductive Overflow where
  /-- A bound on dates that leaves the years 1 to 9999 in universal time. -/
  | date
  /-- A number of repetitions in a pattern. -/
  | repetition
  /-- The distance of a look behind in a pattern. -/
  | distance
deriving DecidableEq, Repr

/-- The wording of an overflow. -/
def Overflow.message : Overflow → String
  | date => InstantError.outOfRange.message
  | repetition => PatternError.repetitionTooLarge.message
  | distance => PatternError.distanceTooLarge.message

/-- **Why something could not be read.** -/
inductive Fault where
  | issues (found : List Issue)
  | overflow (o : Overflow)
deriving DecidableEq, Repr

namespace Fault

/-- Two faults together: an overflow stands alone, issues add up. -/
def and : Fault → Fault → Fault
  | overflow o, _ => overflow o
  | _, overflow o => overflow o
  | issues is, issues js => issues (is ++ js)

/-- A fault seen from one key further out. -/
def below (key : String) : Fault → Fault
  | issues is => issues (is.map (Issue.below key))
  | overflow o => overflow o

end Fault

/-- **The outcome of reading.** -/
inductive Reading (α : Type) where
  | ok (a : α)
  | failed (f : Fault)

namespace Reading

/-- Reads two things independently. -/
def zipWith {α β γ : Type} (f : α → β → γ) : Reading α → Reading β → Reading γ
  | ok a, ok b => ok (f a b)
  | failed e, ok _ => failed e
  | ok _, failed e => failed e
  | failed e, failed e' => failed (e.and e')

instance : Applicative Reading where
  pure := ok
  seq f a := zipWith (fun f a => f a) f (a ())

/-- A single issue at the place itself. -/
def issue {α : Type} (code : IssueCode) : Reading α := failed (.issues [.here code])

/-- A reading seen from one key further out. -/
def below {α : Type} (key : String) : Reading α → Reading α
  | ok a => ok a
  | failed f => failed (f.below key)

/-- Goes on with what has been read. -/
def andThen {α β : Type} (r : Reading α) (f : α → Reading β) : Reading β :=
  match r with
  | ok a => f a
  | failed e => failed e

/-- The outcome of a look at one value. -/
def ofExcept {α : Type} : Except IssueCode α → Reading α
  | .ok a => ok a
  | .error c => issue c

/-- What has been read, or the fault. -/
def toExcept {α : Type} : Reading α → Except Fault α
  | ok a => .ok a
  | failed f => .error f

/-- Reads each value of a list; the place of an item is its index, counted from `index`. -/
def items {α : Type} (read : Value → Reading α) (index : Nat) : List Value → Reading (List α)
  | [] => ok []
  | v :: vs => zipWith List.cons ((read v).below index.repr) (items read (index + 1) vs)

end Reading

/-- The text of a key in a place: a truth value counts as a number there. -/
def placeText : Value → String
  | .text s => s
  | .bool b => if b then "1" else "0"
  | v => v.shown

end Conform
