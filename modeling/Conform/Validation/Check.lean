import Conform.Schema.Location
import Conform.Violation.Basic

/-!
# The rules of a node

`Node.check` checks a value that is neither null nor absent against one node. The value comes
back in normal form – a text trimmed and in the case that is asked for, a date as an instant – or
the first rule that it fails is reported. What the maps and lists hold is not looked at here.
-/

namespace Conform

/-- **Why a value is not accepted**: a rule that it fails, a date that leaves the years 1 to 9999
in universal time, or a search for its pattern that has no answer. -/
inductive CheckFailure where
  | violation (v : Violation)
  | dateOutOfRange
  | search (e : SearchError)
deriving DecidableEq, Repr

/-- The outcome of a check. -/
abbrev Checked (α : Type) := Except CheckFailure α

/-- **Where a check stands**: the messages to word violations with, and the text of the path. -/
structure Site where
  messages : Catalog
  path : String

namespace Site

/-- Reports a rule. -/
def fail {α : Type} (s : Site) (rule : Rule) (extra : Parts) : Checked α :=
  throw (.violation (.ofRule s.messages rule s.path extra))

/-- Reports a rule unless a condition holds. -/
def require (s : Site) (condition : Bool) (rule : Rule) (extra : Parts) : Checked Unit :=
  if condition then pure () else s.fail rule extra

/-- The parts of a violation of a bound on a length. -/
def lengthParts (place : Placeholder) (bound : Nat) : Parts :=
  [(place.name, bound.repr), (Placeholder.pluralSuffix.name, pluralSuffix (.int bound))]

/-- Checks a length against bounds. -/
def requireLength (s : Site) (length : Nat) (min max : Option Nat) (tooShort tooLong : Rule) :
    Checked Unit := do
  match min with
  | some n => s.require (decide (n ≤ length)) tooShort (lengthParts .min n)
  | none => pure ()
  match max with
  | some n => s.require (decide (length ≤ n)) tooLong (lengthParts .max n)
  | none => pure ()

end Site

namespace StringRules

/-- **The normal form of a text**: trimmed, then in small letters, then in capitals, as far as
the rules ask for it. -/
def normalize (r : StringRules) (s : String) : String :=
  let s := if r.trim then Text.trim s else s
  let s := if r.lowercase then Text.lower s else s
  if r.uppercase then Text.upper s else s

/-- Whether a pattern occurs in a text. -/
def occurs (p : Pattern) (s : String) : Checked Bool := (p.occursIn s).mapError .search

/-- Checks a text and gives its normal form. -/
def check (r : StringRules) (site : Site) (s : String) : Checked String := do
  let s := r.normalize s
  match r.allowed with
  | some texts => site.require ((texts.map r.normalize).contains s) .stringEnum []
  | none => pure ()
  match r.pattern with
  | some p =>
    site.require (← occurs p s) .stringPattern [(Placeholder.pattern.name, p.source)]
  | none => pure ()
  site.requireLength s.length r.min r.max .stringMin .stringMax
  return s

end StringRules

namespace NumberRules

/-- Zero. -/
def zero : Number := .int 0

/-- Checks a number. -/
def check (r : NumberRules) (site : Site) (n : Number) : Checked Unit := do
  match r.allowed with
  | some ns => site.require (ns.any n.alike) .numberEnum []
  | none => pure ()
  match r.min with
  | some m => site.require (!n.lt m) .numberMin [(Placeholder.min.name, m.boundText)]
  | none => pure ()
  match r.max with
  | some m => site.require (!m.lt n) .numberMax [(Placeholder.max.name, m.boundText)]
  | none => pure ()
  site.require (!r.integer || n.isWhole) .numberInteger []
  site.require (!r.positive || !n.lt zero) .numberPositive []
  site.require (!r.negative || !(zero.lt n || zero.same n)) .numberNegative []

end NumberRules

namespace DateRules

/-- Checks an instant. -/
def check (r : DateRules) (site : Site) (i : Instant) : Checked Unit := do
  match r.min with
  | some b => site.require (!i.before b.instant) .dateMin [(Placeholder.min.name, b.text)]
  | none => pure ()
  match r.max with
  | some b => site.require (!b.instant.before i) .dateMax [(Placeholder.max.name, b.text)]
  | none => pure ()

/-- The instant that a value names. -/
def instant (site : Site) (v : Value) : Checked Instant :=
  match v.instant with
  | .ok i => return i
  | .error .outOfRange => throw .dateOutOfRange
  | .error _ => site.fail .dateType []

end DateRules

/-- **Checks a value against a node**, and gives its normal form. -/
def Node.check (n : Node) (site : Site) (v : Value) : Checked Value :=
  match n, v with
  | .string _ r, .text s => Value.text <$> r.check site s
  | .string .., _ => site.fail .stringType []
  | .number _ r, .number x => (fun _ => Value.number x) <$> r.check site x
  | .number .., _ => site.fail .numberType []
  | .boolean _, .bool b => return .bool b
  | .boolean _, _ => site.fail .booleanType []
  | .date _ r, v => do
    let i ← DateRules.instant site v
    r.check site i
    return .dateTime i.toDateTime
  | .object .., .map es => return .map es
  | .object .., _ => site.fail .objectType []
  | .array _ _ c, .list vs => do
    site.requireLength vs.length c.min c.max .arrayMin .arrayMax
    return .list vs
  | .array .., _ => site.fail .arrayType []

end Conform
