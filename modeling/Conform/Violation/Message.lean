import Conform.Number.Basic
import Conform.Violation.Rule

/-!
# Filling in messages

A `Catalog` holds the messages that the caller has given in place of those of the rules.
`fillIn` puts the parts of a violation into a message, one kind of place after the other and
literally, so that a message may hold other braces. A part that itself spells a place which
comes later in that order is filled in too.
-/

namespace Conform

/-- The parts of a violation by their names. -/
abbrev Parts := List (String × String)

/-- `cs` with every `mark` replaced by `new`, from left to right; `skip` characters at the front
belong to a mark that has already been replaced. A mark has at least one character. -/
def replaceFrom (mark new : List Char) : Nat → List Char → List Char
  | _, [] => []
  | skip + 1, _ :: cs => replaceFrom mark new skip cs
  | 0, c :: cs =>
    if mark.isPrefixOf (c :: cs) then new ++ replaceFrom mark new (mark.length - 1) cs
    else c :: replaceFrom mark new 0 cs

/-- A text with every `mark` replaced by `new`. -/
def replaceAll (s mark new : String) : String :=
  String.ofList (replaceFrom mark.toList new.toList 0 s.toList)

/-- **A message with its places filled in**; a place without a part stays as it is. -/
def fillIn (template : String) (parts : Parts) : String :=
  Placeholder.all.foldl (fun message p =>
    match parts.lookup p.name with
    | some part => replaceAll message p.mark part
    | none => message) template

/-- The ending of a counted noun. -/
def pluralSuffix (count : Number) : String := if (Number.int 1).lt count then "s" else ""

/-- **The messages that the caller has given**, by the names of their rules. -/
structure Catalog where
  overrides : List (String × String)

namespace Catalog

/-- The message of the rule with a given name. -/
def template (c : Catalog) (rule : String) : String :=
  match c.overrides.lookup rule with
  | some t => t
  | none => ((Rule.ofKey? rule).map (·.template)).getD Rule.unknownTemplate

/-- The message of a rule, filled in. -/
def format (c : Catalog) (rule : String) (parts : Parts) : String :=
  fillIn (c.template rule) parts

end Catalog

end Conform
