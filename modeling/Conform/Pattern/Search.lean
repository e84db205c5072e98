import Conform.Pattern.Match

/-!
# Searching

A regular expression is searched for from left to right, and the first position at which it
matches counts. A text that is shorter than the least width is not looked at, and no match is
tried so near to the end of a text that the least width no longer fits; only if every match begins
with a character that a test can tell are all positions in front of a character tried.

A match is of no use if it leaves a group that ends before it starts. Then the search has no
answer.
-/

namespace Conform

/-- **Why a search has no answer.** -/
inductive SearchError where
  /-- The match that is found leaves a group that ends before it starts. -/
  | crossedGroup
deriving DecidableEq, Repr

/-- The wording of the error of a search. -/
def SearchError.message : SearchError → String
  | crossedGroup =>
    "The span of capturing group is wrong, please report a bug for the re module."

/-- **The character that a sequence of items begins with**, as far as it is written out. -/
inductive LiteralOpening where
  /-- The items are nothing but empty groups. -/
  | blank
  /-- A single character comes first that does not fold. -/
  | literal
  | other
deriving DecidableEq, Repr

namespace Regex

/-- What a regular expression begins with, groups being no more than their bodies. -/
def literalOpening : Regex → LiteralOpening
  | empty => .blank
  | atom a f => if (a.verbatim? f).isSome then .literal else .other
  | seq r s => if r.literalOpening = .blank then s.literalOpening else r.literalOpening
  | group _ r => r.literalOpening
  | _ => .other

/-- Whether the first item is a single character that does not fold. -/
def startsVerbatim : Regex → Bool
  | atom a f => (a.verbatim? f).isSome
  | seq r _ => r.startsVerbatim
  | _ => false

/-- Whether a set has no single character and no range that changes with case. -/
def hasNoCase (f : Flags) (members : List SetMember) : Bool :=
  !f.ignoreCase || members.all fun
    | .code n => !f.isCased n
    | .range first last => !f.foldsMember (.range first last)
    | .ofClass .. => true

/-- Whether the first item is a set without case, or alternatives that all start with single
characters. -/
def startsWithSet : Regex → Bool
  | atom (.set _ members) f => hasNoCase f members
  | seq r _ => r.startsWithSet
  | group _ r => r.startsWithSet
  | alt r s => r.startsVerbatim && (if s.isAlternatives then s.startsWithSet else s.startsVerbatim)
  | _ => false

/-- **Whether a test tells the first character of every match.** -/
def hasFirstTest (r : Regex) : Bool := r.literalOpening = .literal || r.startsWithSet

/-- The least number of characters that a regular expression matches. -/
def leastWidth (r : Regex) : Nat := (r.width (r.groupWidths fun _ => .zero)).least

/-- The number of positions of a text of some size at which a match is tried, from the first
on. -/
def startCount (r : Regex) (size : Nat) : Nat :=
  if size < r.leastWidth then 0
  else if r.leastWidth = 0 then size + 1
  else if r.hasFirstTest then size
  else size - r.leastWidth + 2

/-- The marks of a match at a position, if there is one. -/
def matchAt? (r : Regex) (text : Array Nat) (position : Nat) : Option Marks :=
  let found := run text r false none .stop position { cursor := position }
  if found.succeeds then some found.state.marks else none

/-- **Whether there is a match anywhere** in a text. -/
def search (r : Regex) (s : String) : Except SearchError Bool :=
  let text := (s.toList.map Char.toNat).toArray
  match (List.range (r.startCount text.size)).findSome? (r.matchAt? text) with
  | none => return false
  | some marks => if marks.isCrossed then throw .crossedGroup else return true

end Regex

end Conform
