import Conform.Pattern.Letter

/-!
# How regular expressions begin

Some matches are bound to fail at their very first character. Where a regular expression begins
with a single character or a set, the character that comes next can be tested before anything is
tried; `Regex.lead?` finds that atom. Only tests that do not fold are used in this way.
-/

namespace Conform

namespace Atom

/-- The single character that an atom is, if it does not fold. -/
def verbatim? (f : Flags) : Atom → Option Nat
  | code false n => if f.foldsCode n then none else some n
  | _ => none

/-- Whether an atom is a set that does not fold. -/
def isVerbatimSet (f : Flags) : Atom → Bool
  | set _ members => !f.foldsSet members
  | _ => false

/-- Whether an atom cannot match before a character, as far as a test that does not fold can
tell; `c` is nothing at the end of the text. -/
def refuses (f : Flags) (c : Option Nat) (a : Atom) : Bool :=
  ((a.verbatim? f).isSome || a.isVerbatimSet f) && !c.any (fun c => a.accepts f c)

end Atom

namespace Regex

/-- The atom that a regular expression is if it tests one character; groups that do not capture
make no difference. -/
def single? : Regex → Option (Atom × Flags)
  | atom a f => if a.isSingle then some (a, f) else none
  | group none r => r.single?
  | _ => none

/-- **The atom that a match begins with**, if it begins with one whatever follows; `next` is the
atom that comes after the regular expression. -/
def lead? : Regex → (next : Option (Atom × Flags)) → Option (Atom × Flags)
  | empty, next => next
  | atom a f, _ => some (a, f)
  | seq r s, next => r.lead? (s.lead? next)
  | group none r, next => r.lead? next
  | _, _ => none

/-- Whether a regular expression is made of alternatives. -/
def isAlternatives : Regex → Bool
  | alt .. => true
  | _ => false

/-- Whether a regular expression is the empty one. -/
def isEmpty : Regex → Bool
  | empty => true
  | _ => false

end Regex

end Conform
