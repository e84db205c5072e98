import Conform.Pattern.Escape

/-!
# Sets of characters

A set in brackets holds characters, ranges of characters and classes; after a circumflex it is
the complement of what it lists. A closing bracket that comes first is a member, and so is a
hyphen that stands at either end. Both ends of a range are characters, and the first is not
beyond the last.
-/

namespace Conform

/-- The members of a set without repetitions. -/
def distinctMembers (members : List SetMember) : List SetMember :=
  members.foldl (fun ms m => if ms.contains m then ms else ms ++ [m]) []

/-- A set of characters as an atom: a set of a single character is that character. -/
def Atom.ofMembers (complement : Bool) (members : List SetMember) : Atom :=
  match distinctMembers members with
  | [.code n] => .code complement n
  | ms => .set complement ms

/-- A member of a set: a character or a class. -/
def setMember? : EscapeMeaning → Option SetMember
  | .code n => some (.code n)
  | .ofClass c complement => some (.ofClass c complement)
  | _ => none

/-- One end of a range in a set, or a member that stands alone. -/
def readSetMember (t : PatternToken) (ts : List PatternToken) :
    Except PatternError (SetMember × List PatternToken) := do
  match t with
  | .plain c => return (.code c.toNat, ts)
  | .escape c =>
    let (meaning, rest) ← EscapeMeaning.inSet c ts
    match setMember? meaning with
    | some m => return (m, rest)
    | none => throw .malformed
  | .danglingEscape => throw .malformed

/-- The code of the hyphen. -/
def hyphenCode : Nat := 45

/-- The members of a set after those already `found`, up to the closing bracket. A bracket that
comes first is a member. -/
def readMembers : (fuel : Nat) → (found : List SetMember) → List PatternToken →
    Except PatternError (List SetMember × List PatternToken)
  | 0, _, _ => throw .malformed
  | _, _, [] => throw .malformed
  | fuel + 1, found, t :: ts => do
    if t = .plain ']' && !found.isEmpty then return (found, ts)
    else
      let (first, ts) ← readSetMember t ts
      match ts with
      | .plain '-' :: .plain ']' :: ts => return (found ++ [first, .code hyphenCode], ts)
      | .plain '-' :: t :: ts =>
        let (last, ts) ← readSetMember t ts
        match first, last with
        | .code lo, .code hi =>
          if hi < lo then throw .malformed
          else readMembers fuel (found ++ [.range lo hi]) ts
        | _, _ => throw .malformed
      | _ => readMembers fuel (found ++ [first]) ts

/-- A set of characters, after its opening bracket. -/
def readSet (ts : List PatternToken) : Except PatternError (Atom × List PatternToken) := do
  let (complement, ts) := match ts with
    | .plain '^' :: ts => (true, ts)
    | ts => (false, ts)
  let (members, rest) ← readMembers (ts.length + 1) [] ts
  return (.ofMembers complement members, rest)

end Conform
