import Conform.Pattern.CharacterSet

/-!
# Alternatives

Alternatives that start with the same atoms share them, and alternatives that are single
characters or sets become one set. `joinAlternatives` gives the items that stand for alternatives
each of which is a sequence of items.
-/

namespace Conform

/-- The first items of some sequences, if each has one and all are the same atom. -/
def sharedAtom? (items : List (List Regex)) : Option (Atom × Flags) :=
  match items with
  | (.atom a f :: _) :: rest =>
    let startsSo := fun (rs : List Regex) => match rs with
      | .atom b g :: _ => a == b && f == g
      | _ => false
    if rest.all startsSo then some (a, f) else none
  | _ => none

/-- The atoms that all sequences start with, and what is left of each. -/
def splitShared : (fuel : Nat) → List (List Regex) → List Regex × List (List Regex)
  | 0, items => ([], items)
  | fuel + 1, items =>
    match sharedAtom? items with
    | some (a, f) =>
      let (shared, rest) := splitShared fuel (items.map (·.drop 1))
      (.atom a f :: shared, rest)
    | none => ([], items)

/-- The members of a sequence that is a single character or a set. -/
def membersOf? : List Regex → Option (List SetMember × Flags)
  | [.atom (.code false n) f] => some ([.code n], f)
  | [.atom (.set false ms) f] => some (ms, f)
  | _ => none

/-- **Alternatives as a sequence of items.** -/
def joinAlternatives (items : List (List Regex)) : List Regex :=
  match items with
  | [] => []
  | [rs] => rs
  | first :: _ =>
    let (shared, rest) := splitShared (first.length + 1) items
    match rest.mapM membersOf? with
    | some sets =>
      let flags := (sets.head?.map (·.2)).getD {}
      shared ++ [.atom (.set false (distinctMembers (sets.flatMap (·.1)))) flags]
    | none =>
      match rest.map Regex.ofSequence with
      | [] => shared
      | r :: rs => shared ++ [.ofAlternatives r rs]

end Conform
