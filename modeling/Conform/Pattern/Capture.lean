/-!
# What groups have matched

`Marks` hold where the groups of a pattern began and ended last. A group has two marks, which are
set one after the other, so a group that is matched anew has for a while its new start and its
old end. Such a group counts as one that has not matched unless it ends where it starts or later.

Marks are given up from the last one down: `Marks.cutTo` drops those that were not there at an
earlier time, and leaves those that were set again since as they are.
-/

namespace Conform

/-- **Where the groups began and ended last**: for the groups in the order of their numbers, the
start and the end, as far as any mark has been set. -/
structure Marks where
  places : List (Option Nat) := []

namespace Marks

/-- The index of the start of a group. -/
def startIndex (group : Nat) : Nat := 2 * (group - 1)

/-- The marks with one more set. -/
def put (m : Marks) (index position : Nat) : Marks :=
  if index < m.places.length then ⟨m.places.set index (some position)⟩
  else ⟨m.places ++ List.replicate (index - m.places.length) none ++ [some position]⟩

/-- The marks with the start of a group at a position. -/
def start (m : Marks) (group position : Nat) : Marks := m.put (startIndex group) position

/-- The marks with the end of a group at a position. -/
def stop (m : Marks) (group position : Nat) : Marks := m.put (startIndex group + 1) position

/-- The start and the end of a group, if both are set. -/
def both? (m : Marks) (group : Nat) : Option (Nat × Nat) := do
  let start ← (m.places[startIndex group]?).join
  let stop ← (m.places[startIndex group + 1]?).join
  return (start, stop)

/-- **The start and the end of what a group has matched**, if it has. -/
def captured? (m : Marks) (group : Nat) : Option (Nat × Nat) :=
  (m.both? group).filter fun (start, stop) => start ≤ stop

/-- The marks without those that are not among some earlier ones. -/
def cutTo (m earlier : Marks) : Marks := ⟨m.places.take earlier.places.length⟩

/-- Whether a group ends before it starts. -/
def isCrossed (m : Marks) : Bool :=
  (List.range (m.places.length / 2)).any fun i =>
    (m.both? (i + 1)).any fun (start, stop) => stop < start

end Marks

end Conform
