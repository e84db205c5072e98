import Conform.Value.Display

/-!
# Sorted maps

`Value.sortKeys` puts the entries of every map, at every depth, into the order of the texts of
their keys, compared by code points. Entries whose keys have one text keep their order.
-/

namespace Conform.Value

/-- Whether the entry `a` may stand before the entry `b`. -/
def entryLe (a b : Value × Value) : Bool := decide (a.1.plainText ≤ b.1.plainText)

mutual
/-- **A value with the entries of every map in the order of their keys.** -/
def sortKeys : Value → Value
  | .map entries => .map ((sortValues entries).mergeSort entryLe)
  | .list items => .list (sortItems items)
  | v => v

/-- Each value of a list, sorted. -/
def sortItems : List Value → List Value
  | [] => []
  | v :: vs => sortKeys v :: sortItems vs

/-- Each value of a map, sorted; the entries stay where they are. -/
def sortValues : List (Value × Value) → List (Value × Value)
  | [] => []
  | (k, v) :: es => (k, sortKeys v) :: sortValues es
end

end Conform.Value
