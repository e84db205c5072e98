import Conform.Value.Display
import Conform.Violation.Basic

/-!
# What is no node

Where a node is expected and a plain value stands, there is nothing to do but to show the value.
-/

namespace Conform

/-- **What stands in the place of a node.** -/
structure UnsupportedNode where
  value : Value

namespace UnsupportedNode

/-- The wording of what stands in the place of a node. -/
def message (e : UnsupportedNode) : String := "Unsupported schema node: " ++ e.value.shown

/-- The same, where the path is known at which a value was to be checked. -/
def messageAt (e : UnsupportedNode) (path : String) : String :=
  "Unsupported schema node at " ++ Violation.placeName path ++ ": " ++ e.value.shown

end UnsupportedNode

end Conform
