import Conform.Path

/-!
# Documents

A document holds a value, but not every part of it need stand by itself. A container that an alias
names is the very one that stands at the anchor, so what becomes of it in one place has become of it
in the others too. A `RawDocument` therefore has, beside its value, the places in the value at which
one and the same container stands. A value alone is a document that shares nothing.

No container is part of itself. Where a document says so, the inner one is left out.
-/

namespace Conform

/-- **What is shared in a value**: for each container that stands in several places, the places. A
container in another comes after it. -/
abbrev Sharing := List (List Path)

/-- **What a document holds.** -/
structure RawDocument where
  value : Value
  sharing : Sharing := []

/-- A value shares nothing. -/
instance : Coe Value RawDocument := ⟨fun v => { value := v }⟩

/-- The value of a document, by itself. -/
instance : Coe RawDocument Value := ⟨RawDocument.value⟩

namespace Sharing

/-- What is shared below the keys that pass a test. -/
def belowKey (s : Sharing) (test : Value → Bool) : Sharing :=
  (s.map fun places => places.filterMap fun place =>
    match place with
    | key :: rest => if test key then some rest else none
    | [] => none).filter fun places => decide (2 ≤ places.length)

/-- What is shared in an item of a list. -/
def belowIndex (s : Sharing) (i : Nat) : Sharing := s.belowKey (·.sameKey (.int i))

/-- Which of the shared containers stands at a place. -/
def indexOf? (s : Sharing) (place : Path) : Option Nat :=
  s.findIdx? fun places => places.any (Value.sameKeys place)

end Sharing

end Conform
