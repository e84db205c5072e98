import Conform.Path

/-!
# Changing a value at a path

`Value.editAt` changes what a path leads to, and leaves the rest alone. The key of a list is an
index, counted from zero, or from the end if it is negative. A path that leads nowhere changes
nothing.
-/

namespace Conform.Value

/-- The place of an index in a list of a given length. -/
def placeOf? (length : Nat) : Value → Option Nat
  | .number (.int n) =>
    let place := if n < 0 then n + length else n
    if 0 ≤ place ∧ place < length then some place.toNat else none
  | _ => none

/-- **A value changed at a path.** -/
def editAt (change : Value → Value) : Path → Value → Value
  | [], v => change v
  | key :: path, .map es =>
    .map (es.map fun e => if e.1.sameKey key then (e.1, editAt change path e.2) else e)
  | key :: path, .list vs =>
    match placeOf? vs.length key with
    | some i => .list (vs.modify i (editAt change path))
    | none => .list vs
  | _, v => v

/-- A list with one more item. -/
def append (item : Value) : Value → Value
  | .list vs => .list (vs ++ [item])
  | v => v

/-- A map with a value at a key. -/
def insert (key item : Value) : Value → Value
  | .map es => .map (setEntry es key item)
  | v => v

/-- A map without a key. -/
def erase (key : Value) : Value → Value
  | .map es => .map (es.filter fun e => !e.1.sameKey key)
  | v => v

end Conform.Value
