import Conform.Document.Basic
import Conform.Value.Edit

/-!
# Values with shared containers

What becomes of a shared container in one place becomes of it wherever it stands. In a *linked*
value such containers are kept in cells: where one stands there is just the address of its cell,
and a change of the cell is seen in all of these places. Everything else is a tree, so a linked
value without addresses is a value in another notation.

A container is shared with nothing outside of the value that it is shared in, so a copy of such a
value brings its own cells (`Linked.copy`). The addresses in it are of these, and no other address
leads there. `Value.place` makes the cells, and `Linked.value` reads a linked value back.
-/

namespace Conform

/-- **A linked value.** A shared container stands in it as the address of its cell. -/
inductive Linked where
  /-- A value that is no list, no tuple and no map. -/
  | atom (v : Value)
  | list (items : List Linked)
  | tuple (items : List Linked)
  | map (entries : List (Value × Linked))
  | cell (address : Nat)
  /-- A container with cells of its own, for what is shared in it. -/
  | copy (top : Linked) (cells : List Linked)

/-- **Cells**, the address of a cell being its place among them. -/
abbrev Cells := List Linked

/-- What a cell holds. -/
def Cells.content (cells : Cells) (address : Nat) : Linked := cells.getD address (.atom .null)

namespace Linked

/-! ## Reading back -/

/-- The value of a cell, given how what the cells hold is read; `depth` bounds how many cells are
one inside the other, and what would be further inside is null. -/
def readCell (readers : List ((Nat → Value) → Value)) : (depth : Nat) → (address : Nat) → Value
  | 0, _ => .null
  | depth + 1, a => readers.getD a (fun _ => .null) (readCell readers depth)

mutual
/-- The value of a linked value, given the values of the cells. -/
def valueWith (inCell : Nat → Value) : Linked → Value
  | .atom v => v
  | .list items => .list (valuesWith inCell items)
  | .tuple items => .tuple (valuesWith inCell items)
  | .map entries => .map (entriesWith inCell entries)
  | .cell a => inCell a
  | .copy top cells => valueWith (readCell (readers cells) cells.length) top

/-- The values of some items. -/
def valuesWith (inCell : Nat → Value) : List Linked → List Value
  | [] => []
  | l :: ls => valueWith inCell l :: valuesWith inCell ls

/-- The values of some entries. -/
def entriesWith (inCell : Nat → Value) : List (Value × Linked) → List (Value × Value)
  | [] => []
  | (k, l) :: es => (k, valueWith inCell l) :: entriesWith inCell es

/-- How what some cells hold is read. -/
def readers : List Linked → List ((Nat → Value) → Value)
  | [] => []
  | l :: ls => (fun inCell => valueWith inCell l) :: readers ls
end

/-- The value of a cell, read to a depth. -/
def cellValue (cells : Cells) : (depth : Nat) → (address : Nat) → Value := readCell (readers cells)

/-- **The value that a linked value stands for.** -/
def value (l : Linked) (cells : Cells) : Value := l.valueWith (cellValue cells cells.length)

/-! ## Changes -/

variable {m : Type → Type} [Monad m] [MonadStateOf Cells m]

/-- Goes on with other cells, and gives what becomes of them. -/
def apart {α : Type} (inner : Cells) (x : m α) : m (α × Cells) := do
  let outer ← getThe Cells
  set inner
  let a ← x
  let inner ← getThe Cells
  set outer
  return (a, inner)

/-- **Changes a container where it is kept**: an address stays, and what its cell holds is
changed, and a copy is changed with its own cells. An address without a cell is null. -/
def update (change : Linked → m Linked) : Linked → m Linked
  | .cell a => do
    let cells ← getThe Cells
    match cells[a]? with
    | some l =>
      let l ← change l
      modifyThe Cells (·.set a l)
      return .cell a
    | none => return .atom .null
  | .copy top inner => do
    let (top, inner) ← apart inner (change top)
    return .copy top inner
  | l => change l

mutual
/-- A linked value without the marks of absence in its maps and lists, with the cells that it refers
to left as they are. In a copy, no cell is referred to from outside of it, so all are dealt with. -/
def sifted : Linked → Linked
  | .map es => .map (siftedEntries es)
  | .list ls => .list (siftedItems ls)
  | .copy top cells => .copy (sifted top) (siftedCells cells)
  | l => l

/-- The entries of a map that are not absent, sifted. -/
def siftedEntries : List (Value × Linked) → List (Value × Linked)
  | [] => []
  | (_, .atom .absent) :: es => siftedEntries es
  | (k, l) :: es => (k, sifted l) :: siftedEntries es

/-- The items of a list that are not absent, sifted. -/
def siftedItems : List Linked → List Linked
  | [] => []
  | .atom .absent :: ls => siftedItems ls
  | l :: ls => sifted l :: siftedItems ls

/-- What some cells hold, sifted. -/
def siftedCells : List Linked → List Linked
  | [] => []
  | l :: ls => sifted l :: siftedCells ls
end

mutual
/-- A linked value without the marks of absence in it, given how the cells that it refers to are
dealt with. -/
def siftWith (inCell : Nat → m Linked) : Linked → m Linked
  | .map es => Linked.map <$> siftEntriesWith inCell es
  | .list ls => Linked.list <$> siftItemsWith inCell ls
  | .cell a => inCell a
  | l => return l.sifted

/-- The entries of a map that are not absent. -/
def siftEntriesWith (inCell : Nat → m Linked) : List (Value × Linked) → m (List (Value × Linked))
  | [] => return []
  | (_, .atom .absent) :: es => siftEntriesWith inCell es
  | (k, l) :: es => return (k, ← siftWith inCell l) :: (← siftEntriesWith inCell es)

/-- The items of a list that are not absent. -/
def siftItemsWith (inCell : Nat → m Linked) : List Linked → m (List Linked)
  | [] => return []
  | .atom .absent :: ls => siftItemsWith inCell ls
  | l :: ls => return (← siftWith inCell l) :: (← siftItemsWith inCell ls)
end

/-- Sifts the marks of absence out of a cell and the cells in it; `depth` bounds how many are one
inside the other, and what would be further inside is null. -/
def siftCell : (depth : Nat) → (address : Nat) → m Linked
  | 0, _ => return .atom .null
  | depth + 1, a => (Linked.cell a).update (siftWith (siftCell depth))

/-- **Sifts the marks of absence** out of a linked value and the cells in it. -/
def sift (l : Linked) : m Linked := do l.siftWith (siftCell (← getThe Cells).length)

/-- What a check makes of a linked value: containers stay what they are. -/
def become : Linked → Value → Linked
  | .atom _, w => .atom w
  | l, _ => l

end Linked

/-! ## Links in values -/

namespace Value

/-- What a path leads to. -/
def at? : Path → Value → Option Value
  | [], v => some v
  | key :: path, .map es => (Value.entry? es key).bind (at? path)
  | key :: path, .list vs | key :: path, .tuple vs =>
    (placeOf? vs.length key).bind fun i => vs[i]?.bind (at? path)
  | _, _ => none

mutual
/-- **A value as a linked one.** `address?` gives the cell that a place has; the top has none. -/
def linked (address? : Path → Option Nat) (path : Path) : Value → Linked
  | .list vs => .list (linkedItems address? path 0 vs)
  | .tuple vs => .tuple (linkedItems address? path 0 vs)
  | .map es => .map (linkedEntries address? path es)
  | v => .atom v

/-- Items from an index on, each in its cell if it has one. -/
def linkedItems (address? : Path → Option Nat) (path : Path) (index : Nat) :
    List Value → List Linked
  | [] => []
  | v :: vs =>
    let place := path ++ [.int index]
    (address? place).elim (linked address? place v) .cell ::
      linkedItems address? path (index + 1) vs

/-- Entries, each value in its cell if it has one. -/
def linkedEntries (address? : Path → Option Nat) (path : Path) :
    List (Value × Value) → List (Value × Linked)
  | [] => []
  | (k, v) :: es =>
    let place := path ++ [k]
    (k, (address? place).elim (linked address? place v) .cell) :: linkedEntries address? path es
end

/-- **A value in which nothing is shared**, as a linked one. -/
def unshared (v : Value) : Linked := v.linked (fun _ => none) []

/-- What the cell of a container holds that stands at a place in a value. Where there is none, it
is null. -/
def body (v : Value) (address? : Path → Option Nat) (path : Path) : Linked :=
  match v.at? path with
  | some (.list vs) => .list (linkedItems address? path 0 vs)
  | some (.tuple vs) => .tuple (linkedItems address? path 0 vs)
  | some (.map es) => .map (linkedEntries address? path es)
  | _ => .atom .null

/-- The cell that a place has in a copy whose cells begin at a base. A container lies in none that
comes after it, so those that come before some index are left out. -/
def cellAt? (s : Sharing) (base index : Nat) (place : Path) : Option Nat :=
  (s.indexOf? place).bind fun i => if index ≤ i then some (base + i) else none

/-- A copy of a value, its cells put behind those that there are: every container that is shared in
it gets a fresh one. -/
def place (v : Value) (s : Sharing) : StateM Cells Linked := do
  let base := (← get).length
  modify (· ++ s.zipIdx.map fun (places, i) => v.body (cellAt? s base (i + 1)) (places.headD []))
  return v.linked (cellAt? s base 0) []

end Value

/-- A linked value with cells of its own, if it may need any. -/
def Linked.packed (top : Linked) (cells : Cells) : Linked :=
  match top, cells with
  | .atom v, _ => .atom v
  | top, [] => top
  | top, cells => .copy top cells

end Conform
