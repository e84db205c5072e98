import Conform.Validation.Walk
import Conform.Value.Linked

/-!
# Walking data with shared containers

A default that is put in is a copy of the one that the schema holds, and a container that is shared
in the default is shared in the copy. Marking puts the missing keys into it once, however many
places it has, and the walk comes by it in each of these places: it changes what the cell holds,
so it meets in the next place what it has left in the last, a text in another case or an entry
dropped. Everything else is done as in `Course.walk`; the data itself shares nothing.
-/

namespace Conform

/-! ## Marking -/

mutual
/-- **A map with every declared key in it**, and what is below marked too. -/
def Fields.seedLinked :
    List (String × TypeSpec) → List (Value × Linked) → StateM Cells (List (Value × Linked))
  | [], es => return es
  | (name, t) :: fs, es => do
    let l := (Value.entry? es (.text name)).getD (.atom .absent)
    Fields.seedLinked fs (Value.setEntry es (.text name) (← TypeSpec.seedLinked t l))

/-- A linked value with the declared keys of the maps in it. -/
def TypeSpec.seedLinked : TypeSpec → Linked → StateM Cells Linked
  | .single n, l => Node.seedLinked n l
  | .union n m ns, l => do
    let v := l.value (← get)
    if ((n :: m :: ns).filter (·.matches v)).length = 1 then
      if n.matches v then Node.seedLinked n l
      else if m.matches v then Node.seedLinked m l
      else TypeSpec.seedLinkedAmong ns v l
    else return l

/-- A linked value marked by the first candidate that its value fits. -/
def TypeSpec.seedLinkedAmong : List Node → Value → Linked → StateM Cells Linked
  | [], _, l => return l
  | n :: ns, v, l => if n.matches v then Node.seedLinked n l else TypeSpec.seedLinkedAmong ns v l

/-- A linked value marked by a node. -/
def Node.seedLinked : Node → Linked → StateM Cells Linked
  | .object _ (.mapping fs), l =>
    l.update fun
      | .map es => Linked.map <$> Fields.seedLinked fs es
      | l => return l
  | .array _ t _, l =>
    l.update fun
      | .list ls => Linked.list <$> ls.mapM fun l => TypeSpec.seedLinked t l
      | l => return l
  | _, l => return l
end

/-- A marked copy of a default with cells of its own. -/
def TypeSpec.copied (t : TypeSpec) (d : Value) (s : Sharing) : Linked :=
  let (top, cells) := (do t.seedLinked (← d.place s) : StateM Cells Linked).run []
  top.packed cells

/-- **The default that takes the place of an absent value**, copied and marked. There may be none,
and a null needs no copy. -/
def TypeSpec.fill (t : TypeSpec) : Option Linked :=
  let n := t.resolve .absent
  match n.default? with
  | none | some .null => none
  | some d => some (t.copied d n.sharing)

/-! ## Walking -/

/-- **A walk that changes cells.** -/
abbrev LinkedWalk := StateT Cells Walk

namespace Course

/-- Ends a visit with what a check has made of a linked value, or with what is left of it if it
violates the schema. -/
def settle (c : Course) (l : Linked) (left : Option Linked) :
    Checked (Option Value) → LinkedWalk (Option Linked)
  | .ok w => return w.map l.become
  | .error .dateOutOfRange => throw .dateOutOfRange
  | .error (.search e) => throw (.search e)
  | .error (.violation violation) => do
    c.report violation
    return left

/-- **Visits a linked value.** -/
def visitLinked (c : Course) (path : Path) (l : Linked) : LinkedWalk (Option Linked) := do
  match c.schema.locate path, l with
  | none, l => return (c.unknown (l.value (← get))).map fun _ => l
  | some t, .atom .absent =>
    match t.fill with
    | some d => c.settle d none (some <$> checkPresent (c.site path) t (d.value (← get)))
    | none => c.settle (.atom .absent) none (apply (c.site path) t .absent)
  | some t, l => c.settle l (some l) (apply (c.site path) t (l.value (← get)))

/-- Walks the entries of a map, given how a member is walked. -/
def walkLinkedEntries (member : Path → Linked → LinkedWalk (Option Linked)) (path : Path) :
    List (Value × Linked) → LinkedWalk (List (Value × Linked))
  | [] => return []
  | (k, l) :: es => do
    let child ← member (path ++ [k]) l
    let rest ← walkLinkedEntries member path es
    return (child.map fun l => (k, l)).toList ++ rest

/-- Walks the items of a list from an index on, given how a member is walked. -/
def walkLinkedItems (member : Path → Linked → LinkedWalk (Option Linked)) (path : Path)
    (index : Nat) : List Linked → LinkedWalk (List Linked)
  | [] => return []
  | l :: ls => do
    let child ← member (path ++ [.int index]) l
    let rest ← walkLinkedItems member path (index + 1) ls
    return child.toList ++ rest

/-- Walks the members of a linked value. -/
def walkLinkedMembers (member : Path → Linked → LinkedWalk (Option Linked)) (path : Path)
    (l : Linked) : LinkedWalk Linked :=
  l.update fun
    | .map es => Linked.map <$> walkLinkedEntries member path es
    | .list ls => Linked.list <$> walkLinkedItems member path 0 ls
    | l => return l

/-- **Walks what a linked value holds.** Nothing is declared below what is not declared itself, and
there is nothing to do there but to drop the marks. -/
def walkBelow (c : Course) (member : Path → Linked → LinkedWalk (Option Linked)) (path : Path)
    (l : Linked) : LinkedWalk Linked :=
  if (c.schema.locate path).isSome then walkLinkedMembers member path l else l.sift

/-- **Walks a linked value and what it holds.** -/
def walkLinked (c : Course) : (budget : Nat) → Path → Linked → LinkedWalk (Option Linked)
  | 0, _, l => do
    match c.unknown (l.value (← get)) with
    | none => return none
    | some _ => return some (← l.sift)
  | budget + 1, path, l => do
    match ← c.visitLinked path l with
    | none => return none
    | some l => return some (← c.walkBelow (c.walkLinked budget) path l)

/-- **Walks the data from its root**, with no cells to begin with. -/
def walkShared (c : Course) (entries : List (Value × Value)) : Walk Value := do
  let root := (Value.map entries).unshared
  let (l, cells) ← (walkLinkedMembers (c.walkLinked c.schema.depth) [] root).run []
  return l.value cells

end Course

end Conform
