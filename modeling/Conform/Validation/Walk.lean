import Conform.Validation.Seeding
import Conform.Validation.Check
import Conform.Options

/-!
# Walking data

The data is walked from its root, each value before its members. At every path the schema is
asked for the type that governs it. Where there is none the value is unknown: it is kept or
dropped as the options say, and a mark of absence is always dropped. Where there is one, null and
absence are dealt with first – a default takes the place of an absent value, and is marked in its
turn – and then the rules of the node that the value resolves to apply.

A violation ends the walk at once, or is noted; then the value stays as it was, and the walk goes
on. A date that leaves the calendar always ends the walk, and so does a search for a pattern that
has no answer.

Paths longer than the depth of the schema are unknown, so the walk keeps a count of how much
longer a path may get; where the count is used up it only sifts out the marks of absence.

A default is taken as a tree here, as it is where no container stands in it in two places. How a
walk goes about a default that shares a container is said in `Course.walkShared`, which agrees with
this one where nothing is shared.
-/

namespace Conform

/-- **Why a walk ends early.** -/
inductive Interruption where
  | violation (v : Violation)
  | dateOutOfRange
  | search (e : SearchError)
deriving DecidableEq, Repr

/-- **A walk**: it notes violations, and may end early. -/
abbrev Walk := StateT (List Violation) (Except Interruption)

/-- **What a walk goes by.** -/
structure Course where
  schema : Schema
  options : Options

mutual
/-- A value without the marks of absence in its maps and lists. -/
def Value.withoutAbsent : Value → Value
  | .map es => .map (Value.presentEntries es)
  | .list vs => .list (Value.presentItems vs)
  | v => v

/-- The entries of a map that are not absent. -/
def Value.presentEntries : List (Value × Value) → List (Value × Value)
  | [] => []
  | (_, .absent) :: es => Value.presentEntries es
  | (k, v) :: es => (k, Value.withoutAbsent v) :: Value.presentEntries es

/-- The items of a list that are not absent. -/
def Value.presentItems : List Value → List Value
  | [] => []
  | .absent :: vs => Value.presentItems vs
  | v :: vs => Value.withoutAbsent v :: Value.presentItems vs
end

namespace Course

/-- The site of a path. -/
def site (c : Course) (path : Path) : Site := ⟨c.options.catalog, path.text⟩

/-- What becomes of a value that the schema does not declare; nothing if it is dropped. -/
def unknown (c : Course) (v : Value) : Option Value :=
  match v with
  | .absent => none
  | v => if c.options.stripUnknown then none else some v

/-- Checks a value that is neither null nor absent against its type. A union has to have a
candidate that the value fits. -/
def checkPresent (site : Site) (t : TypeSpec) (v : Value) : Checked Value :=
  if t.isUnion && !t.candidates.any (·.matches v) then site.fail .union []
  else (t.resolve v).check site v

/-- **What a type makes of a value**: its normal form, or nothing if it may be missing. -/
def apply (site : Site) (t : TypeSpec) (v : Value) : Checked (Option Value) :=
  match v with
  | .null =>
    if (t.resolve .null).acceptsNull then return some .null else site.fail .nullable []
  | .absent =>
    let n := t.resolve .absent
    match n.default? with
    | some .null => return some .null
    | some d => some <$> checkPresent site t (t.seed d)
    | none => if n.required then site.fail .required [] else return none
  | v => some <$> checkPresent site t v

/-- What is left of a value that was found to violate the schema. -/
def leftOver : Value → Option Value
  | .absent => none
  | v => some v

/-- Reports a violation. -/
def report (c : Course) (v : Violation) : Walk Unit :=
  if c.options.abortEarly then throw (.violation v) else modify (· ++ [v])

/-- **Visits a value**: gives what takes its place, or nothing if it is dropped. -/
def visit (c : Course) (path : Path) (v : Value) : Walk (Option Value) :=
  match c.schema.locate path with
  | none => return c.unknown v
  | some t =>
    match apply (c.site path) t v with
    | .ok w => return w
    | .error .dateOutOfRange => throw .dateOutOfRange
    | .error (.search e) => throw (.search e)
    | .error (.violation violation) => do
      c.report violation
      return leftOver v

/-- Walks the entries of a map, given how a member is walked. -/
def walkEntries (member : Path → Value → Walk (Option Value)) (path : Path) :
    List (Value × Value) → Walk (List (Value × Value))
  | [] => return []
  | (k, v) :: es => do
    let child ← member (path ++ [k]) v
    let rest ← walkEntries member path es
    return (child.map fun w => (k, w)).toList ++ rest

/-- Walks the items of a list from an index on, given how a member is walked. -/
def walkItems (member : Path → Value → Walk (Option Value)) (path : Path) (index : Nat) :
    List Value → Walk (List Value)
  | [] => return []
  | v :: vs => do
    let child ← member (path ++ [.int index]) v
    let rest ← walkItems member path (index + 1) vs
    return child.toList ++ rest

/-- Walks the members of a value. -/
def walkMembers (member : Path → Value → Walk (Option Value)) (path : Path) :
    Value → Walk Value
  | .map es => Value.map <$> walkEntries member path es
  | .list vs => Value.list <$> walkItems member path 0 vs
  | v => return v

/-- **Walks a value and what it holds.** The path may become longer by `budget` keys before
nothing is declared any more. -/
def walk (c : Course) : (budget : Nat) → Path → Value → Walk (Option Value)
  | 0, _, v => return (c.unknown v).map Value.withoutAbsent
  | budget + 1, path, v => do
    match ← c.visit path v with
    | none => return none
    | some w => return some (← walkMembers (c.walk budget) path w)

/-- **Walks the data from its root.** The root itself is not visited. -/
def walkRoot (c : Course) (entries : List (Value × Value)) : Walk Value :=
  walkMembers (c.walk c.schema.depth) [] (.map entries)

end Course

end Conform
