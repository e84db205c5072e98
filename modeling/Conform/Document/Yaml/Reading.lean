import Conform.Document.Basic
import Conform.Document.Yaml.Graph.Merge
import Conform.Document.Yaml.Graph.Reader
import Conform.Document.Yaml.Scalar

/-!
# Values of YAML documents

A sequence is a list and a mapping a map, or the set of its keys; of several values for a key the
last one counts. A list, a set or a map cannot be a key.

Of several faults in a document the one is reported that is met first. A collection is entered
only after everything beside it has been met, so what stands further out comes first: `Graph.check`
goes through a document generation by generation, and `Graph.value` then gives its value.

A node that stands in several places is one container in all of them, if it is a collection
(`Graph.sharing`).
-/

namespace Conform.Yaml

namespace Graph

/-! ## Scalars -/

/-- The text of a node that should be a scalar: a mapping has that of the value which stands for
it. -/
def scalarText (g : Graph) : (depth : Nat) → (place : Nat) → Parsed String
  | 0, _ => throw .malformed
  | depth + 1, place =>
    match g.contentAt place with
    | .scalar text => return text
    | .sequence _ => throw .malformed
    | .mapping es =>
      match es.find? fun e => g.tagAt e.1 == .standIn with
      | some (_, value) => scalarText g depth value
      | none => throw .malformed

/-- Whether a node is a collection by its tag, and so is entered later than it is met. -/
def isEnteredLater (g : Graph) (place : Nat) : Bool :=
  [Tag.sequence, .mapping, .pairs, .keySet].contains (g.tagAt place)

/-- The value of a node that is no collection by its tag. -/
def scalarLike (g : Graph) (place : Nat) : Parsed Value := do
  let text ← g.scalarText (g.size + 1) place
  let tag := g.tagAt place
  if tag = .moment && g.isMapping place then throw .momentMapping
  scalarValue tag text

/-! ## Faults -/

/-- **What is known while a document is gone through.** -/
structure Visit where
  graph : Graph
  /-- The places that have been met. -/
  met : List Nat := []

/-- Going through a document. -/
abbrev Visiting := StateT Visit Parsed

/-- Meets a node, unless it has been met before. If it is a collection it is still to be
entered. -/
def meet (place : Nat) : Visiting (List Nat) := do
  let s ← get
  if s.met.contains place then return []
  set { s with met := place :: s.met }
  if s.graph.isEnteredLater place then return [place]
  let _ ← (s.graph.scalarLike place : Parsed Value)
  return []

/-- Meets what is in a pair, a mapping of a single entry. -/
def meetPair (place : Nat) : Visiting (List Nat) := do
  match (← get).graph.contentAt place with
  | .mapping [(key, value)] => return (← meet key) ++ (← meet value)
  | _ => throw .malformed

/-- Meets what is in an entry. -/
def meetEntry (key value : Nat) : Visiting (List Nat) := do
  let inKey ← meet key
  if (← get).graph.isEnteredLater key then throw .malformed
  return inKey ++ (← meet value)

/-- Enters a collection, and gives the collections in it that are still to be entered. A mapping
is merged on that occasion. -/
def enter (place : Nat) : Visiting (List Nat) := do
  let g := (← get).graph
  match g.tagAt place, g.contentAt place with
  | .sequence, .sequence items => return (← items.mapM meet).flatten
  | .pairs, .sequence items => return (← items.mapM meetPair).flatten
  | .mapping, .mapping _ | .keySet, .mapping _ =>
    let g ← (g.merged place : Parsed Graph)
    modify fun s => { s with graph := g }
    return (← (g.entriesAt place).mapM fun (key, value) => meetEntry key value).flatten
  | _, _ => throw .malformed

/-- Enters one generation of collections after the other. -/
def enterAll : (generations : Nat) → (places : List Nat) → Visiting Unit
  | 0, _ => return ()
  | n + 1, places => do
    if places.isEmpty then return ()
    enterAll n (← places.mapM enter).flatten

/-- **Finds the fault that is met first**, if there is any; otherwise all mappings that count are
merged. -/
def check (g : Graph) : Parsed Graph := do
  let visit := do
    enterAll (g.size + 1) (← meet 0)
  let (_, s) ← visit.run { graph := g }
  return s.graph

/-! ## Values -/

/-- **A key of a mapping.** -/
structure Key where
  value : Value
  /-- What tells a key that is not a number from others of that kind. -/
  mark : Option Nat

/-- Whether two keys are the same. A key that is not a number is the same as itself only. -/
def Key.same (k l : Key) : Bool := k.value.sameKey l.value || (k.mark.isSome && k.mark == l.mark)

/-- The key that a node is. The word `.nan` names the same one wherever it stands. -/
def keyOf (g : Graph) (place : Nat) (v : Value) : Key :=
  match v with
  | .number (.float (.notANumber _)) =>
    match g.scalarText (g.size + 1) place with
    | .ok text => ⟨v, some (if isNaNWord text then g.size else place)⟩
    | .error _ => ⟨v, some place⟩
  | _ => ⟨v, none⟩

/-- Entries of which each has a key of its own, a repeated key taking the last entry. -/
def distinct {α : Type} (es : List (Key × α)) : List (Value × α) :=
  (es.foldl (fun known e =>
    if known.any fun f => f.1.same e.1 then
      known.map fun f => if f.1.same e.1 then (f.1, e.2) else f
    else known ++ [e]) []).map fun e => (e.1.value, e.2)

/-- The value of a node that stands inside the nodes `around`, which are not too many. A node
inside itself has no members. -/
def valueWithin (g : Graph) : (depth : Nat) → (around : List Nat) → (place : Nat) → Parsed Value
  | 0, _, _ => throw .malformed
  | depth + 1, around, place => do
    if !g.isEnteredLater place then g.scalarLike place
    else
      let inner := valueWithin g depth (place :: around)
      let pair := fun (key value : Nat) => do return (← inner key, ← inner value)
      let entries := fun (es : List (Nat × Nat)) => distinct <$> es.mapM fun (key, value) => do
        let (k, v) ← pair key value
        return (g.keyOf key k, v)
      let content := g.contentAt place
      match g.tagAt place, if around.contains place then content.emptied else content with
      | .sequence, .sequence items => return .list (← items.mapM inner)
      | .pairs, .sequence items =>
        return .list (← items.mapM fun item => do
          match g.contentAt item with
          | .mapping [(key, value)] =>
            let (k, v) ← pair key value
            return .tuple [k, v]
          | _ => throw .malformed)
      | .mapping, .mapping es => return .map (← entries es)
      | .keySet, .mapping es => return .set ((← entries es).map (·.1))
      | _, _ => throw .malformed

/-- **The value of a document.** -/
def value (g : Graph) : Parsed Value := g.valueWithin (g.size + 2) [] 0

/-! ## Places -/

/-- The members of a node by their keys in its value. A pair has its parts at 0 and 1. -/
def membersAt (g : Graph) (place : Nat) : List (Path × Nat) :=
  match g.tagAt place, g.contentAt place with
  | .sequence, .sequence items => items.zipIdx.map fun (item, i) => ([.int i], item)
  | .pairs, .sequence items =>
    items.zipIdx.flatMap fun (item, i) =>
      match g.contentAt item with
      | .mapping [(key, value)] => [([.int i, .int 0], key), ([.int i, .int 1], value)]
      | _ => []
  | .mapping, .mapping es =>
    let entries := es.filterMap fun (key, value) =>
      (g.scalarLike key).toOption.map fun k => (g.keyOf key k, value)
    (distinct entries).map fun (key, value) => ([key], value)
  | _, _ => []

/-- The collections in a node that stands at a path, with their own paths, the node itself being
the first. A node inside itself is no place of its own. -/
def collectionsWithin (g : Graph) :
    (depth : Nat) → (around : List Nat) → (path : Path) → (place : Nat) → List (Nat × Path)
  | 0, _, _, _ => []
  | depth + 1, around, path, place =>
    if !g.isEnteredLater place || around.contains place then []
    else (place, path) :: (g.membersAt place).flatMap fun (keys, member) =>
      collectionsWithin g depth (place :: around) (path ++ keys) member

/-- **What is shared in a document**: the paths of each collection that has several. A collection
in another has a longer path than any of the other, and comes after it. -/
def sharing (g : Graph) : Sharing :=
  let collections := g.collectionsWithin (g.size + 2) [] [] 0
  let shared := (List.range g.size).filterMap fun place =>
    let paths := collections.filterMap fun c => if c.1 = place then some c.2 else none
    if 2 ≤ paths.length then some paths else none
  let reach := fun (paths : List Path) => (paths.map List.length).foldl max 0
  shared.mergeSort fun paths others => reach paths ≤ reach others

end Graph

/-- **What a document holds**; an empty document holds null. -/
def read (text : String) : Parsed RawDocument := do
  let g ← (← Graph.ofTokens (.ofText text)).check
  return { value := ← g.value, sharing := g.sharing }

end Conform.Yaml
