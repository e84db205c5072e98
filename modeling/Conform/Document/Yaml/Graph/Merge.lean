import Conform.Document.Yaml.Graph

/-!
# Merging

A mapping takes over entries of other mappings by the sign `<<`. Where it is merged, these entries
stand in front of its own and the sign is gone, and the sign for the value that stands for a
mapping has become a text as a key. What is merged into it is merged itself before.

A mapping may take over from one that is being merged, even from itself: it finds what is left
there. Each sign is removed from its mapping before anything is taken over by it, so merging comes
to an end.
-/

namespace Conform.Yaml.Graph

/-- Merging in a graph. -/
abbrev Merging := StateT Graph Parsed

/-- The entries that a node gives to a mapping: those of a mapping, or of several, the last one
first. `merge` merges what they are taken from. -/
def takeFrom (merge : Nat → Merging Unit) (place : Nat) : Merging (List (Nat × Nat)) := do
  let given := fun (place : Nat) => do
    merge place
    return (← get).entriesAt place
  match (← get).contentAt place with
  | .scalar _ => throw .malformed
  | .mapping _ => given place
  | .sequence items =>
    let parts ← items.mapM fun item => do
      if !(← get).isMapping item then throw .malformed
      given item
    return parts.reverse.flatten

/-- Merges a mapping from its entry at an index on, of which there are at most `count`; `taken`
is what it has taken over before. -/
def mergeFrom (merge : Nat → Merging Unit) (place : Nat) :
    (count index : Nat) → (taken : List (Nat × Nat)) → Merging Unit
  | 0, _, taken => modify fun g => g.putEntries place (taken ++ g.entriesAt place)
  | count + 1, index, taken => do
    let g ← get
    match (g.entriesAt place)[index]? with
    | none => mergeFrom merge place 0 index taken
    | some (key, value) =>
      match g.tagAt key with
      | .merge =>
        set (g.putEntries place ((g.entriesAt place).eraseIdx index))
        let new ← takeFrom merge value
        mergeFrom merge place count index (taken ++ new)
      | .standIn =>
        set (g.putTag key .text)
        mergeFrom merge place count (index + 1) taken
      | _ => mergeFrom merge place count (index + 1) taken

/-- Merges a mapping; `depth` bounds how many are merged one inside the other. -/
def mergeWithin : (depth : Nat) → (place : Nat) → Merging Unit
  | 0, _ => throw .malformed
  | depth + 1, place => do
    mergeFrom (mergeWithin depth) place ((← get).entriesAt place).length 0 []

/-- **Merges the mapping at a place.** One mapping is merged inside another for an entry that is
gone by then. -/
def merged (g : Graph) (place : Nat) : Parsed Graph :=
  (·.2) <$> (mergeWithin (g.entryCount + 1) place).run g

end Conform.Yaml.Graph
