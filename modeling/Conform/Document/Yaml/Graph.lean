import Conform.Document.Yaml.Tag

/-!
# Graphs

A document describes nodes: scalars, sequences and mappings. They are kept in one table, and the
members of a collection are places in it, because an alias is no copy: it is the very node that
its anchor names. A node may therefore be a member of several others, and even of itself, and what
becomes of it in one place has become of it in every other.

The first node of the table is the one that the document is about. Where the table has no node
something has been left out, so the empty graph is that of an empty document.
-/

namespace Conform.Yaml

/-- **What a node holds**, its members being places of nodes. -/
inductive Content where
  | scalar (text : String)
  | sequence (items : List Nat)
  | mapping (entries : List (Nat × Nat))
deriving DecidableEq, Repr

/-- Content without its members. -/
def Content.emptied : Content → Content
  | scalar text => scalar text
  | sequence _ => sequence []
  | mapping _ => mapping []

/-- **A node.** -/
structure Node where
  tag : Tag
  content : Content
deriving DecidableEq, Repr

/-- What is left out is the empty plain scalar, which is a null. -/
def Node.empty : Node := ⟨.null, .scalar ""⟩

/-- **The nodes of a document** by their places. -/
structure Graph where
  nodes : Array Node := #[]

namespace Graph

/-- The number of nodes. -/
def size (g : Graph) : Nat := g.nodes.size

/-- The node at a place. -/
def nodeAt (g : Graph) (place : Nat) : Node := (g.nodes[place]?).getD .empty

/-- The tag of the node at a place. -/
def tagAt (g : Graph) (place : Nat) : Tag := (g.nodeAt place).tag

/-- What the node at a place holds. -/
def contentAt (g : Graph) (place : Nat) : Content := (g.nodeAt place).content

/-- The entries of the mapping at a place. -/
def entriesAt (g : Graph) (place : Nat) : List (Nat × Nat) :=
  match g.contentAt place with
  | .mapping es => es
  | _ => []

/-- Whether there is a mapping at a place. -/
def isMapping (g : Graph) (place : Nat) : Bool :=
  match g.contentAt place with
  | .mapping _ => true
  | _ => false

/-- A graph with one more node, which comes last. -/
def push (g : Graph) (n : Node) : Graph := ⟨g.nodes.push n⟩

/-- A graph with another node at a place. -/
def put (g : Graph) (place : Nat) (n : Node) : Graph := ⟨g.nodes.setIfInBounds place n⟩

/-- A graph with another tag at a place. -/
def putTag (g : Graph) (place : Nat) (t : Tag) : Graph :=
  g.put place { g.nodeAt place with tag := t }

/-- A graph with other entries in the mapping at a place. -/
def putEntries (g : Graph) (place : Nat) (es : List (Nat × Nat)) : Graph :=
  g.put place { g.nodeAt place with content := .mapping es }

/-- The number of entries of all mappings. -/
def entryCount (g : Graph) : Nat :=
  g.nodes.foldl (fun n node => match node.content with
    | .mapping es => n + es.length
    | _ => n) 0

end Graph

end Conform.Yaml
