import Conform.Schema.Basic
import Conform.Schema.Coercion

/-!
# What a schema shares

A schema takes over from its document what is shared in the defaults. A default is copied at its
top, where the keys of a map become texts, and what is below keeps its identity. What two defaults
have in common is of no account, for each is put in by itself.
-/

namespace Conform

namespace Sharing

/-- Whether a key of a document is read as a name. -/
def spells (name : String) (key : Value) : Bool :=
  match Coercion.text key with
  | .ok s => s == name
  | .error _ => false

/-- What is shared in the value of a field. -/
def belowName (s : Sharing) (name : String) : Sharing := s.belowKey (spells name)

/-- A place in a default whose first key has been read. -/
def readPlace (place : Path) : Path :=
  match place with
  | [] => []
  | key :: rest =>
    match Coercion.text key with
    | .ok name => .text name :: rest
    | .error _ => key :: rest

/-- What is shared in the default of a node. -/
def ofDefault (s : Sharing) : Sharing :=
  (s.belowName "default").map fun places => places.map readPlace

end Sharing

/-- A presence with what is shared in its default. -/
def Presence.share {α : Type} (s : Sharing) (p : Presence α) : Presence α :=
  { p with sharing := s.ofDefault }

mutual
/-- **A schema with what is shared in its defaults**, as its document shares it. -/
def Schema.share (s : Sharing) : Schema → Schema
  | .mapping fs => .mapping (Fields.share s fs)
  | .union fs gs hs =>
    .union (Fields.share (s.belowIndex 0) fs) (Fields.share (s.belowIndex 1) gs)
      (Schema.shareMembers s 2 hs)

/-- The mappings of a union from an index on. -/
def Schema.shareMembers (s : Sharing) (index : Nat) :
    List (List (String × TypeSpec)) → List (List (String × TypeSpec))
  | [] => []
  | fs :: hs => Fields.share (s.belowIndex index) fs :: Schema.shareMembers s (index + 1) hs

/-- Fields with what is shared in their defaults. -/
def Fields.share (s : Sharing) : List (String × TypeSpec) → List (String × TypeSpec)
  | [] => []
  | (name, t) :: fs => (name, TypeSpec.share (s.belowName name) t) :: Fields.share s fs

/-- A type with what is shared in its defaults. -/
def TypeSpec.share (s : Sharing) : TypeSpec → TypeSpec
  | .single n => .single (Node.share s n)
  | .union n m ns =>
    .union (Node.share (s.belowIndex 0) n) (Node.share (s.belowIndex 1) m)
      (TypeSpec.shareAmong s 2 ns)

/-- The nodes of a union from an index on. -/
def TypeSpec.shareAmong (s : Sharing) (index : Nat) : List Node → List Node
  | [] => []
  | n :: ns => Node.share (s.belowIndex index) n :: TypeSpec.shareAmong s (index + 1) ns

/-- A node with what is shared in its default. Only defaults of objects and arrays hold
containers. -/
def Node.share (s : Sharing) : Node → Node
  | .object p schema => .object (p.share s) (Schema.share (s.belowName "properties") schema)
  | .array p t count => .array (p.share s) (TypeSpec.share (s.belowName "items") t) count
  | n => n
end

end Conform
