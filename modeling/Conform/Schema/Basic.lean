import Conform.Document.Basic
import Conform.Value.Instant
import Conform.Pattern.Basic

/-!
# Schemas

A schema maps the names of fields to types, or it is a *union* of at least two such mappings. A
type is a node or a union of at least two nodes, its *candidates*. A node describes one kind of
value, and the bounds it carries have been looked at already: a pattern is one that can be
matched, and a bound on dates names an instant.

What nodes of all kinds share is their `Presence`: whether the value may be missing, whether it
may be null, and what is put in its place if it is missing. A default of null is not the same as
no default. A default that comes from a document may hold one container in several places.
-/

namespace Conform

/-- **The kind of a node.** -/
inductive Kind where
  | string
  | number
  | boolean
  | date
  | object
  | array
deriving DecidableEq, Repr

namespace Kind

/-- Every kind. -/
def all : List Kind := [string, number, boolean, date, object, array]

/-- The name of a kind. -/
def name : Kind → String
  | string => "string"
  | number => "number"
  | boolean => "boolean"
  | date => "date"
  | object => "object"
  | array => "array"

/-- The kind with a given name. -/
def ofName? (s : String) : Option Kind := all.find? (·.name == s)

end Kind

/-- **When a value may be missing or null**, with defaults of a type. -/
structure Presence (α : Type) where
  required : Bool := true
  nullable : Bool := false
  /-- The default, if there is one; a default may be null. -/
  default? : Option (Option α) := none
  /-- What is shared in the default. -/
  sharing : Sharing := []

/-- The rules of texts. -/
structure StringRules where
  allowed : Option (List String) := none
  pattern : Option Pattern := none
  min : Option Nat := none
  max : Option Nat := none
  trim : Bool := true
  lowercase : Bool := false
  uppercase : Bool := false

/-- The rules of numbers. Zero counts as positive and not as negative. -/
structure NumberRules where
  allowed : Option (List Number) := none
  min : Option Number := none
  max : Option Number := none
  integer : Bool := false
  positive : Bool := false
  negative : Bool := false

/-- The rules of dates. -/
structure DateRules where
  min : Option DateBound := none
  max : Option DateBound := none

/-- Bounds on the number of items. -/
structure ItemCount where
  min : Option Nat := none
  max : Option Nat := none

mutual
/-- **A node**: what is asked of one value. -/
inductive Node where
  | string (presence : Presence String) (rules : StringRules)
  | number (presence : Presence Number) (rules : NumberRules)
  | boolean (presence : Presence Bool)
  | date (presence : Presence String) (rules : DateRules)
  | object (presence : Presence (List (String × Value))) (properties : Schema)
  | array (presence : Presence (List Value)) (items : TypeSpec) (count : ItemCount)

/-- **A type**: a node, or a union of at least two. -/
inductive TypeSpec where
  | single (node : Node)
  | union (first second : Node) (others : List Node)

/-- **A schema**: fields with their types, or a union of at least two such mappings. -/
inductive Schema where
  | mapping (fields : List (String × TypeSpec))
  | union (first second : List (String × TypeSpec))
      (others : List (List (String × TypeSpec)))
end

/-- Fields with their types, in order. -/
abbrev Fields := List (String × TypeSpec)

/-- A mapping as a value. -/
def Value.ofFields (entries : List (String × Value)) : Value :=
  .map (entries.map fun e => (.text e.1, e.2))

namespace Presence

/-- The default as a value. -/
def defaultValue? {α : Type} (p : Presence α) (f : α → Value) : Option Value :=
  p.default?.map fun d => (d.map f).getD .null

end Presence

namespace Node

/-- The kind of a node. -/
def kind : Node → Kind
  | string .. => .string
  | number .. => .number
  | boolean .. => .boolean
  | date .. => .date
  | object .. => .object
  | array .. => .array

/-- Whether a missing value is a violation. -/
def required : Node → Bool
  | string p _ => p.required
  | number p _ => p.required
  | boolean p => p.required
  | date p _ => p.required
  | object p _ => p.required
  | array p _ _ => p.required

/-- Whether null is declared to be accepted. -/
def nullable : Node → Bool
  | string p _ => p.nullable
  | number p _ => p.nullable
  | boolean p => p.nullable
  | date p _ => p.nullable
  | object p _ => p.nullable
  | array p _ _ => p.nullable

/-- **The default of a node**, if it has one. -/
def default? : Node → Option Value
  | string p _ => p.defaultValue? .text
  | number p _ => p.defaultValue? .number
  | boolean p => p.defaultValue? .bool
  | date p _ => p.defaultValue? .text
  | object p _ => p.defaultValue? .ofFields
  | array p _ _ => p.defaultValue? .list

/-- What is shared in the default of a node. -/
def sharing : Node → Sharing
  | string p _ => p.sharing
  | number p _ => p.sharing
  | boolean p => p.sharing
  | date p _ => p.sharing
  | object p _ => p.sharing
  | array p _ _ => p.sharing

/-- Whether the node has a default that is null. -/
def hasNullDefault (n : Node) : Bool :=
  match n.default? with
  | some .null => true
  | _ => false

/-- **Whether an observed null is accepted**: it is declared, or null is the default. -/
def acceptsNull (n : Node) : Bool := n.nullable || n.hasNullDefault

end Node

namespace TypeSpec

/-- The nodes of a type, of which there is at least one. -/
def candidates : TypeSpec → List Node
  | single n => [n]
  | union n m ns => n :: m :: ns

/-- Whether a type is a union. -/
def isUnion : TypeSpec → Bool
  | single _ => false
  | union .. => true

/-- The first of the nodes of a type. -/
def first : TypeSpec → Node
  | single n => n
  | union n _ _ => n

end TypeSpec

namespace Schema

/-- The mappings of a schema, of which there is at least one. -/
def members : Schema → List Fields
  | mapping fs => [fs]
  | union fs gs hs => fs :: gs :: hs

/-- Whether a schema is a union. -/
def isUnion : Schema → Bool
  | mapping _ => false
  | union .. => true

end Schema

end Conform
