import Conform.Schema.Basic
import Conform.Path

/-!
# Finding the node that governs a path

`Schema.locate` follows a path from the root of a schema to the type that is declared there. A
key of a mapping leads to the type of the field of that name, a key that looks like an index
leads into the items of an array, and where a union stands in the way its members are searched in
order, the first that declares the rest of the path winning.

Which node of a union governs a value is decided by the shape of the value alone
(`TypeSpec.resolve`): the first candidate whose kind it fits, and the first of all if it fits
none.

`Schema.depth` bounds the length of the paths that are declared.
-/

namespace Conform

/-! ## Candidates -/

/-- **Whether a value fits the kind of a node.** Null fits a node that declares to accept it. A
text may be a date. -/
def Node.matches (n : Node) (v : Value) : Bool :=
  match v with
  | .null => n.nullable
  | v =>
    match n.kind with
    | .date => v.isDateLike || v.kindName == Kind.string.name
    | k => v.kindName == k.name

/-- The place of the candidate that a value resolves to: the first it fits, or the first of all.
Nothing is known of an absent value. -/
def resolvedIndex (candidates : List Node) (v : Value) : Nat :=
  match v with
  | .absent => 0
  | v => (candidates.findIdx? (·.matches v)).getD 0

/-- **The node of a type that governs a value.** -/
def TypeSpec.resolve (t : TypeSpec) (v : Value) : Node :=
  t.candidates.getD (resolvedIndex t.candidates v) t.first

/-! ## Paths -/

/-- Whether a traversal key names a field. -/
def keyNames (key : Value) (name : String) : Bool :=
  match key with
  | .text s => s == name
  | _ => false

mutual
/-- **The type that governs a path** of a schema; nothing governs its root. -/
def Schema.locate : Schema → Path → Option TypeSpec
  | .mapping fs, path => Fields.locate fs path
  | .union fs gs hs, path =>
    Fields.locate fs path <|> Fields.locate gs path <|> Schema.locateMembers hs path

/-- The type that governs a path of one of the members of a union. -/
def Schema.locateMembers : List (List (String × TypeSpec)) → Path → Option TypeSpec
  | [], _ => none
  | fs :: hs, path => Fields.locate fs path <|> Schema.locateMembers hs path

/-- The type that governs a path of a mapping. -/
def Fields.locate : List (String × TypeSpec) → Path → Option TypeSpec
  | _, [] => none
  | [], _ :: _ => none
  | (name, t) :: fs, key :: rest =>
    if keyNames key name then TypeSpec.locate t rest else Fields.locate fs (key :: rest)

/-- The type that governs a path below a type. -/
def TypeSpec.locate : TypeSpec → Path → Option TypeSpec
  | t, [] => some t
  | .single n, key :: rest => Node.locate n key rest
  | .union n m ns, key :: rest =>
    Node.locate n key rest <|> Node.locate m key rest <|> TypeSpec.locateAmong ns key rest

/-- The type that governs a path below one of the candidates of a union. -/
def TypeSpec.locateAmong : List Node → Value → Path → Option TypeSpec
  | [], _, _ => none
  | n :: ns, key, rest => Node.locate n key rest <|> TypeSpec.locateAmong ns key rest

/-- The type that governs the path of a key and the rest below a node. -/
def Node.locate : Node → Value → Path → Option TypeSpec
  | .object _ s, key, rest => Schema.locate s (key :: rest)
  | .array _ t _, key, rest => if key.isIndex then TypeSpec.locate t rest else none
  | _, _, _ => none
end

mutual
/-- **A bound on the length of the paths** that a schema declares. -/
def Schema.depth : Schema → Nat
  | .mapping fs => Fields.depth fs
  | .union fs gs hs => max (Fields.depth fs) (max (Fields.depth gs) (Schema.depthMembers hs))

/-- A bound on the length of the paths that some mappings declare. -/
def Schema.depthMembers : List (List (String × TypeSpec)) → Nat
  | [] => 0
  | fs :: hs => max (Fields.depth fs) (Schema.depthMembers hs)

/-- A bound on the length of the paths that a mapping declares. -/
def Fields.depth : List (String × TypeSpec) → Nat
  | [] => 0
  | (_, t) :: fs => max (TypeSpec.depth t + 1) (Fields.depth fs)

/-- A bound on the length of the paths below a type. -/
def TypeSpec.depth : TypeSpec → Nat
  | .single n => Node.depth n
  | .union n m ns => max (Node.depth n) (max (Node.depth m) (TypeSpec.depthAmong ns))

/-- A bound on the length of the paths below some nodes. -/
def TypeSpec.depthAmong : List Node → Nat
  | [] => 0
  | n :: ns => max (Node.depth n) (TypeSpec.depthAmong ns)

/-- A bound on the length of the paths below a node. -/
def Node.depth : Node → Nat
  | .object _ s => Schema.depth s
  | .array _ t _ => TypeSpec.depth t + 1
  | _ => 0
end

end Conform
