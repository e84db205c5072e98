import Conform.Schema.Sharing

/-!
# Reading schemas

`Schema.read` turns a document into a schema, and `Schema.ofValue`, `TypeSpec.read` and
`Node.readAs` turn a value into a schema, a type or a node. A node is a map: its `type` names its
kind, and the kind decides which other fields there are. A field that is missing has its usual
value, and a field that is unknown is an issue.

A field `default`, also one of null, gives the node a default. Without it the field
`has_default` may say that there is one, which is then null.

Everything is read, so that all issues are found; what has been read is well formed by its type:
unions have at least two members, patterns can be matched and bounds on dates name instants.
-/

namespace Conform

/-- The entries of a map. -/
abbrev Entries := List (Value × Value)

namespace Reading

/-- The value of a field of a map. -/
def entryNamed? (es : Entries) (name : String) : Option Value := Value.entry? es (.text name)

/-- **A field of a map**, which has a usual value if it is missing. -/
def field {α : Type} (es : Entries) (name : String) (usual : α) (read : Value → Reading α) :
    Reading α :=
  match entryNamed? es name with
  | none => ok usual
  | some v => (read v).below name

/-- Reads null as nothing. -/
def nullable {α : Type} (read : Value → Reading α) : Value → Reading (Option α)
  | .null => ok none
  | v => some <$> read v

/-- A truth value. -/
def bool (v : Value) : Reading Bool := ofExcept (Coercion.bool v)

/-- A text. -/
def text (v : Value) : Reading String := ofExcept (Coercion.text v)

/-- A bound on a length. -/
def nat (v : Value) : Reading Nat := ofExcept (Coercion.nat v)

/-- A list of things of a kind. -/
def listOf {α : Type} (read : Value → Reading α) (v : Value) : Reading (List α) :=
  (ofExcept (Coercion.list v)).andThen (items read 0)

/-- A key that has to be a text. -/
def key (k : Value) : Reading String :=
  match Coercion.text k with
  | .ok s => ok s
  | .error c => failed (.issues [⟨[placeText k, "[key]"], c⟩])

/-- A pattern. -/
def pattern (v : Value) : Reading Pattern :=
  (text v).andThen fun s =>
    match Pattern.compile s with
    | .ok p => ok p
    | .error .repetitionTooLarge => failed (.overflow .repetition)
    | .error .distanceTooLarge => failed (.overflow .distance)
    | .error _ => issue .refused

/-- A bound on dates. -/
def dateBound (v : Value) : Reading DateBound :=
  (text v).andThen fun s =>
    match DateBound.ofText s with
    | .ok b => ok b
    | .error .outOfRange => failed (.overflow .date)
    | .error _ => issue .refused

/-- The entries of a mapping, a repeated key taking the last value. -/
def ofEntries {α : Type} (es : List (String × α)) : List (String × α) :=
  es.foldl (fun found e =>
    if found.any (·.1 == e.1) then found.map fun f => if f.1 == e.1 then e else f
    else found ++ [e]) []

/-- The entries of a map with text keys and any values. -/
def textEntries : Entries → Reading (List (String × Value))
  | [] => ok []
  | (k, v) :: es => (fun k es => (k, v) :: es) <$> key k <*> textEntries es

/-- A map with text keys and any values. -/
def textMap : Value → Reading (List (String × Value))
  | .map es => ofEntries <$> textEntries es
  | _ => issue .dictType

/-- Whether the keys of a map are known; a key that is no text is an issue of its own. -/
def knownFields (known : List String) (es : Entries) : Entries → Reading Unit
  | [] => ok ()
  | (k, _) :: rest =>
    let here : Reading Unit :=
      match k, Coercion.text k with
      | .text s, _ => if known.contains s then ok () else extra k
      | _, .ok s => if known.contains s && (entryNamed? es s).isSome then ok () else extra k
      | _, .error _ => failed (.issues [⟨[placeText k], .invalidKey⟩])
    zipWith (fun _ _ => ()) here (knownFields known es rest)
where
  /-- A field that is not known. -/
  extra (k : Value) : Reading Unit := failed (.issues [⟨[placeText k], .extraForbidden⟩])

end Reading

open Reading

/-! ## Nodes -/

namespace Presence

/-- The fields of a presence. -/
def fieldNames : List String := ["required", "nullable", "default", "has_default"]

/-- The default: given, declared to be there, or absent. -/
def readDefault {α : Type} (es : Entries) (read : Value → Reading α) :
    Reading (Option (Option α)) :=
  match entryNamed? es "default" with
  | some v => some <$> (Reading.nullable read v).below "default"
  | none => (fun b => if b then some none else none) <$> field es "has_default" false Reading.bool

/-- **The presence of a node**, given how its default is read. -/
def read {α : Type} (es : Entries) (readValue : Value → Reading α) : Reading (Presence α) :=
  (fun required nullable default? => { required, nullable, default? }) <$>
    field es "required" true Reading.bool <*> field es "nullable" false Reading.bool
    <*> readDefault es readValue

end Presence

/-- A field that may be null, and usually is. -/
def optionalField {α : Type} (es : Entries) (name : String) (read : Value → Reading α) :
    Reading (Option α) := field es name none (Reading.nullable read)

/-- The rules of texts. -/
def StringRules.read (es : Entries) : Reading StringRules :=
  StringRules.mk <$> optionalField es "enum" (listOf Reading.text)
    <*> optionalField es "pattern" Reading.pattern
    <*> optionalField es "min" Reading.nat <*> optionalField es "max" Reading.nat
    <*> field es "trim" true Reading.bool <*> field es "lowercase" false Reading.bool
    <*> field es "uppercase" false Reading.bool

/-- The rules of numbers. -/
def NumberRules.read (es : Entries) : Reading NumberRules :=
  NumberRules.mk <$> optionalField es "enum" (listOf Coercion.number)
    <*> optionalField es "min" Coercion.number <*> optionalField es "max" Coercion.number
    <*> field es "integer" false Reading.bool <*> field es "positive" false Reading.bool
    <*> field es "negative" false Reading.bool

/-- The rules of dates. -/
def DateRules.read (es : Entries) : Reading DateRules :=
  DateRules.mk <$> optionalField es "min" dateBound <*> optionalField es "max" dateBound

/-- Bounds on the number of items. -/
def ItemCount.read (es : Entries) : Reading ItemCount :=
  ItemCount.mk <$> optionalField es "min" Reading.nat <*> optionalField es "max" Reading.nat

/-- The fields of a node apart from its type and its presence. -/
def Kind.ruleNames : Kind → List String
  | .string => ["enum", "pattern", "min", "max", "trim", "lowercase", "uppercase"]
  | .number => ["enum", "min", "max", "integer", "positive", "negative"]
  | .boolean => []
  | .date => ["min", "max"]
  | .object => ["properties"]
  | .array => ["items", "min", "max"]

/-- The fields of a node. -/
def Kind.fieldNames (k : Kind) : List String := Presence.fieldNames ++ "type" :: k.ruleNames

/-- **What a node is made of**: nothing, a schema or a type. -/
inductive NodeBody where
  | plain
  | properties (s : Schema)
  | items (t : TypeSpec)

/-- Checks the `type` of a node. -/
def Kind.check (k : Kind) (es : Entries) : Reading Unit :=
  match entryNamed? es "type" with
  | none => (issue .missing : Reading Unit).below "type"
  | some (.text s) =>
    if s = k.name then ok () else (issue .literalError : Reading Unit).below "type"
  | some _ => (issue .literalError : Reading Unit).below "type"

/-- The kind that a map names as its `type`. -/
def Kind.named? (es : Entries) : Option Kind :=
  match entryNamed? es "type" with
  | some (.text s) => Kind.ofName? s
  | _ => none

/-- A node of a kind from its fields, its body having been read. -/
def Node.ofEntries (k : Kind) (es : Entries) (body : Reading NodeBody) : Reading Node :=
  let node : Reading Node :=
    match k with
    | .string => Node.string <$> Presence.read es Reading.text <*> StringRules.read es
    | .number => Node.number <$> Presence.read es Coercion.number <*> NumberRules.read es
    | .boolean => Node.boolean <$> Presence.read es Reading.bool
    | .date => Node.date <$> Presence.read es Reading.text <*> DateRules.read es
    | .object =>
      let properties := body.andThen fun b => match b with
        | .properties s => ok s
        | _ => (issue .missing : Reading Schema).below "properties"
      Node.object <$> Presence.read es textMap <*> properties
    | .array =>
      let items := body.andThen fun b => match b with
        | .items t => ok t
        | _ => (issue .missing : Reading TypeSpec).below "items"
      Node.array <$> Presence.read es (fun v => ofExcept (Coercion.list v)) <*> items
        <*> ItemCount.read es
  (fun n _ _ => n) <$> node <*> k.check es <*> knownFields k.fieldNames es es

/-! ## Types and schemas -/

/-- The mapping or the union that mappings form; one alone is no union. -/
def Schema.ofMembers : List Fields → Reading Schema
  | fs :: gs :: hs => ok (.union fs gs hs)
  | _ => issue .tooShort

/-- The union that nodes form; one alone is no union. -/
def TypeSpec.ofCandidates : List Node → Reading TypeSpec
  | n :: m :: ns => ok (.union n m ns)
  | _ => issue .tooShort

mutual
/-- **The schema that a value describes.** -/
def Schema.ofValue : Value → Reading Schema
  | .map es => (fun fs => .mapping (ofEntries fs)) <$> Fields.read es
  | .list vs => (Schema.readMembers vs).andThen Schema.ofMembers
  | .tuple vs => (Schema.readMembers vs).andThen Schema.ofMembers
  | _ => issue .dictType

/-- The mappings of a union. -/
def Schema.readMembers : List Value → Reading (List Fields)
  | [] => ok []
  | .map es :: vs => zipWith List.cons (ofEntries <$> Fields.read es) (Schema.readMembers vs)
  | _ :: vs => zipWith List.cons (issue .dictType) (Schema.readMembers vs)

/-- Fields with their types. -/
def Fields.read : Entries → Reading Fields
  | [] => ok []
  | (k, v) :: es =>
    zipWith List.cons (zipWith Prod.mk (key k) ((TypeSpec.read v).below (placeText k)))
      (Fields.read es)

/-- **A type.** -/
def TypeSpec.read : Value → Reading TypeSpec
  | .map es =>
    match Kind.named? es with
    | some k => .single <$> Node.ofEntries k es (NodeBody.read k es)
    | none => issue .unknownKind
  | .list vs => (TypeSpec.readCandidates vs).andThen TypeSpec.ofCandidates
  | .tuple vs => (TypeSpec.readCandidates vs).andThen TypeSpec.ofCandidates
  | _ => issue .modelType

/-- The nodes of a union. -/
def TypeSpec.readCandidates : List Value → Reading (List Node)
  | [] => ok []
  | .map es :: vs =>
    let node := match Kind.named? es with
      | some k => Node.ofEntries k es (NodeBody.read k es)
      | none => issue .unknownKind
    zipWith List.cons node (TypeSpec.readCandidates vs)
  | _ :: vs => zipWith List.cons (issue .modelType) (TypeSpec.readCandidates vs)

/-- What a node of a kind is made of. -/
def NodeBody.read (k : Kind) : Entries → Reading NodeBody
  | [] => ok .plain
  | (name, v) :: es =>
    match k with
    | .object =>
      if name.sameKey (.text "properties") then
        NodeBody.properties <$> (Schema.ofValue v).below "properties"
      else NodeBody.read k es
    | .array =>
      if name.sameKey (.text "items") then NodeBody.items <$> (TypeSpec.read v).below "items"
      else NodeBody.read k es
    | _ => ok .plain
end

/-- **A schema**, read from a document. What the document shares is shared in the defaults. -/
def Schema.read (d : RawDocument) : Reading Schema :=
  match d.sharing with
  | [] => Schema.ofValue d.value
  | s => Schema.share s <$> Schema.ofValue d.value

/-- **A node of a given kind.** -/
def Node.readAs (k : Kind) : Value → Reading Node
  | .map es => Node.ofEntries k es (NodeBody.read k es)
  | _ => issue .modelType

end Conform
