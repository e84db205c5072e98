import Conform.Schema.Basic

/-!
# JSON-Schema documents

The structure of a schema as a JSON-Schema document: the kinds, bounds and allowed values of its
nodes, the fields that are required, and whether other fields are allowed. What a node does to a
text – trimming and case – has no counterpart there and is left out.

A field of a union type is required unless every candidate is optional. Null is an alternative
wherever the node accepts it.
-/

namespace Conform

namespace JsonSchema

/-- **A document**, or a part of one: keywords with their values, in order. -/
abbrev Document := List (String × Value)

/-- A keyword whose value may be left out. -/
def keyword? (name : String) (v : Option Value) : Document := (v.map fun v => (name, v)).toList

/-- A length as a value. -/
def natValue (n : Nat) : Value := .int n

/-- A list of documents as alternatives. -/
def anyOf (documents : List Document) : Document :=
  [("anyOf", .list (documents.map .ofFields))]

/-- The document of a kind of value. -/
def typed (name : String) : Document := [("type", .text name)]

/-- The document of a text. -/
def ofString (r : StringRules) : Document :=
  typed "string" ++ keyword? "enum" (r.allowed.map fun ts => .list (ts.map .text)) ++
    keyword? "minLength" (r.min.map natValue) ++ keyword? "maxLength" (r.max.map natValue) ++
    keyword? "pattern" (r.pattern.map fun p => .text p.source)

/-- The document of a number. A bound that is given stands in place of that of the sign. -/
def ofNumber (r : NumberRules) : Document :=
  let lower := match r.min with
    | some n => [("minimum", .number n)]
    | none => if r.positive then [("minimum", natValue 0)] else []
  let upper := match r.max with
    | some n => [("maximum", .number n)]
    | none => if r.negative then [("exclusiveMaximum", natValue 0)] else []
  typed (if r.integer then "integer" else "number") ++
    keyword? "enum" (r.allowed.map fun ns => .list (ns.map .number)) ++ lower ++ upper

/-- The document of a date. -/
def ofDate (r : DateRules) : Document :=
  typed "string" ++ [("format", .text "date-time")] ++
    keyword? "formatMinimum" (r.min.map fun b => .text b.text) ++
    keyword? "formatMaximum" (r.max.map fun b => .text b.text)

/-- The document of an array whose items have the document `items`. -/
def ofArray (items : Document) (c : ItemCount) : Document :=
  typed "array" ++ [("items", .ofFields items)] ++
    keyword? "minItems" (c.min.map natValue) ++ keyword? "maxItems" (c.max.map natValue)

/-- The document of a mapping whose fields have the documents `properties`; `others` tells whether
there may be other fields. -/
def ofMapping (others : Bool) (properties : List (String × Document)) (required : List String) :
    Document :=
  typed "object" ++
    [("properties", .ofFields (properties.map fun p => (p.1, .ofFields p.2))),
      ("additionalProperties", .bool others)] ++
    (if required.isEmpty then [] else [("required", .list (required.map .text))])

/-- The document of a node with its default and the alternative of null. -/
def withPresence (n : Node) (document : Document) : Document :=
  let document := document ++ keyword? "default" n.default?
  if n.acceptsNull then anyOf [document, typed "null"] else document

end JsonSchema

open JsonSchema

/-- Whether a field of a type is required. -/
def TypeSpec.required (t : TypeSpec) : Bool := t.candidates.any (·.required)

/-- The names of the required fields. -/
def Fields.required (fs : Fields) : List String :=
  (fs.filter fun f => f.2.required).map (·.1)

mutual
/-- **The document of a schema**; `others` tells whether there may be fields that are not
declared. -/
def Schema.jsonSchema (others : Bool) : Schema → Document
  | .mapping fs => ofMapping others (Fields.jsonSchemas others fs) (Fields.required fs)
  | .union fs gs hs =>
    anyOf (ofMapping others (Fields.jsonSchemas others fs) (Fields.required fs) ::
      ofMapping others (Fields.jsonSchemas others gs) (Fields.required gs) ::
      Schema.memberSchemas others hs)

/-- The documents of the members of a union. -/
def Schema.memberSchemas (others : Bool) : List (List (String × TypeSpec)) → List Document
  | [] => []
  | fs :: hs =>
    ofMapping others (Fields.jsonSchemas others fs) (Fields.required fs) ::
      Schema.memberSchemas others hs

/-- The documents of the fields of a mapping. -/
def Fields.jsonSchemas (others : Bool) : List (String × TypeSpec) → List (String × Document)
  | [] => []
  | (name, t) :: fs => (name, TypeSpec.jsonSchema others t) :: Fields.jsonSchemas others fs

/-- The document of a type. -/
def TypeSpec.jsonSchema (others : Bool) : TypeSpec → Document
  | .single n => Node.jsonSchema others n
  | .union n m ns =>
    anyOf (Node.jsonSchema others n :: Node.jsonSchema others m ::
      TypeSpec.candidateSchemas others ns)

/-- The documents of some candidates. -/
def TypeSpec.candidateSchemas (others : Bool) : List Node → List Document
  | [] => []
  | n :: ns => Node.jsonSchema others n :: TypeSpec.candidateSchemas others ns

/-- The document of a node. -/
def Node.jsonSchema (others : Bool) : Node → Document
  | .string p r => withPresence (.string p r) (ofString r)
  | .number p r => withPresence (.number p r) (ofNumber r)
  | .boolean p => withPresence (.boolean p) (typed "boolean")
  | .date p r => withPresence (.date p r) (ofDate r)
  | .object p s => withPresence (.object p s) (Schema.jsonSchema others s)
  | .array p t c => withPresence (.array p t c) (ofArray (TypeSpec.jsonSchema others t) c)
end

end Conform
