import Conform.Schema.Unsupported
import Conform.Export.JsonSchema
import Conform.Export.Declaration

/-!
# Exporting outlines

A schema that has not been read yet is a value and holds no nodes, so there is little in it that
can be exported: mappings whose types are empty lists. Such an `Outline` has a document and a
declaration like those of a schema. Where a node should be and something else stands, the export
fails and shows it.
-/

namespace Conform

/-- **A schema without nodes**: the names of its fields, or those of the members of a union. -/
inductive Outline where
  | mapping (names : List String)
  | union (members : List (List String))

namespace Outline

/-- The names of the fields of a mapping whose types are empty lists. -/
def names : List (Value × Value) → Except UnsupportedNode (List String)
  | [] => return []
  | (k, .list []) :: es => return k.plainText :: (← names es)
  | (_, .list (v :: _)) :: _ => throw ⟨v⟩
  | (_, v) :: _ => throw ⟨v⟩

/-- The entries of a map. -/
def entriesOf? : Value → Option (List (Value × Value))
  | .map es => some es
  | _ => none

/-- The outline of a value: a map, or a list of maps. -/
def ofValue : Value → Except UnsupportedNode Outline
  | .map es => return .mapping (← names es)
  | .list vs =>
    match vs.mapM entriesOf? with
    | some (m :: ms) => return .union (← (m :: ms).mapM names)
    | _ => throw ⟨.list vs⟩
  | v => throw ⟨v⟩

/-- The document of a mapping of an outline. -/
def mappingDocument (others : Bool) (names : List String) : JsonSchema.Document :=
  JsonSchema.ofMapping others (names.map fun n => (n, JsonSchema.anyOf [])) []

/-- The document of an outline. -/
def jsonSchema (others : Bool) : Outline → JsonSchema.Document
  | mapping ns => mappingDocument others ns
  | union ms => JsonSchema.anyOf (ms.map (mappingDocument others))

/-- The block of a mapping of an outline. -/
def block (className : String) (names : List String) : String :=
  Declaration.mappingBlock className
    (names.map fun n => (n, Declaration.withAbsence true (Declaration.ofCandidates [])))

/-- The blocks of an outline. -/
def blocks (name : String) : Outline → List String
  | mapping ns => [block name ns]
  | union ms =>
    let classNames := (List.range ms.length).map fun i => name ++ i.repr
    (classNames.zip ms).map (fun m => block m.1 m.2) ++ [Declaration.unionBlock name classNames]

/-- The module that declares an outline under a name. -/
def declaration (o : Outline) (name : String) : String := Declaration.moduleText (o.blocks name)

end Outline

end Conform
