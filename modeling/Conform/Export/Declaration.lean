import Conform.Schema.Basic
import Conform.Text.Quoted
import Conform.Export.Name

/-!
# Declarations of typed dictionaries

A schema as the source text of declarations: a class for each mapping, and an alias for each
union of mappings. They describe what validation gives: a date is a date-time, and a field with a
default is always there. What stands for the type of a field is called its expression.

A block stands after the blocks of the mappings that it refers to. Names are made from the names
of the fields on the way, and a number is added to one that is taken already.
-/

namespace Conform

/-- **Blocks and names so far.** -/
structure DeclarationState where
  /-- The blocks of source text, in order. -/
  blocks : List String := []
  /-- The names that are taken. -/
  names : List String := []

/-- Rendering declarations. -/
abbrev Render := StateM DeclarationState

namespace Declaration

/-- Takes a name, or the next free one like it. -/
def claim (name : String) : Render String := do
  let s ← get
  let fresh := freshName s.names name
  set { s with names := s.names ++ [fresh] }
  return fresh

/-- Adds a block. -/
def addBlock (text : String) : Render Unit :=
  modify fun s => { s with blocks := s.blocks ++ [text] }

/-- A list of texts with commas between them. -/
def commas (texts : List String) : String := ", ".intercalate texts

/-- A list of expressions as alternatives. -/
def bars (texts : List String) : String := " | ".intercalate texts

/-- The expression of one of some values; without values it is the expression `usual`. -/
def literal (shown : List String) (usual : String) : String :=
  if shown.isEmpty then usual else "Literal[" ++ commas shown ++ "]"

/-- The expression of a text. -/
def ofString (r : StringRules) : String := literal ((r.allowed.getD []).map Text.quoted) "str"

/-- The expression of a number. -/
def ofNumber (r : NumberRules) : String :=
  literal ((r.allowed.getD []).map (·.text)) (if r.integer then "int" else "float")

/-- What follows the expression of something that may be null. -/
def nullMark : String := " | None"

/-- The expression of what a node accepts, given that of its values other than null. -/
def withNull (n : Node) (expression : String) : String :=
  if n.acceptsNull then expression ++ nullMark else expression

/-- The expression of a field, which may be missing. -/
def withAbsence (optional : Bool) (expression : String) : String :=
  if optional then "NotRequired[" ++ expression ++ "]" else expression

/-- Whether a field is missing from the result if it is missing from the data. -/
def isOptional (t : TypeSpec) : Bool := t.candidates.all fun n => !n.required && n.default?.isNone

/-- The expression without the mark of null, and whether it had one. -/
def splitNull (expression : String) : String × Bool :=
  let cs := expression.toList
  let mark := nullMark.toList
  if mark.isSuffixOf cs then (String.ofList (cs.take (cs.length - mark.length)), true)
  else (expression, false)

/-- The expression of a union from those of its candidates: each alternative once, and null
last. -/
def ofCandidates (expressions : List String) : String :=
  let split := expressions.map splitNull
  let distinct := split.foldl (fun ts p => if ts.contains p.1 then ts else ts ++ [p.1]) []
  bars (distinct ++ (if split.any (·.2) then ["None"] else []))

/-- The block of a mapping. Where the name of a field is no name of the language, the fields are
given as a dictionary. -/
def mappingBlock (className : String) (fields : List (String × String)) : String :=
  if fields.all fun f => isName f.1 then
    let body :=
      if fields.isEmpty then "    pass"
      else "\n".intercalate (fields.map fun f => "    " ++ f.1 ++ ": " ++ f.2)
    "class " ++ className ++ "(TypedDict):\n" ++ body
  else
    let entries := commas (fields.map fun f => Text.quoted f.1 ++ ": " ++ f.2)
    className ++ " = TypedDict(" ++ Text.quoted className ++ ", \x7b" ++ entries ++ "\x7d)"

/-- The block of a union of mappings. -/
def unionBlock (unionName : String) (variants : List String) : String :=
  unionName ++ " = " ++ bars variants

end Declaration

open Declaration

mutual
/-- **Renders a schema** under a name, and gives the name it got. -/
def Schema.declare (name : String) : Schema → Render String
  | .mapping fs => do
    let className ← claim name
    let fields ← Fields.declare className fs
    addBlock (mappingBlock className fields)
    return className
  | .union fs gs hs => do
    let unionName ← claim name
    let firstName ← claim (name ++ "0")
    let firstFields ← Fields.declare firstName fs
    addBlock (mappingBlock firstName firstFields)
    let secondName ← claim (name ++ "1")
    let secondFields ← Fields.declare secondName gs
    addBlock (mappingBlock secondName secondFields)
    let others ← Schema.declareMembers name 2 hs
    addBlock (unionBlock unionName (firstName :: secondName :: others))
    return unionName

/-- Renders the members of a union from an index on. -/
def Schema.declareMembers (name : String) (index : Nat) :
    List (List (String × TypeSpec)) → Render (List String)
  | [] => return []
  | fs :: hs => do
    let className ← claim (name ++ index.repr)
    let fields ← Fields.declare className fs
    addBlock (mappingBlock className fields)
    return className :: (← Schema.declareMembers name (index + 1) hs)

/-- The expressions of the fields of a class. -/
def Fields.declare (className : String) :
    List (String × TypeSpec) → Render (List (String × String))
  | [] => return []
  | (key, t) :: fs => do
    let expression ← TypeSpec.expression (className ++ pascalCase key) t
    let rest ← Fields.declare className fs
    return (key, withAbsence (isOptional t) expression) :: rest

/-- The expression of a type; `hint` is the name that a class in it should have. -/
def TypeSpec.expression (hint : String) : TypeSpec → Render String
  | .single n => Node.expression hint n
  | .union n m ns => do
    let first ← Node.expression (hint ++ "0") n
    let second ← Node.expression (hint ++ "1") m
    let others ← TypeSpec.candidateExpressions hint 2 ns
    return ofCandidates (first :: second :: others)

/-- The expressions of some candidates from an index on. -/
def TypeSpec.candidateExpressions (hint : String) (index : Nat) :
    List Node → Render (List String)
  | [] => return []
  | n :: ns => do
    let expression ← Node.expression (hint ++ index.repr) n
    return expression :: (← TypeSpec.candidateExpressions hint (index + 1) ns)

/-- The expression of a node. -/
def Node.expression (hint : String) : Node → Render String
  | .string p r => return withNull (.string p r) (ofString r)
  | .number p r => return withNull (.number p r) (ofNumber r)
  | .boolean p => return withNull (.boolean p) "bool"
  | .date p r => return withNull (.date p r) "datetime"
  | .object p s => do
    let name ← Schema.declare hint s
    return withNull (.object p s) name
  | .array p t c => do
    let items ← TypeSpec.expression (hint ++ "Item") t
    return withNull (.array p t c) ("list[" ++ items ++ "]")
end

/-! ## Whole modules -/

/-- **Why there is no declaration**: the name is none. -/
structure NameError where
  name : String
deriving DecidableEq, Repr

/-- The wording of a refused name. -/
def NameError.message (e : NameError) : String :=
  "Declaration name must be a Python identifier: " ++ Text.quoted e.name

namespace Declaration

/-- What a module of declarations starts with. -/
def header : String :=
  "\"\"\"Type declarations generated by shapeguard. Do not edit.\"\"\"\n\n" ++
    "from datetime import datetime\nfrom typing import Literal, NotRequired, TypedDict\n"

/-- The text of a module from its blocks. -/
def moduleText (blocks : List String) : String :=
  header ++ "\n\n" ++ "\n\n\n".intercalate blocks ++ "\n"

/-- Checks the name of a declaration. -/
def checkName (name : String) : Except NameError Unit :=
  if isName name then return () else throw ⟨name⟩

/-- The file of a declaration, relative to where `directory` is. -/
def filePath (directory name : String) : String :=
  let parts := (directory.splitOn "/").filter fun p => p != "" && p != "."
  "/".intercalate (parts ++ [snakeCase name ++ ".py"])

end Declaration

/-- **The module that declares a schema** under a name. -/
def Schema.declaration (s : Schema) (name : String) : Except NameError String := do
  checkName name
  return moduleText ((s.declare name).run {}).2.blocks

end Conform
