import Conform.Document.Json
import Conform.Document.Yaml.Reading
import Conform.Options
import Conform.Text.Casing

/-!
# Loading schemas and options

Schemas and options are kept in documents. A document of a schema holds a mapping of fields or a
list of mappings; only this shape is looked at here, and what the fields are is found out when
the schema is read. A document of options may be empty.

The format of a file is told by its extension, in capitals or small letters. That a file is
missing is reported before anything else.
-/

namespace Conform

/-- **What a document is for.** -/
inductive DocumentUse where
  | schema
  | options
deriving DecidableEq, Repr

/-- The title of a use in messages. -/
def DocumentUse.title : DocumentUse → String
  | schema => "Schema"
  | options => "Options"

/-- **Why nothing can be loaded.** -/
inductive LoadError where
  | missingFile (use : DocumentUse) (name : String)
  | unknownExtension (extension : String)
  | unknownFormat (name : String)
  | fault (format : DocumentFormat) (f : DocumentFault)
  /-- The document holds neither a mapping nor a list. -/
  | noSchema (shape : String)
  /-- A member of the list is no mapping. -/
  | noMapping (index : Nat) (typeName : String)
  | invalidOptions (file : String) (issues : List Issue)
deriving DecidableEq, Repr

/-- The wording of a failure to load. -/
def LoadError.message : LoadError → String
  | missingFile use name => use.title ++ " file not found: " ++ name
  | unknownExtension e => "Unsupported file extension: " ++ e ++ ". Use .yaml, .yml, or .json"
  | unknownFormat name => "Unsupported format: " ++ name ++ ". Use 'yaml' or 'json'"
  | fault format f => f.message format
  | noSchema shape => "Schema must be a mapping of fields or a list of mappings, got " ++ shape
  | noMapping index name =>
    "Schema union member " ++ index.repr ++ " must be a mapping, got " ++ name
  | invalidOptions file _ => OptionsError.message (.malformed []) ++ " in " ++ file

/-- What is loaded. -/
abbrev Loaded (α : Type) := Except LoadError α

/-! ## Documents -/

/-- **What a document of a format holds.** Only YAML has aliases. -/
def DocumentFormat.read (format : DocumentFormat) (content : String) : Parsed RawDocument :=
  match format with
  | .yaml => Yaml.read content
  | .json => do return { value := ← Yaml.orMalformed (Json.read content) }

/-- What a document holds. -/
def loadDocument (format : DocumentFormat) (content : String) : Loaded RawDocument :=
  (format.read content).mapError (.fault format)

/-- What the shape of a value is called that is no schema. -/
def shapeName : Value → String
  | .null => "empty document"
  | v => v.typeName

/-- Checks that the members of a list are mappings, the first of them at an index. -/
def checkMembers (index : Nat) : List Value → Loaded Unit
  | [] => return ()
  | .map _ :: vs => checkMembers (index + 1) vs
  | v :: _ => throw (.noMapping index v.typeName)

/-- Checks that a value has the shape of a schema. -/
def checkShape (v : Value) : Loaded Unit :=
  match v with
  | .map _ => return ()
  | .list vs => checkMembers 0 vs
  | v => throw (.noSchema (shapeName v))

/-- The schema in a document, which has not been read yet. -/
def loadSchema (format : DocumentFormat) (content : String) : Loaded RawDocument := do
  let raw ← loadDocument format content
  checkShape raw.value
  return raw

/-- **The schema in a document** whose format is named. -/
def loadSchemaAs (formatName content : String) : Loaded RawDocument :=
  match DocumentFormat.ofName? formatName with
  | some format => loadSchema format content
  | none => throw (.unknownFormat formatName)

/-! ## Files -/

/-- **A file**: its name, and its content if it exists. -/
structure File where
  name : String
  content? : Option String

namespace File

/-- The extension of a file name: its last dot and what follows, neither at the start nor at the
end of the name. -/
def extension (f : File) : String :=
  let name := ((f.name.splitOn "/").getLastD "").toList
  let tail := (name.reverse.takeWhile (· != '.')).reverse
  if tail.isEmpty || name.length ≤ tail.length + 1 then ""
  else String.ofList ('.' :: tail)

/-- The formats by their extensions. -/
def formats : List (String × DocumentFormat) :=
  [(".yaml", .yaml), (".yml", .yaml), (".json", .json)]

/-- The format and the content of a file. -/
def open? (use : DocumentUse) (f : File) : Loaded (DocumentFormat × String) :=
  match f.content? with
  | none => throw (.missingFile use f.name)
  | some content =>
    match formats.lookup (Text.lower f.extension) with
    | some format => return (format, content)
    | none => throw (.unknownExtension f.extension)

/-- **The schema in a file**, which has not been read yet. -/
def loadSchema (f : File) : Loaded RawDocument := do
  let (format, content) ← f.open? .schema
  Conform.loadSchema format content

/-- **The options in a file.** -/
def loadOptions (f : File) : Loaded Options := do
  let (format, content) ← f.open? .options
  match (← loadDocument format content).value with
  | .null => return {}
  | v => (Options.read v).mapError (.invalidOptions f.name)

end File

end Conform
