import Conform.Schema.Reading
import Conform.Violation.Message

/-!
# Options

How a validation is carried out: whether it ends at the first violation, what becomes of data
that the schema does not declare, whether the keys of the result are sorted, and messages that
take the place of the usual ones.

Options are read from a map. Messages may be nested by category, `string: {min: …}`, and are
flattened to `string.min: …`. `Options.merged` reads them anew with some of them replaced.
-/

namespace Conform

/-- **Options of a validation.** -/
structure Options where
  /-- End at the first violation. -/
  abortEarly : Bool := true
  /-- Drop what the schema does not declare. -/
  stripUnknown : Bool := false
  /-- Sort the keys of every map of the result. -/
  sortKeys : Bool := false
  /-- Messages by the names of their rules. -/
  errorMessages : List (String × String) := []
deriving DecidableEq, Repr

/-- **Why options are refused.** -/
inductive OptionsError where
  /-- They are no map. -/
  | noMapping (typeName : String)
  | malformed (issues : List Issue)
deriving DecidableEq, Repr

/-- The wording of a refusal. -/
def OptionsError.message : OptionsError → String
  | noMapping name => "Options must be a mapping or ValidateOptions, got " ++ name
  | malformed _ => "Invalid validation options"

namespace Options

/-- The names of the options. -/
def fieldNames : List String := ["abort_early", "strip_unknown", "sort_keys", "error_messages"]

/-- Messages with those of a category put beside the others. -/
def flatten (es : Entries) : Entries :=
  es.foldl (fun flat e =>
    match e.2 with
    | .map nested => nested.foldl (fun flat r =>
        Value.setEntry flat (.text (e.1.plainText ++ "." ++ r.1.plainText)) r.2) flat
    | v => Value.setEntry flat e.1 v) []

/-- Messages by the names of their rules. -/
def readMessageEntries : Entries → Reading (List (String × String))
  | [] => .ok []
  | (k, v) :: es =>
    .zipWith List.cons (.zipWith Prod.mk (Reading.key k) ((Reading.text v).below (placeText k)))
      (readMessageEntries es)

/-- The messages of a map, which may be nested. -/
def readMessages : Value → Reading (List (String × String))
  | .map es => Reading.ofEntries <$> readMessageEntries (flatten es)
  | _ => .issue .dictType

/-- Options from the entries of a map. -/
def readEntries (es : Entries) : Reading Options :=
  (fun o _ => o) <$>
    (Options.mk <$> Reading.field es "abort_early" true Reading.bool
      <*> Reading.field es "strip_unknown" false Reading.bool
      <*> Reading.field es "sort_keys" false Reading.bool
      <*> Reading.field es "error_messages" [] readMessages)
    <*> Reading.knownFields fieldNames es es

/-- The issues of a fault. -/
def issuesOf : Fault → List Issue
  | .issues is => is
  | .overflow _ => []

/-- **Options from a value**, which has to be a map of options. -/
def read (v : Value) : Except (List Issue) Options :=
  match v with
  | .map es => ((readEntries es).toExcept).mapError issuesOf
  | _ => throw [.here .modelType]

/-- **Options as a caller may give them**: none at all stand for the usual ones. -/
def ofValue (v : Value) : Except OptionsError Options :=
  match v with
  | .null => return {}
  | .map es => ((readEntries es).toExcept).mapError (.malformed ∘ issuesOf)
  | v => throw (.noMapping v.typeName)

/-- Options as a map. -/
def toEntries (o : Options) : Entries :=
  [(.text "abort_early", .bool o.abortEarly), (.text "strip_unknown", .bool o.stripUnknown),
    (.text "sort_keys", .bool o.sortKeys),
    (.text "error_messages", .ofFields (o.errorMessages.map fun m => (m.1, .text m.2)))]

/-- The options that are given a value other than null. -/
def updates (overrides : List (String × Value)) : Entries :=
  overrides.filterMap fun (name, v) =>
    match v with
    | .null => none
    | v => some (.text name, v)

/-- **Options with some of them replaced.** Nulls replace nothing. -/
def merged (o : Options) (overrides : List (String × Value)) : Except (List Issue) Options :=
  match updates overrides with
  | [] => return o
  | us =>
    ((readEntries (us.foldl (fun es u => Value.setEntry es u.1 u.2) o.toEntries)).toExcept).mapError
      issuesOf

/-- The messages as a catalog. -/
def catalog (o : Options) : Catalog := ⟨o.errorMessages⟩

end Options

end Conform
