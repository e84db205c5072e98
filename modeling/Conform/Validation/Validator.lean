import Conform.Validation.Shared
import Conform.Value.Plain
import Conform.Value.Sorted

/-!
# Validation

A `Validator` holds a schema and the options for its calls. `Validator.validate` takes data and
gives the normalized copy, or says why there is none (`Failure`): the data violates the schema,
or something is wrong that is no violation.

Against a mapping, the data is copied into plain containers, what is missing is marked, and the
copy is walked. Against a union the mappings are tried in order and the first that accepts the
data wins. If none does, the violation of the last one stands where validation ends at the first
violation; otherwise it is said that no member fits, and the violations of the closest member
follow: the one with the fewest, and of these the earliest.

This is written down twice. `Schema.validate` takes every default for a tree, which it is in a
schema that was read from a value. In one that was read from a document a default may hold one
container in several places, and `Schema.validateShared`, by which a validator goes, is the
validation that knows about it. The two agree where nothing is shared.
-/

namespace Conform

/-- **What can go wrong that is no violation.** -/
inductive EngineError where
  | malformedSchema
  | options (e : OptionsError)
  | dateOutOfRange
  | search (e : SearchError)
  | notIterable (e : NotIterable)
deriving DecidableEq, Repr

namespace EngineError

/-- The wording of a failure that nobody expects. -/
def unexpectedly (cause : String) : String := "Validation failed unexpectedly: " ++ cause

/-- The wording of what went wrong. -/
def message : EngineError → String
  | malformedSchema => "Invalid schema"
  | options e => e.message
  | dateOutOfRange => unexpectedly InstantError.outOfRange.message
  | search e => unexpectedly e.message
  | notIterable e => unexpectedly e.message

end EngineError

/-- **Why there is no normalized copy.** -/
inductive Failure where
  | rejected (r : Rejection)
  | engine (e : EngineError)
deriving DecidableEq, Repr

/-- The outcome of a validation. -/
abbrev Validated := Except Failure Value

namespace Rejection

/-- A rejection with a single violation of the root. -/
def ofRoot (messages : Catalog) (rule : Rule) : Rejection := ⟨.ofRule messages rule "" [], []⟩

/-- The closest of some rejections: the one with the fewest violations, the earliest of these. -/
def closest (r : Rejection) (rs : List Rejection) : Rejection :=
  rs.foldl (fun best r => if r.others.length < best.others.length then r else best) r

end Rejection

/-- The outcome of a walk over the whole data. -/
def Options.conclude (o : Options) : Except Interruption (Value × List Violation) → Validated
  | .error (.violation v) => throw (.rejected ⟨v, []⟩)
  | .error .dateOutOfRange => throw (.engine .dateOutOfRange)
  | .error (.search e) => throw (.engine (.search e))
  | .ok (_, v :: vs) => throw (.rejected ⟨v, vs⟩)
  | .ok (v, []) => return if o.sortKeys then v.sortKeys else v

/-- **Validates data against a mapping.** -/
def Fields.validate (fs : Fields) (o : Options) (data : Value) : Validated :=
  match data.plain with
  | .error e => throw (.engine (.notIterable e))
  | .ok (.map es) => o.conclude (((⟨.mapping fs, o⟩ : Course).walkRoot (Fields.seed fs es)).run [])
  | .ok _ => throw (.rejected (.ofRoot o.catalog .objectType))

/-- The rejection by a union whose members have all rejected the data. -/
def Options.rejectUnion (o : Options) (rs : List Rejection) : Rejection :=
  let noMatch := Rejection.ofRoot o.catalog .union
  match rs with
  | [] => noMatch
  | r :: others =>
    if o.abortEarly then others.getLastD r
    else ⟨noMatch.first, (r.closest others).violations⟩

/-- **What the members of a union say**, given how a mapping validates the data: the result of the
first that accepts it, or the rejections of all. -/
def tryMembers (validate : Fields → Validated) :
    List Fields → Except EngineError (Value ⊕ List Rejection)
  | [] => return .inr []
  | fs :: members =>
    match validate fs with
    | .ok v => return .inl v
    | .error (.engine e) => throw e
    | .error (.rejected r) => do
      match ← tryMembers validate members with
      | .inl v => return .inl v
      | .inr rs => return .inr (r :: rs)

/-- Validates data against a schema, given how a mapping validates it. -/
def Schema.validateBy (validate : Fields → Validated) (o : Options) : Schema → Validated
  | .mapping fs => validate fs
  | .union fs gs hs =>
    match tryMembers validate (fs :: gs :: hs) with
    | .error e => throw (.engine e)
    | .ok (.inl v) => return v
    | .ok (.inr rs) => throw (.rejected (o.rejectUnion rs))

/-- What the members of a union say about data. -/
def validateMembers (o : Options) (data : Value) :
    List Fields → Except EngineError (Value ⊕ List Rejection) :=
  tryMembers fun fs => fs.validate o data

theorem validateMembers_cons (o : Options) (data : Value) (fs : Fields) (ms : List Fields) :
    validateMembers o data (fs :: ms) =
      match fs.validate o data with
      | .ok v => .ok (.inl v)
      | .error (.engine e) => .error e
      | .error (.rejected r) => do
        match ← validateMembers o data ms with
        | .inl v => return .inl v
        | .inr rs => return .inr (r :: rs) := rfl

/-- **Validates data against a schema.** -/
def Schema.validate (s : Schema) (o : Options) (data : Value) : Validated :=
  s.validateBy (fun fs => fs.validate o data) o

theorem Schema.validate_union (fs gs : Fields) (hs : List Fields) (o : Options) (data : Value) :
    (Schema.union fs gs hs).validate o data =
      match validateMembers o data (fs :: gs :: hs) with
      | .error e => .error (.engine e)
      | .ok (.inl v) => .ok v
      | .ok (.inr rs) => .error (.rejected (o.rejectUnion rs)) := rfl

/-! ## Shared containers -/

/-- **Validates data against a mapping**, whatever is shared in its defaults. -/
def Fields.validateShared (fs : Fields) (o : Options) (data : Value) : Validated :=
  match data.plain with
  | .error e => throw (.engine (.notIterable e))
  | .ok (.map es) =>
    o.conclude (((⟨.mapping fs, o⟩ : Course).walkShared (Fields.seed fs es)).run [])
  | .ok _ => throw (.rejected (.ofRoot o.catalog .objectType))

/-- **Validates data against a schema**, whatever is shared in its defaults. -/
def Schema.validateShared (s : Schema) (o : Options) (data : Value) : Validated :=
  s.validateBy (fun fs => fs.validateShared o data) o

/-! ## Validators -/

/-- **A validator**: a schema and the options that its calls use unless they bring others. -/
structure Validator where
  schema : Schema
  options : Options

namespace Validator

/-- The options of a call: those of the validator, or the call's own, with some replaced. -/
def callOptions (v : Validator) (own : Option Options) (overrides : List (String × Value)) :
    Except EngineError Options :=
  ((own.getD v.options).merged overrides).mapError fun is => .options (.malformed is)

/-- **Validates data**, with the options of the call. -/
def validate (v : Validator) (data : Value) (own : Option Options)
    (overrides : List (String × Value)) : Validated :=
  match v.callOptions own overrides with
  | .error e => throw (.engine e)
  | .ok o => v.schema.validateShared o data

end Validator

end Conform
