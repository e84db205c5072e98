import Conform.Export.JsonSchema
import Conform.Proofs.Reordering

/-!
# The meaning of documents

A JSON-Schema document describes values. Each of its keywords says something of a value on its own:
an *assertion* looks at the value itself, an *applicator* applies documents to parts of the value.
A keyword is about one kind of value, and holds of all others. A document describes the value if
all its keywords hold (`JsonSchema.describes`).

One keyword needs to know its neighbours: `additionalProperties` is about the entries of a map whose
names are not among the `properties` of the same document. So the names of the properties are handed
to every keyword.

Only those keywords are known that exported documents have. What is missing is no restriction of
them: `default` and `format` are annotations. The equality that `enum` asks for is that of scalars,
since no list or map is ever allowed there.

The order of the keys of a map is nothing to a document (`JsonSchema.describes_reordered`).
-/

namespace Conform

/-- Below or equal; the datum that is no number is neither. -/
def Number.le (m n : Number) : Bool := m.lt n || m.same n

namespace JsonSchema

/-! ## Parts of a value -/

/-- The items of a list; other values have none. -/
def itemsOf : Value → List Value
  | .list vs => vs
  | _ => []

/-- The values of the entries of a map whose keys pass a test; other values have none. -/
def valuesAt (p : Value → Bool) : Value → List Value
  | .map es => (es.filter (fun e => p e.1)).map Prod.snd
  | _ => []

theorem mem_valuesAt_map {p : Value → Bool} {es : List (Value × Value)} {w : Value} :
    w ∈ valuesAt p (.map es) ↔ ∃ e ∈ es, p e.1 = true ∧ e.2 = w := by
  simp only [valuesAt, List.mem_map, List.mem_filter, and_assoc]

/-! ## Assertions -/

/-- **The keywords that look at the value itself.** -/
inductive Assertion where
  | type
  | enum
  | minLength
  | maxLength
  | pattern
  | minimum
  | maximum
  | exclusiveMaximum
  | minItems
  | maxItems
  | required
deriving DecidableEq, Repr

namespace Assertion

/-- Every assertion. -/
def all : List Assertion :=
  [type, enum, minLength, maxLength, pattern, minimum, maximum, exclusiveMaximum, minItems,
    maxItems, required]

/-- The name of an assertion. -/
def name : Assertion → String
  | type => "type"
  | enum => "enum"
  | minLength => "minLength"
  | maxLength => "maxLength"
  | pattern => "pattern"
  | minimum => "minimum"
  | maximum => "maximum"
  | exclusiveMaximum => "exclusiveMaximum"
  | minItems => "minItems"
  | maxItems => "maxItems"
  | required => "required"

/-- The assertion with a given name. -/
def ofName? (s : String) : Option Assertion := all.find? (·.name == s)

end Assertion

/-- The names of the types that a value has. A number without a fraction is an integer as well. -/
def typeNames : Value → List String
  | .null => ["null"]
  | .bool _ => ["boolean"]
  | .number n => if n.isWhole then ["number", "integer"] else ["number"]
  | .text _ => ["string"]
  | .list _ => ["array"]
  | .map _ => ["object"]
  | _ => []

/-- Equality of scalars. -/
def sameScalar : Value → Value → Bool
  | .null, .null => true
  | .bool a, .bool b => a == b
  | .number m, .number n => m.same n
  | .text s, .text t => s == t
  | _, _ => false

/-- Whether a value is a number that is at most another. -/
def atMost : Value → Value → Bool
  | .number m, .number n => m.le n
  | _, _ => false

/-- Whether a value is a number below another. -/
def below : Value → Value → Bool
  | .number m, .number n => m.lt n
  | _, _ => false

/-- Whether the pattern that a value spells occurs in a text. -/
def occurs : Value → String → Bool
  | .text source, s =>
    match Pattern.compile source with
    | .ok p => (p.occursIn s).toOption.getD false
    | .error _ => false
  | _, _ => false

/-- **Whether an assertion holds of a value.** -/
def Assertion.holds : Assertion → Value → Value → Bool
  | .type, .text name, v => (typeNames v).contains name
  | .type, _, _ => false
  | .enum, x, v => (itemsOf x).any (fun y => sameScalar v y)
  | .minLength, x, .text s => atMost x (natValue s.length)
  | .maxLength, x, .text s => atMost (natValue s.length) x
  | .pattern, x, .text s => occurs x s
  | .minimum, x, .number n => atMost x (.number n)
  | .maximum, x, .number n => atMost (.number n) x
  | .exclusiveMaximum, x, .number n => below (.number n) x
  | .minItems, x, .list vs => atMost x (natValue vs.length)
  | .maxItems, x, .list vs => atMost (natValue vs.length) x
  | .required, x, .map es => (itemsOf x).all (fun name => es.any (fun e => e.1.sameKey name))
  | _, _, _ => true

/-! ## Applicators -/

/-- **The keywords that apply documents to parts of a value**, or to the value itself. -/
inductive Applicator where
  | properties
  | additionalProperties
  | items
  | anyOf
deriving DecidableEq, Repr

namespace Applicator

/-- Every applicator. -/
def all : List Applicator := [properties, additionalProperties, items, anyOf]

/-- The name of an applicator. -/
def name : Applicator → String
  | properties => "properties"
  | additionalProperties => "additionalProperties"
  | items => "items"
  | anyOf => "anyOf"

/-- The applicator with a given name. -/
def ofName? (s : String) : Option Applicator := all.find? (·.name == s)

end Applicator

/-- **Whether an applicator holds of a value**, in a document with properties for some keys: told
from what its own value describes as a document, as documents for keys and as alternatives. -/
def Applicator.holds (declared : List Value) (document properties alternatives : Value → Bool)
    (v : Value) : Applicator → Bool
  | .properties => properties v
  | .additionalProperties =>
    (valuesAt (fun key => !declared.any (fun k => key.sameKey k)) v).all document
  | .items => (itemsOf v).all document
  | .anyOf => alternatives v

/-- The keys that a document has properties for. -/
def propertyKeys (keywords : List (Value × Value)) : List Value :=
  keywords.flatMap fun e =>
    match e with
    | (.text "properties", .map ps) => ps.map Prod.fst
    | _ => []

mutual
/-- **Whether a document describes a value.** -/
def describes : Value → Value → Bool
  | .bool b, _ => b
  | .map ks, v => keywordsHold (propertyKeys ks) ks v
  | _, _ => false
termination_by structural d => d

/-- Whether the keywords of a document hold of a value. One that is neither an assertion nor an
applicator does. -/
def keywordsHold (declared : List Value) : List (Value × Value) → Value → Bool
  | [], _ => true
  | (.text name, x) :: ks, v =>
    (Applicator.ofName? name).all
        (Applicator.holds declared (describes x) (propertiesHold x) (alternativesHold x) v) &&
      (Assertion.ofName? name).all (fun a => a.holds x v) && keywordsHold declared ks v
  | _ :: ks, v => keywordsHold declared ks v
termination_by structural ks => ks

/-- Whether documents for keys describe the values at these keys. -/
def propertiesHold : Value → Value → Bool
  | .map ps, v => allHold ps v
  | _, _ => false
termination_by structural ps => ps

/-- Whether each document describes the values at its key. -/
def allHold : List (Value × Value) → Value → Bool
  | [], _ => true
  | (k, d) :: ps, v => (valuesAt (fun key => key.sameKey k) v).all (describes d) && allHold ps v
termination_by structural ps => ps

/-- Whether one of some alternatives describes a value. -/
def alternativesHold : Value → Value → Bool
  | .list ds, v => anyHolds ds v
  | _, _ => false
termination_by structural ds => ds

/-- Whether one of some documents describes a value. -/
def anyHolds : List Value → Value → Bool
  | [], _ => false
  | d :: ds, v => describes d v || anyHolds ds v
termination_by structural ds => ds
end

/-! ## Keywords one by one -/

/-- **Whether a keyword holds of a value.** -/
structure KeywordHolds (declared : List Value) (name : String) (x v : Value) : Prop where
  applicator : ∀ a, Applicator.ofName? name = some a →
    a.holds declared (describes x) (propertiesHold x) (alternativesHold x) v = true
  assertion : ∀ a, Assertion.ofName? name = some a → a.holds x v = true

theorem propertiesHold_map {ps : List (Value × Value)} {v : Value} :
    propertiesHold (.map ps) v = true ↔
      ∀ p ∈ ps, ∀ w ∈ valuesAt (fun key => key.sameKey p.1) v, describes p.2 w = true := by
  rw [propertiesHold]
  induction ps with
  | nil => simp [allHold]
  | cons p ps ih => rw [allHold, Bool.and_eq_true_iff, ih, List.all_eq_true, List.forall_mem_cons]

theorem alternativesHold_list {ds : List Value} {v : Value} :
    alternativesHold (.list ds) v = true ↔ ∃ d ∈ ds, describes d v = true := by
  rw [alternativesHold]
  induction ds with
  | nil => simp [anyHolds]
  | cons d ds ih => rw [anyHolds, Bool.or_eq_true_iff, ih, List.exists_mem_cons_iff]

/-- **A document describes a value** if each of its keywords holds. -/
theorem describes_map {ks : List (Value × Value)} {v : Value} : describes (.map ks) v = true ↔
    ∀ e ∈ ks, ∀ name, e.1 = .text name → KeywordHolds (propertyKeys ks) name e.2 v := by
  rw [describes]
  generalize propertyKeys ks = declared
  induction ks with
  | nil => simp [keywordsHold]
  | cons e ks ih =>
    obtain ⟨k, x⟩ := e
    rw [List.forall_mem_cons, ← ih]
    cases k with
    | text name =>
      rw [keywordsHold, Bool.and_eq_true_iff, Bool.and_eq_true_iff, Option.all_eq_true,
        Option.all_eq_true]
      refine and_congr_left (fun _ => ⟨fun h name' hname => ?_, fun h => ?_⟩)
      · cases hname
        exact ⟨h.1, h.2⟩
      · exact ⟨(h name rfl).applicator, (h name rfl).assertion⟩
    | _ => simp [keywordsHold]

/-! ## Order of keys -/

/-- **An induction over documents** that reaches the documents in a keyword. -/
theorem document_induction {P : Value → Prop}
    (map : ∀ ks, (∀ e ∈ ks, P e.2 ∧ (∀ ps, e.2 = .map ps → ∀ p ∈ ps, P p.2) ∧
      ∀ ds, e.2 = .list ds → ∀ d ∈ ds, P d) → P (.map ks))
    (other : ∀ d, (∀ ks, d ≠ .map ks) → P d) (d : Value) : P d := by
  have hall : P d ∧ (∀ ps, d = .map ps → ∀ p ∈ ps, P p.2) ∧ ∀ ds, d = .list ds → ∀ d ∈ ds, P d := by
    induction d using Value.members_induction with
    | map ks ih =>
      refine ⟨map ks ih, fun ps hps p hp => ?_, nofun⟩
      cases hps
      exact (ih p hp).1
    | list ds ih =>
      refine ⟨other _ nofun, nofun, fun ds' hds d hd => ?_⟩
      cases hds
      exact (ih d hd).1
    | other d hleaf =>
      refine ⟨other d ?_, ?_, ?_⟩
      all_goals
        rintro _ rfl
        cases hleaf
  exact hall.1

section Order

variable {v w : Value}

/-- Every item of a reordered list is a reordered item. -/
theorem exists_item_of_reordered (h : v.Reordered w) {u : Value} (hu : u ∈ itemsOf w) :
    ∃ t ∈ itemsOf v, t.Reordered u := by
  cases h with
  | refl => exact ⟨u, hu, .refl u⟩
  | list h => exact exists_of_forall₂_right h hu
  | map => cases hu

/-- Every value in a reordered map is a reordered value of the same key. -/
theorem exists_value_of_reordered (h : v.Reordered w) {p : Value → Bool} {u : Value}
    (hu : u ∈ valuesAt p w) : ∃ t ∈ valuesAt p v, t.Reordered u := by
  cases h with
  | refl => exact ⟨u, hu, .refl u⟩
  | list => cases hu
  | map hentries hperm =>
    obtain ⟨e, he, hkey, rfl⟩ := mem_valuesAt_map.mp hu
    obtain ⟨f, hf, hfe⟩ := exists_of_forall₂_right hentries (hperm.mem_iff.mpr he)
    cases hfe with
    | value key hvalue => exact ⟨_, mem_valuesAt_map.mpr ⟨_, hf, hkey, rfl⟩, hvalue⟩

/-- **Assertions** do not depend on the order of keys. -/
theorem Assertion.holds_reordered (h : v.Reordered w) (a : Assertion) (x : Value) :
    a.holds x v = a.holds x w := by
  cases h with
  | refl => rfl
  | list h =>
    have hlength := h.length_eq
    cases a <;> cases x <;> simp [holds, typeNames, sameScalar, hlength]
  | @map es fs gs hentries hperm =>
    have hkeys : ∀ name : Value, es.any (fun e => e.1.sameKey name) =
        gs.any (fun e => e.1.sameKey name) := by
      intro name
      have hmap : ∀ l : List (Value × Value), l.any (fun e => e.1.sameKey name) =
          (l.map Prod.fst).any (fun k => k.sameKey name) := fun l => by rw [List.any_map]; rfl
      rw [hmap, hmap, Value.keys_eq hentries]
      exact (hperm.map Prod.fst).any_eq
    cases a <;> cases x <;> simp [holds, typeNames, sameScalar, hkeys]

/-- **What a document describes** does not depend on the order of keys. -/
theorem describes_reordered {d : Value} (h : v.Reordered w) (hv : describes d v = true) :
    describes d w = true := by
  induction d using document_induction generalizing v w with
  | map ks ih =>
    rw [describes_map] at hv ⊢
    intro e he name hname
    obtain ⟨happlicator, hassertion⟩ := hv e he name hname
    refine ⟨fun a ha => ?_, fun a ha => by rw [← a.holds_reordered h]; exact hassertion a ha⟩
    have hholds := happlicator a ha
    obtain ⟨hdocument, hproperties, halternatives⟩ := ih e he
    generalize e.2 = x at hholds hdocument hproperties halternatives
    cases a with
    | properties =>
      cases x with
      | map ps =>
        refine propertiesHold_map.mpr (fun p hp u hu => ?_)
        obtain ⟨t, ht, htu⟩ := exists_value_of_reordered h hu
        exact hproperties ps rfl p hp htu (propertiesHold_map.mp hholds p hp t ht)
      | _ => cases hholds
    | additionalProperties =>
      refine List.all_eq_true.mpr (fun u hu => ?_)
      obtain ⟨t, ht, htu⟩ := exists_value_of_reordered h hu
      exact hdocument htu (List.all_eq_true.mp hholds t ht)
    | items =>
      refine List.all_eq_true.mpr (fun u hu => ?_)
      obtain ⟨t, ht, htu⟩ := exists_item_of_reordered h hu
      exact hdocument htu (List.all_eq_true.mp hholds t ht)
    | anyOf =>
      cases x with
      | list ds =>
        obtain ⟨d, hd, hdescribes⟩ := alternativesHold_list.mp hholds
        exact alternativesHold_list.mpr ⟨d, hd, halternatives ds rfl d hd h hdescribes⟩
      | _ => cases hholds
  | other d hmap =>
    cases d with
    | map ks => exact absurd rfl (hmap ks)
    | bool b => exact hv
    | _ => cases hv

end Order

end JsonSchema

end Conform
