import Mathlib.Data.List.Induction
import Conform.Proofs.DeclarationOrder
import Conform.Proofs.Marking

/-!
# The meaning of declarations

A module of declarations is a text. What an expression in it says of values is told here by its
*meaning*: one of the types of its language, with the values that belong to it (`Meaning.holds`). A
class is one of them, with its fields and what is said of each; a value of it may have other keys
as well.

A schema has a meaning (`Schema.meaning`), and the text that is rendered for the schema spells it.
That an expression spells a meaning depends on the blocks of the module, for a class is spelled by
its name, and there has to be a block that declares it (`Meaning.Spelled`).

The blocks of a module come in an order in which each refers to earlier ones only
(`Declaration.LaidOut`). So they spell their meanings one after the other, the block of the whole
schema at last.
-/

namespace Conform

/-- **What an expression says of values.** -/
inductive Meaning where
  | text
  | truth
  | moment
  | whole
  | number
  | oneOfTexts (texts : List String)
  | oneOfNumbers (numbers : List Number)
  | list (items : Meaning)
  /-- A class: its fields, each with whether it may be missing. -/
  | dictionary (fields : List (String × Bool × Meaning))
  | orNull (usual : Meaning)
  | anyOf (alternatives : List Meaning)

mutual
/-- **Whether a value belongs to a meaning.** An integer is a number as well, and a number is one
of some numbers if it is found there (`Number.alike`). -/
def Meaning.holds : Meaning → Value → Bool
  | .text, .text _ => true
  | .truth, .bool _ => true
  | .moment, .dateTime _ => true
  | .whole, .number (.int _) => true
  | .number, .number _ => true
  | .oneOfTexts ts, .text s => ts.contains s
  | .oneOfNumbers ns, .number x => ns.any x.alike
  | .list a, .list vs => vs.all (fun v => Meaning.holds a v)
  | .dictionary fields, .map es => Meaning.fieldsHold fields es
  | .orNull a, v =>
    match v with
    | .null => true
    | v => Meaning.holds a v
  | .anyOf as, v => Meaning.anyHolds as v
  | _, _ => false
termination_by structural a => a

/-- Whether a map has the fields of a class, but for those that may be missing, and the values of
all of them belong to what the class says. -/
def Meaning.fieldsHold : List (String × Bool × Meaning) → List (Value × Value) → Bool
  | [], _ => true
  | (name, optional, a) :: fields, es =>
    (optional || Value.hasKey es name) &&
      es.all (fun e => !keyNames e.1 name || Meaning.holds a e.2) &&
      Meaning.fieldsHold fields es
termination_by structural fields => fields

/-- Whether a value belongs to one of some meanings. -/
def Meaning.anyHolds : List Meaning → Value → Bool
  | [], _ => false
  | a :: as, v => Meaning.holds a v || Meaning.anyHolds as v
termination_by structural as => as
end

/-! ## The meanings of a schema -/

namespace Meaning

/-- The meaning of what a node accepts, given that of its values other than null. -/
def withNull (n : Node) (a : Meaning) : Meaning := if n.acceptsNull then .orNull a else a

/-- The meaning of a text. -/
def ofString (r : StringRules) : Meaning :=
  match r.allowed.getD [] with
  | [] => .text
  | t :: ts => .oneOfTexts (t :: ts)

/-- The meaning of a number. -/
def ofNumber (r : NumberRules) : Meaning :=
  match r.allowed.getD [] with
  | [] => if r.integer then .whole else .number
  | n :: ns => .oneOfNumbers (n :: ns)

end Meaning

mutual
/-- **What the declaration of a schema says.** -/
def Schema.meaning : Schema → Meaning
  | .mapping fs => .dictionary (Fields.meanings fs)
  | .union fs gs hs =>
    .anyOf (.dictionary (Fields.meanings fs) :: .dictionary (Fields.meanings gs) ::
      Schema.memberMeanings hs)

/-- What the declarations of the members of a union say. -/
def Schema.memberMeanings : List (List (String × TypeSpec)) → List Meaning
  | [] => []
  | fs :: hs => .dictionary (Fields.meanings fs) :: Schema.memberMeanings hs

/-- What the class of a mapping says of its fields. -/
def Fields.meanings : List (String × TypeSpec) → List (String × Bool × Meaning)
  | [] => []
  | (name, t) :: fs =>
    (name, Declaration.isOptional t, TypeSpec.meaning t) :: Fields.meanings fs

/-- What the expression of a type says. -/
def TypeSpec.meaning : TypeSpec → Meaning
  | .single n => Node.meaning n
  | .union n m ns =>
    .anyOf (Node.meaning n :: Node.meaning m :: TypeSpec.candidateMeanings ns)

/-- What the expressions of some candidates say. -/
def TypeSpec.candidateMeanings : List Node → List Meaning
  | [] => []
  | n :: ns => Node.meaning n :: TypeSpec.candidateMeanings ns

/-- **What the expression of a node says.** -/
def Node.meaning : Node → Meaning
  | .string p r => .withNull (.string p r) (.ofString r)
  | .number p r => .withNull (.number p r) (.ofNumber r)
  | .boolean p => .withNull (.boolean p) .truth
  | .date p r => .withNull (.date p r) .moment
  | .object p s => .withNull (.object p s) (Schema.meaning s)
  | .array p t c => .withNull (.array p t c) (.list (TypeSpec.meaning t))
end

theorem Fields.meanings_eq_map (fs : Fields) : Fields.meanings fs =
    fs.map (fun f => (f.1, Declaration.isOptional f.2, f.2.meaning)) := by
  induction fs with
  | nil => rfl
  | cons f fs ih => rw [Fields.meanings, ih, List.map_cons]

/-! ## What belongs to a meaning -/

namespace Meaning

/-- **What belongs to a class**: its fields are there, but for those that may be missing, and their
values belong to what the class says of them. -/
theorem fieldsHold_iff {fields : List (String × Bool × Meaning)} {es : List (Value × Value)} :
    fieldsHold fields es = true ↔ ∀ f ∈ fields, (f.2.1 = true ∨ Value.hasKey es f.1 = true) ∧
      ∀ e ∈ es, e.1 = .text f.1 → f.2.2.holds e.2 = true := by
  induction fields with
  | nil => simp [fieldsHold]
  | cons f fields ih =>
    rw [fieldsHold, Bool.and_eq_true_iff, Bool.and_eq_true_iff, ih, Bool.or_eq_true_iff,
      List.all_eq_true, List.forall_mem_cons]
    refine and_congr_left (fun _ => and_congr_right (fun _ => forall₂_congr (fun e _ => ?_)))
    rw [Bool.or_eq_true_iff, Bool.not_eq_true', ← keyNames_iff]
    cases keyNames e.1 f.1 <;> simp

/-- A value other than null belongs to what a node says just if it belongs to what the node says of
such values. -/
theorem holds_withNull (n : Node) (a : Meaning) {v : Value} (h : v ≠ .null) :
    (withNull n a).holds v = a.holds v := by
  unfold withNull
  split
  · cases v <;> first | rfl | exact absurd rfl h
  · rfl

theorem holds_withNull_null (a : Meaning) {n : Node} (h : n.acceptsNull = true) :
    (withNull n a).holds .null = true := by
  rw [withNull, if_pos h]
  rfl

mutual

/-- **The order of keys** is nothing to a meaning. -/
theorem holds_sortKeys : ∀ (a : Meaning) (v : Value), a.holds v.sortKeys = a.holds v
  | .list a, v => by
    cases v with
    | list vs =>
      rw [Value.sortKeys, Value.sortItems_eq_map, holds, holds, List.all_map]
      exact congrArg (fun p => vs.all p) (funext (fun v => holds_sortKeys a v))
    | _ => rfl
  | .dictionary fields, v => by
    cases v with
    | map es => exact fieldsHold_sortKeys fields es
    | _ => rfl
  | .orNull a, v => by
    cases v with
    | null => rfl
    | map es => exact holds_sortKeys a (.map es)
    | list vs => exact holds_sortKeys a (.list vs)
    | _ => rfl
  | .anyOf as, v => anyHolds_sortKeys as v
  | .text, v | .truth, v | .moment, v | .whole, v | .number, v | .oneOfTexts _, v
  | .oneOfNumbers _, v => by
    cases v <;> rfl

theorem fieldsHold_sortKeys : ∀ (fields : List (String × Bool × Meaning))
    (es : List (Value × Value)),
    fieldsHold fields ((Value.sortValues es).mergeSort Value.entryLe) = fieldsHold fields es
  | [], _ => rfl
  | (name, optional, a) :: fields, es => by
    have hkey : Value.hasKey ((Value.sortValues es).mergeSort Value.entryLe) name =
        Value.hasKey es name := Value.hasKey_sortKeys es name
    have hall : ((Value.sortValues es).mergeSort Value.entryLe).all
        (fun e => !keyNames e.1 name || a.holds e.2) =
        es.all (fun e => !keyNames e.1 name || a.holds e.2) := by
      rw [(List.mergeSort_perm _ Value.entryLe).all_eq, Value.sortValues_eq_map, List.all_map]
      exact congrArg (fun p => es.all p) (funext (fun e =>
        congrArg (fun b => !keyNames e.1 name || b) (holds_sortKeys a e.2)))
    rw [fieldsHold, fieldsHold, hkey, hall, fieldsHold_sortKeys fields es]

theorem anyHolds_sortKeys : ∀ (as : List Meaning) (v : Value),
    anyHolds as v.sortKeys = anyHolds as v
  | [], _ => rfl
  | a :: as, v => by rw [anyHolds, anyHolds, holds_sortKeys a v, anyHolds_sortKeys as v]

end

end Meaning

/-! ## Spelling -/

open Declaration

mutual

/-- **An expression spells a meaning**, in a module with some blocks. -/
inductive Meaning.Spelled (blocks : List String) : Meaning → String → Prop
  | text : Meaning.Spelled blocks .text "str"
  | truth : Meaning.Spelled blocks .truth "bool"
  | moment : Meaning.Spelled blocks .moment "datetime"
  | whole : Meaning.Spelled blocks .whole "int"
  | number : Meaning.Spelled blocks .number "float"
  | oneOfTexts (ts : List String) : Meaning.Spelled blocks (.oneOfTexts ts)
    ("Literal[" ++ commas (ts.map Text.quoted) ++ "]")
  | oneOfNumbers (ns : List Number) : Meaning.Spelled blocks (.oneOfNumbers ns)
    ("Literal[" ++ commas (ns.map Number.text) ++ "]")
  | list {a : Meaning} {e : String} (h : Meaning.Spelled blocks a e) :
    Meaning.Spelled blocks (.list a) ("list[" ++ e ++ "]")
  /-- A class is spelled by its name. -/
  | dictionary {fields : List (String × Bool × Meaning)} {className : String}
    {rendered : List (String × String)} (h : Meaning.SpelledFields blocks fields rendered)
    (hblock : mappingBlock className rendered ∈ blocks) :
    Meaning.Spelled blocks (.dictionary fields) className
  | orNull {a : Meaning} {e : String} (h : Meaning.Spelled blocks a e) :
    Meaning.Spelled blocks (.orNull a) (e ++ nullMark)
  | anyOf {as : List Meaning} {es : List String} (h : Meaning.SpelledAll blocks as es) :
    Meaning.Spelled blocks (.anyOf as) (ofCandidates es)
  /-- A union of classes is spelled by its own name. -/
  | alias {as : List Meaning} {es : List String} {unionName : String}
    (h : Meaning.SpelledAll blocks as es) (hblock : unionBlock unionName es ∈ blocks) :
    Meaning.Spelled blocks (.anyOf as) unionName

/-- The fields of a class are spelled one by one, and those that may be missing are marked. -/
inductive Meaning.SpelledFields (blocks : List String) :
    List (String × Bool × Meaning) → List (String × String) → Prop
  | nil : Meaning.SpelledFields blocks [] []
  | cons {name : String} {optional : Bool} {a : Meaning} {e : String}
    {fields : List (String × Bool × Meaning)} {rendered : List (String × String)}
    (h : Meaning.Spelled blocks a e)
    (hfields : Meaning.SpelledFields blocks fields rendered) :
    Meaning.SpelledFields blocks ((name, optional, a) :: fields)
      ((name, withAbsence optional e) :: rendered)

/-- Some meanings are spelled one by one. -/
inductive Meaning.SpelledAll (blocks : List String) : List Meaning → List String → Prop
  | nil : Meaning.SpelledAll blocks [] []
  | cons {a : Meaning} {e : String} {as : List Meaning} {es : List String}
    (h : Meaning.Spelled blocks a e) (has : Meaning.SpelledAll blocks as es) :
    Meaning.SpelledAll blocks (a :: as) (e :: es)

end

section Spelling

open Meaning

variable {blocks : List String}

theorem Meaning.Spelled.withNull {a : Meaning} {e : String} (h : a.Spelled blocks e)
    (n : Node) : (Meaning.withNull n a).Spelled blocks (Declaration.withNull n e) := by
  unfold Meaning.withNull Declaration.withNull
  split
  · exact .orNull h
  · exact h

theorem Meaning.spelled_ofString (r : StringRules) :
    (Meaning.ofString r).Spelled blocks (Declaration.ofString r) := by
  unfold Meaning.ofString Declaration.ofString
  cases r.allowed.getD [] with
  | nil => exact .text
  | cons t ts => exact .oneOfTexts (t :: ts)

theorem Meaning.spelled_ofNumber (r : NumberRules) :
    (Meaning.ofNumber r).Spelled blocks (Declaration.ofNumber r) := by
  unfold Meaning.ofNumber Declaration.ofNumber
  cases r.allowed.getD [] with
  | nil =>
    cases r.integer with
    | true => exact .whole
    | false => exact .number
  | cons n ns => exact .oneOfNumbers (n :: ns)

mutual

/-- **An expression that stands for a node** spells its meaning, where the blocks that it refers to
spell theirs. -/
theorem Node.Expressed.spelled {earlier : List Block}
    (hearlier : ∀ b ∈ earlier, b.schema.meaning.Spelled blocks b.name) {n : Node} {e : String} :
    n.Expressed earlier e → n.meaning.Spelled blocks e
  | .string p r => (spelled_ofString r).withNull (.string p r)
  | .number p r => (spelled_ofNumber r).withNull (.number p r)
  | .boolean p => Spelled.truth.withNull (.boolean p)
  | .date p r => Spelled.moment.withNull (.date p r)
  | .object ⟨b, hb, hschema, hname⟩ => by
    have hb := hearlier b hb
    rw [hschema, hname] at hb
    exact hb.withNull _
  | .array h => (Spelled.list (h.spelled hearlier)).withNull _

theorem TypeSpec.Expressed.spelled {earlier : List Block}
    (hearlier : ∀ b ∈ earlier, b.schema.meaning.Spelled blocks b.name) {t : TypeSpec} {e : String} :
    t.Expressed earlier e → t.meaning.Spelled blocks e
  | .single h => h.spelled hearlier
  | .union (.cons hn (.cons hm hns)) =>
    .anyOf (.cons (hn.spelled hearlier) (.cons (hm.spelled hearlier) (hns.spelled hearlier)))

theorem TypeSpec.CandidatesExpressed.spelled {earlier : List Block}
    (hearlier : ∀ b ∈ earlier, b.schema.meaning.Spelled blocks b.name) {ns : List Node}
    {es : List String} :
    TypeSpec.CandidatesExpressed earlier ns es →
      SpelledAll blocks (TypeSpec.candidateMeanings ns) es
  | .nil => .nil
  | .cons h hns => .cons (h.spelled hearlier) (hns.spelled hearlier)

end

theorem Fields.Expressed.spelled {earlier : List Block}
    (hearlier : ∀ b ∈ earlier, b.schema.meaning.Spelled blocks b.name) {fs : Fields}
    {rendered : List (String × String)} (h : fs.Expressed earlier rendered) :
    SpelledFields blocks (Fields.meanings fs) rendered := by
  induction h with
  | nil => exact .nil
  | cons hf _ ih =>
    obtain ⟨e, he, rfl⟩ := hf
    exact .cons (he.spelled hearlier) ih

theorem Schema.MembersGoBy.spelled {earlier : List Block}
    (hearlier : ∀ b ∈ earlier, b.schema.meaning.Spelled blocks b.name) {ms : List Fields}
    {names : List String} (h : Schema.MembersGoBy earlier ms names) :
    SpelledAll blocks (Schema.memberMeanings ms) names := by
  induction h with
  | nil => exact .nil
  | cons hm _ ih =>
    obtain ⟨b, hb, hschema, rfl⟩ := hm
    have hb := hearlier b hb
    rw [hschema] at hb
    exact .cons hb ih

/-- **A block** spells its meaning, where the blocks before it spell theirs. -/
theorem Declaration.Block.StandsAfter.spelled {earlier : List Block} {b : Block}
    (h : b.StandsAfter earlier) (hb : b.text ∈ blocks)
    (hearlier : ∀ b ∈ earlier, b.schema.meaning.Spelled blocks b.name) :
    b.schema.meaning.Spelled blocks b.name := by
  cases h with
  | mapping h => exact .dictionary (h.spelled hearlier) hb
  | union h => exact .alias (h.spelled hearlier) hb

/-- **The blocks of a module** spell the meanings of the schemas that they declare. -/
theorem Declaration.LaidOut.spelled {s : Schema} {name : String} {bs : List Block}
    (h : LaidOut s name bs) : ∀ earlier later, bs = earlier ++ later → ∀ b ∈ earlier,
      b.schema.meaning.Spelled (bs.map Block.text) b.name := by
  intro earlier
  induction earlier using List.reverseRecOn with
  | nil => exact fun _ _ _ hb => by cases hb
  | append_singleton earlier b ih =>
    intro later hbs
    rw [List.append_assoc] at hbs
    have hearlier := ih _ hbs
    have hb : b ∈ bs := by
      rw [hbs]
      exact List.mem_append_right _ List.mem_cons_self
    intro c hc
    rcases List.mem_append.mp hc with hc | hc
    · exact hearlier c hc
    · rw [List.mem_singleton.mp hc]
      exact (h.standsAfter earlier b later hbs).spelled (List.mem_map_of_mem hb) hearlier

/-- **The module that declares a schema** spells what the schema's meaning says, under the name
that was asked for. -/
theorem Schema.declaration_spells {s : Schema} {name text : String}
    (h : s.declaration name = .ok text) :
    ∃ blocks, text = moduleText blocks ∧ s.meaning.Spelled blocks name := by
  obtain ⟨bs, htexts, hlaid⟩ := s.exists_laidOut name
  obtain ⟨front, root, hbs, rfl, rfl⟩ := hlaid.root
  have hspelled := hlaid.spelled bs [] (List.append_nil bs).symm root (by simp [hbs])
  unfold Schema.declaration at h
  cases hname : checkName root.name with
  | error e =>
    rw [hname] at h
    cases h
  | ok =>
    rw [hname] at h
    cases h
    exact ⟨_, congrArg moduleText htexts, hspelled⟩

end Spelling

end Conform
