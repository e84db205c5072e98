import Conform.Proofs.DocumentMeaning
import Conform.Proofs.Failures

/-!
# The documents of nodes

The document of a node is written from its rules, keyword by keyword. Here the rules and the
keywords are read side by side: a value that passes the rules in normal form is described by the
document, for every kind of node but dates. Maps and lists are described if their members are.

Two things have to be asked for. The document lists the allowed texts as they were declared, and a
check compares normal forms; so these have to be in normal form themselves. And a bound is met by
what is on its near side (`Number.le`), while a check rejects what is on the far side; the datum
that is no number is on neither, so numbers have to be comparable. That they have a total order
otherwise is proved first.
-/

namespace Conform

open JsonSchema

/-! ## Numbers that can be compared -/

namespace Position

theorem align_swap (m₁ e₁ m₂ e₂ : Int) : align m₂ e₂ m₁ e₁ = (align m₁ e₁ m₂ e₂).swap := by
  unfold align
  rw [Int.min_comm]
  rfl

/-- **The places of the line are in a total order.** -/
theorem lt_or_same_of_not_lt {p q : Position} (h : q.lt p = false) :
    p.lt q = true ∨ p.same q = true := by
  cases p with
  | finite m e =>
    cases q with
    | finite m' e' =>
      have h : ¬(align m' e' m e).1 < (align m' e' m e).2 := of_decide_eq_false h
      rw [align_swap] at h
      have horder : (align m e m' e').1 < (align m e m' e').2 ∨
          (align m e m' e').1 = (align m e m' e').2 := Int.lt_or_eq_of_le (Int.not_lt.mp h)
      exact horder.imp (fun h => decide_eq_true h) (fun h => decide_eq_true h)
    | _ => first | exact .inl rfl | cases h
  | _ => cases q <;> first | exact .inl rfl | exact .inr rfl | cases h

theorem same_comm (p q : Position) : p.same q = q.same p := by
  cases p with
  | finite m e =>
    cases q with
    | finite m' e' =>
      show decide ((align m e m' e').1 = (align m e m' e').2) =
        decide ((align m' e' m e).1 = (align m' e' m e).2)
      rw [align_swap m e]
      exact decide_eq_decide.mpr eq_comm
    | _ => rfl
  | _ => cases q <;> rfl

end Position

/-- Whether a number can be compared: it is not the datum that is no number. -/
def Number.isComparable (n : Number) : Bool := n.position?.isSome

/-- Whether a value can be compared if it is a number. -/
def Value.isComparable : Value → Bool
  | .number n => n.isComparable
  | _ => true

namespace Number

variable {m n : Number}

/-- **What is not above a number** is below it or the same. -/
theorem lt_or_same_of_not_lt (hm : m.isComparable = true) (hn : n.isComparable = true)
    (h : n.lt m = false) : m.lt n = true ∨ m.same n = true := by
  obtain ⟨p, hp⟩ := Option.isSome_iff_exists.mp hm
  obtain ⟨q, hq⟩ := Option.isSome_iff_exists.mp hn
  unfold lt at h
  unfold lt same
  rw [hp, hq] at h ⊢
  exact Position.lt_or_same_of_not_lt h

theorem le_of_not_lt (hm : m.isComparable = true) (hn : n.isComparable = true)
    (h : n.lt m = false) : m.le n = true :=
  Bool.or_eq_true_iff.mpr (lt_or_same_of_not_lt hm hn h)

theorem same_comm (m n : Number) : m.same n = n.same m := by
  unfold same
  cases m.position? with
  | none => cases n.position? <;> rfl
  | some p =>
    cases n.position? with
    | none => rfl
    | some q => exact p.same_comm q

/-- A number that can be compared is found where it equals what is listed. -/
theorem alike_eq_same (hn : n.isComparable = true) : n.alike m = n.same m := by
  have hobject : n.isSameObject m = false := by
    cases n with
    | int i => rfl
    | float x =>
      cases x with
      | notANumber object => cases hn
      | _ => rfl
  rw [alike, hobject, Bool.or_false]

theorem le_natCast {i j : Nat} (h : i ≤ j) : Number.le (.int i) (.int j) = true := by
  refine le_of_not_lt rfl rfl ?_
  simpa [lt, position?, Position.lt, Position.align, pow2] using h

end Number

/-! ## Documents keyword by keyword -/

namespace JsonSchema

variable {d : Document} {v : Value}

/-- The keys that a document has properties for. -/
def Document.declared (d : Document) : List Value :=
  propertyKeys (d.map fun e => (.text e.1, e.2))

theorem declared_append (d d' : Document) :
    Document.declared (d ++ d') = d.declared ++ d'.declared := by
  unfold Document.declared propertyKeys
  rw [List.map_append, List.flatMap_append]

theorem describes_ofFields : describes (.ofFields d) v = true ↔
    ∀ e ∈ d, KeywordHolds d.declared e.1 e.2 v := by
  rw [Value.ofFields, describes_map, List.forall_mem_map]
  exact forall₂_congr (fun e _ => ⟨fun h => h _ rfl, fun h name hname => Value.text.inj hname ▸ h⟩)

theorem forall_mem_keyword? {name : String} {x : Option Value} {P : String × Value → Prop} :
    (∀ e ∈ keyword? name x, P e) ↔ ∀ y, x = some y → P (name, y) := by
  cases x with
  | none => simp [keyword?]
  | some y => simp [keyword?]

/-- An assertion is no applicator. -/
theorem Assertion.keywordHolds {declared : List Value} (a : Assertion) {x : Value}
    (h : a.holds x v = true) : KeywordHolds declared a.name x v := by
  constructor
  · intro b hb
    cases a <;> cases hb
  · intro b hb
    cases a <;> cases hb <;> exact h

/-- An applicator is no assertion. -/
theorem Applicator.keywordHolds {declared : List Value} (a : Applicator) {x : Value}
    (h : a.holds declared (describes x) (propertiesHold x) (alternativesHold x) v = true) :
    KeywordHolds declared a.name x v := by
  constructor
  · intro b hb
    cases a <;> cases hb <;> exact h
  · intro b hb
    cases a <;> cases hb

theorem keywordHolds_typed {declared : List Value} {name : String}
    (h : name ∈ typeNames v) : ∀ e ∈ typed name, KeywordHolds declared e.1 e.2 v := by
  rw [typed, List.forall_mem_singleton]
  exact Assertion.type.keywordHolds (List.contains_iff_mem.mpr h)

theorem describes_typed {name : String} (h : name ∈ typeNames v) :
    describes (.ofFields (typed name)) v = true :=
  describes_ofFields.mpr (keywordHolds_typed h)

/-- One of some alternatives is enough. -/
theorem describes_anyOf {ds : List Document} (hd : d ∈ ds) (h : describes (.ofFields d) v = true) :
    describes (.ofFields (anyOf ds)) v = true := by
  rw [describes_ofFields, anyOf, List.forall_mem_singleton]
  exact Applicator.anyOf.keywordHolds
    (alternativesHold_list.mpr ⟨_, List.mem_map_of_mem hd, h⟩)

/-! ## What the documents of nodes describe -/

/-- **A text in normal form that passes the rules** is described, if the allowed texts are in normal
form. -/
theorem describes_ofString {r : StringRules} {s : String} (h : r.Admits s)
    (hnormal : ∀ texts, r.allowed = some texts → ∀ t ∈ texts, r.normalize t = t) :
    describes (.ofFields (ofString r)) (.text s) = true := by
  rw [describes_ofFields, ofString]
  simp only [List.forall_mem_append, forall_mem_keyword?, Option.map_eq_some_iff,
    forall_exists_index, and_imp, forall_apply_eq_imp_iff₂]
  refine ⟨⟨⟨⟨keywordHolds_typed List.mem_cons_self, fun texts htexts => ?_⟩, fun n hn => ?_⟩,
    fun n hn => ?_⟩, fun p hp => ?_⟩
  · refine Assertion.enum.keywordHolds ?_
    obtain ⟨t, ht, hts⟩ := List.mem_map.mp (h.allowed texts htexts)
    rw [hnormal texts htexts t ht] at hts
    exact List.any_eq_true.mpr ⟨_, List.mem_map_of_mem (hts ▸ ht), beq_self_eq_true s⟩
  · exact Assertion.minLength.keywordHolds (Number.le_natCast (h.min n hn))
  · exact Assertion.maxLength.keywordHolds (Number.le_natCast (h.max n hn))
  · refine Assertion.pattern.keywordHolds ?_
    show occurs (.text p.source) s = true
    unfold occurs
    simp only [p.compile_source]
    rw [h.pattern p hp]
    rfl

/-- **A number that passes the rules** is described, if it and its bounds can be compared. -/
theorem describes_ofNumber {r : NumberRules} {n : Number} (h : r.Admits n)
    (hn : n.isComparable = true) (hmin : ∀ m, r.min = some m → m.isComparable = true)
    (hmax : ∀ m, r.max = some m → m.isComparable = true) :
    describes (.ofFields (ofNumber r)) (.number n) = true := by
  have hzero : NumberRules.zero.isComparable = true := rfl
  rw [describes_ofFields, ofNumber]
  simp only [List.forall_mem_append, forall_mem_keyword?, Option.map_eq_some_iff,
    forall_exists_index, and_imp, forall_apply_eq_imp_iff₂]
  refine ⟨⟨⟨keywordHolds_typed ?_, fun ns hns => ?_⟩, ?_⟩, ?_⟩
  · have htypes : typeNames (.number n) = if n.isWhole then ["number", "integer"] else ["number"] :=
      rfl
    rw [htypes]
    cases hinteger : r.integer with
    | true =>
      rw [h.integer hinteger]
      exact List.mem_cons_of_mem _ List.mem_cons_self
    | false => cases n.isWhole <;> exact List.mem_cons_self
  · refine Assertion.enum.keywordHolds ?_
    obtain ⟨m, hm, hsame⟩ := h.allowed ns hns
    rw [Number.alike_eq_same hn] at hsame
    exact List.any_eq_true.mpr ⟨_, List.mem_map_of_mem hm, hsame⟩
  · cases hbound : r.min with
    | some m =>
      rw [List.forall_mem_singleton]
      exact Assertion.minimum.keywordHolds
        (Number.le_of_not_lt (hmin m hbound) hn (h.min m hbound))
    | none =>
      cases hpositive : r.positive with
      | false => exact nofun
      | true =>
        refine List.forall_mem_singleton.mpr (Assertion.minimum.keywordHolds ?_)
        exact Number.le_of_not_lt hzero hn (h.positive hpositive)
  · cases hbound : r.max with
    | some m =>
      rw [List.forall_mem_singleton]
      exact Assertion.maximum.keywordHolds
        (Number.le_of_not_lt hn (hmax m hbound) (h.max m hbound))
    | none =>
      cases hnegative : r.negative with
      | false => exact nofun
      | true =>
        refine List.forall_mem_singleton.mpr (Assertion.exclusiveMaximum.keywordHolds ?_)
        obtain ⟨hlt, hsame⟩ := h.negative hnegative
        rcases Number.lt_or_same_of_not_lt hn hzero hlt with hbelow | hzero
        · exact hbelow
        · rw [Number.same_comm, hsame] at hzero
          cases hzero

/-- **A list of an admitted length** is described, if its items are. -/
theorem describes_ofArray {c : ItemCount} {vs : List Value} (hcount : c.Admits vs.length)
    (hitems : ∀ v ∈ vs, describes (.ofFields d) v = true) :
    describes (.ofFields (ofArray d c)) (.list vs) = true := by
  rw [describes_ofFields, ofArray]
  simp only [List.forall_mem_append, forall_mem_keyword?, Option.map_eq_some_iff,
    forall_exists_index, and_imp, forall_apply_eq_imp_iff₂, List.forall_mem_singleton]
  refine ⟨⟨⟨keywordHolds_typed List.mem_cons_self, ?_⟩, fun n hn => ?_⟩, fun n hn => ?_⟩
  · exact Applicator.items.keywordHolds (List.all_eq_true.mpr hitems)
  · exact Assertion.minItems.keywordHolds (Number.le_natCast (hcount.min n hn))
  · exact Assertion.maxItems.keywordHolds (Number.le_natCast (hcount.max n hn))

theorem declared_ofMapping (others : Bool) (ps : List (String × Document)) (names : List String) :
    (ofMapping others ps names).declared = ps.map (fun p => .text p.1) := by
  unfold ofMapping
  rw [declared_append]
  have hnames : Document.declared
      (if names.isEmpty then [] else [("required", .list (names.map .text))]) = [] := by
    cases names.isEmpty <;> rfl
  rw [hnames, List.append_nil]
  show List.map Prod.fst ((ps.map _).map _) ++ [] = _
  rw [List.append_nil, List.map_map, List.map_map]
  rfl

/-- **A map** is described if the values of its fields are, its required fields are there, and
others are there only if they may be. -/
theorem describes_ofMapping {others : Bool} {ps : List (String × Document)} {names : List String}
    {es : List (Value × Value)}
    (hfields : ∀ p ∈ ps, ∀ e ∈ es, e.1 = .text p.1 → describes (.ofFields p.2) e.2 = true)
    (hothers : others = false → ∀ e ∈ es, ∃ p ∈ ps, e.1 = .text p.1)
    (hnames : ∀ name ∈ names, ∃ e ∈ es, e.1 = .text name) :
    describes (.ofFields (ofMapping others ps names)) (.map es) = true := by
  rw [describes_ofFields, declared_ofMapping, ofMapping]
  simp only [List.forall_mem_append, List.forall_mem_cons]
  refine ⟨⟨keywordHolds_typed List.mem_cons_self, ?_, ?_, List.forall_mem_nil _⟩, ?_⟩
  · refine Applicator.properties.keywordHolds ?_
    refine propertiesHold_map.mpr (List.forall_mem_map.mpr (List.forall_mem_map.mpr ?_))
    intro p hp w hw
    obtain ⟨e, he, hkey, rfl⟩ := mem_valuesAt_map.mp hw
    exact hfields p hp e he (keyNames_iff.mp (Value.sameKey_text e.1 p.1 ▸ hkey))
  · refine Applicator.additionalProperties.keywordHolds (List.all_eq_true.mpr (fun w hw => ?_))
    cases others with
    | true => rfl
    | false =>
      obtain ⟨e, he, hother, rfl⟩ := mem_valuesAt_map.mp hw
      obtain ⟨p, hp, hkey⟩ := hothers rfl e he
      have hknown : (ps.map (fun p => Value.text p.1)).any (fun k => e.1.sameKey k) = true := by
        refine List.any_eq_true.mpr ⟨_, List.mem_map_of_mem hp, ?_⟩
        rw [Value.sameKey_text]
        exact keyNames_iff.mpr hkey
      rw [hknown] at hother
      cases hother
  · cases names.isEmpty with
    | true => exact List.forall_mem_nil _
    | false =>
      refine List.forall_mem_singleton.mpr (Assertion.required.keywordHolds ?_)
      refine List.all_eq_true.mpr (List.forall_mem_map.mpr (fun name hname => ?_))
      obtain ⟨e, he, hkey⟩ := hnames name hname
      refine List.any_eq_true.mpr ⟨e, he, ?_⟩
      rw [Value.sameKey_text]
      exact keyNames_iff.mpr hkey

/-- A default is an annotation. -/
theorem describes_withDefault (x : Option Value) (h : describes (.ofFields d) v = true) :
    describes (.ofFields (d ++ keyword? "default" x)) v = true := by
  have hdefault : Document.declared (keyword? "default" x) = [] := by cases x <;> rfl
  rw [describes_ofFields] at h ⊢
  rw [declared_append, hdefault, List.append_nil, List.forall_mem_append, forall_mem_keyword?]
  refine ⟨h, fun y _ => ⟨fun a ha => ?_, fun a ha => ?_⟩⟩ <;> cases ha

theorem describes_withPresence (n : Node) (h : describes (.ofFields d) v = true) :
    describes (.ofFields (withPresence n d)) v = true := by
  unfold withPresence
  cases n.acceptsNull with
  | true => exact describes_anyOf List.mem_cons_self (describes_withDefault _ h)
  | false => exact describes_withDefault _ h

/-- **Null** is described wherever the node accepts it. -/
theorem describes_withPresence_null {n : Node} (h : n.acceptsNull = true) :
    describes (.ofFields (withPresence n d)) .null = true := by
  unfold withPresence
  rw [if_pos h]
  exact describes_anyOf (List.mem_cons_of_mem _ List.mem_cons_self)
    (describes_typed List.mem_cons_self)

end JsonSchema

end Conform
