import Conform.Proofs.NodeDocuments

/-!
# What the document of a number leaves out

The document of a number has a keyword for every rule but one. A sign is written as a bound, and
where a bound is given on the same side it stands in the place of the sign. Every value that passes
the rules is described either way. The converse is what is asked here, for it is what makes a
document as strict as the check behind it.

The check reads a bound by what it rejects and a keyword by what it admits, so the order of numbers
has to be read in both directions: below or equal is not above, among numbers that can be compared
(`Number.le_iff`, `Number.lt_iff`). With that, each keyword is one rule
(`JsonSchema.describes_ofNumber_iff`), and the two sides differ by the signs that are displaced
(`NumberRules.DisplacedSigns`) and by nothing else (`Node.check_number_iff_describes`).

A bound that cannot be compared is on the other side of the account. Nothing is beyond it for the
check, and nothing is within it for the document.
-/

namespace Conform

open JsonSchema

/-! ## The order of numbers in both directions -/

namespace Position

theorem not_lt_of_lt {p q : Position} (h : p.lt q = true) : q.lt p = false := by
  cases p with
  | finite m e =>
    cases q with
    | finite m' e' =>
      have h : (align m e m' e').1 < (align m e m' e').2 := of_decide_eq_true h
      show decide ((align m' e' m e).1 < (align m' e' m e).2) = false
      rw [align_swap]
      exact decide_eq_false (Int.lt_asymm h)
    | _ => first | rfl | cases h
  | _ => cases q <;> first | rfl | cases h

theorem not_lt_of_same {p q : Position} (h : p.same q = true) : q.lt p = false := by
  cases p with
  | finite m e =>
    cases q with
    | finite m' e' =>
      have h : (align m e m' e').1 = (align m e m' e').2 := of_decide_eq_true h
      show decide ((align m' e' m e).1 < (align m' e' m e).2) = false
      rw [align_swap]
      exact decide_eq_false (fun hlt => Int.ne_of_lt hlt h.symm)
    | _ => cases h
  | _ => cases q <;> first | rfl | cases h

end Position

namespace Number

variable {m n : Number}

/-- Where two numbers stand in a relation, both have a place. -/
theorem lt_iff_exists : m.lt n = true ↔
    ∃ p q, m.position? = some p ∧ n.position? = some q ∧ p.lt q = true := by
  unfold lt
  cases m.position? <;> cases n.position? <;> simp

theorem same_iff_exists : m.same n = true ↔
    ∃ p q, m.position? = some p ∧ n.position? = some q ∧ p.same q = true := by
  unfold same
  cases m.position? <;> cases n.position? <;> simp

theorem isComparable_of_position {p : Position} (h : m.position? = some p) :
    m.isComparable = true := by
  rw [isComparable, h]
  rfl

theorem not_lt_of_positions {p q : Position} (hm : m.position? = some p)
    (hn : n.position? = some q) (h : q.lt p = false) : n.lt m = false := by
  unfold lt
  rw [hm, hn]
  exact h

/-- **Below or equal is not above**, among numbers that can be compared. -/
theorem le_iff : m.le n = true ↔
    m.isComparable = true ∧ n.isComparable = true ∧ n.lt m = false := by
  constructor
  · intro h
    have hplaces : ∃ p q, m.position? = some p ∧ n.position? = some q ∧ q.lt p = false := by
      rcases Bool.or_eq_true_iff.mp h with h | h
      · obtain ⟨p, q, hm, hn, hlt⟩ := lt_iff_exists.mp h
        exact ⟨p, q, hm, hn, Position.not_lt_of_lt hlt⟩
      · obtain ⟨p, q, hm, hn, hsame⟩ := same_iff_exists.mp h
        exact ⟨p, q, hm, hn, Position.not_lt_of_same hsame⟩
    obtain ⟨p, q, hm, hn, hlt⟩ := hplaces
    exact ⟨isComparable_of_position hm, isComparable_of_position hn, not_lt_of_positions hm hn hlt⟩
  · rintro ⟨hm, hn, h⟩
    exact le_of_not_lt hm hn h

/-- **Below is neither above nor the same**, among numbers that can be compared. -/
theorem lt_iff : m.lt n = true ↔
    m.isComparable = true ∧ n.isComparable = true ∧ n.lt m = false ∧ n.same m = false := by
  constructor
  · intro h
    obtain ⟨hm, hn, hlt⟩ := le_iff.mp (Bool.or_eq_true_iff.mpr (.inl h))
    refine ⟨hm, hn, hlt, Bool.eq_false_iff.mpr (fun hsame => ?_)⟩
    rw [(le_iff.mp (Bool.or_eq_true_iff.mpr (.inr hsame))).2.2] at h
    cases h
  · rintro ⟨hm, hn, hlt, hsame⟩
    rcases lt_or_same_of_not_lt hm hn hlt with h | h
    · exact h
    · rw [same_comm, hsame] at h
      cases h

end Number

/-! ## Keywords in both directions -/

namespace JsonSchema

variable {d : Document} {v : Value}

theorem Assertion.keywordHolds_iff {declared : List Value} (a : Assertion) {x : Value} :
    KeywordHolds declared a.name x v ↔ a.holds x v = true := by
  refine ⟨fun h => h.assertion a ?_, a.keywordHolds⟩
  cases a <;> rfl

theorem Applicator.keywordHolds_iff {declared : List Value} (a : Applicator) {x : Value} :
    KeywordHolds declared a.name x v ↔
      a.holds declared (describes x) (propertiesHold x) (alternativesHold x) v = true := by
  refine ⟨fun h => h.applicator a ?_, a.keywordHolds⟩
  cases a <;> rfl

theorem keywordHolds_typed_iff {declared : List Value} {name : String} :
    (∀ e ∈ typed name, KeywordHolds declared e.1 e.2 v) ↔ name ∈ typeNames v := by
  rw [typed, List.forall_mem_singleton]
  exact Assertion.type.keywordHolds_iff.trans List.contains_iff_mem

theorem describes_anyOf_iff {ds : List Document} :
    describes (.ofFields (anyOf ds)) v = true ↔ ∃ d ∈ ds, describes (.ofFields d) v = true := by
  rw [describes_ofFields, anyOf, List.forall_mem_singleton]
  refine Applicator.anyOf.keywordHolds_iff.trans (alternativesHold_list.trans ?_)
  simp only [List.mem_map, exists_exists_and_eq_and]

theorem describes_withDefault_iff {x : Option Value} :
    describes (.ofFields (d ++ keyword? "default" x)) v = true ↔
      describes (.ofFields d) v = true := by
  refine ⟨fun h => ?_, describes_withDefault x⟩
  have hdefault : Document.declared (keyword? "default" x) = [] := by cases x <;> rfl
  rw [describes_ofFields, declared_append, hdefault, List.append_nil] at h
  exact describes_ofFields.mpr (fun e he => h e (List.mem_append_left _ he))

/-- **A default and the alternative of null** say nothing of other values. -/
theorem describes_withPresence_iff (n : Node) (hv : v ≠ .null) :
    describes (.ofFields (withPresence n d)) v = true ↔ describes (.ofFields d) v = true := by
  refine ⟨fun h => ?_, describes_withPresence n⟩
  unfold withPresence at h
  dsimp only at h
  split at h
  · obtain ⟨d', hd', h⟩ := describes_anyOf_iff.mp h
    rcases List.mem_cons.mp hd' with rfl | hd'
    · exact describes_withDefault_iff.mp h
    · -- only null is described by the alternative
      rw [List.mem_singleton.mp hd', describes_ofFields, keywordHolds_typed_iff] at h
      cases v with
      | null => exact absurd rfl hv
      | number n => cases hwhole : n.isWhole <;> simp [typeNames, hwhole] at h
      | _ => simp [typeNames] at h
  · exact describes_withDefault_iff.mp h

/-- A number is of the type that is asked for. -/
theorem mem_typeNames_number {n : Number} {integer : Bool} :
    (if integer then "integer" else "number") ∈ typeNames (.number n) ↔
      (integer = true → n.isWhole = true) := by
  have htypes : typeNames (.number n) = if n.isWhole then ["number", "integer"] else ["number"] :=
    rfl
  rw [htypes]
  cases integer <;> cases n.isWhole <;> simp

/-- **A bound or the sign in its place**: the keyword of the bound if there is one, and otherwise
that of the sign if it is asked for. -/
theorem keywordHolds_bound {declared : List Value} (a b : Assertion) (bound : Option Number)
    (sign : Bool) :
    (∀ e ∈ (match bound with
        | some m => [(a.name, .number m)]
        | none => if sign then [(b.name, natValue 0)] else [] : Document),
      KeywordHolds declared e.1 e.2 v) ↔
      (∀ m, bound = some m → a.holds (.number m) v = true) ∧
        (bound = none → sign = true → b.holds (natValue 0) v = true) := by
  cases bound with
  | some m =>
    rw [List.forall_mem_singleton, a.keywordHolds_iff]
    simp
  | none =>
    cases sign with
    | true =>
      dsimp only
      rw [if_pos rfl, List.forall_mem_singleton, b.keywordHolds_iff]
      simp
    | false => simp

/-- **What the document of a number describes**, keyword by keyword. -/
theorem describes_ofNumber_iff {r : NumberRules} {n : Number} :
    describes (.ofFields (ofNumber r)) (.number n) = true ↔
      (r.integer = true → n.isWhole = true) ∧
      (∀ ns, r.allowed = some ns → ∃ m ∈ ns, n.same m = true) ∧
      ((∀ m, r.min = some m → m.le n = true) ∧
        (r.min = none → r.positive = true → NumberRules.zero.le n = true)) ∧
      (∀ m, r.max = some m → n.le m = true) ∧
      (r.max = none → r.negative = true → n.lt NumberRules.zero = true) := by
  rw [describes_ofFields]
  generalize (ofNumber r).declared = declared
  rw [ofNumber, List.forall_mem_append, List.forall_mem_append, List.forall_mem_append, and_assoc,
    and_assoc]
  refine and_congr (keywordHolds_typed_iff.trans mem_typeNames_number)
    (and_congr ?_ (and_congr ?_ ?_))
  · rw [forall_mem_keyword?]
    simp only [Option.map_eq_some_iff, forall_exists_index, and_imp, forall_apply_eq_imp_iff₂]
    refine forall₂_congr (fun ns _ => Assertion.enum.keywordHolds_iff.trans ?_)
    refine List.any_eq_true.trans ?_
    simp only [itemsOf, List.mem_map, exists_exists_and_eq_and]
    rfl
  · exact keywordHolds_bound .minimum .minimum r.min r.positive
  · exact keywordHolds_bound .maximum .exclusiveMaximum r.max r.negative

end JsonSchema

/-! ## Signs beside bounds -/

namespace NumberRules

/-- Whether the bounds can be compared. -/
structure Comparable (r : NumberRules) : Prop where
  min : ∀ m, r.min = some m → m.isComparable = true
  max : ∀ m, r.max = some m → m.isComparable = true

/-- **The signs that a bound stands in the place of**, as a check reads them: zero is positive, but
not negative. -/
structure DisplacedSigns (r : NumberRules) (n : Number) : Prop where
  positive : r.min.isSome = true → r.positive = true → n.lt zero = false
  negative : r.max.isSome = true → r.negative = true → zero.lt n = false ∧ zero.same n = false

/-- **The rules are the keywords and the displaced signs.** -/
theorem admits_iff_describes {r : NumberRules} {n : Number} (hn : n.isComparable = true) :
    r.Admits n ∧ r.Comparable ↔
      describes (.ofFields (ofNumber r)) (.number n) = true ∧ r.DisplacedSigns n := by
  have hzero : zero.isComparable = true := rfl
  rw [describes_ofNumber_iff]
  constructor
  · rintro ⟨h, hr⟩
    have hallowed : ∀ ns, r.allowed = some ns → ∃ m ∈ ns, n.same m = true := by
      simpa only [Number.alike_eq_same hn] using h.allowed
    refine ⟨⟨h.integer, hallowed, ⟨?_, ?_⟩, ?_, ?_⟩, fun _ => h.positive, fun _ => h.negative⟩
    · exact fun m hm => Number.le_iff.mpr ⟨hr.min m hm, hn, h.min m hm⟩
    · exact fun _ hsign => Number.le_iff.mpr ⟨hzero, hn, h.positive hsign⟩
    · exact fun m hm => Number.le_iff.mpr ⟨hn, hr.max m hm, h.max m hm⟩
    · exact fun _ hsign => Number.lt_iff.mpr ⟨hn, hzero, h.negative hsign⟩
  · rintro ⟨⟨hinteger, hallowed, ⟨hmin, hpositive⟩, hmax, hnegative⟩, hsigns⟩
    have hlisted : ∀ ns, r.allowed = some ns → ∃ m ∈ ns, n.alike m = true := by
      simpa only [Number.alike_eq_same hn] using hallowed
    refine ⟨⟨hlisted, ?_, ?_, hinteger, fun hsign => ?_, fun hsign => ?_⟩, ?_, ?_⟩
    · exact fun m hm => (Number.le_iff.mp (hmin m hm)).2.2
    · exact fun m hm => (Number.le_iff.mp (hmax m hm)).2.2
    · cases hbound : r.min with
      | some m => exact hsigns.positive (by rw [hbound]; rfl) hsign
      | none => exact (Number.le_iff.mp (hpositive hbound hsign)).2.2
    · cases hbound : r.max with
      | some m => exact hsigns.negative (by rw [hbound]; rfl) hsign
      | none => exact (Number.lt_iff.mp (hnegative hbound hsign)).2.2
    · exact fun m hm => (Number.le_iff.mp (hmin m hm)).1
    · exact fun m hm => (Number.le_iff.mp (hmax m hm)).2.1

end NumberRules

/-- **The check of a number and its document** differ by the signs beside bounds: where the check
accepts a number, and the bounds can be compared, the document describes it; and where the document
describes it, the check accepts it, unless the sign is wrong and a bound on the same side has kept
it out of the document. -/
theorem Node.check_number_iff_describes (others : Bool) (p : Presence Number) (r : NumberRules)
    (site : Site) {x : Number} (hx : x.isComparable = true) :
    (Node.number p r).check site (.number x) = .ok (.number x) ∧ r.Comparable ↔
      describes (.ofFields (Node.jsonSchema others (.number p r))) (.number x) = true ∧
        r.DisplacedSigns x := by
  have haccepts : (Node.number p r).check site (.number x) = .ok (.number x) ↔ r.Admits x := by
    rw [Node.check_eq_ok_iff]
    refine ⟨?_, .number⟩
    rintro (_ | h)
    exact h
  rw [haccepts, r.admits_iff_describes hx, Node.jsonSchema,
    describes_withPresence_iff (v := .number x) _ nofun]

/-- Two, written with a point, is a positive whole number from one upwards for the check, and so it
is for the document, and its sign is right. -/
theorem Node.check_number_iff_describes_two :
    describes (.ofFields (Node.jsonSchema true (.number {}
        { min := some (.int 1), integer := true, positive := true })))
      (.number (.float (.finite false 2 0))) = true ∧
    NumberRules.DisplacedSigns { min := some (.int 1), integer := true, positive := true }
      (.float (.finite false 2 0)) := by
  refine (Node.check_number_iff_describes true {}
    { min := some (.int 1), integer := true, positive := true } ⟨⟨[]⟩, "count"⟩
    (x := .float (.finite false 2 0)) rfl).mp ⟨rfl, ?_, nofun⟩
  rintro m ⟨⟩
  rfl

/-- **A document is not exact in either direction.** Three is at most five and not negative, and of
these two rules the document has just the bound. And three is not below the datum that is no number,
so that a check lets it pass this bound, but it is not above it either. -/
theorem Node.document_not_exact :
    (¬ ∀ (raw : Value) (fs : Fields) (name : String) (p : Presence Number) (r : NumberRules)
      (others : Bool) (site : Site) (i : Int), Schema.read raw = .ok (.mapping fs) →
      (name, .single (.number p r)) ∈ fs →
      describes (.ofFields (Node.jsonSchema others (.number p r))) (.number (.int i)) = true →
      (Node.number p r).check site (.number (.int i)) = .ok (.number (.int i))) ∧
    ¬ ∀ (raw : Value) (fs : Fields) (name : String) (p : Presence Number) (r : NumberRules)
      (others : Bool) (site : Site) (i : Int), Schema.read raw = .ok (.mapping fs) →
      (name, .single (.number p r)) ∈ fs →
      (Node.number p r).check site (.number (.int i)) = .ok (.number (.int i)) →
      describes (.ofFields (Node.jsonSchema others (.number p r))) (.number (.int i)) = true := by
  constructor
  · intro hsound
    have hread : Schema.read (Value.map [(.text "x", .map [(.text "type", .text "number"),
        (.text "negative", .bool true), (.text "max", .int 5)])]) =
        .ok (.mapping [("x", .single (.number {} { max := some (.int 5), negative := true }))]) :=
      rfl
    have hthree := hsound _ _ _ _ _ true ⟨⟨[]⟩, "x"⟩ 3 hread List.mem_cons_self rfl
    cases hthree
  · intro hcomplete
    have hread : Schema.read (Value.map [(.text "x", .map [(.text "type", .text "number"),
        (.text "min", .number (.float .nan))])]) =
        .ok (.mapping [("x", .single (.number {} { min := some (.float .nan) }))]) := rfl
    have hthree := hcomplete _ _ _ _ _ true ⟨⟨[]⟩, "x"⟩ 3 hread List.mem_cons_self rfl
    cases hthree

end Conform
