import Conform.Schema.Reading

/-!
# Bounds on dates in a schema that is read

A raw schema may give texts as bounds on dates, at any depth (`Schema.GivesBound`). Each of them is
read, whatever else is wrong, and a fault below is a fault of the whole: so a text that names no
instant makes the reading of the schema fail. Of the faults of such texts one prevails over all
others, that of a date which leaves the calendar in universal time: it is an overflow, and an
overflow ends the reading at once (`Schema.failsWith_of_givesBound`).

Conversely, the reading of a schema ends in the overflow of a date only if it gives such a text
(`Schema.overflowsFor_ofValue`), for nothing but a bound on dates overflows so.
-/

namespace Conform

open Reading

/-! ## Texts as bounds -/

namespace DateBound

theorem ofText_eq_error_iff {s : String} {e : InstantError} :
    ofText s = .error e ↔ instantOfText s = .error e := by
  unfold ofText
  split
  next i hi => exact ⟨nofun, fun h => nomatch hi.symm.trans h⟩
  next e' he =>
    constructor
    · rintro ⟨⟩
      exact he
    · intro h
      cases h.symm.trans he
      rfl

end DateBound

/-- **A text as a bound** is read if it names an instant. If it names one off the calendar there is
an overflow, and if it names none there is an issue. -/
theorem Reading.dateBound_eq {v : Value} {s : String} (h : Coercion.text v = .ok s) :
    dateBound v = match DateBound.ofText s with
      | .ok b => ok b
      | .error .outOfRange => failed (.overflow .date)
      | .error _ => issue .refused := by
  unfold dateBound Reading.text
  rw [h]
  rfl

/-! ## Bounds that are given -/

mutual

/-- **A text that a raw schema gives as a bound on dates**, at any depth. -/
inductive Schema.GivesBound : Value → String → Prop
  | field {es : Entries} {k v : Value} {s : String} (hmem : (k, v) ∈ es)
    (h : TypeSpec.GivesBound v s) : Schema.GivesBound (.map es) s
  | list {vs : List Value} {es : Entries} {s : String} (hmem : .map es ∈ vs)
    (h : Schema.GivesBound (.map es) s) : Schema.GivesBound (.list vs) s
  | tuple {vs : List Value} {es : Entries} {s : String} (hmem : .map es ∈ vs)
    (h : Schema.GivesBound (.map es) s) : Schema.GivesBound (.tuple vs) s

/-- A text that a raw type gives as a bound on dates. -/
inductive TypeSpec.GivesBound : Value → String → Prop
  | single {es : Entries} {s : String} (h : Node.GivesBound es s) : TypeSpec.GivesBound (.map es) s
  | list {vs : List Value} {es : Entries} {s : String} (hmem : .map es ∈ vs)
    (h : Node.GivesBound es s) : TypeSpec.GivesBound (.list vs) s
  | tuple {vs : List Value} {es : Entries} {s : String} (hmem : .map es ∈ vs)
    (h : Node.GivesBound es s) : TypeSpec.GivesBound (.tuple vs) s

/-- A text that a raw node gives as a bound on dates. -/
inductive Node.GivesBound : Entries → String → Prop
  | bound {es : Entries} {name : String} {v : Value} {s : String}
    (hkind : Kind.named? es = some .date) (hname : name ∈ Kind.date.ruleNames)
    (hget : entryNamed? es name = some v) (htext : Coercion.text v = .ok s) : Node.GivesBound es s
  | properties {es : Entries} {v : Value} {s : String} (hkind : Kind.named? es = some .object)
    (hget : entryNamed? es "properties" = some v) (h : Schema.GivesBound v s) :
    Node.GivesBound es s
  | items {es : Entries} {v : Value} {s : String} (hkind : Kind.named? es = some .array)
    (hget : entryNamed? es "items" = some v) (h : TypeSpec.GivesBound v s) : Node.GivesBound es s

end

/-! ## Faults that prevail -/

/-- **A sort of faults that prevails**: joined with another fault, or seen from further out, a fault
of this sort still is one. -/
structure Fault.Prevails (P : Fault → Prop) : Prop where
  and_left : ∀ f g : Fault, P f → P (f.and g)
  and_right : ∀ f g : Fault, P g → P (f.and g)
  below : ∀ (key : String) (f : Fault), P f → P (f.below key)

/-- An overflow ends the reading at once. -/
theorem Fault.prevails_overflow (condition : Prop) :
    Fault.Prevails (fun f => condition → ∃ x, f = .overflow x) where
  and_left f g hf h := by
    obtain ⟨x, rfl⟩ := hf h
    exact ⟨x, rfl⟩
  and_right f g hg h := by
    obtain ⟨x, rfl⟩ := hg h
    cases f with
    | overflow y => exact ⟨y, rfl⟩
    | issues _ => exact ⟨x, rfl⟩
  below key f hf h := by
    obtain ⟨x, rfl⟩ := hf h
    exact ⟨x, rfl⟩

namespace Reading

variable {α β γ : Type} {P : Fault → Prop}

/-- **A reading that fails** with a fault of some sort. -/
def FailsWith (P : Fault → Prop) (r : Reading α) : Prop := ∃ f, r = failed f ∧ P f

variable {r : Reading α} {s : Reading β}

theorem FailsWith.zipWith_left (hP : Fault.Prevails P) (f : α → β → γ) (h : FailsWith P r) :
    FailsWith P (zipWith f r s) := by
  obtain ⟨e, rfl, he⟩ := h
  cases s with
  | ok b => exact ⟨e, rfl, he⟩
  | failed e' => exact ⟨_, rfl, hP.and_left e e' he⟩

theorem FailsWith.zipWith_right (hP : Fault.Prevails P) (f : α → β → γ) (h : FailsWith P s) :
    FailsWith P (zipWith f r s) := by
  obtain ⟨e, rfl, he⟩ := h
  cases r with
  | ok a => exact ⟨e, rfl, he⟩
  | failed e' => exact ⟨_, rfl, hP.and_right e' e he⟩

theorem FailsWith.seq_left {g : Reading (α → β)} (hP : Fault.Prevails P) (h : FailsWith P g) :
    FailsWith P (g <*> r) := h.zipWith_left hP _

theorem FailsWith.seq_right {g : Reading (α → β)} (hP : Fault.Prevails P) (h : FailsWith P r) :
    FailsWith P (g <*> r) := h.zipWith_right hP _

theorem failsWith_map_iff (f : α → β) : FailsWith P (f <$> r) ↔ FailsWith P r := by
  cases r with
  | ok a => exact ⟨nofun, nofun⟩
  | failed e =>
    constructor
    · rintro ⟨_, ⟨⟩, he⟩
      exact ⟨e, rfl, he⟩
    · rintro ⟨_, ⟨⟩, he⟩
      exact ⟨e, rfl, he⟩

theorem FailsWith.map (f : α → β) (h : FailsWith P r) : FailsWith P (f <$> r) :=
  (failsWith_map_iff f).mpr h

theorem FailsWith.below (hP : Fault.Prevails P) (key : String) (h : FailsWith P r) :
    FailsWith P (r.below key) := by
  obtain ⟨e, rfl, he⟩ := h
  exact ⟨_, rfl, hP.below key e he⟩

theorem FailsWith.andThen (f : α → Reading β) (h : FailsWith P r) : FailsWith P (r.andThen f) := by
  obtain ⟨e, rfl, he⟩ := h
  exact ⟨e, rfl, he⟩

end Reading

/-! ## The fields of a node -/

theorem Reading.entryNamed?_cons (k v : Value) (es : Entries) (name : String) :
    entryNamed? ((k, v) :: es) name =
      if k.sameKey (.text name) then some v else entryNamed? es name := by
  unfold entryNamed? Value.entry?
  rw [List.find?_cons]
  cases k.sameKey (.text name) <;> rfl

/-- The body of an object is its properties. -/
theorem NodeBody.read_object (es : Entries) : NodeBody.read .object es =
    match entryNamed? es "properties" with
    | some v => NodeBody.properties <$> (Schema.ofValue v).below "properties"
    | none => ok .plain := by
  induction es with
  | nil => rfl
  | cons e es ih =>
    rw [NodeBody.read, entryNamed?_cons, ih]
    split <;> rfl

/-- The body of an array is the type of its items. -/
theorem NodeBody.read_array (es : Entries) : NodeBody.read .array es =
    match entryNamed? es "items" with
    | some v => NodeBody.items <$> (TypeSpec.read v).below "items"
    | none => ok .plain := by
  induction es with
  | nil => rfl
  | cons e es ih =>
    rw [NodeBody.read, entryNamed?_cons, ih]
    split <;> rfl

section Fails

variable {P : Fault → Prop} {es : Entries}

/-- **A node with a body that cannot be read** cannot be read. -/
theorem Node.failsWith_of_body (hP : Fault.Prevails P) {k : Kind} {body : Reading NodeBody}
    (hk : k = .object ∨ k = .array) (h : FailsWith P body) :
    FailsWith P (Node.ofEntries k es body) := by
  rcases hk with rfl | rfl
  · exact (((h.andThen _).seq_right hP).map _).seq_left hP |>.seq_left hP
  · exact ((((h.andThen _).seq_right hP).seq_left hP).map _).seq_left hP |>.seq_left hP

/-- **A date node with a bound that cannot be read** cannot be read. -/
theorem Node.failsWith_of_bound (hP : Fault.Prevails P) {name s : String} {v : Value}
    {body : Reading NodeBody} (hname : name ∈ Kind.date.ruleNames)
    (hget : entryNamed? es name = some v) (htext : Coercion.text v = .ok s)
    (h : FailsWith P (dateBound v)) : FailsWith P (Node.ofEntries .date es body) := by
  have hne : v ≠ .null := by
    rintro rfl
    cases htext
  have hfield : FailsWith P (optionalField es name dateBound) := by
    have hnullable : Reading.nullable dateBound v = some <$> dateBound v := by
      cases v <;> first | rfl | exact absurd rfl hne
    unfold optionalField field
    rw [hget]
    dsimp only
    rw [hnullable]
    exact (h.map some).below hP name
  have hrules : FailsWith P (DateRules.read es) := by
    rcases List.mem_cons.mp hname with rfl | hname
    · exact (hfield.map _).seq_left hP
    · rw [List.mem_singleton.mp hname] at hfield
      exact hfield.seq_right hP
  exact ((hrules.seq_right hP).map _).seq_left hP |>.seq_left hP

end Fails

/-! ## A bound that cannot be read -/

section Gives

variable {P : Fault → Prop} (hP : Fault.Prevails P)

include hP

theorem Fields.failsWith_of_mem {es : Entries} {k v : Value} (hmem : (k, v) ∈ es)
    (h : FailsWith P (TypeSpec.read v)) : FailsWith P (Fields.read es) := by
  induction es with
  | nil => cases hmem
  | cons e es ih =>
    obtain ⟨k', v'⟩ := e
    rcases List.mem_cons.mp hmem with heq | hmem
    · obtain ⟨rfl, rfl⟩ := Prod.mk.inj heq
      exact ((h.below hP _).zipWith_right hP _).zipWith_left hP _
    · exact (ih hmem).zipWith_right hP _

/-- A mapping that cannot be read, as a member of a union. -/
theorem Schema.failsWith_of_member {vs : List Value} {es : Entries} (hmem : .map es ∈ vs)
    (h : FailsWith P (Schema.ofValue (.map es))) : FailsWith P (Schema.readMembers vs) := by
  induction vs with
  | nil => cases hmem
  | cons v vs ih =>
    rcases List.mem_cons.mp hmem with rfl | hrest
    · exact (((failsWith_map_iff _).mp h).map _).zipWith_left hP _
    · cases v <;> exact (ih hrest).zipWith_right hP _

/-- A node that cannot be read, as a candidate of a union. -/
theorem TypeSpec.failsWith_of_candidate {vs : List Value} {es : Entries} {k : Kind}
    (hmem : .map es ∈ vs) (hkind : Kind.named? es = some k)
    (h : FailsWith P (Node.ofEntries k es (NodeBody.read k es))) :
    FailsWith P (TypeSpec.readCandidates vs) := by
  induction vs with
  | nil => cases hmem
  | cons v vs ih =>
    rcases List.mem_cons.mp hmem with rfl | hrest
    · rw [TypeSpec.readCandidates, hkind]
      exact h.zipWith_left hP _
    · cases v <;> exact (ih hrest).zipWith_right hP _

mutual

/-- **A bound that cannot be read** makes the reading of the schema fail. -/
theorem Schema.failsWith_of_givesBound {s : String}
    (hs : ∀ v, Coercion.text v = .ok s → FailsWith P (dateBound v)) :
    ∀ {v : Value}, Schema.GivesBound v s → FailsWith P (Schema.ofValue v)
  | _, .field hmem h =>
    (Fields.failsWith_of_mem hP hmem (TypeSpec.failsWith_of_givesBound hs h)).map _
  | _, .list hmem h =>
    (Schema.failsWith_of_member hP hmem (Schema.failsWith_of_givesBound hs h)).andThen _
  | _, .tuple hmem h =>
    (Schema.failsWith_of_member hP hmem (Schema.failsWith_of_givesBound hs h)).andThen _

theorem TypeSpec.failsWith_of_givesBound {s : String}
    (hs : ∀ v, Coercion.text v = .ok s → FailsWith P (dateBound v)) :
    ∀ {v : Value}, TypeSpec.GivesBound v s → FailsWith P (TypeSpec.read v)
  | _, .single h => by
    obtain ⟨k, hkind, hfails⟩ := Node.failsWith_of_givesBound hs h
    rw [TypeSpec.read, hkind]
    exact hfails.map _
  | _, .list hmem h => by
    obtain ⟨k, hkind, hfails⟩ := Node.failsWith_of_givesBound hs h
    exact (TypeSpec.failsWith_of_candidate hP hmem hkind hfails).andThen _
  | _, .tuple hmem h => by
    obtain ⟨k, hkind, hfails⟩ := Node.failsWith_of_givesBound hs h
    exact (TypeSpec.failsWith_of_candidate hP hmem hkind hfails).andThen _

theorem Node.failsWith_of_givesBound {s : String}
    (hs : ∀ v, Coercion.text v = .ok s → FailsWith P (dateBound v)) :
    ∀ {es : Entries}, Node.GivesBound es s →
      ∃ k, Kind.named? es = some k ∧ FailsWith P (Node.ofEntries k es (NodeBody.read k es))
  | es, .bound hkind hname hget htext =>
    ⟨_, hkind, Node.failsWith_of_bound hP hname hget htext (hs _ htext)⟩
  | es, .properties hkind hget h => by
    refine ⟨_, hkind, Node.failsWith_of_body hP (.inl rfl) ?_⟩
    rw [NodeBody.read_object, hget]
    exact ((Schema.failsWith_of_givesBound hs h).below hP _).map _
  | es, .items hkind hget h => by
    refine ⟨_, hkind, Node.failsWith_of_body hP (.inr rfl) ?_⟩
    rw [NodeBody.read_array, hget]
    exact ((TypeSpec.failsWith_of_givesBound hs h).below hP _).map _

end

end Gives

/-- **A text that names no instant makes the reading of the schema fail**, and with an overflow if
it names one off the calendar. -/
theorem Schema.read_of_givesBound {v : Value} {s : String} {e : InstantError}
    (h : Schema.GivesBound v s) (hs : instantOfText s = .error e) :
    ∃ f, Schema.ofValue v = .failed f ∧ (e = .outOfRange → ∃ x, f = .overflow x) := by
  refine Schema.failsWith_of_givesBound (Fault.prevails_overflow _) (fun v hv => ?_) h
  rw [dateBound_eq hv, DateBound.ofText_eq_error_iff.mpr hs]
  cases e with
  | outOfRange => exact ⟨_, rfl, fun _ => ⟨_, rfl⟩⟩
  | _ => exact ⟨_, rfl, nofun⟩

/-! ## Dates that overflow -/

/-- **A reading in which a date overflows only for a reason.** -/
def Reading.OverflowsFor {α : Type} (Q : Prop) (r : Reading α) : Prop :=
  r = failed (.overflow .date) → Q

/-- **A text among those that are given names an instant off the calendar.** -/
def GivesOverflow (gives : String → Prop) : Prop :=
  ∃ s, gives s ∧ instantOfText s = .error .outOfRange

namespace Reading

variable {α β γ : Type} {Q : Prop} {r : Reading α} {s : Reading β}

theorem overflowsFor_ok (a : α) : OverflowsFor Q (ok a) := nofun

theorem overflowsFor_issue (c : IssueCode) : OverflowsFor Q (issue c : Reading α) := nofun

/-- **The texts that are given** may be more than those that overflow. -/
theorem OverflowsFor.widen {gives gives' : String → Prop} (h : OverflowsFor (GivesOverflow gives) r)
    (himp : ∀ s, gives s → gives' s) : OverflowsFor (GivesOverflow gives') r := by
  intro hr
  obtain ⟨s, hs, hrange⟩ := h hr
  exact ⟨s, himp s hs, hrange⟩

theorem OverflowsFor.zipWith (hr : OverflowsFor Q r) (hs : OverflowsFor Q s) (f : α → β → γ) :
    OverflowsFor Q (Reading.zipWith f r s) := by
  intro h
  cases r with
  | ok a =>
    cases s with
    | ok b => cases h
    | failed e => exact hs (by cases h; rfl)
  | failed e =>
    cases s with
    | ok b => exact hr (by cases h; rfl)
    | failed e' =>
      -- of two faults the first overflow is left
      cases e with
      | overflow x => exact hr (by cases h; rfl)
      | issues is =>
        cases e' with
        | overflow x => exact hs (by cases h; rfl)
        | issues js => cases h

theorem OverflowsFor.seq {g : Reading (α → β)} (hg : OverflowsFor Q g) (hr : OverflowsFor Q r) :
    OverflowsFor Q (g <*> r) := hg.zipWith hr _

theorem OverflowsFor.map (hr : OverflowsFor Q r) (f : α → β) : OverflowsFor Q (f <$> r) := by
  intro h
  cases r with
  | ok a => cases h
  | failed e => exact hr (by cases h; rfl)

theorem OverflowsFor.below (hr : OverflowsFor Q r) (key : String) :
    OverflowsFor Q (r.below key) := by
  intro h
  cases r with
  | ok a => cases h
  | failed e =>
    cases e with
    | overflow x => exact hr (by cases h; rfl)
    | issues is => cases h

theorem OverflowsFor.andThen (hr : OverflowsFor Q r) {f : α → Reading β}
    (hf : ∀ a, OverflowsFor Q (f a)) : OverflowsFor Q (r.andThen f) := by
  cases r with
  | ok a => exact hf a
  | failed e => exact fun h => hr (by cases h; rfl)

theorem overflowsFor_ofExcept (x : Except IssueCode α) : OverflowsFor Q (ofExcept x) := by
  cases x with
  | ok a => exact overflowsFor_ok a
  | error c => exact overflowsFor_issue c

theorem overflowsFor_items {read : Value → Reading α} (h : ∀ v, OverflowsFor Q (read v))
    (index : Nat) (vs : List Value) : OverflowsFor Q (items read index vs) := by
  induction vs generalizing index with
  | nil => exact overflowsFor_ok _
  | cons v vs ih => exact ((h v).below _).zipWith (ih _) _

theorem overflowsFor_listOf {read : Value → Reading α} (h : ∀ v, OverflowsFor Q (read v))
    (v : Value) : OverflowsFor Q (listOf read v) :=
  (overflowsFor_ofExcept _).andThen (overflowsFor_items h 0)

theorem overflowsFor_nullable {read : Value → Reading α} {v : Value}
    (h : OverflowsFor Q (read v)) : OverflowsFor Q (nullable read v) := by
  cases v <;> first | exact overflowsFor_ok _ | exact h.map _

theorem overflowsFor_field {es : Entries} {name : String} {usual : α} {read : Value → Reading α}
    (h : ∀ v, entryNamed? es name = some v → OverflowsFor Q (read v)) :
    OverflowsFor Q (field es name usual read) := by
  unfold field
  split
  next => exact overflowsFor_ok _
  next v hv => exact (h v hv).below name

theorem overflowsFor_key (k : Value) : OverflowsFor Q (key k) := by
  unfold key
  split <;> nofun

theorem overflowsFor_pattern (v : Value) : OverflowsFor Q (pattern v) := by
  refine (overflowsFor_ofExcept _).andThen (fun s => ?_)
  split <;> nofun

theorem overflowsFor_textMap (v : Value) : OverflowsFor Q (textMap v) := by
  have hentries : ∀ es, OverflowsFor Q (textEntries es) := by
    intro es
    induction es with
    | nil => exact overflowsFor_ok _
    | cons e es ih => exact ((overflowsFor_key e.1).map _).seq ih
  cases v <;> first | exact (hentries _).map _ | exact overflowsFor_issue _

theorem overflowsFor_knownFields (known : List String) (es rest : Entries) :
    OverflowsFor Q (knownFields known es rest) := by
  induction rest with
  | nil => exact overflowsFor_ok _
  | cons e rest ih =>
    refine OverflowsFor.zipWith ?_ ih _
    split
    · split <;> nofun
    · split <;> nofun
    · nofun

theorem overflowsFor_number (v : Value) : OverflowsFor Q (Coercion.number v) := by
  unfold Coercion.number
  split
  · nofun
  · nofun
  · split
    · nofun
    · nofun
    · split <;> nofun

end Reading

theorem Kind.overflowsFor_check {Q : Prop} (k : Kind) (es : Entries) :
    OverflowsFor Q (k.check es) := by
  unfold Kind.check
  split
  · nofun
  · split <;> nofun
  · nofun

theorem Presence.overflowsFor_read {Q : Prop} {α : Type} {es : Entries}
    {readValue : Value → Reading α} (h : ∀ v, OverflowsFor Q (readValue v)) :
    OverflowsFor Q (Presence.read es readValue) := by
  have hbool : ∀ name usual, OverflowsFor Q (field es name usual Reading.bool) :=
    fun _ _ => overflowsFor_field (fun v _ => overflowsFor_ofExcept _)
  refine (((hbool _ _).map _).seq (hbool _ _)).seq ?_
  unfold readDefault
  split
  · exact ((overflowsFor_nullable (h _)).below _).map _
  · exact (hbool _ _).map _

section Rules

variable {Q : Prop} (es : Entries)

/-- The fields that no rule of dates knows of. -/
theorem overflowsFor_usual : (∀ name usual, OverflowsFor Q (field es name usual Reading.bool)) ∧
    (∀ name, OverflowsFor Q (optionalField es name Reading.nat)) ∧
    ∀ name, OverflowsFor Q (optionalField es name Coercion.number) :=
  ⟨fun _ _ => overflowsFor_field (fun _ _ => overflowsFor_ofExcept _),
    fun _ => overflowsFor_field (fun _ _ => overflowsFor_nullable (overflowsFor_ofExcept _)),
    fun _ => overflowsFor_field (fun v _ => overflowsFor_nullable (overflowsFor_number v))⟩

theorem StringRules.overflowsFor_read : OverflowsFor Q (StringRules.read es) := by
  obtain ⟨hbool, hnat, -⟩ := overflowsFor_usual (Q := Q) es
  have henum : OverflowsFor Q (optionalField es "enum" (listOf Reading.text)) :=
    overflowsFor_field (fun v _ => overflowsFor_nullable
      (overflowsFor_listOf (fun _ => overflowsFor_ofExcept _) v))
  have hpattern : OverflowsFor Q (optionalField es "pattern" Reading.pattern) :=
    overflowsFor_field (fun v _ => overflowsFor_nullable (overflowsFor_pattern v))
  exact ((((((henum.map _).seq hpattern).seq (hnat "min")).seq (hnat "max")).seq
    (hbool "trim" true)).seq (hbool "lowercase" false)).seq (hbool "uppercase" false)

theorem NumberRules.overflowsFor_read : OverflowsFor Q (NumberRules.read es) := by
  obtain ⟨hbool, -, hnumber⟩ := overflowsFor_usual (Q := Q) es
  have henum : OverflowsFor Q (optionalField es "enum" (listOf Coercion.number)) :=
    overflowsFor_field (fun v _ => overflowsFor_nullable
      (overflowsFor_listOf overflowsFor_number v))
  exact (((((henum.map _).seq (hnumber "min")).seq (hnumber "max")).seq
    (hbool "integer" false)).seq (hbool "positive" false)).seq (hbool "negative" false)

theorem ItemCount.overflowsFor_read : OverflowsFor Q (ItemCount.read es) := by
  obtain ⟨-, hnat, -⟩ := overflowsFor_usual (Q := Q) es
  exact ((hnat "min").map _).seq (hnat "max")

end Rules

/-- A bound on dates overflows if it names an instant off the calendar. -/
theorem Reading.overflowsFor_dateBound (v : Value) :
    OverflowsFor (GivesOverflow (fun s => Coercion.text v = .ok s)) (dateBound v) := by
  cases htext : Coercion.text v with
  | error c =>
    unfold dateBound Reading.text
    rw [htext]
    exact overflowsFor_issue c
  | ok s =>
    rw [dateBound_eq htext]
    split
    next => nofun
    next hs => exact fun _ => ⟨s, rfl, DateBound.ofText_eq_error_iff.mp hs⟩
    next => nofun

/-- **The bounds of a date node** are what may overflow. -/
theorem DateRules.overflowsFor_read {es : Entries} {gives : String → Prop}
    (h : ∀ name ∈ Kind.date.ruleNames, ∀ v, entryNamed? es name = some v →
      ∀ s, Coercion.text v = .ok s → gives s) :
    OverflowsFor (GivesOverflow gives) (DateRules.read es) := by
  have hfield : ∀ name ∈ Kind.date.ruleNames,
      OverflowsFor (GivesOverflow gives) (optionalField es name dateBound) := fun name hname =>
    overflowsFor_field (fun v hget =>
      overflowsFor_nullable ((overflowsFor_dateBound v).widen (h name hname v hget)))
  exact ((hfield "min" (by decide)).map _).seq (hfield "max" (by decide))

/-- **A node** overflows in its body or in its bounds on dates. -/
theorem Node.overflowsFor_ofEntries {Q : Prop} {k : Kind} {es : Entries} {body : Reading NodeBody}
    (hbody : OverflowsFor Q body) (hdate : k = .date → OverflowsFor Q (DateRules.read es)) :
    OverflowsFor Q (Node.ofEntries k es body) := by
  refine (OverflowsFor.seq (OverflowsFor.map ?_ _) (k.overflowsFor_check es)).seq
    (overflowsFor_knownFields _ _ _)
  have hmissing : ∀ {α : Type} (key : String),
      OverflowsFor Q ((issue .missing : Reading α).below key) :=
    fun key => (overflowsFor_issue _).below key
  have htext : OverflowsFor Q (Presence.read es Reading.text) :=
    Presence.overflowsFor_read (fun _ => overflowsFor_ofExcept _)
  cases k with
  | string => exact (htext.map _).seq (StringRules.overflowsFor_read es)
  | number =>
    exact ((Presence.overflowsFor_read overflowsFor_number).map _).seq
      (NumberRules.overflowsFor_read es)
  | boolean => exact (Presence.overflowsFor_read (fun _ => overflowsFor_ofExcept _)).map _
  | date => exact (htext.map _).seq (hdate rfl)
  | object =>
    refine ((Presence.overflowsFor_read overflowsFor_textMap).map _).seq (hbody.andThen ?_)
    rintro (_ | s | t)
    · exact hmissing _
    · exact overflowsFor_ok s
    · exact hmissing _
  | array =>
    refine (((Presence.overflowsFor_read (fun _ => overflowsFor_ofExcept _)).map _).seq
      (hbody.andThen ?_)).seq (ItemCount.overflowsFor_read es)
    rintro (_ | s | t)
    · exact hmissing _
    · exact hmissing _
    · exact overflowsFor_ok t

/-! ## Where a date overflows -/

/-- A text that is given as a bound in the body of a node of a kind. -/
def NodeBody.Below (k : Kind) (es : Entries) (s : String) : Prop :=
  (k = .object ∧ ∃ v, entryNamed? es "properties" = some v ∧ Schema.GivesBound v s) ∨
    (k = .array ∧ ∃ v, entryNamed? es "items" = some v ∧ TypeSpec.GivesBound v s)

/-- **A node with its body** overflows in a text that it gives as a bound. -/
theorem Node.overflowsFor_read {k : Kind} {es : Entries} (hkind : Kind.named? es = some k)
    (hbody : OverflowsFor (GivesOverflow (NodeBody.Below k es)) (NodeBody.read k es)) :
    OverflowsFor (GivesOverflow (Node.GivesBound es))
      (Node.ofEntries k es (NodeBody.read k es)) := by
  refine Node.overflowsFor_ofEntries (hbody.widen ?_) ?_
  · rintro s (⟨rfl, v, hget, hs⟩ | ⟨rfl, v, hget, hs⟩)
    · exact .properties hkind hget hs
    · exact .items hkind hget hs
  · rintro rfl
    exact DateRules.overflowsFor_read (fun name hname v hget s htext =>
      .bound hkind hname hget htext)

theorem Schema.overflowsFor_ofMembers {Q : Prop} (hs : List Fields) :
    OverflowsFor Q (Schema.ofMembers hs) := by
  rcases hs with _ | ⟨fs, _ | ⟨gs, hs⟩⟩ <;> nofun

theorem TypeSpec.overflowsFor_ofCandidates {Q : Prop} (ns : List Node) :
    OverflowsFor Q (TypeSpec.ofCandidates ns) := by
  rcases ns with _ | ⟨n, _ | ⟨m, ns⟩⟩ <;> nofun

mutual

/-- **A schema overflows in a text that it gives as a bound on dates.** -/
theorem Schema.overflowsFor_ofValue : ∀ v : Value,
    OverflowsFor (GivesOverflow (Schema.GivesBound v)) (Schema.ofValue v)
  | .map es => (Fields.overflowsFor_read es).map _
  | .list vs => by
    refine OverflowsFor.andThen ((Schema.overflowsFor_readMembers vs).widen ?_)
      (fun hs => Schema.overflowsFor_ofMembers hs)
    exact fun s ⟨es, hmem, h⟩ => .list hmem h
  | .tuple vs => by
    refine OverflowsFor.andThen ((Schema.overflowsFor_readMembers vs).widen ?_)
      (fun hs => Schema.overflowsFor_ofMembers hs)
    exact fun s ⟨es, hmem, h⟩ => .tuple hmem h
  | .null | .bool _ | .number _ | .text _ | .bytes _ | .date _ | .dateTime _ | .absent | .set _
  | .noMoment | .timestamp _ | .scalar .. | .array .. | .series .. | .table _ | .foreign _ =>
    overflowsFor_issue _

theorem Schema.overflowsFor_readMembers : ∀ vs : List Value,
    OverflowsFor (GivesOverflow (fun s => ∃ es, Value.map es ∈ vs ∧ Schema.GivesBound (.map es) s))
      (Schema.readMembers vs)
  | [] => overflowsFor_ok _
  | .map es :: vs => by
    refine OverflowsFor.zipWith (((Fields.overflowsFor_read es).map _).widen ?_)
      ((Schema.overflowsFor_readMembers vs).widen ?_) _
    · exact fun s hs => ⟨es, List.mem_cons_self, hs⟩
    · exact fun s ⟨es, hmem, hs⟩ => ⟨es, List.mem_cons_of_mem _ hmem, hs⟩
  | .list _ :: vs | .tuple _ :: vs | .null :: vs | .bool _ :: vs | .number _ :: vs
  | .text _ :: vs | .bytes _ :: vs | .date _ :: vs | .dateTime _ :: vs | .absent :: vs
  | .set _ :: vs | .noMoment :: vs | .timestamp _ :: vs | .scalar .. :: vs | .array .. :: vs
  | .series .. :: vs | .table _ :: vs | .foreign _ :: vs => by
    refine OverflowsFor.zipWith (overflowsFor_issue _)
      ((Schema.overflowsFor_readMembers vs).widen ?_) _
    exact fun s ⟨es, hmem, hs⟩ => ⟨es, List.mem_cons_of_mem _ hmem, hs⟩

theorem Fields.overflowsFor_read : ∀ es : List (Value × Value),
    OverflowsFor (GivesOverflow (Schema.GivesBound (.map es))) (Fields.read es)
  | [] => overflowsFor_ok _
  | e :: es => by
    have hv := (TypeSpec.overflowsFor_read e.2).below (placeText e.1)
    refine OverflowsFor.zipWith ((overflowsFor_key e.1).zipWith (hv.widen ?_) _)
      ((Fields.overflowsFor_read es).widen ?_) _
    · exact fun s hs => .field List.mem_cons_self hs
    · rintro s (⟨hmem, hs⟩ | _ | _)
      exact .field (List.mem_cons_of_mem _ hmem) hs

theorem TypeSpec.overflowsFor_read : ∀ v : Value,
    OverflowsFor (GivesOverflow (TypeSpec.GivesBound v)) (TypeSpec.read v)
  | .map es => by
    unfold TypeSpec.read
    split
    next k hk =>
      exact ((Node.overflowsFor_read hk (NodeBody.overflowsFor_read k es)).widen
        (fun s hs => .single hs)).map _
    next => exact overflowsFor_issue _
  | .list vs => by
    refine OverflowsFor.andThen ((TypeSpec.overflowsFor_readCandidates vs).widen ?_)
      (fun ns => TypeSpec.overflowsFor_ofCandidates ns)
    exact fun s ⟨es, hmem, h⟩ => .list hmem h
  | .tuple vs => by
    refine OverflowsFor.andThen ((TypeSpec.overflowsFor_readCandidates vs).widen ?_)
      (fun ns => TypeSpec.overflowsFor_ofCandidates ns)
    exact fun s ⟨es, hmem, h⟩ => .tuple hmem h
  | .null | .bool _ | .number _ | .text _ | .bytes _ | .date _ | .dateTime _ | .absent | .set _
  | .noMoment | .timestamp _ | .scalar .. | .array .. | .series .. | .table _ | .foreign _ =>
    overflowsFor_issue _

theorem TypeSpec.overflowsFor_readCandidates : ∀ vs : List Value,
    OverflowsFor (GivesOverflow (fun s => ∃ es, Value.map es ∈ vs ∧ Node.GivesBound es s))
      (TypeSpec.readCandidates vs)
  | [] => overflowsFor_ok _
  | .map es :: vs => by
    refine OverflowsFor.zipWith ?_
      ((TypeSpec.overflowsFor_readCandidates vs).widen ?_) _
    · split
      next k hk =>
        exact (Node.overflowsFor_read hk (NodeBody.overflowsFor_read k es)).widen
          (fun s hs => ⟨es, List.mem_cons_self, hs⟩)
      next => exact overflowsFor_issue _
    · exact fun s ⟨es, hmem, hs⟩ => ⟨es, List.mem_cons_of_mem _ hmem, hs⟩
  | .list _ :: vs | .tuple _ :: vs | .null :: vs | .bool _ :: vs | .number _ :: vs
  | .text _ :: vs | .bytes _ :: vs | .date _ :: vs | .dateTime _ :: vs | .absent :: vs
  | .set _ :: vs | .noMoment :: vs | .timestamp _ :: vs | .scalar .. :: vs | .array .. :: vs
  | .series .. :: vs | .table _ :: vs | .foreign _ :: vs => by
    refine OverflowsFor.zipWith (overflowsFor_issue _)
      ((TypeSpec.overflowsFor_readCandidates vs).widen ?_) _
    exact fun s ⟨es, hmem, hs⟩ => ⟨es, List.mem_cons_of_mem _ hmem, hs⟩

theorem NodeBody.overflowsFor_read (k : Kind) : ∀ es : List (Value × Value),
    OverflowsFor (GivesOverflow (NodeBody.Below k es)) (NodeBody.read k es)
  | [] => overflowsFor_ok _
  | e :: es => by
    unfold NodeBody.read
    split
    · split
      next hname =>
        refine (((Schema.overflowsFor_ofValue e.2).below _).map _).widen ?_
        intro s hs
        exact .inl ⟨rfl, e.2, by rw [entryNamed?_cons, if_pos hname], hs⟩
      next hname =>
        refine (NodeBody.overflowsFor_read _ es).widen ?_
        rintro s (⟨-, w, hget, hs⟩ | ⟨hk, -⟩)
        · exact .inl ⟨rfl, w, by rwa [entryNamed?_cons, if_neg hname], hs⟩
        · cases hk
    · split
      next hname =>
        refine (((TypeSpec.overflowsFor_read e.2).below _).map _).widen ?_
        intro s hs
        exact .inr ⟨rfl, e.2, by rw [entryNamed?_cons, if_pos hname], hs⟩
      next hname =>
        refine (NodeBody.overflowsFor_read _ es).widen ?_
        rintro s (⟨hk, -⟩ | ⟨-, w, hget, hs⟩)
        · cases hk
        · exact .inr ⟨rfl, w, by rwa [entryNamed?_cons, if_neg hname], hs⟩
    · exact overflowsFor_ok _

end

end Conform
