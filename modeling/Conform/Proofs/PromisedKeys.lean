import Conform.Export.Declaration
import Conform.Export.JsonSchema
import Conform.Proofs.Alone
import Conform.Proofs.Given

/-!
# Keys that are promised

Three parts of the program decide, each by itself, whether a field is always there. The declaration
of a mapping leaves a field unmarked unless every candidate of its type is optional and has no
default. The document lists it as required if a candidate is required. Validation asks the first
candidate alone: this is what a value that is missing resolves to.

For a type that is no union the three agree. For a union they do not: where the first candidate is
optional and has no default, the field may be missing from a result, though a later candidate makes
both exports promise it (`Fields.optionalFirst_lacks`). There is no other disagreement: a key that
is promised is missing from exactly those results whose data do not have it and whose types are such
unions (`Schema.lacks_promised_iff`).
-/

namespace Conform

open Declaration JsonSchema

/-! ## What the exports promise -/

/-- **A key that the class of a mapping declares unmarked**, whatever name the class has got and
whatever has been rendered before it. -/
def Fields.DeclaresAlways (fs : Fields) (name : String) : Prop :=
  ∃ className state expression,
    (name, expression) ∈ ((Fields.declare className fs).run state).1 ∧
      ∀ inner, expression ≠ withAbsence true inner

/-- **A key that the document of a mapping lists as required.** -/
def Fields.DocumentsRequired (fs : Fields) (name : String) : Prop :=
  ∃ others names, ("required", .list names) ∈ (Schema.mapping fs).jsonSchema others ∧
    .text name ∈ names

/-- A key that one of the exports promises. -/
def Fields.Promises (fs : Fields) (name : String) : Prop :=
  fs.DeclaresAlways name ∨ fs.DocumentsRequired name

/-- A type that is not optional has a candidate that takes care of a missing value. -/
theorem TypeSpec.any_isAsked_of_isOptional {t : TypeSpec} (h : isOptional t = false) :
    t.candidates.any Node.isAsked = true := by
  obtain ⟨n, hn, hasked⟩ := List.all_eq_false.mp h
  refine List.any_eq_true.mpr ⟨n, hn, ?_⟩
  unfold Node.isAsked
  cases hrequired : n.required with
  | true => rfl
  | false =>
    rw [hrequired] at hasked
    cases hd : n.default? with
    | none =>
      rw [hd] at hasked
      exact absurd rfl hasked
    | some d => rfl

namespace Fields

variable {fs : Fields}

/-- Every entry of a class is a field of the mapping, marked if it is optional. -/
theorem exists_of_mem_declare {className : String} {state : DeclarationState}
    {entry : String × String} (h : entry ∈ ((Fields.declare className fs).run state).1) :
    ∃ t inner, (entry.1, t) ∈ fs ∧ entry.2 = withAbsence (isOptional t) inner := by
  induction fs generalizing state with
  | nil => cases h
  | cons f fs ih =>
    obtain ⟨key, t⟩ := f
    rcases List.mem_cons.mp h with rfl | h
    · exact ⟨t, _, List.mem_cons_self, rfl⟩
    · obtain ⟨u, inner, hmem, hentry⟩ := ih h
      exact ⟨u, inner, List.mem_cons_of_mem _ hmem, hentry⟩

theorem exists_of_declaresAlways {name : String} (h : fs.DeclaresAlways name) :
    ∃ t, (name, t) ∈ fs ∧ t.candidates.any Node.isAsked = true := by
  obtain ⟨className, state, expression, hmem, hunmarked⟩ := h
  obtain ⟨t, inner, hfield, hexpression⟩ := exists_of_mem_declare hmem
  cases hoptional : isOptional t with
  | true =>
    rw [hoptional] at hexpression
    exact absurd hexpression (hunmarked inner)
  | false => exact ⟨t, hfield, TypeSpec.any_isAsked_of_isOptional hoptional⟩

theorem exists_of_documentsRequired {name : String} (h : fs.DocumentsRequired name) :
    ∃ t, (name, t) ∈ fs ∧ t.candidates.any Node.isAsked = true := by
  obtain ⟨others, names, hkeyword, hname⟩ := h
  have hnames : names = (Fields.required fs).map .text := by
    rw [Schema.jsonSchema, ofMapping] at hkeyword
    cases hempty : (Fields.required fs).isEmpty with
    | true =>
      rw [hempty] at hkeyword
      simp [typed] at hkeyword
    | false =>
      rw [hempty] at hkeyword
      simpa [typed] using hkeyword
  rw [hnames] at hname
  obtain ⟨key, hkey, heq⟩ := List.mem_map.mp hname
  obtain ⟨f, hf, rfl⟩ := List.mem_map.mp hkey
  cases heq
  obtain ⟨hf, hrequired⟩ := List.mem_filter.mp hf
  obtain ⟨n, hn, hrequired⟩ := List.any_eq_true.mp hrequired
  exact ⟨f.2, hf, List.any_eq_true.mpr ⟨n, hn, by rw [Node.isAsked, hrequired, Bool.true_or]⟩⟩

/-- **What is promised** is a field one of whose candidates takes care of a missing value. -/
theorem exists_of_promises {name : String} (h : fs.Promises name) :
    ∃ t, (name, t) ∈ fs ∧ t.candidates.any Node.isAsked = true :=
  h.elim exists_of_declaresAlways exists_of_documentsRequired

end Fields

/-! ## What a validation leaves -/

/-- A value that is taken is left out just if it is absent and no default stands in. -/
theorem TypeSpec.Takes.eq_none_iff {t : TypeSpec} {v : Value} {child : Option Value}
    (h : t.Takes v child) : child = none ↔ v = .absent ∧ t.first.default? = none := by
  constructor
  · rintro rfl
    exact ⟨h.eq_absent.1, h.eq_absent.2.1⟩
  · rintro ⟨rfl, hnone⟩
    cases h with
    | present h => exact absurd rfl h.ne_absent
    | nullDefault h => rw [hnone] at h; cases h
    | default hd => rw [hnone] at hd; cases hd
    | omitted => rfl

section Walk

variable {fs : Fields} {o : Options} {es es' : List (Value × Value)} {name : String} {t : TypeSpec}

/-- **What becomes of a field** in the walk of the root: it is left out just if its value is absent
and no default stands in, and then it is not required. -/
theorem Course.walkAlone_field_eq_none_iff (hnames : (fs.map Prod.fst).Nodup) (hf : (name, t) ∈ fs)
    {v : Value} {child : Option Value} (h : ((⟨.mapping fs, o⟩ : Course).walkAlone
      (Schema.mapping fs).depth [.text name] v).Yields child) :
    (child = none ↔ v = .absent ∧ t.first.default? = none) ∧
      (child = none → t.first.required = false) := by
  have hlocate : (Schema.mapping fs).locate [.text name] = some t :=
    (Schema.locate_key fs _).trans (Fields.typeAt?_of_mem hnames hf)
  have htakes : ∀ {w : Option Value}, ((⟨.mapping fs, o⟩ : Course).visit [.text name] v).Yields w →
      t.Takes v w := (Course.visit_yields_of_declared hlocate).mp
  have hbudget : (⟨.mapping fs, o⟩ : Course).schema.depth <
      (Schema.mapping fs).depth + [Value.text name].length := Nat.lt_succ_self _
  obtain ⟨b, -, hsucc⟩ := Course.exists_walkAlone_succ hbudget
  rw [hsucc] at h
  by_cases hv : v = .absent
  · subst hv
    obtain ⟨hnone, hrequired⟩ := Course.walkAlone_absent_yields hlocate h
    exact ⟨hnone.trans ⟨fun h => ⟨rfl, h⟩, And.right⟩, hrequired⟩
  rcases (Course.walkAlone_succ_yields (by simp) hv).mp h with
    ⟨rfl, hvisit⟩ | ⟨x, w, hvisit, -, rfl⟩
  · exact ⟨(htakes hvisit).eq_none_iff, fun _ => (htakes hvisit).eq_absent.2.2⟩
  · refine ⟨⟨nofun, fun hv => ?_⟩, nofun⟩
    cases (htakes hvisit).eq_none_iff.mpr hv

/-- Every field has an entry in the marked map. -/
theorem Fields.exists_mem_seed (hnames : (fs.map Prod.fst).Nodup)
    (hkeys : (Value.textKeys es).Nodup) (hf : (name, t) ∈ fs) :
    ∃ v, (.text name, v) ∈ Fields.seed fs es := by
  rw [Fields.seed_eq hnames hkeys]
  cases hkey : Value.hasKey es name with
  | true =>
    obtain ⟨e, he, hname⟩ := List.any_eq_true.mp hkey
    exact ⟨_, List.mem_append_left _
      (List.mem_map.mpr ⟨e, he, Prod.ext (keyNames_iff.mp hname) rfl⟩)⟩
  | false =>
    refine ⟨.absent, List.mem_append_right _ (List.mem_map.mpr ⟨(name, t), ?_, rfl⟩)⟩
    exact List.mem_filter.mpr ⟨hf, by simp [hkey]⟩

/-- The entry of a field in the marked map is absent just if the field is not given. -/
theorem Fields.ne_absent_of_mem_seed (hnames : (fs.map Prod.fst).Nodup)
    (hkeys : (Value.textKeys es).Nodup) (hf : (name, t) ∈ fs) :
    (∃ v, (.text name, v) ∈ Fields.seed fs es ∧ v ≠ .absent) ↔
      ∃ u, (.text name, u) ∈ es ∧ u ≠ .absent := by
  have hseedAt : ∀ u, fs.seedAt (.text name) u = t.seed u := fun u => by
    rw [Fields.seedAt, Fields.typeAt?_of_mem hnames hf]
    rfl
  rw [Fields.seed_eq hnames hkeys]
  constructor
  · rintro ⟨v, hv, hne⟩
    rcases List.mem_append.mp hv with hv | hv
    · obtain ⟨e, he, heq⟩ := List.mem_map.mp hv
      obtain ⟨hkey, rfl⟩ := Prod.mk.inj heq
      refine ⟨e.2, hkey ▸ he, ?_⟩
      rwa [hkey, hseedAt, ne_eq, TypeSpec.seed_eq_absent] at hne
    · obtain ⟨f, -, heq⟩ := List.mem_map.mp hv
      obtain ⟨-, rfl⟩ := Prod.mk.inj heq
      exact absurd rfl hne
  · rintro ⟨u, hu, hne⟩
    refine ⟨t.seed u, List.mem_append_left _ (List.mem_map.mpr ⟨_, hu, ?_⟩), ?_⟩
    · rw [hseedAt]
    · rwa [ne_eq, TypeSpec.seed_eq_absent]

/-- **Which fields the walk of the root leaves**: those that are given and those whose first
candidate has a default. The fields whose first candidate is required are among them. -/
theorem Course.hasKey_of_walkEntries (hnames : (fs.map Prod.fst).Nodup)
    (hkeys : (Value.textKeys es).Nodup) (hf : (name, t) ∈ fs)
    (h : (Course.walkEntries ((⟨.mapping fs, o⟩ : Course).walkAlone (Schema.mapping fs).depth) []
      (Fields.seed fs es)).Yields es') :
    (Value.hasKey es' name = true ↔
      (∃ u, (.text name, u) ∈ es ∧ u ≠ .absent) ∨ t.first.default?.isSome = true) ∧
    (t.first.required = true → Value.hasKey es' name = true) := by
  have happends := (⟨.mapping fs, o⟩ : Course).appends_walkAlone (Schema.mapping fs).depth
  have hleft : ∀ {w : Value}, (.text name, w) ∈ es' → Value.hasKey es' name = true := fun hw =>
    List.any_eq_true.mpr ⟨_, hw, keyNames_iff.mpr rfl⟩
  obtain ⟨v, hv⟩ := Fields.exists_mem_seed hnames hkeys hf
  obtain ⟨child, hchild, hstays⟩ := Course.yields_of_mem_walkEntries happends h hv
  obtain ⟨hnone, hrequired⟩ := Course.walkAlone_field_eq_none_iff hnames hf hchild
  refine ⟨⟨fun hkey => ?_, ?_⟩, fun hreq => ?_⟩
  · -- what is left comes from an entry that is not absent, or from a default
    obtain ⟨⟨k, w⟩, hw, hname⟩ := List.any_eq_true.mp hkey
    obtain rfl := keyNames_iff.mp hname
    obtain ⟨x, hx, hyields⟩ := Course.exists_of_mem_walkEntries happends h hw
    have hsome := (Course.walkAlone_field_eq_none_iff hnames hf hyields).1
    cases hd : t.first.default? with
    | some d => exact .inr rfl
    | none =>
      refine .inl ((Fields.ne_absent_of_mem_seed hnames hkeys hf).mp ⟨x, hx, ?_⟩)
      rintro rfl
      cases hsome.mpr ⟨rfl, hd⟩
  · rintro (hgiven | hdefault)
    · obtain ⟨x, hx, hne⟩ := (Fields.ne_absent_of_mem_seed hnames hkeys hf).mpr hgiven
      obtain ⟨child, hchild, hstays⟩ := Course.yields_of_mem_walkEntries happends h hx
      cases child with
      | none => exact absurd ((Course.walkAlone_field_eq_none_iff hnames hf hchild).1.mp rfl).1 hne
      | some w => exact hleft (hstays w rfl)
    · cases child with
      | none =>
        rw [(hnone.mp rfl).2] at hdefault
        cases hdefault
      | some w => exact hleft (hstays w rfl)
  · cases child with
    | none =>
      rw [hrequired rfl] at hreq
      cases hreq
    | some w => exact hleft (hstays w rfl)

/-- **Which fields a result has.** -/
theorem Fields.hasKey_of_validateShared {data r : Value} (hnames : (fs.map Prod.fst).Nodup)
    (hgiven : data.isGiven = true) (h : fs.validateShared o data = .ok r) :
    ∃ es rs, data.plain = .ok (.map es) ∧ r = .map rs ∧ ∀ name t, (name, t) ∈ fs →
      (Value.hasKey rs name = true ↔
        (∃ u, (.text name, u) ∈ es ∧ u ≠ .absent) ∨ t.first.default?.isSome = true) ∧
      (t.first.required = true → Value.hasKey rs name = true) := by
  obtain ⟨es, v, hplain, hwalk, hr⟩ := Fields.validateShared_eq_ok.mp h
  rw [Course.walkShared_eq] at hwalk
  obtain ⟨es', hes', rfl⟩ := Walk.yields_map.mp hwalk
  have hkeys := (Value.isCopied_map_iff.mp (Value.isCopied_of_plain data _ hgiven hplain)).1
  have hleft := fun name t (hf : (name, t) ∈ fs) =>
    Course.hasKey_of_walkEntries hnames hkeys hf hes'
  split at hr
  · refine ⟨es, _, hplain, hr, fun name t hf => ?_⟩
    rw [Value.hasKey_sortKeys]
    exact hleft name t hf
  · exact ⟨es, es', hplain, hr, hleft⟩

end Walk

/-! ## Promises and results -/

/-- **Which promised keys a result lacks**: just those that the data do not give and whose type is a
union with a first candidate that is optional and has no default. -/
theorem Schema.lacks_promised_iff {raw : RawDocument} {data r : Value} {fs : Fields} {o : Options}
    (hread : Schema.read raw = .ok (.mapping fs)) (hgiven : data.isGiven = true)
    (h : fs.validateShared o data = .ok r) :
    ∃ es rs, data.plain = .ok (.map es) ∧ r = .map rs ∧ ∀ name, fs.Promises name →
      ∃ t, (name, t) ∈ fs ∧ (Value.hasKey rs name = false ↔
        t.isUnion = true ∧ t.first.required = false ∧ t.first.default? = none ∧
          ∀ u, (.text name, u) ∈ es → u = .absent) := by
  obtain ⟨es, rs, hplain, hr, hkeys⟩ :=
    Fields.hasKey_of_validateShared (Schema.names_of_read hread).1 hgiven h
  refine ⟨es, rs, hplain, hr, fun name hpromised => ?_⟩
  obtain ⟨t, hf, hasked⟩ := Fields.exists_of_promises hpromised
  obtain ⟨hhas, hrequired⟩ := hkeys name t hf
  refine ⟨t, hf, fun hlacks => ?_, fun ⟨_, _, hnone, habsent⟩ => ?_⟩
  · rw [hlacks] at hhas hrequired
    have hfirst : t.first.required = false := by
      cases hreq : t.first.required with
      | false => rfl
      | true => cases hrequired hreq
    have hnone : t.first.default? = none := by
      cases hd : t.first.default? with
      | none => rfl
      | some d => cases hhas.mpr (.inr (by rw [hd]; rfl))
    refine ⟨?_, hfirst, hnone, fun u hu => ?_⟩
    · cases t with
      | union => rfl
      | single n =>
        -- the only candidate is the one that is asked
        have hself : n.isAsked = true := (Bool.or_false _).symm.trans hasked
        rw [Node.isAsked, show n.required = false from hfirst,
          show n.default? = none from hnone] at hself
        cases hself
    · by_contra hne
      cases hhas.mpr (.inl ⟨u, hu, hne⟩)
  · cases hkey : Value.hasKey rs name with
    | false => rfl
    | true =>
      rcases hhas.mp hkey with ⟨u, hu, hne⟩ | hdefault
      · exact absurd (habsent u hu) hne
      · rw [hnone] at hdefault
        cases hdefault

/-- A text that may be missing, or else a number. -/
def Fields.optionalFirst : Fields :=
  [("f", .union (.string { required := false } {}) (.number {} {}) [])]

/-- The document that these fields are read from. -/
def Schema.optionalFirstDocument : Value :=
  .map [(.text "f", .list [
    .map [(.text "type", .text "string"), (.text "required", .bool false)],
    .map [(.text "type", .text "number")]])]

theorem Fields.optionalFirst_declaresAlways : Fields.optionalFirst.DeclaresAlways "f" := by
  refine ⟨"C", {}, "str | float", List.mem_singleton.mpr rfl, fun inner h => ?_⟩
  have hhead := congrArg (fun s => s.toList.head?) h
  simp [withAbsence] at hhead

theorem Fields.optionalFirst_documentsRequired : Fields.optionalFirst.DocumentsRequired "f" :=
  ⟨true, [.text "f"], by simp [optionalFirst, Schema.jsonSchema, ofMapping, Fields.required,
    TypeSpec.required, TypeSpec.candidates, Node.required], List.mem_singleton_self _⟩

/-- An empty map lacks the key, and its type is such a union. -/
theorem Schema.optionalFirst_lacks_promised :
    Schema.read Schema.optionalFirstDocument = .ok (.mapping Fields.optionalFirst) ∧
      Fields.optionalFirst.Promises "f" ∧
      Fields.optionalFirst.validateShared {} (.map []) = .ok (.map []) ∧
      ∃ es rs, (Value.map []).plain = .ok (.map es) ∧ Value.map [] = .map rs ∧
        ∀ name, Fields.optionalFirst.Promises name → ∃ t, (name, t) ∈ Fields.optionalFirst ∧
          (Value.hasKey rs name = false ↔
            t.isUnion = true ∧ t.first.required = false ∧ t.first.default? = none ∧
              ∀ u, (.text name, u) ∈ es → u = .absent) := by
  have hread : Schema.read Schema.optionalFirstDocument = .ok (.mapping Fields.optionalFirst) := rfl
  have hvalidate : Fields.optionalFirst.validateShared {} (.map []) = .ok (.map []) := rfl
  exact ⟨hread, .inl Fields.optionalFirst_declaresAlways, hvalidate,
    Schema.lacks_promised_iff hread rfl hvalidate⟩

/-- **A key that is promised may be missing**, even from the result for plain data: one that the
declaration leaves unmarked, and one that the document lists as required. The first candidate lets
the value be missing, and both exports ask all candidates. -/
theorem Fields.optionalFirst_lacks :
    (¬ ∀ (raw : RawDocument) (data r : Value) (fs : Fields) (o : Options) (name : String),
      Schema.read raw = .ok (.mapping fs) → data.everywhere Value.isPlain = true →
      fs.validateShared o data = .ok r → fs.DeclaresAlways name →
      ∃ rs, r = .map rs ∧ Value.hasKey rs name = true) ∧
    (¬ ∀ (raw : RawDocument) (data r : Value) (fs : Fields) (o : Options) (name : String),
      Schema.read raw = .ok (.mapping fs) → data.everywhere Value.isPlain = true →
      fs.validateShared o data = .ok r → fs.DocumentsRequired name →
      ∃ rs, r = .map rs ∧ Value.hasKey rs name = true) := by
  constructor
  · intro hthere
    obtain ⟨rs, ⟨⟩, hkey⟩ := hthere Schema.optionalFirstDocument (.map []) (.map [])
      Fields.optionalFirst {} "f" rfl rfl rfl Fields.optionalFirst_declaresAlways
    cases hkey
  · intro hthere
    obtain ⟨rs, ⟨⟩, hkey⟩ := hthere Schema.optionalFirstDocument (.map []) (.map [])
      Fields.optionalFirst {} "f" rfl rfl rfl Fields.optionalFirst_documentsRequired
    cases hkey

end Conform
