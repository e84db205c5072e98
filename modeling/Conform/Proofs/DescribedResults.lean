import Conform.Proofs.Agreement
import Conform.Proofs.Composition
import Conform.Proofs.FailFast
import Conform.Proofs.NodeDocuments
import Conform.Proofs.UnknownKeys

/-!
# Results are described by the exported document

A schema is read twice. Validation goes through it with the data, fills in defaults, drops what is
unknown and puts texts into normal form; the export goes through it alone and writes a document, by
rules of its own for the required fields, the bounds and null. The two agree: what a validation
returns is described by the document (`Schema.jsonSchema_describes`).

The proof goes down the schema with the descent that validation amounts to (`Fields.conform`). At a
node without members the check and the assertions are read side by side. At a mapping every entry
that the descent leaves is made of an entry of the data or of a default, by the type of its field,
or it is an unknown one that is kept (`Fields.Leaves`); the last sort is what `additionalProperties`
is about. A field that the document requires is among them: if the data have it, its type makes
something of it, and if not, a default stands in, or the descent ends.

This holds for schemas without unions, for a path below a union can be read in two ways, and without
dates, which are returned as points in time. The defaults share no containers: what is required in
one place of a map may be dropped in another, where it is unknown (`Schema.halves_not_described`).
-/

namespace Conform

open JsonSchema

/-! ## Schemas whose documents describe the results -/

/-- Whether the document of a node describes what passes its check. A date is written as a text in a
document and returned as a point in time. -/
def Node.isDescribable : Node → Bool
  | .string _ r => r.allowed.all (fun texts => texts.all (fun s => r.normalize s == s))
  | .number _ r => r.min.all Number.isComparable && r.max.all Number.isComparable
  | .date .. => false
  | .object _ s => !s.isUnion
  | .boolean _ | .array .. => true

/-- Whether the document of a type describes what passes its check: the type is no union. -/
def TypeSpec.isDescribable : TypeSpec → Bool
  | .single n => n.isDescribable
  | .union .. => false

/-- **What is asked of a type** and of the types below it: the documents of the nodes describe what
passes their checks, names are distinct, and defaults can be compared. -/
structure TypeSpec.Describable (t : TypeSpec) : Prop where
  isDescribable : t.everyType TypeSpec.isDescribable = true
  wellNamed : t.everyType TypeSpec.wellNamed = true
  comparableDefaults : t.everyType (defaultsPass Value.isComparable) = true

namespace TypeSpec

/-- A type that can be described can be read in one way. -/
theorem isDirect_of_isDescribable (t : TypeSpec) (h : t.isDescribable = true) :
    t.isDirect = true := by
  cases t with
  | union => cases h
  | single n =>
    cases n with
    | object p s => exact (Bool.and_true _).trans h
    | _ => rfl

theorem Describable.exists_node {t : TypeSpec} (h : t.Describable) :
    ∃ n, t = .single n ∧ n.isDescribable = true := by
  have hself := self_of_everyType h.isDescribable
  cases t with
  | single n => exact ⟨n, rfl, hself⟩
  | union => cases hself

theorem Describable.of_field {p : Presence (List (String × Value))} {fs : Fields}
    (h : (single (.object p (.mapping fs))).Describable) {f : String × TypeSpec} (hf : f ∈ fs) :
    f.2.Describable :=
  ⟨everyType_field h.isDescribable hf, everyType_field h.wellNamed hf,
    everyType_field h.comparableDefaults hf⟩

theorem Describable.of_items {p : Presence (List Value)} {u : TypeSpec} {c : ItemCount}
    (h : (single (.array p u c)).Describable) : u.Describable :=
  ⟨everyType_items h.isDescribable, everyType_items h.wellNamed,
    everyType_items h.comparableDefaults⟩

end TypeSpec

/-! ## What a descent leaves -/

section Members

variable {o : Options} {path : Path} {es rs : List (Value × Value)} {fs : Fields}

/-- **The entries that are left** are made of entries that were there. -/
theorem exists_of_mem_conformEntries {f : Value → Value → Checked (Option Value)}
    (h : conformEntries f es = .ok rs) {r : Value × Value} (hr : r ∈ rs) :
    ∃ v, (r.1, v) ∈ es ∧ f r.1 v = .ok (some r.2) := by
  induction es generalizing rs with
  | nil =>
    cases h
    cases hr
  | cons e es ih =>
    obtain ⟨child, hchild, h⟩ := Checked.bind_eq_ok.mp h
    obtain ⟨rest, hrest, h⟩ := Checked.bind_eq_ok.mp h
    cases h
    rcases List.mem_append.mp hr with hr | hr
    · obtain ⟨w, hw, rfl⟩ := Option.map_eq_some_iff.mp (Option.mem_toList.mp hr)
      exact ⟨e.2, List.mem_cons_self, by rw [hchild, hw]⟩
    · obtain ⟨v, hv, hf⟩ := ih hrest hr
      exact ⟨v, List.mem_cons_of_mem _ hv, hf⟩

/-- **An entry of which something is made** is left. -/
theorem mem_conformEntries {f : Value → Value → Checked (Option Value)}
    (h : conformEntries f es = .ok rs) {e : Value × Value} (he : e ∈ es)
    (hf : ∀ child, f e.1 e.2 = .ok child → child.isSome = true) : ∃ r ∈ rs, r.1 = e.1 := by
  induction es generalizing rs with
  | nil => cases he
  | cons e' es ih =>
    obtain ⟨child, hchild, h⟩ := Checked.bind_eq_ok.mp h
    obtain ⟨rest, hrest, h⟩ := Checked.bind_eq_ok.mp h
    cases h
    rcases List.mem_cons.mp he with rfl | he
    · obtain ⟨w, rfl⟩ := Option.isSome_iff_exists.mp (hf child hchild)
      exact ⟨(e.1, w), List.mem_append_left _ List.mem_cons_self, rfl⟩
    · obtain ⟨r, hr, hkey⟩ := ih hrest he
      exact ⟨r, List.mem_append_right _ hr, hkey⟩

theorem conformItems_eq_ok {f : Nat → Value → Checked Value} {index : Nat} {vs ws : List Value}
    (h : conformItems f index vs = .ok ws) :
    ws.length = vs.length ∧ ∀ w ∈ ws, ∃ i, ∃ v ∈ vs, f i v = .ok w := by
  induction vs generalizing index ws with
  | nil =>
    cases h
    exact ⟨rfl, fun _ hw => absurd hw List.not_mem_nil⟩
  | cons v vs ih =>
    obtain ⟨w, hw, h⟩ := Checked.bind_eq_ok.mp h
    obtain ⟨rest, hrest, h⟩ := Checked.bind_eq_ok.mp h
    cases h
    obtain ⟨hlength, hitems⟩ := ih hrest
    refine ⟨congrArg Nat.succ hlength, List.forall_mem_cons.mpr ⟨⟨index, v, List.mem_cons_self, hw⟩,
      fun u hu => ?_⟩⟩
    obtain ⟨i, t, ht, hf⟩ := hitems u hu
    exact ⟨i, t, List.mem_cons_of_mem _ ht, hf⟩

/-- **What a type with one candidate makes** is null, or what the candidate makes. -/
theorem TypeSpec.conform_single_eq_ok {n : Node} {v w : Value}
    (h : (single n).conform o path v = .ok w) :
    w = .null ∧ n.acceptsNull = true ∨ n.conform o path v = .ok w := by
  by_cases hnull : v = .null
  · subst hnull
    have hresolve : (single n).resolve .null = n :=
      List.mem_singleton.mp ((single n).resolve_mem .null)
    rw [conform_null, hresolve] at h
    split at h
    next haccepts =>
      cases h
      exact .inl ⟨rfl, haccepts⟩
    next => cases h
  · refine .inr ?_
    cases v <;> first | exact h | exact absurd rfl hnull

theorem Node.conform_object_eq_ok {p : Presence (List (String × Value))} {v w : Value}
    (h : (Node.object p (.mapping fs)).conform o path v = .ok w) :
    ∃ es, v = .map es ∧ fs.conform o path es = .ok w := by
  obtain ⟨u, hcheck, hrest⟩ := Checked.bind_eq_ok.mp h
  cases Node.check_eq_ok_iff.mp hcheck
  exact ⟨_, rfl, hrest⟩

theorem Node.conform_array_eq_ok {p : Presence (List Value)} {t : TypeSpec} {c : ItemCount}
    {v w : Value} (h : (Node.array p t c).conform o path v = .ok w) :
    ∃ vs ws, v = .list vs ∧ w = .list ws ∧ c.Admits vs.length ∧
      conformItems (fun i v => t.conform o (path ++ [.int i]) v) 0 vs = .ok ws := by
  obtain ⟨u, hcheck, hrest⟩ := Checked.bind_eq_ok.mp h
  cases Node.check_eq_ok_iff.mp hcheck with
  | array hcount =>
    obtain ⟨ws, hws, hrest⟩ := Checked.bind_eq_ok.mp hrest
    cases hrest
    exact ⟨_, ws, rfl, rfl, hcount, hws⟩

/-- **The entries that are added** are made of defaults. -/
theorem exists_of_mem_conformMissing (h : Fields.conformMissing o path es fs = .ok rs)
    {r : Value × Value} (hr : r ∈ rs) : ∃ f ∈ fs, r.1 = .text f.1 ∧
      ∃ d, f.2.first.default? = some d ∧ f.2.conform o (path ++ [.text f.1]) d = .ok r.2 := by
  induction fs generalizing rs with
  | nil =>
    cases h
    cases hr
  | cons f fs ih =>
    have hlater : ∀ {rest}, Fields.conformMissing o path es fs = .ok rest → r ∈ rest →
        ∃ g ∈ f :: fs, r.1 = .text g.1 ∧ ∃ d, g.2.first.default? = some d ∧
          g.2.conform o (path ++ [.text g.1]) d = .ok r.2 := by
      intro rest hrest hr
      obtain ⟨g, hg, hvalue⟩ := ih hrest hr
      exact ⟨g, List.mem_cons_of_mem _ hg, hvalue⟩
    rw [Fields.conformMissing_cons] at h
    split at h
    · exact hlater h hr
    · obtain ⟨child, hchild, h⟩ := Checked.bind_eq_ok.mp h
      obtain ⟨rest, hrest, h⟩ := Checked.bind_eq_ok.mp h
      cases h
      rcases List.mem_append.mp hr with hr | hr
      · obtain ⟨w, rfl, rfl⟩ := Option.map_eq_some_iff.mp (Option.mem_toList.mp hr)
        refine ⟨f, List.mem_cons_self, rfl, ?_⟩
        unfold TypeSpec.supply at hchild
        cases hd : f.2.first.default? with
        | some d =>
          rw [hd] at hchild
          obtain ⟨u, hu, hsome⟩ := Checked.map_eq_ok.mp hchild
          cases hsome
          exact ⟨d, rfl, hu⟩
        | none =>
          rw [hd] at hchild
          cases hrequired : f.2.first.required <;> rw [hrequired] at hchild <;> cases hchild
      · exact hlater hrest hr

/-- **A field that is missing** is added if its type takes care of that. -/
theorem mem_conformMissing (h : Fields.conformMissing o path es fs = .ok rs)
    {f : String × TypeSpec} (hf : f ∈ fs) (hmissing : Value.hasKey es f.1 = false)
    (hasked : f.2.first.isAsked = true) : ∃ r ∈ rs, r.1 = .text f.1 := by
  induction fs generalizing rs with
  | nil => cases hf
  | cons g fs ih =>
    rw [Fields.conformMissing_cons] at h
    split at h
    next hkey =>
      rcases List.mem_cons.mp hf with rfl | hf
      · rw [hmissing] at hkey
        cases hkey
      · exact ih h hf
    next =>
      obtain ⟨child, hchild, h⟩ := Checked.bind_eq_ok.mp h
      obtain ⟨rest, hrest, h⟩ := Checked.bind_eq_ok.mp h
      cases h
      rcases List.mem_cons.mp hf with rfl | hf
      · unfold TypeSpec.supply at hchild
        cases hd : f.2.first.default? with
        | some d =>
          rw [hd] at hchild
          obtain ⟨u, -, hsome⟩ := Checked.map_eq_ok.mp hchild
          cases hsome
          exact ⟨_, List.mem_append_left _ List.mem_cons_self, rfl⟩
        | none =>
          rw [Node.isAsked, hd] at hasked
          rw [hd, (Bool.or_false _).symm.trans hasked] at hchild
          cases hchild
      · obtain ⟨r, hr, hkey⟩ := ih hrest hf
        exact ⟨r, List.mem_append_right _ hr, hkey⟩

/-- **An entry that a mapping leaves in a map**: it is made of an entry that was given or of a
default, by the type of its field, or it is an unknown one that is kept. -/
inductive Fields.Leaves (fs : Fields) (o : Options) (path : Path) (es : List (Value × Value)) :
    Value × Value → Prop
  | given {f : String × TypeSpec} {v w : Value} (hf : f ∈ fs) (hv : (.text f.1, v) ∈ es)
    (h : f.2.conform o (path ++ [.text f.1]) v = .ok w) : Fields.Leaves fs o path es (.text f.1, w)
  | default {f : String × TypeSpec} {d w : Value} (hf : f ∈ fs)
    (hd : f.2.first.default? = some d) (h : f.2.conform o (path ++ [.text f.1]) d = .ok w) :
    Fields.Leaves fs o path es (.text f.1, w)
  | unknown {e : Value × Value} (he : e ∈ es) (hnone : fs.typeAt? e.1 = none)
    (hkept : o.stripUnknown = false) : Fields.Leaves fs o path es e

/-- **What a mapping makes of a map**: every entry is one that it leaves, and every field is there
that may not be missing or has a default. -/
theorem Fields.conform_eq_ok (hnames : (fs.map Prod.fst).Nodup) {w : Value}
    (h : fs.conform o path es = .ok w) : ∃ rs, w = .map rs ∧
      (∀ r ∈ rs, fs.Leaves o path es r) ∧
      ∀ f ∈ fs, f.2.first.isAsked = true → ∃ r ∈ rs, r.1 = .text f.1 := by
  obtain ⟨found, hfound, h⟩ := Checked.bind_eq_ok.mp h
  obtain ⟨added, hadded, h⟩ := Checked.bind_eq_ok.mp h
  cases h
  refine ⟨found ++ added, rfl, fun r hr => ?_, fun f hf hasked => ?_⟩
  · obtain ⟨key, w⟩ := r
    rcases List.mem_append.mp hr with hr | hr
    · obtain ⟨v, hv, hchild⟩ := exists_of_mem_conformEntries hfound hr
      dsimp only at hv hchild
      rw [Fields.conformAt_eq] at hchild
      cases htype : fs.typeAt? key with
      | some t =>
        rw [htype] at hchild
        obtain ⟨name, hmem, rfl⟩ := Fields.exists_of_typeAt? htype
        obtain ⟨u, hu, hsome⟩ := Checked.map_eq_ok.mp hchild
        cases hsome
        exact .given hmem hv hu
      | none =>
        rw [htype] at hchild
        cases hstrip : o.stripUnknown with
        | true =>
          rw [hstrip] at hchild
          cases hchild
        | false =>
          rw [hstrip] at hchild
          cases hchild
          exact .unknown hv htype hstrip
    · obtain ⟨f, hf, rfl, d, hd, hchild⟩ := exists_of_mem_conformMissing hadded hr
      exact .default hf hd hchild
  · cases hhas : Value.hasKey es f.1 with
    | true =>
      obtain ⟨e, he, hkey⟩ := List.any_eq_true.mp hhas
      have hkey := keyNames_iff.mp hkey
      obtain ⟨r, hr, hrkey⟩ := mem_conformEntries hfound he (fun child hchild => by
        rw [Fields.conformAt_eq, hkey, Fields.typeAt?_of_mem hnames hf] at hchild
        obtain ⟨u, -, rfl⟩ := Checked.map_eq_ok.mp hchild
        rfl)
      exact ⟨r, List.mem_append_left _ hr, hrkey.trans hkey⟩
    | false =>
      obtain ⟨r, hr, hkey⟩ := mem_conformMissing hadded hf hhas hasked
      exact ⟨r, List.mem_append_right _ hr, hkey⟩

end Members

/-! ## The descent and the document -/

/-- **Whether the document of a type describes** all that a descent makes of comparable values. -/
def TypeSpec.Described (o : Options) (t : TypeSpec) : Prop :=
  ∀ path v w, v.everywhere Value.isComparable = true → t.conform o path v = .ok w →
    describes (.ofFields (t.jsonSchema (!o.stripUnknown))) w = true

theorem Fields.jsonSchemas_eq_map (others : Bool) (fs : Fields) :
    Fields.jsonSchemas others fs = fs.map (fun f => (f.1, f.2.jsonSchema others)) := by
  induction fs with
  | nil => rfl
  | cons f fs ih => rw [Fields.jsonSchemas, ih, List.map_cons]

section Descent

variable {o : Options} {path : Path} {fs : Fields} {es : List (Value × Value)}

/-- **What a mapping makes of a map** is described, if what its types make of values is. -/
theorem Fields.describes_of_conform (hnames : (fs.map Prod.fst).Nodup)
    (hfs : ∀ f ∈ fs, f.2.Describable ∧ f.2.Described o)
    (hes : ∀ e ∈ es, e.2.everywhere Value.isComparable = true) {w : Value}
    (h : fs.conform o path es = .ok w) :
    describes (.ofFields ((Schema.mapping fs).jsonSchema (!o.stripUnknown))) w = true := by
  obtain ⟨rs, rfl, hleaves, hasked⟩ := Fields.conform_eq_ok hnames h
  -- names are distinct, so an entry is made by the field whose name it has
  have hfield : ∀ f ∈ fs, ∀ g ∈ fs, g.1 = f.1 → g.2 = f.2 := by
    intro f hf g hg hname
    have htype := Fields.typeAt?_of_mem hnames hg
    rw [hname, Fields.typeAt?_of_mem hnames hf] at htype
    exact (Option.some.inj htype).symm
  rw [Schema.jsonSchema, Fields.jsonSchemas_eq_map]
  refine describes_ofMapping (List.forall_mem_map.mpr (fun f hf r hr hkey => ?_))
    (fun hothers r hr => ?_) (fun name hname => ?_)
  · obtain ⟨hdescribable, hdescribed⟩ := hfs f hf
    cases hleaves r hr with
    | given hg hv hw =>
      rw [hfield f hf _ hg (Value.text.inj hkey)] at hw
      exact hdescribed _ _ _ (hes _ hv) hw
    | default hg hd hw =>
      rw [hfield f hf _ hg (Value.text.inj hkey)] at hd hw
      exact hdescribed _ _ _
        (TypeSpec.everywhere_of_default hdescribable.comparableDefaults hd) hw
    | unknown _ hnone _ =>
      rw [hkey, Fields.typeAt?_of_mem hnames hf] at hnone
      cases hnone
  · cases hleaves r hr with
    | given hf _ _ => exact ⟨_, List.mem_map_of_mem hf, rfl⟩
    | default hf _ _ => exact ⟨_, List.mem_map_of_mem hf, rfl⟩
    | unknown _ _ hkept =>
      rw [hkept] at hothers
      cases hothers
  · obtain ⟨f, hf, rfl⟩ := List.mem_map.mp hname
    obtain ⟨hf, hrequires⟩ := List.mem_filter.mp hf
    obtain ⟨n, hn, -⟩ := (hfs f hf).1.exists_node
    refine hasked f hf ?_
    rw [hn] at hrequires ⊢
    exact Bool.or_eq_true_iff.mpr (.inl ((Bool.or_false _).symm.trans hrequires))

/-- **What a node without members makes of a value** is described. -/
theorem Node.describes_of_accepts {n : Node} (hn : n.isDescribable = true)
    (hleaf : n.isComposite = false) {v w : Value} (hv : v.everywhere Value.isComparable = true)
    (h : n.Accepts v w) (others : Bool) :
    describes (.ofFields (n.jsonSchema others)) w = true := by
  cases h with
  | @string p r s h =>
    refine describes_withPresence _ (describes_ofString h (fun texts htexts t ht => ?_))
    rw [Node.isDescribable, htexts] at hn
    exact eq_of_beq (List.all_eq_true.mp hn t ht)
  | @number p r x h =>
    obtain ⟨hmin, hmax⟩ := Bool.and_eq_true_iff.mp hn
    rw [Option.all_eq_true] at hmin hmax
    exact describes_withPresence _ (describes_ofNumber h (Value.self_of_everywhere hv) hmin hmax)
  | boolean => exact describes_withPresence _ (describes_typed List.mem_cons_self)
  | date => cases hn
  | object => cases hleaf
  | array => cases hleaf

/-- **What a type makes of a value** is described. -/
theorem TypeSpec.Describable.described {t : TypeSpec} (ht : t.Describable) : t.Described o := by
  induction hdepth : t.depth using Nat.strongRecOn generalizing t with
  | ind depth ih =>
    subst hdepth
    intro path v w hv h
    obtain ⟨n, rfl, hn⟩ := ht.exists_node
    obtain ⟨rfl, haccepts⟩ | hnode := conform_single_eq_ok h
    · cases n <;> exact describes_withPresence_null haccepts
    · cases n with
      | object p s =>
        cases s with
        | union => cases hn
        | mapping fs =>
          obtain ⟨es, rfl, hes⟩ := Node.conform_object_eq_ok hnode
          exact describes_withPresence _ (Fields.describes_of_conform
            (nodup_of_mem ht.wellNamed List.mem_cons_self)
            (fun f hf => ⟨ht.of_field hf, ih _ (Fields.depth_lt_of_mem hf) (ht.of_field hf) rfl⟩)
            (Value.everywhere_map.mp hv).2 hes)
      | array p u c =>
        obtain ⟨vs, ws, rfl, rfl, hcount, hws⟩ := Node.conform_array_eq_ok hnode
        obtain ⟨hlength, hitems⟩ := conformItems_eq_ok hws
        refine describes_withPresence _ (describes_ofArray (hlength ▸ hcount) (fun w hw => ?_))
        obtain ⟨i, v, hvs, hconform⟩ := hitems w hw
        exact ih _ (Nat.lt_succ_self _) ht.of_items rfl _ v w
          ((Value.everywhere_list.mp hv).2 v hvs) hconform
      | date => cases hn
      | _ =>
        exact Node.describes_of_accepts hn rfl hv (Node.check_eq_ok_iff.mp hnode)
          (!o.stripUnknown)

end Descent

/-! ## Results -/

/-- What is returned is returned as well where validation ends at the first violation. -/
theorem Fields.validateShared_failingFast_of_ok {fs : Fields} {o : Options} {data r : Value}
    (h : fs.validateShared o data = .ok r) : fs.validateShared o.failingFast data = .ok r := by
  cases habort : o.abortEarly with
  | true =>
    have hself : o.failingFast = o := by rw [Options.failingFast, ← habort]
    rwa [hself]
  | false =>
    have hself : o.collecting = o := by rw [Options.collecting, ← habort]
    have hcut := Fields.cutShort_validateShared fs o data
    unfold Validated.CutShort at hcut
    rwa [hself, h] at hcut

/-- **A result is what a descent makes of the data**, with its keys sorted if that is asked for. -/
theorem Fields.exists_conform_of_validateShared {fs : Fields} {o : Options} {data r : Value}
    (hshare : Fields.everyType TypeSpec.sharesNothing fs = true)
    (hnames : (fs.map Prod.fst).Nodup) (hfs : ∀ f ∈ fs, f.2.Direct)
    (hdata : data.everywhere Value.isPlain = true) (h : fs.validateShared o data = .ok r) :
    ∃ es v, data = .map es ∧ fs.conform o.failingFast [] es = .ok v ∧ r = o.arranged v := by
  have hcopied : data.everywhere Value.isCopied = true :=
    Value.everywhere_mono (fun _ => Value.isCopied_of_isPlain) hdata
  have hfast := validateShared_failingFast_of_ok h
  rw [validateShared_eq_validate hshare] at h hfast
  obtain ⟨es, v, hes, hv, hr⟩ := Fields.validate_eq_ok.mp hfast
  obtain rfl : data = .map es := Except.ok.inj ((Value.plain_eq_self hcopied).symm.trans hes)
  refine ⟨es, v, rfl, ?_, hr⟩
  have hrun := Course.walkRoot_is (o := o.failingFast) rfl hnames hfs hdata
  unfold Walk.Is at hrun
  rw [show _ = Except.ok (v, []) from hv] at hrun
  cases hconform : fs.conform o.failingFast [] es with
  | error e =>
    rw [hconform] at hrun
    cases hrun
  | ok w =>
    rw [hconform] at hrun
    cases hrun
    rfl

/-- **What a validation returns is described by the exported document**, for a schema that has been
read, without unions and dates, whose allowed texts are in normal form and whose defaults are plain
and share no containers. All bounds, and all numbers in the defaults and in the data, can be
compared. -/
theorem Schema.jsonSchema_describes {d : RawDocument} {data r : Value} {s : Schema} {o : Options}
    (hread : Schema.read d = .ok s) (hshare : s.everyType TypeSpec.sharesNothing = true)
    (hs : s.isUnion = false)
    (htypes : s.everyType TypeSpec.isDescribable = true)
    (hplain : s.everyType (TypeSpec.defaultsPass Value.isPlain) = true)
    (hcomparable : s.everyType (TypeSpec.defaultsPass Value.isComparable) = true)
    (hdata : data.everywhere Value.isPlain = true)
    (hnumbers : data.everywhere Value.isComparable = true)
    (h : s.validateShared o data = .ok r) :
    describes (.ofFields (s.jsonSchema (!o.stripUnknown))) r = true := by
  cases s with
  | union => cases hs
  | mapping fs =>
    obtain ⟨hnames, hnamed⟩ := Schema.names_of_read hread
    have hdirect := Schema.everyType_mono TypeSpec.isDirect_of_isDescribable htypes
    obtain ⟨es, v, rfl, hv, rfl⟩ := Fields.exists_conform_of_validateShared hshare hnames
      (fun f hf => ⟨Fields.everyType_of_mem hdirect hf, Fields.everyType_of_mem hnamed hf,
        Fields.everyType_of_mem hplain hf⟩) hdata h
    have hdescribes := Fields.describes_of_conform hnames
      (fun f hf =>
        have ht : f.2.Describable := ⟨Fields.everyType_of_mem htypes hf,
          Fields.everyType_of_mem hnamed hf, Fields.everyType_of_mem hcomparable hf⟩
        ⟨ht, ht.described⟩)
      (Value.everywhere_map.mp hnumbers).2 hv
    unfold Options.arranged
    split
    · exact describes_reordered v.reordered_sortKeys hdescribes
    · exact hdescribes

/-- The document of an order: a code, a number of pieces, lines with a change of stock and a unit,
and a note. -/
def Schema.orderDocument : Value :=
  .map [(.text "code", .map [(.text "type", .text "string"),
      (.text "enum", .list [.text "abc", .text "xyz"]), (.text "max", .int 3)]),
    (.text "pieces", .map [(.text "type", .text "number"), (.text "integer", .bool true),
      (.text "min", .int 1), (.text "default", .int 1)]),
    (.text "lines", .map [(.text "type", .text "array"), (.text "max", .int 2),
      (.text "items", .map [(.text "type", .text "object"), (.text "properties", .map [
        (.text "stock", .map [(.text "type", .text "number"), (.text "negative", .bool true)]),
        (.text "unit", .map [(.text "type", .text "string"), (.text "default", .text "kg")])])])]),
    (.text "note", .map [(.text "type", .text "string"), (.text "default", .null)])]

/-- The schema that is read from it. -/
def Schema.order : Schema :=
  .mapping [("code", .single (.string {} { allowed := some ["abc", "xyz"], max := some 3 })),
    ("pieces", .single (.number { default? := some (some (.int 1)) }
      { integer := true, min := some (.int 1) })),
    ("lines", .single (.array {} (.single (.object {} (.mapping
      [("stock", .single (.number {} { negative := true })),
        ("unit", .single (.string { default? := some (some "kg") } {}))]))) { max := some 2 })),
    ("note", .single (.string { default? := some none } {}))]

/-- An order with some lines, as it is returned. -/
def Value.orderOf (lines : List Value) : Value :=
  .map [(.text "code", .text "abc"), (.text "lines", .list lines), (.text "pieces", .int 1),
    (.text "note", .null)]

/-- An order whose pieces, unit and note are put in, and whose unknown color is dropped. A stock of
zero would not be described. -/
theorem Schema.order_described : Schema.read orderDocument = .ok order ∧
    order.validateShared { stripUnknown := true } (.map [(.text "code", .text " abc"),
      (.text "color", .text "red"), (.text "lines", .list [.map [(.text "stock", .int (-2))]])]) =
        .ok (Value.orderOf [.map [(.text "stock", .int (-2)), (.text "unit", .text "kg")]]) ∧
    describes (.ofFields (order.jsonSchema false))
      (Value.orderOf [.map [(.text "stock", .int (-2)), (.text "unit", .text "kg")]]) = true ∧
    describes (.ofFields (order.jsonSchema false))
      (Value.orderOf [.map [(.text "stock", .int 0), (.text "unit", .text "kg")]]) = false := by
  have hread : Schema.read orderDocument = .ok order := rfl
  have hresult : order.validateShared { stripUnknown := true } (.map [(.text "code", .text " abc"),
      (.text "color", .text "red"), (.text "lines", .list [.map [(.text "stock", .int (-2))]])]) =
        .ok (Value.orderOf [.map [(.text "stock", .int (-2)), (.text "unit", .text "kg")]]) := rfl
  have hdescribes := Schema.jsonSchema_describes hread rfl rfl rfl rfl rfl rfl rfl hresult
  exact ⟨hread, hresult, hdescribes, rfl⟩

/-- **A result is not described where a default shares a container**, even a plain one: each half is
required to have its text, and what is unknown in the other half is dropped in both. -/
theorem Schema.halves_not_described :
    ¬ ∀ (d : RawDocument) (data r : Value) (s : Schema) (o : Options), Schema.read d = .ok s →
      s.isUnion = false → s.everyType TypeSpec.isDescribable = true →
      s.everyType (TypeSpec.defaultsPass Value.isPlain) = true →
      s.everyType (TypeSpec.defaultsPass Value.isComparable) = true →
      data.everywhere Value.isPlain = true → data.everywhere Value.isComparable = true →
      s.validateShared o data = .ok r →
      describes (.ofFields (s.jsonSchema (!o.stripUnknown))) r = true := by
  intro hdescribed
  have hresult : Schema.halves.validateShared { stripUnknown := true } (.map []) =
      .ok (.map [(.text "o", .map [(.text "x", .map []), (.text "y", .map [])])]) := rfl
  have hdescribes := hdescribed Schema.halvesDocument (.map []) _ Schema.halves _ rfl rfl rfl rfl
    rfl rfl rfl hresult
  cases hdescribes

end Conform
