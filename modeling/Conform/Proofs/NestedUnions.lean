import Conform.Proofs.Composition
import Conform.Proofs.Descent
import Conform.Proofs.Repetition

/-!
# Unions of mappings below an object

At the root of a schema the mappings of a union are tried one after another, each on the data as a
whole. Below an object they are not. No marks are put in there, and the type of every key is looked
up in all of the mappings, the first that declares the rest of the path winning. So what is accepted
below an object is put together key by key: a map is accepted if each of its entries is accepted
alone (`Fields.accepts_nested_iff`), whichever mapping an entry is taken from, and whatever fields
any of the mappings would miss. In particular the empty map is always accepted, although every
mapping may reject it (`Fields.nested_accepts_rejected`).

The two meanings agree on a map that belongs to one of the mappings: its keys are looked up in this
mapping, and it lacks none of the fields that this mapping asks for. For such a map the union below
the object says what the mapping says (`Fields.validateShared_nested_union`). What stands in the way
of the comparison are the marks, which only the mapping puts in. Where nothing is asked for at their
places they are dropped, and then the marked map is walked like the map itself
(`Course.walkMembers_mark`).
-/

namespace Conform

theorem Value.Alike.isContainer {v w : Value} (h : v.Alike w) (hv : v.isContainer = true) :
    w.isContainer = true := by
  cases h with
  | refl => exact hv
  | _ => rfl

namespace Course

open Walk Value

variable {c : Course} {path : Path} {budget : Nat}

/-! ## Containers of one shape -/

theorem unknown_of_isPresent {v : Value} (h : v.isPresent = true) :
    c.unknown v = if c.options.stripUnknown then none else some v := by
  cases v <;> first | rfl | cases h

/-- **A check sees no more of a container than its shape.** -/
theorem exists_check_containers (n : Node) (site : Site) {v w : Value} (h : Value.Alike v w)
    (hv : v.isContainer = true) : ∃ x : Checked Unit,
      n.check site v = (fun _ => v) <$> x ∧ n.check site w = (fun _ => w) <$> x := by
  have hlist : ∀ {vs ws : List Value}, vs.length = ws.length → ∃ x : Checked Unit,
      n.check site (.list vs) = (fun _ => .list vs) <$> x ∧
        n.check site (.list ws) = (fun _ => .list ws) <$> x := by
    intro vs ws hlength
    cases n with
    | array p t count =>
      refine ⟨site.requireLength vs.length count.min count.max .arrayMin .arrayMax, ?_, ?_⟩
      · rw [Node.check, map_eq_pure_bind]
      · rw [Node.check, map_eq_pure_bind, hlength]
    | string => exact ⟨site.fail .stringType [], rfl, rfl⟩
    | number => exact ⟨site.fail .numberType [], rfl, rfl⟩
    | boolean => exact ⟨site.fail .booleanType [], rfl, rfl⟩
    | date => exact ⟨site.fail .dateType [], rfl, rfl⟩
    | object => exact ⟨site.fail .objectType [], rfl, rfl⟩
  have hmap : ∀ es fs : List (Value × Value), ∃ x : Checked Unit,
      n.check site (.map es) = (fun _ => .map es) <$> x ∧
        n.check site (.map fs) = (fun _ => .map fs) <$> x := by
    intro es fs
    cases n with
    | object => exact ⟨pure (), rfl, rfl⟩
    | string => exact ⟨site.fail .stringType [], rfl, rfl⟩
    | number => exact ⟨site.fail .numberType [], rfl, rfl⟩
    | boolean => exact ⟨site.fail .booleanType [], rfl, rfl⟩
    | date => exact ⟨site.fail .dateType [], rfl, rfl⟩
    | array => exact ⟨site.fail .arrayType [], rfl, rfl⟩
  cases h with
  | map es fs => exact hmap es fs
  | list hlength => exact hlist hlength
  | refl =>
    cases v with
    | map es => exact hmap es es
    | list vs => exact hlist rfl
    | _ => cases hv

/-- **Containers of one shape are visited alike**: both stay as they are, or both are dropped. -/
theorem exists_visit_containers (c : Course) (path : Path) {v w : Value} (h : Value.Alike v w)
    (hv : v.isContainer = true) : ∃ kept : Walk Bool,
      c.visit path v = (fun k => if k then some v else none) <$> kept ∧
        c.visit path w = (fun k => if k then some w else none) <$> kept := by
  have hw := h.isContainer hv
  have happly : ∀ t : TypeSpec, ∃ x : Checked Unit,
      apply (c.site path) t v = (fun _ => some v) <$> x ∧
        apply (c.site path) t w = (fun _ => some w) <$> x := by
    intro t
    obtain ⟨x, hx, hx'⟩ := exists_check_containers (t.resolve v) (c.site path) h hv
    rw [apply_of_present (ne_null_of_isContainer hv) (ne_absent_of_isContainer hv),
      apply_of_present (ne_null_of_isContainer hw) (ne_absent_of_isContainer hw), checkPresent,
      checkPresent, ← TypeSpec.resolve_congr (ne_absent_of_isContainer hv)
        (ne_absent_of_isContainer hw) h.matches_eq]
    simp only [h.matches_eq]
    cases t.isUnion && !t.candidates.any (fun n => n.matches w) with
    | true => exact ⟨(c.site path).fail .union [], rfl, rfl⟩
    | false =>
      refine ⟨x, ?_, ?_⟩
      · rw [if_neg (by simp), hx, Functor.map_map]
      · rw [if_neg (by simp), hx', Functor.map_map]
  unfold visit
  cases c.schema.locate path with
  | none =>
    refine ⟨pure (!c.options.stripUnknown), ?_, ?_⟩
    · rw [unknown_of_isPresent (isPresent_of_isContainer hv)]
      cases c.options.stripUnknown <;> rfl
    · rw [unknown_of_isPresent (isPresent_of_isContainer hw)]
      cases c.options.stripUnknown <;> rfl
  | some t =>
    obtain ⟨x, hx, hx'⟩ := happly t
    dsimp only
    rw [hx, hx']
    cases x with
    | ok _ => exact ⟨pure true, rfl, rfl⟩
    | error e =>
      cases e with
      | violation violation =>
        refine ⟨c.report violation >>= fun _ => pure true, ?_, ?_⟩
        · simp [leftOver_of_isPresent (isPresent_of_isContainer hv)]
        · simp [leftOver_of_isPresent (isPresent_of_isContainer hw)]
      | dateOutOfRange => exact ⟨throw .dateOutOfRange, rfl, rfl⟩
      | search e => exact ⟨throw (.search e), rfl, rfl⟩

/-- **Containers of one shape are walked alike** if their members are. -/
theorem walkAlone_congr_alike (hne : path ≠ []) {v w : Value} (h : Value.Alike v w)
    (hv : v.isContainer = true)
    (hmembers : walkMembers (c.walkAlone budget) path v = walkMembers (c.walkAlone budget) path w) :
    c.walkAlone (budget + 1) path v = c.walkAlone (budget + 1) path w := by
  obtain ⟨kept, hvisit, hvisit'⟩ := exists_visit_containers c path h hv
  rw [walkAlone_succ hne (ne_absent_of_isContainer hv),
    walkAlone_succ hne (ne_absent_of_isContainer (h.isContainer hv)), hvisit, hvisit',
    bind_map_left, bind_map_left]
  refine bind_congr (fun k => ?_)
  cases k with
  | true => exact congrArg (· >>= fun u => pure (some u)) hmembers
  | false => rfl

/-! ## Marks that are dropped -/

section Members

variable {member : Path → Value → Walk (Option Value)}

/-- Entries whose values are walked alike. -/
theorem walkEntries_map_congr {es : List (Value × Value)} {f : Value × Value → Value}
    (h : ∀ e ∈ es, member (path ++ [e.1]) (f e) = member (path ++ [e.1]) e.2) :
    walkEntries member path (es.map (fun e => (e.1, f e))) = walkEntries member path es := by
  induction es with
  | nil => rfl
  | cons e es ih =>
    rw [List.forall_mem_cons] at h
    rw [List.map_cons, walkEntries, walkEntries, h.1, ih h.2]

/-- Items that are walked alike. -/
theorem walkItems_map_congr {vs : List Value} {f : Value → Value} {index : Nat}
    (h : ∀ i v, vs[i]? = some v → member (path ++ [.int ((index + i : Nat) : Int)]) (f v) =
      member (path ++ [.int ((index + i : Nat) : Int)]) v) :
    walkItems member path index (vs.map f) = walkItems member path index vs := by
  induction vs generalizing index with
  | nil => rfl
  | cons v vs ih =>
    have hrest : walkItems member path (index + 1) (vs.map f) =
        walkItems member path (index + 1) vs := by
      refine ih (fun i w hget => ?_)
      have hnext := h (i + 1) w hget
      rwa [← Nat.add_assoc, Nat.add_right_comm] at hnext
    rw [List.map_cons, walkItems, walkItems, hrest]
    exact congrArg (· >>= _) (h 0 v rfl)

/-- Entries that are all dropped. -/
theorem walkEntries_of_dropped {es : List (Value × Value)}
    (h : ∀ e ∈ es, member (path ++ [e.1]) e.2 = pure none) :
    walkEntries member path es = pure [] := by
  induction es with
  | nil => rfl
  | cons e es ih =>
    rw [List.forall_mem_cons] at h
    rw [walkEntries, h.1, ih h.2]
    rfl

end Members

/-- A marked value is walked like the value, if its members are. -/
theorem walkAlone_mark (hne : path ≠ []) {m : Marker} {v : Value}
    (hbudget : c.schema.depth < budget + path.length)
    (hmembers : ∀ b, c.schema.depth < b + 1 + path.length →
      walkMembers (c.walkAlone b) path (m.mark v) = walkMembers (c.walkAlone b) path v) :
    c.walkAlone budget path (m.mark v) = c.walkAlone budget path v := by
  cases hcontainer : v.isContainer with
  | false => rw [m.mark_of_leaf hcontainer]
  | true =>
    obtain ⟨b, hb, hsucc⟩ := exists_walkAlone_succ hbudget
    rw [hsucc, hsucc]
    exact (walkAlone_congr_alike hne (m.mark_alike v) hcontainer (hmembers b hb).symm).symm

/-- **Where its marks are dropped, a marked value is walked like the value.** -/
theorem walkMembers_mark {m : Marker} {v : Value} (hm : m.All TypeSpec.wellNamed)
    (hcopied : v.everywhere Value.isCopied = true)
    (hbudget : c.schema.depth < budget + 1 + path.length)
    (hmarks : ∀ key more, (m.mark v).At (key :: more) .absent →
      ∀ t, c.schema.locate (path ++ key :: more) = some t →
        t.first.default? = none ∧ t.first.required = false) :
    walkMembers (c.walkAlone budget) path (m.mark v) = walkMembers (c.walkAlone budget) path v := by
  induction v using Value.members_induction generalizing path m budget with
  | map es ih =>
    obtain ⟨hkeys, hes⟩ := Value.isCopied_map_iff.mp hcopied
    rw [m.mark_map hm hkeys] at hmarks ⊢
    have hmissing : walkEntries (c.walkAlone budget) path (m.missing es) = pure [] := by
      refine walkEntries_of_dropped (fun e he => ?_)
      have habsent := m.absent_of_mem_missing he
      rw [habsent]
      exact walkAlone_absent_of_dropped
        (hmarks e.1 [] (.entry (List.mem_append_right _ he) (habsent ▸ .here _)))
    have hown : walkEntries (c.walkAlone budget) path
        (es.map (fun e => (e.1, (m.atKey e.1).mark e.2))) =
          walkEntries (c.walkAlone budget) path es := by
      refine walkEntries_map_congr (fun e he => ?_)
      refine walkAlone_mark (by simp) (depth_lt_of_member e.1 hbudget) (fun b hb => ?_)
      refine ih e he (hm.atKey e.1) (hes e he) hb (fun key more hat => ?_)
      rw [List.append_assoc]
      exact hmarks e.1 (key :: more)
        (.entry (List.mem_append_left _ (List.mem_map.mpr ⟨e, he, rfl⟩)) hat)
    rw [walkMembers, walkMembers, walkEntries_append, hown, hmissing]
    simp
  | list vs ih =>
    rw [m.mark_list] at hmarks ⊢
    refine congrArg (Value.list <$> ·) (walkItems_map_congr (fun i v hget => ?_))
    rw [Nat.zero_add]
    have hmem := List.mem_of_getElem? hget
    refine walkAlone_mark (by simp) (depth_lt_of_member _ hbudget) (fun b hb => ?_)
    refine ih v hmem hm.ofItems (Value.isCopied_list_iff.mp hcopied v hmem) hb
      (fun key more hat => ?_)
    rw [List.append_assoc]
    exact hmarks (.int i) (key :: more) (.item (by rw [List.getElem?_map, hget]; rfl) hat)
  | other v hleaf => rw [m.mark_of_leaf hleaf]

end Course

/-! ## Key by key -/

section Nested

variable {name : String} {s : Schema} {p : Presence (List (String × Value))} {o : Options}
  {es : List (Value × Value)}

/-- A union of mappings puts in no marks. -/
theorem TypeSpec.seed_of_nested_union (hs : s.isUnion = true) (es : List (Value × Value)) :
    (TypeSpec.single (.object p s)).seed (.map es) = .map es := by
  cases s with
  | mapping fs => cases hs
  | union fs gs hs => rfl

/-- The walk of the field is that of the entries. -/
theorem Course.walk_nested (es : List (Value × Value)) :
    (⟨.mapping [(name, .single (.object p s))], o⟩ : Course).walkAlone (s.depth + 1) [.text name]
        (.map es) =
      some <$> Value.map <$> walkEntries
        ((⟨.mapping [(name, .single (.object p s))], o⟩ : Course).walkAlone s.depth)
        [.text name] es :=
  walkAlone_container (by simp) rfl (visit_object name s p o es)

/-- **What is returned below an object** is what the walk of the entries yields. -/
theorem Fields.validateShared_nested_eq_ok (hs : s.isUnion = true)
    (hes : (Value.map es).everywhere Value.isCopied = true) {r : Value} :
    Fields.validateShared [(name, .single (.object p s))] o (.ofField name (.map es)) = .ok r ↔
      ∃ rs, (Course.walkEntries ((⟨.mapping [(name, .single (.object p s))], o⟩ : Course).walkAlone
        s.depth) [.text name] es).Yields rs ∧ r = .ofField name (o.arranged (.map rs)) := by
  have hcopied : (Value.map [(Value.text name, Value.map es)]).everywhere Value.isCopied = true :=
    Value.isCopied_map_iff.mpr
      ⟨List.nodup_singleton name, fun e he => by rwa [List.mem_singleton.mp he]⟩
  rw [Value.ofField, validateShared_map_eq_ok hcopied, seed_field, TypeSpec.seed_of_nested_union hs,
    Course.walkShared_field]
  show (∃ v, ((_ : Option Value → Value) <$> Course.walkAlone _ (s.depth + 1) _ _).Yields v ∧ _) ↔ _
  rw [Course.walk_nested]
  simp only [Walk.yields_map]
  constructor
  · rintro ⟨_, ⟨_, ⟨_, ⟨rs, hrs, rfl⟩, rfl⟩, rfl⟩, rfl⟩
    exact ⟨rs, hrs, o.arranged_ofField name _⟩
  · rintro ⟨rs, hrs, rfl⟩
    exact ⟨_, ⟨_, ⟨_, ⟨rs, hrs, rfl⟩, rfl⟩, rfl⟩, (o.arranged_ofField name _).symm⟩

/-- **Below an object, a union of mappings accepts a map key by key.** -/
theorem Fields.accepts_nested_iff (hs : s.isUnion = true)
    (hes : (Value.map es).everywhere Value.isCopied = true) :
    (∃ r,
      Fields.validateShared [(name, .single (.object p s))] o (.ofField name (.map es)) = .ok r) ↔
      ∀ e ∈ es, ∃ r, Fields.validateShared [(name, .single (.object p s))] o
        (.ofField name (.map [e])) = .ok r := by
  have happends := (⟨.mapping [(name, .single (.object p s))], o⟩ : Course).appends_walkAlone
    s.depth
  have hsingle : ∀ e ∈ es, (Value.map [e]).everywhere Value.isCopied = true := by
    intro e he
    obtain ⟨hkeys, hall⟩ := Value.isCopied_map_iff.mp hes
    refine Value.isCopied_map_iff.mpr ⟨hkeys.sublist ?_, fun e' he' => ?_⟩
    · exact (List.singleton_sublist.mpr he).filterMap _
    · rw [List.mem_singleton.mp he']
      exact hall e he
  constructor
  · rintro ⟨r, hr⟩ e he
    obtain ⟨rs, hrs, -⟩ := (validateShared_nested_eq_ok hs hes).mp hr
    obtain ⟨child, hchild, -⟩ := Course.yields_of_mem_walkEntries happends hrs he
    exact ⟨_, (validateShared_nested_eq_ok hs (hsingle e he)).mpr ⟨_,
      (Course.walkEntries_cons_yields happends).mpr ⟨child, [], hchild, Walk.yields_pure.mpr rfl,
        rfl⟩, rfl⟩⟩
  · intro h
    obtain ⟨rs, hrs⟩ := Course.exists_yields_walkEntries happends (fun e he => by
      obtain ⟨r, hr⟩ := h e he
      obtain ⟨rs, hrs, -⟩ := (validateShared_nested_eq_ok hs (hsingle e he)).mp hr
      obtain ⟨child, -, hchild, -⟩ := (Course.walkEntries_cons_yields happends).mp hrs
      exact ⟨child, hchild⟩)
    exact ⟨_, (validateShared_nested_eq_ok hs hes).mpr ⟨rs, hrs, rfl⟩⟩

/-! ## The mapping that a map belongs to -/

/-- **A map belongs to a mapping of a schema**: its keys are looked up in this mapping, and nothing
that it lacks is asked for by the mapping. -/
structure Fields.Owns (fs : Fields) (s : Schema) (es : List (Value × Value)) : Prop where
  found : ∀ e ∈ es, ∀ rest : Path,
    s.locate (e.1 :: rest) = (Schema.mapping fs).locate (e.1 :: rest)
  complete : ∀ path t, (fs.asType.seed (.map es)).At path .absent →
    (Schema.mapping fs).locate path = some t →
    t.first.default? = none ∧ t.first.required = false

/-- A mapping owns the keys that only it declares. -/
theorem Fields.locate_of_typesAt {fs : Fields} {key : Value}
    (h : s.typesAt key = (fs.typeAt? key).toList) (rest : Path) :
    s.locate (key :: rest) = (Schema.mapping fs).locate (key :: rest) := by
  rw [Schema.locate_cons, Schema.locate_cons, Schema.typesAt_mapping, h]

/-- The mapping walks a map that belongs to it as if there were no marks. -/
theorem Course.walkShared_of_owns {fs : Fields} (hnames : (fs.map Prod.fst).Nodup)
    (hnamed : Fields.everyType TypeSpec.wellNamed fs = true)
    (hes : (Value.map es).everywhere Value.isCopied = true) (h : fs.Owns s es) :
    (⟨.mapping fs, o⟩ : Course).walkShared (Fields.seed fs es) =
      (⟨.mapping fs, o⟩ : Course).walkShared es := by
  rw [walkShared_eq, walkShared_eq]
  exact walkMembers_mark (m := some fs.asType) (Fields.wellNamed_asType hnames hnamed) hes
    (Nat.lt_succ_self _) (fun key more hat t ht => h.complete (key :: more) t hat ht)

/-- **The entries are walked alike** by the mapping and below the object. -/
theorem Course.related_nested (name : String) (p : Presence (List (String × Value))) (o : Options)
    {fs : Fields} (hfs : fs ∈ s.members) (h : fs.Owns s es) :
    Walk.Related (.moved o [] [.text name]) Eq ((⟨.mapping fs, o⟩ : Course).walkShared es)
      (Value.map <$> walkEntries ((⟨.mapping [(name, .single (.object p s))], o⟩ : Course).walkAlone
        s.depth) [.text name] es) := by
  let inner : Course := ⟨.mapping fs, o⟩
  let outer : Course := ⟨.mapping [(name, .single (.object p s))], o⟩
  -- the mapping may have more of a budget
  obtain ⟨more, hmore⟩ := Nat.exists_eq_add_of_le (Schema.depth_le_of_mem hfs)
  have hroot : inner.walkShared es = Value.map <$> walkEntries (inner.walkAlone s.depth) [] es := by
    rw [hmore]
    exact (walkShared_add_budget more es).symm
  have hentries : Walk.Related (.moved o [] [.text name]) Eq
      (walkEntries (inner.walkAlone s.depth) [] es)
      (walkEntries (outer.walkAlone s.depth) [.text name] es) := by
    refine related_walkEntries (inner.appends_walkAlone _) (outer.appends_walkAlone _) .equal
      (List.forall₂_same.mpr (fun e he => ?_))
    have hmember : Walk.Related (.moved o [] [.text name]) Eq
        (inner.walkAlone s.depth ([] ++ [e.1]) e.2)
        (outer.walkAlone s.depth ([.text name] ++ [e.1]) e.2) :=
      related_walkAlone [] [.text name] [e.1] (fun rest => by
        show _ = Schema.locate _ (.text name :: e.1 :: rest)
        rw [Schema.locate_field, TypeSpec.locate, Node.locate]
        exact (h.found e he rest).symm) e.2
    exact hmember.mono (fun _ _ hchild => by rw [hchild]; rfl)
  show Walk.Related _ _ (inner.walkShared es) _
  rw [hroot]
  exact hentries.map (fun _ _ hrs => congrArg Value.map hrs)

/-- **A union of mappings below an object**, for a schema that has been read.

* It accepts a map if it accepts each entry of the map alone.
* On a map that belongs to one of the mappings, it says what this mapping says, with the name of
  the field put in front of the paths. -/
theorem Fields.validateShared_nested_union {raw : RawDocument} (hread : Schema.read raw = .ok s)
    (hs : s.isUnion = true) (o : Options) (name : String) (p : Presence (List (String × Value)))
    (es : List (Value × Value)) (hes : (Value.map es).everywhere Value.isPlain = true) :
    ((∃ r,
      Fields.validateShared [(name, .single (.object p s))] o (.ofField name (.map es)) = .ok r) ↔
      ∀ e ∈ es, ∃ r, Fields.validateShared [(name, .single (.object p s))] o
        (.ofField name (.map [e])) = .ok r) ∧
    ∀ fs ∈ s.members, fs.Owns s es →
      (∀ r, Fields.validateShared [(name, .single (.object p s))] o (.ofField name (.map es)) =
          .ok (.ofField name r) ↔ fs.validateShared o (.map es) = .ok r) ∧
      ∃ d : Verdict Value, fs.validateShared o (.map es) = d.outcome o.catalog ∧
        Fields.validateShared [(name, .single (.object p s))] o (.ofField name (.map es)) =
          ((d.under [.text name]).map (.ofField name)).outcome o.catalog := by
  have hcopied : (Value.map es).everywhere Value.isCopied = true :=
    Value.everywhere_mono (fun _ => Value.isCopied_of_isPlain) hes
  refine ⟨accepts_nested_iff hs hcopied, fun fs hfs howns => ?_⟩
  have hplain := Value.plain_eq_self hcopied
  obtain ⟨hnames, hnamed⟩ := Schema.names_of_wellNamed
    (Schema.wellNamed_of_mem (Schema.wellNamed_of_read raw s hread) hfs)
  obtain ⟨d, hinner, houter⟩ := (Course.related_nested name p o hfs howns).exists_verdict
  rw [← Course.walkShared_of_owns hnames hnamed hcopied howns] at hinner
  have hverdict : fs.validateShared o (.map es) = (d.map o.arranged).outcome o.catalog ∧
      Fields.validateShared [(name, .single (.object p s))] o (.ofField name (.map es)) =
        (((d.map o.arranged).under [.text name]).map (.ofField name)).outcome o.catalog := by
    refine ⟨?_, Fields.validateShared_field hplain ?_⟩
    · rw [Fields.validateShared, hplain]
      dsimp only
      rw [Options.conclude_of_tells hinner, Verdict.under_nil]
    · rw [TypeSpec.seed_of_nested_union hs]
      show (Course.walkAlone _ (s.depth + 1) _ _).Tells o [.text name] _
      rw [Course.walk_nested]
      exact houter.map some
  refine ⟨fun r => ?_, d.map o.arranged, hverdict⟩
  rw [hverdict.1, hverdict.2, Verdict.outcome_ofField_eq_ok]

end Nested

/-- Either a size or a tag. -/
def Schema.sizeOrTagDocument : Value :=
  .list [.map [(.text "size", .map [(.text "type", .text "number")])],
    .map [(.text "tag", .map [(.text "type", .text "string")])]]

/-- What has a size belongs to the first mapping. -/
theorem Schema.sizeOrTagDocument_nested : ∃ s : Schema,
    Schema.read sizeOrTagDocument = .ok s ∧ s.isUnion = true ∧
      (∃ r, Fields.validateShared [("o", .single (.object {} s))] {}
        (.ofField "o" (.map [(.text "size", .int 1)])) = .ok r) ∧
      Fields.validateShared [("o", .single (.object {} s))] {}
          (.ofField "o" (.map [(.text "size", .int 1)])) =
        .ok (.ofField "o" (.map [(.text "size", .int 1)])) := by
  have hread : Schema.read sizeOrTagDocument = .ok (.union [("size", .single (.number {} {}))]
      [("tag", .single (.string {} {}))] []) := rfl
  have hparts := Fields.validateShared_nested_union hread rfl {} "o" {} [(.text "size", .int 1)] rfl
  have howns : Fields.Owns [("size", .single (.number {} {}))]
      (.union [("size", .single (.number {} {}))] [("tag", .single (.string {} {}))] [])
      [(.text "size", .int 1)] := by
    refine ⟨fun e he => ?_, fun path t hat => ?_⟩
    · rw [List.mem_singleton.mp he]
      exact Fields.locate_of_typesAt rfl
    · -- the map has every field of the mapping
      cases hat with
      | entry hmem hat =>
        cases List.mem_singleton.mp hmem
        cases hat
  refine ⟨_, hread, rfl, hparts.1.mpr ?_, ((hparts.2 _ List.mem_cons_self howns).1 _).mpr rfl⟩
  intro e he
  rw [List.mem_singleton.mp he]
  exact ⟨_, rfl⟩

/-- **What every mapping rejects may be accepted below an object**: the empty map has neither a size
nor a tag. -/
theorem Fields.nested_accepts_rejected :
    ¬ ∀ (raw : RawDocument) (s : Schema) (o : Options) (name : String)
      (p : Presence (List (String × Value))) (es : List (Value × Value)) (r : Value),
      Schema.read raw = .ok s → s.isUnion = true →
      (Value.map es).everywhere Value.isPlain = true →
      Fields.validateShared [(name, .single (.object p s))] o (.ofField name (.map es)) = .ok r →
      ∃ fs ∈ s.members, ∃ r', fs.validateShared o (.map es) = .ok r' := by
  intro haccepted
  obtain ⟨fs, hfs, r', hr'⟩ := haccepted Schema.sizeOrTagDocument _ {} "o" {} []
    (.ofField "o" (.map [])) rfl rfl rfl rfl
  have hmembers : fs = [("size", .single (.number {} {}))] ∨
      fs = [("tag", .single (.string {} {}))] := by
    rcases List.mem_cons.mp hfs with h | h
    · exact .inl h
    · exact .inr (List.mem_singleton.mp h)
  rcases hmembers with rfl | rfl <;> cases hr'

end Conform
