import Conform.Proofs.DeclarationMeaning
import Conform.Proofs.DescribedResults
import Conform.Proofs.PromisedKeys
import Conform.Proofs.Repetition

/-!
# Results and declared types

The declaration of a schema is about results: dates are points in time in it, and a field with a
default is always there. It is rendered from the schema by rules of its own, and with two of them it
says more than validation keeps. The texts that a node allows are declared as they are listed, while
a text is compared with their normal forms and returned in its own; and an integer is declared where
validation asks for a whole number, which may be a floating-point number and stays one
(`Node.Deviates`).

There is nothing else. Without unions, and without containers that are shared in a default, what a
result has at a declared path belongs to the meaning of its type unless one of these deviations lies
at or below it (`Schema.holds_declared_iff`). For such a schema every value of a result is what the
type of its path makes of some value (`TypeSpec.Makes`), and whether that belongs to the meaning is
decided along the depth of the type, a map and a list belonging to it just if their members do.
-/

namespace Conform

/-! ## Schemas without unions -/

/-- Whether a type is no union, and neither is the schema of an object. -/
def TypeSpec.isUnionFree : TypeSpec → Bool
  | .single (.object _ s) => !s.isUnion
  | .single _ => true
  | .union .. => false

namespace TypeSpec

theorem isDirect_of_isUnionFree (t : TypeSpec) (h : t.isUnionFree = true) : t.isDirect = true := by
  cases t with
  | union => cases h
  | single n =>
    cases n with
    | object p s => exact (Bool.and_true _).trans h
    | _ => rfl

/-- **A type without unions** at any depth, with distinct names and plain defaults. -/
structure UnionFree (t : TypeSpec) : Prop extends t.Direct where
  isUnionFree : t.everyType TypeSpec.isUnionFree = true

variable {t u : TypeSpec} {key : Value}

theorem UnionFree.of_everyType (hfree : t.everyType TypeSpec.isUnionFree = true)
    (hnamed : t.everyType TypeSpec.wellNamed = true)
    (hplain : t.everyType (defaultsPass Value.isPlain) = true) : t.UnionFree :=
  ⟨⟨everyType_mono isDirect_of_isUnionFree hfree, hnamed, hplain⟩, hfree⟩

theorem UnionFree.of_field {p : Presence (List (String × Value))} {fs : Fields}
    (h : (single (.object p (.mapping fs))).UnionFree) {f : String × TypeSpec} (hf : f ∈ fs) :
    f.2.UnionFree :=
  .of_everyType (everyType_field h.isUnionFree hf) (everyType_field h.wellNamed hf)
    (everyType_field h.plainDefaults hf)

theorem UnionFree.of_mem_typesAt (h : t.UnionFree) (hu : u ∈ t.typesAt key) : u.UnionFree :=
  ⟨h.toDirect.of_mem_typesAt hu, everyType_of_mem_typesAt h.isUnionFree hu⟩

theorem typesAt_object (p : Presence (List (String × Value))) (fs : Fields) (key : Value) :
    (single (.object p (.mapping fs))).typesAt key = (fs.typeAt? key).toList :=
  (typesAt_single _ key).trans (Schema.typesAt_mapping fs key)

theorem typesAt_item (p : Presence (List Value)) (u : TypeSpec) (c : ItemCount) (i : Nat) :
    (single (.array p u c)).typesAt (.int i) = [u] := by
  rw [typesAt_single, Node.typesAt, if_pos (by simp [Value.isIndex])]

/-- A node without members declares no type for any key. -/
theorem typesAt_leaf {n : Node} (hleaf : n.isComposite = false) (key : Value) :
    (single n).typesAt key = [] := by
  rw [typesAt_single]
  cases n with
  | object => cases hleaf
  | array => cases hleaf
  | _ => rfl

theorem UnionFree.exists_node (h : t.UnionFree) : ∃ n, t = .single n := by
  have hself := self_of_everyType h.isUnionFree
  cases t with
  | single n => exact ⟨n, rfl⟩
  | union => cases hself

/-- One type at most is declared for a key. -/
theorem UnionFree.typesAt_eq (h : t.UnionFree) (hu : u ∈ t.typesAt key) : t.typesAt key = [u] := by
  have hself := self_of_everyType h.isUnionFree
  cases t with
  | union => cases hself
  | single n =>
    cases n with
    | object p s =>
      cases s with
      | union => cases hself
      | mapping fs =>
        rw [typesAt_object] at hu ⊢
        rw [Option.mem_toList.mp hu]
        rfl
    | array p v c =>
      rw [typesAt_single, Node.typesAt] at hu ⊢
      split at hu
      next hindex => rw [if_pos hindex, List.mem_singleton.mp hu]
      next => cases hu
    | _ => cases hu

/-- **The type of a longer path** is that of the rest of the path below the type of its key. -/
theorem UnionFree.locate_cons (h : t.UnionFree) {rest : Path} {s : TypeSpec} :
    t.locate (key :: rest) = some s ↔ ∃ u ∈ t.typesAt key, u.locate rest = some s := by
  have hlocate : t.locate (key :: rest) = (reach (t.typesAt key) rest).head? := by
    rw [locate_eq, reach, List.flatMap_singleton]
  rw [hlocate]
  constructor
  · intro hs
    cases htypes : t.typesAt key with
    | nil =>
      rw [htypes, reach_nil] at hs
      cases hs
    | cons u us =>
      -- there is no second type for the key, so the search goes on below this one only
      have hu : u ∈ t.typesAt key := htypes ▸ List.mem_cons_self
      rw [h.typesAt_eq hu, ← locate_eq] at hs
      exact ⟨u, htypes ▸ hu, hs⟩
  · rintro ⟨u, hu, hs⟩
    rw [h.typesAt_eq hu, ← locate_eq, hs]

end TypeSpec

/-! ## What types make -/

section Makes

variable {o : Options} {t u : TypeSpec} {n : Node} {w : Value}

/-- **What a type makes** of a plain value, at some path. -/
def TypeSpec.Makes (o : Options) (t : TypeSpec) (w : Value) : Prop :=
  ∃ path v, v.everywhere Value.isPlain = true ∧ t.conform o path v = .ok w

/-- **What is made by a type without unions**: null, what a node without members accepts, or a map
or a list of what the types below it make. A map has every field that is not optional. -/
inductive TypeSpec.Product (o : Options) : TypeSpec → Value → Prop
  | null {n : Node} (h : n.acceptsNull = true) : TypeSpec.Product o (.single n) .null
  | leaf {n : Node} {v w : Value} (hleaf : n.isComposite = false) (h : n.Accepts v w) :
    TypeSpec.Product o (.single n) w
  | map {p : Presence (List (String × Value))} {fs : Fields} {rs : List (Value × Value)}
    (hnames : (fs.map Prod.fst).Nodup)
    (hfields : ∀ f ∈ fs, Declaration.isOptional f.2 = false → Value.hasKey rs f.1 = true)
    (hmembers : ∀ r ∈ rs, ∀ u, fs.typeAt? r.1 = some u → u.Makes o r.2) :
    TypeSpec.Product o (.single (.object p (.mapping fs))) (.map rs)
  | list {p : Presence (List Value)} {u : TypeSpec} {c : ItemCount} {ws : List Value}
    (hitems : ∀ x ∈ ws, u.Makes o x) : TypeSpec.Product o (.single (.array p u c)) (.list ws)

/-- **What a mapping makes of a map**, given that its types are no unions. -/
theorem Fields.product_of_conform {p : Presence (List (String × Value))} {fs : Fields}
    (hfs : (TypeSpec.single (.object p (.mapping fs))).UnionFree) {path : Path}
    {es : List (Value × Value)} (hes : ∀ e ∈ es, e.2.everywhere Value.isPlain = true)
    (h : fs.conform o path es = .ok w) :
    (TypeSpec.single (.object p (.mapping fs))).Product o w := by
  have hnames := TypeSpec.nodup_of_mem hfs.wellNamed List.mem_cons_self
  obtain ⟨rs, rfl, hleaves, hasked⟩ := Fields.conform_eq_ok hnames h
  refine .map hnames (fun f hf hoptional => ?_) (fun r hr u hu => ?_)
  · obtain ⟨n, hn⟩ := (hfs.of_field hf).exists_node
    have hfirst := TypeSpec.any_isAsked_of_isOptional hoptional
    rw [hn] at hfirst
    obtain ⟨r, hr, hkey⟩ := hasked f hf (by rw [hn]; exact (Bool.or_false _).symm.trans hfirst)
    exact List.any_eq_true.mpr ⟨r, hr, keyNames_iff.mpr hkey⟩
  · cases hleaves r hr with
    | given hf hv hw =>
      rw [Fields.typeAt?_of_mem hnames hf] at hu
      cases hu
      exact ⟨_, _, hes _ hv, hw⟩
    | default hf hd hw =>
      rw [Fields.typeAt?_of_mem hnames hf] at hu
      cases hu
      exact ⟨_, _, (hfs.of_field hf).plain_default hd, hw⟩
    | unknown _ hnone _ =>
      rw [hnone] at hu
      cases hu

namespace TypeSpec

/-- What a type without unions makes is one of its products. -/
theorem Makes.product (ht : t.UnionFree) (h : t.Makes o w) : t.Product o w := by
  obtain ⟨path, v, hv, h⟩ := h
  have hself := self_of_everyType ht.isUnionFree
  cases t with
  | union => cases hself
  | single n =>
    obtain ⟨rfl, haccepts⟩ | hnode := conform_single_eq_ok h
    · exact .null haccepts
    · cases n with
      | object p s =>
        cases s with
        | union => cases hself
        | mapping fs =>
          obtain ⟨es, rfl, hes⟩ := Node.conform_object_eq_ok hnode
          exact Fields.product_of_conform ht (Value.everywhere_map.mp hv).2 hes
      | array p u c =>
        obtain ⟨vs, ws, rfl, rfl, -, hws⟩ := Node.conform_array_eq_ok hnode
        refine .list (fun x hx => ?_)
        obtain ⟨i, v, hvs, hconform⟩ := (conformItems_eq_ok hws).2 x hx
        exact ⟨_, v, (Value.everywhere_list.mp hv).2 v hvs, hconform⟩
      | _ => exact .leaf rfl (Node.check_eq_ok_iff.mp hnode)

/-- **The members of what a type makes** are made by the types of their keys. -/
theorem Makes.atKey (ht : t.UnionFree) (h : t.Makes o w) {key x : Value} (hat : w.At [key] x)
    (hu : u ∈ t.typesAt key) : u.Makes o x := by
  cases h.product ht with
  | null => cases hat
  | leaf hleaf _ =>
    rw [typesAt_leaf hleaf] at hu
    cases hu
  | map _ _ hmembers =>
    rw [typesAt_object, Option.mem_toList] at hu
    obtain ⟨y, hy, hx⟩ := Value.map_at_cons.mp hat
    cases Value.at_nil.mp hx
    exact hmembers _ hy u hu
  | list hitems =>
    obtain ⟨i, y, rfl, hy, hx⟩ := Value.list_at_cons.mp hat
    cases Value.at_nil.mp hx
    rw [typesAt_item, List.mem_singleton] at hu
    rw [hu]
    exact hitems _ (List.mem_of_getElem? hy)

/-- **What a type has made has, at every declared path, what the type of the path has made.** -/
theorem Makes.at (ht : t.UnionFree) (h : t.Makes o w) {path : Path} {x : Value} (hat : w.At path x)
    (hu : t.locate path = some u) : u.UnionFree ∧ u.Makes o x := by
  induction path generalizing t w with
  | nil =>
    rw [locate_eq] at hu
    cases hu
    cases Value.at_nil.mp hat
    exact ⟨ht, h⟩
  | cons key rest ih =>
    obtain ⟨s, hs, hu⟩ := ht.locate_cons.mp hu
    obtain ⟨y, hy, hx⟩ := Value.at_cons.mp hat
    exact ih (ht.of_mem_typesAt hs) (h.atKey ht hy hs) hx hu

end TypeSpec

end Makes

/-! ## Deviations -/

/-- **Where validation keeps what is not declared**: a text in its normal form, where only another
spelling of it is listed, and a whole number that is a floating-point number. -/
inductive Node.Deviates : Node → Value → Prop
  | text {p : Presence String} {r : StringRules} {texts : List String} {listed s : String}
    (hallowed : r.allowed = some texts) (hlisted : listed ∈ texts)
    (hnormal : r.normalize listed = s) (hunlisted : s ∉ texts) :
    Node.Deviates (.string p r) (.text s)
  | whole {p : Presence Number} {r : NumberRules} {x : Binary64} (hallowed : r.allowed = none)
    (hinteger : r.integer = true) (hwhole : x.isWhole = true) :
    Node.Deviates (.number p r) (.number (.float x))

/-- **Whether a deviation lies at or below a value**, by the types below its type. -/
def TypeSpec.DeviatesIn (t : TypeSpec) (w : Value) : Prop :=
  ∃ path n u, w.At path u ∧ t.locate path = some (.single n) ∧ n.Deviates u

section Deviations

variable {o : Options} {t : TypeSpec} {n : Node} {v w : Value}

/-- A text that passes the rules belongs to what is declared, if it is listed as it is. -/
theorem Meaning.holds_ofString {r : StringRules} {s : String} (h : r.Admits s) :
    (ofString r).holds (.text s) = true ↔ ∀ texts, r.allowed = some texts → s ∈ texts := by
  unfold ofString
  cases hallowed : r.allowed with
  | none => exact ⟨fun _ => nofun, fun _ => rfl⟩
  | some texts =>
    cases texts with
    | nil =>
      -- an empty list is declared like none at all, but no text passes it
      cases h.allowed [] hallowed
    | cons t ts =>
      refine List.contains_iff_mem.trans ⟨fun hs => ?_, fun hs => hs _ rfl⟩
      rintro texts ⟨⟩
      exact hs

/-- A number that passes the rules belongs to what is declared, if it is an integer where one is
declared. -/
theorem Meaning.holds_ofNumber {r : NumberRules} {x : Number} (h : r.Admits x) :
    (ofNumber r).holds (.number x) = true ↔
      (r.allowed = none → r.integer = true → ∃ n, x = .int n) := by
  unfold ofNumber
  cases hallowed : r.allowed with
  | none =>
    cases hinteger : r.integer with
    | false => exact ⟨fun _ _ => nofun, fun _ => rfl⟩
    | true =>
      cases x with
      | int n => exact ⟨fun _ _ _ => ⟨n, rfl⟩, fun _ => rfl⟩
      | float x => exact ⟨nofun, fun hint => nomatch hint rfl rfl⟩
  | some ns =>
    obtain ⟨m, hm, hsame⟩ := h.allowed ns hallowed
    cases ns with
    | nil => cases hm
    | cons n ns => exact ⟨fun _ => nofun, fun _ => List.any_eq_true.mpr ⟨m, hm, hsame⟩⟩

/-- **What a node without members accepts** belongs to its meaning, or it deviates. -/
theorem Node.Accepts.holds_meaning_iff (h : n.Accepts v w) (hleaf : n.isComposite = false) :
    n.meaning.holds w = true ↔ ¬ n.Deviates w := by
  cases h with
  | @string p r s h =>
    rw [Node.meaning, Meaning.holds_withNull _ _ (show Value.text _ ≠ .null from nofun),
      Meaning.holds_ofString h]
    constructor
    · rintro hlisted (⟨hallowed, -, -, hunlisted⟩ | _)
      exact hunlisted (hlisted _ hallowed)
    · intro hnot texts hallowed
      obtain ⟨t, ht, hnormal⟩ := List.mem_map.mp (h.allowed texts hallowed)
      by_contra hunlisted
      exact hnot (.text hallowed ht hnormal hunlisted)
  | @number p r x h =>
    rw [Node.meaning, Meaning.holds_withNull _ _ (show Value.number _ ≠ .null from nofun),
      Meaning.holds_ofNumber h]
    constructor
    · rintro hint (_ | ⟨hallowed, hinteger, -⟩)
      obtain ⟨m, hm⟩ := hint hallowed hinteger
      cases hm
    · intro hnot hallowed hinteger
      cases x with
      | int n => exact ⟨n, rfl⟩
      | float x => exact absurd (.whole hallowed hinteger (h.integer hinteger)) hnot
  | boolean =>
    rw [Node.meaning, Meaning.holds_withNull _ _ (show Value.bool _ ≠ .null from nofun)]
    exact ⟨fun _ => nofun, fun _ => rfl⟩
  | date =>
    rw [Node.meaning, Meaning.holds_withNull _ _ (show Value.dateTime _ ≠ .null from nofun)]
    exact ⟨fun _ => nofun, fun _ => rfl⟩
  | object => cases hleaf
  | array => cases hleaf

/-- **A product belongs to the meaning of its type** if it does not deviate and its members belong
to the meanings of theirs. -/
theorem TypeSpec.Product.holds_meaning_iff (h : t.Product o w) : t.meaning.holds w = true ↔
    (∀ n, t = .single n → ¬ n.Deviates w) ∧
      ∀ key x u, w.At [key] x → u ∈ t.typesAt key → u.meaning.holds x = true := by
  cases h with
  | @null n haccepts =>
    have hholds : (TypeSpec.single n).meaning.holds .null = true := by
      cases n <;> exact Meaning.holds_withNull_null _ haccepts
    exact iff_of_true hholds ⟨fun _ _ => nofun, fun _ _ _ => nofun⟩
  | @leaf n v w hleaf haccepts =>
    rw [TypeSpec.meaning, haccepts.holds_meaning_iff hleaf]
    refine ⟨fun hnot => ⟨?_, fun key x u _ hu => ?_⟩, fun h => h.1 n rfl⟩
    · rintro m ⟨⟩
      exact hnot
    · rw [TypeSpec.typesAt_leaf hleaf] at hu
      cases hu
  | @map p fs rs hnames hfields hmembers =>
    rw [TypeSpec.meaning, Node.meaning,
      Meaning.holds_withNull _ _ (show Value.map _ ≠ .null from nofun), Schema.meaning,
      Fields.meanings_eq_map]
    refine Meaning.fieldsHold_iff.trans ⟨fun h => ⟨?_, fun key x u hat hu => ?_⟩,
      fun h => List.forall_mem_map.mpr (fun f hf => ⟨?_, fun e he hkey => ?_⟩)⟩
    · rintro m ⟨⟩
      exact nofun
    · obtain ⟨y, hy, hx⟩ := Value.map_at_cons.mp hat
      cases Value.at_nil.mp hx
      rw [TypeSpec.typesAt_object, Option.mem_toList] at hu
      obtain ⟨name, hf, rfl⟩ := Fields.exists_of_typeAt? hu
      exact (List.forall_mem_map.mp h _ hf).2 _ hy rfl
    · cases hoptional : Declaration.isOptional f.2 with
      | true => exact .inl rfl
      | false => exact .inr (hfields f hf hoptional)
    · refine h.2 e.1 e.2 f.2 (.entry he (.here _)) ?_
      rw [hkey, TypeSpec.typesAt_object, Fields.typeAt?_of_mem hnames hf]
      exact List.mem_cons_self
  | @list p u c ws hitems =>
    rw [TypeSpec.meaning, Node.meaning,
      Meaning.holds_withNull _ _ (show Value.list _ ≠ .null from nofun)]
    refine List.all_eq_true.trans ⟨fun h => ⟨?_, fun key x s hat hs => ?_⟩, fun h x hx => ?_⟩
    · rintro m ⟨⟩
      exact nofun
    · obtain ⟨i, y, rfl, hy, hx⟩ := Value.list_at_cons.mp hat
      cases Value.at_nil.mp hx
      rw [TypeSpec.typesAt_item, List.mem_singleton] at hs
      rw [hs]
      exact h _ (List.mem_of_getElem? hy)
    · obtain ⟨i, hi⟩ := List.mem_iff_getElem?.mp hx
      refine h.2 (.int i) x u (.item hi (.here _)) ?_
      rw [TypeSpec.typesAt_item]
      exact List.mem_cons_self

/-- **Where a deviation lies**: at the value itself, or in one of its members. -/
theorem TypeSpec.UnionFree.deviatesIn_iff (ht : t.UnionFree) : t.DeviatesIn w ↔
    (∃ n, t = .single n ∧ n.Deviates w) ∨
      ∃ key x u, w.At [key] x ∧ u ∈ t.typesAt key ∧ u.DeviatesIn x := by
  constructor
  · rintro ⟨path, n, x, hat, hlocate, hdeviates⟩
    cases path with
    | nil =>
      rw [TypeSpec.locate_eq] at hlocate
      cases hlocate
      cases Value.at_nil.mp hat
      exact .inl ⟨n, rfl, hdeviates⟩
    | cons key rest =>
      obtain ⟨u, hu, hlocate⟩ := ht.locate_cons.mp hlocate
      obtain ⟨y, hy, hx⟩ := Value.at_cons.mp hat
      exact .inr ⟨key, y, u, hy, hu, rest, n, x, hx, hlocate, hdeviates⟩
  · rintro (⟨n, rfl, hdeviates⟩ | ⟨key, y, u, hy, hu, rest, n, x, hx, hlocate, hdeviates⟩)
    · exact ⟨[], n, w, .here w, TypeSpec.locate_eq [] _, hdeviates⟩
    · exact ⟨key :: rest, n, x, Value.at_cons.mpr ⟨y, hy, hx⟩,
        ht.locate_cons.mpr ⟨u, hu, hlocate⟩, hdeviates⟩

/-- **What a type has made** belongs to its meaning just if no deviation lies at or below it. -/
theorem TypeSpec.Makes.holds_meaning_iff (ht : t.UnionFree) (h : t.Makes o w) :
    t.meaning.holds w = true ↔ ¬ t.DeviatesIn w := by
  induction hdepth : t.depth using Nat.strongRecOn generalizing t w with
  | ind depth ih =>
    subst hdepth
    -- the types of the keys are shallower, and they have made what stands at the keys
    have hmembers : ∀ {key x u}, w.At [key] x → u ∈ t.typesAt key →
        (u.meaning.holds x = true ↔ ¬ u.DeviatesIn x) := fun hat hu =>
      ih _ (TypeSpec.depth_lt_of_mem_typesAt hu) (ht.of_mem_typesAt hu) (h.atKey ht hat hu) rfl
    rw [(h.product ht).holds_meaning_iff, ht.deviatesIn_iff, not_or]
    refine and_congr ?_ ⟨fun hholds => ?_, fun hnot key x u hat hu => ?_⟩
    · exact ⟨fun hnot ⟨n, hn, hd⟩ => hnot n hn hd, fun hnot n hn hd => hnot ⟨n, hn, hd⟩⟩
    · rintro ⟨key, x, u, hat, hu, hd⟩
      exact (hmembers hat hu).mp (hholds key x u hat hu) hd
    · exact (hmembers hat hu).mpr (fun hd => hnot ⟨key, x, u, hat, hu, hd⟩)

/-- The order of keys is nothing to a deviation, for only texts and numbers deviate. -/
theorem Node.deviates_sortKeys : n.Deviates v.sortKeys ↔ n.Deviates v := by
  cases v with
  | map => exact ⟨nofun, nofun⟩
  | list => exact ⟨nofun, nofun⟩
  | _ => rfl

theorem TypeSpec.deviatesIn_sortKeys : t.DeviatesIn w.sortKeys ↔ t.DeviatesIn w := by
  constructor
  · rintro ⟨path, n, x, hat, hlocate, hdeviates⟩
    obtain ⟨y, hy, rfl⟩ := Value.sortKeys_at.mp hat
    exact ⟨path, n, y, hy, hlocate, Node.deviates_sortKeys.mp hdeviates⟩
  · rintro ⟨path, n, x, hat, hlocate, hdeviates⟩
    exact ⟨path, n, x.sortKeys, Value.sortKeys_at.mpr ⟨x, hat, rfl⟩, hlocate,
      Node.deviates_sortKeys.mpr hdeviates⟩

end Deviations

/-! ## Results -/

/-- **What a result has at a declared path belongs to what is declared**, just if no text lies at or
below it whose spelling is not listed, and no whole number that is a floating-point number where an
integer is declared. Every declaration of the schema spells this meaning. The schema has been read,
has no unions, and its defaults are plain and share no containers. -/
theorem Schema.holds_declared_iff {d : RawDocument} {data r : Value} {fs : Fields} {o : Options}
    (hread : Schema.read d = .ok (.mapping fs))
    (hshare : Fields.everyType TypeSpec.sharesNothing fs = true)
    (hfree : Fields.everyType TypeSpec.isUnionFree fs = true)
    (hplain : Fields.everyType (TypeSpec.defaultsPass Value.isPlain) fs = true)
    (hdata : data.everywhere Value.isPlain = true) (h : fs.validateShared o data = .ok r) :
    (∀ name text, (Schema.mapping fs).declaration name = .ok text →
      ∃ blocks, text = Declaration.moduleText blocks ∧
        fs.asType.meaning.Spelled blocks name) ∧
    ∀ path v t, r.At path v → fs.asType.locate path = some t →
      (t.meaning.holds v = true ↔ ¬ t.DeviatesIn v) := by
  refine ⟨fun name text htext => Schema.declaration_spells htext, fun path v t hat hlocate => ?_⟩
  obtain ⟨hnames, hnamed⟩ := Schema.names_of_read hread
  have hfields : fs.asType.UnionFree := .of_everyType ((Bool.true_and _).trans hfree)
    (Fields.wellNamed_asType hnames hnamed _ rfl) ((Bool.true_and _).trans hplain)
  obtain ⟨es, w, rfl, hw, rfl⟩ := Fields.exists_conform_of_validateShared hshare hnames
    (fun f hf => (hfields.of_field hf).toDirect) hdata h
  have hmakes : fs.asType.Makes o.failingFast w := ⟨[], .map es, hdata, hw⟩
  have hsame : ∀ {x : Value}, w.At path x → (t.meaning.holds x = true ↔ ¬ t.DeviatesIn x) := by
    intro x hx
    obtain ⟨ht, hx⟩ := hmakes.at hfields hx hlocate
    exact hx.holds_meaning_iff ht
  unfold Options.arranged at hat
  split at hat
  · -- neither the meaning nor a deviation looks at the order of keys
    obtain ⟨x, hx, rfl⟩ := Value.sortKeys_at.mp hat
    rw [Meaning.holds_sortKeys, TypeSpec.deviatesIn_sortKeys]
    exact hsame hx
  · exact hsame hat

/-- The document of a user: a role in small letters, and whole sizes. -/
def Schema.userDocument : Value :=
  .map [(.text "role", .map [(.text "type", .text "string"), (.text "lowercase", .bool true),
      (.text "enum", .list [.text "Admin", .text "guest"])]),
    (.text "sizes", .map [(.text "type", .text "array"),
      (.text "items", .map [(.text "type", .text "number"), (.text "integer", .bool true)])])]

/-- The fields that are read from it. -/
def Fields.user : Fields :=
  [("role", .single (.string {} { lowercase := true, allowed := some ["Admin", "guest"] })),
    ("sizes", .single (.array {} (.single (.number {} { integer := true })) {}))]

/-- A user with a role and two sizes, one of them kept as a floating-point number. -/
def Value.userWithRole (role : String) : Value :=
  .map [(.text "role", .text role),
    (.text "sizes", .list [.int 1, .number (.float (.ofDecimal false 3 0))])]

/-- The role of a guest belongs to what is declared, and the second of the sizes does not. -/
theorem Fields.user_holds_declared :
    Schema.read Schema.userDocument = .ok (.mapping Fields.user) ∧
      Fields.user.validateShared {} (Value.userWithRole "Guest") =
        .ok (Value.userWithRole "guest") ∧
      ((∀ name text, (Schema.mapping Fields.user).declaration name = .ok text →
        ∃ blocks, text = Declaration.moduleText blocks ∧
          Fields.user.asType.meaning.Spelled blocks name) ∧
      ∀ path v t, (Value.userWithRole "guest").At path v → Fields.user.asType.locate path = some t →
        (t.meaning.holds v = true ↔ ¬ t.DeviatesIn v)) ∧
      Fields.user.asType.meaning.holds (Value.userWithRole "guest") = false := by
  have hread : Schema.read Schema.userDocument = .ok (.mapping Fields.user) := rfl
  have hresult : Fields.user.validateShared {} (Value.userWithRole "Guest") =
      .ok (Value.userWithRole "guest") := rfl
  exact ⟨hread, hresult, Schema.holds_declared_iff hread rfl rfl rfl rfl hresult, rfl⟩

/-- **A result need not belong to what is declared**: the role is declared as it is listed, and
returned in small letters. -/
theorem Fields.user_not_declared :
    (Schema.mapping Fields.user).declaration "User" = .ok (Declaration.moduleText
      ["class User(TypedDict):\n    role: Literal['Admin', 'guest']\n    sizes: list[int]"]) ∧
    ¬ ∀ (d : RawDocument) (data r : Value) (fs : Fields) (o : Options) (path : Path) (v : Value)
      (t : TypeSpec),
      Schema.read d = .ok (.mapping fs) → Fields.everyType TypeSpec.isUnionFree fs = true →
      Fields.everyType (TypeSpec.defaultsPass Value.isPlain) fs = true →
      data.everywhere Value.isPlain = true → fs.validateShared o data = .ok r →
      r.At path v → fs.asType.locate path = some t → t.meaning.holds v = true := by
  refine ⟨rfl, fun hdeclared => ?_⟩
  have hrole : (Value.userWithRole "admin").At [.text "role"] (.text "admin") :=
    .entry List.mem_cons_self (.here _)
  have hholds := hdeclared Schema.userDocument (Value.userWithRole "Admin")
    (Value.userWithRole "admin") Fields.user {} [.text "role"] (.text "admin") _ rfl rfl rfl rfl rfl
    hrole rfl
  cases hholds

end Conform
