import Mathlib.Data.List.Perm.Basic
import Conform.Proofs.Copies
import Conform.Proofs.Sorting

/-!
# Keys in another order

Two values differ only in the order of keys if their maps do at any depth (`Value.Reordered`), and
two schemas if their mappings do (`Schema.Reordered`). What is defined one after the other along a
mapping or a map – which field a key names, which marks are put in – does not depend on the order,
for names and text keys are distinct. The candidates of a type and the members of a schema stay in
their places, for their order does count.

So the types that govern a path in the two schemas differ in the order of fields only
(`Schema.Reordered.locate`), values that differ in the order of keys resolve to the same candidate
(`TypeSpec.Reordered.resolve`), and marked they still differ in the order of keys only
(`Marker.reordered_mark`).
-/

namespace Conform

/-! ## Values and schemas -/

mutual
/-- **Values that differ only in the order of keys**, at any depth: the entries of a map are matched
one by one, and then put in another order. -/
inductive Value.Reordered : Value → Value → Prop
  | refl (v : Value) : Value.Reordered v v
  | list {vs ws : List Value} (h : List.Forall₂ Value.Reordered vs ws) :
    Value.Reordered (.list vs) (.list ws)
  | map {es fs gs : List (Value × Value)} (h : List.Forall₂ Value.EntryReordered es fs)
    (hperm : fs.Perm gs) : Value.Reordered (.map es) (.map gs)

/-- Entries with one key whose values differ only in the order of keys. -/
inductive Value.EntryReordered : Value × Value → Value × Value → Prop
  | value (key : Value) {v w : Value} (h : Value.Reordered v w) :
    Value.EntryReordered (key, v) (key, w)
end

mutual
/-- **Schemas that differ only in the order of fields**, at any depth. Members and candidates stay
in their places. -/
inductive Schema.Reordered : Schema → Schema → Prop
  | members {s s' : Schema} (h : List.Forall₂ Fields.Reordered s.members s'.members) :
    Schema.Reordered s s'

/-- Mappings that differ only in the order of fields. -/
inductive Fields.Reordered : List (String × TypeSpec) → List (String × TypeSpec) → Prop
  | fields {fs fs' gs : List (String × TypeSpec)} (h : List.Forall₂ Field.Reordered fs fs')
    (hperm : fs'.Perm gs) : Fields.Reordered fs gs

/-- Fields of one name whose types differ only in the order of fields. -/
inductive Field.Reordered : String × TypeSpec → String × TypeSpec → Prop
  | type (name : String) {t t' : TypeSpec} (h : TypeSpec.Reordered t t') :
    Field.Reordered (name, t) (name, t')

/-- Types that differ only in the order of fields. -/
inductive TypeSpec.Reordered : TypeSpec → TypeSpec → Prop
  | candidates {t t' : TypeSpec} (h : List.Forall₂ Node.Reordered t.candidates t'.candidates) :
    TypeSpec.Reordered t t'

/-- Nodes that differ only in the order of fields. -/
inductive Node.Reordered : Node → Node → Prop
  | refl (n : Node) : Node.Reordered n n
  | object (p : Presence (List (String × Value))) {s s' : Schema} (h : Schema.Reordered s s') :
    Node.Reordered (.object p s) (.object p s')
  | array (p : Presence (List Value)) {t t' : TypeSpec} (c : ItemCount)
    (h : TypeSpec.Reordered t t') : Node.Reordered (.array p t c) (.array p t' c)
end

/-! ## Lists of related members -/

section Lists

variable {α β : Type} {R : α → β → Prop} {xs : List α} {ys : List β}

/-- Related members stand in their lists. -/
theorem forall₂_of_mem (h : List.Forall₂ R xs ys) :
    List.Forall₂ (fun x y => x ∈ xs ∧ y ∈ ys ∧ R x y) xs ys := by
  induction h with
  | nil => exact .nil
  | cons hxy _ ih =>
    refine .cons ⟨List.mem_cons_self, List.mem_cons_self, hxy⟩ (ih.imp (fun x y hmem => ?_))
    exact ⟨List.mem_cons_of_mem _ hmem.1, List.mem_cons_of_mem _ hmem.2.1, hmem.2.2⟩

theorem exists_of_forall₂_right (h : List.Forall₂ R xs ys) {y : β} (hy : y ∈ ys) :
    ∃ x ∈ xs, R x y := by
  induction h with
  | nil => cases hy
  | cons hxy _ ih =>
    rcases List.mem_cons.mp hy with rfl | hy
    · exact ⟨_, List.mem_cons_self, hxy⟩
    · obtain ⟨x, hx, hxy⟩ := ih hy
      exact ⟨x, List.mem_cons_of_mem _ hx, hxy⟩

theorem exists_of_forall₂_left (h : List.Forall₂ R xs ys) {x : α} (hx : x ∈ xs) :
    ∃ y ∈ ys, R x y := exists_of_forall₂_right h.flip hx

theorem forall₂_trans_of_mem {γ : Type} {S : β → γ → Prop} {T : α → γ → Prop} {zs : List γ}
    (h : List.Forall₂ R xs ys) (h' : List.Forall₂ S ys zs)
    (hT : ∀ x ∈ xs, ∀ y z, R x y → S y z → T x z) : List.Forall₂ T xs zs := by
  induction h generalizing zs with
  | nil =>
    cases h'
    exact .nil
  | cons hxy _ ih =>
    cases h' with
    | cons hyz h' =>
      rw [List.forall_mem_cons] at hT
      exact .cons (hT.1 _ _ hxy hyz) (ih h' hT.2)

/-- Members that are related in both directions. -/
theorem forall₂_and_flip {S : β → α → Prop} (h : List.Forall₂ R xs ys) (h' : List.Forall₂ S ys xs) :
    List.Forall₂ (fun x y => R x y ∧ S y x) xs ys := by
  induction h with
  | nil => exact .nil
  | cons hxy _ ih =>
    cases h' with
    | cons hyx h' => exact .cons ⟨hxy, hyx⟩ (ih h')

theorem rel_getElem? (h : List.Forall₂ R xs ys) (i : Nat) : Option.Rel R xs[i]? ys[i]? := by
  induction h generalizing i with
  | nil => exact .none
  | cons hxy _ ih =>
    cases i with
    | zero => exact .some hxy
    | succ i => exact ih i

theorem forall₂_set (h : List.Forall₂ R xs ys) {x : α} {y : β} (hxy : R x y) (i : Nat) :
    List.Forall₂ R (xs.set i x) (ys.set i y) := by
  induction h generalizing i with
  | nil => exact .nil
  | cons hfirst hrest ih =>
    cases i with
    | zero => exact .cons hxy hrest
    | succ i => exact .cons hfirst (ih i)

theorem rel_flip {a : Option α} {b : Option β} (h : Option.Rel R a b) :
    Option.Rel (flip R) b a := by
  cases h with
  | none => exact .none
  | some h => exact .some h

theorem rel_head? (h : List.Forall₂ R xs ys) : Option.Rel R xs.head? ys.head? := by
  cases h with
  | nil => exact .none
  | cons hxy _ => exact .some hxy

theorem rel_self {R : α → α → Prop} (hR : ∀ a, R a a) (a : Option α) : Option.Rel R a a := by
  cases a with
  | none => exact .none
  | some a => exact .some (hR a)

/-- Related values are those of their options. -/
theorem rel_of_eq_some {a : Option α} {b : Option β} (h : Option.Rel R a b) :
    Option.Rel (fun x y => a = some x ∧ R x y) a b := by
  cases h with
  | none => exact .none
  | some h => exact .some ⟨rfl, h⟩

theorem rel_bind {γ δ : Type} {S : γ → δ → Prop} {a : Option α} {b : Option β} {f : α → Option γ}
    {g : β → Option δ} (h : Option.Rel R a b) (hfg : ∀ x y, R x y → Option.Rel S (f x) (g y)) :
    Option.Rel S (a.bind f) (b.bind g) := by
  cases h with
  | none => exact .none
  | some h => exact hfg _ _ h

theorem rel_getD {a : Option α} {b : Option β} {x : α} {y : β} (h : Option.Rel R a b)
    (hxy : R x y) : R (a.getD x) (b.getD y) := by
  cases h with
  | none => exact hxy
  | some h => exact h

/-- The first member that passes a test, the tests agreeing on related members. -/
theorem rel_find? {p : α → Bool} {q : β → Bool} (h : List.Forall₂ R xs ys)
    (hpq : ∀ x y, R x y → p x = q y) : Option.Rel R (xs.find? p) (ys.find? q) := by
  induction h with
  | nil => exact .none
  | @cons x y _ _ hxy _ ih =>
    rw [List.find?_cons, List.find?_cons, ← hpq x y hxy]
    cases p x
    · exact ih
    · exact .some hxy

end Lists

/-! ## Reordered values -/

namespace Value

variable {v w : Value} {es fs gs : List (Value × Value)} {vs : List Value}

theorem Reordered.exists_of_map (h : Reordered (Value.map es) w) :
    ∃ fs gs, w = Value.map gs ∧ List.Forall₂ EntryReordered es fs ∧ fs.Perm gs := by
  cases h with
  | refl => exact ⟨es, es, rfl, List.forall₂_same.mpr (fun e _ => .value e.1 (.refl e.2)), .refl _⟩
  | map h hperm => exact ⟨_, _, rfl, h, hperm⟩

theorem Reordered.exists_of_list (h : Reordered (Value.list vs) w) :
    ∃ ws, w = Value.list ws ∧ List.Forall₂ Reordered vs ws := by
  cases h with
  | refl => exact ⟨vs, rfl, List.forall₂_same.mpr (fun v _ => .refl v)⟩
  | list h => exact ⟨_, rfl, h⟩

theorem Reordered.eq_of_leaf (h : v.Reordered w) (hleaf : v.isContainer = false) : w = v := by
  cases h with
  | refl => rfl
  | list => cases hleaf
  | map => cases hleaf

/-- Values that differ in the order of keys fit the same nodes. -/
theorem Reordered.matches_eq (h : v.Reordered w) (n : Node) : n.matches v = n.matches w := by
  cases h with
  | refl => rfl
  | list => rw [n.matches_list, n.matches_list]
  | map => rw [n.matches_map, n.matches_map]

theorem Reordered.isPresent_eq (h : v.Reordered w) : v.isPresent = w.isPresent := by
  cases h <;> rfl

theorem keys_eq (h : List.Forall₂ EntryReordered es fs) : es.map Prod.fst = fs.map Prod.fst := by
  induction h with
  | nil => rfl
  | cons he _ ih =>
    cases he
    rw [List.map_cons, List.map_cons, ih]

/-- Reordered entries have the same text keys. -/
theorem perm_textKeys (h : List.Forall₂ EntryReordered es fs) (hperm : fs.Perm gs) :
    (textKeys es).Perm (textKeys gs) := by
  rw [textKeys_eq, textKeys_eq, keys_eq h]
  exact (hperm.map Prod.fst).filterMap Violation.textOf?

theorem hasKey_eq (h : List.Forall₂ EntryReordered es fs) (hperm : fs.Perm gs) (name : String) :
    hasKey es name = hasKey gs name := by
  rw [Bool.eq_iff_iff, hasKey_iff, hasKey_iff]
  exact (perm_textKeys h hperm).mem_iff

/-- **A test of keys** does not depend on their order. -/
theorem TestsKeys.reordered {p : Value → Bool} (hp : TestsKeys p) (h : v.Reordered w)
    (hv : v.everywhere p = true) : w.everywhere p = true := by
  induction v using members_induction generalizing w with
  | map es ih =>
    obtain ⟨fs, gs, rfl, hes, hperm⟩ := h.exists_of_map
    obtain ⟨hkeys, hes'⟩ := hp.map_iff.mp hv
    refine hp.map_iff.mpr ⟨(perm_textKeys hes hperm).nodup_iff.mp hkeys, fun e he => ?_⟩
    obtain ⟨f, hf, hfe⟩ := exists_of_forall₂_right hes (hperm.mem_iff.mpr he)
    cases hfe with
    | value k h => exact ih _ hf h (hes' _ hf)
  | list vs ih =>
    obtain ⟨ws, rfl, hvs⟩ := h.exists_of_list
    refine hp.list_iff.mpr (fun w hw => ?_)
    obtain ⟨u, hu, huw⟩ := exists_of_forall₂_right hvs hw
    exact ih u hu huw (hp.list_iff.mp hv u hu)
  | other v hleaf =>
    rw [h.eq_of_leaf hleaf]
    exact hv

/-- What is absent is sifted out, whatever the order of keys. -/
theorem Reordered.withoutAbsent (h : v.Reordered w) :
    v.withoutAbsent.Reordered w.withoutAbsent := by
  induction v using members_induction generalizing w with
  | map es ih =>
    obtain ⟨fs, gs, rfl, hes, hperm⟩ := h.exists_of_map
    rw [Value.withoutAbsent, Value.withoutAbsent, presentEntries_eq, presentEntries_eq]
    refine .map (List.rel_flatMap (forall₂_of_mem hes) ?_) (hperm.flatMap_right _)
    rintro _ _ ⟨he, -, h⟩
    cases h with
    | value k h =>
      unfold sifted?
      dsimp only
      rw [h.isPresent_eq]
      split
      · exact .cons (.value k (ih _ he h)) .nil
      · exact .nil
  | list vs ih =>
    obtain ⟨ws, rfl, hvs⟩ := h.exists_of_list
    rw [Value.withoutAbsent, Value.withoutAbsent, presentItems_eq, presentItems_eq]
    refine .list (List.rel_flatMap (forall₂_of_mem hvs) ?_)
    rintro v w ⟨hv, -, h⟩
    unfold sifted?
    dsimp only
    rw [h.isPresent_eq]
    split
    · exact .cons (ih v hv h) .nil
    · exact .nil
  | other v hleaf =>
    rw [h.eq_of_leaf hleaf]
    exact .refl _

/-- Sorted, reordered values are still reordered: nothing is asked of their keys here. -/
theorem Reordered.sortKeys (h : v.Reordered w) : v.sortKeys.Reordered w.sortKeys := by
  induction v using members_induction generalizing w with
  | map es ih =>
    obtain ⟨fs, gs, rfl, hes, hperm⟩ := h.exists_of_map
    have hvalues : List.Forall₂ EntryReordered (sortValues es) (sortValues fs) := by
      rw [sortValues_eq_map, sortValues_eq_map]
      refine List.rel_map ?_ (forall₂_of_mem hes)
      rintro _ _ ⟨he, -, hef⟩
      cases hef with
      | value k hef => exact .value k (ih _ he hef)
    have hvalues' : (sortValues fs).Perm (sortValues gs) := by
      rw [sortValues_eq_map, sortValues_eq_map]
      exact hperm.map _
    obtain ⟨hs, hsorted, hback⟩ :=
      List.perm_comp_forall₂ (List.mergeSort_perm (sortValues es) entryLe) hvalues
    exact .map hsorted
      (hback.trans (hvalues'.trans (List.mergeSort_perm (sortValues gs) entryLe).symm))
  | list vs ih =>
    obtain ⟨ws, rfl, hvs⟩ := h.exists_of_list
    rw [Value.sortKeys, Value.sortKeys, sortItems_eq_map, sortItems_eq_map]
    refine .list (List.rel_map ?_ (forall₂_of_mem hvs))
    rintro v w ⟨hmem, -, h⟩
    exact ih v hmem h
  | other v hleaf =>
    rw [h.eq_of_leaf hleaf]
    exact .refl _

/-- **Sorting the keys** reorders a value. -/
theorem reordered_sortKeys (v : Value) : v.Reordered v.sortKeys := by
  induction v using members_induction with
  | map es ih =>
    have hvalues : List.Forall₂ EntryReordered es (sortValues es) := by
      rw [sortValues_eq_map, List.forall₂_map_right_iff, List.forall₂_same]
      exact fun e he => .value e.1 (ih e he)
    exact .map hvalues (List.mergeSort_perm _ entryLe).symm
  | list vs ih =>
    rw [Value.sortKeys, sortItems_eq_map]
    refine .list ?_
    rw [List.forall₂_map_right_iff, List.forall₂_same]
    exact ih
  | other v hleaf =>
    cases v with
    | map es => cases hleaf
    | list vs => cases hleaf
    | _ => exact .refl _

/-- Whether all keys of a map are texts; of other values nothing is asked. -/
def keysAreTexts : Value → Bool
  | .map es => es.all (fun e => (Violation.textOf? e.1).isSome)
  | _ => true

/-- **Sorted, reordered values are the same**, where all keys are texts and distinct. -/
theorem Reordered.sortKeys_eq (h : v.Reordered w) (hv : v.everywhere isKeyed = true)
    (htexts : v.everywhere keysAreTexts = true) : v.sortKeys = w.sortKeys := by
  induction v using members_induction generalizing w with
  | map es ih =>
    obtain ⟨fs, gs, rfl, hes, hperm⟩ := h.exists_of_map
    obtain ⟨hkeys, hes'⟩ := testsKeys_isKeyed.map_iff.mp hv
    obtain ⟨hself, htexts⟩ := everywhere_map.mp htexts
    have hvalues : sortValues es = sortValues fs := by
      rw [sortValues_eq_map, sortValues_eq_map, ← List.forall₂_eq_eq_eq]
      refine List.rel_map ?_ (forall₂_of_mem hes)
      rintro _ _ ⟨he, -, hef⟩
      cases hef with
      | value k hef => exact congrArg (Prod.mk k) (ih _ he hef (hes' _ he) (htexts _ he))
    have hsorted : (sortValues es).Perm (sortValues gs) := by
      rw [hvalues, sortValues_eq_map, sortValues_eq_map]
      exact hperm.map _
    rw [Value.sortKeys, Value.sortKeys, mergeSort_eq_of_perm hsorted ?_ ?_]
    · intro e he
      rw [sortValues_eq_map] at he
      obtain ⟨f, hf, rfl⟩ := List.mem_map.mp he
      have hkey := List.all_eq_true.mp hself f hf
      cases hf : f.1 <;> rw [hf] at hkey <;> first | exact ⟨_, rfl⟩ | cases hkey
    · rwa [sortValues_eq_map, textKeys_map]
  | list vs ih =>
    obtain ⟨ws, rfl, hvs⟩ := h.exists_of_list
    rw [Value.sortKeys, Value.sortKeys, sortItems_eq_map, sortItems_eq_map]
    refine congrArg Value.list ?_
    rw [← List.forall₂_eq_eq_eq]
    refine List.rel_map ?_ (forall₂_of_mem hvs)
    rintro v w ⟨hmem, -, h⟩
    exact ih v hmem h (testsKeys_isKeyed.list_iff.mp hv v hmem)
      ((everywhere_list.mp htexts).2 v hmem)
  | other v hleaf => rw [h.eq_of_leaf hleaf]

end Value

/-! ## Where a path leads -/

/-- Mappings that are the same differ in nothing. -/
theorem TypeSpec.Reordered.refl (t : TypeSpec) : t.Reordered t :=
  .candidates (List.forall₂_same.mpr (fun n _ => .refl n))

theorem Fields.Reordered.refl (fs : Fields) : Fields.Reordered fs fs :=
  .fields (List.forall₂_same.mpr (fun f _ => .type f.1 (.refl f.2))) (.refl fs)

namespace Fields

variable {fs gs : Fields}

theorem names_eq (h : List.Forall₂ Field.Reordered fs gs) :
    fs.map Prod.fst = gs.map Prod.fst := by
  induction h with
  | nil => rfl
  | cons hf _ ih =>
    cases hf
    rw [List.map_cons, List.map_cons, ih]

/-- **Among distinct names, a key leads to the same type** in any order of fields. -/
theorem typeAt?_perm (hnames : (fs.map Prod.fst).Nodup) (hperm : fs.Perm gs) (key : Value) :
    fs.typeAt? key = gs.typeAt? key := by
  have hnames' : (gs.map Prod.fst).Nodup := (hperm.map Prod.fst).nodup_iff.mp hnames
  cases ht : fs.typeAt? key with
  | some t =>
    obtain ⟨name, hmem, rfl⟩ := exists_of_typeAt? ht
    exact (typeAt?_of_mem hnames' (hperm.mem_iff.mp hmem)).symm
  | none =>
    cases hu : gs.typeAt? key with
    | none => rfl
    | some u =>
      obtain ⟨name, hmem, rfl⟩ := exists_of_typeAt? hu
      rw [typeAt?_of_mem hnames (hperm.mem_iff.mpr hmem)] at ht
      cases ht

theorem Reordered.typeAt? (h : Fields.Reordered fs gs) (hnames : (fs.map Prod.fst).Nodup)
    (key : Value) : Option.Rel TypeSpec.Reordered (fs.typeAt? key) (gs.typeAt? key) := by
  cases h with
  | @fields _ fs' _ h hperm =>
    rw [← typeAt?_perm (names_eq h ▸ hnames) hperm]
    have hfind := rel_find? (p := fun f => keyNames key f.1) (q := fun f => keyNames key f.1) h
      (by rintro _ _ ⟨name, -⟩; rfl)
    unfold Fields.typeAt?
    cases hf : fs.find? (fun f => keyNames key f.1) <;>
      cases hf' : fs'.find? (fun f => keyNames key f.1) <;> rw [hf, hf'] at hfind <;> cases hfind
    · exact .none
    case some h =>
      cases h with
      | type name h => exact .some h

end Fields

theorem Schema.Reordered.typesAt {s s' : Schema} (h : s.Reordered s')
    (hnames : s.members.all Fields.distinct = true) (key : Value) :
    List.Forall₂ TypeSpec.Reordered (s.typesAt key) (s'.typesAt key) := by
  cases h with
  | members h =>
    refine List.rel_filterMap ?_ (forall₂_of_mem h)
    rintro fs gs ⟨hfs, -, h⟩
    exact h.typeAt? (Fields.nodup_of_distinct (List.all_eq_true.mp hnames fs hfs)) key

theorem TypeSpec.Reordered.typesAt {t t' : TypeSpec} (h : t.Reordered t')
    (hnamed : t.wellNamed = true) (key : Value) :
    List.Forall₂ TypeSpec.Reordered (t.typesAt key) (t'.typesAt key) := by
  cases h with
  | candidates h =>
    refine List.rel_flatMap (forall₂_of_mem h) ?_
    rintro n m ⟨hn, -, h⟩
    cases h with
    | refl => exact List.forall₂_same.mpr (fun u _ => .refl u)
    | object p h => exact h.typesAt (List.all_eq_true.mp hnamed _ hn) key
    | array p c h =>
      unfold Node.typesAt
      dsimp only
      split
      · exact .cons h .nil
      · exact .nil

theorem forall₂_reach {ts ts' : List TypeSpec} (h : List.Forall₂ TypeSpec.Reordered ts ts')
    (hnamed : ∀ t ∈ ts, t.everyType TypeSpec.wellNamed = true) (path : Path) :
    List.Forall₂ TypeSpec.Reordered (reach ts path) (reach ts' path) := by
  induction path generalizing ts ts' with
  | nil => exact h
  | cons key rest ih =>
    refine ih (List.rel_flatMap (forall₂_of_mem h) ?_) (fun u hu => ?_)
    · rintro t t' ⟨ht, -, h⟩
      exact h.typesAt (TypeSpec.self_of_everyType (hnamed t ht)) key
    · obtain ⟨t, ht, hu⟩ := List.mem_flatMap.mp hu
      exact TypeSpec.everyType_of_mem_typesAt (hnamed t ht) hu

/-- **The types that govern a path** in two schemas differ in the order of fields only. -/
theorem Schema.Reordered.locate {s s' : Schema} (h : s.Reordered s') (hnamed : s.wellNamed = true)
    (path : Path) : Option.Rel TypeSpec.Reordered (s.locate path) (s'.locate path) := by
  obtain ⟨hnames, hevery⟩ := Bool.and_eq_true_iff.mp hnamed
  rw [Schema.locate_eq_head?_routes, Schema.locate_eq_head?_routes]
  cases path with
  | nil => exact .none
  | cons key rest =>
    exact rel_head? (forall₂_reach (h.typesAt hnames key)
      (fun t ht => Schema.everyType_of_mem_typesAt hevery ht) rest)

/-! ## Candidates -/

/-- **Checks that end alike**: with related results, or for the same reason. -/
inductive Checked.Alike {α β : Type} (R : α → β → Prop) : Checked α → Checked β → Prop
  | ok {a : α} {b : β} (h : R a b) : Checked.Alike R (.ok a) (.ok b)
  | error (e : CheckFailure) : Checked.Alike R (.error e) (.error e)

theorem Checked.Alike.map {α β γ δ : Type} {R : α → β → Prop} {S : γ → δ → Prop} {f : α → γ}
    {g : β → δ} {x : Checked α} {y : Checked β} (h : Checked.Alike R x y)
    (hfg : ∀ a b, R a b → S (f a) (g b)) : Checked.Alike S (f <$> x) (g <$> y) := by
  cases h with
  | ok h => exact .ok (hfg _ _ h)
  | error e => exact .error e

theorem Checked.alike_self {α : Type} {R : α → α → Prop} (hR : ∀ a, R a a) (x : Checked α) :
    Checked.Alike R x x := by
  cases x with
  | ok a => exact .ok (hR a)
  | error e => exact .error e

namespace Node

/-- What a node makes of a value does not depend on the order of keys in it. -/
theorem alike_check (n : Node) (site : Site) {v w : Value} (h : v.Reordered w) :
    Checked.Alike Value.Reordered (n.check site v) (n.check site w) := by
  cases h with
  | refl => exact Checked.alike_self .refl _
  | map h hperm =>
    cases n with
    | object => exact .ok (.map h hperm)
    | _ => exact .error _
  | @list vs ws h =>
    cases n with
    | array p t c =>
      show Checked.Alike _ (site.requireLength vs.length _ _ _ _ >>= fun _ => pure (Value.list vs))
        (site.requireLength ws.length _ _ _ _ >>= fun _ => pure (Value.list ws))
      rw [h.length_eq]
      cases site.requireLength ws.length c.min c.max .arrayMin .arrayMax with
      | ok u => exact .ok (.list h)
      | error e => exact .error e
    | _ => exact .error _

namespace Reordered

variable {n m : Node} (h : n.Reordered m)

include h

theorem kind_eq : n.kind = m.kind := by cases h <;> rfl

theorem default?_eq : n.default? = m.default? := by cases h <;> rfl

theorem sharing_eq : n.sharing = m.sharing := by cases h <;> rfl

theorem required_eq : n.required = m.required := by cases h <;> rfl

theorem acceptsNull_eq : n.acceptsNull = m.acceptsNull := by cases h <;> rfl

theorem matches_eq (v : Value) : n.matches v = m.matches v := by cases h <;> rfl

theorem check_eq (site : Site) (v : Value) : n.check site v = m.check site v := by
  cases h with
  | refl => rfl
  | object => cases v <;> rfl
  | array => cases v <;> rfl

/-- The mappings by which the nodes mark maps. -/
theorem seedFields? : Option.Rel Fields.Reordered n.seedFields? m.seedFields? := by
  cases h with
  | refl => exact rel_self .refl _
  | @object p s s' h =>
    cases h with
    | members h =>
      cases s <;> cases s' <;> rcases h with _ | ⟨h, _ | ⟨_, _⟩⟩
      · exact .some h
      · exact .none
  | array => exact .none

theorem seedItems? : Option.Rel TypeSpec.Reordered n.seedItems? m.seedItems? := by
  cases h with
  | refl => exact rel_self .refl _
  | object => exact .none
  | array p c h => exact .some h

end Reordered

end Node

namespace TypeSpec.Reordered

variable {t t' : TypeSpec} (h : t.Reordered t')

include h

theorem first : t.first.Reordered t'.first := by
  cases h with
  | candidates h =>
    cases t <;> cases t' <;> cases h <;> assumption

theorem isUnion_eq : t.isUnion = t'.isUnion := by
  cases h with
  | candidates h =>
    have hlength := h.length_eq
    cases t <;> cases t' <;> first | rfl | simp [TypeSpec.candidates] at hlength

/-- **Values that differ in the order of keys** resolve to the same candidate. -/
theorem resolve {v w : Value} (hvw : v.Reordered w) :
    (t.resolve v).Reordered (t'.resolve w) := by
  have hfirst := h.first
  by_cases habsent : v = .absent
  · rw [hvw.eq_of_leaf (by rw [habsent]; rfl), habsent, resolve_absent, resolve_absent]
    exact hfirst
  · have habsent' : w ≠ .absent := by
      rwa [← Value.isPresent_iff, ← hvw.isPresent_eq, Value.isPresent_iff]
    rw [t.resolve_eq habsent, t'.resolve_eq habsent']
    cases h with
    | candidates h =>
      refine rel_getD (rel_find? h (fun n m hnm => ?_)) hfirst
      rw [hnm.matches_eq, hvw.matches_eq]

/-- The mappings by which the types mark maps. -/
theorem seedFields? : Option.Rel Fields.Reordered t.seedFields? t'.seedFields? := by
  cases h with
  | candidates h =>
    have hobjects : List.Forall₂ Node.Reordered t.objects t'.objects :=
      List.rel_filter (fun n m hnm => by dsimp only; rw [hnm.kind_eq]) h
    unfold TypeSpec.seedFields?
    generalize t.objects = ns at hobjects
    generalize t'.objects = ns' at hobjects
    rcases hobjects with _ | ⟨h, _ | ⟨_, _⟩⟩
    · exact .none
    · exact h.seedFields?
    · exact .none

/-- The types by which the types mark the items of lists. -/
theorem seedItems? : Option.Rel TypeSpec.Reordered t.seedItems? t'.seedItems? := by
  cases h with
  | candidates h =>
    have harrays : List.Forall₂ Node.Reordered t.arrays t'.arrays :=
      List.rel_filter (fun n m hnm => by dsimp only; rw [hnm.kind_eq]) h
    unfold TypeSpec.seedItems?
    generalize t.arrays = ns at harrays
    generalize t'.arrays = ns' at harrays
    rcases harrays with _ | ⟨h, _ | ⟨_, _⟩⟩
    · exact .none
    · exact h.seedItems?
    · exact .none

end TypeSpec.Reordered

/-! ## Marking -/

/-- The marks of a mapping go by its names only. -/
theorem Fields.marks_eq (fs : Fields) (es : List (Value × Value)) :
    fs.marks es = ((fs.map Prod.fst).filter (fun name => !Value.hasKey es name)).map
      (fun name => (.text name, .absent)) := by
  rw [List.filter_map, List.map_map]
  rfl

/-- The marks of the missing fields are the same, in another order. -/
theorem Fields.Reordered.perm_marks {fs gs : Fields} (h : Fields.Reordered fs gs)
    {es es' : List (Value × Value)} (hkeys : ∀ name, Value.hasKey es name = Value.hasKey es' name) :
    (fs.marks es).Perm (gs.marks es') := by
  cases h with
  | fields h hperm =>
    rw [Fields.marks_eq, Fields.marks_eq, Fields.names_eq h]
    simp only [hkeys]
    exact ((hperm.map Prod.fst).filter _).map _

namespace Marker

variable {m m' : Marker} (h : Option.Rel TypeSpec.Reordered m m')

include h

theorem reordered_fields? : Option.Rel Fields.Reordered m.fields? m'.fields? := by
  cases h with
  | none => exact .none
  | some h => exact h.seedFields?

theorem reordered_ofItems : Option.Rel TypeSpec.Reordered m.ofItems m'.ofItems := by
  cases h with
  | none => exact .none
  | some h => exact h.seedItems?

theorem reordered_atKey (hm : m.All TypeSpec.wellNamed) (key : Value) :
    Option.Rel TypeSpec.Reordered (m.atKey key) (m'.atKey key) := by
  refine rel_bind (rel_of_eq_some (reordered_fields? h)) ?_
  rintro fs gs ⟨hfs, h⟩
  exact h.typeAt? (hm.nodup hfs) key

theorem perm_missing {es gs : List (Value × Value)}
    (hkeys : ∀ name, Value.hasKey es name = Value.hasKey gs name) :
    (m.missing es).Perm (m'.missing gs) := by
  have hfields := reordered_fields? h
  unfold missing
  generalize m.fields? = a at hfields
  generalize m'.fields? = b at hfields
  cases hfields with
  | none => exact .refl _
  | some h => exact h.perm_marks hkeys

/-- **Marked values** differ in the order of keys only, if the values do. -/
theorem reordered_mark (hm : m.All TypeSpec.wellNamed) (hm' : m'.All TypeSpec.wellNamed)
    {v w : Value} (hvw : v.Reordered w) (hv : v.everywhere Value.isKeyed = true) :
    (m.mark v).Reordered (m'.mark w) := by
  induction v using Value.members_induction generalizing m m' w with
  | map es ih =>
    obtain ⟨fs, gs, rfl, hes, hperm⟩ := hvw.exists_of_map
    obtain ⟨hkeys, hes'⟩ := Value.testsKeys_isKeyed.map_iff.mp hv
    have hkeys' := (Value.perm_textKeys hes hperm).nodup_iff.mp hkeys
    rw [m.mark_map hm hkeys, m'.mark_map hm' hkeys']
    have hmarked : List.Forall₂ Value.EntryReordered
        (es.map (fun e => (e.1, (m.atKey e.1).mark e.2)))
        (fs.map (fun e => (e.1, (m'.atKey e.1).mark e.2))) := by
      refine List.rel_map ?_ (forall₂_of_mem hes)
      rintro _ _ ⟨he, -, hef⟩
      cases hef with
      | value k hef =>
        exact .value k (ih _ he (reordered_atKey h hm k) (hm.atKey k) (hm'.atKey k) hef (hes' _ he))
    have hmarks : List.Forall₂ Value.EntryReordered (m.missing es) (m.missing es) :=
      List.forall₂_same.mpr (fun e _ => .value e.1 (.refl e.2))
    exact .map (List.rel_append hmarked hmarks)
      ((hperm.map _).append (perm_missing h (Value.hasKey_eq hes hperm)))
  | list vs ih =>
    obtain ⟨ws, rfl, hvs⟩ := hvw.exists_of_list
    rw [m.mark_list, m'.mark_list]
    refine .list (List.rel_map ?_ (forall₂_of_mem hvs))
    rintro v w ⟨hmem, -, hvw⟩
    exact ih v hmem (reordered_ofItems h) hm.ofItems hm'.ofItems hvw
      (Value.testsKeys_isKeyed.list_iff.mp hv v hmem)
  | other v hleaf =>
    rw [hvw.eq_of_leaf hleaf, m.mark_of_leaf hleaf, m'.mark_of_leaf hleaf]
    exact .refl v

end Marker

end Conform
