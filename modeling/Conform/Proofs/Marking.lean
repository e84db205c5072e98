import Conform.Proofs.DistinctNames
import Conform.Proofs.Members
import Conform.Validation.Seeding

/-!
# What marking adds

Marking goes through the fields of a mapping one by one and puts each into the map, so that what it
makes of the map is spread over as many steps. Where the names of the mapping and the text keys of
the map are distinct, all these steps come to one (`Fields.seed_eq`): the entries that are there
stay in their places, each marked by the type of its own field, and after them come the marks of the
fields that are missing.

How marking goes down through a type does not depend on the value beyond its being a map or a list
(`TypeSpec.seed_map`, `TypeSpec.seed_list`), and no other value is changed by it.
-/

namespace Conform

/-! ## Going down through a type -/

namespace Node

/-- The mapping by which a node marks maps. -/
def seedFields? : Node → Option Fields
  | .object _ (.mapping fs) => some fs
  | _ => none

/-- The type by which a node marks the items of lists. -/
def seedItems? : Node → Option TypeSpec
  | .array _ t _ => some t
  | _ => none

end Node

namespace TypeSpec

/-- The candidates that maps fit. -/
def objects (t : TypeSpec) : List Node := t.candidates.filter (fun n => n.kind == .object)

/-- The candidates that lists fit. -/
def arrays (t : TypeSpec) : List Node := t.candidates.filter (fun n => n.kind == .array)

/-- **The mapping by which a type marks maps**, if just one of its candidates is an object. -/
def seedFields? (t : TypeSpec) : Option Fields :=
  match t.objects with
  | [n] => n.seedFields?
  | _ => none

/-- **The type by which a type marks the items of lists**, if just one of its candidates is an
array. -/
def seedItems? (t : TypeSpec) : Option TypeSpec :=
  match t.arrays with
  | [n] => n.seedItems?
  | _ => none

end TypeSpec

theorem Node.matches_map (n : Node) (es : List (Value × Value)) :
    n.matches (.map es) = (n.kind == .object) := by
  cases n <;> rfl

theorem Node.matches_list (n : Node) (vs : List Value) :
    n.matches (.list vs) = (n.kind == .array) := by
  cases n <;> rfl

theorem Node.seed_map (n : Node) (es : List (Value × Value)) :
    n.seed (.map es) = .map ((n.seedFields?.map (fun fs => Fields.seed fs es)).getD es) := by
  rcases n with _ | _ | _ | _ | ⟨p, _ | _⟩ | _ <;> rfl

theorem Node.seed_list (n : Node) (vs : List Value) :
    n.seed (.list vs) = .list ((n.seedItems?.map (fun t => vs.map t.seed)).getD vs) := by
  rcases n with _ | _ | _ | _ | ⟨p, _ | _⟩ | _ <;> rfl

theorem Node.seed_of_leaf (n : Node) {v : Value} (h : v.isContainer = false) : n.seed v = v := by
  cases v with
  | map es => cases h
  | list vs => cases h
  | _ => rcases n with _ | _ | _ | _ | ⟨p, _ | _⟩ | _ <;> rfl

namespace TypeSpec

/-- The candidates that a value fits. -/
def fitting (t : TypeSpec) (v : Value) : List Node := t.candidates.filter (fun n => n.matches v)

theorem seedAmong_eq (ns : List Node) (v : Value) : seedAmong ns v =
    ((ns.find? (fun n => n.matches v)).map (fun n => n.seed v)).getD v := by
  induction ns with
  | nil => rfl
  | cons n ns ih =>
    rw [seedAmong, List.find?_cons, ih]
    cases n.matches v <;> rfl

theorem seed_union (n m : Node) (ns : List Node) (v : Value) : (union n m ns).seed v =
    match (union n m ns).fitting v with
    | [k] => k.seed v
    | _ => v := by
  have hseed : (union n m ns).seed v =
      if ((union n m ns).fitting v).length = 1 then
        seedAmong (union n m ns).candidates v
      else v := by
    rw [seed]
    rfl
  rw [hseed, seedAmong_eq, ← List.head?_filter, ← fitting]
  generalize (union n m ns).fitting v = fitting
  rcases fitting with _ | ⟨k, _ | ⟨l, ks⟩⟩
  · rfl
  · rfl
  · rw [if_neg (by simp)]

/-- **A map is marked** by the mapping that its type marks maps by, if there is one. -/
theorem seed_map (t : TypeSpec) (es : List (Value × Value)) :
    t.seed (.map es) = .map ((t.seedFields?.map (fun fs => Fields.seed fs es)).getD es) := by
  cases t with
  | single n =>
    rw [seed, Node.seed_map]
    rcases n with _ | _ | _ | _ | ⟨p, _ | _⟩ | _ <;> rfl
  | union n m ns =>
    rw [seed_union, fitting]
    simp only [Node.matches_map]
    unfold seedFields? objects
    generalize (union n m ns).candidates.filter (fun k => k.kind == .object) = fitting
    rcases fitting with _ | ⟨k, _ | ⟨l, ks⟩⟩
    · rfl
    · exact k.seed_map es
    · rfl

/-- **A list is marked** item by item, if there is a type that its type marks the items by. -/
theorem seed_list (t : TypeSpec) (vs : List Value) :
    t.seed (.list vs) = .list ((t.seedItems?.map (fun u => vs.map u.seed)).getD vs) := by
  cases t with
  | single n =>
    rw [seed, Node.seed_list]
    rcases n with _ | _ | _ | _ | ⟨p, _ | _⟩ | _ <;> rfl
  | union n m ns =>
    rw [seed_union, fitting]
    simp only [Node.matches_list]
    unfold seedItems? arrays
    generalize (union n m ns).candidates.filter (fun k => k.kind == .array) = fitting
    rcases fitting with _ | ⟨k, _ | ⟨l, ks⟩⟩
    · rfl
    · exact k.seed_list vs
    · rfl

theorem seed_of_leaf (t : TypeSpec) {v : Value} (h : v.isContainer = false) : t.seed v = v := by
  cases t with
  | single n => exact n.seed_of_leaf h
  | union n m ns =>
    rw [seed_union]
    generalize (union n m ns).fitting v = fitting
    rcases fitting with _ | ⟨k, _ | ⟨l, ks⟩⟩
    · rfl
    · exact k.seed_of_leaf h
    · rfl

@[simp] theorem seed_absent (t : TypeSpec) : t.seed .absent = .absent := t.seed_of_leaf rfl

@[simp] theorem seed_null (t : TypeSpec) : t.seed .null = .null := t.seed_of_leaf rfl

theorem seed_eq_absent {t : TypeSpec} {v : Value} : t.seed v = .absent ↔ v = .absent := by
  cases v with
  | map es => rw [seed_map]; simp
  | list vs => rw [seed_list]; simp
  | _ => rw [t.seed_of_leaf rfl]

theorem seed_eq_null {t : TypeSpec} {v : Value} : t.seed v = .null ↔ v = .null := by
  cases v with
  | map es => rw [seed_map]; simp
  | list vs => rw [seed_list]; simp
  | _ => rw [t.seed_of_leaf rfl]

theorem isPresent_seed (t : TypeSpec) (v : Value) : (t.seed v).isPresent = v.isPresent := by
  cases v with
  | map es => rw [seed_map]; rfl
  | list vs => rw [seed_list]; rfl
  | _ => rw [t.seed_of_leaf rfl]

/-- Marking does not change which nodes a value fits. -/
theorem matches_seed (t : TypeSpec) (n : Node) (v : Value) :
    n.matches (t.seed v) = n.matches v := by
  cases v with
  | map es => rw [seed_map, Node.matches_map, Node.matches_map]
  | list vs => rw [seed_list, Node.matches_list, Node.matches_list]
  | _ => rw [t.seed_of_leaf rfl]

end TypeSpec

/-! ## The marks of a mapping -/

/-- The value of a key, marked by the type that a mapping declares for the key. -/
def Fields.seedAt (fs : Fields) (key v : Value) : Value :=
  (fs.typeAt? key).elim v (fun t => t.seed v)

/-- Whether a map has a key with the text of a name. -/
def Value.hasKey (es : List (Value × Value)) (name : String) : Bool :=
  es.any (fun e => keyNames e.1 name)

/-- The marks of the fields that a map does not have. -/
def Fields.marks (fs : Fields) (es : List (Value × Value)) : List (Value × Value) :=
  (fs.filter (fun f => !Value.hasKey es f.1)).map (fun f => (.text f.1, .absent))

theorem Value.sameKey_text (k : Value) (name : String) :
    k.sameKey (.text name) = keyNames k name := by
  cases k <;> rfl

theorem keyNames_iff {key : Value} {name : String} :
    keyNames key name = true ↔ key = .text name := by
  cases key with
  | text s => exact beq_iff_eq.trans (by simp)
  | _ => exact ⟨nofun, nofun⟩

namespace Value

theorem hasKey_iff {es : List (Value × Value)} {name : String} :
    hasKey es name = true ↔ name ∈ textKeys es := by
  simp only [hasKey, List.any_eq_true, keyNames_iff, textKeys, List.mem_filterMap]
  refine exists_congr (fun e => and_congr_right (fun _ => ?_))
  rcases e with ⟨k, v⟩
  cases k <;> simp [Violation.textOf?]

theorem textKeys_append (es fs : List (Value × Value)) :
    textKeys (es ++ fs) = textKeys es ++ textKeys fs := List.filterMap_append

/-- The text keys depend on the keys only. -/
theorem textKeys_map (es : List (Value × Value)) (f : Value × Value → Value) :
    textKeys (es.map (fun e => (e.1, f e))) = textKeys es := by
  rw [textKeys, List.filterMap_map]
  rfl

theorem hasKey_map (es : List (Value × Value)) (f : Value × Value → Value) (name : String) :
    hasKey (es.map (fun e => (e.1, f e))) name = hasKey es name := by
  rw [hasKey, List.any_map]
  rfl

/-- Sorting keys neither adds nor drops one. -/
theorem hasKey_sortKeys (es : List (Value × Value)) (name : String) :
    hasKey ((sortValues es).mergeSort entryLe) name = hasKey es name := by
  unfold hasKey
  rw [(List.mergeSort_perm _ entryLe).any_eq, sortValues_eq_map, List.any_map]
  rfl

theorem entry?_eq (es : List (Value × Value)) (name : String) :
    entry? es (.text name) = (es.find? (fun e => keyNames e.1 name)).map (fun e => e.2) := by
  unfold entry?
  simp only [sameKey_text]

theorem setEntry_eq (es : List (Value × Value)) (name : String) (v : Value) :
    setEntry es (.text name) v = if hasKey es name then
      es.map (fun e => (e.1, if keyNames e.1 name then v else e.2))
    else es ++ [(.text name, v)] := by
  have hmap : es.map (fun e => if keyNames e.1 name then (e.1, v) else e) =
      es.map (fun e => (e.1, if keyNames e.1 name then v else e.2)) :=
    List.map_congr_left (fun e _ => by split <;> rfl)
  simp only [setEntry, sameKey_text, hmap]
  rfl

/-- Among distinct text keys each has its own value. -/
theorem entry?_of_mem {es : List (Value × Value)} (hes : (textKeys es).Nodup) {name : String}
    {v : Value} (h : (.text name, v) ∈ es) : entry? es (.text name) = some v := by
  induction es with
  | nil => cases h
  | cons e es ih =>
    rw [entry?_eq, List.find?_cons]
    cases hk : keyNames e.1 name with
    | true =>
      have hkey := keyNames_iff.mp hk
      rcases List.mem_cons.mp h with rfl | h
      · rfl
      · -- a second entry with this key
        have hmem : name ∈ textKeys es :=
          List.mem_filterMap.mpr ⟨_, h, rfl⟩
        have hcons : textKeys (e :: es) = name :: textKeys es := by
          rw [textKeys, List.filterMap_cons, hkey]
          rfl
        rw [hcons, List.nodup_cons] at hes
        exact absurd hmem hes.1
    | false =>
      have h : (.text name, v) ∈ es := by
        rcases List.mem_cons.mp h with rfl | h
        · rw [keyNames_iff.mpr rfl] at hk
          cases hk
        · exact h
      have hsub : (textKeys es).Sublist (textKeys (e :: es)) :=
        (List.sublist_cons_self e es).filterMap _
      rw [← ih (hes.sublist hsub) h, entry?_eq]

/-- The one entry of a key that is there is rewritten in its place. -/
theorem setEntry_of_hasKey {es : List (Value × Value)} (hes : (textKeys es).Nodup) {name : String}
    (hkey : hasKey es name = true) (f : Value → Value) :
    setEntry es (.text name) (f ((Value.entry? es (.text name)).getD .absent)) =
      es.map (fun e => (e.1, if keyNames e.1 name then f e.2 else e.2)) := by
  rw [setEntry_eq, if_pos hkey]
  refine List.map_congr_left (fun e he => ?_)
  split
  next hk =>
    have hmem : (.text name, e.2) ∈ es := by rwa [← keyNames_iff.mp hk]
    rw [entry?_of_mem hes hmem, Option.getD_some]
  next => rfl

section New

variable {es : List (Value × Value)} {name : String} (hkey : hasKey es name = false)

include hkey

/-- No entry has a key that is new. -/
theorem not_keyNames_of_new {e : Value × Value} (he : e ∈ es) : ¬keyNames e.1 name = true :=
  fun hk => Bool.eq_false_iff.mp hkey (List.any_eq_true.mpr ⟨e, he, hk⟩)

theorem entry?_of_new : entry? es (.text name) = none := by
  rw [entry?_eq, Option.map_eq_none_iff, List.find?_eq_none]
  exact fun e he => not_keyNames_of_new hkey he

/-- An entry with a new key is put after the others. -/
theorem setEntry_of_new (v : Value) : setEntry es (.text name) v = es ++ [(.text name, v)] := by
  rw [setEntry_eq, hkey, if_neg (by simp)]

theorem nodup_textKeys_concat (hes : (textKeys es).Nodup) (v : Value) :
    (textKeys (es ++ [(.text name, v)])).Nodup := by
  rw [textKeys_append]
  refine List.nodup_append.mpr ⟨hes, List.pairwise_singleton _ name, fun a ha b hb hab => ?_⟩
  cases List.mem_singleton.mp hb
  rw [hab] at ha
  rw [hasKey_iff.mpr ha] at hkey
  cases hkey

end New

end Value

namespace Fields

/-- Among distinct names each field has its own type. -/
theorem typeAt?_of_mem {fs : Fields} (hfs : (fs.map Prod.fst).Nodup) {name : String}
    {t : TypeSpec} (h : (name, t) ∈ fs) : fs.typeAt? (.text name) = some t := by
  induction fs with
  | nil => cases h
  | cons f fs ih =>
    rw [List.map_cons, List.nodup_cons] at hfs
    rw [typeAt?_cons]
    rcases List.mem_cons.mp h with rfl | hmem
    · rw [if_pos (keyNames_iff.mpr rfl)]
    · have hne : ¬keyNames (.text name) f.1 = true := fun hkey =>
        hfs.1 (Value.text.inj (keyNames_iff.mp hkey) ▸ List.mem_map_of_mem hmem)
      rw [if_neg hne, ih hfs.2 hmem]

theorem typeAt?_eq_none {fs : Fields} {name : String} (h : name ∉ fs.map Prod.fst) :
    fs.typeAt? (.text name) = none := by
  unfold typeAt?
  rw [Option.map_eq_none_iff, List.find?_eq_none]
  intro f hf hkey
  cases keyNames_iff.mp hkey
  exact h (List.mem_map_of_mem hf)

theorem seedAt_cons (name : String) (t : TypeSpec) (fs : Fields) (key v : Value) :
    seedAt ((name, t) :: fs) key v = if keyNames key name then t.seed v else fs.seedAt key v := by
  unfold seedAt
  rw [typeAt?_cons]
  cases keyNames key name <;> rfl

@[simp] theorem seedAt_absent (fs : Fields) (key : Value) : fs.seedAt key .absent = .absent := by
  unfold seedAt
  cases fs.typeAt? key with
  | none => rfl
  | some t => exact t.seed_absent

theorem marks_cons (name : String) (t : TypeSpec) (fs : Fields) (es : List (Value × Value)) :
    marks ((name, t) :: fs) es =
      (if Value.hasKey es name then [] else [(.text name, .absent)]) ++ fs.marks es := by
  unfold marks
  rw [List.filter_cons]
  cases Value.hasKey es name <;> rfl

/-- The mark of a field hides no other field. -/
theorem marks_concat {name : String} {fs : Fields} (hname : name ∉ fs.map Prod.fst)
    (es : List (Value × Value)) (v : Value) : fs.marks (es ++ [(.text name, v)]) = fs.marks es := by
  unfold marks
  refine congrArg _ (List.filter_congr (fun f hf => ?_))
  have hne : name ≠ f.1 := fun h => hname (List.mem_map.mpr ⟨f, hf, h.symm⟩)
  simp [Value.hasKey, keyNames, hne]

/-- **Marking a map all at once**: its entries stay in their places, and the marks of the missing
fields come after them. -/
theorem seed_eq {fs : Fields} {es : List (Value × Value)} (hfs : (fs.map Prod.fst).Nodup)
    (hes : (Value.textKeys es).Nodup) :
    Fields.seed fs es = es.map (fun e => (e.1, fs.seedAt e.1 e.2)) ++ fs.marks es := by
  induction fs generalizing es with
  | nil =>
    show es = es.map (fun e => (e.1, e.2)) ++ []
    simp
  | cons f fs ih =>
    obtain ⟨name, t⟩ := f
    rw [List.map_cons, List.nodup_cons] at hfs
    obtain ⟨hname, hfs⟩ := hfs
    rw [Fields.seed, marks_cons]
    cases hkey : Value.hasKey es name with
    | true =>
      have hseed : ∀ e : Value × Value,
          Fields.seedAt fs e.1 (if keyNames e.1 name then t.seed e.2 else e.2) =
            seedAt ((name, t) :: fs) e.1 e.2 := by
        intro e
        rw [seedAt_cons]
        split
        next hk =>
          -- the fields that follow have no second type for this name
          rw [keyNames_iff.mp hk, seedAt, typeAt?_eq_none hname]
          rfl
        next => rfl
      rw [Value.setEntry_of_hasKey hes hkey, ih hfs (by rwa [Value.textKeys_map]), List.map_map]
      congr 1
      · exact List.map_congr_left (fun e _ => congrArg _ (hseed e))
      · simp only [marks, Value.hasKey_map]
        rfl
    | false =>
      rw [Value.entry?_of_new hkey, Option.getD_none, TypeSpec.seed_absent,
        Value.setEntry_of_new hkey, ih hfs (Value.nodup_textKeys_concat hkey hes _),
        marks_concat hname, List.map_append, List.append_assoc]
      congr 1
      · refine List.map_congr_left (fun e he => ?_)
        rw [seedAt_cons, if_neg (Value.not_keyNames_of_new hkey he)]
      · rw [List.map_cons, List.map_nil, seedAt_absent]
        rfl

end Fields

/-! ## Tests that marking cannot break -/

namespace Value

theorem mem_of_entry? {α : Type} {es : List (Value × α)} {key : Value} {v : α}
    (h : entry? es key = some v) : ∃ k, (k, v) ∈ es := by
  obtain ⟨e, he, rfl⟩ := Option.map_eq_some_iff.mp h
  exact ⟨e.1, List.mem_of_find?_eq_some he⟩

theorem mem_setEntry {α : Type} {es : List (Value × α)} {key : Value} {v : α} {e : Value × α}
    (h : e ∈ setEntry es key v) : e ∈ es ∨ e.2 = v := by
  unfold setEntry at h
  split at h
  · obtain ⟨e', he', rfl⟩ := List.mem_map.mp h
    split
    · exact .inr rfl
    · exact .inl he'
  · rcases List.mem_append.mp h with h | h
    · exact .inl h
    · rw [List.mem_singleton.mp h]
      exact .inr rfl

end Value

/-- **A test that marking cannot break**: it asks nothing of maps, a mark passes it, and of the
items of a list it asks only what marking does not change. -/
structure Value.IgnoresMarks (p : Value → Bool) : Prop where
  absent : p .absent = true
  map : ∀ es, p (.map es) = true
  list : ∀ (t : TypeSpec) (vs : List Value), p (.list vs) = true → p (.list (vs.map t.seed)) = true

mutual

/-- **What marking cannot break** holds at every depth of the marked value. -/
theorem Fields.everywhere_seed {p : Value → Bool} (hp : Value.IgnoresMarks p) :
    ∀ (fs : List (String × TypeSpec)) (es : List (Value × Value)),
    (∀ e ∈ es, e.2.everywhere p = true) → ∀ e ∈ Fields.seed fs es, e.2.everywhere p = true
  | [], _, h => h
  | (name, t) :: fs, es, h => by
    have hv : ((Value.entry? es (.text name)).getD .absent).everywhere p = true := by
      cases hentry : Value.entry? es (.text name) with
      | none => exact hp.absent
      | some v =>
        obtain ⟨k, hk⟩ := Value.mem_of_entry? hentry
        exact h _ hk
    refine Fields.everywhere_seed hp fs _ (fun e he => ?_)
    rcases Value.mem_setEntry he with he | he
    · exact h e he
    · rw [he]
      exact TypeSpec.everywhere_seed hp t _ hv

theorem TypeSpec.everywhere_seed {p : Value → Bool} (hp : Value.IgnoresMarks p) :
    ∀ (t : TypeSpec) (v : Value), v.everywhere p = true → (t.seed v).everywhere p = true
  | .single n, v, h => Node.everywhere_seed hp n v h
  | .union n m ns, v, h => by
    rw [TypeSpec.seed]
    split
    · split
      · exact Node.everywhere_seed hp n v h
      · split
        · exact Node.everywhere_seed hp m v h
        · exact TypeSpec.everywhere_seedAmong hp ns v h
    · exact h

theorem TypeSpec.everywhere_seedAmong {p : Value → Bool} (hp : Value.IgnoresMarks p) :
    ∀ (ns : List Node) (v : Value), v.everywhere p = true →
    (TypeSpec.seedAmong ns v).everywhere p = true
  | [], _, h => h
  | n :: ns, v, h => by
    rw [TypeSpec.seedAmong]
    split
    · exact Node.everywhere_seed hp n v h
    · exact TypeSpec.everywhere_seedAmong hp ns v h

theorem Node.everywhere_seed {p : Value → Bool} (hp : Value.IgnoresMarks p) :
    ∀ (n : Node) (v : Value), v.everywhere p = true → (n.seed v).everywhere p = true
  | .object _ (.mapping fs), v, h => by
    cases v with
    | map es =>
      exact Value.everywhere_map.mpr
        ⟨hp.map _, Fields.everywhere_seed hp fs es (Value.everywhere_map.mp h).2⟩
    | _ => exact h
  | .array _ t _, v, h => by
    cases v with
    | list vs =>
      obtain ⟨hself, hvs⟩ := Value.everywhere_list.mp h
      refine Value.everywhere_list.mpr ⟨hp.list t vs hself, fun w hw => ?_⟩
      obtain ⟨v, hv, rfl⟩ := List.mem_map.mp hw
      exact TypeSpec.everywhere_seed hp t v (hvs v hv)
    | _ => exact h
  | .object _ (.union ..), v, h => h
  | .string .., v, h | .number .., v, h | .boolean .., v, h | .date .., v, h => h

end

theorem Value.ignoresMarks_itemsPresent : Value.IgnoresMarks Value.itemsPresent where
  absent := rfl
  map _ := rfl
  list t vs h := by
    refine List.all_eq_true.mpr (fun w hw => ?_)
    obtain ⟨v, hv, rfl⟩ := List.mem_map.mp hw
    rw [t.isPresent_seed]
    exact List.all_eq_true.mp h v hv

/-- **Marking puts no mark among the items of a list.** -/
theorem Fields.itemsPresent_seed (fs : Fields) (es : List (Value × Value))
    (h : ∀ e ∈ es, e.2.everywhere Value.itemsPresent = true) :
    ∀ e ∈ Fields.seed fs es, e.2.everywhere Value.itemsPresent = true :=
  Fields.everywhere_seed Value.ignoresMarks_itemsPresent fs es h

theorem TypeSpec.itemsPresent_seed (t : TypeSpec) (v : Value)
    (h : v.everywhere Value.itemsPresent = true) :
    (t.seed v).everywhere Value.itemsPresent = true :=
  TypeSpec.everywhere_seed Value.ignoresMarks_itemsPresent t v h

end Conform
