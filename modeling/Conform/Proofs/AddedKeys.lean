import Conform.Proofs.Repetition
import Conform.Proofs.UniqueFit

/-!
# What marking adds, and what it leaves

Marking rewrites the data it is given, one field after the other, and goes down into the values it
has just put back. That nothing is lost on the way is not visible in any of its steps, and neither
is which keys come in: how far marking goes down depends on the shape of the values, while the type
that governs a path is later looked for by the path alone.

So the added keys are described without marking. A map *lacks* a key at some path
(`TypeSpec.Lacks`) if the way there leads, from each value to its member, through the one candidate
that the value fits, and the mapping at its end declares a name that the map there does not have.
These are the marks, and there are no others (`Marker.mark_at_absent_iff`). All of them are declared
(`TypeSpec.Lacks.reach_ne_nil`), taking them out gives the data back (`Marker.unmarked_mark`), and
marking again adds none (`Marker.mark_mark`).

Nothing here asks what the values are. A value of the wrong kind fits no candidate, or one that does
not lead on, and is left alone.
-/

namespace Conform

/-! ## Taking marks out -/

namespace Value

mutual
/-- **A value without the marks in its maps.** The items of lists all stay. -/
def unmarked : Value → Value
  | .map es => .map (unmarkedEntries es)
  | .list vs => .list (unmarkedItems vs)
  | v => v

/-- The entries of a map that are no marks. -/
def unmarkedEntries : List (Value × Value) → List (Value × Value)
  | [] => []
  | (k, v) :: es =>
    if v.isPresent then (k, unmarked v) :: unmarkedEntries es else unmarkedEntries es

/-- The items of a list, each without marks. -/
def unmarkedItems : List Value → List Value
  | [] => []
  | v :: vs => unmarked v :: unmarkedItems vs
end

theorem unmarkedEntries_eq (es : List (Value × Value)) : unmarkedEntries es =
    (es.filter (fun e => e.2.isPresent)).map (fun e => (e.1, e.2.unmarked)) := by
  induction es with
  | nil => rfl
  | cons e es ih =>
    rw [unmarkedEntries, List.filter_cons, ih]
    split <;> rfl

theorem unmarkedItems_eq_map (vs : List Value) : unmarkedItems vs = vs.map unmarked := by
  induction vs with
  | nil => rfl
  | cons v vs ih => rw [unmarkedItems, ih, List.map_cons]

end Value

/-! ## The one candidate -/

namespace TypeSpec

variable {t : TypeSpec}

theorem fitting_map (t : TypeSpec) (es : List (Value × Value)) :
    t.fitting (.map es) = t.objects := by
  unfold fitting objects
  simp only [Node.matches_map]

theorem fitting_list (t : TypeSpec) (vs : List Value) : t.fitting (.list vs) = t.arrays := by
  unfold fitting arrays
  simp only [Node.matches_list]

/-- Maps are marked by the mapping of the one candidate that they fit. -/
theorem seedFields?_eq_some {fs : Fields} (es : List (Value × Value)) :
    t.seedFields? = some fs ↔ ∃ p, t.fitting (.map es) = [.object p (.mapping fs)] := by
  rw [fitting_map]
  constructor
  · intro h
    obtain ⟨p, -, hobjects⟩ := exists_of_seedFields? h
    exact ⟨p, hobjects⟩
  · rintro ⟨p, hobjects⟩
    unfold seedFields?
    rw [hobjects]
    rfl

/-- Items are marked by the type of the one candidate that their list fits. -/
theorem seedItems?_eq_some {u : TypeSpec} (vs : List Value) :
    t.seedItems? = some u ↔ ∃ p c, t.fitting (.list vs) = [.array p u c] := by
  rw [fitting_list]
  constructor
  · intro h
    obtain ⟨p, c, -, harrays⟩ := exists_of_seedItems? h
    exact ⟨p, c, harrays⟩
  · rintro ⟨p, c, harrays⟩
    unfold seedItems?
    rw [harrays]
    rfl

/-! ## Missing keys -/

/-- **A declared key is missing** from a map somewhere in a value: the path leads to the map through
members of which each fits just one candidate of its type, and then by the key. -/
inductive Lacks : TypeSpec → Value → Path → Prop
  | key {t u : TypeSpec} {p : Presence (List (String × Value))} {fs : Fields}
    {es : List (Value × Value)} {name : String}
    (hfits : t.fitting (.map es) = [.object p (.mapping fs)]) (hname : (name, u) ∈ fs)
    (hnew : Value.hasKey es name = false) : Lacks t (.map es) [.text name]
  | entry {t u : TypeSpec} {p : Presence (List (String × Value))} {fs : Fields}
    {es : List (Value × Value)} {name : String} {v : Value} {path : Path}
    (hfits : t.fitting (.map es) = [.object p (.mapping fs)]) (hname : (name, u) ∈ fs)
    (hv : (.text name, v) ∈ es) (h : Lacks u v path) : Lacks t (.map es) (.text name :: path)
  | item {t u : TypeSpec} {p : Presence (List Value)} {c : ItemCount} {vs : List Value} {i : Nat}
    {v : Value} {path : Path} (hfits : t.fitting (.list vs) = [.array p u c])
    (hv : vs[i]? = some v) (h : Lacks u v path) : Lacks t (.list vs) (.int i :: path)

end TypeSpec

namespace Marker

/-- A declared key is missing from a map in a value, by the type that the value is marked by. -/
def Lacks (m : Marker) (v : Value) (path : Path) : Prop := ∃ t, m = some t ∧ t.Lacks v path

variable {m : Marker} {es : List (Value × Value)} {vs : List Value} {v : Value} {key : Value}
  {path : Path}

/-- **What a map lacks** its members lack, or it is a mark of the map. -/
theorem lacks_map_cons (hm : m.All TypeSpec.wellNamed) : m.Lacks (.map es) (key :: path) ↔
    (∃ v, (key, v) ∈ es ∧ (m.atKey key).Lacks v path) ∨
      (key, .absent) ∈ m.missing es ∧ path = [] := by
  have hfields : ∀ {t : TypeSpec} {fs : Fields}, m = some t →
      (m.fields? = some fs ↔ ∃ p, t.fitting (.map es) = [.object p (.mapping fs)]) := by
    rintro t fs rfl
    exact TypeSpec.seedFields?_eq_some es
  constructor
  · rintro ⟨t, hmt, h⟩
    cases h with
    | key hfits hname hnew =>
      exact .inr ⟨mem_missing.mpr ⟨_, _, _, (hfields hmt).mpr ⟨_, hfits⟩, hname, hnew, rfl⟩, rfl⟩
    | entry hfits hname hv h =>
      have hfs := (hfields hmt).mpr ⟨_, hfits⟩
      refine .inl ⟨_, hv, _, ?_, h⟩
      rw [atKey, hfs]
      exact Fields.typeAt?_of_mem (hm.nodup hfs) hname
  · rintro (⟨v, hv, u, hu, h⟩ | ⟨hmissing, rfl⟩)
    · obtain ⟨fs, hfs, htype⟩ := Option.bind_eq_some_iff.mp hu
      obtain ⟨t, hmt, -⟩ := exists_of_fields? hfs
      obtain ⟨name, hname, rfl⟩ := Fields.exists_of_typeAt? htype
      obtain ⟨p, hfits⟩ := (hfields hmt).mp hfs
      exact ⟨t, hmt, .entry hfits hname hv h⟩
    · obtain ⟨fs, name, u, hfs, hname, hnew, hentry⟩ := mem_missing.mp hmissing
      obtain ⟨t, hmt, -⟩ := exists_of_fields? hfs
      obtain ⟨p, hfits⟩ := (hfields hmt).mp hfs
      cases hentry
      exact ⟨t, hmt, .key hfits hname hnew⟩

theorem lacks_list_cons : m.Lacks (.list vs) (key :: path) ↔
    ∃ (i : Nat) (v : Value), key = .int i ∧ vs[i]? = some v ∧ m.ofItems.Lacks v path := by
  constructor
  · rintro ⟨t, rfl, h⟩
    cases h with
    | item hfits hv h =>
      exact ⟨_, _, rfl, hv, _, (TypeSpec.seedItems?_eq_some vs).mpr ⟨_, _, hfits⟩, h⟩
  · rintro ⟨i, v, rfl, hv, u, hu, h⟩
    obtain ⟨t, rfl, hitems⟩ := Option.bind_eq_some_iff.mp hu
    obtain ⟨p, c, hfits⟩ := (TypeSpec.seedItems?_eq_some vs).mp hitems
    exact ⟨t, rfl, .item hfits hv h⟩

/-- Nothing is missing at the root of a value, nor in a value without members. -/
theorem not_lacks_nil : ¬ m.Lacks v [] := by
  rintro ⟨t, -, h⟩
  cases h

theorem not_lacks_of_leaf (h : v.isContainer = false) : ¬ m.Lacks v path := by
  rintro ⟨t, -, hlacks⟩
  cases hlacks <;> cases h

/-! ## What marking does to a working copy -/

/-- **The marks are the keys that are missing**, all of them and no others. -/
theorem mark_at_absent_iff (hm : m.All TypeSpec.wellNamed)
    (hcopied : v.everywhere Value.isCopied = true)
    (hpresent : v.everywhere Value.isPresent = true) :
    (m.mark v).At path .absent ↔ m.Lacks v path := by
  induction path generalizing m v with
  | nil =>
    refine iff_of_false (fun hat => ?_) not_lacks_nil
    exact ne_nil_of_mark_at (Value.self_of_everywhere hpresent) hat rfl
  | cons key path ih =>
    cases v with
    | map es =>
      obtain ⟨hkeys, hcopied⟩ := Value.isCopied_map_iff.mp hcopied
      have hpresent := (Value.everywhere_map.mp hpresent).2
      rw [m.mark_map hm hkeys, Value.map_at_cons, lacks_map_cons hm]
      constructor
      · rintro ⟨w, hw, hat⟩
        rcases List.mem_append.mp hw with hown | hmissing
        · obtain ⟨⟨k, v⟩, hv, hentry⟩ := List.mem_map.mp hown
          cases hentry
          exact .inl ⟨v, hv, (ih (hm.atKey k) (hcopied _ hv) (hpresent _ hv)).mp hat⟩
        · obtain rfl := m.absent_of_mem_missing hmissing
          cases hat
          exact .inr ⟨hmissing, rfl⟩
      · rintro (⟨v, hv, h⟩ | ⟨hmissing, rfl⟩)
        · exact ⟨_, List.mem_append_left _ (List.mem_map.mpr ⟨_, hv, rfl⟩),
            (ih (hm.atKey key) (hcopied _ hv) (hpresent _ hv)).mpr h⟩
        · exact ⟨_, List.mem_append_right _ hmissing, .here _⟩
    | list vs =>
      have hcopied := Value.isCopied_list_iff.mp hcopied
      have hpresent := (Value.everywhere_list.mp hpresent).2
      rw [m.mark_list, Value.list_at_cons, lacks_list_cons]
      refine exists_congr (fun i => ⟨?_, ?_⟩)
      · rintro ⟨w, hkey, hw, hat⟩
        rw [List.getElem?_map, Option.map_eq_some_iff] at hw
        obtain ⟨v, hv, rfl⟩ := hw
        have hmem := List.mem_of_getElem? hv
        exact ⟨v, hkey, hv, (ih hm.ofItems (hcopied v hmem) (hpresent v hmem)).mp hat⟩
      · rintro ⟨v, hkey, hv, h⟩
        have hmem := List.mem_of_getElem? hv
        exact ⟨m.ofItems.mark v, hkey, by rw [List.getElem?_map, hv]; rfl,
          (ih hm.ofItems (hcopied v hmem) (hpresent v hmem)).mpr h⟩
    | _ =>
      refine iff_of_false ?_ (not_lacks_of_leaf rfl)
      rw [m.mark_of_leaf rfl]
      rintro ⟨⟩

/-- **Taking the marks out gives the value back.** -/
theorem unmarked_mark (hm : m.All TypeSpec.wellNamed)
    (hcopied : v.everywhere Value.isCopied = true)
    (hpresent : v.everywhere Value.isPresent = true) : (m.mark v).unmarked = v := by
  induction v using Value.members_induction generalizing m with
  | map es ih =>
    obtain ⟨hkeys, hcopied⟩ := Value.isCopied_map_iff.mp hcopied
    have hpresent := (Value.everywhere_map.mp hpresent).2
    have hown : (es.map (fun e => (e.1, (m.atKey e.1).mark e.2))).filter (fun e => e.2.isPresent) =
        es.map (fun e => (e.1, (m.atKey e.1).mark e.2)) := by
      refine List.filter_eq_self.mpr (List.forall_mem_map.mpr (fun e he => ?_))
      exact (m.atKey e.1).isPresent_mark (Value.self_of_everywhere (hpresent e he))
    have hmarks : (m.missing es).filter (fun e => e.2.isPresent) = [] := by
      refine List.filter_eq_nil_iff.mpr (fun e he => ?_)
      rw [m.absent_of_mem_missing he]
      exact Bool.false_ne_true
    rw [m.mark_map hm hkeys, Value.unmarked, Value.unmarkedEntries_eq, List.filter_append, hown,
      hmarks, List.append_nil, List.map_map]
    refine congrArg Value.map ((List.map_congr_left (fun e he => ?_)).trans (List.map_id es))
    exact Prod.ext rfl (ih e he (hm.atKey e.1) (hcopied e he) (hpresent e he))
  | list vs ih =>
    have hcopied := Value.isCopied_list_iff.mp hcopied
    have hpresent := (Value.everywhere_list.mp hpresent).2
    rw [m.mark_list, Value.unmarked, Value.unmarkedItems_eq_map, List.map_map]
    refine congrArg Value.list ((List.map_congr_left (fun v hv => ?_)).trans (List.map_id vs))
    exact ih v hv hm.ofItems (hcopied v hv) (hpresent v hv)
  | other v hleaf =>
    rw [m.mark_of_leaf hleaf]
    cases v with
    | map es => cases hleaf
    | list vs => cases hleaf
    | _ => rfl

/-- A map that keeps its keys and has the marks of its missing fields lacks none. -/
theorem missing_append_missing {own : List (Value × Value)}
    (hown : own.map Prod.fst = es.map Prod.fst) : m.missing (own ++ m.missing es) = [] := by
  refine List.eq_nil_iff_forall_not_mem.mpr (fun e he => ?_)
  obtain ⟨fs, name, t, hfs, hname, hnew, -⟩ := mem_missing.mp he
  rw [Value.hasKey, List.any_append, Bool.or_eq_false_iff] at hnew
  have hlacked : Value.hasKey es name = false := by
    have hkeys : ∀ l : List (Value × Value), Value.hasKey l name =
        (l.map Prod.fst).any (fun k => keyNames k name) := fun l => by rw [List.any_map]; rfl
    rw [hkeys, ← hown, ← hkeys]
    exact hnew.1
  have hmark : (Value.text name, Value.absent) ∈ m.missing es :=
    mem_missing.mpr ⟨fs, name, t, hfs, hname, hlacked, rfl⟩
  exact List.any_eq_false.mp hnew.2 _ hmark (keyNames_iff.mpr rfl)

/-- **Marking again changes nothing.** -/
theorem mark_mark (hm : m.All TypeSpec.wellNamed) (hcopied : v.everywhere Value.isCopied = true) :
    m.mark (m.mark v) = m.mark v := by
  induction v using Value.members_induction generalizing m with
  | map es ih =>
    obtain ⟨hkeys, hes⟩ := Value.isCopied_map_iff.mp hcopied
    have hmarked := m.isCopied_mark hm hcopied
    rw [m.mark_map hm hkeys] at hmarked ⊢
    rw [m.mark_map hm (Value.isCopied_map_iff.mp hmarked).1, missing_append_missing (by
      rw [List.map_map]; rfl), List.append_nil]
    refine congrArg Value.map ((List.map_congr_left (fun e he => ?_)).trans (List.map_id _))
    refine Prod.ext rfl ?_
    show (m.atKey e.1).mark e.2 = e.2
    rcases List.mem_append.mp he with hown | hmark
    · obtain ⟨f, hf, rfl⟩ := List.mem_map.mp hown
      exact ih f hf (hm.atKey f.1) (hes f hf)
    · rw [m.absent_of_mem_missing hmark, mark_of_leaf _ rfl]
  | list vs ih =>
    rw [m.mark_list, m.mark_list, List.map_map]
    refine congrArg Value.list (List.map_congr_left (fun v hv => ?_))
    exact ih v hv hm.ofItems (Value.isCopied_list_iff.mp hcopied v hv)
  | other v hleaf => rw [m.mark_of_leaf hleaf, m.mark_of_leaf hleaf]

/-- **What is there in a marked value** was there at the same path, and is marked. -/
theorem exists_of_mark_at (hm : m.All TypeSpec.wellNamed)
    (hcopied : v.everywhere Value.isCopied = true) {u : Value} (hu : u.isPresent = true)
    (hat : (m.mark v).At path u) :
    ∃ (n : Marker) (w : Value), n.All TypeSpec.wellNamed ∧ v.At path w ∧ u = n.mark w := by
  induction path generalizing m v with
  | nil => exact ⟨m, v, hm, .here v, (Value.at_nil.mp hat).symm⟩
  | cons key path ih =>
    cases v with
    | map es =>
      obtain ⟨hkeys, hes⟩ := Value.isCopied_map_iff.mp hcopied
      rw [m.mark_map hm hkeys, Value.map_at_cons] at hat
      obtain ⟨x, hx, hat⟩ := hat
      rcases List.mem_append.mp hx with hown | hmissing
      · obtain ⟨⟨k, w⟩, hw, hentry⟩ := List.mem_map.mp hown
        cases hentry
        obtain ⟨n, y, hn, hy, rfl⟩ := ih (hm.atKey k) (hes _ hw) hat
        exact ⟨n, y, hn, .entry hw hy, rfl⟩
      · -- a mark has nothing below it
        obtain rfl := m.absent_of_mem_missing hmissing
        cases hat
        cases hu
    | list vs =>
      rw [m.mark_list, Value.list_at_cons] at hat
      obtain ⟨i, x, rfl, hx, hat⟩ := hat
      rw [List.getElem?_map, Option.map_eq_some_iff] at hx
      obtain ⟨w, hw, rfl⟩ := hx
      obtain ⟨n, y, hn, hy, rfl⟩ := ih hm.ofItems
        (Value.isCopied_list_iff.mp hcopied w (List.mem_of_getElem? hw)) hat
      exact ⟨n, y, hn, .item hw hy, rfl⟩
    | _ =>
      rw [m.mark_of_leaf rfl] at hat
      cases hat

/-- **The entries of a marked map**, at every depth: first those of the map that was there, in their
order, and after them the marks. -/
theorem exists_of_mark_at_map (hm : m.All TypeSpec.wellNamed)
    (hcopied : v.everywhere Value.isCopied = true) (hpresent : v.everywhere Value.isPresent = true)
    {gs : List (Value × Value)} (hat : (m.mark v).At path (.map gs)) :
    ∃ es own marks, v.At path (.map es) ∧ gs = own ++ marks ∧
      own.map Prod.fst = es.map Prod.fst ∧ (∀ e ∈ own, e.2.isPresent = true) ∧
      ∀ e ∈ marks, e.2 = .absent := by
  obtain ⟨n, w, hn, hw, hmark⟩ := exists_of_mark_at hm hcopied rfl hat
  cases w with
  | map es =>
    rw [n.mark_map hn (Value.isCopied_map_iff.mp (Value.everywhere_of_at hcopied hw)).1] at hmark
    cases hmark
    have hthere := (Value.everywhere_map.mp (Value.everywhere_of_at hpresent hw)).2
    refine ⟨es, _, n.missing es, hw, rfl, by rw [List.map_map]; rfl, ?_,
      fun e he => n.absent_of_mem_missing he⟩
    refine List.forall_mem_map.mpr (fun e he => ?_)
    exact (n.atKey e.1).isPresent_mark (Value.self_of_everywhere (hthere e he))
  | list vs =>
    rw [n.mark_list] at hmark
    cases hmark
  | _ =>
    rw [n.mark_of_leaf rfl] at hmark
    cases hmark

end Marker

/-! ## Missing keys are declared -/

namespace TypeSpec

/-- A field of the one candidate is among the types of its name. -/
theorem mem_typesAt_of_fitting {t u : TypeSpec} (ht : t.everyType wellNamed = true) {v : Value}
    {p : Presence (List (String × Value))} {fs : Fields} {name : String}
    (hfits : t.fitting v = [.object p (.mapping fs)]) (hname : (name, u) ∈ fs) :
    u ∈ t.typesAt (.text name) := by
  have hmem := (mem_of_fitting hfits).1
  have htype : fs.typeAt? (.text name) = some u :=
    Fields.typeAt?_of_mem (nodup_of_mem ht hmem) hname
  refine List.mem_flatMap.mpr ⟨_, hmem, ?_⟩
  show u ∈ Schema.typesAt (.mapping fs) (.text name)
  rw [Schema.typesAt_mapping, htype]
  exact List.mem_singleton_self u

/-- The items of the one candidate are among the types of an index. -/
theorem mem_typesAt_int_of_fitting {t u : TypeSpec} {v : Value} {p : Presence (List Value)}
    {c : ItemCount} (hfits : t.fitting v = [.array p u c]) (i : Nat) : u ∈ t.typesAt (.int i) := by
  refine List.mem_flatMap.mpr ⟨_, (mem_of_fitting hfits).1, ?_⟩
  show u ∈ if (Value.int i).isIndex then [u] else []
  rw [if_pos (show (Value.int i).isIndex = true from decide_eq_true (Int.natCast_nonneg i))]
  exact List.mem_singleton_self u

/-- **A missing key is declared**: the members on the way to it are a route to its type. -/
theorem Lacks.reach_ne_nil {t : TypeSpec} {v : Value} {path : Path} (h : t.Lacks v path)
    (ht : t.everyType wellNamed = true) {ts : List TypeSpec} (hmem : t ∈ ts) :
    reach ts path ≠ [] := by
  induction h generalizing ts with
  | key hfits hname _ =>
    exact List.ne_nil_of_mem (List.mem_flatMap.mpr ⟨_, hmem, mem_typesAt_of_fitting ht hfits hname⟩)
  | entry hfits hname _ _ ih =>
    have hu := mem_typesAt_of_fitting ht hfits hname
    exact ih (everyType_of_mem_typesAt ht hu) (List.mem_flatMap.mpr ⟨_, hmem, hu⟩)
  | @item _ _ _ _ _ i _ _ hfits _ _ ih =>
    have hu := mem_typesAt_int_of_fitting hfits i
    exact ih (everyType_of_mem_typesAt ht hu) (List.mem_flatMap.mpr ⟨_, hmem, hu⟩)

end TypeSpec

/-! ## Working copies -/

/-- **Marking only adds, once, and only what is declared.** The mapping has been read, and the map
is a working copy without marks. Then the marks can be taken out again, and stand in each map after
the entries that were there; marking again adds none; the path of every mark is declared; and the
marks are just the names of the mapping that the map does not have, and the names that a map inside
lacks, where each value on the way to it fits one candidate of its type. -/
theorem Fields.seed_adds {raw : RawDocument} {fs : Fields} {es : List (Value × Value)}
    (hread : Schema.read raw = .ok (.mapping fs))
    (hcopied : (Value.map es).everywhere Value.isCopied = true)
    (hpresent : (Value.map es).everywhere Value.isPresent = true) :
    ((Value.map (Fields.seed fs es)).unmarked = .map es ∧
      ∀ path gs, (Value.map (Fields.seed fs es)).At path (.map gs) →
        ∃ es' own marks, (Value.map es).At path (.map es') ∧ gs = own ++ marks ∧
          own.map Prod.fst = es'.map Prod.fst ∧ (∀ e ∈ own, e.2.isPresent = true) ∧
          ∀ e ∈ marks, e.2 = .absent) ∧
    Fields.seed fs (Fields.seed fs es) = Fields.seed fs es ∧
    (∀ path, (Value.map (Fields.seed fs es)).At path .absent →
      ((Schema.mapping fs).locate path).isSome = true) ∧
    (∀ f ∈ fs, Value.hasKey es f.1 = false → (.text f.1, .absent) ∈ Fields.seed fs es) ∧
    ∀ path, (Value.map (Fields.seed fs es)).At path .absent ↔
      fs.asType.Lacks (.map es) path := by
  obtain ⟨hnames, hnamed⟩ := Schema.names_of_read hread
  have hm := Fields.wellNamed_asType hnames hnamed
  have hmarks : ∀ path, (Value.map (Fields.seed fs es)).At path .absent ↔
      fs.asType.Lacks (.map es) path := by
    intro path
    refine (Marker.mark_at_absent_iff hm hcopied hpresent).trans ⟨?_, fun h => ⟨_, rfl, h⟩⟩
    rintro ⟨t, ⟨⟩, h⟩
    exact h
  refine ⟨⟨Marker.unmarked_mark hm hcopied hpresent, fun path gs hat =>
    Marker.exists_of_mark_at_map hm hcopied hpresent hat⟩, ?_, ?_, ?_, hmarks⟩
  · exact Value.map.inj (Marker.mark_mark hm hcopied)
  · intro path hat
    have hreach : reach [fs.asType] path ≠ [] :=
      ((hmarks path).mp hat).reach_ne_nil (hm _ rfl) (List.mem_singleton_self _)
    cases path with
    | nil => cases hat
    | cons key rest =>
      rw [Schema.locate_eq_head?_routes, List.isSome_head?]
      simpa [reach, Schema.routes, asType, Node.typesAt] using hreach
  · intro f hf hnew
    have hlacks : fs.asType.Lacks (.map es) [.text f.1] := .key rfl hf hnew
    obtain ⟨v, hv, hat⟩ := Value.map_at_cons.mp ((hmarks _).mpr hlacks)
    cases hat
    exact hv

/-- A delivery: who it is by, with a name or as an object, its lines, and a note. -/
def Fields.delivery : Fields :=
  [("by", .union (.string {} {}) (.object {} (.mapping [("name", .single (.string {} {}))])) []),
   ("lines", .single (.array {} (.single (.object {}
     (.mapping [("count", .single (.number {} {}))]))) {})),
   ("note", .single (.string {} {}))]

/-- The document that a delivery is read from. -/
def Schema.deliveryDocument : Value :=
  .map [(.text "by", .list [.map [(.text "type", .text "string")],
      .map [(.text "type", .text "object"), (.text "properties",
        .map [(.text "name", .map [(.text "type", .text "string")])])]]),
    (.text "lines", .map [(.text "type", .text "array"), (.text "items",
      .map [(.text "type", .text "object"), (.text "properties",
        .map [(.text "count", .map [(.text "type", .text "number")])])])]),
    (.text "note", .map [(.text "type", .text "string")])]

/-- A delivery with an empty line, a line of the wrong kind and a key of its own gets three marks:
one for the note, one in the object of the union, and one in the empty line. -/
theorem Fields.delivery_seed_adds :
    Fields.seed Fields.delivery [(.text "lines", .list [.map [], .int 3]), (.text "extra", .null),
        (.text "by", .map [])] =
      [(.text "lines", .list [.map [(.text "count", .absent)], .int 3]), (.text "extra", .null),
        (.text "by", .map [(.text "name", .absent)]), (.text "note", .absent)] ∧
    (Value.map (Fields.seed Fields.delivery [(.text "lines", .list [.map [], .int 3]),
        (.text "extra", .null), (.text "by", .map [])])).unmarked =
      .map [(.text "lines", .list [.map [], .int 3]), (.text "extra", .null),
        (.text "by", .map [])] ∧
    ∀ path, (Value.map (Fields.seed Fields.delivery [(.text "lines", .list [.map [], .int 3]),
        (.text "extra", .null), (.text "by", .map [])])).At path .absent ↔
      Fields.delivery.asType.Lacks (.map [(.text "lines", .list [.map [], .int 3]),
        (.text "extra", .null), (.text "by", .map [])]) path := by
  have hread : Schema.read Schema.deliveryDocument = .ok (.mapping Fields.delivery) := rfl
  have hcopied : (Value.map [(.text "lines", .list [.map [], .int 3]), (.text "extra", .null),
      (.text "by", .map [])]).everywhere Value.isCopied = true := rfl
  have hadds := Fields.seed_adds hread hcopied rfl
  exact ⟨rfl, hadds.1.1, hadds.2.2.2.2⟩

end Conform
