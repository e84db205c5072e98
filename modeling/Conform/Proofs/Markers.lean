import Conform.Proofs.Marking

/-!
# Markers

Going down into a value, marking goes from the type of the value to the types of its members, or to
no type at all where it stops: at unions that fit in several ways, at unions of mappings and at keys
that are not declared. A *marker* is what a value is marked by, a type or nothing, and what marking
does to maps and lists is said in terms of the markers of their members (`Marker.mark_map`,
`Marker.mark_list`). So an induction over a value need not ask at every member whether marking has
stopped.

The markers of members are found in the schema without asking for paths. The type that governs the
path of a member may be another one.
-/

namespace Conform

/-- **What a value is marked by**: a type, or nothing. -/
abbrev Marker := Option TypeSpec

namespace Marker

/-- A value, marked. -/
def mark (m : Marker) (v : Value) : Value := m.elim v (fun t => t.seed v)

/-- The mapping by which maps are marked. -/
def fields? (m : Marker) : Option Fields := m.bind (fun t => t.seedFields?)

/-- The marker of the value of a key. -/
def atKey (m : Marker) (key : Value) : Marker := m.fields?.bind (fun fs => fs.typeAt? key)

/-- The marker of the items of a list. -/
def ofItems (m : Marker) : Marker := m.bind (fun t => t.seedItems?)

/-- The marks that a map gets. -/
def missing (m : Marker) (es : List (Value × Value)) : List (Value × Value) :=
  m.fields?.elim [] (fun fs => fs.marks es)

/-- Whether every type that a marker may lead to passes a test. -/
def All (q : TypeSpec → Bool) (m : Marker) : Prop := ∀ t, m = some t → t.everyType q = true

end Marker

namespace TypeSpec

variable {t : TypeSpec} {q : TypeSpec → Bool}

/-- The mapping that maps are marked by is that of an object among the candidates. -/
theorem exists_of_seedFields? {fs : Fields} (h : t.seedFields? = some fs) :
    ∃ p, Node.object p (.mapping fs) ∈ t.candidates ∧ t.objects = [.object p (.mapping fs)] := by
  unfold seedFields? at h
  split at h
  next n hn =>
    have hmem : n ∈ t.objects := hn ▸ List.mem_singleton_self n
    rcases n with _ | _ | _ | _ | ⟨p, gs | _⟩ | _
    case object.mapping =>
      cases h
      exact ⟨p, (List.mem_filter.mp hmem).1, hn⟩
    all_goals cases h
  next => cases h

/-- The type that items are marked by is that of an array among the candidates. -/
theorem exists_of_seedItems? {u : TypeSpec} (h : t.seedItems? = some u) :
    ∃ p count, Node.array p u count ∈ t.candidates ∧ t.arrays = [.array p u count] := by
  unfold seedItems? at h
  split at h
  next n hn =>
    have hmem : n ∈ t.arrays := hn ▸ List.mem_singleton_self n
    cases n with
    | array p u count =>
      cases h
      exact ⟨p, count, (List.mem_filter.mp hmem).1, hn⟩
    | _ => cases h
  next => cases h

end TypeSpec

namespace Marker

variable {m : Marker} {q : TypeSpec → Bool}

theorem exists_of_fields? {fs : Fields} (h : m.fields? = some fs) :
    ∃ t, m = some t ∧ t.seedFields? = some fs := Option.bind_eq_some_iff.mp h

theorem All.fields (h : m.All q) {fs : Fields} (hfs : m.fields? = some fs) :
    Fields.everyType q fs = true := by
  obtain ⟨t, rfl, ht⟩ := exists_of_fields? hfs
  obtain ⟨p, hmem, -⟩ := TypeSpec.exists_of_seedFields? ht
  exact TypeSpec.everyType_of_mem (h t rfl) hmem

/-- **A test that is passed by every type of a marker** is passed by those of the members. -/
theorem All.atKey (h : m.All q) (key : Value) : (m.atKey key).All q := by
  intro u hu
  obtain ⟨fs, hfs, hu⟩ := Option.bind_eq_some_iff.mp hu
  obtain ⟨name, hmem, -⟩ := Fields.exists_of_typeAt? hu
  exact Fields.everyType_of_mem (h.fields hfs) hmem

theorem All.ofItems (h : m.All q) : m.ofItems.All q := by
  intro u hu
  obtain ⟨t, rfl, hu⟩ := Option.bind_eq_some_iff.mp hu
  obtain ⟨p, count, hmem, -⟩ := TypeSpec.exists_of_seedItems? hu
  exact TypeSpec.everyType_of_mem (h t rfl) hmem

theorem All.nodup (h : m.All TypeSpec.wellNamed) {fs : Fields} (hfs : m.fields? = some fs) :
    (fs.map Prod.fst).Nodup := by
  obtain ⟨t, rfl, ht⟩ := exists_of_fields? hfs
  obtain ⟨p, hmem, -⟩ := TypeSpec.exists_of_seedFields? ht
  exact TypeSpec.nodup_of_mem (h t rfl) hmem

/-! ## Marking by markers -/

/-- **A marked map** has its own entries in their places, each marked, and the marks after them. -/
theorem mark_map (h : m.All TypeSpec.wellNamed) {es : List (Value × Value)}
    (hes : (Value.textKeys es).Nodup) :
    m.mark (.map es) = .map (es.map (fun e => (e.1, (m.atKey e.1).mark e.2)) ++ m.missing es) := by
  have hmark : m.mark (.map es) =
      .map ((m.fields?.map (fun fs => Fields.seed fs es)).getD es) := by
    cases m with
    | none => rfl
    | some t => exact t.seed_map es
  rw [hmark, missing]
  unfold atKey
  cases hfs : m.fields? with
  | none =>
    show Value.map es = .map (es.map (fun e => (e.1, e.2)) ++ [])
    rw [List.append_nil, List.map_id']
  | some fs =>
    show Value.map (Fields.seed fs es) = _
    rw [Fields.seed_eq (h.nodup hfs) hes]
    rfl

/-- **A marked list** has its own items in their places, each marked. -/
theorem mark_list (m : Marker) (vs : List Value) :
    m.mark (.list vs) = .list (vs.map m.ofItems.mark) := by
  cases m with
  | none => exact congrArg Value.list (List.map_id' vs).symm
  | some t =>
    show t.seed (.list vs) = .list (vs.map (mark t.seedItems?))
    rw [t.seed_list]
    cases t.seedItems? with
    | none => exact congrArg Value.list (List.map_id' vs).symm
    | some u => rfl

theorem mark_of_leaf (m : Marker) {v : Value} (h : v.isContainer = false) : m.mark v = v := by
  cases m with
  | none => rfl
  | some t => exact t.seed_of_leaf h

/-! ## Marks -/

/-- What is missing is a field of the mapping that maps are marked by. -/
theorem mem_missing {es : List (Value × Value)} {e : Value × Value} :
    e ∈ m.missing es ↔ ∃ fs name t, m.fields? = some fs ∧ (name, t) ∈ fs ∧
      Value.hasKey es name = false ∧ e = (.text name, .absent) := by
  unfold missing
  cases hfs : m.fields? with
  | none => simp
  | some fs =>
    simp only [Option.elim_some, Fields.marks, List.mem_map, List.mem_filter]
    constructor
    · rintro ⟨⟨name, t⟩, ⟨hmem, hkey⟩, rfl⟩
      exact ⟨fs, name, t, rfl, hmem, by simpa using hkey, rfl⟩
    · rintro ⟨_, name, t, ⟨⟩, hmem, hkey, rfl⟩
      exact ⟨(name, t), ⟨hmem, by simpa using hkey⟩, rfl⟩

theorem absent_of_mem_missing (m : Marker) {es : List (Value × Value)} {e : Value × Value}
    (h : e ∈ m.missing es) : e.2 = .absent := by
  obtain ⟨fs, name, t, -, -, -, rfl⟩ := mem_missing.mp h
  rfl

/-- The marks bring no key that is there. -/
theorem All.nodup_missing (hm : m.All TypeSpec.wellNamed) {es : List (Value × Value)}
    (hes : (Value.textKeys es).Nodup) :
    (Value.textKeys es ++ Value.textKeys (m.missing es)).Nodup := by
  have hmarks : (Value.textKeys (m.missing es)).Nodup := by
    unfold missing
    cases hfs : m.fields? with
    | none => exact List.nodup_nil
    | some fs =>
      have hkeys : Value.textKeys (fs.marks es) =
          (fs.filter (fun f => !Value.hasKey es f.1)).map Prod.fst := by
        unfold Value.textKeys Fields.marks
        rw [List.filterMap_map]
        exact congrFun List.filterMap_eq_map' _
      show (Value.textKeys (fs.marks es)).Nodup
      rw [hkeys]
      exact (hm.nodup hfs).sublist (List.filter_sublist.map _)
  refine List.nodup_append.mpr ⟨hes, hmarks, fun a ha b hb hab => ?_⟩
  subst hab
  obtain ⟨e, he, hkey⟩ := List.mem_filterMap.mp hb
  obtain ⟨fs, name, t, -, -, hnew, rfl⟩ := mem_missing.mp he
  cases hkey
  rw [Value.hasKey_iff.mpr ha] at hnew
  cases hnew

end Marker

end Conform
