import Conform.Proofs.Composition
import Conform.Proofs.Search

/-!
# A union that a value fits in one way

A field that is a union lets the value choose: where the value fits just one of the candidates, the
field should be the same as one of that candidate alone. For the value itself it is. The members of
the value are another matter, for their types are looked up by the path, in all the candidates.

The candidates that a list does not fit have no types for its items, and those that a map does not
fit have none for its keys, but for one case: an array takes a key that looks like an index for one
(`TypeSpec.takesForIndex`). In all other cases the two fields do the same with the value, down to
the order of the violations (`Fields.validateShared_of_unique_fit`). In this case they may not, as
the value of the key can be held against the items of an array that is not there
(`Fields.indexed_differs`).
-/

namespace Conform

namespace TypeSpec

/-- **Whether a type may take a key of a map for an index**: one of its candidates is an array, and
a key of the map looks like an index, or a name that an object puts into it does. -/
def takesForIndex (t : TypeSpec) : Value → Bool
  | .map es => !t.arrays.isEmpty &&
    (es.any (fun e => e.1.isIndex) || t.objects.any Node.declaresIndex)
  | _ => false

end TypeSpec

/-! ## The keys of a marked map -/

namespace Value

theorem key_of_mem_setEntry {es : List (Value × Value)} {key v : Value} {e : Value × Value}
    (h : e ∈ setEntry es key v) : (∃ e' ∈ es, e'.1 = e.1) ∨ e.1 = key := by
  unfold setEntry at h
  split at h
  · obtain ⟨e', he', rfl⟩ := List.mem_map.mp h
    exact .inl ⟨e', he', by split <;> rfl⟩
  · rcases List.mem_append.mp h with h | h
    · exact .inl ⟨e, h, rfl⟩
    · rw [List.mem_singleton.mp h]
      exact .inr rfl

end Value

/-- **A key of a marked map** is a key of the map or a name of the mapping. -/
theorem Fields.key_of_mem_seed {fs : Fields} {es : List (Value × Value)} {e : Value × Value}
    (h : e ∈ Fields.seed fs es) : (∃ e' ∈ es, e'.1 = e.1) ∨ ∃ f ∈ fs, e.1 = .text f.1 := by
  induction fs generalizing es with
  | nil => exact .inl ⟨e, h, rfl⟩
  | cons f fs ih =>
    rcases ih h with ⟨e', he', hkey⟩ | ⟨g, hg, hkey⟩
    · rcases Value.key_of_mem_setEntry he' with ⟨e'', he'', hkey'⟩ | hname
      · exact .inl ⟨e'', he'', hkey'.trans hkey⟩
      · exact .inr ⟨f, List.mem_cons_self, hkey.symm.trans hname⟩
    · exact .inr ⟨g, List.mem_cons_of_mem _ hg, hkey⟩

/-- Where no key looks like an index, marking puts in none that does, unless the object declares
it. -/
theorem Node.isIndex_of_mem_seed {n : Node} {es es' : List (Value × Value)}
    (hes : es.any (fun e => e.1.isIndex) = false) (hn : n.declaresIndex = false)
    (hseed : n.seed (.map es) = .map es') {e : Value × Value} (he : e ∈ es') :
    e.1.isIndex = false := by
  have hown : ∀ e' ∈ es, e'.1.isIndex = false := by simpa using hes
  rw [n.seed_map] at hseed
  cases hseed
  cases hfields : n.seedFields? with
  | none =>
    rw [hfields] at he
    exact hown e he
  | some fs =>
    rw [hfields] at he
    rcases Fields.key_of_mem_seed he with ⟨e', he', hkey⟩ | ⟨f, hf, hkey⟩
    · rw [← hkey]
      exact hown e' he'
    · have hnames : ∀ f ∈ fs, (Value.text f.1).isIndex = false := by
        rcases n with _ | _ | _ | _ | ⟨p, gs | _⟩ | _ <;> cases hfields
        simpa [declaresIndex] using hn
      rw [hkey]
      exact hnames f hf

/-! ## The one candidate -/

namespace TypeSpec

variable {t : TypeSpec} {n : Node} {v : Value}

/-- Where the other candidates declare nothing for a key, it is looked up in the one. -/
theorem typesAt_of_fitting (h : t.fitting v = [n]) {key : Value}
    (hothers : ∀ m ∈ t.candidates, m.matches v = false → m.typesAt key = []) :
    t.typesAt key = n.typesAt key := by
  unfold fitting at h
  unfold typesAt
  generalize t.candidates = ns at h hothers
  induction ns generalizing n with
  | nil => cases h
  | cons m ns ih =>
    rw [List.forall_mem_cons] at hothers
    rw [List.flatMap_cons]
    cases hm : m.matches v with
    | false =>
      rw [List.filter_cons_of_neg (by simp [hm])] at h
      rw [hothers.1 hm, ih h hothers.2]
      rfl
    | true =>
      rw [List.filter_cons_of_pos (p := fun k => Node.matches k v) hm] at h
      obtain ⟨rfl, hnone⟩ := List.cons.inj h
      have hrest : ns.flatMap (fun m => m.typesAt key) = [] := List.flatMap_eq_nil_iff.mpr
        (fun k hk => hothers.2 k hk (by simpa using List.filter_eq_nil_iff.mp hnone k hk))
      rw [hrest, List.append_nil]

theorem mem_of_fitting (h : t.fitting v = [n]) : n ∈ t.candidates ∧ n.matches v = true :=
  List.mem_filter.mp (show n ∈ t.fitting v by rw [h]; exact List.mem_singleton_self n)

/-- The one candidate marks the value. -/
theorem seed_of_fitting (h : t.fitting v = [n]) : t.seed v = n.seed v := by
  cases t with
  | single m =>
    have hm : m = n := List.mem_singleton.mp (mem_of_fitting h).1 |>.symm
    rw [seed, hm]
  | union m k ns =>
    rw [seed_union, h]

/-- The one candidate governs the value. -/
theorem resolve_of_fitting (hv : v ≠ .absent) (h : t.fitting v = [n]) : t.resolve v = n := by
  rw [t.resolve_eq hv, ← List.head?_filter]
  unfold fitting at h
  rw [h]
  rfl

/-- **A marked map is looked up in the one candidate**, unless a key may be taken for an index. -/
theorem typesAt_of_map {es es' : List (Value × Value)} (h : t.fitting (.map es) = [n])
    (hindex : t.takesForIndex (.map es) = false) (hseed : n.seed (.map es) = .map es')
    {e : Value × Value} (he : e ∈ es') : t.typesAt e.1 = n.typesAt e.1 := by
  refine typesAt_of_fitting h (fun m hm hmatches => ?_)
  rw [m.matches_map, beq_eq_false_iff_ne] at hmatches
  by_cases harray : m.kind = .array
  · -- there is an array, so no key looks like an index
    have harrays : t.arrays.isEmpty = false := by
      rw [List.isEmpty_eq_false_iff_exists_mem]
      exact ⟨m, List.mem_filter.mpr ⟨hm, by simp [harray]⟩⟩
    rw [takesForIndex, harrays, Bool.not_false, Bool.true_and, Bool.or_eq_false_iff] at hindex
    have hobject : n ∈ t.objects := by
      obtain ⟨hmem, hmatch⟩ := mem_of_fitting h
      exact List.mem_filter.mpr ⟨hmem, by rwa [n.matches_map] at hmatch⟩
    have hkey : e.1.isIndex = false := Node.isIndex_of_mem_seed hindex.1
      (Bool.eq_false_iff.mpr (List.any_eq_false.mp hindex.2 n hobject)) hseed he
    cases m with
    | array => rw [Node.typesAt, hkey]; rfl
    | _ => cases harray
  · exact Node.typesAt_of_leaf hmatches harray e.1

/-- **The items of a list are looked up in the one candidate.** -/
theorem typesAt_of_list {vs : List Value} (h : t.fitting (.list vs) = [n]) (i : Nat) :
    t.typesAt (.int i) = n.typesAt (.int i) := by
  refine typesAt_of_fitting h (fun m _ hmatches => ?_)
  rw [m.matches_list, beq_eq_false_iff_ne] at hmatches
  exact Node.typesAt_int_of_ne_array hmatches i

end TypeSpec

/-! ## The two fields -/

section Field

variable {name : String} {t : TypeSpec} {n : Node} {o : Options}

/-- What is declared for a key is looked up in the type of the field. -/
theorem Schema.locate_field_congr {u : TypeSpec} {key : Value} (h : t.typesAt key = u.typesAt key)
    (more : Path) : (Schema.mapping [(name, t)]).locate ([.text name] ++ [key] ++ more) =
      (Schema.mapping [(name, u)]).locate ([.text name] ++ [key] ++ more) := by
  show Schema.locate _ (.text name :: key :: more) = Schema.locate _ (.text name :: key :: more)
  rw [Schema.locate_field, Schema.locate_field, TypeSpec.locate_eq, TypeSpec.locate_eq]
  simp only [reach, List.flatMap_cons, List.flatMap_nil, List.append_nil, h]

namespace Course

variable {v : Value}

/-- **What the union makes of the value** is what the one candidate makes of it. -/
theorem apply_of_fitting (hnull : v ≠ .null) (habsent : v ≠ .absent) (h : t.fitting v = [n])
    (site : Site) : apply site t v = apply site (.single n) v := by
  obtain ⟨hmem, hmatches⟩ := TypeSpec.mem_of_fitting h
  have hany : t.candidates.any (fun m => m.matches v) = true :=
    List.any_eq_true.mpr ⟨n, hmem, hmatches⟩
  have hsingle : (TypeSpec.single n).fitting v = [n] := by
    simp [TypeSpec.fitting, TypeSpec.candidates, hmatches]
  rw [apply_of_present hnull habsent, apply_of_present hnull habsent, checkPresent, checkPresent,
    TypeSpec.resolve_of_fitting habsent h, TypeSpec.resolve_of_fitting habsent hsingle, hany]
  simp [TypeSpec.isUnion]

/-- **The two walks of the marked value are the same.** -/
theorem walkAlone_of_fitting (hnull : v ≠ .null) (hpresent : v.isPresent = true)
    (h : t.fitting v = [n]) (hindex : t.takesForIndex v = false) (budget : Nat) :
    (⟨.mapping [(name, t)], o⟩ : Course).walkAlone (budget + 1) [.text name] (n.seed v) =
      (⟨.mapping [(name, .single n)], o⟩ : Course).walkAlone (budget + 1) [.text name]
      (n.seed v) := by
  have hseed := TypeSpec.seed_of_fitting h
  have hpresent' : (n.seed v).isPresent = true := by rw [← hseed, t.isPresent_seed, hpresent]
  refine walkAlone_congr_members (by simp) hpresent' ?_ ?_
  · have hfit : t.fitting (n.seed v) = [n] := by
      rw [← h, ← hseed]
      exact List.filter_congr (fun m _ => t.matches_seed m v)
    have happly := apply_of_fitting (by rwa [← hseed, Ne, TypeSpec.seed_eq_null])
      (Value.isPresent_iff.mp hpresent') hfit
    unfold visit
    dsimp only
    rw [Schema.locate_field_self, Schema.locate_field_self]
    dsimp only
    rw [happly]
    rfl
  · have hmember : ∀ {key : Value}, t.typesAt key = n.typesAt key → ∀ w,
        (⟨.mapping [(name, t)], o⟩ : Course).walkAlone budget ([.text name] ++ [key]) w =
          (⟨.mapping [(name, .single n)], o⟩ : Course).walkAlone budget ([.text name] ++ [key]) w :=
      fun hkey w => walkAlone_congr (Schema.locate_field_congr (by
        rw [hkey, TypeSpec.typesAt_single])) w
    cases v with
    | map es =>
      obtain ⟨es', hes'⟩ : ∃ es', n.seed (.map es) = .map es' := ⟨_, n.seed_map es⟩
      rw [hes', walkMembers, walkMembers, walkEntries_congr (fun e he =>
        hmember (TypeSpec.typesAt_of_map h hindex hes' he) e.2)]
    | list vs =>
      rw [n.seed_list, walkMembers, walkMembers, walkItems_congr (fun i w =>
        hmember (TypeSpec.typesAt_of_list h i) w)]
    | _ =>
      rw [n.seed_of_leaf rfl]
      rfl

end Course

/-- **A field that is a union behaves as the one candidate that the value fits**, unless a key of
the value may be taken for an index of another candidate. -/
theorem Fields.validateShared_of_unique_fit (name : String) (t : TypeSpec) (n : Node) (v : Value)
    (o : Options) (hplain : v.everywhere Value.isPlain = true) (hnull : v ≠ .null)
    (hfit : t.fitting v = [n]) (hindex : t.takesForIndex v = false) :
    Fields.validateShared [(name, t)] o (.ofField name v) =
      Fields.validateShared [(name, .single n)] o (.ofField name v) := by
  have hcopied : v.everywhere Value.isCopied = true :=
    Value.everywhere_mono (fun _ => Value.isCopied_of_isPlain) hplain
  have hpresent : v.isPresent = true := Value.isPresent_of_isPlain (Value.self_of_everywhere hplain)
  have hcopy : (Value.ofField name v).plain = .ok (.map [(.text name, v)]) :=
    Value.plain_eq_self (Value.isCopied_map_iff.mpr
      ⟨List.nodup_singleton name, fun e he => by rwa [List.mem_singleton.mp he]⟩)
  -- the candidate alone has a smaller depth, and needs no more of the budget
  obtain ⟨more, hmore⟩ := Nat.exists_eq_add_of_le
    (TypeSpec.depth_le_of_mem (TypeSpec.mem_of_fitting hfit).1)
  let alone : Course := ⟨.mapping [(name, .single n)], o⟩
  have hbudget : alone.walkAlone (n.depth + 1 + more) [.text name] (n.seed v) =
      alone.walkAlone (n.depth + 1) [.text name] (n.seed v) :=
    Course.walkAlone_add_budget (by simp [alone, Schema.depth, Fields.depth, TypeSpec.depth])
      more _
  have hwalk : Course.walkAlone ⟨.mapping [(name, t)], o⟩ (t.depth + 1) [.text name] (n.seed v) =
      alone.walkAlone (t.depth + 1) [.text name] (n.seed v) :=
    Course.walkAlone_of_fitting hnull hpresent hfit hindex t.depth
  rw [hmore, Nat.add_right_comm, hbudget] at hwalk
  rw [Fields.validateShared, Fields.validateShared, hcopy]
  dsimp only
  rw [Fields.seed_field, Fields.seed_field, TypeSpec.seed_of_fitting hfit, TypeSpec.seed,
    Course.walkShared_field, Course.walkShared_field, hmore, Nat.add_right_comm, hwalk]
  rfl

end Field

/-- An object with a number under a name. -/
def Node.numberAt (name : String) : Node := .object {} (.mapping [(name, .single (.number {} {}))])

/-- A list of texts, or an object with a number under a name. -/
def TypeSpec.textsOrNumberAt (name : String) : TypeSpec :=
  .union (.array {} (.single (.string {} {})) {}) (.numberAt name) []

/-- A size is told from a list of texts. -/
theorem Fields.sizeOrTexts_unique_fit :
    (TypeSpec.textsOrNumberAt "size").fitting (.map [(.text "size", .int 1)]) =
      [.numberAt "size"] ∧
    Fields.validateShared [("f", .textsOrNumberAt "size")] {}
        (.ofField "f" (.map [(.text "size", .int 1)])) =
      Fields.validateShared [("f", .single (.numberAt "size"))] {}
        (.ofField "f" (.map [(.text "size", .int 1)])) :=
  ⟨rfl, Fields.validateShared_of_unique_fit "f" _ _ _ {} rfl (by simp) rfl rfl⟩

/-- **A value that fits one candidate may be held against another**: the search takes the name `0`
for an index, and finds that the number is no text. -/
theorem Fields.indexed_differs :
    ¬ ∀ (name : String) (t : TypeSpec) (n : Node) (v : Value) (o : Options),
      v.everywhere Value.isPlain = true → v ≠ .null → t.fitting v = [n] →
      Fields.validateShared [(name, t)] o (.ofField name v) =
        Fields.validateShared [(name, .single n)] o (.ofField name v) := by
  intro hsame
  have hboth := hsame "f" (.textsOrNumberAt "0") (.numberAt "0") (.map [(.text "0", .int 5)]) {} rfl
    (by simp) rfl
  have halone : Fields.validateShared [("f", .single (.numberAt "0"))] {}
      (.ofField "f" (.map [(.text "0", .int 5)])) =
        .ok (.ofField "f" (.map [(.text "0", .int 5)])) := rfl
  rw [halone] at hboth
  cases hboth

end Conform
