import Conform.Proofs.Alone
import Conform.Proofs.Sorting

/-!
# Validation is put together from its parts

What a type says about a value does not depend on what stands around it
(`Fields.validateShared_compositional`). An object in a field is validated as it would be alone, a
list is validated item by item, and a map is validated field by field. Only the paths of the
violations tell where the part stands.

Nothing of this is in the definitions. The marks are put in everywhere before the walk begins, and
the type of each value is looked up from the root of the schema. What carries the proofs is that the
types declared below a field, or below the items of a list, are those that the part declares alone,
so that the walks find the same there (`Course.related_walkAlone`), or even are the same
(`Course.walkAlone_congr`).
-/

namespace Conform

/-- A map with a single field. -/
def Value.ofField (name : String) (v : Value) : Value := .map [(.text name, v)]

theorem Options.arranged_ofField (o : Options) (name : String) (v : Value) :
    o.arranged (.ofField name v) = .ofField name (o.arranged v) := by
  unfold arranged
  split
  · simp [Value.ofField, Value.sortKeys, Value.sortValues]
  · rfl

theorem Options.arranged_list (o : Options) (vs : List Value) :
    o.arranged (.list vs) = .list (vs.map o.arranged) := by
  unfold arranged
  split
  · rw [Value.sortKeys, Value.sortItems_eq_map]
  · rw [List.map_id']

theorem Options.conclude_of_tells {o : Options} {base : Path} {m : Walk Value} {d : Verdict Value}
    (h : m.Tells o base d) :
    o.conclude (m.run []) = ((d.under base).map o.arranged).outcome o.catalog := by
  cases d with
  | returned v =>
    rw [show m.run [] = .ok (v, []) from h]
    rfl
  | failed e =>
    obtain ⟨i, hi, he⟩ := h
    rw [hi]
    cases i <;> cases he <;> rfl
  | rejected first others =>
    by_cases habort : o.abortEarly = true
    · obtain ⟨hend, rfl⟩ := (Walk.tells_rejected_of_abort habort).mp h
      rw [hend]
      rfl
    · obtain ⟨v, hv⟩ := (Walk.tells_rejected_of_collect habort).mp h
      rw [hv, List.map_cons]
      show Except.error (Failure.rejected ⟨_, _⟩) = Except.error (Failure.rejected ⟨_, _⟩)
      rw [List.map_map]
      rfl

/-! ## A single field -/

theorem Fields.seed_field (name : String) (t : TypeSpec) (v : Value) :
    Fields.seed [(name, t)] [(.text name, v)] = [(.text name, t.seed v)] := by
  simp [Fields.seed, Value.entry?, Value.setEntry, Value.sameKey]

theorem Schema.locate_field (name : String) (t : TypeSpec) (rest : Path) :
    (Schema.mapping [(name, t)]).locate (.text name :: rest) = t.locate rest := by
  simp [Schema.locate, Fields.locate, keyNames]

/-- The value of the field is governed by the type of the field. -/
theorem Schema.locate_field_self (name : String) (t : TypeSpec) :
    (Schema.mapping [(name, t)]).locate [.text name] = some t := by
  rw [locate_field]
  cases t <;> rfl

namespace Course

/-- **The walk of a map with a single field** is the walk of that field. -/
theorem walkShared_field (name : String) (t : TypeSpec) (o : Options) (v : Value) :
    (⟨.mapping [(name, t)], o⟩ : Course).walkShared [(.text name, v)] =
      (fun child => .map (child.map (fun w => (.text name, w))).toList) <$>
        (⟨.mapping [(name, t)], o⟩ : Course).walkAlone (t.depth + 1) [.text name] v := by
  have hdepth : (Schema.mapping [(name, t)]).depth = t.depth + 1 := by
    simp [Schema.depth, Fields.depth]
  rw [walkShared_eq, walkMembers]
  dsimp only
  rw [hdepth]
  simp [walkEntries]

/-- **A declared container is not changed by its visit**, only its members are. -/
theorem walkAlone_container {c : Course} {path : Path} (hne : path ≠ []) {budget : Nat} {v : Value}
    (hv : v.isContainer = true) (h : c.visit path v = pure (some v)) :
    c.walkAlone (budget + 1) path v = some <$> walkMembers (c.walkAlone budget) path v := by
  rw [walkAlone_succ hne (Value.ne_absent_of_isContainer hv), h, pure_bind, map_eq_pure_bind]

end Course

/-- **The outcome for a single field** tells what the walk of its value tells. -/
theorem Fields.validateShared_field {name : String} {t : TypeSpec} {o : Options} {v w : Value}
    (hplain : v.plain = .ok w) {d : Verdict Value}
    (h : ((⟨.mapping [(name, t)], o⟩ : Course).walkAlone (t.depth + 1) [.text name]
      (t.seed w)).Tells o
      [.text name] (d.map some)) :
    Fields.validateShared [(name, t)] o (.ofField name v) =
      (((d.map o.arranged).under [.text name]).map (.ofField name)).outcome o.catalog := by
  have hcopy : (Value.ofField name v).plain = .ok (.map [(.text name, w)]) := by
    simp only [Value.ofField]
    rw [Value.plain, Value.plainEntries, hplain]
    rfl
  have hroot := h.map (fun child => Value.map (child.map (fun u => (Value.text name, u))).toList)
  rw [← Course.walkShared_field, Verdict.map_map] at hroot
  rw [Fields.validateShared, hcopy]
  dsimp only
  rw [Fields.seed_field, Options.conclude_of_tells hroot]
  congr 1
  cases d with
  | returned w => exact congrArg Verdict.returned (o.arranged_ofField name w)
  | _ => rfl

/-! ## An object in a field -/

section Object

theorem Course.visit_object (name : String) (s : Schema) (p : Presence (List (String × Value)))
    (o : Options) (es : List (Value × Value)) :
    (⟨.mapping [(name, .single (.object p s))], o⟩ : Course).visit [.text name] (.map es) =
      pure (some (.map es)) := by
  unfold visit
  dsimp only
  rw [Schema.locate_field_self]
  rfl

variable (name : String) (fs : Fields) (p : Presence (List (String × Value))) (o : Options)

/-- **An object in a field is validated as it would be alone.** -/
theorem Fields.validateShared_object (es : List (Value × Value)) : ∃ d : Verdict Value,
    fs.validateShared o (.map es) = d.outcome o.catalog ∧
      Fields.validateShared [(name, .single (.object p (.mapping fs)))] o
        (.ofField name (.map es)) =
        ((d.under [.text name]).map (.ofField name)).outcome o.catalog := by
  cases hplain : (Value.map es).plain with
  | error e =>
    -- there is no working copy to walk
    refine ⟨.failed (.notIterable e), ?_, ?_⟩
    · rw [Fields.validateShared, hplain]
      rfl
    · have hcopy : (Value.ofField name (.map es)).plain = .error e := by
        simp only [Value.ofField]
        rw [Value.plain, Value.plainEntries, hplain]
        rfl
      rw [Fields.validateShared, hcopy]
      rfl
  | ok w =>
    obtain ⟨es', -, rfl⟩ := Checked.map_eq_ok.mp hplain
    let inner : Course := ⟨.mapping fs, o⟩
    let outer : Course := ⟨.mapping [(name, .single (.object p (.mapping fs)))], o⟩
    have hrelated : Walk.Related (.moved o [] [.text name]) Eq
        (inner.walkShared (Fields.seed fs es'))
        (Course.walkMembers (outer.walkAlone (Fields.depth fs)) [.text name]
          (.map (Fields.seed fs es'))) := by
      rw [Course.walkShared_eq]
      refine Course.related_walkMembers (inner.appends_walkAlone _) (outer.appends_walkAlone _)
        (fun key v => Course.related_walkAlone [] [.text name] [key] (fun more => ?_) v) _
      show _ = Schema.locate _ (.text name :: key :: more)
      rw [Schema.locate_field, TypeSpec.locate, Node.locate]
      rfl
    obtain ⟨d, hinner, houter⟩ := hrelated.exists_verdict
    refine ⟨d.map o.arranged, ?_, Fields.validateShared_field hplain ?_⟩
    · rw [Fields.validateShared, hplain]
      dsimp only
      rw [Options.conclude_of_tells hinner, Verdict.under_nil]
    · have hwalk :
          outer.walkAlone (Fields.depth fs + 1) [.text name] (.map (Fields.seed fs es')) = _ :=
        Course.walkAlone_container (by simp) rfl (Course.visit_object name (.mapping fs) p o _)
      show (outer.walkAlone (Fields.depth fs + 1) [.text name] (.map (Fields.seed fs es'))).Tells o
        [.text name] _
      rw [hwalk]
      exact houter.map some

end Object

/-! ## A list in a field -/

section List

variable (name : String) (t : TypeSpec) (p : Presence (List Value)) (o : Options)

theorem Course.visit_array (vs : List Value) :
    (⟨.mapping [(name, .single (.array p t {}))], o⟩ : Course).visit [.text name] (.list vs) =
      pure (some (.list vs)) := by
  unfold visit
  dsimp only
  rw [Schema.locate_field_self]
  rfl

/-- A verdict on a member that is not dropped. -/
theorem Verdict.exists_map_some {α : Type} {d : Verdict (Option α)} (h : d ≠ returned none) :
    ∃ d' : Verdict α, d'.map some = d := by
  cases d with
  | returned child =>
    cases child with
    | none => exact absurd rfl h
    | some a => exact ⟨.returned a, rfl⟩
  | rejected first others => exact ⟨.rejected first others, rfl⟩
  | failed e => exact ⟨.failed e, rfl⟩

/-- **The items of a list** in a field tell what the same values tell in the field alone. -/
theorem Course.exists_verdicts (index : Nat) {vs : List Value}
    (hpresent : ∀ v ∈ vs, v.isPresent = true) :
    ∃ ds : List (Verdict Value), List.Forall₂ (fun v d =>
        ((⟨.mapping [(name, t)], o⟩ : Course).walkAlone (t.depth + 1) [.text name]
          (t.seed v)).Tells o
          [.text name] (d.map some)) vs ds ∧
      (walkItems
        ((⟨.mapping [(name, .single (.array p t {}))], o⟩ : Course).walkAlone (t.depth + 1))
        [.text name] index (vs.map t.seed)).Tells o [.text name]
          (Verdict.items o.abortEarly index ds) := by
  induction vs generalizing index with
  | nil => exact ⟨[], .nil, Walk.yields_pure.mpr rfl⟩
  | cons v vs ih =>
    rw [List.forall_mem_cons] at hpresent
    obtain ⟨ds, hds, hitems⟩ := ih (index + 1) hpresent.2
    let inner : Course := ⟨.mapping [(name, t)], o⟩
    let outer : Course := ⟨.mapping [(name, .single (.array p t {}))], o⟩
    have hrelated : Walk.Related (.moved o [.text name] [.text name, .int index]) Eq
        (inner.walkAlone (t.depth + 1) [.text name] (t.seed v))
        (outer.walkAlone (t.depth + 1) [.text name, .int index] (t.seed v)) := by
      refine Course.related_walkAlone [.text name] [.text name, .int index] [] (fun more => ?_) _
      show Schema.locate _ (.text name :: more) = Schema.locate _ (.text name :: .int index :: more)
      rw [Schema.locate_field, Schema.locate_field]
      simp [TypeSpec.locate, Node.locate, Value.isIndex]
    obtain ⟨d, hinner, houter⟩ := hrelated.exists_verdict
    have hkept : d ≠ .returned none := by
      rintro rfl
      have hseed : (t.seed v).isPresent = true := by rw [t.isPresent_seed]; exact hpresent.1
      rcases (walkAlone_succ_yields (by simp) (Value.isPresent_iff.mp hseed)).mp hinner with
        ⟨-, hdrop⟩ | ⟨w, w', -, -, hw'⟩
      · exact not_visit_yields_none (Schema.locate_field_self name t) hseed hdrop
      · cases hw'
    obtain ⟨d, rfl⟩ := Verdict.exists_map_some hkept
    refine ⟨d :: ds, .cons hinner hds, ?_⟩
    have hunder : (outer.walkAlone (t.depth + 1) [.text name, .int index] (t.seed v)).Tells o
        [.text name] ((d.map some).under [.int index]) :=
      Walk.Tells.under (show Walk.Tells o ([.text name] ++ [.int index]) _ _ from houter)
    rw [Verdict.under_map] at hunder
    exact hunder.cons hitems (appends_walkItems (outer.appends_walkAlone _) _ _ _)

/-- **A list is validated item by item**, each item as it would be alone in the field. -/
theorem Fields.validateShared_array {vs : List Value}
    (hvs : ∀ v ∈ vs, v.everywhere Value.isPlain = true) : ∃ ds : List (Verdict Value),
    List.Forall₂ (fun v d => Fields.validateShared [(name, t)] o (.ofField name v) =
      ((d.under [.text name]).map (.ofField name)).outcome o.catalog) vs ds ∧
    Fields.validateShared [(name, .single (.array p t {}))] o (.ofField name (.list vs)) =
      (((Verdict.items o.abortEarly 0 ds).under [.text name]).map
        (fun ws => .ofField name (.list ws))).outcome o.catalog := by
  have hplain : ∀ {v : Value}, v.everywhere Value.isPlain = true → v.plain = .ok v := fun h =>
    Value.plain_eq_self (Value.everywhere_mono (fun _ => Value.isCopied_of_isPlain) h)
  obtain ⟨ds, hds, hitems⟩ := Course.exists_verdicts name t p o 0
    (fun v hv => Value.isPresent_of_isPlain (Value.self_of_everywhere (hvs v hv)))
  refine ⟨ds.map (·.map o.arranged), ?_, ?_⟩
  · rw [List.forall₂_map_right_iff]
    clear hitems
    induction hds with
    | nil => exact .nil
    | cons hd _ ih =>
      rw [List.forall_mem_cons] at hvs
      exact .cons (Fields.validateShared_field (hplain hvs.1) hd) (ih hvs.2)
  · have hlist : (Value.list vs).plain = .ok (.list vs) :=
      hplain (Value.everywhere_list.mpr ⟨rfl, hvs⟩)
    let outer : Course := ⟨.mapping [(name, .single (.array p t {}))], o⟩
    have hwalk : (outer.walkAlone (t.depth + 1 + 1) [.text name] (.list (vs.map t.seed))).Tells o
        [.text name] (((Verdict.items o.abortEarly 0 ds).map .list).map some) := by
      rw [Course.walkAlone_container (c := outer) (by simp) rfl (Course.visit_array name t p o _)]
      exact (hitems.map Value.list).map some
    rw [Fields.validateShared_field hlist hwalk, Verdict.items_map]
    generalize Verdict.items o.abortEarly 0 ds = d
    cases d with
    | returned ws =>
      show Verdict.outcome _ (.returned (.ofField name (o.arranged (.list ws)))) = _
      rw [o.arranged_list]
      rfl
    | _ => rfl

end List

/-! ## Field by field -/

namespace Course

section Members

variable {member : Path → Value → Walk (Option Value)} {path : Path}

/-- Entries may be taken out by their keys before they are walked, or after. -/
theorem yields_walkEntries_filter (h : ∀ path v, (member path v).Appends) (q : Value → Bool)
    {es es' : List (Value × Value)} (hy : (walkEntries member path es).Yields es') :
    (walkEntries member path (es.filter (fun e => q e.1))).Yields
      (es'.filter (fun e => q e.1)) := by
  induction es generalizing es' with
  | nil =>
    cases Walk.yields_pure.mp hy
    exact Walk.yields_pure.mpr rfl
  | cons e es ih =>
    obtain ⟨child, rest, hc, hr, rfl⟩ := (walkEntries_cons_yields h).mp hy
    rw [List.filter_append]
    by_cases hq : q e.1 = true
    · rw [List.filter_cons_of_pos (p := fun e : Value × Value => q e.1) hq]
      refine (walkEntries_cons_yields h).mpr ⟨child, _, hc, ih hr, ?_⟩
      cases child <;> simp [hq]
    · rw [List.filter_cons_of_neg (p := fun e : Value × Value => q e.1) hq]
      have hnone : (child.map fun w => (e.1, w)).toList.filter (fun e => q e.1) = [] := by
        cases child <;> simp [hq]
      rw [hnone, List.nil_append]
      exact ih hr

/-- **A map is accepted** if each of its entries is. -/
theorem exists_yields_walkEntries (h : ∀ path v, (member path v).Appends)
    {es : List (Value × Value)}
    (hes : ∀ e ∈ es, ∃ child, (member (path ++ [e.1]) e.2).Yields child) :
    ∃ es', (walkEntries member path es).Yields es' := by
  induction es with
  | nil => exact ⟨[], Walk.yields_pure.mpr rfl⟩
  | cons e es ih =>
    rw [List.forall_mem_cons] at hes
    obtain ⟨child, hc⟩ := hes.1
    obtain ⟨rest, hr⟩ := ih hes.2
    exact ⟨_, (walkEntries_cons_yields h).mpr ⟨child, rest, hc, hr, rfl⟩⟩

end Members

end Course

section Field

variable {fs : Fields} {name : String} {t : TypeSpec} {es : List (Value × Value)} {o : Options}

/-- The entries of a map that a field is about. -/
def Value.entriesOf (name : String) (es : List (Value × Value)) : List (Value × Value) :=
  es.filter (fun e => keyNames e.1 name)

/-- Among distinct names, a name picks one field. -/
theorem Fields.filter_eq_singleton (hfs : (fs.map Prod.fst).Nodup) (ht : (name, t) ∈ fs) :
    fs.filter (fun f => f.1 == name) = [(name, t)] := by
  induction fs with
  | nil => cases ht
  | cons f fs ih =>
    rw [List.map_cons, List.nodup_cons] at hfs
    rcases List.mem_cons.mp ht with rfl | hmem
    · have hothers : fs.filter (fun f => f.1 == name) = [] :=
        List.filter_eq_nil_iff.mpr (fun f hf hname =>
          hfs.1 (List.mem_map.mpr ⟨f, hf, beq_iff_eq.mp hname⟩))
      rw [List.filter_cons_of_pos (by simp), hothers]
    · have hne : ¬f.1 = name := fun hname => hfs.1 (List.mem_map.mpr ⟨_, hmem, hname.symm⟩)
      rw [List.filter_cons_of_neg (by simpa using hne), ih hfs.2 hmem]

theorem Value.hasKey_entriesOf (name : String) (es : List (Value × Value)) :
    hasKey (entriesOf name es) name = hasKey es name := by
  simp [hasKey, entriesOf, List.any_filter]

theorem Fields.marks_entriesOf (hfs : (fs.map Prod.fst).Nodup) (ht : (name, t) ∈ fs) :
    Fields.marks [(name, t)] (Value.entriesOf name es) = Value.entriesOf name (fs.marks es) := by
  have hnames : (fun e : Value × Value => keyNames e.1 name) ∘
      (fun f : String × TypeSpec => ((.text f.1, .absent) : Value × Value)) =
        fun f => f.1 == name := rfl
  have hmarks : Value.entriesOf name (fs.marks es) =
      ([(name, t)].filter (fun f => !Value.hasKey es f.1)).map
        (fun f => (.text f.1, .absent)) := by
    unfold Value.entriesOf marks
    rw [List.filter_map, hnames, List.filter_comm, filter_eq_singleton hfs ht]
  rw [hmarks]
  refine congrArg (List.map _) (List.filter_congr (fun f hf => ?_))
  rw [List.mem_singleton.mp hf, Value.hasKey_entriesOf]

/-- **Marking a map field by field**: what a field is about is marked as it would be alone. -/
theorem Fields.seed_entriesOf (hfs : (fs.map Prod.fst).Nodup) (hes : (Value.textKeys es).Nodup)
    (ht : (name, t) ∈ fs) :
    Fields.seed [(name, t)] (Value.entriesOf name es) =
      Value.entriesOf name (Fields.seed fs es) := by
  have hkeys : (Value.textKeys (Value.entriesOf name es)).Nodup :=
    hes.sublist (List.filter_sublist.filterMap _)
  have hsingle : ([(name, t)].map Prod.fst).Nodup := by simp
  rw [seed_eq hsingle hkeys, seed_eq hfs hes, marks_entriesOf hfs ht]
  simp only [Value.entriesOf, List.filter_append, List.filter_map]
  congr 1
  refine List.map_congr_left (fun e he => ?_)
  -- both look up the one type of this name
  have hkey := keyNames_iff.mp (List.mem_filter.mp he).2
  rw [seedAt, seedAt, hkey, typeAt?_of_mem hfs ht, typeAt?_of_mem hsingle
    (List.mem_singleton_self _)]

/-- The walk of what a field is about is the same in the field alone. -/
theorem Course.walkShared_entriesOf (hfs : (fs.map Prod.fst).Nodup) (ht : (name, t) ∈ fs) :
    (⟨.mapping [(name, t)], o⟩ : Course).walkShared (Value.entriesOf name es) =
      Value.map <$> walkEntries ((⟨.mapping fs, o⟩ : Course).walkAlone (Fields.depth fs)) []
        (Value.entriesOf name es) := by
  have hdepth : (Schema.mapping [(name, t)]).depth = t.depth + 1 := by
    simp [Schema.depth, Fields.depth]
  rw [walkShared_eq, walkMembers]
  refine congrArg (Value.map <$> ·) (walkEntries_congr (fun e he => ?_))
  rw [keyNames_iff.mp (List.mem_filter.mp he).2, List.nil_append]
  -- the field alone has the depth of its type, and needs no more of the budget
  obtain ⟨more, hmore⟩ := Nat.exists_eq_add_of_le (Fields.depth_lt_of_mem ht)
  have hbudget : (⟨.mapping [(name, t)], o⟩ : Course).walkAlone (t.depth + 1 + more) [.text name]
      e.2 = (⟨.mapping [(name, t)], o⟩ : Course).walkAlone (t.depth + 1) [.text name] e.2 :=
    walkAlone_add_budget (by simp [hdepth]) more e.2
  show (⟨.mapping [(name, t)], o⟩ : Course).walkAlone (Schema.depth _) _ _ = _
  rw [hdepth, ← hbudget, hmore]
  refine walkAlone_congr (fun rest => ?_) e.2
  show Schema.locate _ (.text name :: rest) = Schema.locate _ (.text name :: rest)
  rw [Schema.locate_field, Schema.locate_cons, Schema.typesAt_mapping, Fields.typeAt?_of_mem hfs ht,
    TypeSpec.locate_eq]
  rfl

theorem Fields.validateShared_map_eq_ok (hes : (Value.map es).everywhere Value.isCopied = true)
    {r : Value} : fs.validateShared o (.map es) = .ok r ↔
      ∃ v, ((⟨.mapping fs, o⟩ : Course).walkShared (Fields.seed fs es)).Yields v ∧
        r = o.arranged v := by
  rw [validateShared_eq_ok]
  constructor
  · rintro ⟨es', v, hplain, hv, rfl⟩
    rw [Value.plain_eq_self hes] at hplain
    cases hplain
    exact ⟨v, hv, rfl⟩
  · rintro ⟨v, hv, rfl⟩
    exact ⟨es, v, Value.plain_eq_self hes, hv, rfl⟩

theorem Value.isCopied_entriesOf (name : String)
    (h : (Value.map es).everywhere Value.isCopied = true) :
    (Value.map (entriesOf name es)).everywhere isCopied = true := by
  obtain ⟨hkeys, hes⟩ := isCopied_map_iff.mp h
  exact isCopied_map_iff.mpr ⟨hkeys.sublist (List.filter_sublist.filterMap _),
    fun e he => hes e (List.mem_filter.mp he).1⟩

/-- The field alone returns what the walk of the whole map makes of the entries that the field is
about. -/
theorem Fields.validateShared_entriesOf_eq_ok (hfs : (fs.map Prod.fst).Nodup)
    (hes : (Value.map es).everywhere Value.isCopied = true) {f : String × TypeSpec} (hf : f ∈ fs)
    {r : Value} : Fields.validateShared [f] o (.map (Value.entriesOf f.1 es)) = .ok r ↔
      ∃ rs, (Course.walkEntries ((⟨.mapping fs, o⟩ : Course).walkAlone (Fields.depth fs)) []
        (Value.entriesOf f.1 (Fields.seed fs es))).Yields rs ∧ r = o.arranged (.map rs) := by
  rw [validateShared_map_eq_ok (Value.isCopied_entriesOf f.1 hes),
    seed_entriesOf hfs (Value.isCopied_map_iff.mp hes).1 hf, Course.walkShared_entriesOf hfs hf]
  simp only [Walk.yields_map]
  constructor
  · rintro ⟨_, ⟨rs, hrs, rfl⟩, rfl⟩
    exact ⟨rs, hrs, rfl⟩
  · rintro ⟨rs, hrs, rfl⟩
    exact ⟨_, ⟨rs, hrs, rfl⟩, rfl⟩

/-- What is sorted has the same entries of a field as what is sorted without the others. -/
theorem Options.exists_arranged_map (o : Options) (rs : List (Value × Value)) :
    ∃ rs', o.arranged (.map rs) = .map rs' ∧ ∀ name,
      o.arranged (.map (Value.entriesOf name rs)) = .map (Value.entriesOf name rs') := by
  unfold arranged
  split
  · exact ⟨_, rfl, fun name => Value.sortKeys_filter (fun k => keyNames k name) rs⟩
  · exact ⟨rs, rfl, fun _ => rfl⟩

/-- **A map is validated field by field**: it is accepted if every field of the mapping, taken
alone, accepts what the map has at the name of the field, and the result has at this name what the
field alone returns. -/
theorem Fields.validateShared_fields (hfs : (fs.map Prod.fst).Nodup)
    (hes : (Value.map es).everywhere Value.isCopied = true) :
    ((∃ r, fs.validateShared o (.map es) = .ok r) ↔
      ∀ f ∈ fs, ∃ r, Fields.validateShared [f] o (.map (Value.entriesOf f.1 es)) = .ok r) ∧
    ∀ r, fs.validateShared o (.map es) = .ok r → ∃ rs, r = .map rs ∧
      ∀ f ∈ fs, Fields.validateShared [f] o (.map (Value.entriesOf f.1 es)) =
        .ok (.map (Value.entriesOf f.1 rs)) := by
  let c : Course := ⟨.mapping fs, o⟩
  have happends := c.appends_walkAlone (Fields.depth fs)
  have hparts : ∀ r, fs.validateShared o (.map es) = .ok r → ∃ rs, r = .map rs ∧
      ∀ f ∈ fs, Fields.validateShared [f] o (.map (Value.entriesOf f.1 es)) =
        .ok (.map (Value.entriesOf f.1 rs)) := by
    intro r hr
    obtain ⟨v, hv, rfl⟩ := (validateShared_map_eq_ok hes).mp hr
    rw [Course.walkShared_eq] at hv
    obtain ⟨rs, hrs, rfl⟩ := Walk.yields_map.mp hv
    obtain ⟨rs', hrs', hentries⟩ := o.exists_arranged_map rs
    refine ⟨rs', hrs', fun f hf => (validateShared_entriesOf_eq_ok hfs hes hf).mpr ⟨_,
      Course.yields_walkEntries_filter happends (fun k => keyNames k f.1) hrs,
      (hentries f.1).symm⟩⟩
  refine ⟨⟨fun ⟨r, hr⟩ f hf => ?_, fun h => ?_⟩, hparts⟩
  · obtain ⟨rs, -, hrs⟩ := hparts r hr
    exact ⟨_, hrs f hf⟩
  · have hwalk : ∀ e ∈ Fields.seed fs es,
        ∃ child, (c.walkAlone (Fields.depth fs) [e.1] e.2).Yields child := by
      intro e he
      cases ht : fs.typeAt? e.1 with
      | none =>
        -- what is not declared is never rejected
        have hlocate : c.schema.locate [e.1] = none := (Schema.locate_key fs e.1).trans ht
        rw [Course.walkAlone_undeclared hlocate]
        exact ⟨_, Walk.yields_pure.mpr rfl⟩
      | some t =>
        obtain ⟨name, hmem, hkey⟩ := exists_of_typeAt? ht
        obtain ⟨r, hr⟩ := h _ hmem
        obtain ⟨rs, hrs, -⟩ := (validateShared_entriesOf_eq_ok hfs hes hmem).mp hr
        obtain ⟨child, hchild, -⟩ := Course.yields_of_mem_walkEntries happends hrs
          (k := e.1) (v := e.2) (List.mem_filter.mpr ⟨he, keyNames_iff.mpr hkey⟩)
        exact ⟨child, hchild⟩
    obtain ⟨rs, hrs⟩ : ∃ rs, (Course.walkEntries (c.walkAlone (Fields.depth fs)) []
        (Fields.seed fs es)).Yields rs := Course.exists_yields_walkEntries happends hwalk
    refine ⟨_, (validateShared_map_eq_ok hes).mpr ⟨.map rs, ?_, rfl⟩⟩
    rw [Course.walkShared_eq]
    exact Walk.yields_map.mpr ⟨rs, hrs, rfl⟩

end Field

/-! ## The parts together -/

section Together

variable {messages : Catalog} {base : Path} {name : String}

theorem Verdict.outcome_ofField_eq_ok {d : Verdict Value} {r : Value} :
    ((d.under base).map (.ofField name)).outcome messages = .ok (.ofField name r) ↔
      d.outcome messages = .ok r := by
  rw [outcome_eq_ok, outcome_eq_ok, map_eq_returned]
  simp [under_eq_returned, Value.ofField]

/-- The list in the field is returned if all items are. -/
theorem Verdict.outcome_items_eq_ok {o : Options} {t : TypeSpec} {vs ws : List Value}
    {ds : List (Verdict Value)} (hds : List.Forall₂ (fun v d =>
      Fields.validateShared [(name, t)] o (.ofField name v) =
        ((d.under [.text name]).map (.ofField name)).outcome o.catalog) vs ds) :
    (((items o.abortEarly 0 ds).under base).map (fun ws => Value.ofField name (.list ws))).outcome
        o.catalog = .ok (.ofField name (.list ws)) ↔
      List.Forall₂ (fun v w => Fields.validateShared [(name, t)] o (.ofField name v) =
        .ok (.ofField name w)) vs ws := by
  have hlist : (((items o.abortEarly 0 ds).under base).map
      (fun ws => Value.ofField name (.list ws))).outcome o.catalog =
        .ok (.ofField name (.list ws)) ↔ List.Forall₂ (fun d w => d = returned w) ds ws := by
    have hitems : items o.abortEarly 0 ds = returned ws ↔ _ := items_eq_returned
    rw [outcome_eq_ok, map_eq_returned, ← hitems]
    simp [under_eq_returned, Value.ofField]
  rw [hlist]
  clear hlist
  induction hds generalizing ws with
  | nil => rw [List.forall₂_nil_left_iff, List.forall₂_nil_left_iff]
  | @cons v d _ _ hd _ ih =>
    have hitem : ∀ w,
        Fields.validateShared [(name, t)] o (.ofField name v) = .ok (.ofField name w) ↔
        d = returned w := fun w => by rw [hd, outcome_ofField_eq_ok, outcome_eq_ok]
    rw [List.forall₂_cons_left_iff, List.forall₂_cons_left_iff]
    simp only [hitem, ih]

end Together

/-- **Validation is compositional**, for a mapping that has been read.

* An object in a field is accepted as it would be alone, and the findings are the same, with the
  name of the field put in front of their paths.
* A list in a field is accepted if each item is that would stand in the field alone, and the
  findings are those of the items in their order, each with its index put in after the name.
* A map is accepted if every field, taken alone, accepts the entries it is about, and these become
  what the field alone returns. -/
theorem Fields.validateShared_compositional {raw : RawDocument} {fs : Fields}
    (hread : Schema.read raw = .ok (.mapping fs)) (o : Options) (name : String) :
    (∀ (p : Presence (List (String × Value))) (es : List (Value × Value)),
      (∀ r, Fields.validateShared [(name, .single (.object p (.mapping fs)))] o
          (.ofField name (.map es)) = .ok (.ofField name r) ↔
        fs.validateShared o (.map es) = .ok r) ∧
      ∃ d : Verdict Value, fs.validateShared o (.map es) = d.outcome o.catalog ∧
        Fields.validateShared [(name, .single (.object p (.mapping fs)))] o
          (.ofField name (.map es)) =
          ((d.under [.text name]).map (.ofField name)).outcome o.catalog) ∧
    (∀ (p : Presence (List Value)) (t : TypeSpec) (vs : List Value),
      (∀ v ∈ vs, v.everywhere Value.isPlain = true) →
      (∀ ws, Fields.validateShared [(name, .single (.array p t {}))] o (.ofField name (.list vs)) =
          .ok (.ofField name (.list ws)) ↔
        List.Forall₂ (fun v w => Fields.validateShared [(name, t)] o (.ofField name v) =
          .ok (.ofField name w)) vs ws) ∧
      ∃ ds : List (Verdict Value),
        List.Forall₂ (fun v d => Fields.validateShared [(name, t)] o (.ofField name v) =
          ((d.under [.text name]).map (.ofField name)).outcome o.catalog) vs ds ∧
        Fields.validateShared [(name, .single (.array p t {}))] o (.ofField name (.list vs)) =
          (((Verdict.items o.abortEarly 0 ds).under [.text name]).map
            (fun ws => .ofField name (.list ws))).outcome o.catalog) ∧
    ∀ es : List (Value × Value), (Value.map es).everywhere Value.isPlain = true →
      ((∃ r, fs.validateShared o (.map es) = .ok r) ↔
        ∀ f ∈ fs, ∃ r, Fields.validateShared [f] o (.map (Value.entriesOf f.1 es)) = .ok r) ∧
      ∀ r, fs.validateShared o (.map es) = .ok r → ∃ rs, r = .map rs ∧
        ∀ f ∈ fs, Fields.validateShared [f] o (.map (Value.entriesOf f.1 es)) =
          .ok (.map (Value.entriesOf f.1 rs)) := by
  refine ⟨fun p es => ?_, fun p t vs hvs => ?_, fun es hes => ?_⟩
  · obtain ⟨d, hinner, houter⟩ := validateShared_object name fs p o es
    refine ⟨fun r => ?_, d, hinner, houter⟩
    rw [hinner, houter, Verdict.outcome_ofField_eq_ok]
  · obtain ⟨ds, hds, houter⟩ := validateShared_array name t p o hvs
    refine ⟨fun ws => ?_, ds, hds, houter⟩
    rw [houter]
    exact Verdict.outcome_items_eq_ok hds
  · exact validateShared_fields (Schema.names_of_read hread).1
      (Value.everywhere_mono (fun _ => Value.isCopied_of_isPlain) hes)

/-- The schema of a part: a size, and a tag that is there by default. -/
def Schema.partDocument : Value :=
  .map [(.text "size", .map [(.text "type", .text "number")]),
    (.text "tag", .map [(.text "type", .text "string"), (.text "default", .text " new ")])]

/-- A part in a field whose name looks like an index gets its tag there, and a list of sizes is
taken item by item. -/
theorem Schema.partDocument_compositional : ∃ fs : Fields,
    Schema.read partDocument = .ok (.mapping fs) ∧
      Fields.validateShared [("0", .single (.object {} (.mapping fs)))] {}
          (.ofField "0" (.map [(.text "size", .int 1)])) =
        .ok (.ofField "0" (.map [(.text "size", .int 1), (.text "tag", .text "new")])) ∧
      List.Forall₂ (fun v w =>
        Fields.validateShared [("0", .single (.number {} {}))] {} (.ofField "0" v) =
          .ok (.ofField "0" w)) [.int 1, .int 2] [.int 1, .int 2] ∧
      ∃ r, Fields.validateShared [("size", .single (.number {} {}))] {}
        (.map (Value.entriesOf "size" [(.text "size", .int 1)])) = .ok r := by
  have hread : Schema.read partDocument = .ok (.mapping [("size", .single (.number {} {})),
      ("tag", .single (.string { default? := some (some " new ") } {}))]) := rfl
  have hparts := Fields.validateShared_compositional hread {} "0"
  refine ⟨_, hread, ((hparts.1 {} _).1 _).mpr rfl, ?_, ?_⟩
  · refine ((hparts.2.1 {} _ [.int 1, .int 2] ?_).1 [.int 1, .int 2]).mp rfl
    simp [Value.everywhere, Value.isPlain]
  · exact (hparts.2.2 [(.text "size", .int 1)] rfl).1.mp ⟨_, rfl⟩ _ List.mem_cons_self

end Conform
