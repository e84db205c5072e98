import Conform.Proofs.Remarking
import Conform.Proofs.Search

/-!
# Validating a result again

A result is settled: visits leave all of its values as they are. But the second validation marks the
result before it walks it, and what becomes of the marks decides whether the result comes back
unchanged. Where every mark is dropped again it does (`Course.walkMembers_mark_self`), and where one
is not, the second result has a key that the first has not (`Course.filled_or_dropped`), or there is
none.

The first validation has marked the data as well and has dropped every mark that was left over, and
yet the second may keep some. The type that a member is marked by is that of the one candidate that
the map fits, while the type that governs the path of the member is the first that the search from
the root finds. They are two where a union has an array in front of an object, and a name of the
object is a number: there the search takes the name for an index and finds the items of the array.
So a default of the items that the first validation has put in under this name is marked by the
second as what the object declares (`Fields.indexed_rejects_again`).

Where no union is like this, validation is idempotent, and in general it is so exactly for the
results whose marks may be left out (`Fields.validateShared_again_iff`).
-/

namespace Conform

/-! ## Marks that have been dropped before -/

/-- A container that is taken is the marked value itself, or the marked default. -/
theorem TypeSpec.Takes.exists_seed {t : TypeSpec} {v x : Value} (h : t.Takes (t.seed v) (some x))
    (hx : x.isContainer = true) : ∃ u, x = t.seed u ∧ (u = v ∨ t.first.default? = some u) := by
  generalize hv : t.seed v = y at h
  cases h with
  | null h => cases hx
  | present h => exact ⟨v, (h.eq_of_isContainer hx).symm.trans hv.symm, .inl rfl⟩
  | nullDefault h => cases hx
  | default hd _ h => exact ⟨_, (h.eq_of_isContainer hx).symm, .inr hd⟩

/-- **What a walk starts from**: a working copy with no mark of absence among the items of a list.
-/
structure Value.Source (v : Value) : Prop where
  copied : v.everywhere isCopied = true
  itemsPresent : v.everywhere itemsPresent = true

/-- **What a walk ends with**: a working copy in which nothing is absent. -/
structure Value.Outcome (w : Value) : Prop where
  copied : w.everywhere isCopied = true
  present : w.everywhere isPresent = true

theorem Value.Source.at {v u : Value} {path : Path} (h : v.Source) (hat : v.At path u) : u.Source :=
  ⟨everywhere_of_at h.copied hat, everywhere_of_at h.itemsPresent hat⟩

theorem Value.Outcome.at {v u : Value} {path : Path} (h : v.Outcome) (hat : v.At path u) :
    u.Outcome :=
  ⟨everywhere_of_at h.copied hat, everywhere_of_at h.present hat⟩

theorem Value.Outcome.not_at_absent {w : Value} (h : w.Outcome) {path : Path} :
    ¬ w.At path .absent := by
  intro hat
  have habsent := everywhere_iff.mp h.present path _ hat
  cases habsent

namespace Marker

variable {m : Marker} {es : List (Value × Value)}

/-- An entry of a marked map comes from one of the map or from a mark, which is marked like it. -/
theorem exists_of_mem_mark (h : (Value.map es).Source) {k x : Value}
    (hx : (k, x) ∈ es.map (fun e => (e.1, (m.atKey e.1).mark e.2)) ++ m.missing es) :
    ∃ v, x = (m.atKey k).mark v ∧ v.Source := by
  rcases List.mem_append.mp hx with hx | hx
  · obtain ⟨e, he, heq⟩ := List.mem_map.mp hx
    obtain ⟨rfl, rfl⟩ := Prod.mk.inj heq
    exact ⟨e.2, rfl, h.at (.entry he (.here _))⟩
  · have habsent := m.absent_of_mem_missing hx
    exact ⟨.absent, habsent.trans ((m.atKey k).mark_of_leaf rfl).symm, rfl, rfl⟩

/-- A marked map has every field of the mapping that it is marked by. -/
theorem exists_mem_mark {fs : Fields} (hfs : m.fields? = some fs) {name : String} {t : TypeSpec}
    (hname : (name, t) ∈ fs) : ∃ x, (Value.text name, x) ∈
      es.map (fun e => (e.1, (m.atKey e.1).mark e.2)) ++ m.missing es := by
  cases hkey : Value.hasKey es name with
  | true =>
    obtain ⟨e, he, hkey⟩ := List.any_eq_true.mp hkey
    exact ⟨_, List.mem_append_left _
      (List.mem_map.mpr ⟨e, he, Prod.ext (keyNames_iff.mp hkey) rfl⟩)⟩
  | false =>
    exact ⟨_, List.mem_append_right _ (mem_missing.mpr ⟨fs, name, t, hfs, hname, hkey, rfl⟩)⟩

end Marker

namespace Course

variable {c : Course} {path : Path} {budget : Nat}

/-- Where one value is dropped, a mark is dropped. -/
theorem visit_absent_of_visit_none {t : TypeSpec} (ht : c.schema.locate path = some t) {v : Value}
    (h : (c.visit path v).Yields none) : (c.visit path .absent).Yields none := by
  have homitted := ((visit_yields_of_declared ht).mp h).eq_absent.2
  refine visit_absent_yields_none.mpr (fun u hu => ?_)
  rw [ht] at hu
  cases hu
  exact homitted

/-- **A course drops marks** with some budget if, wherever the search leads to the marker, the marks
that the result of a walk would get are dropped. -/
def DropsMarks (c : Course) (budget : Nat) : Prop :=
  ∀ path m v w, c.Leads path m → path ≠ [] → c.schema.depth < budget + path.length → v.Source →
    (c.walk budget path (Marker.mark m v)).Yields (some w) → w.Outcome →
    ∀ more, (Marker.mark m w).At more .absent → (c.visit (path ++ more) .absent).Yields none

section

variable {m : Marker} {w : Value} {key : Value} {more : Path}

/-- **What a map has left out**, the walk has dropped. -/
theorem DropsMarks.map (h : c.DropsMarks budget) (hm : m.All TypeSpec.wellNamed)
    (hleads : ∀ key, c.Leads (path ++ [key]) (m.atKey key))
    (hbudget : c.schema.depth < budget + 1 + path.length) {es : List (Value × Value)}
    (hsource : (Value.map es).Source)
    (hwalk : (walkMembers (c.walk budget) path (m.mark (.map es))).Yields w) (hw : w.Outcome)
    (hat : (m.mark w).At (key :: more) .absent) :
    (c.visit (path ++ key :: more) .absent).Yields none := by
  rw [m.mark_map hm (Value.isCopied_map_iff.mp hsource.copied).1] at hwalk
  obtain ⟨es', hes', rfl⟩ := Walk.yields_map.mp hwalk
  rw [m.mark_map hm (Value.isCopied_map_iff.mp hw.copied).1] at hat
  obtain ⟨y, hy, hat⟩ := Value.map_at_cons.mp hat
  have happends := c.appends_walk budget
  have hlength := depth_lt_of_member key hbudget
  rcases List.mem_append.mp hy with hown | hmissing
  · obtain ⟨⟨k, w⟩, hmem, heq⟩ := List.mem_map.mp hown
    obtain ⟨rfl, rfl⟩ := Prod.mk.inj heq
    obtain ⟨x, hx, hchild⟩ := exists_of_mem_walkEntries happends hes' hmem
    obtain ⟨v, rfl, hv⟩ := Marker.exists_of_mem_mark hsource hx
    have hmember := h _ _ v w (hleads k) (by simp) hlength hv hchild
      (hw.at (.entry hmem (.here _))) more hat
    rwa [List.append_assoc] at hmember
  · obtain ⟨fs, name, t, hfs, hname, hnew, heq⟩ := Marker.mem_missing.mp hmissing
    obtain ⟨rfl, rfl⟩ := Prod.mk.inj heq
    cases hat
    -- the walk has come by this field, and has dropped it
    obtain ⟨x, hx⟩ := Marker.exists_mem_mark hfs hname
    obtain ⟨child, hchild, hleft⟩ := yields_of_mem_walkEntries happends hes' hx
    cases child with
    | some w =>
      have hthere : Value.hasKey es' name = true :=
        List.any_eq_true.mpr ⟨_, hleft w rfl, keyNames_iff.mpr rfl⟩
      rw [hnew] at hthere
      cases hthere
    | none =>
      have hlocate : c.schema.locate (path ++ [.text name]) = some t :=
        hleads _ t (Option.bind_eq_some_iff.mpr
          ⟨fs, hfs, Fields.typeAt?_of_mem (hm.nodup hfs) hname⟩)
      exact visit_absent_of_visit_none hlocate ((walk_yields_none (by simp) hlength).mp hchild)

/-- The items of a list keep their places, and the marks in them have been dropped. -/
theorem DropsMarks.list (h : c.DropsMarks budget)
    (hleads : ∀ i : Nat, c.Leads (path ++ [.int i]) m.ofItems) (hne : path ≠ [])
    (hbudget : c.schema.depth < budget + 1 + path.length) {vs : List Value} {v : Value}
    (hvisit : (c.visit path v).Yields (some (m.mark (.list vs))))
    (hsource : (Value.list vs).Source)
    (hwalk : (walkMembers (c.walk budget) path (m.mark (.list vs))).Yields w) (hw : w.Outcome)
    (hat : (m.mark w).At (key :: more) .absent) :
    (c.visit (path ++ key :: more) .absent).Yields none := by
  rw [m.mark_list] at hwalk hvisit
  have hself := List.all_eq_true.mp (Value.self_of_everywhere hsource.itemsPresent)
  obtain ⟨ws, rfl, hlen, hpoint⟩ :=
    walkMembers_list_yields (c.appends_walk budget) hwalk (fun i x hx => by
      rw [List.getElem?_map, Option.map_eq_some_iff] at hx
      obtain ⟨v, hv, rfl⟩ := hx
      exact not_walk_item_yields_none hne (depth_lt_of_member _ hbudget) hvisit
        (m.ofItems.isPresent_mark (hself v (List.mem_of_getElem? hv))))
  rw [m.mark_list] at hat
  obtain ⟨i, y, rfl, hy, hat⟩ := Value.list_at_cons.mp hat
  rw [List.getElem?_map, Option.map_eq_some_iff] at hy
  obtain ⟨w, hget, rfl⟩ := hy
  obtain ⟨x, hx⟩ := exists_getElem?_of_length_eq hlen.symm hget
  have hchild := hpoint i x w hx hget
  rw [List.getElem?_map, Option.map_eq_some_iff] at hx
  obtain ⟨v, hv, rfl⟩ := hx
  have hmember := h _ _ v w (hleads i) (by simp) (depth_lt_of_member _ hbudget)
    (hsource.at (.item hv (.here _))) hchild (hw.at (.item hget (.here _))) more hat
  rwa [List.append_assoc] at hmember

end

/-- **Every course drops marks** as far as its budget reaches. -/
theorem dropsMarks (hnamed : c.schema.everyType TypeSpec.wellNamed = true)
    (horderly : c.schema.everyType TypeSpec.isOrderly = true)
    (hcopies : c.schema.everyType (TypeSpec.defaultsPass Value.isCopied) = true)
    (hdefaults : c.schema.everyType (TypeSpec.defaultsPass Value.itemsPresent) = true)
    (budget : Nat) : c.DropsMarks budget := by
  induction budget with
  | zero =>
    intro path m v w hleads _ hbudget _ _ hw more hat
    cases m with
    | none => exact absurd hat hw.not_at_absent
    | some t =>
      have hlocate := hleads t rfl
      rw [Schema.locate_eq_none_of_depth_lt (Nat.zero_add path.length ▸ hbudget)] at hlocate
      cases hlocate
  | succ budget ih =>
    intro path m v w hleads hne hbudget hsource hwalk hw more hat
    cases m with
    | none => exact absurd hat hw.not_at_absent
    | some t =>
    have hlocate := hleads t rfl
    have hm : Marker.All TypeSpec.wellNamed (some t) := by
      rintro u ⟨⟩
      exact Schema.everyType_of_locate hnamed hlocate
    rcases walk_succ_yields.mp hwalk with ⟨hnone, -⟩ | ⟨x, x', hvisit, hmembers, hx'⟩
    · cases hnone
    cases hx'
    cases hcontainer : x.isContainer with
    | false =>
      -- a leaf has no members, and nothing in it is marked
      have hself : w = x := by
        cases x with
        | map es => cases hcontainer
        | list vs => cases hcontainer
        | _ => exact (Walk.yields_pure.mp hmembers).symm
      rw [hself, Marker.mark_of_leaf _ hcontainer, ← hself] at hat
      exact absurd hat hw.not_at_absent
    | true =>
      obtain ⟨u, rfl, hu⟩ :=
        ((visit_yields_of_declared hlocate).mp hvisit).exists_seed hcontainer
      have hsource : u.Source := by
        rcases hu with rfl | hd
        · exact hsource
        · exact ⟨TypeSpec.everywhere_of_default (Schema.everyType_of_locate hcopies hlocate) hd,
            TypeSpec.everywhere_of_default (Schema.everyType_of_locate hdefaults hlocate) hd⟩
      obtain ⟨key, more, rfl⟩ := List.exists_cons_of_ne_nil
        (Marker.ne_nil_of_mark_at (Value.self_of_everywhere hw.present) hat)
      cases u with
      | map es =>
        exact ih.map hm (fun key => hleads.atKey horderly key) hbudget hsource hmembers hw hat
      | list vs =>
        exact ih.list (fun i => hleads.ofItems i) hne hbudget hvisit hsource hmembers hw hat
      | _ =>
        rw [t.seed_of_leaf rfl] at hcontainer
        cases hcontainer

end Course

/-! ## Results again -/

/-- **The marks of a value with sorted keys** stand where those of the value stand. -/
theorem Marker.mark_at_of_sortKeys {m : Marker} (hm : m.All TypeSpec.wellNamed) {v : Value}
    (hcopied : v.everywhere Value.isCopied = true) {path : Path}
    (hat : (m.mark v.sortKeys).At path .absent) : (m.mark v).At path .absent := by
  induction path generalizing m v with
  | nil =>
    have hmark := Value.at_nil.mp hat
    cases v with
    | map es =>
      have halike := m.mark_alike (Value.map es).sortKeys
      rw [hmark] at halike
      cases halike
    | list vs =>
      have halike := m.mark_alike (Value.list vs).sortKeys
      rw [hmark] at halike
      cases halike
    | _ => exact hat
  | cons key path ih =>
    cases v with
    | map es =>
      obtain ⟨hkeys, hes⟩ := Value.isCopied_map_iff.mp hcopied
      have hsorted := Value.testsKeys_isCopied.sortKeys hcopied
      rw [Value.sortKeys] at hat hsorted
      rw [m.mark_map hm (Value.isCopied_map_iff.mp hsorted).1] at hat
      rw [m.mark_map hm hkeys]
      obtain ⟨y, hy, hat⟩ := Value.map_at_cons.mp hat
      rcases List.mem_append.mp hy with hy | hy
      · obtain ⟨e, he, heq⟩ := List.mem_map.mp hy
        obtain ⟨rfl, rfl⟩ := Prod.mk.inj heq
        obtain ⟨v, hv, hsort⟩ := Value.mem_sortKeys_map.mp he
        rw [hsort] at hat
        exact .entry (List.mem_append_left _ (List.mem_map.mpr ⟨_, hv, rfl⟩))
          (ih (hm.atKey _) (hes _ hv) hat)
      · obtain ⟨fs, name, t, hfs, hname, hnew, heq⟩ := mem_missing.mp hy
        obtain ⟨rfl, rfl⟩ := Prod.mk.inj heq
        refine .entry (List.mem_append_right _
          (mem_missing.mpr ⟨fs, name, t, hfs, hname, ?_, rfl⟩)) hat
        rw [Bool.eq_false_iff]
        intro hkey
        obtain ⟨e, he, hkey⟩ := List.any_eq_true.mp hkey
        have hthere : Value.hasKey ((Value.sortValues es).mergeSort Value.entryLe) name = true :=
          List.any_eq_true.mpr
            ⟨(e.1, e.2.sortKeys), Value.mem_sortKeys_map.mpr ⟨e.2, he, rfl⟩, hkey⟩
        rw [hnew] at hthere
        cases hthere
    | list vs =>
      rw [Value.sortKeys, Value.sortItems_eq_map, m.mark_list] at hat
      rw [m.mark_list]
      obtain ⟨i, y, rfl, hy, hat⟩ := Value.list_at_cons.mp hat
      rw [List.getElem?_map, List.getElem?_map] at hy
      obtain ⟨x, hx, rfl⟩ := Option.map_eq_some_iff.mp hy
      obtain ⟨v, hv, rfl⟩ := Option.map_eq_some_iff.mp hx
      refine .item (by rw [List.getElem?_map, hv]; rfl) (ih hm.ofItems ?_ hat)
      exact Value.isCopied_list_iff.mp hcopied v (List.mem_of_getElem? hv)
    | _ => exact hat

/-- **What is known of a result**: it is a map whose members are settled, and a working copy in
which nothing is absent. -/
structure Options.Normal (o : Options) (fs : Fields) (r : Value) : Prop extends r.Outcome where
  isMap : ∃ es, r = .map es
  settled : (⟨.mapping fs, o⟩ : Course).SettledBelow [] r

theorem Options.Normal.sortKeys {o : Options} {fs : Fields} {v : Value} (h : o.Normal fs v) :
    o.Normal fs v.sortKeys where
  isMap := by
    obtain ⟨es, rfl⟩ := h.isMap
    exact ⟨_, rfl⟩
  settled := by
    intro key w hw
    obtain ⟨u, hu, rfl⟩ := Value.sortKeys_at.mp hw
    exact (h.settled key u hu).sortKeys
  copied := Value.testsKeys_isCopied.sortKeys h.copied
  present := by
    refine Value.everywhere_iff.mpr (fun path u hu => ?_)
    obtain ⟨w, hw, rfl⟩ := Value.sortKeys_at.mp hu
    have hpresent := Value.everywhere_iff.mp h.present path w hw
    cases w with
    | absent => cases hpresent
    | _ => rfl

/-- A mapping as a type, by which data is marked. -/
def Fields.asType (fs : Fields) : TypeSpec := .single (.object {} (.mapping fs))

section Again

variable {fs : Fields} {o : Options} {es : List (Value × Value)} {v r : Value}

theorem Fields.wellNamed_asType (hnames : (fs.map Prod.fst).Nodup)
    (hnamed : Fields.everyType TypeSpec.wellNamed fs = true) :
    Marker.All TypeSpec.wellNamed (some fs.asType) := by
  rintro t ⟨⟩
  refine TypeSpec.everyType_wellNamed (fun n hn => ?_)
  rw [List.mem_singleton.mp hn]
  refine ⟨List.all_eq_true.mpr (fun gs hgs => ?_), hnamed⟩
  rw [List.mem_singleton.mp hgs]
  exact decide_eq_true hnames

/-- The first walk gives a map that is settled. -/
theorem Options.normal_of_walkRoot
    (hnamed : Fields.everyType TypeSpec.wellNamed fs = true)
    (hcopies : Fields.everyType (TypeSpec.defaultsPass Value.isCopied) fs = true)
    (hdefaults : Fields.everyType (TypeSpec.defaultsPass Value.itemsPresent) fs = true)
    (hcopied : (fs.asType.seed (.map es)).everywhere Value.isCopied = true)
    (hitems : (fs.asType.seed (.map es)).everywhere Value.itemsPresent = true)
    (h : ((⟨.mapping fs, o⟩ : Course).walkRoot (Fields.seed fs es)).Yields v) :
    o.Normal fs v := by
  have hv := Value.testsKeys_isCopied.walkRoot (c := ⟨.mapping fs, o⟩) hnamed hcopies hcopied h
  obtain ⟨es', rfl, hsettled⟩ := Course.settled_of_walkRoot (c := ⟨.mapping fs, o⟩) hdefaults
    (Value.everywhere_map.mp hitems).2 h
  exact {
    isMap := ⟨es', rfl⟩
    settled := by
      intro key w hw
      obtain ⟨u, hu, hw⟩ := Value.map_at_cons.mp hw
      cases hw
      exact hsettled _ hu
    copied := hv
    present := Value.everywhere_map.mpr ⟨rfl, fun e he => (hsettled e he).isPresent⟩ }

/-- **A result is validated to itself** exactly if the marks that it gets are dropped. -/
theorem Options.Normal.validate_self_iff (h : o.Normal fs r)
    (hsort : o.sortKeys = true → r.sortKeys = r)
    (hm : Marker.All TypeSpec.wellNamed (some fs.asType)) :
    fs.validate o r = .ok r ↔ ∀ path, (fs.asType.seed r).At path .absent →
      ((⟨.mapping fs, o⟩ : Course).visit path .absent).Yields none := by
  obtain ⟨es, rfl⟩ := h.isMap
  have hrepeats : (⟨.mapping fs, o⟩ : Course).Repeats (Schema.mapping fs).depth [] (some fs.asType)
      (.map es) := ⟨h.settled, h.copied, hm, Nat.lt_succ_self _⟩
  rw [Fields.validate_eq_ok]
  constructor
  · rintro ⟨es', v, hplain, hwalk, hr⟩ path hat
    rw [Value.plain_eq_self h.copied] at hplain
    cases hplain
    cases path with
    | nil => cases hat
    | cons key more =>
      rcases Course.filled_or_dropped hrepeats hwalk hat with hdrop | ⟨u, hu⟩
      · exact hdrop
      · -- what fills the mark would stand in the result, and it does not
        refine absurd ?_ (Marker.not_at_of_mark hm h.copied h.present hat
          (if o.sortKeys then u.sortKeys else u))
        rw [hr]
        split
        · exact Value.sortKeys_at.mpr ⟨u, hu, rfl⟩
        · exact hu
  · intro hdropped
    refine ⟨es, .map es, Value.plain_eq_self h.copied, ?_, ?_⟩
    · exact Course.walkMembers_mark_self hrepeats (fun key more hat => hdropped (key :: more) hat)
    · split
      next hs => exact (hsort hs).symm
      next => rfl

/-- Marks that the first validation has dropped are dropped by the second, where the search keeps up
with marking. -/
theorem Fields.drops_of_walkRoot (hnames : (fs.map Prod.fst).Nodup)
    (hnamed : Fields.everyType TypeSpec.wellNamed fs = true)
    (horderly : Fields.everyType TypeSpec.isOrderly fs = true)
    (hcopies : Fields.everyType (TypeSpec.defaultsPass Value.isCopied) fs = true)
    (hdefaults : Fields.everyType (TypeSpec.defaultsPass Value.itemsPresent) fs = true)
    (hsource : (Value.map es).Source)
    (hwalk : ((⟨.mapping fs, o⟩ : Course).walkRoot (Fields.seed fs es)).Yields v)
    (hv : o.Normal fs v) {path : Path} (hat : (fs.asType.seed v).At path .absent) :
    ((⟨.mapping fs, o⟩ : Course).visit path .absent).Yields none := by
  have hleads : ∀ key, (⟨.mapping fs, o⟩ : Course).Leads ([] ++ [key])
      (Marker.atKey (some fs.asType) key) := by
    intro key t ht
    exact (Schema.locate_key fs key).trans ht
  obtain ⟨es', rfl⟩ := hv.isMap
  cases path with
  | nil => cases hat
  | cons key more =>
    exact (Course.dropsMarks (c := ⟨.mapping fs, o⟩) hnamed horderly hcopies hdefaults _).map
      (Fields.wellNamed_asType hnames hnamed) hleads (by simp) hsource hwalk hv.toOutcome hat

/-- **Validation is idempotent for just those results whose marks may be left out**, and for every
result where no array stands in front of an object that declares an index. The schema has been read,
its defaults share no containers and hold none but maps and lists, and no mark of absence is among
the items of a list in a default or in the working copy of the data, which has no containers but
maps and lists either. -/
theorem Fields.validateShared_again_iff {d : RawDocument} {data : Value}
    (hread : Schema.read d = .ok (.mapping fs))
    (hshare : Fields.everyType TypeSpec.sharesNothing fs = true)
    (hcopies : Fields.everyType (TypeSpec.defaultsPass Value.isCopied) fs = true)
    (hdefaults : Fields.everyType (TypeSpec.defaultsPass Value.itemsPresent) fs = true)
    (hsource : ∀ w, data.plain = .ok w → w.Source)
    (h : fs.validateShared o data = .ok r) :
    (fs.validateShared o r = .ok r ↔ ∀ path t, (fs.asType.seed r).At path .absent →
      Fields.locate fs path = some t → t.first.default? = none ∧ t.first.required = false) ∧
    (Fields.everyType TypeSpec.isOrderly fs = true → fs.validateShared o r = .ok r) := by
  simp only [Fields.validateShared_eq_validate hshare] at h ⊢
  obtain ⟨hnames, hnamed⟩ := Schema.names_of_read hread
  obtain ⟨es, v, hplain, hwalk, hr⟩ := Fields.validate_eq_ok.mp h
  have hes := hsource _ hplain
  have hm := Fields.wellNamed_asType hnames hnamed
  have hv : o.Normal fs v := Options.normal_of_walkRoot hnamed hcopies hdefaults
    (Marker.isCopied_mark hm hes.copied) (TypeSpec.itemsPresent_seed _ _ hes.itemsPresent) hwalk
  have hnormal : o.Normal fs r := by
    rw [hr]
    split
    · exact hv.sortKeys
    · exact hv
  have hsorted : o.sortKeys = true → r.sortKeys = r := by
    intro hs
    rw [hr, if_pos hs]
    exact v.sortKeys_idem
  have hself := hnormal.validate_self_iff hsorted hm
  constructor
  · rw [hself]
    exact forall_congr' (fun path => ⟨fun hdrop t hat ht =>
      Course.visit_absent_yields_none.mp (hdrop hat) t ht, fun hmay hat =>
      Course.visit_absent_yields_none.mpr (fun t ht => hmay t hat ht)⟩)
  · intro horderly
    rw [hself]
    intro path hat
    refine Fields.drops_of_walkRoot hnames hnamed horderly hcopies hdefaults
      hes hwalk hv ?_
    rw [hr] at hat
    split at hat
    · exact Marker.mark_at_of_sortKeys hm hv.copied hat
    · exact hat

end Again

/-! ## A name that is a number -/

/-- A list of empty objects, which are there by default, or else an object whose field `0` is an
object with a number. -/
def Fields.indexed : Fields :=
  [("f", .union
    (.array {} (.single (.object { default? := some (some []) } (.mapping []))) {})
    (.object {} (.mapping [("0", .single (.object {}
      (.mapping [("b", .single (.number {} {}))])))])) [])]

/-- The document that these fields are read from. -/
def Schema.indexedDocument : Value :=
  .map [(.text "f", .list [
    .map [(.text "type", .text "array"), (.text "items", .map [(.text "type", .text "object"),
      (.text "properties", .map []), (.text "default", .map [])])],
    .map [(.text "type", .text "object"), (.text "properties", .map [(.text "0",
      .map [(.text "type", .text "object"), (.text "properties", .map [(.text "b",
        .map [(.text "type", .text "number")])])])])]])]

/-- Where the number is there already, the map that is given comes back, and comes back again. -/
theorem Fields.indexed_validate_again :
    Fields.indexed.validateShared {}
        (.map [(.text "f", .map [(.text "0", .map [(.text "b", .int 1)])])]) =
        .ok (.map [(.text "f", .map [(.text "0", .map [(.text "b", .int 1)])])]) ∧
      (Fields.indexed.validateShared {}
        (.map [(.text "f", .map [(.text "0", .map [(.text "b", .int 1)])])]) =
        .ok (.map [(.text "f", .map [(.text "0", .map [(.text "b", .int 1)])])]) ↔
      ∀ path t, (Fields.indexed.asType.seed
          (.map [(.text "f", .map [(.text "0", .map [(.text "b", .int 1)])])])).At path .absent →
        Fields.locate Fields.indexed path = some t →
        t.first.default? = none ∧ t.first.required = false) := by
  have hsource : ∀ w,
      (Value.map [(.text "f", .map [(.text "0", .map [(.text "b", .int 1)])])]).plain =
        .ok w → w.Source := by
    rintro w ⟨⟩
    exact ⟨rfl, rfl⟩
  have hread : Schema.read Schema.indexedDocument = .ok (.mapping Fields.indexed) := rfl
  exact ⟨rfl, (Fields.validateShared_again_iff hread rfl rfl rfl hsource rfl).1⟩

/-- **Validation is not idempotent**, not even for plain data and defaults: an empty object in the
place of the list gets the default of an item under its field `0`, for the search takes the name for
an index. The second validation marks this default as what the object declares, and rejects it,
because the number is missing. -/
theorem Fields.indexed_rejects_again :
    ¬ ∀ (d : RawDocument) (data r : Value) (fs : Fields) (o : Options),
      Schema.read d = .ok (.mapping fs) →
      Fields.everyType (TypeSpec.defaultsPass Value.isPlain) fs = true →
      data.everywhere Value.isPlain = true → fs.validateShared o data = .ok r →
      fs.validateShared o r = .ok r := by
  intro hagain
  have hsecond := hagain Schema.indexedDocument (.map [(.text "f", .map [])])
    (.map [(.text "f", .map [(.text "0", .map [])])]) Fields.indexed {} rfl rfl rfl rfl
  cases hsecond

end Conform
