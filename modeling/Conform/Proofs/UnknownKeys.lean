import Conform.Proofs.Pruning
import Conform.Proofs.Repetition

/-!
# Unknown keys do not interfere

A validation that keeps what the schema does not declare and one that drops it raise the same
errors, and otherwise return the same apart from what is dropped (`Schema.validateShared_unknown`).
What is kept is what was given: it is the value of the data, or of a default that was put in, at its
path, and nothing in it is changed but that marks of absence are sifted out.

A container that a default holds in two places is another matter. What is undeclared in one of them
may be declared in the other, and where it is dropped it is gone (`Schema.halves_not_pruned`).

For this the path of a kept value is traced back through the result (`Schema.Supplies`). Keys of
maps stay what they are. An index may become smaller, by as many places as there are absent items
before it. Where a default has been put in, the trace goes on in the default. The walk cannot have
changed what it finds at an undeclared path, since no type is declared there, and marking has not
put anything into it, since the types that values are marked by are on a route to their path
(`Marker.OnRoute`).
-/

namespace Conform

/-! ## Where the values of a result come from -/

/-- **What the data and the defaults supply at a path of the result.** -/
inductive Schema.Supplies (s : Schema) (data : Value) : Path → Value → Prop
  | data : Supplies s data [] data
  | entry {path : Path} {es : List (Value × Value)} {k v : Value}
      (h : Supplies s data path (.map es)) (hmem : (k, v) ∈ es) : Supplies s data (path ++ [k]) v
  /-- A declared key that is missing. -/
  | missing {path : Path} {es : List (Value × Value)} {name : String}
      (h : Supplies s data path (.map es)) (hnew : Value.hasKey es name = false)
      (hdeclared : (s.locate (path ++ [.text name])).isSome = true) :
      Supplies s data (path ++ [.text name]) .absent
  /-- An item, which moves ahead by no more places than there are absent items before it. -/
  | item {path : Path} {before after : List Value} {v : Value} {i : Nat}
      (h : Supplies s data path (.list (before ++ v :: after))) (hle : i ≤ before.length)
      (hmoved : before.length ≤ i + before.countP (fun u => !u.isPresent)) :
      Supplies s data (path ++ [.int i]) v
  | default {path : Path} {t : TypeSpec} {d : Value} (h : Supplies s data path .absent)
      (ht : s.locate path = some t) (hd : t.first.default? = some d) : Supplies s data path d

namespace Course

section Items

variable {member : Path → Value → Walk (Option Value)} {path : Path}

/-- **An item that is left** comes from an item; those that were dropped before it were absent. -/
theorem exists_of_getElem?_walkItems (h : ∀ path v, (member path v).Appends) {index : Nat}
    {vs vs' : List Value} (hy : (walkItems member path index vs).Yields vs')
    (hkept : ∀ (i : Nat) v, v ∈ vs → v.isPresent = true →
      ¬ (member (path ++ [.int i]) v).Yields none)
    {j : Nat} {w : Value} (hw : vs'[j]? = some w) :
    ∃ before v after, vs = before ++ v :: after ∧ j ≤ before.length ∧
      before.length ≤ j + before.countP (fun u => !u.isPresent) ∧
      (member (path ++ [.int (index + before.length : Nat)]) v).Yields (some w) := by
  induction vs generalizing index vs' j with
  | nil =>
    cases Walk.yields_pure.mp hy
    simp at hw
  | cons v vs ih =>
    obtain ⟨child, rest, hc, hr, rfl⟩ := (walkItems_cons_yields h).mp hy
    have hkept' : ∀ (i : Nat) v, v ∈ vs → v.isPresent = true →
        ¬ (member (path ++ [.int i]) v).Yields none := fun i u hu =>
      hkept i u (List.mem_cons_of_mem _ hu)
    have hplace : ∀ before : List Value,
        index + 1 + before.length = index + (v :: before).length := fun before => by
      simp only [List.length_cons]
      omega
    cases child with
    | none =>
      -- the first item is dropped, so it is absent
      have habsent : v.isPresent = false := by
        cases hv : v.isPresent with
        | false => rfl
        | true => exact absurd hc (hkept index v List.mem_cons_self hv)
      obtain ⟨before, u, after, rfl, hle, hmoved, hu⟩ := ih hr hkept' hw
      refine ⟨v :: before, u, after, rfl, by simp; omega, ?_, hplace before ▸ hu⟩
      rw [List.countP_cons_of_pos (by simp [habsent]), List.length_cons]
      omega
    | some x =>
      cases j with
      | zero =>
        obtain rfl : x = w := by simpa using hw
        exact ⟨[], v, vs, rfl, Nat.le_refl _, Nat.zero_le _, hc⟩
      | succ j =>
        obtain ⟨before, u, after, rfl, hle, hmoved, hu⟩ := ih hr hkept' (by simpa using hw)
        refine ⟨v :: before, u, after, rfl, by simpa using hle, ?_, hplace before ▸ hu⟩
        rw [List.countP_cons, List.length_cons]
        omega

end Items

end Course

/-- Sifting moves an item ahead by the absent items before it. -/
theorem Value.exists_of_getElem?_presentItems {vs : List Value} {j : Nat} {w : Value}
    (h : (presentItems vs)[j]? = some w) :
    ∃ before v after, vs = before ++ v :: after ∧ j ≤ before.length ∧
      before.length ≤ j + before.countP (fun u => !u.isPresent) ∧ w = v.withoutAbsent := by
  -- sifting is a walk that has nothing to object to
  let member : Path → Value → Walk (Option Value) := fun _ v => pure v.sifted?
  have hwalk : (Course.walkItems member [] 0 vs).Yields (presentItems vs) := by
    rw [Course.walkItems_of_pure (fun _ _ => rfl), ← presentItems_eq]
    exact Walk.yields_pure.mpr rfl
  obtain ⟨before, v, after, rfl, hle, hmoved, hv⟩ :=
    Course.exists_of_getElem?_walkItems (fun _ _ => Walk.appends_pure _) hwalk
      (fun i v _ hpresent hnone => by
        rw [Walk.yields_pure, sifted?, if_pos hpresent] at hnone
        cases hnone) h
  have hsifted : w ∈ v.sifted?.toList := by
    rw [Walk.yields_pure.mp hv]
    exact List.mem_singleton_self w
  exact ⟨before, v, after, rfl, hle, hmoved, (mem_sifted?.mp hsifted).2⟩

namespace Schema

variable {s : Schema} {data : Value} {path more : Path}

/-- **What is sifted is supplied** with all that is in it. -/
theorem Supplies.withoutAbsent {v u : Value} (h : s.Supplies data path v)
    (hat : v.withoutAbsent.At more u) :
    ∃ w, s.Supplies data (path ++ more) w ∧ u = w.withoutAbsent := by
  induction more generalizing path v with
  | nil =>
    rw [List.append_nil]
    exact ⟨v, h, (Value.at_nil.mp hat).symm⟩
  | cons key more ih =>
    rw [List.append_cons]
    cases v with
    | map es =>
      obtain ⟨w, hmem, hat⟩ := Value.map_at_cons.mp hat
      obtain ⟨e, he, -, heq⟩ := Value.exists_of_mem_presentEntries hmem
      obtain ⟨rfl, rfl⟩ := Prod.mk.inj heq
      exact ih (h.entry he) hat
    | list vs =>
      obtain ⟨j, w, rfl, hget, hat⟩ := Value.list_at_cons.mp hat
      obtain ⟨before, v, after, rfl, hle, hmoved, rfl⟩ :=
        Value.exists_of_getElem?_presentItems hget
      exact ih (h.item hle hmoved) hat
    | _ => cases hat

end Schema

/-! ## Markers on a route -/

namespace Marker

variable {s : Schema} {path : Path} {m : Marker}

/-- **A marker on a route**: it is one of the types that the path leads to. -/
def OnRoute (s : Schema) (path : Path) (m : Marker) : Prop := ∀ t, m = some t → t ∈ s.routes path

/-- Nothing is marked where nothing is declared. -/
theorem OnRoute.eq_none (h : m.OnRoute s path) (hnone : s.locate path = none) : m = none := by
  cases m with
  | none => rfl
  | some t =>
    have ht := h t rfl
    rw [Schema.routes_eq_nil hnone] at ht
    cases ht

theorem OnRoute.isSome_locate {t : TypeSpec} (h : Marker.OnRoute s path (some t)) :
    (s.locate path).isSome = true := by
  cases hlocate : s.locate path with
  | none => cases h.eq_none hlocate
  | some u => rfl

theorem OnRoute.atKey (h : m.OnRoute s path) (hne : path ≠ []) (key : Value) :
    (m.atKey key).OnRoute s (path ++ [key]) := by
  intro u hu
  obtain ⟨fs, hfs, htype⟩ := Option.bind_eq_some_iff.mp hu
  obtain ⟨t, rfl, hfields⟩ := exists_of_fields? hfs
  obtain ⟨p, hmem, -⟩ := TypeSpec.exists_of_seedFields? hfields
  rw [s.routes_concat hne]
  refine List.mem_flatMap.mpr ⟨t, h t rfl, List.mem_flatMap.mpr ⟨_, hmem, ?_⟩⟩
  rw [Node.typesAt, Schema.typesAt_mapping, htype]
  exact List.mem_singleton_self u

theorem OnRoute.ofItems (h : m.OnRoute s path) (hne : path ≠ []) (i : Nat) :
    m.ofItems.OnRoute s (path ++ [.int i]) := by
  intro u hu
  obtain ⟨t, rfl, hitems⟩ := Option.bind_eq_some_iff.mp hu
  obtain ⟨p, count, hmem, -⟩ := TypeSpec.exists_of_seedItems? hitems
  rw [s.routes_concat hne]
  refine List.mem_flatMap.mpr ⟨t, h t rfl, List.mem_flatMap.mpr ⟨_, hmem, ?_⟩⟩
  rw [Node.typesAt, if_pos (by simp [Value.isIndex])]
  exact List.mem_singleton_self u

end Marker

/-! ## Tracing a walk -/

/-- **A value on its way through a walk**: the walk comes by it at the path `here`, marked, and what
is left of it stands at the path `there`, where the same is declared. -/
structure Schema.Traced (s : Schema) (data : Value) (here there : Path) (m : Marker)
    (v : Value) : Prop where
  supplied : s.Supplies data there v
  same : ∀ more, s.locate (here ++ more) = s.locate (there ++ more)
  named : m.All TypeSpec.wellNamed
  copied : v.everywhere Value.isCopied = true

namespace Schema.Traced

variable {s : Schema} {data : Value} {here there : Path} {m : Marker}

/-- **An entry of a marked map** is traced back to an entry, or is a key that is missing. -/
theorem entry {es : List (Value × Value)} (h : s.Traced data here there m (.map es))
    (hroute : ∀ key, (m.atKey key).OnRoute s (here ++ [key])) {k x : Value}
    (hx : (k, x) ∈ es.map (fun e => (e.1, (m.atKey e.1).mark e.2)) ++ m.missing es) :
    ∃ v, x = (m.atKey k).mark v ∧ s.Traced data (here ++ [k]) (there ++ [k]) (m.atKey k) v := by
  have hsame : ∀ more, s.locate (here ++ [k] ++ more) = s.locate (there ++ [k] ++ more) :=
    fun more => by simpa using h.same (k :: more)
  rcases List.mem_append.mp hx with hx | hx
  · obtain ⟨e, he, heq⟩ := List.mem_map.mp hx
    obtain ⟨rfl, rfl⟩ := Prod.mk.inj heq
    exact ⟨e.2, rfl, h.supplied.entry he, hsame, h.named.atKey e.1,
      (Value.everywhere_map.mp h.copied).2 e he⟩
  · obtain ⟨fs, name, t, hfs, hmem, hnew, heq⟩ := Marker.mem_missing.mp hx
    obtain ⟨rfl, rfl⟩ := Prod.mk.inj heq
    have htype : m.atKey (.text name) = some t := by
      rw [Marker.atKey, hfs]
      exact Fields.typeAt?_of_mem (h.named.nodup hfs) hmem
    have hdeclared : (s.locate (there ++ [.text name])).isSome = true := by
      rw [← h.same [.text name]]
      exact Marker.OnRoute.isSome_locate (htype ▸ hroute (.text name))
    exact ⟨.absent, (Marker.mark_of_leaf _ rfl).symm, h.supplied.missing hnew hdeclared, hsame,
      h.named.atKey _, rfl⟩

/-- **An item of a marked list** is traced back to an item. -/
theorem item {before after : List Value} {v : Value} {j : Nat}
    (h : s.Traced data here there m (.list (before ++ v :: after))) (hle : j ≤ before.length)
    (hmoved : before.length ≤ j + before.countP (fun u => !u.isPresent)) :
    s.Traced data (here ++ [.int before.length]) (there ++ [.int j]) m.ofItems v where
  supplied := h.supplied.item hle hmoved
  same more := by
    have hindex := s.locate_index there more before.length j
    have hself := h.same (.int before.length :: more)
    simpa using hself.trans hindex
  named := h.named.ofItems
  copied := (Value.everywhere_list.mp h.copied).2 v (by simp)

/-- A default that is put in is traced back to the schema. -/
theorem default {t : TypeSpec} {d : Value} (h : s.Traced data here there m .absent)
    (ht : s.locate here = some t) (hd : t.first.default? = some d)
    (hnamed : t.everyType TypeSpec.wellNamed = true)
    (hdefaults : t.everyType (TypeSpec.defaultsPass Value.isCopied) = true) :
    s.Traced data here there (some t) d where
  supplied := by
    have hthere := h.same []
    rw [List.append_nil, List.append_nil, ht] at hthere
    exact h.supplied.default hthere.symm hd
  same := h.same
  named := by
    rintro u ⟨⟩
    exact hnamed
  copied := TypeSpec.everywhere_of_default hdefaults hd

end Schema.Traced

/-- A container that is taken is the value itself, or the default that is put in. -/
theorem TypeSpec.Takes.eq_or_default {t : TypeSpec} {v x : Value} (h : t.Takes v (some x))
    (hx : x.isContainer = true) :
    x = v ∨ v = .absent ∧ ∃ d, t.first.default? = some d ∧ x = t.seed d := by
  cases h with
  | null h => cases hx
  | present h => exact .inl (h.eq_of_isContainer hx).symm
  | nullDefault h => cases hx
  | default hd _ h => exact .inr ⟨rfl, _, hd, (h.eq_of_isContainer hx).symm⟩

theorem Marker.isPresent_mark_eq (m : Marker) (v : Value) :
    (m.mark v).isPresent = v.isPresent := by
  have halike := m.mark_alike v
  generalize m.mark v = w at halike
  cases halike <;> rfl

namespace Course

variable {c : Course} {data : Value} {budget : Nat} {here there : Path} {m : Marker} {v w u : Value}

/-- **What a walk keeps of an undeclared value** is what is supplied there, sifted. -/
def KeepsSupplied (c : Course) (data : Value) (budget : Nat) : Prop :=
  ∀ here there m v w, c.schema.Traced data here there m v → m.OnRoute c.schema here → here ≠ [] →
    c.schema.depth < budget + here.length → (c.walk budget here (m.mark v)).Yields (some w) →
    ∀ more u, w.At more u → c.schema.locate (here ++ more) = none →
      ∃ x, c.schema.Supplies data (there ++ more) x ∧ u = x.withoutAbsent

/-- In a map, each undeclared value is one of its entries or stands below a declared one. -/
theorem KeepsSupplied.map (h : c.KeepsSupplied data budget) {es : List (Value × Value)}
    (htraced : c.schema.Traced data here there m (.map es))
    (hroute : ∀ key, (m.atKey key).OnRoute c.schema (here ++ [key]))
    (hbudget : c.schema.depth < budget + 1 + here.length)
    (hwalk : (walkMembers (c.walk budget) here (m.mark (.map es))).Yields w) {key : Value}
    {more : Path} (hat : w.At (key :: more) u)
    (hnone : c.schema.locate (here ++ key :: more) = none) :
    ∃ x, c.schema.Supplies data (there ++ key :: more) x ∧ u = x.withoutAbsent := by
  rw [m.mark_map htraced.named (Value.isCopied_map_iff.mp htraced.copied).1] at hwalk
  obtain ⟨es', hes', rfl⟩ := Walk.yields_map.mp hwalk
  obtain ⟨w, hw, hat⟩ := Value.map_at_cons.mp hat
  obtain ⟨x, hx, hmember⟩ := exists_of_mem_walkEntries (c.appends_walk budget) hes' hw
  obtain ⟨v, rfl, hentry⟩ := htraced.entry hroute hx
  rw [List.append_cons] at hnone ⊢
  exact h _ _ _ _ _ hentry (hroute key) (by simp) (depth_lt_of_member key hbudget) hmember _ _
    hat hnone

/-- In a list, what is left of an item may have moved ahead. -/
theorem KeepsSupplied.list (h : c.KeepsSupplied data budget) {vs : List Value}
    (htraced : c.schema.Traced data here there m (.list vs)) (hroute : m.OnRoute c.schema here)
    (hne : here ≠ []) (hbudget : c.schema.depth < budget + 1 + here.length) {y : Value}
    (hvisit : (c.visit here y).Yields (some (m.mark (.list vs))))
    (hwalk : (walkMembers (c.walk budget) here (m.mark (.list vs))).Yields w) {key : Value}
    {more : Path} (hat : w.At (key :: more) u)
    (hnone : c.schema.locate (here ++ key :: more) = none) :
    ∃ x, c.schema.Supplies data (there ++ key :: more) x ∧ u = x.withoutAbsent := by
  rw [m.mark_list] at hwalk hvisit
  obtain ⟨vs', hvs', rfl⟩ := Walk.yields_map.mp hwalk
  obtain ⟨j, w, rfl, hget, hat⟩ := Value.list_at_cons.mp hat
  obtain ⟨before', x, after', hsplit, hle, hmoved, hmember⟩ :=
    exists_of_getElem?_walkItems (c.appends_walk budget) hvs'
      (fun i x _ hx => not_walk_item_yields_none hne (depth_lt_of_member _ hbudget) hvisit hx) hget
  obtain ⟨before, rest, rfl, rfl, hrest⟩ := List.map_eq_append_iff.mp hsplit
  obtain ⟨v, after, rfl, rfl, rfl⟩ := List.map_eq_cons_iff.mp hrest
  rw [List.length_map] at hle hmoved hmember
  rw [List.countP_map] at hmoved
  simp only [Function.comp_def, Marker.isPresent_mark_eq] at hmoved
  rw [Nat.zero_add] at hmember
  -- the item was walked at its own index, under the same type as at the new one
  have hindex := c.schema.locate_index here more before.length j
  rw [hnone, List.append_cons] at hindex
  rw [List.append_cons]
  exact h _ _ _ _ _ (htraced.item hle hmoved) (hroute.ofItems hne before.length) (by simp)
    (depth_lt_of_member _ hbudget) hmember _ _ hat hindex

/-- What a visit makes a container of is traced: it is the value itself, or the default. -/
theorem exists_traced_of_visit (hnamed : c.schema.everyType TypeSpec.wellNamed = true)
    (hdefaults : c.schema.everyType (TypeSpec.defaultsPass Value.isCopied) = true)
    (htraced : c.schema.Traced data here there m v) (hroute : m.OnRoute c.schema here)
    {t : TypeSpec} (ht : c.schema.locate here = some t) {x : Value}
    (hvisit : (c.visit here (m.mark v)).Yields (some x)) (hx : x.isContainer = true) :
    ∃ m' v', x = Marker.mark m' v' ∧ c.schema.Traced data here there m' v' ∧
      Marker.OnRoute c.schema here m' := by
  rcases ((visit_yields_of_declared ht).mp hvisit).eq_or_default hx with rfl | ⟨hv, d, hd, rfl⟩
  · exact ⟨m, v, rfl, htraced, hroute⟩
  · have habsent : v = .absent := by
      have hpresent := m.isPresent_mark_eq v
      rw [hv] at hpresent
      cases v <;> first | rfl | cases hpresent
    subst habsent
    obtain ⟨ts, hts⟩ := Schema.exists_routes_eq_cons ht
    refine ⟨some t, d, rfl, htraced.default ht hd (Schema.everyType_of_locate hnamed ht)
      (Schema.everyType_of_locate hdefaults ht), ?_⟩
    rintro u ⟨⟩
    exact hts ▸ List.mem_cons_self

/-- An undeclared value is kept as a whole, unmarked. -/
theorem supplies_of_undeclared (htraced : c.schema.Traced data here there m v)
    (hroute : m.OnRoute c.schema here) (hne : here ≠ [])
    (hnone : c.schema.locate here = none)
    (hwalk : (c.walk budget here (m.mark v)).Yields (some w)) {more : Path} (hat : w.At more u) :
    ∃ x, c.schema.Supplies data (there ++ more) x ∧ u = x.withoutAbsent := by
  rw [hroute.eq_none hnone, walk_of_locate_eq_none hne hnone, Walk.yields_pure] at hwalk
  obtain ⟨x, hx, rfl⟩ := Option.map_eq_some_iff.mp hwalk
  obtain ⟨rfl, -, -⟩ := unknown_eq_some.mp hx
  exact htraced.supplied.withoutAbsent hat

/-- **What is kept of an undeclared value is what is supplied there**, in every walk. -/
theorem keepsSupplied (hnamed : c.schema.everyType TypeSpec.wellNamed = true)
    (hdefaults : c.schema.everyType (TypeSpec.defaultsPass Value.isCopied) = true)
    (data : Value) (budget : Nat) : c.KeepsSupplied data budget := by
  induction budget with
  | zero =>
    intro here there m v w htraced hroute hne hbudget hwalk more u hat _
    exact supplies_of_undeclared htraced hroute hne
      (Schema.locate_eq_none_of_depth_lt (Nat.zero_add here.length ▸ hbudget)) hwalk hat
  | succ budget ih =>
    intro here there m v w htraced hroute hne hbudget hwalk more u hat hnone
    cases ht : c.schema.locate here with
    | none => exact supplies_of_undeclared htraced hroute hne ht hwalk hat
    | some t =>
      rcases walk_succ_yields.mp hwalk with ⟨hw, -⟩ | ⟨x, w', hvisit, hmembers, hw'⟩
      · cases hw
      cases hw'
      cases more with
      | nil =>
        rw [List.append_nil, ht] at hnone
        cases hnone
      | cons key more =>
        have hx : x.isContainer = true := by
          cases x with
          | map es => rfl
          | list vs => rfl
          | _ =>
            cases Walk.yields_pure.mp hmembers
            cases hat
        obtain ⟨m', v', rfl, htraced', hroute'⟩ :=
          exists_traced_of_visit hnamed hdefaults htraced hroute ht hvisit hx
        cases v' with
        | map es =>
          exact ih.map htraced' (fun key => hroute'.atKey hne key) hbudget hmembers hat hnone
        | list vs => exact ih.list htraced' hroute' hne hbudget hvisit hmembers hat hnone
        | _ =>
          rw [Marker.mark_of_leaf _ rfl] at hx
          cases hx

end Course

/-! ## The two validations -/

section Validation

variable {fs : Fields} {o : Options} {data r : Value}

/-- **An undeclared value of a result** is what is supplied there, sifted and sorted. -/
theorem Fields.supplies_of_validate (hnames : (fs.map Prod.fst).Nodup)
    (hnamed : Fields.everyType TypeSpec.wellNamed fs = true)
    (hdefaults : Fields.everyType (TypeSpec.defaultsPass Value.isCopied) fs = true)
    (hdata : data.everywhere Value.isCopied = true) (h : fs.validate o data = .ok r)
    {path : Path} {u : Value} (hat : r.At path u) (hne : path ≠ [])
    (hnone : Fields.locate fs path = none) :
    ∃ v, (Schema.mapping fs).Supplies data path v ∧ u = o.arranged v.withoutAbsent := by
  let c : Course := ⟨.mapping fs, o⟩
  obtain ⟨es, w, hplain, hwalk, rfl⟩ := Fields.validate_eq_ok.mp h
  rw [Value.plain_eq_self hdata] at hplain
  cases hplain
  have htraced : c.schema.Traced (.map es) [] [] (some fs.asType) (.map es) :=
    ⟨.data, fun _ => rfl, Fields.wellNamed_asType hnames hnamed, hdata⟩
  have hroute : ∀ key, (Marker.atKey (some fs.asType) key).OnRoute c.schema ([] ++ [key]) := by
    intro key t ht
    show t ∈ (Schema.mapping fs).typesAt key
    rw [Schema.typesAt_mapping, show fs.typeAt? key = some t from ht]
    exact List.mem_singleton_self t
  have hwalked : ∀ x, w.At path x → ∃ v, c.schema.Supplies (.map es) path v ∧
      x = v.withoutAbsent := by
    intro x hx
    cases path with
    | nil => exact absurd rfl hne
    | cons key more =>
      exact (Course.keepsSupplied (c := c) hnamed hdefaults _ _).map htraced hroute
        (Nat.lt_succ_self _) hwalk hx hnone
  unfold Options.arranged
  split at hat
  next hsort =>
    simp only [if_pos hsort]
    obtain ⟨x, hx, rfl⟩ := Value.sortKeys_at.mp hat
    obtain ⟨v, hv, rfl⟩ := hwalked x hx
    exact ⟨v, hv, rfl⟩
  next hsort =>
    simp only [if_neg hsort]
    exact hwalked u hat

/-- The members of a union raise the same errors. -/
theorem validateMembers_stripping (o : Options) (data : Value) (ms : List Fields) :
    match validateMembers o.keeping data ms with
    | .ok (.inl _) => ∃ v, validateMembers o.stripping data ms = .ok (.inl v)
    | outcome => validateMembers o.stripping data ms = outcome := by
  induction ms with
  | nil => rfl
  | cons fs ms ih =>
    simp only [validateMembers_cons]
    cases hv : fs.validate o.keeping data with
    | ok v =>
      rw [Fields.validate_stripping hv]
      exact ⟨_, rfl⟩
    | error e =>
      rw [(Fields.validate_stripping_error_iff e).mp hv]
      cases e with
      | engine e => rfl
      | rejected z =>
        cases hms : validateMembers o.keeping data ms with
        | error e =>
          rw [hms] at ih
          rw [show validateMembers o.stripping data ms = .error e from ih]
          rfl
        | ok out =>
          rw [hms] at ih
          cases out with
          | inl v =>
            obtain ⟨v', hv'⟩ := ih
            rw [hv']
            exact ⟨v', rfl⟩
          | inr rs =>
            rw [show validateMembers o.stripping data ms = .ok (.inr rs) from ih]
            rfl

/-- **A schema raises the same errors** whether it keeps or drops what it does not declare. -/
theorem Schema.validate_stripping_error_iff (s : Schema) (e : Failure) :
    s.validate o.keeping data = .error e ↔ s.validate o.stripping data = .error e := by
  cases s with
  | mapping fs => exact Fields.validate_stripping_error_iff e
  | union fs gs hs =>
    have hmembers := validateMembers_stripping o data (fs :: gs :: hs)
    rw [Schema.validate_union, Schema.validate_union]
    cases hms : validateMembers o.keeping data (fs :: gs :: hs) with
    | error i =>
      rw [hms] at hmembers
      rw [show validateMembers o.stripping data (fs :: gs :: hs) = .error i from hmembers]
    | ok out =>
      rw [hms] at hmembers
      cases out with
      | inl v =>
        obtain ⟨v', hv'⟩ := hmembers
        rw [hv']
        constructor <;> rintro ⟨⟩
      | inr rs =>
        rw [show validateMembers o.stripping data (fs :: gs :: hs) = .ok (.inr rs) from hmembers]
        exact Iff.rfl

end Validation

/-- **Unknown keys do not interfere.** For a schema that has been read and whose defaults are
working copies that share no containers, and for data that is a working copy, the two validations
raise the same errors. If the one that keeps unknown keys returns, then both have selected the same
member: the one that drops them returns the same result, pruned, and what is kept at an undeclared
path is what the data or a default supplies there, but for marks of absence and the order of
keys. -/
theorem Schema.validateShared_unknown {d : RawDocument} {data : Value} {s : Schema}
    (hread : Schema.read d = .ok s) (hshare : s.everyType TypeSpec.sharesNothing = true)
    (hdefaults : s.everyType (TypeSpec.defaultsPass Value.isCopied) = true)
    (hdata : data.everywhere Value.isCopied = true) (o : Options) :
    (∀ e, s.validateShared o.keeping data = .error e ↔
      s.validateShared o.stripping data = .error e) ∧
    ∀ r, s.validateShared o.keeping data = .ok r →
      ∃ before, ∃ fs : Fields, ∃ after, s.members = before ++ fs :: after ∧
        (∀ gs ∈ before, ∃ z, Fields.validateShared gs o.keeping data = .error (.rejected z) ∧
          Fields.validateShared gs o.stripping data = .error (.rejected z)) ∧
        fs.validateShared o.keeping data = .ok r ∧
        fs.validateShared o.stripping data = .ok (r.pruned (.mapping fs) []) ∧
        s.validateShared o.stripping data = .ok (r.pruned (.mapping fs) []) ∧
        ∀ path u, r.At path u → path ≠ [] → Fields.locate fs path = none →
          ∃ v, (Schema.mapping fs).Supplies data path v ∧ u = o.arranged v.withoutAbsent := by
  have hsame : ∀ fs ∈ s.members, ∀ o, Fields.validateShared fs o data = Fields.validate fs o data :=
    fun fs hfs o => Fields.validateShared_eq_validate (Schema.everyType_of_mem hshare hfs) o data
  simp only [Schema.validateShared_eq_validate hshare]
  refine ⟨s.validate_stripping_error_iff, fun r hr => ?_⟩
  obtain ⟨before, fs, after, hsplit, hbefore, hfs⟩ := Schema.validate_eq_ok.mp hr
  have hmem : fs ∈ s.members := by simp [hsplit]
  have hrejected : ∀ gs ∈ before, ∃ z, Fields.validate gs o.keeping data = .error (.rejected z) ∧
      Fields.validate gs o.stripping data = .error (.rejected z) := fun gs hgs =>
    (hbefore gs hgs).imp (fun z hz => ⟨hz, (Fields.validate_stripping_error_iff _).mp hz⟩)
  have hstripped := Fields.validate_stripping hfs
  have hanswer : s.validate o.stripping data = .ok (r.pruned (.mapping fs) []) :=
    Schema.validate_eq_ok.mpr ⟨before, fs, after, hsplit,
      fun gs hgs => (hrejected gs hgs).imp (fun _ hz => hz.2), hstripped⟩
  refine ⟨before, fs, after, hsplit, fun gs hgs => ?_, (hsame fs hmem _).trans hfs,
    (hsame fs hmem _).trans hstripped, hanswer, fun path u hat hne hnone => ?_⟩
  · simp only [hsame gs (hsplit ▸ List.mem_append_left _ hgs)]
    exact hrejected gs hgs
  · obtain ⟨hnames, hnamed⟩ := Schema.names_of_wellNamed (Schema.wellNamed_of_mem
      (Schema.wellNamed_of_read d s hread) hmem)
    exact Fields.supplies_of_validate (o := o.keeping) hnames hnamed
      (everyType_of_mem hdefaults hmem) hdata hfs hat hne hnone

/-- The schema of a box, which has a size. -/
def Schema.boxDocument : Value := .map [(.text "size", .map [(.text "type", .text "number")])]

/-- A box with a note that the schema does not declare. The note has a list whose first item is
absent. -/
def Value.boxWithNote : Value :=
  .map [(.text "size", .int 1), (.text "note", .map [(.text "marks", .list [.absent, .int 2])])]

/-- The note is kept or dropped as a whole. In the kept one the second item has moved ahead. -/
theorem Schema.boxDocument_unknown : ∃ s : Schema, Schema.read boxDocument = .ok s ∧
    s.validateShared ({} : Options).keeping Value.boxWithNote = .ok (.map [(.text "size", .int 1),
      (.text "note", .map [(.text "marks", .list [.int 2])])]) ∧
    ∃ fs ∈ s.members,
      s.validateShared ({} : Options).stripping Value.boxWithNote =
        .ok (Value.pruned (.mapping fs) [] (.map [(.text "size", .int 1),
          (.text "note", .map [(.text "marks", .list [.int 2])])])) ∧
      ∃ v, (Schema.mapping fs).Supplies Value.boxWithNote
          [.text "note", .text "marks", .int (0 : Nat)] v ∧ .int 2 = v.withoutAbsent := by
  have hread : Schema.read boxDocument = .ok (.mapping [("size", .single (.number {} {}))]) := rfl
  have hkept : (Schema.mapping [("size", .single (.number {} {}))]).validateShared
      ({} : Options).keeping Value.boxWithNote = .ok (.map [(.text "size", .int 1),
        (.text "note", .map [(.text "marks", .list [.int 2])])]) := rfl
  obtain ⟨before, fs, after, hsplit, -, -, -, hstripped, hsupplied⟩ :=
    (Schema.validateShared_unknown hread rfl rfl rfl {}).2 _ hkept
  have hmem : fs ∈ (Schema.mapping [("size", .single (.number {} {}))]).members := by
    simp [hsplit]
  obtain rfl := List.mem_singleton.mp hmem
  refine ⟨_, hread, hkept, _, hmem, hstripped, ?_⟩
  exact hsupplied _ _ (.entry (List.mem_cons_of_mem _ List.mem_cons_self)
    (.entry List.mem_cons_self (.item rfl (.here _)))) (by simp) rfl

/-- An object that has two parts with a text each. By default both parts are one and the same map,
which has both of the texts. -/
def Schema.halves : Schema :=
  .mapping [("o", .single (.object
    { default? := some (some
        [("x", .map [(.text "a", .text "1"), (.text "b", .text "2")]),
          ("y", .map [(.text "a", .text "1"), (.text "b", .text "2")])]),
      sharing := [[[.text "x"], [.text "y"]]] }
    (.mapping [("x", .single (.object {} (.mapping [("a", .single (.string {} {}))]))),
      ("y", .single (.object {} (.mapping [("b", .single (.string {} {}))])))])))]

/-- The document that this schema is read from. -/
def Schema.halvesDocument : RawDocument where
  value := .map [(.text "o", .map [(.text "type", .text "object"),
    (.text "properties", .map [
      (.text "x", .map [(.text "type", .text "object"), (.text "properties",
        .map [(.text "a", .map [(.text "type", .text "string")])])]),
      (.text "y", .map [(.text "type", .text "object"), (.text "properties",
        .map [(.text "b", .map [(.text "type", .text "string")])])])]),
    (.text "default", .map [
      (.text "x", .map [(.text "a", .text "1"), (.text "b", .text "2")]),
      (.text "y", .map [(.text "a", .text "1"), (.text "b", .text "2")])])])]
  sharing := [[[.text "o", .text "default", .text "x"], [.text "o", .text "default", .text "y"]]]

/-- **What is dropped in one place is missing in the other** where a default shares a container,
even a plain one: each place drops the text that the other declares, and neither of the two texts is
left. -/
theorem Schema.halves_not_pruned :
    ¬ ∀ (d : RawDocument) (data r : Value) (s : Schema) (o : Options), Schema.read d = .ok s →
      s.everyType (TypeSpec.defaultsPass Value.isPlain) = true →
      data.everywhere Value.isPlain = true → s.validateShared o.keeping data = .ok r →
      ∃ fs ∈ s.members, s.validateShared o.stripping data = .ok (r.pruned (.mapping fs) []) := by
  intro hpruned
  have hstripped : Schema.halves.validateShared ({} : Options).stripping (.map []) =
      .ok (.map [(.text "o", .map [(.text "x", .map []), (.text "y", .map [])])]) := rfl
  obtain ⟨fs, hfs, hsame⟩ := hpruned Schema.halvesDocument (.map []) _ Schema.halves {} rfl rfl rfl
    rfl
  obtain rfl := List.mem_singleton.mp hfs
  rw [hstripped] at hsame
  cases hsame

end Conform
