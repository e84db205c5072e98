import Conform.Proofs.Marking
import Conform.Proofs.Unshared

/-!
# What validation settles

A value is checked when the walk comes to it, before its members are walked, and the members may
still change: texts and dates take their normal forms, defaults come in, and what is not declared
is dropped. None of this undoes the check. A map stays a map, a list keeps its length, and a value
that takes its normal form still resolves to the candidate that has accepted it. So every value of
the result is admitted by the type that governs its path (`Fields.admits_of_validateShared`),
whatever the unions of the schema are.

This needs every value to be a value by itself. A container that a default holds in two places is
normalized at both of them, and what the one has settled the other undoes
(`Fields.twins_not_admitted`).

The lengths of lists need an assumption, for an absent item is dropped wherever it is not declared:
there are no marks of absence among the items of the data and of the defaults. Under it the items of
a list stay in their places, and the invariant of the walk can be said in terms of the result alone
(`Course.Settled`).
-/

namespace Conform

/-! ## Values of one shape -/

/-- **Values of one shape**: maps, lists of one length, or one and the same value. -/
inductive Value.Alike : Value → Value → Prop
  | map (es fs : List (Value × Value)) : Alike (.map es) (.map fs)
  | list {vs ws : List Value} (h : vs.length = ws.length) : Alike (.list vs) (.list ws)
  | refl (v : Value) : Alike v v

/-- The normal form of a container is the container. -/
theorem Node.Accepts.eq_of_isContainer {n : Node} {v w : Value} (h : n.Accepts v w)
    (hw : w.isContainer = true) : v = w := by
  cases h with
  | object => rfl
  | array => rfl
  | _ => cases hw

namespace Value

theorem Alike.matches_eq {v w : Value} (h : Alike v w) (n : Node) : n.matches v = n.matches w := by
  cases h with
  | map es fs => rw [n.matches_map, n.matches_map]
  | list h => rw [n.matches_list, n.matches_list]
  | refl => rfl

/-- What is said of a value in terms of its shape is said of what has the same shape. -/
theorem Alike.admits {v w : Value} (h : Alike v w) {n : Node} (hv : n.Admits v) : n.Admits w := by
  cases h with
  | map es fs =>
    cases hv with
    | object => exact .object
  | list h =>
    cases hv with
    | array hc => exact .array (h ▸ hc)
  | refl => exact hv

theorem sortKeys_alike (v : Value) : Alike v v.sortKeys := by
  cases v with
  | map es => exact .map _ _
  | list vs => exact .list (by rw [sortItems_eq_map, List.length_map])
  | _ => exact .refl _

end Value

theorem TypeSpec.Admits.of_alike {t : TypeSpec} {v w : Value} (h : t.Admits v)
    (hvw : Value.Alike v w) : t.Admits w := by
  have habsent := h.ne_absent
  cases hvw with
  | refl => exact h
  | map es fs =>
    rcases h with ⟨h, -⟩ | ⟨hmatches, h⟩
    · cases h
    · have hshape : Value.Alike (.map es) (.map fs) := .map es fs
      rw [resolve_congr habsent (by simp) hshape.matches_eq] at hmatches h
      exact .inr ⟨hshape.matches_eq _ ▸ hmatches, hshape.admits h⟩
  | @list vs ws hlen =>
    rcases h with ⟨h, -⟩ | ⟨hmatches, h⟩
    · cases h
    · have hshape : Value.Alike (.list vs) (.list ws) := .list hlen
      rw [resolve_congr habsent (by simp) hshape.matches_eq] at hmatches h
      exact .inr ⟨hshape.matches_eq _ ▸ hmatches, hshape.admits h⟩

/-! ## Defaults -/

/-- Whether the defaults of a type pass a test at every depth. -/
def TypeSpec.defaultsPass (p : Value → Bool) (t : TypeSpec) : Bool :=
  t.candidates.all (fun n => n.default?.all (fun d => d.everywhere p))

theorem TypeSpec.defaultsPass_mono {p q : Value → Bool} (hpq : ∀ u, p u = true → q u = true)
    {t : TypeSpec} (h : t.defaultsPass p = true) : t.defaultsPass q = true := by
  refine List.all_eq_true.mpr (fun n hn => ?_)
  have hn := List.all_eq_true.mp h n hn
  cases hd : n.default? with
  | none => rfl
  | some d =>
    rw [hd] at hn
    exact Value.everywhere_mono hpq hn

theorem TypeSpec.everywhere_of_default {p : Value → Bool} {t : TypeSpec}
    (h : t.everyType (defaultsPass p) = true) {d : Value} (hd : t.first.default? = some d) :
    d.everywhere p = true := by
  have hfirst := List.all_eq_true.mp (self_of_everyType h) _ t.first_mem
  rwa [hd] at hfirst

/-- The normal form of a value passes what the value passes. -/
theorem Node.Accepts.everywhere {p : Value → Bool} (htext : ∀ s, p (.text s) = true)
    (hdate : ∀ d, p (.dateTime d) = true) {n : Node} {v w : Value} (h : n.Accepts v w)
    (hv : v.everywhere p = true) : w.everywhere p = true := by
  cases h with
  | string h => exact htext _
  | date hi h => exact hdate _
  | _ => exact hv

/-- **What is taken passes** what the value passes, and the default where it is put in. -/
theorem TypeSpec.Takes.everywhere {p : Value → Bool} (hnull : p .null = true)
    (htext : ∀ s, p (.text s) = true) (hdate : ∀ d, p (.dateTime d) = true) {t : TypeSpec}
    (hdefault : ∀ d, t.first.default? = some d → (t.seed d).everywhere p = true) {v w : Value}
    (h : t.Takes v (some w)) (hv : v.everywhere p = true) : w.everywhere p = true := by
  cases h with
  | null h => exact hnull
  | present h => exact h.everywhere htext hdate hv
  | nullDefault h => exact hnull
  | default hd _ h => exact h.everywhere htext hdate (hdefault _ hd)

/-! ## Visits that change nothing -/

namespace Course

variable {c : Course} {path : Path}

theorem visit_yields_of_declared {t : TypeSpec} (h : c.schema.locate path = some t) {v : Value}
    {child : Option Value} : (c.visit path v).Yields child ↔ t.Takes v child := by
  rw [visit_yields, h]
  exact apply_eq_ok_iff

theorem visit_yields_of_undeclared (h : c.schema.locate path = none) {v : Value}
    {child : Option Value} : (c.visit path v).Yields child ↔ c.unknown v = child := by
  rw [visit_yields, h]

/-- What a visit yields passes what the value passes, and the default where it is put in. -/
theorem everywhere_of_visit {p : Value → Bool} (hnull : p .null = true)
    (htext : ∀ s, p (.text s) = true) (hdate : ∀ d, p (.dateTime d) = true)
    (hdefault : ∀ t d, c.schema.locate path = some t → t.first.default? = some d →
      (t.seed d).everywhere p = true) {v w : Value} (h : (c.visit path v).Yields (some w))
    (hv : v.everywhere p = true) : w.everywhere p = true := by
  cases ht : c.schema.locate path with
  | none =>
    rw [visit_yields_of_undeclared ht, unknown_eq_some] at h
    exact h.1 ▸ hv
  | some t =>
    rw [visit_yields_of_declared ht] at h
    exact h.everywhere hnull htext hdate (fun d => hdefault t d ht) hv

/-- **What has the shape of a visited value** is left as it is by another visit. -/
theorem visit_self_of_alike {v x u : Value} (h : (c.visit path v).Yields (some x))
    (hxu : Value.Alike x u) : (c.visit path u).Yields (some u) := by
  cases ht : c.schema.locate path with
  | none =>
    rw [visit_yields_of_undeclared ht, unknown_eq_some] at h ⊢
    obtain ⟨rfl, hpresent, hstrip⟩ := h
    refine ⟨rfl, ?_, hstrip⟩
    cases hxu with
    | refl => exact hpresent
    | _ => rfl
  | some t =>
    rw [visit_yields_of_declared ht] at h ⊢
    exact (h.admits.of_alike hxu).takes

/-- Only what is absent is dropped at a declared path. -/
theorem not_visit_yields_none {t : TypeSpec} (h : c.schema.locate path = some t) {v : Value}
    (hv : v.isPresent = true) : ¬ (c.visit path v).Yields none := by
  rw [visit_yields_of_declared h]
  intro hnone
  rw [hnone.eq_absent.1] at hv
  cases hv

/-- A list is visited only where its items are declared, or nothing is. -/
theorem locate_item {v : Value} {vs : List Value}
    (h : (c.visit path v).Yields (some (.list vs))) (i : Nat) :
    (∃ t, c.schema.locate (path ++ [.int i]) = some t) ∨
      (c.schema.locate path = none ∧ c.options.stripUnknown = false) := by
  cases ht : c.schema.locate path with
  | none =>
    rw [visit_yields_of_undeclared ht, unknown_eq_some] at h
    exact .inr ⟨rfl, h.2.2⟩
  | some t =>
    rw [visit_yields_of_declared ht] at h
    rcases h.admits with ⟨h, -⟩ | ⟨-, h⟩
    · cases h
    · refine .inl (Option.isSome_iff_exists.mp (Schema.locate_concat_isSome ht ?_))
      -- the candidate that admits the list declares its items
      have hmem := t.resolve_mem (.list vs)
      generalize t.resolve (.list vs) = n at h hmem
      cases h with
      | @array p u count _ _ =>
        have hitem : u ∈ t.typesAt (.int i) := List.mem_flatMap.mpr ⟨_, hmem, by
          rw [Node.typesAt, if_pos (by simp [Value.isIndex])]
          exact List.mem_singleton_self u⟩
        exact List.ne_nil_of_mem hitem

/-! ## The invariant of the walk -/

/-- **A settled value**: visiting it and the values in it, each at its own path, leaves all of them
as they are. -/
def Settled (c : Course) (path : Path) (v : Value) : Prop :=
  ∀ more u, v.At more u → (c.visit (path ++ more) u).Yields (some u)

theorem settled_map_iff {es : List (Value × Value)} : c.Settled path (.map es) ↔
    (c.visit path (.map es)).Yields (some (.map es)) ∧ ∀ e ∈ es, c.Settled (path ++ [e.1]) e.2 := by
  constructor
  · intro h
    refine ⟨by simpa using h [] _ (.here _), fun e he more u hu => ?_⟩
    rw [List.append_assoc]
    exact h (e.1 :: more) u (.entry he hu)
  · rintro ⟨hself, h⟩ more u hu
    cases hu with
    | here => simpa using hself
    | entry hmem hu =>
      have hu := h _ hmem _ _ hu
      rwa [List.append_assoc] at hu

theorem settled_list_iff {vs : List Value} : c.Settled path (.list vs) ↔
    (c.visit path (.list vs)).Yields (some (.list vs)) ∧
      ∀ (i : Nat) v, vs[i]? = some v → c.Settled (path ++ [.int i]) v := by
  constructor
  · intro h
    refine ⟨by simpa using h [] _ (.here _), fun i v hv more u hu => ?_⟩
    rw [List.append_assoc]
    exact h (.int i :: more) u (.item hv hu)
  · rintro ⟨hself, h⟩ more u hu
    cases hu with
    | here => simpa using hself
    | item hget hu =>
      have hu := h _ _ hget _ _ hu
      rwa [List.append_assoc] at hu

theorem settled_leaf_iff {v : Value} (h : v.isContainer = false) :
    c.Settled path v ↔ (c.visit path v).Yields (some v) := by
  constructor
  · intro hv
    simpa using hv [] v (.here v)
  · intro hv more u hu
    cases hu with
    | here => simpa using hv
    | entry => cases h
    | item => cases h

/-- What is left of an undeclared value is settled. -/
theorem settled_of_undeclared (hne : path ≠ []) (h : c.schema.locate path = none)
    (hstrip : c.options.stripUnknown = false) {v : Value}
    (hv : v.everywhere Value.isPresent = true) : c.Settled path v := by
  intro more u hu
  rw [visit_yields_of_undeclared (Schema.locate_append_eq_none hne h more), unknown_eq_some]
  exact ⟨rfl, Value.everywhere_iff.mp hv more u hu, hstrip⟩

/-- **No item of a visited list is dropped**, unless it is absent. -/
theorem not_walk_item_yields_none {budget : Nat} {i : Nat} {v x : Value} {vs : List Value}
    (hne : path ≠ []) (hbudget : c.schema.depth < budget + (path ++ [Value.int i]).length)
    (hvisit : (c.visit path v).Yields (some (.list vs))) (hx : x.isPresent = true) :
    ¬ (c.walk budget (path ++ [.int i]) x).Yields none := by
  intro hnone
  rcases locate_item hvisit i with ⟨t, ht⟩ | ⟨hlocate, hstrip⟩
  · have hdepth := Schema.depth_le_of_locate ht
    obtain ⟨budget, rfl⟩ : ∃ b, budget = b + 1 := ⟨budget - 1, by omega⟩
    rcases walk_succ_yields.mp hnone with ⟨-, hdrop⟩ | ⟨w, w', -, -, hw'⟩
    · exact not_visit_yields_none ht hx hdrop
    · cases hw'
  · rw [walk_of_locate_eq_none (by simp) (Schema.locate_append_eq_none hne hlocate _),
      Walk.yields_pure, Option.map_eq_none_iff] at hnone
    rw [unknown_eq_some.mpr ⟨rfl, hx, hstrip⟩] at hnone
    cases hnone

/-- A member has one key more on its path and one step less to go. -/
theorem depth_lt_of_member {budget : Nat} (key : Value)
    (h : c.schema.depth < budget + 1 + path.length) :
    c.schema.depth < budget + (path ++ [key]).length := by
  rw [List.length_append, List.length_singleton]
  omega

/-- **What a walk yields is settled.** The budget may not run out before the schema does, and no
mark of absence may stand among the items of lists. -/
theorem settled_of_walk
    (hdefaults : c.schema.everyType (TypeSpec.defaultsPass Value.itemsPresent) = true)
    {budget : Nat} {v w : Value} (hne : path ≠ []) (hbudget : c.schema.depth < budget + path.length)
    (hitems : v.everywhere Value.itemsPresent = true)
    (h : (c.walk budget path v).Yields (some w)) : c.Settled path w := by
  induction budget generalizing path v w with
  | zero =>
    have hnone := Schema.locate_eq_none_of_depth_lt (Nat.zero_add path.length ▸ hbudget)
    rw [walk_of_locate_eq_none hne hnone, Walk.yields_pure] at h
    obtain ⟨u, hu, rfl⟩ := Option.map_eq_some_iff.mp h
    obtain ⟨rfl, hpresent, hstrip⟩ := unknown_eq_some.mp hu
    exact settled_of_undeclared hne hnone hstrip (Value.isPresent_withoutAbsent hpresent)
  | succ budget ih =>
    rcases walk_succ_yields.mp h with ⟨h, -⟩ | ⟨x, x', hvisit, hmembers, hx'⟩
    · cases h
    cases hx'
    have hx : x.everywhere Value.itemsPresent = true :=
      everywhere_of_visit rfl (fun _ => rfl) (fun _ => rfl)
        (fun t d ht hd => t.itemsPresent_seed _
          (TypeSpec.everywhere_of_default (Schema.everyType_of_locate hdefaults ht) hd))
        hvisit hitems
    have happends := c.appends_walk budget
    cases x with
    | map es =>
      obtain ⟨es', hes', rfl⟩ := Walk.yields_map.mp hmembers
      refine settled_map_iff.mpr ⟨visit_self_of_alike hvisit (.map es es'), fun e he => ?_⟩
      obtain ⟨u, hu, hwalk⟩ := exists_of_mem_walkEntries happends hes' he
      exact ih (by simp) (depth_lt_of_member e.1 hbudget) ((Value.everywhere_map.mp hx).2 _ hu)
        hwalk
    | list vs =>
      obtain ⟨hself, hvs⟩ := Value.everywhere_list.mp hx
      obtain ⟨vs', rfl, hlen, hpoint⟩ := walkMembers_list_yields happends hmembers
        (fun i v hv => not_walk_item_yields_none hne (depth_lt_of_member _ hbudget) hvisit
          (List.all_eq_true.mp hself v (List.mem_of_getElem? hv)))
      refine settled_list_iff.mpr ⟨visit_self_of_alike hvisit (.list hlen), fun i w hw => ?_⟩
      obtain ⟨v, hv⟩ := exists_getElem?_of_length_eq hlen.symm hw
      exact ih (by simp) (depth_lt_of_member _ hbudget) (hvs v (List.mem_of_getElem? hv))
        (hpoint i v w hv hw)
    | _ =>
      cases Walk.yields_pure.mp hmembers
      exact (settled_leaf_iff rfl).mpr (visit_self_of_alike hvisit (.refl _))

end Course

/-! ## Results -/

theorem Options.conclude_eq_ok {o : Options}
    {outcome : Except Interruption (Value × List Violation)} {r : Value} :
    o.conclude outcome = .ok r ↔
      ∃ v, outcome = .ok (v, []) ∧ r = if o.sortKeys then v.sortKeys else v := by
  constructor
  · intro h
    cases outcome with
    | error e => cases e <;> cases h
    | ok out =>
      obtain ⟨v, notes⟩ := out
      cases notes with
      | nil => exact ⟨v, rfl, (Except.ok.inj h).symm⟩
      | cons => cases h
  · rintro ⟨v, rfl, rfl⟩
    rfl

section Copies

variable {fs : Fields} {o : Options} {data r : Value}

/-- What comes of the working copy of data, if it is a map that a walk goes over. -/
theorem Options.conclude_copy_eq_ok {walk : List (Value × Value) → Walk Value} :
    (match data.plain with
      | .error e => throw (.engine (.notIterable e))
      | .ok (.map es) => o.conclude ((walk es).run [])
      | .ok _ => throw (.rejected (.ofRoot o.catalog .objectType)) : Validated) = .ok r ↔
      ∃ es v, data.plain = .ok (.map es) ∧ (walk es).Yields v ∧
        r = if o.sortKeys then v.sortKeys else v := by
  cases data.plain with
  | error e => exact ⟨nofun, nofun⟩
  | ok w =>
    cases w with
    | map es =>
      refine conclude_eq_ok.trans ⟨fun ⟨v, hv, hr⟩ => ⟨es, v, rfl, hv, hr⟩, ?_⟩
      rintro ⟨es', v, ⟨⟩, hv, hr⟩
      exact ⟨v, hv, hr⟩
    | _ => exact ⟨nofun, nofun⟩

/-- **A validation returns** what the walk over the marked working copy yields, with its keys sorted
if that is asked for. -/
theorem Fields.validate_eq_ok : fs.validate o data = .ok r ↔
    ∃ es v, data.plain = .ok (.map es) ∧
      ((⟨.mapping fs, o⟩ : Course).walkRoot (Fields.seed fs es)).Yields v ∧
      r = if o.sortKeys then v.sortKeys else v := Options.conclude_copy_eq_ok

theorem Fields.validateShared_eq_ok : fs.validateShared o data = .ok r ↔
    ∃ es v, data.plain = .ok (.map es) ∧
      ((⟨.mapping fs, o⟩ : Course).walkShared (Fields.seed fs es)).Yields v ∧
      r = if o.sortKeys then v.sortKeys else v := Options.conclude_copy_eq_ok

end Copies

section Union

variable {validate : Fields → Validated} {o : Options} {data r : Value}

/-- One member after the other is asked, as long as they reject the data. -/
theorem tryMembers_cons_eq_inl {fs : Fields} {ms : List Fields} :
    tryMembers validate (fs :: ms) = .ok (.inl r) ↔ validate fs = .ok r ∨
      (∃ z, validate fs = .error (.rejected z)) ∧ tryMembers validate ms = .ok (.inl r) := by
  rw [tryMembers]
  cases hfs : validate fs with
  | ok v => simp [pure, Except.pure]
  | error e =>
    cases e with
    | engine e => simp [throw, throwThe, MonadExceptOf.throw]
    | rejected z =>
      cases hms : tryMembers validate ms with
      | error e => simp [bind, Except.bind]
      | ok out => cases out <;> simp [bind, Except.bind, pure, Except.pure]

/-- The members of a union answer with the result of the first that accepts the data. -/
theorem tryMembers_eq_inl {ms : List Fields} : tryMembers validate ms = .ok (.inl r) ↔
    ∃ before fs after, ms = before ++ fs :: after ∧
      (∀ gs ∈ before, ∃ z, validate gs = .error (.rejected z)) ∧ validate fs = .ok r := by
  induction ms with
  | nil =>
    constructor
    · rintro ⟨⟩
    · rintro ⟨before, fs, after, hsplit, -⟩
      simp at hsplit
  | cons fs ms ih =>
    rw [tryMembers_cons_eq_inl, ih]
    constructor
    · rintro (hfs | ⟨hrejects, before, gs, after, rfl, hbefore, hgs⟩)
      · exact ⟨[], fs, ms, rfl, List.forall_mem_nil _, hfs⟩
      · exact ⟨fs :: before, gs, after, rfl, List.forall_mem_cons.mpr ⟨hrejects, hbefore⟩, hgs⟩
    · rintro ⟨before, gs, after, hsplit, hbefore, hgs⟩
      cases before with
      | nil =>
        obtain ⟨rfl, rfl⟩ := List.cons.inj hsplit
        exact .inl hgs
      | cons fs' before =>
        obtain ⟨rfl, rfl⟩ := List.cons.inj hsplit
        rw [List.forall_mem_cons] at hbefore
        exact .inr ⟨hbefore.1, before, gs, after, rfl, hbefore.2, hgs⟩

/-- **A schema returns** what the first of its members that accepts the data returns, however a
member validates. -/
theorem Schema.validateBy_eq_ok {s : Schema} : s.validateBy validate o = .ok r ↔
    ∃ before fs after, s.members = before ++ fs :: after ∧
      (∀ gs ∈ before, ∃ z, validate gs = .error (.rejected z)) ∧ validate fs = .ok r := by
  cases s with
  | mapping fs =>
    constructor
    · exact fun h => ⟨[], fs, [], rfl, List.forall_mem_nil _, h⟩
    · rintro ⟨before, gs, after, hsplit, -, h⟩
      have hsplit : [fs] = before ++ gs :: after := hsplit
      have hmem : gs ∈ [fs] := by simp [hsplit]
      rw [List.mem_singleton.mp hmem] at h
      exact h
  | union fs gs hs =>
    rw [show (Schema.union fs gs hs).members = fs :: gs :: hs from rfl, ← tryMembers_eq_inl,
      Schema.validateBy]
    cases tryMembers validate (fs :: gs :: hs) with
    | error e => constructor <;> rintro ⟨⟩
    | ok out =>
      cases out with
      | inl v => exact ⟨fun h => by cases h; rfl, fun h => by cases h; rfl⟩
      | inr rs => constructor <;> rintro ⟨⟩

theorem Schema.validate_eq_ok {s : Schema} : s.validate o data = .ok r ↔
    ∃ before fs after, s.members = before ++ fs :: after ∧
      (∀ gs ∈ before, ∃ z, gs.validate o data = .error (.rejected z)) ∧
      fs.validate o data = .ok r := Schema.validateBy_eq_ok

end Union

/-- Every value that the walk of the root yields is settled, the root apart. -/
theorem Course.settled_of_walkRoot {c : Course} {es : List (Value × Value)} {v : Value}
    (hdefaults : c.schema.everyType (TypeSpec.defaultsPass Value.itemsPresent) = true)
    (hitems : ∀ e ∈ es, e.2.everywhere Value.itemsPresent = true)
    (h : (c.walkRoot es).Yields v) :
    ∃ es', v = .map es' ∧ ∀ e ∈ es', c.Settled [e.1] e.2 := by
  obtain ⟨es', hes', rfl⟩ := Walk.yields_map.mp h
  refine ⟨es', rfl, fun e he => ?_⟩
  obtain ⟨u, hu, hwalk⟩ := exists_of_mem_walkEntries (c.appends_walk _) hes' he
  exact settled_of_walk hdefaults (by simp) (by simp) (hitems _ hu) hwalk

/-- **Every declared value of a result is admitted by the type that governs its path**, provided
that no default shares a container, and that no mark of absence stands among the items of a list, in
the working copy of the data or in a default. A point in time of columnar data is no date-time, and
there must not be one in a default. -/
theorem Fields.admits_of_validateShared {fs : Fields} {o : Options} {data r : Value}
    (hshare : Fields.everyType TypeSpec.sharesNothing fs = true)
    (hitems : ∀ w, data.plain = .ok w → w.everywhere Value.itemsPresent = true)
    (hdefaults : Fields.everyType
      (TypeSpec.defaultsPass fun d => d.itemsPresent && d.isTimely) fs = true)
    (h : fs.validateShared o data = .ok r) {path : Path} {v : Value} {t : TypeSpec}
    (hv : r.At path v) (ht : Fields.locate fs path = some t) : t.Admits v := by
  rw [Fields.validateShared_eq_validate hshare] at h
  obtain ⟨es, w, hplain, hwalk, rfl⟩ := Fields.validate_eq_ok.mp h
  have hseed := Fields.itemsPresent_seed fs es (Value.everywhere_map.mp (hitems _ hplain)).2
  have hpresent : (Schema.mapping fs).everyType (TypeSpec.defaultsPass Value.itemsPresent) = true :=
    Schema.everyType_mono (fun t => TypeSpec.defaultsPass_mono
      (fun d hd => (Bool.and_eq_true_iff.mp hd).1)) hdefaults
  obtain ⟨es', rfl, hsettled⟩ :=
    Course.settled_of_walkRoot (c := ⟨.mapping fs, o⟩) hpresent hseed hwalk
  have hadmits : ∀ u, (Value.map es').At path u → t.Admits u := by
    intro u hu
    cases hu with
    | here =>
      rw [show Fields.locate fs [] = (Schema.mapping fs).locate [] from rfl,
        Schema.locate_eq_head?_routes] at ht
      cases ht
    | @entry _ k w _ rest hmem hu =>
      have hvisit := hsettled _ hmem _ _ hu
      exact ((Course.visit_yields_of_declared (c := ⟨.mapping fs, o⟩) ht).mp hvisit).admits
  split at hv
  · obtain ⟨u, hu, rfl⟩ := Value.sortKeys_at.mp hv
    exact (hadmits u hu).of_alike u.sortKeys_alike
  · exact hadmits v hv

/-- A day, given as a date or else as a text in small letters. -/
def TypeSpec.dayOrText : TypeSpec :=
  .union (.date {} {}) (.string {} { lowercase := true }) []

/-- A text that spells a day becomes a date-time, which is no text any more, and is still admitted
by the union that has accepted the text. -/
theorem TypeSpec.dayOrText_admits :
    ∃ t : DateTime, Fields.validateShared [("day", dayOrText)] {}
        (.map [(.text "day", .text " 2024-02-29 ")]) = .ok (.map [(.text "day", .dateTime t)]) ∧
      dayOrText.Admits (.dateTime t) := by
  have hitems : ∀ w, (Value.map [(.text "day", .text " 2024-02-29 ")]).plain = .ok w →
      w.everywhere Value.itemsPresent = true := by
    rintro w ⟨⟩
    rfl
  have hdefaults : Fields.everyType (defaultsPass fun d => d.itemsPresent && d.isTimely)
      [("day", dayOrText)] = true := rfl
  have hshare : Fields.everyType sharesNothing [("day", dayOrText)] = true := rfl
  obtain ⟨t, h⟩ : ∃ t : DateTime, Fields.validateShared [("day", dayOrText)] {}
      (.map [(.text "day", .text " 2024-02-29 ")]) = .ok (.map [(.text "day", .dateTime t)]) := by
    rw [Fields.validateShared_eq_validate hshare]
    exact ⟨_, rfl⟩
  exact ⟨t, h, Fields.admits_of_validateShared hshare hitems hdefaults h
    (.entry List.mem_cons_self (.here _)) rfl⟩

/-! ## One container in two places -/

/-- An object whose fields have a text each, the one in capitals and the other in small letters. By
default both are one and the same map. -/
def Fields.twins : Fields :=
  [("o", .single (.object
    { default? := some (some [("x", .map [(.text "a", .text "Ab")]),
        ("y", .map [(.text "a", .text "Ab")])]),
      sharing := [[[.text "x"], [.text "y"]]] }
    (.mapping [
      ("x", .single (.object {}
        (.mapping [("a", .single (.string {} { uppercase := true }))]))),
      ("y", .single (.object {}
        (.mapping [("a", .single (.string {} { lowercase := true }))])))])))]

/-- The document that these fields are read from, in which the default of the second field is an
alias for the default of the first. -/
def Schema.twinsDocument : RawDocument where
  value := .map [(.text "o", .map [(.text "type", .text "object"),
    (.text "properties", .map [
      (.text "x", .map [(.text "type", .text "object"), (.text "properties", .map [(.text "a",
        .map [(.text "type", .text "string"), (.text "uppercase", .bool true)])])]),
      (.text "y", .map [(.text "type", .text "object"), (.text "properties", .map [(.text "a",
        .map [(.text "type", .text "string"), (.text "lowercase", .bool true)])])])]),
    (.text "default", .map [(.text "x", .map [(.text "a", .text "Ab")]),
      (.text "y", .map [(.text "a", .text "Ab")])])])]
  sharing := [[[.text "o", .text "default", .text "x"], [.text "o", .text "default", .text "y"]]]

/-- What the fields make of nothing: the text is in capitals when the walk has come to the first
place of the map, and in small letters when it has come to the second. -/
def Value.twins : Value :=
  .map [(.text "o", .map [(.text "x", .map [(.text "a", .text "ab")]),
    (.text "y", .map [(.text "a", .text "ab")])])]

/-- **A shared container is not settled** by the type of its first place, not even for plain data
and defaults: the text that should be in capitals is in small letters. -/
theorem Fields.twins_not_admitted :
    ¬ ∀ (d : RawDocument) (fs : Fields) (o : Options) (data r : Value),
      Schema.read d = .ok (.mapping fs) →
      Fields.everyType (TypeSpec.defaultsPass Value.isPlain) fs = true →
      data.everywhere Value.isPlain = true → fs.validateShared o data = .ok r →
      ∀ path v t, r.At path v → Fields.locate fs path = some t → t.Admits v := by
  intro hadmits
  have hat : Value.twins.At [.text "o", .text "x", .text "a"] (.text "ab") :=
    .entry List.mem_cons_self (.entry List.mem_cons_self (.entry List.mem_cons_self (.here _)))
  have hcapitals := hadmits Schema.twinsDocument Fields.twins {} (.map []) Value.twins rfl rfl rfl
    rfl _ _ _ hat rfl
  rcases hcapitals with ⟨hnull, -⟩ | ⟨-, ⟨hstring⟩⟩
  · cases hnull
  · have hcase : "AB" = "ab" := hstring.normal
    exact absurd hcase (by decide)

end Conform
