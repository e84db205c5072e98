import Conform.Proofs.Descent

/-!
# Walking and descending agree

A walk looks up the type of every path that it visits; a descent takes the type along. Both end in
the same way for schemas in which a path can be read in one way only
(`Fields.validateShared_eq_conform`): the fields of every object are a mapping, and among the
candidates of a type there is one object or array at most (`TypeSpec.isDirect`). Then the routes to
a path below a type are those that its one object or array declares, so that the type found from the
root is the one that the descent has reached. For such a type marking is predictable as well: the
marks of a map are those of the one mapping that the map can be read by, and each stands for a field
that the descent finds missing.

What makes the walk differ from the descent on the way is that a default is marked before it is
walked. A default that is there from the start would be marked too, so an absent field is walked
like its marked default (`Course.walk_absent_run`).

A descent makes something new of every value, and a walk changes what it finds. So the two differ
where one container of a default is found in two places (`Fields.twins_not_conformed`).
-/

namespace Conform

/-! ## Types that can be read in one way -/

/-- Whether a node describes values that hold others. -/
def Node.isComposite : Node → Bool
  | .object .. | .array .. => true
  | _ => false

namespace TypeSpec

/-- The candidates that describe values that hold others. -/
def composites (t : TypeSpec) : List Node := t.candidates.filter Node.isComposite

/-- **Whether a path below a type can be read in one way only**: one candidate at most is an object
or an array, and the fields of an object are a mapping. -/
def isDirect (t : TypeSpec) : Bool :=
  decide (t.composites.length ≤ 1) &&
    t.candidates.all (fun n => match n with
      | .object _ s => !s.isUnion
      | _ => true)

/-- **What a descent asks of a type** and of the types below it: a path can be read in one way only,
the names of a mapping are distinct, and the defaults are plain. -/
structure Direct (t : TypeSpec) : Prop where
  isDirect : t.everyType TypeSpec.isDirect = true
  wellNamed : t.everyType TypeSpec.wellNamed = true
  plainDefaults : t.everyType (defaultsPass Value.isPlain) = true

variable {t u : TypeSpec} {n : Node}

theorem Direct.of_mem_typesAt (h : t.Direct) {key : Value} (hu : u ∈ t.typesAt key) : u.Direct :=
  ⟨everyType_of_mem_typesAt h.isDirect hu, everyType_of_mem_typesAt h.wellNamed hu,
    everyType_of_mem_typesAt h.plainDefaults hu⟩

theorem Direct.plain_default (h : t.Direct) {d : Value} (hd : t.first.default? = some d) :
    d.everywhere Value.isPlain = true := everywhere_of_default h.plainDefaults hd

/-- The one object or array among the candidates. -/
theorem Direct.composites_eq (h : t.Direct) (hn : n ∈ t.candidates)
    (hcomposite : n.isComposite = true) : t.composites = [n] := by
  have hlength := of_decide_eq_true (Bool.and_eq_true_iff.mp (self_of_everyType h.isDirect)).1
  have hmem : n ∈ t.composites := List.mem_filter.mpr ⟨hn, hcomposite⟩
  match hcs : t.composites with
  | [] => simp [hcs] at hmem
  | [m] => rw [hcs] at hmem; rw [List.mem_singleton.mp hmem]
  | _ :: _ :: _ => simp [hcs] at hlength

/-- Only objects and arrays declare types for keys. -/
theorem typesAt_eq_composites (t : TypeSpec) (key : Value) :
    t.typesAt key = t.composites.flatMap (fun n => n.typesAt key) := by
  unfold typesAt composites
  induction t.candidates with
  | nil => rfl
  | cons n ns ih =>
    rw [List.flatMap_cons, ih, List.filter_cons]
    cases n <;> rfl

theorem Direct.typesAt_eq (h : t.Direct) (hn : n ∈ t.candidates)
    (hcomposite : n.isComposite = true) (key : Value) : t.typesAt key = n.typesAt key := by
  rw [typesAt_eq_composites, h.composites_eq hn hcomposite, List.flatMap_singleton]

/-- The candidates of a kind of values that hold others are among the composites. -/
theorem filter_kind_eq (t : TypeSpec) {k : Kind}
    (hk : ∀ n : Node, n.kind = k → n.isComposite = true) :
    t.candidates.filter (fun n => n.kind == k) =
      t.composites.filter (fun n => n.kind == k) := by
  unfold composites
  rw [List.filter_filter]
  refine List.filter_congr (fun n _ => ?_)
  cases hkind : n.kind == k with
  | false => rfl
  | true => rw [hk n (eq_of_beq hkind)]; rfl

/-- **A map is marked by the mapping of the one object**, and the types of its keys are those that
this mapping declares. -/
theorem Direct.object (h : t.Direct) {p : Presence (List (String × Value))} {s : Schema}
    (hn : Node.object p s ∈ t.candidates) : ∃ fs : Fields, s = .mapping fs ∧
      (fs.map Prod.fst).Nodup ∧ (∀ key, t.typesAt key = (fs.typeAt? key).toList) ∧
      t.seedFields? = some fs := by
  have hmapping := List.all_eq_true.mp
    (Bool.and_eq_true_iff.mp (self_of_everyType h.isDirect)).2 _ hn
  cases s with
  | union => cases hmapping
  | mapping fs =>
    refine ⟨fs, rfl, nodup_of_mem h.wellNamed hn, fun key => ?_, ?_⟩
    · rw [h.typesAt_eq hn rfl]
      exact Schema.typesAt_mapping fs key
    · have hobjects : t.objects = [.object p (.mapping fs)] := by
        unfold objects
        rw [t.filter_kind_eq (fun n hk => by cases n <;> first | rfl | cases hk),
          h.composites_eq hn rfl]
        rfl
      rw [seedFields?, hobjects]
      rfl

/-- **The items of a list are marked by the item type of the one array**, which is the type of every
index. -/
theorem Direct.array (h : t.Direct) {p : Presence (List Value)} {count : ItemCount}
    (hn : Node.array p u count ∈ t.candidates) :
    (∀ i : Nat, t.typesAt (.int i) = [u]) ∧ t.seedItems? = some u := by
  constructor
  · intro i
    rw [h.typesAt_eq hn rfl, Node.typesAt, if_pos (by simp [Value.isIndex])]
  · have harrays : t.arrays = [.array p u count] := by
      unfold arrays
      rw [t.filter_kind_eq (fun n hk => by cases n <;> first | rfl | cases hk),
        h.composites_eq hn rfl]
      rfl
    rw [seedItems?, harrays]
    rfl

end TypeSpec

/-! ## What a visit is -/

namespace Course

variable {c : Course} {path : Path} {t : TypeSpec}

/-- **A walk of a declared value** that is there is its check, with the walk of its members. -/
theorem walk_succ_is (habort : c.options.abortEarly = true)
    (ht : c.schema.locate path = some t) {budget : Nat} {v : Value} {x : Checked Value}
    {g : Value → Checked Value} (hx : apply (c.site path) t v = some <$> x)
    (hg : ∀ w, x = .ok w → (walkMembers (c.walk budget) path w).Is (g w)) :
    (c.walk (budget + 1) path v).Is (some <$> (x >>= g)) := by
  have hbind : some <$> (x >>= g) =
      (some <$> x) >>= fun child => child.elim (pure none) (fun w => some <$> g w) := by
    rw [map_bind, bind_map_left]
    rfl
  rw [walk, hbind, ← hx]
  refine (visit_is habort ht v).bind (fun child hchild => ?_)
  obtain ⟨w, hw, rfl⟩ := Checked.map_eq_ok.mp (hx.symm.trans hchild)
  exact (hg w hw).map some

/-- What a type makes the same of is walked the same. -/
theorem walk_succ_run_congr (habort : c.options.abortEarly = true)
    (ht : c.schema.locate path = some t) (budget : Nat) {v w : Value}
    (h : apply (c.site path) t v = apply (c.site path) t w) :
    (c.walk (budget + 1) path v).run [] = (c.walk (budget + 1) path w).run [] := by
  have hvisit : (c.visit path v).run [] = (c.visit path w).run [] :=
    Eq.trans (visit_is habort ht v) (h ▸ (visit_is habort ht w).symm)
  rw [walk, walk, StateT.run_bind, StateT.run_bind, hvisit]

/-- **An absent field is walked like its default**, as it is marked. -/
theorem walk_absent_run (habort : c.options.abortEarly = true)
    (ht : c.schema.locate path = some t) (budget : Nat) {d : Value}
    (hd : t.first.default? = some d) (hpresent : d.isPresent = true) :
    (c.walk (budget + 1) path .absent).run [] =
      (c.walk (budget + 1) path (t.seed d)).run [] := by
  refine walk_succ_run_congr habort ht budget ?_
  by_cases hnull : d = .null
  · -- a default of null is put in without a check, and an observed null would be accepted here
    subst hnull
    rw [TypeSpec.seed_null, apply_null, if_pos (TypeSpec.acceptsNull_of_default hd),
      apply_absent_of_null hd]
  · have hseed : t.seed d ≠ .null := fun h => hnull (TypeSpec.seed_eq_null.mp h)
    have habsent : t.seed d ≠ .absent :=
      fun h => Value.isPresent_iff.mp hpresent (TypeSpec.seed_eq_absent.mp h)
    rw [apply_absent_of_default hd hnull, apply_of_present hseed habsent]

/-- What a type makes of a marked value that is there. -/
theorem apply_seed_of_ne_null (site : Site) (t : TypeSpec) {v : Value} (hnull : v ≠ .null)
    (hpresent : v.isPresent = true) : apply site t (t.seed v) = some <$>
      if t.isUnion && !t.candidates.any (fun n => n.matches v) then site.fail .union []
      else (t.resolve v).check site (t.seed v) := by
  have habsent : t.seed v ≠ .absent := fun h =>
    Value.isPresent_iff.mp hpresent (TypeSpec.seed_eq_absent.mp h)
  rw [apply_of_present (fun h => hnull (TypeSpec.seed_eq_null.mp h)) habsent, checkPresent,
    TypeSpec.resolve_congr habsent (Value.isPresent_iff.mp hpresent) (fun n => t.matches_seed n v)]
  simp only [t.matches_seed]

end Course

/-! ## What a node makes of containers -/

namespace Node

variable {n : Node}

/-- A map fails the check of what is no object, whatever is in it. -/
theorem check_map_of_kind (o : Options) (path : Path) (h : n.kind ≠ .object)
    (es : List (Value × Value)) : ∃ e, (∀ fs, n.check (o.site path) (.map fs) = .error e) ∧
      n.conform o path (.map es) = .error e := by
  cases n with
  | object => exact absurd rfl h
  | _ => exact ⟨_, fun fs => rfl, rfl⟩

/-- A list fails the check of what is no array, whatever is in it. -/
theorem check_list_of_kind (o : Options) (path : Path) (h : n.kind ≠ .array) (vs : List Value) :
    ∃ e, (∀ ws, n.check (o.site path) (.list ws) = .error e) ∧
      n.conform o path (.list vs) = .error e := by
  rcases n with _ | _ | _ | _ | ⟨p, _ | _⟩ | _
  case array => exact absurd rfl h
  all_goals exact ⟨_, fun ws => rfl, rfl⟩

/-- The check of a list looks at its length only. -/
theorem conform_list (o : Options) (path : Path) (p : Presence (List Value)) (u : TypeSpec)
    (count : ItemCount) (vs ws : List Value) (hlength : ws.length = vs.length) :
    (array p u count).conform o path (.list vs) =
      ((array p u count).check (o.site path) (.list ws) >>= fun _ => Value.list <$>
        conformItems (fun i v => u.conform o (path ++ [.int i]) v) 0 vs) := by
  have hcheck : ∀ xs : List Value, (array p u count).check (o.site path) (.list xs) =
      (o.site path).requireLength xs.length count.min count.max .arrayMin .arrayMax >>=
        fun _ => pure (.list xs) := fun _ => rfl
  rw [conform, hcheck, hcheck, hlength, bind_assoc, bind_assoc]
  simp only [pure_bind, map_eq_pure_bind]

end Node

/-! ## Members -/

namespace Course

/-- **A course descends** with some budget if, wherever the routes to a path are one, a marked value
is walked as its type conforms it. -/
def Descends (c : Course) (budget : Nat) : Prop :=
  ∀ path t v, c.schema.routes path = [t] → t.Direct → t.depth < budget →
    v.everywhere Value.isPlain = true →
    (c.walk budget path (t.seed v)).Is (some <$> t.conform c.options path v)

theorem locate_of_routes {c : Course} {path : Path} {t : TypeSpec} {ts : List TypeSpec}
    (h : c.schema.routes path = t :: ts) : c.schema.locate path = some t := by
  rw [Schema.locate_eq_head?_routes, h]
  rfl

section Members

variable {c : Course} {budget : Nat} {path : Path}

/-- **An absent field is walked as its type supplies it.** -/
theorem Descends.walk_absent_is (h : c.Descends budget) (habort : c.options.abortEarly = true)
    {t : TypeSpec} (hroutes : c.schema.routes path = [t]) (ht : t.Direct)
    (hdepth : t.depth < budget) :
    (c.walk budget path .absent).Is (t.supply c.options path) := by
  have hlocate := locate_of_routes hroutes
  unfold TypeSpec.supply
  cases hd : t.first.default? with
  | some d =>
    have hplain := ht.plain_default hd
    obtain ⟨b, rfl⟩ : ∃ b, budget = b + 1 := ⟨budget - 1, by omega⟩
    unfold Walk.Is
    rw [walk_absent_run habort hlocate b hd
      (Value.isPresent_of_isPlain (Value.self_of_everywhere hplain))]
    exact h path t d hroutes ht hdepth hplain
  | none =>
    obtain ⟨b, rfl⟩ : ∃ b, budget = b + 1 := ⟨budget - 1, by omega⟩
    have hvisit := visit_is habort hlocate .absent
    rw [apply_absent_of_none hd] at hvisit
    unfold Walk.Is
    rw [walk, StateT.run_bind, hvisit]
    cases t.first.required <;> rfl

/-- The marks of a map are walked as its mapping supplies the missing fields. -/
theorem walkEntries_marks_is (es : List (Value × Value)) {fs : Fields}
    (h : ∀ f ∈ fs, (c.walk budget (path ++ [.text f.1]) .absent).Is
      (f.2.supply c.options (path ++ [.text f.1]))) :
    (walkEntries (c.walk budget) path (fs.marks es)).Is
      (Fields.conformMissing c.options path es fs) := by
  induction fs with
  | nil => exact Walk.is_pure []
  | cons f fs ih =>
    obtain ⟨name, t⟩ := f
    rw [List.forall_mem_cons] at h
    rw [Fields.conformMissing_cons]
    unfold Fields.marks
    rw [List.filter_cons]
    cases Value.hasKey es name with
    | true => exact ih h.2
    | false => exact h.1.bind (fun child _ => (ih h.2).bind (fun rest _ => Walk.is_pure _))

/-- **A marked map is walked as its mapping conforms it.** The routes to its members are those that
the mapping declares. -/
theorem Descends.walkMembers_map_is (h : c.Descends budget) (habort : c.options.abortEarly = true)
    {fs : Fields} {es : List (Value × Value)} (hnames : (fs.map Prod.fst).Nodup)
    (hroutes : ∀ key, c.schema.routes (path ++ [key]) = (fs.typeAt? key).toList)
    (hfs : ∀ f ∈ fs, f.2.Direct ∧ f.2.depth < budget)
    (hes : (Value.map es).everywhere Value.isPlain = true) :
    (walkMembers (c.walk budget) path (.map (Fields.seed fs es))).Is
      (fs.conform c.options path es) := by
  obtain ⟨hself, hes⟩ := Value.everywhere_map.mp hes
  have hfound : (walkEntries (c.walk budget) path (es.map (fun e => (e.1, fs.seedAt e.1 e.2)))).Is
      (conformEntries (fun k v => Fields.conformAt c.options path fs k v) es) := by
    refine walkEntries_is (g := fun e => fs.seedAt e.1 e.2) (fun e he => ?_)
    rw [Fields.conformAt_eq, Fields.seedAt]
    cases ht : fs.typeAt? e.1 with
    | some t =>
      obtain ⟨name, hmem, -⟩ := Fields.exists_of_typeAt? ht
      obtain ⟨hdirect, hdepth⟩ := hfs _ hmem
      exact h _ t e.2 (by rw [hroutes, ht]; rfl) hdirect hdepth (hes e he)
    | none =>
      -- an undeclared value holds no marks, so it is kept or dropped as it is
      have hnone : c.schema.locate (path ++ [e.1]) = none := by
        rw [Schema.locate_eq_head?_routes, hroutes, ht]
        rfl
      have hpresent := Value.everywhere_mono (fun _ => Value.isPresent_of_isPlain) (hes e he)
      dsimp only [Option.elim_none]
      rw [walk_of_locate_eq_none (by simp) hnone]
      cases hv : c.unknown e.2 with
      | none =>
        cases hstrip : c.options.stripUnknown with
        | true => exact Walk.is_pure none
        | false =>
          rw [unknown_eq_some.mpr ⟨rfl, Value.self_of_everywhere hpresent, hstrip⟩] at hv
          cases hv
      | some w =>
        obtain ⟨rfl, -, hstrip⟩ := unknown_eq_some.mp hv
        rw [hstrip, Option.map_some, Value.withoutAbsent_eq_self hpresent]
        exact Walk.is_pure _
  have hadded : (walkEntries (c.walk budget) path (fs.marks es)).Is
      (Fields.conformMissing c.options path es fs) :=
    walkEntries_marks_is es (fun f hf => h.walk_absent_is habort
      (by rw [hroutes, Fields.typeAt?_of_mem hnames hf]; rfl) (hfs f hf).1 (hfs f hf).2)
  rw [Fields.seed_eq hnames (of_decide_eq_true hself), walkMembers, walkEntries_append,
    Fields.conform]
  simp only [map_bind, map_pure]
  exact hfound.bind (fun found _ => hadded.bind (fun added _ => Walk.is_pure _))

/-- **A marked list is walked item by item**, as the item type conforms the items. -/
theorem Descends.walkMembers_list_is (h : c.Descends budget) {u : TypeSpec} {vs : List Value}
    (hroutes : ∀ i : Nat, c.schema.routes (path ++ [.int i]) = [u]) (hu : u.Direct)
    (hdepth : u.depth < budget) (hvs : ∀ v ∈ vs, v.everywhere Value.isPlain = true) :
    (walkMembers (c.walk budget) path (.list (vs.map u.seed))).Is
      (Value.list <$> conformItems (fun i v => u.conform c.options (path ++ [.int i]) v) 0 vs) :=
  (walkItems_is (fun i v hv =>
    h _ u v (hroutes (0 + i)) hu hdepth (hvs v (List.mem_of_getElem? hv)))).map Value.list

end Members

end Course

/-! ## The whole walk -/

namespace Course

variable {c : Course} {path : Path} {t : TypeSpec} {budget : Nat}

theorem routes_concat_of_routes (h : c.schema.routes path = [t]) (key : Value) :
    c.schema.routes (path ++ [key]) = t.typesAt key := by
  have hne := Schema.ne_nil_of_locate (locate_of_routes h)
  rw [c.schema.routes_concat hne, h, List.flatMap_singleton]

/-- **Whether a node conforms a value as it is walked**: first by its check of the marked value, and
then by what a descent makes of the members. -/
def Conforms (c : Course) (budget : Nat) (path : Path) (t : TypeSpec) (n : Node) (v : Value) :
    Prop :=
  ∃ g, n.conform c.options path v = (n.check (c.site path) (t.seed v) >>= g) ∧
    ∀ w, n.check (c.site path) (t.seed v) = .ok w → (walkMembers (c.walk budget) path w).Is (g w)

theorem conforms_of_error {n : Node} {v : Value} {e : CheckFailure}
    (hcheck : n.check (c.site path) (t.seed v) = .error e)
    (hconform : n.conform c.options path v = .error e) : c.Conforms budget path t n v := by
  refine ⟨pure, ?_, fun w hw => ?_⟩
  · rw [hconform, hcheck]
    rfl
  · cases hcheck.symm.trans hw

/-- The normal form of a leaf is a leaf, and has no members. -/
theorem conforms_of_leaf {v : Value} (hleaf : v.isContainer = false) (n : Node) :
    c.Conforms budget path t n v := by
  refine ⟨pure, ?_, fun w hw => ?_⟩
  · rw [n.conform_leaf _ _ hleaf, t.seed_of_leaf hleaf, bind_pure]
    rfl
  · rw [t.seed_of_leaf hleaf] at hw
    have haccepts := Node.check_eq_ok_iff.mp hw
    cases haccepts <;> first | exact Walk.is_pure _ | cases hleaf

/-- The types of the members are direct, and the budget reaches them. -/
theorem direct_of_mem_typesAt (ht : t.Direct) (hdepth : t.depth < budget + 1) (key : Value)
    {u : TypeSpec} (hu : u ∈ t.typesAt key) : u.Direct ∧ u.depth < budget := by
  have := TypeSpec.depth_lt_of_mem_typesAt hu
  exact ⟨ht.of_mem_typesAt hu, by omega⟩

theorem Descends.conforms_map (h : c.Descends budget) (habort : c.options.abortEarly = true)
    (hroutes : c.schema.routes path = [t]) (ht : t.Direct) (hdepth : t.depth < budget + 1)
    {es : List (Value × Value)} (hes : (Value.map es).everywhere Value.isPlain = true) {n : Node}
    (hn : n ∈ t.candidates) : c.Conforms budget path t n (.map es) := by
  by_cases hkind : n.kind = .object
  · cases n with
    | object p s =>
      obtain ⟨fs, rfl, hnames, htypes, hseed⟩ := ht.object hn
      refine ⟨fun _ => fs.conform c.options path es, ?_⟩
      rw [t.seed_map, hseed]
      refine ⟨rfl, fun w hw => ?_⟩
      cases hw
      refine h.walkMembers_map_is habort hnames (fun key => ?_) (fun f hf => ?_) hes
      · rw [routes_concat_of_routes hroutes, htypes]
      · refine direct_of_mem_typesAt ht hdepth (.text f.1) ?_
        rw [htypes, Fields.typeAt?_of_mem hnames hf]
        exact List.mem_singleton_self _
    | _ => cases hkind
  · obtain ⟨e, hcheck, hconform⟩ := Node.check_map_of_kind c.options path hkind es
    refine conforms_of_error ?_ hconform
    rw [t.seed_map]
    exact hcheck _

theorem Descends.conforms_list (h : c.Descends budget) (hroutes : c.schema.routes path = [t])
    (ht : t.Direct) (hdepth : t.depth < budget + 1) {vs : List Value}
    (hvs : (Value.list vs).everywhere Value.isPlain = true) {n : Node} (hn : n ∈ t.candidates) :
    c.Conforms budget path t n (.list vs) := by
  by_cases hkind : n.kind = .array
  · cases n with
    | array p u count =>
      obtain ⟨htypes, hseed⟩ := ht.array hn
      obtain ⟨hdirect, hu⟩ := direct_of_mem_typesAt ht hdepth (.int (0 : Nat))
        (htypes 0 ▸ List.mem_singleton_self u)
      refine ⟨fun _ => Value.list <$>
        conformItems (fun i v => u.conform c.options (path ++ [.int i]) v) 0 vs, ?_⟩
      rw [t.seed_list, hseed]
      refine ⟨Node.conform_list c.options path p u count vs (vs.map u.seed) (List.length_map _),
        fun w hw => ?_⟩
      obtain ⟨-, -, hw⟩ := Checked.bind_eq_ok.mp hw
      cases hw
      exact h.walkMembers_list_is (fun i => by rw [routes_concat_of_routes hroutes, htypes]) hdirect
        hu (Value.everywhere_list.mp hvs).2
    | _ => cases hkind
  · obtain ⟨e, hcheck, hconform⟩ := Node.check_list_of_kind c.options path hkind vs
    refine conforms_of_error ?_ hconform
    rw [t.seed_list]
    exact hcheck _

/-- **Every candidate conforms a value as it is walked.** -/
theorem Descends.conforms (h : c.Descends budget) (habort : c.options.abortEarly = true)
    (hroutes : c.schema.routes path = [t]) (ht : t.Direct) (hdepth : t.depth < budget + 1)
    {v : Value} (hv : v.everywhere Value.isPlain = true) {n : Node} (hn : n ∈ t.candidates) :
    c.Conforms budget path t n v := by
  cases v with
  | map es => exact h.conforms_map habort hroutes ht hdepth hv hn
  | list vs => exact h.conforms_list hroutes ht hdepth hv hn
  | _ => exact conforms_of_leaf rfl n

/-- **One more key of budget** lets a course descend one key further. -/
theorem Descends.succ (habort : c.options.abortEarly = true) (h : c.Descends budget) :
    c.Descends (budget + 1) := by
  intro path t v hroutes ht hdepth hv
  have hlocate := locate_of_routes hroutes
  have hpresent := Value.isPresent_of_isPlain (Value.self_of_everywhere hv)
  by_cases hnull : v = .null
  · subst hnull
    have hconform : t.conform c.options path .null >>= pure = t.conform c.options path .null :=
      bind_pure _
    rw [← hconform, TypeSpec.seed_null]
    refine walk_succ_is habort hlocate ?_ (fun w hw => ?_)
    · rw [apply_null, TypeSpec.conform_null]
      split <;> rfl
    · rw [TypeSpec.conform_null] at hw
      split at hw
      · cases hw
        exact Walk.is_pure _
      · cases hw
  have happly := apply_seed_of_ne_null (c.site path) t hnull hpresent
  rw [t.conform_eq c.options path hnull (Value.isPresent_iff.mp hpresent)]
  split at happly
  case isTrue hnone =>
    rw [if_pos hnone]
    exact walk_succ_is (g := pure) habort hlocate happly nofun
  case isFalse hsome =>
    rw [if_neg hsome]
    have hmem := t.resolve_mem v
    generalize t.resolve v = n at happly hmem
    obtain ⟨g, hg, hwalk⟩ := h.conforms habort hroutes ht hdepth hv hmem
    rw [hg]
    exact walk_succ_is habort hlocate happly hwalk

/-- **Every course descends** as far as its budget reaches. -/
theorem descends (habort : c.options.abortEarly = true) (budget : Nat) : c.Descends budget := by
  induction budget with
  | zero => exact fun _ t _ _ _ hdepth => absurd hdepth (Nat.not_lt_zero _)
  | succ budget ih => exact ih.succ habort

end Course

theorem Options.conclude_of_is {o : Options} {m : Walk Value} {x : Checked Value} (h : m.Is x) :
    o.conclude (m.run []) = o.verdict x := by
  rw [show m.run [] = _ from h]
  cases x with
  | ok v => rfl
  | error e => cases e <;> rfl

/-- **The walk of the root is a descent.** -/
theorem Course.walkRoot_is {fs : Fields} {o : Options} {es : List (Value × Value)}
    (habort : o.abortEarly = true) (hnames : (fs.map Prod.fst).Nodup)
    (hfs : ∀ f ∈ fs, f.2.Direct) (hes : (Value.map es).everywhere Value.isPlain = true) :
    ((⟨.mapping fs, o⟩ : Course).walkRoot (Fields.seed fs es)).Is (fs.conform o [] es) :=
  (descends (c := ⟨.mapping fs, o⟩) habort _).walkMembers_map_is habort hnames
    (fun key => Schema.typesAt_mapping fs key)
    (fun f hf => ⟨hfs f hf, Fields.depth_lt_of_mem hf⟩) hes

/-- **Validation is a descent**: for a mapping that has been read, whose types can be read in one
way and have plain defaults that share no containers, and for plain data, the result is the same, or
the first violation, or the end in a date or a search that has no answer. -/
theorem Fields.validateShared_eq_conform {d : RawDocument} {fs : Fields} {o : Options}
    {es : List (Value × Value)} (hread : Schema.read d = .ok (.mapping fs))
    (hshare : Fields.everyType TypeSpec.sharesNothing fs = true)
    (habort : o.abortEarly = true) (hdirect : Fields.everyType TypeSpec.isDirect fs = true)
    (hdefaults : Fields.everyType (TypeSpec.defaultsPass Value.isPlain) fs = true)
    (hdata : (Value.map es).everywhere Value.isPlain = true) :
    fs.validateShared o (.map es) = o.verdict (fs.conform o [] es) := by
  obtain ⟨hnames, hnamed⟩ := Schema.names_of_read hread
  have hcopy : (Value.map es).plain = .ok (.map es) :=
    Value.plain_eq_self (Value.everywhere_mono (fun _ => Value.isCopied_of_isPlain) hdata)
  rw [Fields.validateShared_eq_validate hshare, Fields.validate, hcopy]
  exact Options.conclude_of_is (Course.walkRoot_is habort hnames
    (fun f hf => ⟨everyType_of_mem hdirect hf, everyType_of_mem hnamed hf,
      everyType_of_mem hdefaults hf⟩) hdata)

/-- The schema of a table that has one row by default. A row has a number and a tag, and the tag has
a default as well. -/
def Schema.tableDocument : Value :=
  .map [(.text "rows", .map [(.text "type", .text "array"),
    (.text "items", .map [(.text "type", .text "object"), (.text "properties", .map [
      (.text "id", .map [(.text "type", .text "number")]),
      (.text "tag", .map [(.text "type", .text "string"), (.text "default", .text " new ")])])]),
    (.text "default", .list [.map [(.text "id", .int 1)]])])]

/-- An empty map gets the row by default, and in it the tag, in normal form: the walk finds the tag
because it marks the row when it puts it in. -/
theorem Schema.tableDocument_conforms : ∃ fs : Fields,
    Schema.read tableDocument = .ok (.mapping fs) ∧
      fs.validateShared {} (.map []) = Options.verdict {} (fs.conform {} [] []) ∧
      fs.validateShared {} (.map []) =
        .ok (.map [(.text "rows", .list
          [.map [(.text "id", .int 1), (.text "tag", .text "new")]])]) :=
  ⟨_, rfl, Fields.validateShared_eq_conform
    (show Schema.read tableDocument = .ok (.mapping _) from rfl) rfl rfl rfl rfl rfl, rfl⟩

/-- **Validation is no descent where a default shares a container**, not even a plain one: a descent
puts the text in capitals in the one place and in small letters in the other, and a walk changes
twice what is one map. -/
theorem Fields.twins_not_conformed :
    ¬ ∀ (d : RawDocument) (fs : Fields) (o : Options) (es : List (Value × Value)),
      Schema.read d = .ok (.mapping fs) → o.abortEarly = true →
      Fields.everyType TypeSpec.isDirect fs = true →
      Fields.everyType (TypeSpec.defaultsPass Value.isPlain) fs = true →
      (Value.map es).everywhere Value.isPlain = true →
      fs.validateShared o (.map es) = o.verdict (fs.conform o [] es) := by
  intro hconforms
  have hdescent : Options.verdict {} (Fields.twins.conform {} [] []) =
      .ok (.map [(.text "o", .map [(.text "x", .map [(.text "a", .text "AB")]),
        (.text "y", .map [(.text "a", .text "ab")])])]) := rfl
  have hwalk : Fields.twins.validateShared {} (.map []) = .ok Value.twins := rfl
  have hsame := hconforms Schema.twinsDocument Fields.twins {} [] rfl rfl rfl rfl rfl
  rw [hwalk, hdescent] at hsame
  simp [Value.twins] at hsame

end Conform
