import Conform.Schema.Location

/-!
# Routes through a schema

A path can lead to more than one type: at a union of schemas it goes on in any of the mappings, and
at a union of nodes in any of the candidates. `Schema.routes` lists all types that a path leads to,
in the order of declaration, one key after the other. The search for the governing type backtracks
and stops at the first type it finds, which is the head of this list
(`Schema.locate_eq_head?_routes`).

The list is what the arguments about paths go by, for unlike the search it can be taken apart at any
key: the routes to a longer path continue those to a shorter one (`Schema.routes_append`). In
particular nothing is declared below a path that is not declared, and along a route the depth of
the types decreases.
-/

namespace Conform

/-! ## One key -/

/-- The type that a mapping declares for a key. -/
def Fields.typeAt? (fs : Fields) (key : Value) : Option TypeSpec :=
  (fs.find? (fun f => keyNames key f.1)).map (fun f => f.2)

/-- The types that the mappings of a schema declare for a key. -/
def Schema.typesAt (s : Schema) (key : Value) : List TypeSpec :=
  s.members.filterMap (fun fs => fs.typeAt? key)

/-- The types that a node declares for a key of the value it describes. -/
def Node.typesAt : Node → Value → List TypeSpec
  | .object _ s, key => s.typesAt key
  | .array _ t _, key => if key.isIndex then [t] else []
  | _, _ => []

/-- The types that the candidates of a type declare for a key. -/
def TypeSpec.typesAt (t : TypeSpec) (key : Value) : List TypeSpec :=
  t.candidates.flatMap (fun n => n.typesAt key)

/-- The types that a path leads to from some types. -/
def reach : List TypeSpec → Path → List TypeSpec
  | ts, [] => ts
  | ts, key :: rest => reach (ts.flatMap (fun t => t.typesAt key)) rest

/-- **All types that a path leads to**, in the order of declaration. -/
def Schema.routes (s : Schema) : Path → List TypeSpec
  | [] => []
  | key :: rest => reach (s.typesAt key) rest

@[simp] theorem Schema.typesAt_mapping (fs : Fields) (key : Value) :
    (Schema.mapping fs).typesAt key = (fs.typeAt? key).toList := by
  cases h : fs.typeAt? key <;> simp [typesAt, members, h]

@[simp] theorem TypeSpec.typesAt_single (n : Node) (key : Value) :
    (TypeSpec.single n).typesAt key = n.typesAt key := by
  simp [typesAt, candidates]

theorem Fields.typeAt?_cons (name : String) (t : TypeSpec) (fs : Fields) (key : Value) :
    Fields.typeAt? ((name, t) :: fs) key =
      if keyNames key name then some t else fs.typeAt? key := by
  unfold typeAt?
  rw [List.find?_cons]
  cases keyNames key name <;> rfl

theorem Fields.exists_of_typeAt? {fs : Fields} {key : Value} {t : TypeSpec}
    (h : fs.typeAt? key = some t) : ∃ name, (name, t) ∈ fs ∧ key = .text name := by
  obtain ⟨f, hf, rfl⟩ := Option.map_eq_some_iff.mp h
  refine ⟨f.1, List.mem_of_find?_eq_some hf, ?_⟩
  have hkey := List.find?_some hf
  cases key with
  | text s => rw [eq_of_beq hkey]
  | _ => cases hkey

/-! ## Longer paths -/

theorem reach_append_types (ts us : List TypeSpec) (path : Path) :
    reach (ts ++ us) path = reach ts path ++ reach us path := by
  induction path generalizing ts us with
  | nil => rfl
  | cons key rest ih =>
    unfold reach
    rw [List.flatMap_append, ih]

theorem reach_nil (path : Path) : reach [] path = [] := by
  induction path with
  | nil => rfl
  | cons key rest ih => exact ih

theorem reach_append (ts : List TypeSpec) (path more : Path) :
    reach ts (path ++ more) = reach (reach ts path) more := by
  induction path generalizing ts with
  | nil => rfl
  | cons key rest ih => exact ih _

namespace Schema

/-- **The routes to a longer path** continue those to a path that is not the root. -/
theorem routes_append (s : Schema) {path : Path} (h : path ≠ []) (more : Path) :
    s.routes (path ++ more) = reach (s.routes path) more := by
  cases path with
  | nil => exact absurd rfl h
  | cons key rest => exact reach_append _ rest more

theorem routes_concat (s : Schema) {path : Path} (h : path ≠ []) (key : Value) :
    s.routes (path ++ [key]) = (s.routes path).flatMap (fun t => t.typesAt key) :=
  s.routes_append h [key]

theorem routes_singleton (s : Schema) (key : Value) : s.routes [key] = s.typesAt key := rfl

end Schema

/-! ## The search finds the first -/

/-- The first type that some types and then others lead to. -/
theorem head?_reach_append (ts us : List TypeSpec) (path : Path) :
    (reach (ts ++ us) path).head? = ((reach ts path).head? <|> (reach us path).head?) := by
  rw [reach_append_types, List.head?_append]
  cases (reach ts path).head? <;> rfl

mutual

theorem Schema.locate_cons (key : Value) (rest : Path) :
    ∀ s : Schema, s.locate (key :: rest) = (reach (s.typesAt key) rest).head?
  | .mapping fs => by
    rw [Schema.typesAt_mapping]
    exact Fields.locate_cons key rest fs
  | .union fs gs hs => by
    have hsplit : (Schema.union fs gs hs).typesAt key = (Fields.typeAt? fs key).toList ++
        ((Fields.typeAt? gs key).toList ++ hs.filterMap (fun fs => Fields.typeAt? fs key)) := by
      cases hf : Fields.typeAt? fs key <;> cases hg : Fields.typeAt? gs key <;>
        simp [Schema.typesAt, Schema.members, hf, hg]
    rw [hsplit, head?_reach_append, head?_reach_append, ← Fields.locate_cons key rest fs,
      ← Fields.locate_cons key rest gs, ← Schema.locateMembers_cons key rest hs]
    rfl

theorem Schema.locateMembers_cons (key : Value) (rest : Path) :
    ∀ hs : List (List (String × TypeSpec)), Schema.locateMembers hs (key :: rest) =
      (reach (hs.filterMap (fun fs => Fields.typeAt? fs key)) rest).head?
  | [] => by rw [List.filterMap_nil, reach_nil]; rfl
  | fs :: hs => by
    have hsplit : (fs :: hs).filterMap (fun fs => Fields.typeAt? fs key) =
        (Fields.typeAt? fs key).toList ++ hs.filterMap (fun fs => Fields.typeAt? fs key) := by
      cases hf : Fields.typeAt? fs key <;> simp [hf]
    rw [hsplit, head?_reach_append, ← Fields.locate_cons key rest fs,
      ← Schema.locateMembers_cons key rest hs]
    rfl

theorem Fields.locate_cons (key : Value) (rest : Path) :
    ∀ fs : List (String × TypeSpec),
      Fields.locate fs (key :: rest) = (reach (Fields.typeAt? fs key).toList rest).head?
  | [] => by
    show none = (reach [] rest).head?
    rw [reach_nil]
    rfl
  | (name, t) :: fs => by
    rw [Fields.locate, Fields.typeAt?_cons, Fields.locate_cons key rest fs,
      TypeSpec.locate_eq rest t]
    split <;> rfl

theorem TypeSpec.locate_eq : ∀ (path : Path) (t : TypeSpec), t.locate path = (reach [t] path).head?
  | [], t => by cases t <;> rfl
  | key :: rest, .single n => by
    rw [TypeSpec.locate, Node.locate_eq key rest n]
    simp [reach]
  | key :: rest, .union n m ns => by
    rw [TypeSpec.locate, Node.locate_eq key rest n, Node.locate_eq key rest m,
      TypeSpec.locateAmong_eq key rest ns, ← head?_reach_append, ← head?_reach_append]
    simp [reach, TypeSpec.typesAt, TypeSpec.candidates]

theorem TypeSpec.locateAmong_eq (key : Value) (rest : Path) :
    ∀ ns : List Node, TypeSpec.locateAmong ns key rest =
      (reach (ns.flatMap (fun n => n.typesAt key)) rest).head?
  | [] => by rw [List.flatMap_nil, reach_nil]; rfl
  | n :: ns => by
    rw [TypeSpec.locateAmong, Node.locate_eq key rest n, TypeSpec.locateAmong_eq key rest ns,
      List.flatMap_cons, head?_reach_append]

theorem Node.locate_eq (key : Value) (rest : Path) :
    ∀ n : Node, n.locate key rest = (reach (n.typesAt key) rest).head?
  | .object _ s => Schema.locate_cons key rest s
  | .array _ t _ => by
    rw [Node.locate, Node.typesAt, TypeSpec.locate_eq rest t]
    split
    · rfl
    · rw [reach_nil]
      rfl
  | .string .. | .number .. | .boolean .. | .date .. => by
    show none = (reach [] rest).head?
    rw [reach_nil]
    rfl

end

/-- **The governing type is the first that a route leads to.** -/
theorem Schema.locate_eq_head?_routes (s : Schema) (path : Path) :
    s.locate path = (s.routes path).head? := by
  cases path with
  | nil =>
    have hnil : ∀ fs : Fields, Fields.locate fs [] = none := fun fs => by cases fs <;> rfl
    have hmembers : ∀ hs : List Fields, Schema.locateMembers hs [] = none := by
      intro hs
      induction hs with
      | nil => rfl
      | cons fs hs ih =>
        rw [Schema.locateMembers, hnil, ih]
        rfl
    cases s with
    | mapping fs => exact hnil fs
    | union fs gs hs =>
      rw [Schema.locate, hnil, hnil, hmembers]
      rfl
  | cons key rest => exact Schema.locate_cons key rest s

namespace Schema

/-- The routes to a path whose governing type is known begin with that type. -/
theorem exists_routes_eq_cons {s : Schema} {path : Path} {t : TypeSpec}
    (h : s.locate path = some t) : ∃ ts, s.routes path = t :: ts := by
  rw [locate_eq_head?_routes] at h
  exact List.head?_eq_some_iff.mp h

theorem routes_eq_nil {s : Schema} {path : Path} (h : s.locate path = none) :
    s.routes path = [] := by
  rw [locate_eq_head?_routes] at h
  exact List.head?_eq_none_iff.mp h

theorem ne_nil_of_locate {s : Schema} {path : Path} {t : TypeSpec} (h : s.locate path = some t) :
    path ≠ [] := by
  rintro rfl
  rw [locate_eq_head?_routes] at h
  cases h

/-- The type that a mapping declares for a key governs its path. -/
theorem locate_key (fs : Fields) (key : Value) :
    (Schema.mapping fs).locate [key] = fs.typeAt? key := by
  rw [locate_eq_head?_routes, routes_singleton, typesAt_mapping]
  cases fs.typeAt? key <;> rfl

/-- **Nothing is declared below what is not declared**, apart from the root. -/
theorem locate_append_eq_none {s : Schema} {path : Path} (hne : path ≠ [])
    (h : s.locate path = none) (more : Path) : s.locate (path ++ more) = none := by
  rw [locate_eq_head?_routes, s.routes_append hne, routes_eq_nil h, reach_nil]
  rfl

/-- What the governing type declares for a key is declared. -/
theorem locate_concat_isSome {s : Schema} {path : Path} {t : TypeSpec} {key : Value}
    (h : s.locate path = some t) (hkey : t.typesAt key ≠ []) :
    (s.locate (path ++ [key])).isSome := by
  obtain ⟨ts, hts⟩ := exists_routes_eq_cons h
  rw [locate_eq_head?_routes, s.routes_concat (ne_nil_of_locate h), hts, List.flatMap_cons,
    List.head?_append]
  cases hk : t.typesAt key with
  | nil => exact absurd hk hkey
  | cons u us => rfl

/-- The governing type of a longer path is the first that the types on the way declare. -/
theorem locate_concat {s : Schema} {path : Path} {t u : TypeSpec} {us : List TypeSpec}
    {key : Value} (h : s.locate path = some t) (hkey : t.typesAt key = u :: us) :
    s.locate (path ++ [key]) = some u := by
  obtain ⟨ts, hts⟩ := exists_routes_eq_cons h
  rw [locate_eq_head?_routes, s.routes_concat (ne_nil_of_locate h), hts, List.flatMap_cons, hkey]
  rfl

end Schema

/-! ## Depth decreases along a route -/

theorem Fields.depth_lt_of_mem {fs : Fields} {name : String} {t : TypeSpec} (h : (name, t) ∈ fs) :
    t.depth < Fields.depth fs := by
  induction fs with
  | nil => cases h
  | cons f fs ih =>
    rw [Fields.depth]
    rcases List.mem_cons.mp h with rfl | h
    · exact Nat.lt_of_lt_of_le (Nat.lt_succ_self _) (Nat.le_max_left ..)
    · exact Nat.lt_of_lt_of_le (ih h) (Nat.le_max_right ..)

theorem Schema.depth_le_of_mem {s : Schema} {fs : Fields} (h : fs ∈ s.members) :
    Fields.depth fs ≤ s.depth := by
  have hmembers : ∀ {hs : List Fields}, fs ∈ hs → Fields.depth fs ≤ Schema.depthMembers hs := by
    intro hs h
    induction hs with
    | nil => cases h
    | cons gs hs ih =>
      rw [Schema.depthMembers]
      rcases List.mem_cons.mp h with rfl | h
      · exact Nat.le_max_left ..
      · exact Nat.le_trans (ih h) (Nat.le_max_right ..)
  cases s with
  | mapping gs =>
    rw [List.mem_singleton.mp h]
    exact Nat.le_refl _
  | union gs hs is => exact hmembers (show fs ∈ gs :: hs :: is from h)

theorem TypeSpec.depth_le_of_mem {t : TypeSpec} {n : Node} (h : n ∈ t.candidates) :
    n.depth ≤ t.depth := by
  have hamong : ∀ {ns : List Node}, n ∈ ns → n.depth ≤ TypeSpec.depthAmong ns := by
    intro ns h
    induction ns with
    | nil => cases h
    | cons m ns ih =>
      rw [TypeSpec.depthAmong]
      rcases List.mem_cons.mp h with rfl | h
      · exact Nat.le_max_left ..
      · exact Nat.le_trans (ih h) (Nat.le_max_right ..)
  cases t with
  | single m =>
    rw [List.mem_singleton.mp h]
    exact Nat.le_refl _
  | union m k ns => exact hamong (show n ∈ m :: k :: ns from h)

theorem Schema.depth_lt_of_mem_typesAt {s : Schema} {key : Value} {t : TypeSpec}
    (h : t ∈ s.typesAt key) : t.depth < s.depth := by
  obtain ⟨fs, hfs, ht⟩ := List.mem_filterMap.mp h
  obtain ⟨name, hmem, -⟩ := Fields.exists_of_typeAt? ht
  exact Nat.lt_of_lt_of_le (Fields.depth_lt_of_mem hmem) (depth_le_of_mem hfs)

theorem TypeSpec.depth_lt_of_mem_typesAt {t u : TypeSpec} {key : Value}
    (h : u ∈ t.typesAt key) : u.depth < t.depth := by
  obtain ⟨n, hn, hu⟩ := List.mem_flatMap.mp h
  refine Nat.lt_of_lt_of_le ?_ (depth_le_of_mem hn)
  cases n with
  | object p s => exact Schema.depth_lt_of_mem_typesAt hu
  | array p t c =>
    rw [Node.typesAt] at hu
    split at hu
    · rw [List.mem_singleton.mp hu]
      exact Nat.lt_succ_self _
    · cases hu
  | _ => cases hu

theorem depth_le_of_mem_reach {ts : List TypeSpec} {path : Path} {u : TypeSpec}
    (h : u ∈ reach ts path) : ∃ t ∈ ts, u.depth + path.length ≤ t.depth := by
  induction path generalizing ts with
  | nil => exact ⟨u, h, Nat.le_refl _⟩
  | cons key rest ih =>
    obtain ⟨v, hv, hle⟩ := ih h
    obtain ⟨t, ht, hvt⟩ := List.mem_flatMap.mp hv
    refine ⟨t, ht, ?_⟩
    have := TypeSpec.depth_lt_of_mem_typesAt hvt
    rw [List.length_cons]
    omega

/-- **A type that a path leads to** is at least as much shallower than the schema as the path is
long. -/
theorem Schema.depth_le_of_mem_routes {s : Schema} {path : Path} {t : TypeSpec}
    (h : t ∈ s.routes path) : t.depth + path.length ≤ s.depth := by
  cases path with
  | nil => cases h
  | cons key rest =>
    obtain ⟨u, hu, hle⟩ := depth_le_of_mem_reach h
    have := depth_lt_of_mem_typesAt hu
    rw [List.length_cons]
    omega

theorem Schema.depth_le_of_locate {s : Schema} {path : Path} {t : TypeSpec}
    (h : s.locate path = some t) : t.depth + path.length ≤ s.depth := by
  obtain ⟨ts, hts⟩ := exists_routes_eq_cons h
  exact depth_le_of_mem_routes (hts ▸ List.mem_cons_self)

/-- Nothing is declared deeper than the schema is. -/
theorem Schema.locate_eq_none_of_depth_lt {s : Schema} {path : Path}
    (h : s.depth < path.length) : s.locate path = none := by
  cases ht : s.locate path with
  | none => rfl
  | some t =>
    have := depth_le_of_locate ht
    omega

/-! ## What holds of every type of a schema -/

mutual
/-- **Whether every type of a schema passes a test**, the types at all depths. -/
def Schema.everyType (q : TypeSpec → Bool) : Schema → Bool
  | .mapping fs => Fields.everyType q fs
  | .union fs gs hs =>
    Fields.everyType q fs && (Fields.everyType q gs && Schema.everyTypeOfMembers q hs)

/-- Whether every type of some mappings passes a test. -/
def Schema.everyTypeOfMembers (q : TypeSpec → Bool) : List (List (String × TypeSpec)) → Bool
  | [] => true
  | fs :: hs => Fields.everyType q fs && Schema.everyTypeOfMembers q hs

/-- Whether every type of a mapping passes a test. -/
def Fields.everyType (q : TypeSpec → Bool) : List (String × TypeSpec) → Bool
  | [] => true
  | (_, t) :: fs => TypeSpec.everyType q t && Fields.everyType q fs

/-- Whether a type and every type below it pass a test. -/
def TypeSpec.everyType (q : TypeSpec → Bool) : TypeSpec → Bool
  | .single n => q (.single n) && Node.everyType q n
  | .union n m ns => q (.union n m ns) &&
    (Node.everyType q n && (Node.everyType q m && TypeSpec.everyTypeAmong q ns))

/-- Whether every type below some nodes passes a test. -/
def TypeSpec.everyTypeAmong (q : TypeSpec → Bool) : List Node → Bool
  | [] => true
  | n :: ns => Node.everyType q n && TypeSpec.everyTypeAmong q ns

/-- Whether every type below a node passes a test. -/
def Node.everyType (q : TypeSpec → Bool) : Node → Bool
  | .object _ s => Schema.everyType q s
  | .array _ t _ => TypeSpec.everyType q t
  | _ => true
end

section EveryType

variable {q : TypeSpec → Bool}

theorem Fields.everyType_eq (fs : Fields) :
    Fields.everyType q fs = fs.all (fun f => f.2.everyType q) := by
  induction fs with
  | nil => rfl
  | cons f fs ih => rw [Fields.everyType, ih, List.all_cons]

theorem Schema.everyType_eq (s : Schema) :
    s.everyType q = s.members.all (fun fs => Fields.everyType q fs) := by
  have hmembers : ∀ hs : List Fields, Schema.everyTypeOfMembers q hs =
      hs.all (fun fs => Fields.everyType q fs) := by
    intro hs
    induction hs with
    | nil => rfl
    | cons fs hs ih => rw [Schema.everyTypeOfMembers, ih, List.all_cons]
  cases s with
  | mapping fs => exact (Bool.and_true _).symm
  | union fs gs hs => exact hmembers (fs :: gs :: hs)

theorem TypeSpec.everyType_eq (t : TypeSpec) :
    t.everyType q = (q t && t.candidates.all (fun n => n.everyType q)) := by
  have hamong : ∀ ns : List Node, TypeSpec.everyTypeAmong q ns =
      ns.all (fun n => n.everyType q) := by
    intro ns
    induction ns with
    | nil => rfl
    | cons n ns ih => rw [TypeSpec.everyTypeAmong, ih, List.all_cons]
  cases t with
  | single n => exact congrArg (q _ && ·) (Bool.and_true _).symm
  | union n m ns => exact congrArg (q _ && ·) (hamong (n :: m :: ns))

theorem TypeSpec.self_of_everyType {t : TypeSpec} (h : t.everyType q = true) : q t = true := by
  rw [everyType_eq] at h
  exact (Bool.and_eq_true_iff.mp h).1

theorem Fields.everyType_of_mem {fs : Fields} {name : String} {t : TypeSpec}
    (h : Fields.everyType q fs = true) (ht : (name, t) ∈ fs) : t.everyType q = true := by
  rw [everyType_eq] at h
  exact List.all_eq_true.mp h _ ht

theorem Schema.everyType_of_mem {s : Schema} {fs : Fields} (h : s.everyType q = true)
    (hfs : fs ∈ s.members) : Fields.everyType q fs = true := by
  rw [everyType_eq] at h
  exact List.all_eq_true.mp h _ hfs

theorem TypeSpec.everyType_of_mem {t : TypeSpec} {n : Node} (h : t.everyType q = true)
    (hn : n ∈ t.candidates) : n.everyType q = true := by
  rw [everyType_eq] at h
  exact List.all_eq_true.mp (Bool.and_eq_true_iff.mp h).2 _ hn

/-- What every type below an object passes, the types of its fields pass. -/
theorem TypeSpec.everyType_field {p : Presence (List (String × Value))} {fs : Fields}
    (h : (single (.object p (.mapping fs))).everyType q = true) {f : String × TypeSpec}
    (hf : f ∈ fs) : f.2.everyType q = true :=
  Fields.everyType_of_mem (everyType_of_mem h List.mem_cons_self) hf

theorem TypeSpec.everyType_items {p : Presence (List Value)} {u : TypeSpec} {c : ItemCount}
    (h : (single (.array p u c)).everyType q = true) : u.everyType q = true :=
  everyType_of_mem h List.mem_cons_self

theorem Schema.everyType_iff {s : Schema} : s.everyType q = true ↔
    ∀ fs ∈ s.members, ∀ f ∈ fs, f.2.everyType q = true := by
  simp only [everyType_eq, Fields.everyType_eq, List.all_eq_true]

/-- **A weaker test** is passed as well. -/
theorem TypeSpec.everyType_mono {p : TypeSpec → Bool} (h : ∀ t, q t = true → p t = true)
    {t : TypeSpec} (ht : t.everyType q = true) : t.everyType p = true := by
  induction hdepth : t.depth using Nat.strongRecOn generalizing t with
  | ind depth ih =>
    subst hdepth
    rw [everyType_eq, Bool.and_eq_true_iff, List.all_eq_true] at ht ⊢
    refine ⟨h t ht.1, fun n hn => ?_⟩
    have hle := depth_le_of_mem hn
    have hnode := ht.2 n hn
    cases n with
    | object _ s =>
      refine Schema.everyType_iff.mpr (fun fs hfs f hf => ?_)
      have hlt : f.2.depth < s.depth :=
        Nat.lt_of_lt_of_le (Fields.depth_lt_of_mem hf) (Schema.depth_le_of_mem hfs)
      exact ih _ (Nat.lt_of_lt_of_le hlt hle) (Schema.everyType_iff.mp hnode fs hfs f hf) rfl
    | array _ u _ => exact ih _ (Nat.lt_of_lt_of_le (Nat.lt_succ_self _) hle) hnode rfl
    | _ => rfl

theorem Schema.everyType_mono {p : TypeSpec → Bool} (h : ∀ t, q t = true → p t = true) {s : Schema}
    (hs : s.everyType q = true) : s.everyType p = true :=
  everyType_iff.mpr (fun fs hfs f hf => TypeSpec.everyType_mono h (everyType_iff.mp hs fs hfs f hf))

theorem Schema.everyType_of_mem_typesAt {s : Schema} {key : Value} {t : TypeSpec}
    (h : s.everyType q = true) (ht : t ∈ s.typesAt key) : t.everyType q = true := by
  obtain ⟨fs, hfs, ht⟩ := List.mem_filterMap.mp ht
  obtain ⟨name, hmem, -⟩ := Fields.exists_of_typeAt? ht
  exact Fields.everyType_of_mem (everyType_of_mem h hfs) hmem

theorem TypeSpec.everyType_of_mem_typesAt {t u : TypeSpec} {key : Value}
    (h : t.everyType q = true) (hu : u ∈ t.typesAt key) : u.everyType q = true := by
  obtain ⟨n, hn, hu⟩ := List.mem_flatMap.mp hu
  have hn := everyType_of_mem h hn
  cases n with
  | object p s => exact Schema.everyType_of_mem_typesAt hn hu
  | array p t c =>
    rw [Node.typesAt] at hu
    split at hu
    · rw [List.mem_singleton.mp hu]
      exact hn
    · cases hu
  | _ => cases hu

/-- What every type of a schema passes, the types that a path leads to pass. -/
theorem Schema.everyType_of_mem_routes {s : Schema} {path : Path} {t : TypeSpec}
    (h : s.everyType q = true) (ht : t ∈ s.routes path) : t.everyType q = true := by
  have hreach : ∀ {ts : List TypeSpec} {rest : Path}, (∀ u ∈ ts, u.everyType q = true) →
      ∀ u ∈ reach ts rest, u.everyType q = true := by
    intro ts rest hts
    induction rest generalizing ts with
    | nil => exact hts
    | cons key rest ih =>
      refine ih (fun u hu => ?_)
      obtain ⟨v, hv, hu⟩ := List.mem_flatMap.mp hu
      exact TypeSpec.everyType_of_mem_typesAt (hts v hv) hu
  cases path with
  | nil => cases ht
  | cons key rest => exact hreach (fun u hu => everyType_of_mem_typesAt h hu) t ht

theorem Schema.everyType_of_locate {s : Schema} {path : Path} {t : TypeSpec}
    (h : s.everyType q = true) (ht : s.locate path = some t) : t.everyType q = true := by
  obtain ⟨ts, hts⟩ := exists_routes_eq_cons ht
  exact everyType_of_mem_routes h (hts ▸ List.mem_cons_self)

end EveryType

end Conform
