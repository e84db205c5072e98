import Conform.Proofs.Routes
import Conform.Schema.Reading

/-!
# Choices on the way

A route through a schema is made of choices: one of the mappings of every schema that it enters, and
one of the candidates of every type. `Schema.Route` says what a route along a path is, with its
choices written down as a list of places. It knows nothing of a search: a route enters the
properties at an object, uses up a key that looks like an index at an array, and a declared key at
a mapping.

Routes come in an order, that of declaration: of two routes the one comes first that chooses an
earlier place where they part, which is the lexicographic order of their choices. The search for
the governing type tries the places in turn and does not commit itself, that is, it goes back to
a later place if an earlier one leads nowhere, however far it has led. So what it finds is the end
of the first of all routes (`Schema.locate_first_route`). What has to be shown is that an earlier
place is passed over only if no route at all goes through it (`FirstResult.findSome?`), which is
why the search and the routes are compared at all lengths of the rest of the path at once.
-/

namespace Conform

/-! ## Routes -/

mutual

/-- **A route through a schema**: it chooses a mapping, uses up a declared key, and goes on in the
type of this key. -/
inductive Schema.Route : Schema → Path → List Nat → TypeSpec → Prop
  | member {s : Schema} {fs : Fields} {t u : TypeSpec} {i : Nat} {key : Value} {rest : Path}
    {choices : List Nat} (hmember : s.members[i]? = some fs) (hkey : fs.typeAt? key = some t)
    (h : TypeSpec.Route t rest choices u) : Schema.Route s (key :: rest) (i :: choices) u

/-- **A route below a type**: it ends there, or chooses a candidate. -/
inductive TypeSpec.Route : TypeSpec → Path → List Nat → TypeSpec → Prop
  | here (t : TypeSpec) : TypeSpec.Route t [] [] t
  | candidate {t u : TypeSpec} {n : Node} {i : Nat} {key : Value} {rest : Path}
    {choices : List Nat} (hcandidate : t.candidates[i]? = some n)
    (h : Node.Route n (key :: rest) choices u) : TypeSpec.Route t (key :: rest) (i :: choices) u

/-- **A route below a node**: through the properties of an object, or to the items of an array. -/
inductive Node.Route : Node → Path → List Nat → TypeSpec → Prop
  | properties {p : Presence (List (String × Value))} {s : Schema} {u : TypeSpec} {path : Path}
    {choices : List Nat} (h : Schema.Route s path choices u) :
    Node.Route (.object p s) path choices u
  | items {p : Presence (List Value)} {t u : TypeSpec} {c : ItemCount} {key : Value} {rest : Path}
    {choices : List Nat} (hkey : key.isIndex = true) (h : TypeSpec.Route t rest choices u) :
    Node.Route (.array p t c) (key :: rest) choices u

end

/-! ## First results -/

/-- **The first of the results that choices lead to**: there is none, or the choices that lead to it
come before all others that lead to a result. -/
def FirstResult {β : Type} (leads : List Nat → β → Prop) : Option β → Prop
  | none => ∀ choices b, ¬ leads choices b
  | some b => ∃ choices, leads choices b ∧
      ∀ others c, leads others c → (others = choices ∧ c = b) ∨ choices < others

namespace FirstResult

variable {α β : Type} {leads leads' : List Nat → β → Prop} {result : Option β}

theorem congr (h : ∀ choices b, leads choices b ↔ leads' choices b)
    (hfirst : FirstResult leads result) : FirstResult leads' result := by
  have hleads : leads = leads' := funext (fun choices => funext (fun b => propext (h choices b)))
  rwa [← hleads]

/-- **A search that tries one place after the other** finds the first result, if it does so at every
place. -/
theorem findSome? {l : List α} {leads : α → List Nat → β → Prop}
    {search : α → Option β} (h : ∀ a ∈ l, FirstResult (leads a) (search a)) :
    FirstResult (fun choices b => ∃ i rest a, choices = i :: rest ∧ l[i]? = some a ∧
      leads a rest b) (l.findSome? search) := by
  have hnone : ∀ a ∈ l, search a = none → ∀ rest b, ¬ leads a rest b := by
    intro a ha hsearch
    have hfirst := h a ha
    rwa [hsearch] at hfirst
  cases hfind : l.findSome? search with
  | none =>
    rintro _ b ⟨i, rest, a, rfl, ha, hleads⟩
    have hmem := List.mem_of_getElem? ha
    exact hnone a hmem (List.findSome?_eq_none_iff.mp hfind a hmem) rest b hleads
  | some b =>
    obtain ⟨before, a, after, rfl, hsearch, hbefore⟩ := List.findSome?_eq_some_iff.mp hfind
    have hfirst := h a (by simp)
    rw [hsearch] at hfirst
    obtain ⟨rest, hleads, hfirst⟩ := hfirst
    refine ⟨before.length :: rest, ⟨_, rest, a, rfl, by simp, hleads⟩, ?_⟩
    rintro _ c ⟨i, others, a', rfl, ha', hleads'⟩
    -- nothing is led to from the places before the one that is found
    rcases Nat.lt_trichotomy i before.length with hlt | rfl | hgt
    · rw [List.getElem?_append_left hlt] at ha'
      have hmem := List.mem_of_getElem? ha'
      exact absurd hleads' (hnone a' (List.mem_append_left _ hmem) (hbefore a' hmem) others c)
    · obtain rfl : a = a' := by simpa using ha'
      rcases hfirst others c hleads' with ⟨rfl, rfl⟩ | hlt
      · exact .inl ⟨rfl, rfl⟩
      · exact .inr (List.Lex.cons hlt)
    · exact .inr (List.Lex.rel hgt)

/-- The first result is the only one whose choices come before all others. -/
theorem eq_some_iff (hfirst : FirstResult leads result) {b : β} : result = some b ↔
    ∃ choices, leads choices b ∧
      ∀ others c, leads others c → (others = choices ∧ c = b) ∨ choices < others := by
  constructor
  · rintro rfl
    exact hfirst
  · rintro ⟨choices, hleads, hleast⟩
    cases result with
    | none => exact absurd hleads (hfirst choices b)
    | some c =>
      obtain ⟨others, hothers, hfirst⟩ := hfirst
      rcases hleast others c hothers with ⟨-, rfl⟩ | hlt
      · rfl
      · rcases hfirst choices b hleads with ⟨-, rfl⟩ | hgt
        · rfl
        · exact absurd hgt (List.lt_asymm hlt)

theorem eq_none_iff (hfirst : FirstResult leads result) :
    result = none ↔ ∀ choices b, ¬ leads choices b := by
  cases result with
  | none => exact ⟨fun _ => hfirst, fun _ => rfl⟩
  | some b =>
    obtain ⟨choices, hleads, -⟩ := hfirst
    exact ⟨nofun, fun h => absurd hleads (h choices b)⟩

end FirstResult

/-! ## The search as a search for the first -/

theorem Schema.locate_eq_findSome? (s : Schema) (path : Path) :
    s.locate path = s.members.findSome? (fun fs => Fields.locate fs path) := by
  have hmembers : ∀ hs : List Fields,
      Schema.locateMembers hs path = hs.findSome? (fun fs => Fields.locate fs path) := by
    intro hs
    induction hs with
    | nil => rfl
    | cons fs hs ih =>
      rw [Schema.locateMembers, List.findSome?_cons, ih]
      cases Fields.locate fs path <;> rfl
  cases s with
  | mapping fs =>
    show Fields.locate fs path = [fs].findSome? _
    rw [List.findSome?_singleton]
  | union fs gs hs =>
    show _ = (fs :: gs :: hs).findSome? _
    rw [← hmembers]
    rfl

theorem TypeSpec.locate_eq_findSome? (t : TypeSpec) (key : Value) (rest : Path) :
    t.locate (key :: rest) = t.candidates.findSome? (fun n => n.locate key rest) := by
  have hamong : ∀ ns : List Node,
      TypeSpec.locateAmong ns key rest = ns.findSome? (fun n => n.locate key rest) := by
    intro ns
    induction ns with
    | nil => rfl
    | cons n ns ih =>
      rw [TypeSpec.locateAmong, List.findSome?_cons, ih]
      cases n.locate key rest <;> rfl
  cases t with
  | single n =>
    show n.locate key rest = [n].findSome? _
    rw [List.findSome?_singleton]
  | union n m ns =>
    show _ = (n :: m :: ns).findSome? _
    rw [← hamong]
    rfl

theorem Fields.locate_eq_bind (fs : Fields) (key : Value) (rest : Path) :
    Fields.locate fs (key :: rest) = (fs.typeAt? key).bind (fun t => t.locate rest) := by
  induction fs with
  | nil => rfl
  | cons f fs ih =>
    obtain ⟨name, t⟩ := f
    rw [Fields.locate, Fields.typeAt?_cons, ih]
    split <;> rfl

/-! ## The search finds the first route -/

section Search

variable {key : Value} {rest : Path}
  (ih : ∀ t : TypeSpec, FirstResult (t.Route rest) (t.locate rest))

include ih

/-- The first route through a schema, given the first routes along the rest of the path. -/
theorem Schema.firstResult_route (s : Schema) :
    FirstResult (s.Route (key :: rest)) (s.locate (key :: rest)) := by
  rw [s.locate_eq_findSome?]
  have hmember : ∀ fs ∈ s.members, FirstResult
      (fun choices u => ∃ t, Fields.typeAt? fs key = some t ∧ t.Route rest choices u)
      (Fields.locate fs (key :: rest)) := by
    intro fs _
    rw [Fields.locate_eq_bind]
    cases ht : Fields.typeAt? fs key with
    | none => rintro _ _ ⟨_, ⟨⟩, -⟩
    | some t =>
      refine FirstResult.congr (fun choices u => ?_) (ih t)
      exact ⟨fun h => ⟨t, rfl, h⟩, by rintro ⟨_, ⟨⟩, h⟩; exact h⟩
  refine FirstResult.congr (fun choices u => ?_) (FirstResult.findSome? hmember)
  constructor
  · rintro ⟨i, choices, fs, rfl, hmember, t, hkey, h⟩
    exact .member hmember hkey h
  · rintro ⟨hmember, hkey, h⟩
    exact ⟨_, _, _, rfl, hmember, _, hkey, h⟩

theorem Node.firstResult_route (n : Node) :
    FirstResult (n.Route (key :: rest)) (n.locate key rest) := by
  cases n with
  | object p s =>
    refine FirstResult.congr (fun choices u => ?_) (Schema.firstResult_route ih s)
    exact ⟨.properties, by rintro ⟨h⟩; exact h⟩
  | array p t c =>
    rw [Node.locate]
    split
    next hkey =>
      refine FirstResult.congr (fun choices u => ?_) (ih t)
      exact ⟨.items hkey, by rintro (_ | ⟨-, h⟩); exact h⟩
    next hkey =>
      rintro _ _ (_ | ⟨hindex, -⟩)
      exact hkey hindex
  | _ => rintro _ _ ⟨⟩

end Search

/-- **The step and the run**: the search below a type finds the first route, whatever the type. -/
theorem TypeSpec.firstResult_route (path : Path) (t : TypeSpec) :
    FirstResult (t.Route path) (t.locate path) := by
  induction path generalizing t with
  | nil =>
    have hself : t.locate [] = some t := by cases t <;> rfl
    rw [hself]
    refine ⟨[], .here t, fun others u h => .inl ?_⟩
    cases h
    exact ⟨rfl, rfl⟩
  | cons key rest ih =>
    rw [t.locate_eq_findSome?]
    refine FirstResult.congr (fun choices u => ?_)
      (FirstResult.findSome? (fun n _ => Node.firstResult_route ih n))
    constructor
    · rintro ⟨i, choices, n, rfl, hcandidate, h⟩
      exact .candidate hcandidate h
    · rintro (_ | ⟨hcandidate, h⟩)
      exact ⟨_, _, _, rfl, hcandidate, h⟩

/-- **The governing type is the end of the first route**, in the order of declaration, and nothing
governs a path exactly if there is no route along it. Nothing is declared below a path that no type
governs. -/
theorem Schema.locate_first_route (s : Schema) {path : Path} (hne : path ≠ []) :
    (∀ t, s.locate path = some t ↔ ∃ choices, s.Route path choices t ∧
      ∀ others u, s.Route path others u → (others = choices ∧ u = t) ∨ choices < others) ∧
    (s.locate path = none ↔ ∀ choices t, ¬ s.Route path choices t) ∧
    ∀ key, (s.locate (path ++ [key])).isSome → (s.locate path).isSome := by
  obtain ⟨key, rest, rfl⟩ := List.exists_cons_of_ne_nil hne
  have hfirst : FirstResult (s.Route (key :: rest)) (s.locate (key :: rest)) :=
    s.firstResult_route (TypeSpec.firstResult_route rest)
  refine ⟨fun t => hfirst.eq_some_iff, hfirst.eq_none_iff, fun more hmore => ?_⟩
  cases hlocate : s.locate (key :: rest) with
  | some t => rfl
  | none =>
    rw [s.locate_append_eq_none hne hlocate [more]] at hmore
    cases hmore

/-! ## A search that goes back twice -/

/-- A union whose first mapping knows the first key of a path only, and whose second has an array in
front of the object that knows all of them. -/
def Schema.branching : Schema :=
  .union [("a", .single (.object {} (.mapping [("b", .single (.string {} {}))])))]
    [("a", .union (.array {} (.single (.number {} {})) {})
      (.object {} (.mapping
        [("0", .single (.object {} (.mapping [("c", .single (.boolean {}))])))])) [])] []

/-- The document that this schema is read from. -/
def Schema.branchingDocument : Value :=
  .list [.map [(.text "a", .map [(.text "type", .text "object"), (.text "properties",
      .map [(.text "b", .map [(.text "type", .text "string")])])])],
    .map [(.text "a", .list
      [.map [(.text "type", .text "array"), (.text "items", .map [(.text "type", .text "number")])],
        .map [(.text "type", .text "object"), (.text "properties", .map [(.text "0",
          .map [(.text "type", .text "object"), (.text "properties",
            .map [(.text "c", .map [(.text "type", .text "boolean")])])])])]])]]

/-- The first mapping has no route along `a`, `0`, `c`, and neither has the array of the second,
though both have one along the beginning of the path. Below the type at its end there is none. -/
theorem Schema.branching_first_route :
    Schema.read Schema.branchingDocument = .ok Schema.branching ∧
      (∃ choices, Schema.branching.Route [.text "a", .text "0", .text "c"] choices
          (.single (.boolean {})) ∧
        ∀ others u, Schema.branching.Route [.text "a", .text "0", .text "c"] others u →
          (others = choices ∧ u = .single (.boolean {})) ∨ choices < others) ∧
      (∀ choices t,
        ¬ Schema.branching.Route [.text "a", .text "0", .text "c", .int 0] choices t) ∧
      (Schema.branching.locate [.text "a", .text "0"]).isSome := by
  have hleaf := Schema.branching.locate_first_route
    (show [Value.text "a", .text "0", .text "c"] ≠ [] by simp)
  have hbelow := Schema.branching.locate_first_route
    (show [Value.text "a", .text "0", .text "c", .int 0] ≠ [] by simp)
  have hprefix := Schema.branching.locate_first_route
    (show [Value.text "a", .text "0"] ≠ [] by simp)
  exact ⟨rfl, (hleaf.1 _).mp rfl, hbelow.2.1.mp rfl, hprefix.2.2 (.text "c") rfl⟩

end Conform
