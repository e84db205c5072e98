import Conform.Proofs.Settled

/-!
# Validation by descent

A walk forgets where it is: it marks the whole data first, and at every path it asks the schema anew
which type governs the path, searching from the root. A simpler way to validate takes the declared
type along with the value: it goes down the schema and the data together, looks at the entries that
are there and then at the fields that are missing, and marks nothing (`Fields.conform`).

The two agree, results and first violations alike (`Fields.validateShared_eq_conform`), for the
schemas in which a path cannot be read in two ways: the fields of every object are a mapping, and
among the candidates of a type there is one object or array at most. Then there is one route to a
declared path, and it ends at the type that the descent has taken along. The defaults and the data
are plain, and no default has a container in two places.
-/

namespace Conform

/-! ## The descent -/

section Members

/-- Makes something of each entry of a map in order; an entry of which nothing is made is left
out. -/
def conformEntries (member : Value → Value → Checked (Option Value)) :
    List (Value × Value) → Checked (List (Value × Value))
  | [] => return []
  | (k, v) :: es => do
    let child ← member k v
    let rest ← conformEntries member es
    return (child.map fun w => (k, w)).toList ++ rest

/-- Makes something of each item of a list in order, the items being counted from an index on. -/
def conformItems (member : Nat → Value → Checked Value) (index : Nat) :
    List Value → Checked (List Value)
  | [] => return []
  | v :: vs => do
    let w ← member index v
    let rest ← conformItems member (index + 1) vs
    return w :: rest

end Members

/-- The site of a path. -/
def Options.site (o : Options) (path : Path) : Site := ⟨o.catalog, path.text⟩

mutual
/-- **What a type makes of a value that is there.** -/
def TypeSpec.conform (o : Options) (path : Path) : TypeSpec → Value → Checked Value
  | .single n, .null => if n.acceptsNull then return .null else (o.site path).fail .nullable []
  | .single n, v => Node.conform o path n v
  | .union n m ns, .null =>
    if ((TypeSpec.union n m ns).resolve .null).acceptsNull then return .null
    else (o.site path).fail .nullable []
  | .union n m ns, v =>
    if n.matches v then Node.conform o path n v
    else if m.matches v then Node.conform o path m v
    else TypeSpec.conformAmong o path ns v

/-- What the first of some candidates that a value fits makes of it. -/
def TypeSpec.conformAmong (o : Options) (path : Path) : List Node → Value → Checked Value
  | [], _ => (o.site path).fail .union []
  | n :: ns, v =>
    if n.matches v then Node.conform o path n v else TypeSpec.conformAmong o path ns v

/-- **What a node makes of a value**: it is checked, and then its members are looked at. -/
def Node.conform (o : Options) (path : Path) : Node → Value → Checked Value
  | .object p (.mapping fs), v => do
    match ← (Node.object p (.mapping fs)).check (o.site path) v with
    | .map es =>
      let found ← conformEntries (fun k v => Fields.conformAt o path fs k v) es
      let added ← Fields.conformMissing o path es fs
      return .map (found ++ added)
    | w => return w
  | .array p t c, v => do
    match ← (Node.array p t c).check (o.site path) v with
    | .list vs =>
      return .list (← conformItems (fun i v => TypeSpec.conform o (path ++ [.int i]) t v) 0 vs)
    | w => return w
  | n, v => n.check (o.site path) v

/-- What a mapping makes of the value of a key; a key that it does not declare is kept or
dropped. -/
def Fields.conformAt (o : Options) (path : Path) :
    List (String × TypeSpec) → Value → Value → Checked (Option Value)
  | [], _, v => return if o.stripUnknown then none else some v
  | (name, t) :: fs, k, v =>
    if keyNames k name then some <$> TypeSpec.conform o (path ++ [k]) t v
    else Fields.conformAt o path fs k v

/-- What a mapping adds to the entries of a map: the defaults of the fields that are missing, each
treated like a value that is there. -/
def Fields.conformMissing (o : Options) (path : Path) (es : List (Value × Value)) :
    List (String × TypeSpec) → Checked (List (Value × Value))
  | [] => return []
  | (name, t) :: fs => do
    if Value.hasKey es name then Fields.conformMissing o path es fs
    else
      let child ←
        match t.first.default? with
        | some d => some <$> TypeSpec.conform o (path ++ [.text name]) t d
        | none =>
          if t.first.required then (o.site (path ++ [.text name])).fail .required []
          else pure none
      let rest ← Fields.conformMissing o path es fs
      return (child.map fun w => (.text name, w)).toList ++ rest
end

/-- **What a mapping makes of a map**: the entries that are there come first, and after them those
that it adds. -/
def Fields.conform (fs : Fields) (o : Options) (path : Path) (es : List (Value × Value)) :
    Checked Value := do
  let found ← conformEntries (fun k v => Fields.conformAt o path fs k v) es
  let added ← Fields.conformMissing o path es fs
  return .map (found ++ added)

/-- The outcome of a descent, told as that of a validation. -/
def Options.verdict (o : Options) : Checked Value → Validated
  | .ok v => return if o.sortKeys then v.sortKeys else v
  | .error (.violation v) => throw (.rejected ⟨v, []⟩)
  | .error .dateOutOfRange => throw (.engine .dateOutOfRange)
  | .error (.search e) => throw (.engine (.search e))

namespace TypeSpec

/-- What a type makes of a value that is missing. -/
def supply (t : TypeSpec) (o : Options) (path : Path) : Checked (Option Value) :=
  match t.first.default? with
  | some d => some <$> t.conform o path d
  | none => if t.first.required then (o.site path).fail .required [] else pure none

theorem conform_null (t : TypeSpec) (o : Options) (path : Path) : t.conform o path .null =
    if (t.resolve .null).acceptsNull then .ok .null else (o.site path).fail .nullable [] := by
  cases t with
  | single n =>
    have hresolve : (single n).resolve .null = n := by
      rcases List.mem_singleton.mp ((single n).resolve_mem .null) with h
      exact h
    rw [hresolve]
    rfl
  | union n m ns => rfl

theorem conformAmong_eq (o : Options) (path : Path) (ns : List Node) (v : Value) :
    conformAmong o path ns v = match ns.find? (fun n => n.matches v) with
      | some n => n.conform o path v
      | none => (o.site path).fail .union [] := by
  induction ns with
  | nil => rfl
  | cons n ns ih =>
    rw [conformAmong, List.find?_cons, ih]
    cases n.matches v <;> rfl

/-- **A value that is not null** is left to its candidate, and a union has to have one. -/
theorem conform_eq (t : TypeSpec) (o : Options) (path : Path) {v : Value} (hnull : v ≠ .null)
    (habsent : v ≠ .absent) : t.conform o path v =
      if t.isUnion && !t.candidates.any (fun n => n.matches v) then (o.site path).fail .union []
      else (t.resolve v).conform o path v := by
  cases t with
  | single n =>
    have hresolve : (single n).resolve v = n := by
      rcases List.mem_singleton.mp ((single n).resolve_mem v) with h
      exact h
    rw [hresolve]
    cases v <;> first | rfl | exact absurd rfl hnull
  | union n m ns =>
    have hamong : (union n m ns).conform o path v =
        conformAmong o path (union n m ns).candidates v := by
      cases v <;> first | rfl | exact absurd rfl hnull
    rw [hamong, conformAmong_eq, resolve_eq _ habsent]
    cases hfind : (union n m ns).candidates.find? (fun n => n.matches v) with
    | none =>
      have hany : (union n m ns).candidates.any (fun n => n.matches v) = false := by
        rw [List.any_eq_false]
        exact List.find?_eq_none.mp hfind
      rw [hany]
      rfl
    | some k =>
      have hk := List.find?_some hfind
      have hany : (union n m ns).candidates.any (fun n => n.matches v) = true :=
        List.any_eq_true.mpr ⟨k, List.mem_of_find?_eq_some hfind, hk⟩
      rw [hany]
      rfl

end TypeSpec

/-- Where a value is no container, there are no members to look at. -/
theorem Node.conform_leaf (n : Node) (o : Options) (path : Path) {v : Value}
    (h : v.isContainer = false) : n.conform o path v = n.check (o.site path) v := by
  rcases n with _ | _ | _ | _ | ⟨p, fs | _⟩ | ⟨p, t, count⟩
  case object.mapping => cases v <;> first | rfl | cases h
  case array => cases v <;> first | rfl | cases h
  all_goals rfl

theorem Fields.conformMissing_cons (o : Options) (path : Path) (es : List (Value × Value))
    (name : String) (t : TypeSpec) (fs : Fields) :
    Fields.conformMissing o path es ((name, t) :: fs) =
      if Value.hasKey es name then Fields.conformMissing o path es fs
      else do
        let child ← t.supply o (path ++ [.text name])
        let rest ← Fields.conformMissing o path es fs
        return (child.map fun w => (.text name, w)).toList ++ rest := by
  rw [Fields.conformMissing, TypeSpec.supply]
  cases t.first.default? with
  | some d => rfl
  | none => cases t.first.required <;> rfl

theorem Fields.conformAt_eq (o : Options) (path : Path) (fs : Fields) (k v : Value) :
    Fields.conformAt o path fs k v = match fs.typeAt? k with
      | some t => some <$> t.conform o (path ++ [k]) v
      | none => return if o.stripUnknown then none else some v := by
  induction fs with
  | nil => rfl
  | cons f fs ih =>
    rw [Fields.conformAt, Fields.typeAt?_cons, ih]
    cases keyNames k f.1 <;> rfl

/-! ## Walks that note nothing -/

/-- A failed check, told as the end of a walk. -/
def CheckFailure.interruption : CheckFailure → Interruption
  | violation v => .violation v
  | dateOutOfRange => .dateOutOfRange
  | search e => .search e

namespace Walk

variable {α β : Type}

/-- **A walk that is no more than a check**: it notes nothing, and ends as the check ends. -/
def Is (m : Walk α) (x : Checked α) : Prop :=
  m.run [] = match x with
    | .ok a => .ok (a, [])
    | .error e => .error e.interruption

theorem is_pure (a : α) : Is (pure a) (pure a) := rfl

theorem Is.bind {m : Walk α} {x : Checked α} {f : α → Walk β} {g : α → Checked β} (h : m.Is x)
    (hfg : ∀ a, x = .ok a → (f a).Is (g a)) : (m >>= f).Is (x >>= g) := by
  unfold Is at *
  rw [StateT.run_bind, h]
  cases x with
  | error e => rfl
  | ok a => exact hfg a rfl

theorem Is.map {m : Walk α} {x : Checked α} (f : α → β) (h : m.Is x) : (f <$> m).Is (f <$> x) := by
  rw [map_eq_pure_bind, map_eq_pure_bind]
  exact h.bind (fun a _ => is_pure (f a))

end Walk

namespace Course

variable {c : Course} {path : Path}

theorem visit_is (habort : c.options.abortEarly = true) {t : TypeSpec}
    (ht : c.schema.locate path = some t) (v : Value) :
    (c.visit path v).Is (apply (c.site path) t v) := by
  unfold visit Walk.Is
  rw [ht]
  dsimp only
  cases apply (c.site path) t v with
  | ok w => rfl
  | error e =>
    cases e with
    | violation violation =>
      simp only [report, habort]
      rfl
    | dateOutOfRange => rfl
    | search e => rfl

section Members

variable {member : Path → Value → Walk (Option Value)}

theorem walkEntries_is {f : Value → Value → Checked (Option Value)} {g : Value × Value → Value}
    {es : List (Value × Value)} (h : ∀ e ∈ es, (member (path ++ [e.1]) (g e)).Is (f e.1 e.2)) :
    (walkEntries member path (es.map (fun e => (e.1, g e)))).Is (conformEntries f es) := by
  induction es with
  | nil => rfl
  | cons e es ih =>
    rw [List.forall_mem_cons] at h
    exact h.1.bind (fun child _ => (ih h.2).bind (fun rest _ => Walk.is_pure _))

theorem walkItems_is {f : Nat → Value → Checked Value} {g : Value → Value} {index : Nat}
    {vs : List Value} (h : ∀ i v, vs[i]? = some v →
      (member (path ++ [.int (index + i : Nat)]) (g v)).Is (some <$> f (index + i) v)) :
    (walkItems member path index (vs.map g)).Is (conformItems f index vs) := by
  induction vs generalizing index with
  | nil => rfl
  | cons v vs ih =>
    have hfirst : (member (path ++ [.int index]) (g v)).Is (some <$> f index v) := h 0 v rfl
    have hrest : (walkItems member path (index + 1) (vs.map g)).Is
        (conformItems f (index + 1) vs) := ih (fun i w hw => by
      have hi := h (i + 1) w hw
      rwa [show index + (i + 1) = index + 1 + i by omega] at hi)
    have hbind : conformItems f index (v :: vs) = (some <$> f index v) >>= fun child =>
        conformItems f (index + 1) vs >>= fun rest => return child.toList ++ rest := by
      rw [conformItems, bind_map_left]
      rfl
    rw [hbind]
    exact hfirst.bind (fun child _ => hrest.bind (fun rest _ => Walk.is_pure _))

theorem walkEntries_append (es fs : List (Value × Value)) :
    walkEntries member path (es ++ fs) = (do
      let found ← walkEntries member path es
      let added ← walkEntries member path fs
      return found ++ added) := by
  induction es with
  | nil => simp [walkEntries]
  | cons e es ih =>
    rw [List.cons_append, walkEntries, walkEntries, ih]
    simp only [bind_assoc, pure_bind, List.append_assoc]

end Members

end Course

end Conform
