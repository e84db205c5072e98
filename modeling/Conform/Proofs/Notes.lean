import Conform.Validation.Walk

/-!
# What a walk notes

A walk carries the violations it has found so far, and only ever adds to them. So it is enough to
know what it does from an empty list of notes: from any other list it does the same, and its own
notes come after those that are there (`Walk.Appends`). Everything the walk of a course is made of
has this property, and with it a sequence of two walks is taken apart.

A walk that ends without a note of its own has found nothing to object to (`Walk.Yields`). This is
one notion for both ways to walk, for a course that ends at the first violation never ends well
once there has been one. What a whole walk yields is reduced here to what its visits yield, and a
visit yields what the type that is declared at its path makes of the value.
-/

namespace Conform

namespace Walk

variable {α β : Type}

/-- **A walk that only adds to the notes**: from any notes it ends as it ends from none, with its
own notes put after those it started from. -/
def Appends (m : Walk α) : Prop :=
  ∀ notes, m.run notes = (m.run []).map (fun r => (r.1, notes ++ r.2))

/-- **What a walk yields** without noting anything. -/
def Yields (m : Walk α) (a : α) : Prop := m.run [] = .ok (a, [])

theorem appends_pure (a : α) : Appends (pure a) := by
  intro notes
  show Except.ok (a, notes) = .ok (a, notes ++ [])
  rw [List.append_nil]

theorem appends_throw (e : Interruption) : Appends (throw e : Walk α) := by
  intro notes
  rfl

theorem appends_note (v : Violation) : Appends (modify (· ++ [v])) := by
  intro notes
  rfl

theorem Appends.bind {m : Walk α} {f : α → Walk β} (hm : m.Appends)
    (hf : ∀ a, (f a).Appends) : (m >>= f).Appends := by
  intro notes
  rw [StateT.run_bind, StateT.run_bind, hm notes]
  cases m.run [] with
  | error e => rfl
  | ok r =>
    show (f r.1).run (notes ++ r.2) = ((f r.1).run r.2).map _
    rw [hf r.1 (notes ++ r.2), hf r.1 r.2]
    cases (f r.1).run [] with
    | error e => rfl
    | ok s => simp [Except.map]

theorem Appends.map {m : Walk α} (f : α → β) (hm : m.Appends) : (f <$> m).Appends := by
  rw [map_eq_pure_bind]
  exact hm.bind (fun a => appends_pure (f a))

/-- A walk only adds to the notes if it does so with another result, from which its own can be
told. -/
theorem Appends.of_map {m : Walk α} {f : α → β} (hf : Function.Injective f)
    (h : (f <$> m).Appends) : m.Appends := by
  intro notes
  have h := h notes
  rw [StateT.run_map, StateT.run_map] at h
  cases hm : m.run notes with
  | error e =>
    cases hm' : m.run [] with
    | error e' =>
      rw [hm, hm'] at h
      cases h
      rfl
    | ok r =>
      rw [hm, hm'] at h
      cases h
  | ok r =>
    cases hm' : m.run [] with
    | error e =>
      rw [hm, hm'] at h
      cases h
    | ok r' =>
      rw [hm, hm'] at h
      obtain ⟨hresult, hnotes⟩ := Prod.mk.inj (Except.ok.inj h)
      exact congrArg Except.ok (Prod.ext (hf hresult) hnotes)

/-- A sequence ends early if its first part does. -/
theorem run_bind_of_error {m : Walk α} {f : α → Walk β} {e : Interruption}
    (h : m.run [] = .error e) : (m >>= f).run [] = .error e := by
  rw [StateT.run_bind, h]
  rfl

/-- **In a sequence**, what the first part notes comes before what the second notes. -/
theorem run_bind_of_ok {m : Walk α} {f : α → Walk β} {a : α} {notes : List Violation}
    (hf : (f a).Appends) (h : m.run [] = .ok (a, notes)) :
    (m >>= f).run [] = ((f a).run []).map (fun r => (r.1, notes ++ r.2)) := by
  rw [StateT.run_bind, h]
  exact hf notes

/-- A walk yields one thing only. -/
theorem Yields.eq {m : Walk α} {a b : α} (ha : m.Yields a) (hb : m.Yields b) : a = b := by
  cases ha.symm.trans hb
  rfl

@[simp] theorem yields_pure {a b : α} : Yields (pure a) b ↔ a = b := by
  show Except.ok (a, []) = .ok (b, []) ↔ a = b
  simp

@[simp] theorem not_yields_throw {e : Interruption} {a : α} : ¬ Yields (throw e : Walk α) a :=
  nofun

/-- **A sequence yields what its second part yields** after the first has yielded something. -/
theorem yields_bind {m : Walk α} {f : α → Walk β} (hf : ∀ a, (f a).Appends) {b : β} :
    (m >>= f).Yields b ↔ ∃ a, m.Yields a ∧ (f a).Yields b := by
  unfold Yields
  constructor
  · intro h
    cases hm : m.run [] with
    | error e =>
      rw [run_bind_of_error hm] at h
      cases h
    | ok r =>
      obtain ⟨a, notes⟩ := r
      rw [run_bind_of_ok (hf a) hm] at h
      cases hr : (f a).run [] with
      | error e =>
        rw [hr] at h
        cases h
      | ok s =>
        obtain ⟨b', more⟩ := s
        rw [hr] at h
        simp only [Except.map, Except.ok.injEq, Prod.mk.injEq, List.append_eq_nil_iff] at h
        obtain ⟨rfl, rfl, rfl⟩ := h
        exact ⟨a, rfl, hr⟩
  · rintro ⟨a, ha, hb⟩
    rw [run_bind_of_ok (hf a) ha, hb]
    rfl

theorem yields_map {m : Walk α} {f : α → β} {b : β} :
    (f <$> m).Yields b ↔ ∃ a, m.Yields a ∧ f a = b := by
  rw [map_eq_pure_bind, yields_bind (fun a => appends_pure (f a))]
  simp

end Walk

namespace Course

/-! ## The parts of a walk add to the notes -/

section Members

variable {member : Path → Value → Walk (Option Value)}

theorem appends_walkEntries (h : ∀ path v, (member path v).Appends) (path : Path) :
    ∀ es, (walkEntries member path es).Appends
  | [] => Walk.appends_pure []
  | (_, v) :: es => (h _ v).bind (fun _ =>
      (appends_walkEntries h path es).bind (fun _ => Walk.appends_pure _))

theorem appends_walkItems (h : ∀ path v, (member path v).Appends) (path : Path) :
    ∀ index vs, (walkItems member path index vs).Appends
  | _, [] => Walk.appends_pure []
  | index, v :: vs => (h _ v).bind (fun _ =>
      (appends_walkItems h path (index + 1) vs).bind (fun _ => Walk.appends_pure _))

theorem appends_walkMembers (h : ∀ path v, (member path v).Appends) (path : Path) (v : Value) :
    (walkMembers member path v).Appends := by
  cases v with
  | map es => exact (appends_walkEntries h path es).map Value.map
  | list vs => exact (appends_walkItems h path 0 vs).map Value.list
  | _ => exact Walk.appends_pure _

end Members

theorem appends_report (c : Course) (v : Violation) : (c.report v).Appends := by
  unfold report
  split
  · exact Walk.appends_throw _
  · exact Walk.appends_note v

theorem appends_visit (c : Course) (path : Path) (v : Value) : (c.visit path v).Appends := by
  unfold visit
  split
  · exact Walk.appends_pure _
  · split
    · exact Walk.appends_pure _
    · exact Walk.appends_throw _
    · exact Walk.appends_throw _
    · exact (c.appends_report _).bind (fun _ => Walk.appends_pure _)

/-- What follows a visit adds to the notes. -/
theorem appends_walkOn {member : Path → Value → Walk (Option Value)}
    (h : ∀ path v, (member path v).Appends) (path : Path) : ∀ child : Option Value,
    Walk.Appends (do
      match child with
      | none => return none
      | some w => return some (← walkMembers member path w) : Walk (Option Value))
  | none => Walk.appends_pure _
  | some w => (appends_walkMembers h path w).bind (fun _ => Walk.appends_pure _)

theorem appends_walk (c : Course) :
    ∀ (budget : Nat) (path : Path) (v : Value), (c.walk budget path v).Appends
  | 0, _, _ => Walk.appends_pure _
  | budget + 1, path, v => (c.appends_visit path v).bind
    (appends_walkOn (c.appends_walk budget) path)

/-! ## What the parts of a walk yield -/

/-- A course never ends well once it has a violation to report. -/
theorem not_yields_report (c : Course) (v : Violation) (u : Unit) :
    ¬ (c.report v).Yields u := by
  unfold report
  split
  · exact Walk.not_yields_throw
  · intro h
    cases h

/-- **What a visit yields**: an undeclared value is kept or dropped, and a declared one becomes
what its type makes of it. -/
theorem visit_yields {c : Course} {path : Path} {v : Value} {child : Option Value} :
    (c.visit path v).Yields child ↔
      match c.schema.locate path with
      | none => c.unknown v = child
      | some t => apply (c.site path) t v = .ok child := by
  unfold visit
  cases c.schema.locate path with
  | none => exact Walk.yields_pure
  | some t =>
    dsimp only
    cases apply (c.site path) t v with
    | ok w => exact Walk.yields_pure.trans (by simp)
    | error e =>
      cases e with
      | violation violation =>
        rw [Walk.yields_bind (fun _ => Walk.appends_pure _)]
        simp [not_yields_report]
      | dateOutOfRange => simp
      | search e => simp

/-- What a visit and the walk of the members after it yield. -/
theorem visit_bind_yields {member : Path → Value → Walk (Option Value)}
    (h : ∀ path v, (member path v).Appends) {c : Course} {path : Path} {v : Value}
    {child : Option Value} :
    Walk.Yields (do
      match ← c.visit path v with
      | none => return none
      | some w => return some (← walkMembers member path w) : Walk (Option Value)) child ↔
      (child = none ∧ (c.visit path v).Yields none) ∨
        ∃ w w', (c.visit path v).Yields (some w) ∧ (walkMembers member path w).Yields w' ∧
          child = some w' := by
  refine Iff.trans (Walk.yields_bind (m := c.visit path v) (appends_walkOn h path)) ?_
  constructor
  · rintro ⟨w, hw, h⟩
    cases w with
    | none => exact .inl ⟨(Walk.yields_pure.mp h).symm, hw⟩
    | some w =>
      obtain ⟨w', hw', h⟩ := (Walk.yields_bind (fun _ => Walk.appends_pure _)).mp h
      exact .inr ⟨w, w', hw, hw', (Walk.yields_pure.mp h).symm⟩
  · rintro (⟨rfl, h⟩ | ⟨w, w', hw, hw', rfl⟩)
    · exact ⟨none, h, Walk.yields_pure.mpr rfl⟩
    · exact ⟨some w, hw, (Walk.yields_bind (fun _ => Walk.appends_pure _)).mpr
        ⟨w', hw', Walk.yields_pure.mpr rfl⟩⟩

/-- What a walk yields: what the visit yields, with its members walked. -/
theorem walk_succ_yields {c : Course} {budget : Nat} {path : Path} {v : Value}
    {child : Option Value} :
    (c.walk (budget + 1) path v).Yields child ↔
      (child = none ∧ (c.visit path v).Yields none) ∨
        ∃ w w', (c.visit path v).Yields (some w) ∧
          (walkMembers (c.walk budget) path w).Yields w' ∧ child = some w' :=
  visit_bind_yields (c.appends_walk budget)

/-! ## The members of a map and of a list -/

section Members

variable {member : Path → Value → Walk (Option Value)} {path : Path}

theorem walkEntries_cons_yields (h : ∀ path v, (member path v).Appends) {k v : Value}
    {es es' : List (Value × Value)} :
    (walkEntries member path ((k, v) :: es)).Yields es' ↔
      ∃ child rest, (member (path ++ [k]) v).Yields child ∧
        (walkEntries member path es).Yields rest ∧
        (child.map fun w => (k, w)).toList ++ rest = es' := by
  have hrest : ∀ child : Option Value, Walk.Appends (do
      let rest ← walkEntries member path es
      return (child.map fun w => (k, w)).toList ++ rest) := fun _ =>
    (appends_walkEntries h path es).bind (fun _ => Walk.appends_pure _)
  refine Iff.trans (Walk.yields_bind (m := member (path ++ [k]) v) hrest) ?_
  refine exists_congr (fun child => ?_)
  rw [Walk.yields_bind (fun _ => Walk.appends_pure _)]
  simp only [Walk.yields_pure]
  constructor
  · rintro ⟨hc, rest, hr, he⟩
    exact ⟨rest, hc, hr, he⟩
  · rintro ⟨rest, hc, hr, he⟩
    exact ⟨hc, rest, hr, he⟩

theorem walkItems_cons_yields (h : ∀ path v, (member path v).Appends) {index : Nat} {v : Value}
    {vs vs' : List Value} :
    (walkItems member path index (v :: vs)).Yields vs' ↔
      ∃ child rest, (member (path ++ [.int index]) v).Yields child ∧
        (walkItems member path (index + 1) vs).Yields rest ∧ child.toList ++ rest = vs' := by
  have hrest : ∀ child : Option Value, Walk.Appends (do
      let rest ← walkItems member path (index + 1) vs
      return child.toList ++ rest) := fun _ =>
    (appends_walkItems h path (index + 1) vs).bind (fun _ => Walk.appends_pure _)
  refine Iff.trans (Walk.yields_bind (m := member (path ++ [Value.int (index : Int)]) v) hrest) ?_
  refine exists_congr (fun child => ?_)
  rw [Walk.yields_bind (fun _ => Walk.appends_pure _)]
  simp only [Walk.yields_pure]
  constructor
  · rintro ⟨hc, rest, hr, he⟩
    exact ⟨rest, hc, hr, he⟩
  · rintro ⟨rest, hc, hr, he⟩
    exact ⟨hc, rest, hr, he⟩

/-- Every entry that is left comes from an entry with its key. -/
theorem exists_of_mem_walkEntries (h : ∀ path v, (member path v).Appends)
    {es es' : List (Value × Value)} (hy : (walkEntries member path es).Yields es')
    {k w : Value} (hw : (k, w) ∈ es') :
    ∃ v, (k, v) ∈ es ∧ (member (path ++ [k]) v).Yields (some w) := by
  induction es generalizing es' with
  | nil =>
    cases Walk.yields_pure.mp hy
    cases hw
  | cons e es ih =>
    obtain ⟨child, rest, hc, hr, rfl⟩ := (walkEntries_cons_yields h).mp hy
    rcases List.mem_append.mp hw with hw | hw
    · cases child with
      | none => cases hw
      | some x =>
        cases List.mem_singleton.mp hw
        exact ⟨e.2, List.mem_cons_self, hc⟩
    · obtain ⟨v, hv, hm⟩ := ih hr hw
      exact ⟨v, List.mem_cons_of_mem _ hv, hm⟩

/-- Every entry yields something, and what it yields is left under its key. -/
theorem yields_of_mem_walkEntries (h : ∀ path v, (member path v).Appends)
    {es es' : List (Value × Value)} (hy : (walkEntries member path es).Yields es')
    {k v : Value} (hv : (k, v) ∈ es) :
    ∃ child, (member (path ++ [k]) v).Yields child ∧ ∀ w, child = some w → (k, w) ∈ es' := by
  induction es generalizing es' with
  | nil => cases hv
  | cons e es ih =>
    obtain ⟨child, rest, hc, hr, rfl⟩ := (walkEntries_cons_yields h).mp hy
    rcases List.mem_cons.mp hv with rfl | hv
    · exact ⟨child, hc, fun w hw => by simp [hw]⟩
    · obtain ⟨child', hc', hmem⟩ := ih hr hv
      exact ⟨child', hc', fun w hw => List.mem_append_right _ (hmem w hw)⟩

/-- The keys that are left stand in the order in which they came. -/
theorem keys_sublist_of_walkEntries (h : ∀ path v, (member path v).Appends)
    {es es' : List (Value × Value)} (hy : (walkEntries member path es).Yields es') :
    (es'.map Prod.fst).Sublist (es.map Prod.fst) := by
  induction es generalizing es' with
  | nil =>
    cases Walk.yields_pure.mp hy
    exact List.Sublist.refl _
  | cons e es ih =>
    obtain ⟨child, rest, -, hr, rfl⟩ := (walkEntries_cons_yields h).mp hy
    cases child with
    | none => exact (ih hr).cons _
    | some w => exact (ih hr).cons_cons _

/-- **Entries each of which yields its own value** yield all of them. -/
theorem yields_walkEntries_map (h : ∀ path v, (member path v).Appends)
    {g : Value × Value → Value} {es : List (Value × Value)}
    (hself : ∀ e ∈ es, (member (path ++ [e.1]) (g e)).Yields (some e.2)) :
    (walkEntries member path (es.map (fun e => (e.1, g e)))).Yields es := by
  induction es with
  | nil => exact Walk.yields_pure.mpr rfl
  | cons e es ih =>
    rw [List.forall_mem_cons] at hself
    exact (walkEntries_cons_yields h).mpr ⟨some e.2, es, hself.1, ih hself.2, rfl⟩

/-- Entries all of which are dropped yield nothing. -/
theorem yields_walkEntries_nil (h : ∀ path v, (member path v).Appends)
    {es : List (Value × Value)} (hnone : ∀ e ∈ es, (member (path ++ [e.1]) e.2).Yields none) :
    (walkEntries member path es).Yields [] := by
  induction es with
  | nil => exact Walk.yields_pure.mpr rfl
  | cons e es ih =>
    rw [List.forall_mem_cons] at hnone
    exact (walkEntries_cons_yields h).mpr ⟨none, [], hnone.1, ih hnone.2, rfl⟩

/-- Entries that follow others are walked after them. -/
theorem yields_walkEntries_append (h : ∀ path v, (member path v).Appends)
    {es fs es' fs' : List (Value × Value)} (he : (walkEntries member path es).Yields es')
    (hf : (walkEntries member path fs).Yields fs') :
    (walkEntries member path (es ++ fs)).Yields (es' ++ fs') := by
  induction es generalizing es' with
  | nil =>
    cases Walk.yields_pure.mp he
    exact hf
  | cons e es ih =>
    obtain ⟨child, rest, hc, hr, rfl⟩ := (walkEntries_cons_yields h).mp he
    exact (walkEntries_cons_yields h).mpr
      ⟨child, rest ++ fs', hc, ih hr, by rw [List.append_assoc]⟩

/-- Every item that is left comes from an item. -/
theorem exists_of_mem_walkItems (h : ∀ path v, (member path v).Appends) {index : Nat}
    {vs vs' : List Value} (hy : (walkItems member path index vs).Yields vs') {w : Value}
    (hw : w ∈ vs') :
    ∃ i : Nat, ∃ v ∈ vs, (member (path ++ [.int i]) v).Yields (some w) := by
  induction vs generalizing index vs' with
  | nil =>
    cases Walk.yields_pure.mp hy
    cases hw
  | cons v vs ih =>
    obtain ⟨child, rest, hc, hr, rfl⟩ := (walkItems_cons_yields h).mp hy
    rcases List.mem_append.mp hw with hw | hw
    · cases child with
      | none => cases hw
      | some x =>
        cases List.mem_singleton.mp hw
        exact ⟨_, v, List.mem_cons_self, hc⟩
    · obtain ⟨k, v', hv', hm⟩ := ih hr hw
      exact ⟨k, v', List.mem_cons_of_mem _ hv', hm⟩

/-- **Items none of which is dropped** keep their places. -/
theorem walkItems_yields_pointwise (h : ∀ path v, (member path v).Appends) {index : Nat}
    {vs vs' : List Value} (hy : (walkItems member path index vs).Yields vs')
    (hkept : ∀ i v, vs[i]? = some v → ¬ (member (path ++ [.int (index + i : Nat)]) v).Yields none) :
    vs'.length = vs.length ∧ ∀ i v, vs[i]? = some v →
      ∃ w, vs'[i]? = some w ∧ (member (path ++ [.int (index + i : Nat)]) v).Yields (some w) := by
  induction vs generalizing index vs' with
  | nil =>
    cases Walk.yields_pure.mp hy
    exact ⟨rfl, nofun⟩
  | cons v vs ih =>
    obtain ⟨child, rest, hc, hr, rfl⟩ := (walkItems_cons_yields h).mp hy
    cases child with
    | none => exact absurd hc (hkept 0 v rfl)
    | some w =>
      obtain ⟨hlen, hrest⟩ := ih hr (fun i v' hv' => by
        have := hkept (i + 1) v' hv'
        rwa [show index + (i + 1) = index + 1 + i by omega] at this)
      refine ⟨by simp [hlen], fun i v' hv' => ?_⟩
      cases i with
      | zero =>
        cases hv'
        exact ⟨w, rfl, hc⟩
      | succ i =>
        obtain ⟨w', hw', hm⟩ := hrest i v' hv'
        exact ⟨w', hw', by rwa [show index + (i + 1) = index + 1 + i by omega]⟩

/-- Lists of one length have the same places. -/
theorem exists_getElem?_of_length_eq {α β : Type} {xs : List α} {ys : List β}
    (h : xs.length = ys.length) {i : Nat} {x : α} (hx : xs[i]? = some x) :
    ∃ y, ys[i]? = some y :=
  ⟨_, List.getElem?_eq_getElem (h ▸ (List.getElem?_eq_some_iff.mp hx).1)⟩

theorem walkMembers_list_yields (h : ∀ path v, (member path v).Appends) {vs : List Value}
    {w : Value} (hy : (walkMembers member path (.list vs)).Yields w)
    (hkept : ∀ (i : Nat) v, vs[i]? = some v → ¬ (member (path ++ [.int i]) v).Yields none) :
    ∃ ws, w = .list ws ∧ vs.length = ws.length ∧ ∀ (i : Nat) v w, vs[i]? = some v →
      ws[i]? = some w → (member (path ++ [.int i]) v).Yields (some w) := by
  obtain ⟨ws, hws, rfl⟩ := Walk.yields_map.mp hy
  obtain ⟨hlen, hpoint⟩ := walkItems_yields_pointwise h hws (fun i v hv => by
    rw [Nat.zero_add]
    exact hkept i v hv)
  refine ⟨ws, rfl, hlen.symm, fun i v w hv hw => ?_⟩
  obtain ⟨w', hw', hm⟩ := hpoint i v hv
  rw [hw] at hw'
  cases hw'
  rwa [Nat.zero_add] at hm

/-- **Items each of which yields its own value** yield all of them. -/
theorem yields_walkItems_map (h : ∀ path v, (member path v).Appends) {g : Value → Value}
    {index : Nat} {vs : List Value}
    (hself : ∀ i v, vs[i]? = some v →
      (member (path ++ [.int (index + i : Nat)]) (g v)).Yields (some v)) :
    (walkItems member path index (vs.map g)).Yields vs := by
  induction vs generalizing index with
  | nil => exact Walk.yields_pure.mpr rfl
  | cons v vs ih =>
    refine (walkItems_cons_yields h).mpr ⟨some v, vs, hself 0 v rfl, ih (fun i v' hv' => ?_), rfl⟩
    have := hself (i + 1) v' hv'
    rwa [show index + (i + 1) = index + 1 + i by omega] at this

end Members

end Course

end Conform
