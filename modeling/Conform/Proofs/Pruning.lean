import Conform.Proofs.SideBySide
import Conform.Proofs.Sorting

/-!
# Keeping and dropping what is not declared

What the schema does not declare is kept or dropped as the options say. The two validations raise
the same errors (`Course.related_keeping_stripping`), for below an undeclared path nothing is
declared, and so nothing is checked there. And where they return, the one result is the other
without the entries that are not declared (`Value.pruned`).
-/

namespace Conform

/-- Options that keep what is not declared. -/
def Options.keeping (o : Options) : Options := { o with stripUnknown := false }

/-- Options that drop what is not declared. -/
def Options.stripping (o : Options) : Options := { o with stripUnknown := true }

/-! ## Taking out what is not declared -/

namespace Value

mutual
/-- **What is left of the value at a path** when every entry is taken out whose path is not
declared. -/
def pruned (s : Schema) : Path → Value → Value
  | path, .map es => .map (prunedEntries s path es)
  | path, .list vs => .list (prunedItems s path 0 vs)
  | _, v => v

/-- The declared entries of a map, pruned. -/
def prunedEntries (s : Schema) : Path → List (Value × Value) → List (Value × Value)
  | _, [] => []
  | path, (k, v) :: es =>
    if (s.locate (path ++ [k])).isSome then
      (k, pruned s (path ++ [k]) v) :: prunedEntries s path es
    else prunedEntries s path es

/-- The items of a list from an index on, pruned. -/
def prunedItems (s : Schema) : Path → Nat → List Value → List Value
  | _, _, [] => []
  | path, index, v :: vs =>
    pruned s (path ++ [.int index]) v :: prunedItems s path (index + 1) vs
end

theorem prunedEntries_eq (s : Schema) (path : Path) (es : List (Value × Value)) :
    prunedEntries s path es = (es.filter (fun e => (s.locate (path ++ [e.1])).isSome)).map
      (fun e => (e.1, e.2.pruned s (path ++ [e.1]))) := by
  induction es with
  | nil => rfl
  | cons e es ih =>
    rw [prunedEntries, List.filter_cons, ih]
    split <;> rfl

end Value

/-- No key of a field is an index, so all indices lead to the same types. -/
theorem Node.typesAt_index (n : Node) (i j : Nat) : n.typesAt (.int i) = n.typesAt (.int j) := by
  cases n with
  | array p t count => simp [Node.typesAt, Value.isIndex]
  | _ => rfl

theorem TypeSpec.typesAt_index (t : TypeSpec) (i j : Nat) :
    t.typesAt (.int i) = t.typesAt (.int j) := by
  unfold typesAt
  simp only [Node.typesAt_index _ i j]

/-- **Every item of a list is governed by the same type.** -/
theorem Schema.locate_index (s : Schema) (path more : Path) (i j : Nat) :
    s.locate (path ++ .int i :: more) = s.locate (path ++ .int j :: more) := by
  by_cases hne : path = []
  · subst hne
    -- a mapping declares nothing for an index
    show s.locate (.int i :: more) = s.locate (.int j :: more)
    rw [locate_cons, locate_cons]
    rfl
  · rw [locate_eq_head?_routes, locate_eq_head?_routes, s.routes_append hne, s.routes_append hne]
    unfold reach
    simp only [TypeSpec.typesAt_index _ i j]

namespace Value

/-- Pruning goes by what is declared below a path. -/
theorem pruned_congr {s : Schema} {path path' : Path}
    (h : ∀ more, s.locate (path ++ more) = s.locate (path' ++ more)) (v : Value) :
    v.pruned s path = v.pruned s path' := by
  induction v using members_induction generalizing path path' with
  | map es ih =>
    have hkey : ∀ key, s.locate (path ++ [key]) = s.locate (path' ++ [key]) := fun key => h [key]
    rw [pruned, pruned, prunedEntries_eq, prunedEntries_eq]
    simp only [hkey]
    refine congrArg map (List.map_congr_left (fun e he => ?_))
    have hself : e.2.pruned s (path ++ [e.1]) = e.2.pruned s (path' ++ [e.1]) :=
      ih e (List.mem_filter.mp he).1 (fun more => by simpa using h (e.1 :: more))
    rw [hself]
  | list vs ih =>
    have hitems : ∀ (ws : List Value) (index : Nat), (∀ v ∈ ws, v ∈ vs) →
        prunedItems s path index ws = prunedItems s path' index ws := by
      intro ws
      induction ws with
      | nil => exact fun _ _ => rfl
      | cons w ws hws =>
        intro index hmem
        rw [List.forall_mem_cons] at hmem
        have hself : w.pruned s (path ++ [.int index]) = w.pruned s (path' ++ [.int index]) :=
          ih w hmem.1 (fun more => by simpa using h (.int index :: more))
        rw [prunedItems, prunedItems, hws _ hmem.2, hself]
    rw [pruned, pruned, hitems vs 0 (fun _ hv => hv)]
  | other v hleaf =>
    cases v with
    | map es => cases hleaf
    | list vs => cases hleaf
    | _ => rfl

/-- Items are pruned alike, whatever their place. -/
theorem prunedItems_eq_map (s : Schema) (path : Path) (index : Nat) (vs : List Value) :
    prunedItems s path index vs = vs.map (fun v => v.pruned s (path ++ [.int (0 : Nat)])) := by
  induction vs generalizing index with
  | nil => rfl
  | cons v vs ih =>
    have hself : v.pruned s (path ++ [.int index]) = v.pruned s (path ++ [.int (0 : Nat)]) :=
      pruned_congr (fun more => by simpa using s.locate_index path more index 0) v
    rw [prunedItems, ih, List.map_cons, hself]

/-- **Pruning may come before or after sorting.** -/
theorem sortKeys_pruned (s : Schema) (path : Path) (v : Value) :
    (v.pruned s path).sortKeys = v.sortKeys.pruned s path := by
  induction v using members_induction generalizing path with
  | map es ih =>
    let declared : Value × Value → Bool := fun e => (s.locate (path ++ [e.1])).isSome
    have hsorted : (sortValues es).mergeSort entryLe =
        (es.mergeSort entryLe).map (fun e => (e.1, e.2.sortKeys)) := by
      rw [sortValues_eq_map, mergeSort_map]
    rw [pruned, sortKeys, sortKeys, pruned, prunedEntries_eq, prunedEntries_eq, hsorted,
      sortValues_eq_map, List.map_map, List.filter_map, List.map_map]
    show map (((es.filter declared).map (fun e => (e.1, (e.2.pruned s (path ++ [e.1])).sortKeys))
      ).mergeSort entryLe) = map (((es.mergeSort entryLe).filter declared).map
        (fun e => (e.1, e.2.sortKeys.pruned s (path ++ [e.1]))))
    rw [mergeSort_map (fun e => (e.2.pruned s (path ++ [e.1])).sortKeys),
      mergeSort_filter entryLe_trans entryLe_total]
    refine congrArg map (List.map_congr_left (fun e he => ?_))
    rw [ih e (List.mem_mergeSort.mp (List.mem_filter.mp he).1)]
  | list vs ih =>
    rw [pruned, sortKeys, sortKeys, pruned, prunedItems_eq_map, prunedItems_eq_map,
      sortItems_eq_map, sortItems_eq_map, List.map_map, List.map_map]
    exact congrArg list (List.map_congr_left (fun v hv => ih v hv _))
  | other v hleaf =>
    cases v with
    | map es => cases hleaf
    | list vs => cases hleaf
    | _ => rfl

end Value

/-! ## The same errors -/

/-- The same notes and the same early ends. -/
def Comparison.same : Comparison where
  notes := .equal
  ends := Eq

theorem Walk.related_self {α : Type} (m : Walk α) : Walk.Related .same Eq m m := by
  unfold Walk.Related
  cases m.run [] with
  | error e => exact rfl
  | ok r => exact ⟨rfl, rfl⟩

namespace Course

open Walk

variable {s : Schema} {o : Options} {path : Path} {budget : Nat}

/-- A declared value is visited in the same way. -/
theorem visit_keeping_stripping {t : TypeSpec} (h : s.locate path = some t) (v : Value) :
    (⟨s, o.keeping⟩ : Course).visit path v = (⟨s, o.stripping⟩ : Course).visit path v := by
  unfold visit
  dsimp only
  rw [h]
  rfl

/-- **Members raise the same errors** if each of them does. -/
theorem related_walkMembers_same {member member' : Path → Value → Walk (Option Value)}
    (h : ∀ path v, (member path v).Appends) (h' : ∀ path v, (member' path v).Appends)
    (hmembers : ∀ key v, Related .same (fun _ _ => True) (member (path ++ [key]) v)
      (member' (path ++ [key]) v)) (v : Value) :
    Related .same (fun _ _ => True) (walkMembers member path v) (walkMembers member' path v) := by
  cases v with
  | map es =>
    exact (related_walkEntries h h' .any
      (List.forall₂_same.mpr (fun e _ => hmembers e.1 e.2))).map (fun _ _ _ => trivial)
  | list vs =>
    exact (related_walkItems h h' .any
      (List.forall₂_same.mpr (fun v _ i => hmembers (.int i) v))).map (fun _ _ _ => trivial)
  | _ => exact related_pure trivial

/-- **Keeping and dropping raise the same errors.** -/
theorem related_keeping_stripping (hne : path ≠ []) (v : Value) :
    Related .same (fun _ _ => True) ((⟨s, o.keeping⟩ : Course).walk budget path v)
      ((⟨s, o.stripping⟩ : Course).walk budget path v) := by
  induction budget generalizing path v with
  | zero => exact related_pure trivial
  | succ budget ih =>
    cases ht : s.locate path with
    | none =>
      -- nothing is checked here, nor below
      rw [walk_of_locate_eq_none hne ht, walk_of_locate_eq_none hne ht]
      exact related_pure trivial
    | some t =>
      rw [walk, walk, visit_keeping_stripping ht]
      refine (related_self _).bind (appends_walkOn (appends_walk _ budget) path)
        (appends_walkOn (appends_walk _ budget) path) (fun child child' hchild => ?_)
      subst hchild
      cases child with
      | none => exact related_pure trivial
      | some w =>
        exact (related_walkMembers_same (appends_walk _ budget) (appends_walk _ budget)
          (fun key u => ih (by simp) u) w).bind (fun _ => appends_pure _)
            (fun _ => appends_pure _) (fun _ _ _ => related_pure trivial)

/-! ## The same results, pruned -/

section Members

variable {member member' : Path → Value → Walk (Option Value)}

/-- What is left of a member when it is dropped unless it is declared. -/
def prunedChild (s : Schema) (path : Path) (child : Option Value) : Option Value :=
  if (s.locate path).isSome then child.map (·.pruned s path) else none

theorem yields_walkEntries_pruned (h : ∀ path v, (member path v).Appends)
    (h' : ∀ path v, (member' path v).Appends) (hmember : ∀ key v child,
      (member (path ++ [key]) v).Yields child →
      (member' (path ++ [key]) v).Yields (prunedChild s (path ++ [key]) child))
    {es es' : List (Value × Value)} (hy : (walkEntries member path es).Yields es') :
    (walkEntries member' path es).Yields (Value.prunedEntries s path es') := by
  induction es generalizing es' with
  | nil =>
    cases Walk.yields_pure.mp hy
    exact Walk.yields_pure.mpr rfl
  | cons e es ih =>
    obtain ⟨child, rest, hc, hr, rfl⟩ := (walkEntries_cons_yields h).mp hy
    refine (walkEntries_cons_yields h').mpr ⟨_, _, hmember _ _ _ hc, ih hr, ?_⟩
    cases child with
    | none => simp [prunedChild]
    | some w =>
      rw [prunedChild]
      show _ = Value.prunedEntries s path ((e.1, w) :: rest)
      rw [Value.prunedEntries]
      split <;> simp

theorem yields_walkItems_pruned (h : ∀ path v, (member path v).Appends)
    (h' : ∀ path v, (member' path v).Appends)
    (hdeclared : ∀ i : Nat, (s.locate (path ++ [.int i])).isSome = true)
    (hmember : ∀ key v child, (member (path ++ [key]) v).Yields child →
      (member' (path ++ [key]) v).Yields (prunedChild s (path ++ [key]) child))
    {index : Nat} {vs vs' : List Value} (hy : (walkItems member path index vs).Yields vs') :
    (walkItems member' path index vs).Yields (Value.prunedItems s path 0 vs') := by
  induction vs generalizing index vs' with
  | nil =>
    cases Walk.yields_pure.mp hy
    exact Walk.yields_pure.mpr rfl
  | cons v vs ih =>
    obtain ⟨child, rest, hc, hr, rfl⟩ := (walkItems_cons_yields h).mp hy
    refine (walkItems_cons_yields h').mpr ⟨_, _, hmember _ _ _ hc, ih hr, ?_⟩
    rw [Value.prunedItems_eq_map, Value.prunedItems_eq_map, List.map_append, prunedChild,
      if_pos (hdeclared index)]
    congr 1
    -- an item may move ahead, but it stays under the same type
    cases child with
    | none => rfl
    | some w =>
      exact congrArg (fun u => [u]) (Value.pruned_congr
        (fun more => by simpa using s.locate_index path more index 0) w)

end Members

/-- What is not declared is dropped. -/
theorem stripping_of_undeclared (hne : path ≠ []) (h : s.locate path = none) (v : Value)
    (child : Option Value) :
    ((⟨s, o.stripping⟩ : Course).walk budget path v).Yields (prunedChild s path child) := by
  have hdropped : (⟨s, o.stripping⟩ : Course).unknown v = none := by cases v <;> rfl
  rw [walk_of_locate_eq_none hne h, hdropped, prunedChild, h]
  exact Walk.yields_pure.mpr rfl

/-- **What is dropped is what is not declared**, and nothing else. -/
theorem stripping_of_keeping (hne : path ≠ []) (hbudget : s.depth < budget + path.length)
    {v : Value} {child : Option Value}
    (h : ((⟨s, o.keeping⟩ : Course).walk budget path v).Yields child) :
    ((⟨s, o.stripping⟩ : Course).walk budget path v).Yields (prunedChild s path child) := by
  induction budget generalizing path v child with
  | zero =>
    exact stripping_of_undeclared hne
      (Schema.locate_eq_none_of_depth_lt (Nat.zero_add path.length ▸ hbudget)) v child
  | succ budget ih =>
    cases ht : s.locate path with
    | none => exact stripping_of_undeclared hne ht v child
    | some t =>
      rw [prunedChild, ht, if_pos (show (some t).isSome = true from rfl)]
      rcases walk_succ_yields.mp h with ⟨rfl, hvisit⟩ | ⟨x, w, hvisit, hmembers, rfl⟩
      · rw [visit_keeping_stripping ht] at hvisit
        exact walk_succ_yields.mpr (.inl ⟨rfl, hvisit⟩)
      · have hvisit' := hvisit
        rw [visit_keeping_stripping ht] at hvisit'
        refine walk_succ_yields.mpr (.inr ⟨x, _, hvisit', ?_, rfl⟩)
        have hkept := appends_walk ⟨s, o.keeping⟩ budget
        have hstripped := appends_walk ⟨s, o.stripping⟩ budget
        have hmember : ∀ key v child,
            ((⟨s, o.keeping⟩ : Course).walk budget (path ++ [key]) v).Yields child →
            ((⟨s, o.stripping⟩ : Course).walk budget (path ++ [key]) v).Yields
              (prunedChild s (path ++ [key]) child) := fun key v child =>
          ih (by simp) (depth_lt_of_member (c := ⟨s, o.keeping⟩) key hbudget)
        cases x with
        | map es =>
          obtain ⟨es', hes', rfl⟩ := Walk.yields_map.mp hmembers
          exact Walk.yields_map.mpr ⟨_, yields_walkEntries_pruned hkept hstripped hmember hes', rfl⟩
        | list vs =>
          obtain ⟨vs', hvs', rfl⟩ := Walk.yields_map.mp hmembers
          have hdeclared : ∀ i : Nat, (s.locate (path ++ [.int i])).isSome = true := by
            intro i
            rcases locate_item hvisit i with ⟨u, hu⟩ | ⟨hnone, -⟩
            · exact Option.isSome_iff_exists.mpr ⟨u, hu⟩
            · rw [show s.locate path = none from hnone] at ht
              cases ht
          exact Walk.yields_map.mpr
            ⟨_, yields_walkItems_pruned hkept hstripped hdeclared hmember hvs', rfl⟩
        | _ =>
          cases Walk.yields_pure.mp hmembers
          exact Walk.yields_pure.mpr rfl

end Course

/-! ## Both validations -/

section Validation

variable {fs : Fields} {o : Options} {data r : Value}

/-- Walks with the same errors have outcomes with the same errors. -/
theorem Options.conclude_error_iff {m m' : Walk Value}
    (h : Walk.Related .same (fun _ _ => True) m m') (e : Failure) :
    o.keeping.conclude (m.run []) = .error e ↔ o.stripping.conclude (m'.run []) = .error e := by
  unfold Walk.Related at h
  cases hm : m.run [] with
  | error i =>
    cases hm' : m'.run [] with
    | error i' =>
      rw [hm, hm'] at h
      rw [show i = i' from h]
      cases i' <;> exact Iff.rfl
    | ok r => rw [hm, hm'] at h; exact h.elim
  | ok r =>
    obtain ⟨v, notes⟩ := r
    cases hm' : m'.run [] with
    | error i' => rw [hm, hm'] at h; exact h.elim
    | ok r' =>
      obtain ⟨v', notes'⟩ := r'
      rw [hm, hm'] at h
      rw [show notes = notes' from h.2]
      cases notes' with
      | nil => exact ⟨nofun, nofun⟩
      | cons => exact Iff.rfl

/-- **A mapping raises the same errors** whether it keeps or drops what it does not declare. -/
theorem Fields.validate_stripping_error_iff (e : Failure) :
    fs.validate o.keeping data = .error e ↔ fs.validate o.stripping data = .error e := by
  unfold Fields.validate
  cases data.plain with
  | error i => exact Iff.rfl
  | ok w =>
    cases w with
    | map es =>
      exact Options.conclude_error_iff (Course.related_walkMembers_same
        (Course.appends_walk _ _) (Course.appends_walk _ _)
        (fun key v => Course.related_keeping_stripping (by simp) v) _) e
    | _ => exact Iff.rfl

/-- **A mapping that drops what it does not declare** returns what is kept otherwise, pruned. -/
theorem Fields.validate_stripping (h : fs.validate o.keeping data = .ok r) :
    fs.validate o.stripping data = .ok (r.pruned (.mapping fs) []) := by
  obtain ⟨es, v, hplain, hv, rfl⟩ := Fields.validate_eq_ok.mp h
  obtain ⟨es', hes', rfl⟩ := Walk.yields_map.mp hv
  have hpruned := Course.yields_walkEntries_pruned (s := .mapping fs)
    (Course.appends_walk _ _) (Course.appends_walk _ _)
    (fun key v child => Course.stripping_of_keeping (by simp) (by simp)) hes'
  refine Fields.validate_eq_ok.mpr ⟨es, _, hplain, Walk.yields_map.mpr ⟨_, hpruned, rfl⟩, ?_⟩
  show _ = if o.sortKeys then _ else _
  show Value.pruned (.mapping fs) [] (if o.sortKeys then _ else _) = _
  split
  · rw [← Value.sortKeys_pruned]
    rfl
  · rfl

end Validation

end Conform
