import Conform.Proofs.InStep
import Conform.Proofs.CleanWalks

/-!
# Members that are walked alone

The data shares nothing, and a default that is put in brings its own cells. So there are no cells
around a value of the data, and what becomes of it may be read before the next one is walked
(`Course.walkAlone`). Told in this way, the walk goes through the data member by member, as it does
where defaults are trees: a value that is there is visited, and then its members are walked alone
(`Course.walkAlone_succ`, `Course.walkShared_eq`). Only in place of a value that is absent cells
come into play.

What is true of walks for every sharing of defaults can thus be shown in terms of values. Walks
alone find the same at two places below which the same is declared (`Course.related_walkAlone`), and
need no more of their budget than leads to the end of the schema (`Course.walkAlone_add_budget`).
-/

namespace Conform

namespace LinkedWalk

variable {α β γ α' β' γ' : Type}

/-- **A walk left alone**: it starts from no cells. -/
def alone (x : LinkedWalk α) : Walk α := Prod.fst <$> x.run []

theorem alone_map (g : α → β) (x : LinkedWalk α) : alone (g <$> x) = g <$> alone x := by
  unfold alone
  rw [StateT.run_map, Functor.map_map, Functor.map_map]

/-- A walk that starts with what mirrors a walk of values. -/
theorem Mirrors.alone_bind {x : LinkedWalk α} {m : Walk γ} {f : γ → α} (h : x.Mirrors f m)
    (k : α → LinkedWalk β) : alone (x >>= k) = m >>= fun a => alone (k (f a)) := by
  unfold alone
  rw [StateT.run_bind, h [], bind_map_left, map_bind]

/-- What mirrors a walk of values. -/
theorem Mirrors.alone {x : LinkedWalk α} {m : Walk γ} {f : γ → α} (h : x.Mirrors f m) :
    LinkedWalk.alone x = f <$> m := by
  rw [LinkedWalk.alone, h [], Functor.map_map]

/-- **A walk that takes no cells**, if it starts from none. -/
def TakesNone (x : LinkedWalk α) : Prop := x.run [] = (fun a => (a, [])) <$> alone x

theorem takesNone_of_ensures {x : LinkedWalk α}
    (h : x.Ensures [] fun _ cells' => cells' = []) : x.TakesNone := by
  funext notes
  show (x.run []).run notes = ((fun a => (a, ([] : Cells))) <$> Prod.fst <$> x.run []).run notes
  rw [Functor.map_map, StateT.run_map]
  cases hrun : (x.run []).run notes with
  | error e => rfl
  | ok out =>
    have hcells : out.1.2 = [] := h notes out hrun
    obtain ⟨⟨a, cells⟩, notes'⟩ := out
    cases hcells
    rfl

/-- **One walk after another** may be left alone one after the other, if the first takes no
cells. -/
theorem alone_seq {x : LinkedWalk α} (hx : x.TakesNone) (y : LinkedWalk β) {join : α → β → γ}
    {read : γ → γ'} {readFirst : α → α'} {readSecond : β → β'} {join' : α' → β' → γ'}
    (hread : ∀ a b, read (join a b) = join' (readFirst a) (readSecond b)) :
    read <$> alone (x >>= fun a => y >>= fun b => Pure.pure (join a b)) =
      readFirst <$> alone x >>= fun a => readSecond <$> alone y >>= fun b =>
        Pure.pure (join' a b) := by
  have hfirst : alone (x >>= fun a => y >>= fun b => Pure.pure (join a b)) =
      alone x >>= fun a => alone y >>= fun b => Pure.pure (join a b) := by
    unfold TakesNone at hx
    rw [alone, StateT.run_bind, hx, bind_map_left, map_bind]
    refine bind_congr (fun a => ?_)
    rw [StateT.run_bind, map_bind, alone, bind_map_left]
    rfl
  rw [hfirst, map_bind, bind_map_left]
  refine bind_congr (fun a => ?_)
  rw [map_bind, bind_map_left]
  exact bind_congr (fun b => by rw [map_pure, hread])

end LinkedWalk

namespace Course

open LinkedWalk Linked

variable {c : Course} {path : Path} {budget : Nat}

/-- **The walk of a value that shares nothing**, left alone. -/
def walkAlone (c : Course) (budget : Nat) (path : Path) (v : Value) : Walk (Option Value) :=
  Option.map (·.value []) <$> alone (c.walkLinked budget path v.unshared)

/-- Every default may be put in where nothing is asked of leaves. -/
theorem untupled_trivial (c : Course) : ∀ path t d, c.schema.locate path = some t →
    t.first.default? = some d → d.Untupled fun _ => true :=
  fun _ _ d _ _ => Value.untupled_of_trivial (fun _ => rfl) d

theorem sound_everywhere_true (v : Value) : v.unshared.Sound fun _ => true :=
  sound_unshared (Value.everywhere_iff.mpr (fun _ _ _ => rfl))

/-- What is made of cells that are not there. -/
theorem eq_nil_of_becomes {f : Value → Bool} {cells : Cells} (h : Cells.Becomes f [] cells) :
    cells = [] := List.length_eq_zero_iff.mp h.length_eq

/-- The walk of a value that shares nothing takes no cells. -/
theorem takesNone_walkLinked (c : Course) (budget : Nat) (path : Path) (v : Value) :
    (c.walkLinked budget path v.unshared).TakesNone := by
  exact takesNone_of_ensures ((walkLinked_ensures (fun _ _ => rfl) c.untupled_trivial budget
    (sound_everywhere_true v) (List.forall_mem_nil _)).mono
      (fun _ cells' h => eq_nil_of_becomes h.1))

/-! ## Member by member -/

/-- **Entries are walked alone**, one after the other. -/
theorem alone_walkLinkedEntries (es : List (Value × Value)) :
    List.map (fun e : Value × Linked => (e.1, e.2.value [])) <$>
        alone (walkLinkedEntries (c.walkLinked budget) path (Value.unsharedEntries es)) =
      walkEntries (c.walkAlone budget) path es := by
  induction es with
  | nil => rfl
  | cons e es ih =>
    rw [walkEntries, ← ih]
    refine alone_seq (c.takesNone_walkLinked budget (path ++ [e.1]) e.2) _ (fun child rest => ?_)
    rw [List.map_append]
    cases child <;> rfl

/-- **Items are walked alone**, one after the other. -/
theorem alone_walkLinkedItems (index : Nat) (vs : List Value) :
    List.map (·.value []) <$>
        alone (walkLinkedItems (c.walkLinked budget) path index (vs.map Value.unshared)) =
      walkItems (c.walkAlone budget) path index vs := by
  induction vs generalizing index with
  | nil => rfl
  | cons v vs ih =>
    rw [walkItems, ← ih]
    refine alone_seq (c.takesNone_walkLinked budget (path ++ [.int index]) v) _
      (fun child rest => ?_)
    rw [List.map_append]
    cases child <;> rfl

/-- **The members of a value are walked alone.** -/
theorem alone_walkLinkedMembers (v : Value) :
    (·.value []) <$> alone (walkLinkedMembers (c.walkLinked budget) path v.unshared) =
      walkMembers (c.walkAlone budget) path v := by
  unfold walkLinkedMembers
  rw [Value.update_unshared]
  cases v with
  | map es =>
    rw [Value.unshared_map, walkMembers, ← alone_walkLinkedEntries, Functor.map_map]
    dsimp only
    rw [alone_map, Functor.map_map]
    exact congrArg (· <$> _) (funext fun es' => congrArg Value.map (entriesWith_eq_map es'))
  | list vs =>
    rw [Value.unshared_list, walkMembers, ← alone_walkLinkedItems, Functor.map_map]
    dsimp only
    rw [alone_map, Functor.map_map]
    exact congrArg (· <$> _) (funext fun ls => congrArg Value.list (valuesWith_eq_map ls))
  | tuple vs =>
    rw [Value.unshared_tuple, walkMembers, ← Value.value_unshared (.tuple vs) [],
      Value.unshared_tuple]
    · rfl
    · intro _ h
      cases h
    · intro _ h
      cases h
  | _ => rfl

/-- A walk that mirrors one of values is the walk of values. -/
theorem walkAlone_eq_of_mirrors {v : Value} {m : Walk (Option Value)}
    (h : (c.walkLinked budget path v.unshared).Mirrors (Option.map Value.unshared) m) :
    c.walkAlone budget path v = m := by
  unfold walkAlone
  rw [h.alone, Functor.map_map]
  refine (congrArg (· <$> m) (funext fun child => ?_)).trans (id_map _)
  cases child with
  | none => rfl
  | some w => exact congrArg some (Value.value_unshared w [])

/-- Where no default that a walk can come to shares a container, the walk is that of the value. -/
theorem walkAlone_eq_walk (hne : path ≠ [])
    (hshare : ∀ more t, c.schema.locate (path ++ more) = some t → t.sharesNothing = true)
    (v : Value) : c.walkAlone budget path v = c.walk budget path v :=
  walkAlone_eq_of_mirrors (walkLinked_mirrors budget hne hshare v)

/-- What is not declared is kept or dropped. -/
theorem walkAlone_undeclared (h : c.schema.locate path = none) (v : Value) :
    c.walkAlone budget path v = pure ((c.unknown v).map Value.withoutAbsent) :=
  walkAlone_eq_of_mirrors (walkLinked_undeclared_mirrors h budget v)

/-- A value whose visit mirrors that of a tree is visited, and then its members are walked. -/
theorem walkAlone_of_mirrors (hne : path ≠ []) {v : Value}
    (h : (c.visitLinked path v.unshared).Mirrors (Option.map Value.unshared) (c.visit path v)) :
    c.walkAlone (budget + 1) path v = (do
      match ← c.visit path v with
      | none => return none
      | some w => return some (← walkMembers (c.walkAlone budget) path w)) := by
  cases ht : c.schema.locate path with
  | none =>
    -- nothing is declared below, and the walk of a tree does not do anything else
    have hmembers : walkMembers (c.walkAlone budget) path = walkMembers (c.walk budget) path := by
      funext w
      refine walkMembers_congr (fun key v => ?_) w
      have hkey := Schema.locate_append_eq_none hne ht [key]
      rw [walkAlone_undeclared hkey, walk_of_locate_eq_none (by simp) hkey]
    rw [walkAlone_undeclared ht, hmembers, ← walk_of_locate_eq_none hne ht (budget + 1)]
    rfl
  | some t =>
    have hwalk : alone (c.walkLinked (budget + 1) path v.unshared) = c.visit path v >>= fun child =>
        alone (c.descend budget path (child.map Value.unshared)) := by
      rw [walkLinked_succ]
      exact h.alone_bind _
    show Option.map (·.value []) <$> alone (c.walkLinked (budget + 1) path v.unshared) = _
    rw [hwalk, map_bind]
    refine bind_congr (fun child => ?_)
    cases child with
    | none => rfl
    | some w =>
      rw [Option.map_some, descend, walkBelow_of_locate ht, alone_map, Functor.map_map]
      dsimp only
      rw [← alone_walkLinkedMembers, bind_map_left, map_eq_pure_bind]
      rfl

/-- **A value that is there is walked alone** like a value whose default is a tree: it is visited,
and then its members are walked. -/
theorem walkAlone_succ (hne : path ≠ []) {v : Value} (hv : v ≠ .absent) :
    c.walkAlone (budget + 1) path v = (do
      match ← c.visit path v with
      | none => return none
      | some w => return some (← walkMembers (c.walkAlone budget) path w)) :=
  walkAlone_of_mirrors hne (visitLinked_present_mirrors hv)

/-- **The walk of the root** goes through the data value by value. -/
theorem walkShared_eq (es : List (Value × Value)) :
    c.walkShared es = walkMembers (c.walkAlone c.schema.depth) [] (.map es) := by
  have hnone : (walkLinkedMembers (c.walkLinked c.schema.depth) []
      (Value.map es).unshared).TakesNone := by
    refine takesNone_of_ensures ((walkLinkedMembers_ensures (fun _ _ => rfl)
      (fun path l cells hl hcells => walkLinked_ensures (fun _ _ => rfl) c.untupled_trivial _ hl
        hcells) (sound_everywhere_true (.map es)) (by rw [Value.unshared_map]; nofun)
      (List.forall_mem_nil _)).mono (fun _ cells' h => eq_nil_of_becomes h.1))
  unfold TakesNone at hnone
  rw [← alone_walkLinkedMembers, walkShared, hnone, bind_map_left, map_eq_pure_bind]

/-- A mark is dropped where nothing is asked for. -/
theorem walkAlone_absent_of_dropped (h : ∀ t, c.schema.locate path = some t →
    t.first.default? = none ∧ t.first.required = false) :
    c.walkAlone budget path .absent = pure none := by
  have hwalk : c.walkLinked budget path (.atom .absent) = pure none := by
    cases budget with
    | zero => rfl
    | succ budget =>
      have hvisit : c.visitLinked path (.atom .absent) = pure none := by
        cases ht : c.schema.locate path with
        | none => exact visitLinked_undeclared ht _
        | some t =>
          obtain ⟨hd, hr⟩ := h t ht
          rw [visitLinked_absent ht, TypeSpec.fill_of_none hd, apply_absent_of_none hd, hr]
          rfl
      rw [walkLinked_succ, hvisit]
      rfl
  exact congrArg (fun x => Option.map (·.value []) <$> alone x) hwalk

/-! ## Budgets -/

/-- Members that are walked alike are walked alike together. -/
theorem walkLinkedMembers_congr {member member' : Path → Linked → LinkedWalk (Option Linked)}
    (h : ∀ key l, member (path ++ [key]) l = member' (path ++ [key]) l) (l : Linked) :
    walkLinkedMembers member path l = walkLinkedMembers member' path l := by
  have hmember : ∀ key m, LinkedWalk.InStep .equal (member (path ++ [key]) m)
      (member' (path ++ [key]) m) := fun key m cells => by
    rw [h key m]
    rfl
  exact funext (fun cells => walkLinkedMembers_inStep hmember l cells)

/-- **A walk needs no more of its budget** than leads to the end of the schema. -/
theorem walkLinked_add_budget (h : c.schema.depth < budget + path.length) (more : Nat)
    (l : Linked) : c.walkLinked (budget + more) path l = c.walkLinked budget path l := by
  induction budget generalizing path l with
  | zero =>
    rw [Nat.zero_add] at h ⊢
    have hnone := Schema.locate_eq_none_of_depth_lt h
    cases more with
    | zero => rfl
    | succ more =>
      rw [walkLinked_succ, visitLinked_undeclared hnone, bind_assoc]
      refine bind_congr (fun cells => ?_)
      rw [pure_bind]
      cases c.unknown (l.value cells) with
      | none => rfl
      | some _ =>
        rw [Option.map_some, descend, walkBelow_undeclared hnone, map_eq_pure_bind]
  | succ budget ih =>
    rw [Nat.add_right_comm, walkLinked_succ, walkLinked_succ]
    refine bind_congr (fun child => ?_)
    cases child with
    | none => rfl
    | some m =>
      have hmembers : ∀ key l, c.walkLinked (budget + more) (path ++ [key]) l =
          c.walkLinked budget (path ++ [key]) l := by
        refine fun key l => ih ?_ l
        rw [List.length_append, List.length_singleton]
        omega
      rw [descend, descend, walkBelow, walkBelow, walkLinkedMembers_congr hmembers]

/-- A value of the data needs no more of it either. -/
theorem walkAlone_add_budget (h : c.schema.depth < budget + path.length) (more : Nat) (v : Value) :
    c.walkAlone (budget + more) path v = c.walkAlone budget path v := by
  unfold walkAlone
  rw [walkLinked_add_budget h]

/-- Where the budget has run out nothing is declared, and one more key of it would change
nothing. -/
theorem exists_walkAlone_succ (h : c.schema.depth < budget + path.length) :
    ∃ b, c.schema.depth < b + 1 + path.length ∧
      ∀ v, c.walkAlone budget path v = c.walkAlone (b + 1) path v := by
  cases budget with
  | succ b => exact ⟨b, h, fun _ => rfl⟩
  | zero => exact ⟨0, by omega, fun v => (walkAlone_add_budget h 1 v).symm⟩

/-- The walk of the root may have more of a budget. -/
theorem walkShared_add_budget (more : Nat) (es : List (Value × Value)) :
    walkMembers (c.walkAlone (c.schema.depth + more)) [] (.map es) = c.walkShared es := by
  rw [walkShared_eq]
  exact walkMembers_congr (fun _ v => walkAlone_add_budget (by simp) more v) (.map es)

/-! ## Two places -/

section Places

variable {K : Walk.Congruence} {c' : Course} {base base' : Path}

/-- **Walks alone are in step** at two places below which the same is declared. -/
theorem walkAlone_inStep (h : c.InStep K c' base base') (rel : Path)
    (hlocate : ∀ more, c.schema.locate (base ++ (rel ++ more)) =
      c'.schema.locate (base' ++ (rel ++ more))) (v : Value) :
    K.holds (c.walkAlone budget (base ++ rel) v) (c'.walkAlone budget (base' ++ rel) v) := by
  unfold walkAlone alone
  rw [Functor.map_map, Functor.map_map, map_eq_pure_bind, map_eq_pure_bind]
  exact K.bind (walkLinked_inStep h budget rel hlocate v.unshared []) (fun out => K.pure _)

variable {s s' : Schema} {o : Options}

/-- **A walk goes by what is declared** at the paths that it comes to. -/
theorem walkAlone_congr (h : ∀ more, s.locate (path ++ more) = s'.locate (path ++ more))
    (v : Value) :
    (⟨s, o⟩ : Course).walkAlone budget path v = (⟨s', o⟩ : Course).walkAlone budget path v := by
  have hstep : (⟨s, o⟩ : Course).InStep .equal ⟨s', o⟩ [] [] := ⟨rfl, fun _ _ _ _ _ _ => rfl⟩
  exact walkAlone_inStep hstep path h v

/-- **A walk finds the same** at two places below which the same is declared. -/
theorem related_walkAlone (base base' rel : Path)
    (h : ∀ more, s.locate (base ++ (rel ++ more)) = s'.locate (base' ++ (rel ++ more)))
    (v : Value) : Walk.Related (.moved o base base') Eq
      ((⟨s, o⟩ : Course).walkAlone budget (base ++ rel) v)
      ((⟨s', o⟩ : Course).walkAlone budget (base' ++ rel) v) :=
  (walkAlone_inStep (inStep_moved s s' o base base') rel h v).2.2

/-- A walk only adds to the notes. -/
theorem appends_walkAlone (c : Course) (budget : Nat) (path : Path) (v : Value) :
    (c.walkAlone budget path v).Appends :=
  (walkAlone_inStep (inStep_moved c.schema c.schema c.options [] []) path (fun _ => rfl) v).1

end Places

/-- What the walk of a value that is there yields: what the visit yields, with its members walked.
-/
theorem walkAlone_succ_yields (hne : path ≠ []) {v : Value} (hv : v ≠ .absent)
    {child : Option Value} :
    (c.walkAlone (budget + 1) path v).Yields child ↔
      (child = none ∧ (c.visit path v).Yields none) ∨
        ∃ w w', (c.visit path v).Yields (some w) ∧
          (walkMembers (c.walkAlone budget) path w).Yields w' ∧ child = some w' := by
  rw [walkAlone_succ hne hv]
  exact visit_bind_yields (c.appends_walkAlone budget)

/-! ## Absent values -/

/-- A visit that finds a violation reports it, and changes no cell. -/
theorem settle_violation (l : Linked) (left : Option Linked) (violation : Violation)
    (cells : Cells) : (c.settle l left (.error (.violation violation))).run cells =
      (fun _ => (left, cells)) <$> c.report violation := by
  show (c.report violation >>= fun u => pure (u, cells)) >>= (fun out => pure (left, out.2)) = _
  rw [bind_assoc, map_eq_pure_bind]
  rfl

theorem settle_yields {l : Linked} {left : Option Linked} {outcome : Checked (Option Value)}
    {cells : Cells} {out : Option Linked × Cells} :
    ((c.settle l left outcome).run cells).Yields out ↔
      ∃ w, outcome = .ok w ∧ (w.map l.become, cells) = out := by
  cases outcome with
  | ok w => exact Walk.yields_pure.trans (by simp)
  | error e =>
    cases e with
    | violation violation =>
      rw [settle_violation, Walk.yields_map]
      simp [not_yields_report]
    | _ => exact ⟨fun h => absurd h Walk.not_yields_throw, nofun⟩

/-- What follows a visit only adds to the notes. -/
theorem appends_descend (c : Course) (budget : Nat) (path : Path) (child : Option Linked)
    (cells : Cells) : ((c.descend budget path child).run cells).Appends := by
  have hself := inStep_moved c.schema c.schema c.options [] []
  cases child with
  | none => exact Walk.appends_pure _
  | some l =>
    rw [descend, StateT.run_map]
    refine Walk.Appends.map _ ?_
    unfold walkBelow
    split
    · exact (walkLinkedMembers_inStep (fun key m => walkLinked_inStep hself budget (path ++ [key])
        (fun _ => rfl) m) l cells).1
    · exact (sift_inStep (K := .related (.moved c.options [] [])) l cells).1

/-- A walk leaves something if the visit does. -/
theorem visitLinked_of_walkLinked_yields {l : Linked} {cells : Cells} {out : Option Linked × Cells}
    (h : ((c.walkLinked (budget + 1) path l).run cells).Yields out) :
    ∃ child cells', ((c.visitLinked path l).run cells).Yields (child, cells') ∧
      (out.1 = none ↔ child = none) := by
  have hrest : ∀ out : Option Linked × Cells,
      ((c.descend budget path out.1).run out.2).Appends :=
    fun out => c.appends_descend budget path out.1 out.2
  rw [walkLinked_succ, StateT.run_bind, Walk.yields_bind hrest] at h
  obtain ⟨⟨child, cells'⟩, hvisit, hout⟩ := h
  refine ⟨child, cells', hvisit, ?_⟩
  cases child with
  | none =>
    cases Walk.yields_pure.mp hout
    exact Iff.rfl
  | some m =>
    rw [descend, StateT.run_map] at hout
    obtain ⟨_, -, rfl⟩ := Walk.yields_map.mp hout
    simp

/-- **What becomes of an absent value**: it is dropped if there is no default, and then it is not
required. -/
theorem walkAlone_absent_yields {t : TypeSpec} (ht : c.schema.locate path = some t)
    {child : Option Value} (h : (c.walkAlone (budget + 1) path .absent).Yields child) :
    (child = none ↔ t.first.default? = none) ∧ (child = none → t.first.required = false) := by
  obtain ⟨last, hlast, rfl⟩ := Walk.yields_map.mp h
  obtain ⟨out, hout, rfl⟩ := Walk.yields_map.mp hlast
  obtain ⟨first, cells, hvisit, hnone⟩ := visitLinked_of_walkLinked_yields hout
  have hiff : out.1.map (·.value []) = none ↔ first = none := Option.map_eq_none_iff.trans hnone
  rw [hiff]
  have hvisit : ((c.visitLinked path (.atom .absent)).run []).Yields (first, cells) := hvisit
  rw [visitLinked_absent ht] at hvisit
  cases hd : t.first.default? with
  | none =>
    rw [TypeSpec.fill_of_none hd, apply_absent_of_none hd] at hvisit
    obtain ⟨w, hw, hfirst⟩ := settle_yields.mp hvisit
    cases hr : t.first.required with
    | true =>
      rw [hr] at hw
      cases hw
    | false =>
      rw [hr] at hw
      cases hw
      cases hfirst
      exact ⟨⟨fun _ => rfl, fun _ => rfl⟩, fun _ => rfl⟩
  | some d =>
    have hsome : first ≠ none := by
      by_cases hnull : d = .null
      · subst hnull
        rw [TypeSpec.fill_of_null hd, apply_absent_of_null hd] at hvisit
        have hsettled : ((c.settle (.atom .absent) none (.ok (some .null))).run []).Yields
            (first, cells) := hvisit
        obtain ⟨w, hw, hfirst⟩ := settle_yields.mp hsettled
        cases hw
        cases hfirst
        exact nofun
      · rw [TypeSpec.fill_of_default hd hnull] at hvisit
        obtain ⟨w, hw, hfirst⟩ := settle_yields.mp hvisit
        obtain ⟨w', -, rfl⟩ := Checked.map_eq_ok.mp hw
        cases hfirst
        exact nofun
    exact ⟨⟨fun h => absurd h hsome, nofun⟩, fun h => absurd h hsome⟩

/-- **Walks of a value that is there** are the same if its visits and the walks of its members
are. -/
theorem walkAlone_congr_members {c' : Course} (hpath : path ≠ []) {v : Value}
    (hv : v.isPresent = true)
    (hvisit : c.visit path v = c'.visit path v)
    (hmembers : walkMembers (c.walkAlone budget) path v =
      walkMembers (c'.walkAlone budget) path v) :
    c.walkAlone (budget + 1) path v = c'.walkAlone (budget + 1) path v := by
  have hne := Value.isPresent_iff.mp hv
  rw [walkAlone_succ hpath hne, walkAlone_succ hpath hne, hvisit]
  refine visit_bind_congr hv (fun child hchild => ?_)
  cases child with
  | none => rfl
  | some w =>
    cases hcontainer : w.isContainer with
    | false =>
      dsimp only
      rw [walkMembers_of_leaf hcontainer, walkMembers_of_leaf hcontainer]
    | true =>
      dsimp only
      rw [hchild w rfl hcontainer, hmembers]

end Course

end Conform
