import Conform.Proofs.Alone

/-!
# Walks that have nothing to do with cells

Most of what a walk comes to stands in no cell: the data shares nothing, and a default that takes
the place of a mark brings the cells of its own. Such a linked value is closed (`Linked.Closed`). It
stands for the same value whatever the cells around it are, and a walk of it neither asks for them
nor changes them, and leaves what is closed (`Course.walkLinked_aside`). So it may as well be taken
before or after another walk.
-/

namespace Conform

/-! ## Closed values -/

namespace Linked

/-- **Whether a linked value refers to no cells** but those that its copies bring along. -/
inductive Closed : Linked → Prop
  | atom (v : Value) : Closed (.atom v)
  | list {ls : List Linked} (h : ∀ l ∈ ls, Closed l) : Closed (.list ls)
  | tuple {ls : List Linked} (h : ∀ inCell inCell', valuesWith inCell ls = valuesWith inCell' ls) :
    Closed (.tuple ls)
  | map {es : List (Value × Linked)} (h : ∀ e ∈ es, Closed e.2) : Closed (.map es)
  | copy (top : Linked) (inner : Cells) : Closed (.copy top inner)

variable {l : Linked}

/-- **A closed value stands for the same** in all cells. -/
theorem Closed.valueWith_eq (h : l.Closed) (inCell inCell' : Nat → Value) :
    l.valueWith inCell = l.valueWith inCell' := by
  induction h with
  | atom v => rfl
  | copy top inner => rfl
  | tuple h => exact congrArg Value.tuple (h inCell inCell')
  | list _ ih =>
    rw [valueWith, valueWith, valuesWith_eq_map, valuesWith_eq_map]
    exact congrArg Value.list (List.map_congr_left ih)
  | map _ ih =>
    rw [valueWith, valueWith, entriesWith_eq_map, entriesWith_eq_map]
    exact congrArg Value.map (List.map_congr_left (fun e he => congrArg _ (ih e he)))

theorem Closed.value_eq (h : l.Closed) (cells cells' : Cells) : l.value cells = l.value cells' :=
  h.valueWith_eq _ _

/-- A value that shares nothing is closed. -/
theorem closed_unshared (v : Value) : v.unshared.Closed := by
  induction v using Value.members_induction with
  | map es ih =>
    rw [Value.unshared_map]
    refine .map (fun e he => ?_)
    obtain ⟨e', he', rfl⟩ := List.mem_map.mp he
    exact ih e' he'
  | list vs ih =>
    rw [Value.unshared_list]
    refine .list (fun l hl => ?_)
    obtain ⟨v, hv, rfl⟩ := List.mem_map.mp hl
    exact ih v hv
  | other v hleaf =>
    cases v with
    | map es => cases hleaf
    | list vs => cases hleaf
    | tuple vs =>
      rw [Value.unshared_tuple]
      refine .tuple (fun inCell inCell' => ?_)
      rw [Value.valuesWith_unshared, Value.valuesWith_unshared]
    | _ => exact .atom _

theorem Closed.sifted (h : l.Closed) : l.sifted.Closed := by
  induction h with
  | atom v => exact .atom v
  | copy top inner => exact .copy _ _
  | tuple h => exact .tuple h
  | list _ ih =>
    refine .list (fun l hl => ?_)
    obtain ⟨l', hl', -, rfl⟩ := mem_siftedItems hl
    exact ih l' hl'
  | map _ ih =>
    refine .map (fun e he => ?_)
    obtain ⟨e', he', -, rfl⟩ := mem_siftedEntries he
    exact ih e' he'

theorem Closed.become (h : l.Closed) (w : Value) : (l.become w).Closed := by
  cases l with
  | atom v => exact .atom w
  | _ => exact h

end Linked

/-- What is packed is closed if there are cells. -/
theorem Linked.closed_packed (top : Linked) {cells : Cells} (h : cells ≠ []) :
    (top.packed cells).Closed := by
  cases cells with
  | nil => exact absurd rfl h
  | cons l cells =>
    cases top with
    | atom v => exact .atom v
    | _ => exact .copy _ _

/-- **A copy of a default is closed**: it brings its own cells, if it needs any. -/
theorem TypeSpec.closed_copied (t : TypeSpec) (d : Value) (s : Sharing) :
    (t.copied d s).Closed := by
  by_cases hs : s = []
  · subst hs
    rw [t.copied_nil]
    exact Linked.closed_unshared _
  · have huntupled : d.Untupled fun _ => true := Value.untupled_of_trivial (fun _ => rfl) d
    have hplace : ((d.place s).run []).2.length = s.length := by
      show ([] ++ _ : Cells).length = _
      rw [List.nil_append, List.length_map, List.length_zipIdx]
    obtain ⟨hgood, -, hl, -⟩ := huntupled.place_keeps (fun _ _ => rfl) s [] (List.forall_mem_nil _)
    obtain ⟨-, hlength, -⟩ := t.seedLinked_keeps (fun _ _ => rfl) _ hl _ hgood
    refine Linked.closed_packed _ (fun hnil => hs (List.length_eq_zero_iff.mp ?_))
    rw [hplace] at hlength
    exact Nat.le_zero.mp (hlength.trans (List.length_eq_zero_iff.mpr hnil).le)

theorem TypeSpec.closed_fill {t : TypeSpec} {d : Linked} (h : t.fill = some d) : d.Closed := by
  cases hd : t.first.default? with
  | none => cases (fill_of_none hd).symm.trans h
  | some v =>
    by_cases hne : v = .null
    · subst hne
      cases (fill_of_null hd).symm.trans h
    · cases (fill_of_default hd hne).symm.trans h
      exact t.closed_copied v _

/-! ## Walks that leave cells alone -/

/-- **A walk that has nothing to do with cells**: it neither asks for them nor changes them, and
what it gives is of some sort. -/
def LinkedWalk.Aside {α : Type} (P : α → Prop) (x : LinkedWalk α) : Prop :=
  ∃ m : Walk {a // P a}, ∀ cells, x.run cells = (fun a => (a.1, cells)) <$> m

namespace LinkedWalk.Aside

variable {α β : Type} {P : α → Prop} {Q : β → Prop}

theorem pure {a : α} (h : P a) : Aside P (Pure.pure a) := ⟨Pure.pure ⟨a, h⟩, fun _ => rfl⟩

theorem throw (e : Interruption) : Aside P (MonadExcept.throw e) :=
  ⟨MonadExcept.throw e, fun _ => rfl⟩

theorem lift (m : Walk α) : Aside (fun _ => True) (liftM m) :=
  ⟨(fun a => ⟨a, trivial⟩) <$> m, fun cells => by rw [Functor.map_map]; rfl⟩

theorem bind {x : LinkedWalk α} {k : α → LinkedWalk β} (hx : x.Aside P)
    (hk : ∀ a, P a → (k a).Aside Q) : (x >>= k).Aside Q := by
  obtain ⟨m, hm⟩ := hx
  choose n hn using hk
  refine ⟨m >>= fun a => n a.1 a.2, fun cells => ?_⟩
  rw [StateT.run_bind, hm, bind_map_left, map_bind]
  exact bind_congr (fun a => hn a.1 a.2 cells)

theorem map {x : LinkedWalk α} (hx : x.Aside P) {g : α → β} (hg : ∀ a, P a → Q (g a)) :
    (g <$> x).Aside Q := by
  rw [map_eq_pure_bind]
  exact hx.bind (fun a ha => pure (hg a ha))

/-- What is read of the cells must not matter. -/
theorem get {x : Cells → LinkedWalk α} (hx : ∀ cells, x cells = x []) (h : (x []).Aside P) :
    (MonadState.get >>= x).Aside P := by
  obtain ⟨m, hm⟩ := h
  refine ⟨m, fun cells => ?_⟩
  show (x cells).run cells = _
  rw [hx cells, hm cells]

/-- **Changing a closed value** has nothing to do with cells if changing what is in it has not. -/
theorem update {change : Linked → LinkedWalk Linked} {l : Linked} (hl : l.Closed)
    (hchange : (change l).Aside Linked.Closed) : (l.update change).Aside Linked.Closed := by
  cases hl with
  | copy top inner =>
    refine ⟨(fun out => ⟨.copy out.1 out.2, .copy _ _⟩) <$> (change top).run inner, fun cells => ?_⟩
    rw [Linked.update_copy, StateT.run_map, Linked.run_apart, Functor.map_map, Functor.map_map]
  | _ => exact hchange

end LinkedWalk.Aside

namespace Linked

open LinkedWalk.Aside

variable {m : Type → Type} [Monad m] [LawfulMonad m] {inCell : Nat → m Linked}

theorem siftEntriesWith_eq_pure {es : List (Value × Linked)}
    (h : ∀ e ∈ es, siftWith inCell e.2 = Pure.pure e.2.sifted) :
    siftEntriesWith inCell es = Pure.pure (siftedEntries es) := by
  induction es with
  | nil => rfl
  | cons e es ih =>
    obtain ⟨k, l⟩ := e
    rw [List.forall_mem_cons] at h
    by_cases hl : l = .atom .absent
    · subst hl
      exact ih h.2
    · rw [siftEntriesWith_cons inCell k hl, siftedEntries_cons k hl, h.1, pure_bind, ih h.2,
        pure_bind]

theorem siftItemsWith_eq_pure {ls : List Linked}
    (h : ∀ l ∈ ls, siftWith inCell l = Pure.pure l.sifted) :
    siftItemsWith inCell ls = Pure.pure (siftedItems ls) := by
  induction ls with
  | nil => rfl
  | cons l ls ih =>
    rw [List.forall_mem_cons] at h
    by_cases hl : l = .atom .absent
    · subst hl
      exact ih h.2
    · rw [siftItemsWith_cons inCell hl, siftedItems_cons hl, h.1, pure_bind, ih h.2, pure_bind]

/-- **Sifting a closed value** comes to no cell. -/
theorem Closed.siftWith_eq {l : Linked} (h : l.Closed) :
    siftWith inCell l = Pure.pure l.sifted := by
  induction h with
  | atom v => rfl
  | copy top inner => rfl
  | tuple h => rfl
  | list _ ih => rw [siftWith, siftItemsWith_eq_pure ih, map_pure]; rfl
  | map _ ih => rw [siftWith, siftEntriesWith_eq_pure ih, map_pure]; rfl

/-- **Sifting that leaves cells as they are** sifts what is not in them. -/
theorem siftWith_eq_pure (hcell : ∀ a, inCell a = Pure.pure (.cell a)) (l : Linked) :
    siftWith inCell l = Pure.pure l.sifted := by
  induction l using members_induction with
  | map es ih => rw [siftWith, siftEntriesWith_eq_pure ih, map_pure]; rfl
  | list ls ih => rw [siftWith, siftItemsWith_eq_pure ih, map_pure]; rfl
  | cell a => exact hcell a
  | tuple ls => rfl
  | copy top inner => rfl
  | atom v => rfl

theorem sift_aside {l : Linked} (h : l.Closed) : (l.sift : LinkedWalk Linked).Aside Closed := by
  refine get (fun cells => ?_) ?_
  · rw [h.siftWith_eq, h.siftWith_eq]
  · rw [h.siftWith_eq]
    exact pure h.sifted

end Linked

namespace Course

open LinkedWalk LinkedWalk.Aside

variable {c : Course} {path : Path} {l : Linked}

theorem settle_aside {left : Option Linked} (hl : l.Closed) (hleft : ∀ m ∈ left, m.Closed)
    (outcome : Checked (Option Value)) :
    (c.settle l left outcome).Aside fun child => ∀ m ∈ child, m.Closed := by
  cases outcome with
  | ok w =>
    refine Aside.pure (fun m hm => ?_)
    obtain ⟨v, -, rfl⟩ := Option.map_eq_some_iff.mp hm
    exact hl.become v
  | error e =>
    cases e with
    | violation violation =>
      exact (Aside.lift (c.report violation)).bind (fun _ _ => Aside.pure hleft)
    | _ => exact Aside.throw _

/-- **A visit of a closed value** has nothing to do with cells. -/
theorem visitLinked_aside (c : Course) (path : Path) (hl : l.Closed) :
    (c.visitLinked path l).Aside fun child => ∀ m ∈ child, m.Closed := by
  cases ht : c.schema.locate path with
  | none =>
    rw [visitLinked_undeclared ht]
    refine Aside.get (fun cells => by rw [hl.value_eq cells []]) (Aside.pure (fun m hm => ?_))
    obtain ⟨_, -, rfl⟩ := Option.map_eq_some_iff.mp hm
    exact hl
  | some t =>
    by_cases habsent : l = .atom .absent
    · subst habsent
      rw [visitLinked_absent ht]
      cases hfill : t.fill with
      | none => exact settle_aside hl (by rintro _ ⟨⟩) _
      | some d =>
        have hd := TypeSpec.closed_fill hfill
        refine Aside.get (fun cells => ?_) (settle_aside hd (by rintro _ ⟨⟩) _)
        rw [hd.value_eq cells []]
    · rw [visitLinked_present ht habsent]
      refine Aside.get (fun cells => by rw [hl.value_eq cells []]) (settle_aside hl ?_ _)
      rintro m ⟨⟩
      exact hl

section Members

variable {member : Path → Linked → LinkedWalk (Option Linked)}
  (hmember : ∀ key (l : Linked), l.Closed →
    (member (path ++ [key]) l).Aside fun child => ∀ m ∈ child, m.Closed)

include hmember

theorem walkLinkedEntries_aside {es : List (Value × Linked)} (hes : ∀ e ∈ es, e.2.Closed) :
    (walkLinkedEntries member path es).Aside fun es' => ∀ e ∈ es', e.2.Closed := by
  induction es with
  | nil => exact Aside.pure (List.forall_mem_nil _)
  | cons e es ih =>
    rw [List.forall_mem_cons] at hes
    refine (hmember e.1 e.2 hes.1).bind (fun child hchild => (ih hes.2).bind (fun rest hrest =>
      Aside.pure (fun f hf => ?_)))
    rcases List.mem_append.mp hf with hf | hf
    · obtain ⟨m, hm, rfl⟩ := Option.map_eq_some_iff.mp (Option.mem_toList.mp hf)
      exact hchild m hm
    · exact hrest f hf

theorem walkLinkedItems_aside (index : Nat) {ls : List Linked} (hls : ∀ l ∈ ls, l.Closed) :
    (walkLinkedItems member path index ls).Aside fun ls' => ∀ l ∈ ls', l.Closed := by
  induction ls generalizing index with
  | nil => exact Aside.pure (List.forall_mem_nil _)
  | cons l ls ih =>
    rw [List.forall_mem_cons] at hls
    refine (hmember (.int index) l hls.1).bind (fun child hchild =>
      (ih (index + 1) hls.2).bind (fun rest hrest => Aside.pure (fun m hm => ?_)))
    rcases List.mem_append.mp hm with hm | hm
    · exact hchild m (Option.mem_toList.mp hm)
    · exact hrest m hm

theorem walkLinkedMembers_aside (hl : l.Closed) :
    (walkLinkedMembers member path l).Aside Linked.Closed := by
  refine update hl ?_
  cases hl with
  | map h => exact (walkLinkedEntries_aside hmember h).map (fun _ => .map)
  | list h => exact (walkLinkedItems_aside hmember 0 h).map (fun _ => .list)
  | atom v => exact Aside.pure (.atom v)
  | tuple h => exact Aside.pure (.tuple h)
  | copy top inner => exact Aside.pure (.copy top inner)

end Members

/-- **A walk of a closed value** has nothing to do with cells, and leaves a closed value. -/
theorem walkLinked_aside (c : Course) (budget : Nat) (path : Path) (hl : l.Closed) :
    (c.walkLinked budget path l).Aside fun child => ∀ m ∈ child, m.Closed := by
  induction budget generalizing path l with
  | zero =>
    refine Aside.get (fun cells => by rw [hl.value_eq cells []]) ?_
    cases c.unknown (l.value []) with
    | none => exact Aside.pure (by rintro _ ⟨⟩)
    | some _ =>
      exact (Linked.sift_aside hl).bind (fun m hm => Aside.pure (by rintro _ ⟨⟩; exact hm))
  | succ budget ih =>
    rw [walkLinked_succ]
    refine (c.visitLinked_aside path hl).bind (fun child hchild => ?_)
    cases child with
    | none => exact Aside.pure (by rintro _ ⟨⟩)
    | some m =>
      refine Aside.map (P := Linked.Closed) ?_ (fun m hm => by rintro _ ⟨⟩; exact hm)
      unfold walkBelow
      split
      · exact walkLinkedMembers_aside (fun key _ hl => ih (path ++ [key]) hl) (hchild m rfl)
      · exact Linked.sift_aside (hchild m rfl)

end Course

end Conform
