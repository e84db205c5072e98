import Conform.Proofs.CleanCells

/-!
# Walks that leave no marks

A walk of linked values makes use of cells that hold marks, as those of a default do that it has put
in, and of others in which it has left none. What has been clean stays clean all the while, though
the walk may come by a container again in another place (`Cells.Becomes`). So it is enough to say of
each step what it makes of one linked value (`LinkedWalk.Ensures`): a visit gives no mark
(`Course.visitLinked_ensures`), sifting takes the marks out of what is not declared, and where the
members of a container are left without marks, so is the container
(`Course.walkLinkedMembers_ensures`).

Neither puts in a leaf that has not been there, apart from what a check makes of one, so a test that
only what is foreign can fail holds of the leaves in the end if it holds in the beginning
(`Fields.everywhere_of_validateShared`).
-/

namespace Conform

/-- **What a walk makes of cells**: as many cells, which hold what they may, and nothing that has
been clean gets a mark. -/
structure Cells.Becomes (f : Value → Bool) (cells cells' : Cells) : Prop where
  good : cells'.Good f
  length_eq : cells'.length = cells.length
  clean : ∀ l : Linked, l.IsClean cells → l.IsClean cells'

namespace Cells.Becomes

variable {f : Value → Bool} {cells cells' cells'' : Cells}

theorem refl (h : cells.Good f) : cells.Becomes f cells := ⟨h, rfl, fun _ h => h⟩

theorem trans (h : cells.Becomes f cells') (h' : cells'.Becomes f cells'') :
    cells.Becomes f cells'' :=
  ⟨h'.good, h'.length_eq.trans h.length_eq, fun l hl => h'.clean l (h.clean l hl)⟩

/-- A cell is given something clean. -/
theorem set (h : cells.Becomes f cells') {l : Linked} (hl : l.Held f) (hclean : l.IsClean cells')
    (a : Nat) : cells.Becomes f (cells'.set a l) := by
  refine ⟨fun m hm => ?_, List.length_set.trans h.length_eq,
    fun m hm => hclean.set (h.clean m hm) a⟩
  rcases List.mem_or_eq_of_mem_set hm with hm | rfl
  · exact h.good m hm
  · exact hl

end Cells.Becomes

/-! ## What a walk ensures -/

/-- **What a walk ensures** that starts from some cells: if it ends well, then this is true of what
it gives and of the cells that it leaves. -/
def LinkedWalk.Ensures {α : Type} (x : LinkedWalk α) (cells : Cells) (Q : α → Cells → Prop) :
    Prop :=
  ∀ notes out, (x.run cells).run notes = .ok out → Q out.1.1 out.1.2

namespace LinkedWalk.Ensures

variable {α β : Type} {cells : Cells} {Q : α → Cells → Prop} {R : β → Cells → Prop}

theorem pure {a : α} (h : Q a cells) : Ensures (Pure.pure a) cells Q := by
  rintro notes _ ⟨⟩
  exact h

theorem throw (e : Interruption) : Ensures (MonadExcept.throw e) cells Q := by
  rintro notes _ ⟨⟩

theorem mono {x : LinkedWalk α} {Q' : α → Cells → Prop} (hx : x.Ensures cells Q)
    (h : ∀ a cells', Q a cells' → Q' a cells') : x.Ensures cells Q' :=
  fun notes out hout => h _ _ (hx notes out hout)

theorem bind {x : LinkedWalk α} {k : α → LinkedWalk β} (hx : x.Ensures cells Q)
    (hk : ∀ a cells', Q a cells' → (k a).Ensures cells' R) : (x >>= k).Ensures cells R := by
  intro notes out hout
  rw [StateT.run_bind, StateT.run_bind] at hout
  obtain ⟨out', hout', hout⟩ := Checked.bind_eq_ok.mp hout
  exact hk _ _ (hx notes out' hout') _ _ hout

theorem map {x : LinkedWalk α} (hx : x.Ensures cells Q) {g : α → β}
    (hg : ∀ a cells', Q a cells' → R (g a) cells') : (g <$> x).Ensures cells R := by
  rw [map_eq_pure_bind]
  exact hx.bind (fun a cells' h => pure (hg a cells' h))

/-- A walk that does not look at cells leaves them as they are. -/
theorem lift (m : Walk α) : Ensures (liftM m) cells (fun _ cells' => cells' = cells) := by
  intro notes out hout
  obtain ⟨ran, -, hout⟩ := Checked.bind_eq_ok.mp hout
  cases hout
  rfl

theorem get {x : Cells → LinkedWalk α} (h : (x cells).Ensures cells Q) :
    (MonadState.get >>= x).Ensures cells Q := h

/-- What is done apart leaves the other cells as they are. -/
theorem apart {inner : Cells} {x : LinkedWalk α} (h : x.Ensures inner Q) :
    (Linked.apart inner x).Ensures cells fun out cells' => cells' = cells ∧ Q out.1 out.2 := by
  intro notes out hout
  rw [Linked.run_apart, StateT.run_map] at hout
  obtain ⟨out', hout', rfl⟩ := Checked.map_eq_ok.mp hout
  exact ⟨rfl, h notes out' hout'⟩

/-- **Changing a container where it is kept**: its cell, if it stands in one, is given what becomes
of what it holds. -/
theorem update {f : Value → Bool} (hf : Value.TestsForeign f) {change : Linked → LinkedWalk Linked}
    {l : Linked} (hl : l.Sound f) (hne : l ≠ .atom .absent) (hcells : cells.Good f)
    (hchange : ∀ (m : Linked) (cells : Cells), m.Held f → cells.Good f →
      (change m).Ensures cells fun m' cells' =>
        cells.Becomes f cells' ∧ m'.Held f ∧ m'.IsClean cells') :
    (l.update change).Ensures cells fun l' cells' =>
      cells.Becomes f cells' ∧ l'.Sound f ∧ l'.IsClean cells' := by
  have hbody : l.isBody = true → (change l).Ensures cells fun l' cells' =>
      cells.Becomes f cells' ∧ l'.Sound f ∧ l'.IsClean cells' := fun hbody =>
    (hchange l cells ⟨hl, hbody⟩ hcells).mono (fun l' cells' h => ⟨h.1, h.2.1.sound, h.2.2⟩)
  cases l with
  | cell a =>
    refine get ?_
    cases hget : cells[a]? with
    | none =>
      exact pure ⟨.refl hcells, Linked.sound_null hf, Linked.isClean_null cells⟩
    | some m =>
      have ha : a < cells.length := (List.getElem?_eq_some_iff.mp hget).1
      refine (hchange m cells (hcells m (List.mem_of_getElem? hget)) hcells).bind
        (fun m' cells' h => ?_)
      obtain ⟨hbecomes, hm', hclean⟩ := h
      intro notes out hout
      cases hout
      exact ⟨hbecomes.set hm' hclean a, .cell a, hclean.cell_set
        (by rw [hbecomes.length_eq]; exact ha)⟩
  | copy top inner =>
    obtain ⟨htop, hinner⟩ := hl.held_of_copy
    rw [Linked.update_copy]
    refine (apart (hchange top inner htop hinner)).map (fun out cells' h => ?_)
    obtain ⟨rfl, hbecomes, htop', hclean⟩ := h
    exact ⟨.refl hcells, Linked.sound_copy htop' hbecomes.good, Linked.isClean_copy hclean cells'⟩
  | atom v => exact hbody (by cases v <;> first | rfl | exact absurd rfl hne)
  | list ls => exact hbody rfl
  | tuple ls => exact hbody rfl
  | map es => exact hbody rfl

end LinkedWalk.Ensures

/-! ## Sifting -/

namespace Linked

open LinkedWalk.Ensures

variable {f : Value → Bool} {cells : Cells}

/-- **What is left of a linked value** after a walk: it is sound and clean. -/
def Left (f : Value → Bool) (cells : Cells) (l : Linked) (cells' : Cells) : Prop :=
  cells.Becomes f cells' ∧ l.Sound f ∧ l.IsClean cells'

/-- Entries that are sifted one after the other. -/
theorem siftEntriesWith_ensures {inCell : Nat → LinkedWalk Linked} {es : List (Value × Linked)}
    (hentry : ∀ e ∈ es, e.2 ≠ .atom .absent → ∀ cells, Cells.Good f cells →
      (siftWith inCell e.2).Ensures cells (Left f cells)) (hcells : cells.Good f) :
    (siftEntriesWith inCell es).Ensures cells fun es' cells' =>
      cells.Becomes f cells' ∧ ∀ e ∈ es', e.2.Sound f ∧ e.2.IsClean cells' := by
  induction es generalizing cells with
  | nil => exact pure ⟨.refl hcells, List.forall_mem_nil _⟩
  | cons e es ih =>
    obtain ⟨k, l⟩ := e
    rw [List.forall_mem_cons] at hentry
    by_cases hl : l = .atom .absent
    · subst hl
      exact ih hentry.2 hcells
    · rw [siftEntriesWith_cons inCell k hl]
      refine (hentry.1 hl cells hcells).bind (fun l' cells₁ h => ?_)
      refine (ih hentry.2 h.1.good).bind (fun es' cells₂ h' => pure ⟨h.1.trans h'.1, ?_⟩)
      exact List.forall_mem_cons.mpr ⟨⟨h.2.1, h'.1.clean l' h.2.2⟩, h'.2⟩

/-- Items that are sifted one after the other. -/
theorem siftItemsWith_ensures {inCell : Nat → LinkedWalk Linked} {ls : List Linked}
    (hitem : ∀ l ∈ ls, l ≠ .atom .absent → ∀ cells, Cells.Good f cells →
      (siftWith inCell l).Ensures cells (Left f cells)) (hcells : cells.Good f) :
    (siftItemsWith inCell ls).Ensures cells fun ls' cells' =>
      cells.Becomes f cells' ∧ ∀ l ∈ ls', l.Sound f ∧ l.IsClean cells' := by
  induction ls generalizing cells with
  | nil => exact pure ⟨.refl hcells, List.forall_mem_nil _⟩
  | cons l ls ih =>
    rw [List.forall_mem_cons] at hitem
    by_cases hl : l = .atom .absent
    · subst hl
      exact ih hitem.2 hcells
    · rw [siftItemsWith_cons inCell hl]
      refine (hitem.1 hl cells hcells).bind (fun l' cells₁ h => ?_)
      refine (ih hitem.2 h.1.good).bind (fun ls' cells₂ h' => pure ⟨h.1.trans h'.1, ?_⟩)
      exact List.forall_mem_cons.mpr ⟨⟨h.2.1, h'.1.clean l' h.2.2⟩, h'.2⟩

theorem mem_siftedEntries {es : List (Value × Linked)} {e : Value × Linked}
    (h : e ∈ siftedEntries es) :
    ∃ e' ∈ es, e'.2 ≠ .atom .absent ∧ e = (e'.1, e'.2.sifted) := by
  induction es with
  | nil => cases h
  | cons e' es ih =>
    obtain ⟨k, l⟩ := e'
    by_cases hl : l = .atom .absent
    · subst hl
      obtain ⟨e', he', h⟩ := ih h
      exact ⟨e', List.mem_cons_of_mem _ he', h⟩
    · rw [siftedEntries_cons k hl] at h
      rcases List.mem_cons.mp h with rfl | h
      · exact ⟨(k, l), List.mem_cons_self, hl, rfl⟩
      · obtain ⟨e', he', h⟩ := ih h
        exact ⟨e', List.mem_cons_of_mem _ he', h⟩

theorem mem_siftedItems {ls : List Linked} {l : Linked} (h : l ∈ siftedItems ls) :
    ∃ l' ∈ ls, l' ≠ .atom .absent ∧ l = l'.sifted := by
  induction ls with
  | nil => cases h
  | cons l' ls ih =>
    by_cases hl : l' = .atom .absent
    · subst hl
      obtain ⟨l', hl', h⟩ := ih h
      exact ⟨l', List.mem_cons_of_mem _ hl', h⟩
    · rw [siftedItems_cons hl] at h
      rcases List.mem_cons.mp h with rfl | h
      · exact ⟨l', List.mem_cons_self, hl, rfl⟩
      · obtain ⟨l', hl', h⟩ := ih h
        exact ⟨l', List.mem_cons_of_mem _ hl', h⟩

theorem siftedCells_eq_map : ∀ ls : List Linked, siftedCells ls = ls.map sifted
  | [] => rfl
  | l :: ls => congrArg (sifted l :: ·) (siftedCells_eq_map ls)

/-- What is sifted stays sound, and may be held if it may have been before. -/
theorem Sound.sifted {l : Linked} (h : l.Sound f) : l.MayBecome f l.sifted := by
  induction h with
  | list _ ih =>
    refine ⟨.list (fun l hl => ?_), fun _ => rfl⟩
    obtain ⟨l', hl', -, rfl⟩ := mem_siftedItems hl
    exact (ih l' hl').sound
  | map _ ih =>
    refine ⟨.map (fun e he => ?_), fun _ => rfl⟩
    obtain ⟨e', he', -, rfl⟩ := mem_siftedEntries he
    exact (ih e' he').sound
  | copy _ hbody _ hbodies ihtop ih =>
    refine ⟨sound_copy ⟨ihtop.sound, ihtop.isBody hbody⟩ (fun l hl => ?_), nofun⟩
    rw [siftedCells_eq_map] at hl
    obtain ⟨l', hl', rfl⟩ := List.mem_map.mp hl
    exact ⟨(ih l' hl').sound, (ih l' hl').isBody (hbodies l' hl')⟩
  | atom hleaf h => exact ⟨.atom hleaf h, id⟩
  | tuple h => exact ⟨.tuple h, id⟩
  | cell a => exact ⟨.cell a, id⟩

/-- What is sifted has no mark in it, if the cells have none. -/
theorem Sound.everywhere_sifted {l : Linked} (h : l.Sound f) (hne : l ≠ .atom .absent)
    (inCell : Nat → Value) (hcell : ∀ a, (inCell a).everywhere Value.isPresent = true) :
    (l.sifted.valueWith inCell).everywhere Value.isPresent = true := by
  induction h generalizing inCell with
  | list _ ih =>
    refine (everywhere_list_iff (fun _ => rfl)).mpr (fun l hl => ?_)
    obtain ⟨l', hl', hne, rfl⟩ := mem_siftedItems hl
    exact ih l' hl' hne inCell hcell
  | map _ ih =>
    refine (everywhere_map_iff (fun _ => rfl)).mpr (fun e he => ?_)
    obtain ⟨e', he', hne, rfl⟩ := mem_siftedEntries he
    exact ih e' he' hne inCell hcell
  | @copy top inner _ hbody _ hbodies ihtop ih =>
    refine ihtop (ne_absent_of_isBody hbody) _ (fun a => ?_)
    generalize (siftedCells inner).length = depth
    induction depth generalizing a with
    | zero => rfl
    | succ depth ih' =>
      show (cellValue (siftedCells inner) (depth + 1) a).everywhere _ = true
      rw [cellValue_succ, siftedCells_eq_map]
      unfold Cells.content
      rw [List.getD_eq_getElem?_getD, List.getElem?_map]
      cases hget : inner[a]? with
      | none => rfl
      | some m =>
        have hm := List.mem_of_getElem? hget
        rw [siftedCells_eq_map] at ih'
        exact ih m hm (ne_absent_of_isBody (hbodies m hm)) _ ih'
  | @atom v hleaf h =>
    show v.everywhere Value.isPresent = true
    cases v <;> first | rfl | exact absurd rfl hne | cases hleaf
  | tuple h => rfl
  | cell a => exact hcell a

/-- **Sifting leaves no mark** where sifting cells leaves none. -/
theorem siftWith_ensures {inCell : Nat → LinkedWalk Linked}
    (hcell : ∀ a cells, Cells.Good f cells → (inCell a).Ensures cells (Left f cells)) {l : Linked}
    (hl : l.Sound f) (hne : l ≠ .atom .absent) (hcells : cells.Good f) :
    (siftWith inCell l).Ensures cells fun l' cells' =>
      cells.Becomes f cells' ∧ l.MayBecome f l' ∧ l'.IsClean cells' := by
  induction l using members_induction generalizing cells with
  | map es ih =>
    have hsound : ∀ e ∈ es, e.2.Sound f := by cases hl; assumption
    refine (siftEntriesWith_ensures (fun e he hne cells hcells => ?_) hcells).map
      (fun es' cells' h => ⟨h.1, ⟨.map (fun e he => (h.2 e he).1), fun _ => rfl⟩, ?_⟩)
    · exact (ih e he (hsound e he) hne hcells).mono (fun l' cells' h => ⟨h.1, h.2.1.sound, h.2.2⟩)
    · exact isClean_map.mpr (fun e he => (h.2 e he).2)
  | list ls ih =>
    have hsound : ∀ l ∈ ls, l.Sound f := by cases hl; assumption
    refine (siftItemsWith_ensures (fun l hl hne cells hcells => ?_) hcells).map
      (fun ls' cells' h => ⟨h.1, ⟨.list (fun l hl => (h.2 l hl).1), fun _ => rfl⟩, ?_⟩)
    · exact (ih l hl (hsound l hl) hne hcells).mono (fun l' cells' h => ⟨h.1, h.2.1.sound, h.2.2⟩)
    · exact isClean_list.mpr (fun l hl => (h.2 l hl).2)
  | cell a => exact (hcell a cells hcells).mono (fun l' cells' h => ⟨h.1, ⟨h.2.1, nofun⟩, h.2.2⟩)
  | atom v =>
    cases hl with
    | atom hleaf h =>
      have hclean := isClean_atom hleaf (fun hv => hne (hv ▸ rfl)) cells
      exact pure ⟨.refl hcells, ⟨.atom hleaf h, id⟩, hclean⟩
  | tuple ls => exact pure ⟨.refl hcells, ⟨hl, id⟩, isClean_tuple ls cells⟩
  | copy top inner _ _ =>
    -- what is sifted of a copy does not depend on the cells around it
    exact pure ⟨.refl hcells, hl.sifted,
      fun depth => hl.everywhere_sifted hne (fun _ => .null) (fun _ => rfl)⟩

theorem siftCell_ensures (hf : Value.TestsForeign f) (depth a : Nat) (hcells : cells.Good f) :
    (siftCell depth a : LinkedWalk Linked).Ensures cells (Left f cells) := by
  induction depth generalizing a cells with
  | zero => exact LinkedWalk.Ensures.pure ⟨.refl hcells, sound_null hf, isClean_null cells⟩
  | succ depth ih =>
    refine LinkedWalk.Ensures.update hf (.cell a) nofun hcells (fun m cells hm hcells => ?_)
    refine (siftWith_ensures (fun a cells hcells => ih a hcells) hm.sound
      (ne_absent_of_isBody hm.isBody) hcells).mono (fun l' cells' h => ⟨h.1, ?_, h.2.2⟩)
    exact ⟨h.2.1.sound, h.2.1.isBody hm.isBody⟩

/-- **Sifting leaves no mark.** -/
theorem sift_ensures (hf : Value.TestsForeign f) {l : Linked} (hl : l.Sound f)
    (hne : l ≠ .atom .absent) (hcells : cells.Good f) :
    (l.sift : LinkedWalk Linked).Ensures cells (Left f cells) := by
  refine get ?_
  refine (siftWith_ensures (fun a cells hcells => siftCell_ensures hf _ a hcells) hl hne
    hcells).mono (fun l' cells' h => ⟨h.1, h.2.1.sound, h.2.2⟩)

end Linked

/-! ## Walking -/

/-- What a check makes of a leaf is a leaf that is not foreign. -/
theorem Node.Accepts.isLeaf {n : Node} {v w : Value} (h : n.Accepts v w)
    (hleaf : v.isContainer = false) : w.isContainer = false ∧ w.isForeign = false := by
  refine ⟨Bool.eq_false_iff.mpr (fun hw => ?_), by cases h <;> rfl⟩
  rw [← h.eq_of_isContainer hw, hleaf] at hw
  cases hw

/-- What a type makes of a leaf is a leaf that is not foreign. -/
theorem TypeSpec.Takes.isLeaf {t : TypeSpec} {v w : Value} (h : t.Takes v (some w))
    (hv : v ≠ .absent) (hleaf : v.isContainer = false) :
    w.isContainer = false ∧ w.isForeign = false := by
  cases h with
  | null h => exact ⟨rfl, rfl⟩
  | present h => exact h.isLeaf hleaf
  | nullDefault => exact absurd rfl hv
  | default => exact absurd rfl hv

/-- What a check makes of a linked value is sound, and no mark. -/
theorem Linked.Sound.become {f : Value → Bool} (hf : Value.TestsForeign f) {l : Linked}
    {w : Value} (hl : l.Sound f) (hw : w ≠ .absent)
    (hleaf : ∀ v, l = .atom v → w.isContainer = false ∧ w.isForeign = false) :
    (l.become w).Sound f ∧ l.become w ≠ .atom .absent := by
  cases l with
  | atom v =>
    obtain ⟨hleaf, hforeign⟩ := hleaf v rfl
    exact ⟨.atom hleaf (hf w hforeign), fun h => hw (Linked.atom.inj h)⟩
  | _ => exact ⟨hl, nofun⟩

/-- **What may be left of a member** after a walk: nothing, or something sound and clean. -/
def Linked.MayLeave (f : Value → Bool) (cells : Cells) (child : Option Linked) (cells' : Cells) :
    Prop :=
  cells.Becomes f cells' ∧ ∀ l, child = some l → l.Sound f ∧ l.IsClean cells'

namespace Course

open LinkedWalk.Ensures

variable {c : Course} {path : Path} {f : Value → Bool} {cells : Cells}

/-- A visit ends with what the check has made of the value, or with what is left of it. -/
theorem settle_ensures (l : Linked) (left : Option Linked) (outcome : Checked (Option Value)) :
    (c.settle l left outcome).Ensures cells fun child cells' => cells' = cells ∧
      ∀ m, child = some m → left = some m ∨ ∃ w, outcome = .ok (some w) ∧ m = l.become w := by
  cases outcome with
  | ok w =>
    refine LinkedWalk.Ensures.pure ⟨rfl, fun m hm => .inr ?_⟩
    obtain ⟨w, rfl, rfl⟩ := Option.map_eq_some_iff.mp hm
    exact ⟨w, rfl, rfl⟩
  | error e =>
    cases e with
    | dateOutOfRange => exact LinkedWalk.Ensures.throw _
    | search e => exact LinkedWalk.Ensures.throw _
    | violation violation =>
      refine (lift (c.report violation)).bind (fun _ cells' h => ?_)
      exact LinkedWalk.Ensures.pure ⟨h, fun m hm => .inl hm⟩

variable (hf : Value.TestsForeign f)

include hf

/-- **A mark is visited**: it is dropped, or what takes its place is no mark. -/
theorem visitLinked_absent_ensures {t : TypeSpec} (ht : c.schema.locate path = some t)
    (hdefault : ∀ d, t.first.default? = some d → d.Untupled f) (hcells : cells.Good f) :
    (c.visitLinked path (.atom .absent)).Ensures cells fun child cells' =>
      cells.Becomes f cells' ∧ ∀ m, child = some m → m.Sound f ∧ m ≠ .atom .absent := by
  rw [visitLinked_absent ht]
  have hnone : t.fill = none → (c.settle (.atom .absent) none
      (apply (c.site path) t .absent)).Ensures cells fun child cells' => cells.Becomes f cells' ∧
        ∀ m, child = some m → m.Sound f ∧ m ≠ .atom .absent := by
    intro hfill
    refine (settle_ensures _ none _).mono (fun child cells' h => ?_)
    obtain ⟨rfl, hchild⟩ := h
    refine ⟨.refl hcells, fun m hm => ?_⟩
    obtain hm | ⟨w, hw, rfl⟩ := hchild m hm
    · cases hm
    · -- nothing but null can be put in without being filled in
      cases apply_eq_ok_iff.mp hw with
      | present h => exact absurd rfl h.ne_absent
      | nullDefault h => exact ⟨Linked.sound_null hf, nofun⟩
      | default hd hne => cases (TypeSpec.fill_of_default hd hne).symm.trans hfill
  cases hd : t.first.default? with
  | none =>
    have hfill := TypeSpec.fill_of_none hd
    rw [hfill]
    exact hnone hfill
  | some d =>
    by_cases hnull : d = .null
    · have hfill := TypeSpec.fill_of_null (hnull ▸ hd)
      rw [hfill]
      exact hnone hfill
    · rw [TypeSpec.fill_of_default hd hnull]
      have hcopy := TypeSpec.sound_copied hf t (hdefault d hd) t.first.sharing
      generalize t.copied d t.first.sharing = copied at hcopy ⊢
      refine LinkedWalk.Ensures.get ((settle_ensures copied none _).mono
        (fun child cells' h => ?_))
      obtain ⟨rfl, hchild⟩ := h
      refine ⟨.refl hcells, fun m hm => ?_⟩
      obtain hm | ⟨w, hw, rfl⟩ := hchild m hm
      · cases hm
      · obtain ⟨w', hw', hww'⟩ := Checked.map_eq_ok.mp hw
        cases hww'
        have haccepts := checkPresent_eq_ok_iff.mp hw'
        refine hcopy.become hf haccepts.admits.ne_absent ?_
        rintro v rfl
        cases hcopy with
        | atom hleaf => exact haccepts.isLeaf hleaf

/-- **A visit gives no mark.** -/
theorem visitLinked_ensures
    (hdefaults : ∀ path t d, c.schema.locate path = some t → t.first.default? = some d →
      d.Untupled f) {l : Linked} (hl : l.Sound f) (hcells : cells.Good f) :
    (c.visitLinked path l).Ensures cells fun child cells' =>
      cells.Becomes f cells' ∧ ∀ m, child = some m → m.Sound f ∧ m ≠ .atom .absent := by
  cases ht : c.schema.locate path with
  | none =>
    rw [visitLinked_undeclared ht]
    refine LinkedWalk.Ensures.get (LinkedWalk.Ensures.pure ⟨.refl hcells, fun m hm => ?_⟩)
    obtain ⟨v, hv, rfl⟩ := Option.map_eq_some_iff.mp hm
    refine ⟨hl, ?_⟩
    rintro rfl
    cases hv
  | some t =>
    by_cases hne : l = .atom .absent
    · subst hne
      exact visitLinked_absent_ensures hf ht (hdefaults path t · ht) hcells
    · rw [visitLinked_present ht hne]
      refine LinkedWalk.Ensures.get ((settle_ensures l _ _).mono (fun child cells' h => ?_))
      obtain ⟨rfl, hchild⟩ := h
      refine ⟨.refl hcells, fun m hm => ?_⟩
      rcases hchild m hm with hm | ⟨w, hw, rfl⟩
      · cases hm
        exact ⟨hl, hne⟩
      · have htakes := apply_eq_ok_iff.mp hw
        refine hl.become hf htakes.admits.ne_absent ?_
        rintro v rfl
        cases hl with
        | atom hleaf => exact htakes.isLeaf (fun hv => hne (congrArg _ hv)) hleaf

omit hf in
/-- **Members that are left without marks** make up a container without marks. -/
theorem walkLinkedEntries_ensures {member : Path → Linked → LinkedWalk (Option Linked)}
    (hmember : ∀ path l cells, l.Sound f → Cells.Good f cells →
      (member path l).Ensures cells (Linked.MayLeave f cells))
    {es : List (Value × Linked)} (hes : ∀ e ∈ es, e.2.Sound f) (hcells : cells.Good f) :
    (walkLinkedEntries member path es).Ensures cells fun es' cells' =>
      cells.Becomes f cells' ∧ ∀ e ∈ es', e.2.Sound f ∧ e.2.IsClean cells' := by
  induction es generalizing cells with
  | nil => exact LinkedWalk.Ensures.pure ⟨.refl hcells, nofun⟩
  | cons e es ih =>
    obtain ⟨k, l⟩ := e
    rw [List.forall_mem_cons] at hes
    refine (hmember _ l cells hes.1 hcells).bind (fun child cells₁ h => ?_)
    refine (ih hes.2 h.1.good).bind (fun es' cells₂ h' => ?_)
    refine LinkedWalk.Ensures.pure ⟨h.1.trans h'.1, fun e he => ?_⟩
    rcases List.mem_append.mp he with he | he
    · obtain ⟨m, hm, rfl⟩ := Option.map_eq_some_iff.mp (Option.mem_toList.mp he)
      exact ⟨(h.2 m hm).1, h'.1.clean m (h.2 m hm).2⟩
    · exact h'.2 e he

omit hf in
theorem walkLinkedItems_ensures {member : Path → Linked → LinkedWalk (Option Linked)}
    (hmember : ∀ path l cells, l.Sound f → Cells.Good f cells →
      (member path l).Ensures cells (Linked.MayLeave f cells))
    {index : Nat} {ls : List Linked} (hls : ∀ l ∈ ls, l.Sound f) (hcells : cells.Good f) :
    (walkLinkedItems member path index ls).Ensures cells fun ls' cells' =>
      cells.Becomes f cells' ∧ ∀ l ∈ ls', l.Sound f ∧ l.IsClean cells' := by
  induction ls generalizing cells index with
  | nil => exact LinkedWalk.Ensures.pure ⟨.refl hcells, nofun⟩
  | cons l ls ih =>
    rw [List.forall_mem_cons] at hls
    refine (hmember _ l cells hls.1 hcells).bind (fun child cells₁ h => ?_)
    refine (ih hls.2 h.1.good).bind (fun ls' cells₂ h' => ?_)
    refine LinkedWalk.Ensures.pure ⟨h.1.trans h'.1, fun m hm => ?_⟩
    rcases List.mem_append.mp hm with hm | hm
    · have hm := h.2 m (Option.mem_toList.mp hm)
      exact ⟨hm.1, h'.1.clean m hm.2⟩
    · exact h'.2 m hm

/-- **The step**: where the members are left without marks, so is the value. -/
theorem walkLinkedMembers_ensures {member : Path → Linked → LinkedWalk (Option Linked)}
    (hmember : ∀ path l cells, l.Sound f → Cells.Good f cells →
      (member path l).Ensures cells (Linked.MayLeave f cells))
    {l : Linked} (hl : l.Sound f) (hne : l ≠ .atom .absent) (hcells : cells.Good f) :
    (walkLinkedMembers member path l).Ensures cells (Linked.Left f cells) := by
  refine update hf hl hne hcells (fun m cells hm hcells => ?_)
  obtain ⟨hsound, hbody⟩ := hm
  cases hsound with
  | map hes =>
    refine (walkLinkedEntries_ensures hmember hes hcells).map (fun es' cells' h => ⟨h.1, ?_, ?_⟩)
    · exact ⟨.map (fun e he => (h.2 e he).1), rfl⟩
    · exact Linked.isClean_map.mpr (fun e he => (h.2 e he).2)
  | list hls =>
    refine (walkLinkedItems_ensures hmember hls hcells).map (fun ls' cells' h => ⟨h.1, ?_, ?_⟩)
    · exact ⟨.list (fun l hl => (h.2 l hl).1), rfl⟩
    · exact Linked.isClean_list.mpr (fun l hl => (h.2 l hl).2)
  | atom hleaf h =>
    have hclean := Linked.isClean_atom hleaf (fun hv => absurd hbody (by rw [hv]; nofun)) cells
    exact LinkedWalk.Ensures.pure ⟨.refl hcells, ⟨.atom hleaf h, hbody⟩, hclean⟩
  | tuple h =>
    exact LinkedWalk.Ensures.pure ⟨.refl hcells, ⟨.tuple h, rfl⟩, Linked.isClean_tuple _ cells⟩
  | cell => cases hbody
  | copy => cases hbody

/-- **The run**: a walk leaves no mark, whatever it starts from and whatever is shared. -/
theorem walkLinked_ensures
    (hdefaults : ∀ path t d, c.schema.locate path = some t → t.first.default? = some d →
      d.Untupled f) (budget : Nat) {l : Linked} (hl : l.Sound f) (hcells : cells.Good f) :
    (c.walkLinked budget path l).Ensures cells (Linked.MayLeave f cells) := by
  induction budget generalizing path l cells with
  | zero =>
    -- nothing is declared any more, and what is kept is sifted
    refine LinkedWalk.Ensures.get ?_
    cases hkept : c.unknown (l.value cells) with
    | none => exact LinkedWalk.Ensures.pure ⟨.refl hcells, nofun⟩
    | some v =>
      have hne : l ≠ .atom .absent := by
        rintro rfl
        cases hkept
      refine (Linked.sift_ensures hf hl hne hcells).bind (fun l' cells' h => ?_)
      refine LinkedWalk.Ensures.pure ⟨h.1, ?_⟩
      rintro _ ⟨⟩
      exact h.2
  | succ budget ih =>
    refine (visitLinked_ensures hf hdefaults hl hcells).bind (fun child cells₁ h => ?_)
    cases child with
    | none => exact LinkedWalk.Ensures.pure ⟨h.1, nofun⟩
    | some m =>
      obtain ⟨hm, hne⟩ := h.2 m rfl
      have hbelow : (c.walkBelow (c.walkLinked budget) path m).Ensures cells₁
        (Linked.Left f cells₁) := by
        unfold walkBelow
        split
        · exact walkLinkedMembers_ensures hf (fun _ _ _ hl hcells => ih hl hcells) hm hne h.1.good
        · exact Linked.sift_ensures hf hm hne h.1.good
      refine hbelow.bind (fun l' cells₂ h' => ?_)
      refine LinkedWalk.Ensures.pure ⟨h.1.trans h'.1, ?_⟩
      rintro _ ⟨⟩
      exact h'.2

/-- **What the walk of the root gives** has no mark at any path, and passes the test of leaves. -/
theorem everywhere_of_walkShared
    (hdefaults : ∀ path t d, c.schema.locate path = some t → t.first.default? = some d →
      d.Untupled f) {es : List (Value × Value)} (hes : (Value.map es).everywhere f = true)
    {v : Value} (h : (c.walkShared es).Yields v) :
    v.everywhere Value.isPresent = true ∧ v.everywhere f = true := by
  have hroot : (walkLinkedMembers (c.walkLinked c.schema.depth) [] (Value.map es).unshared).Ensures
      [] (Linked.Left f []) := by
    refine walkLinkedMembers_ensures hf (fun path l cells hl hcells => ?_)
      (Linked.sound_unshared hes) (by rw [Value.unshared_map]; nofun) nofun
    exact walkLinked_ensures hf hdefaults c.schema.depth hl hcells
  unfold Walk.Yields walkShared at h
  dsimp only at h
  rw [StateT.run_bind] at h
  obtain ⟨out, hout, h⟩ := Checked.bind_eq_ok.mp h
  have hleft := hroot [] out hout
  obtain ⟨⟨l, cells⟩, notes₁⟩ := out
  cases h
  obtain ⟨hbecomes, hsound, hclean⟩ := hleft
  exact ⟨hclean cells.length, Linked.everywhere_value hf hbecomes.good hsound⟩

end Course

/-! ## Results -/

namespace Value

/-- **A test of single values** that sorting does not change may be made before it. -/
theorem everywhere_sortKeys {v : Value} {p : Value → Bool} (hp : ∀ w : Value, p w.sortKeys = p w)
    (h : v.everywhere p = true) : v.sortKeys.everywhere p = true := by
  refine everywhere_iff.mpr (fun path u hu => ?_)
  obtain ⟨w, hw, rfl⟩ := sortKeys_at.mp hu
  rw [hp]
  exact everywhere_iff.mp h path w hw

theorem isPresent_sortKeys (v : Value) : v.sortKeys.isPresent = v.isPresent := by
  cases v <;> rfl

end Value

section Results

variable {o : Options} {data r : Value}

/-- **What every validation returns** passes a test that marking and sorting cannot break, that only
what is foreign can fail, and that the working copy and the defaults pass. No mark is in it. -/
theorem Fields.everywhere_of_validateShared {fs : Fields} {f : Value → Bool}
    (hf : Value.TestsForeign f) (hmarks : Value.IgnoresMarks f)
    (hsort : ∀ v : Value, f v.sortKeys = f v)
    (hdefaults : ∀ path t d, Fields.locate fs path = some t → t.first.default? = some d →
      d.Untupled f)
    (hcopy : ∀ w, data.plain = .ok w → w.everywhere f = true)
    (h : fs.validateShared o data = .ok r) :
    r.everywhere Value.isPresent = true ∧ r.everywhere f = true := by
  obtain ⟨es, v, hplain, hwalk, rfl⟩ := Fields.validateShared_eq_ok.mp h
  have hes := (Value.everywhere_map.mp (hcopy _ hplain)).2
  have hseed : (Value.map (Fields.seed fs es)).everywhere f = true :=
    Value.everywhere_map.mpr ⟨hmarks.map _, Fields.everywhere_seed hmarks fs es hes⟩
  obtain ⟨hpresent, hleaves⟩ :=
    Course.everywhere_of_walkShared (c := ⟨.mapping fs, o⟩) hf hdefaults hseed hwalk
  split
  · exact ⟨Value.everywhere_sortKeys Value.isPresent_sortKeys hpresent,
      Value.everywhere_sortKeys hsort hleaves⟩
  · exact ⟨hpresent, hleaves⟩

end Results

end Conform
