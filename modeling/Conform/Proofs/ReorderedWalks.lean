import Conform.Proofs.ReorderedCells
import Conform.Proofs.SideBySide

/-!
# Walks of linked values in another order

A walk goes by the order of keys, and what it notes, it notes in that order. Entries that are
matched are walked side by side, from cells that differ in the order of keys only and to such cells
(`LinkedWalk.Reordered`). Two walks next to each other may be swapped if the one has nothing to do
with cells (`Course.related_walkLinkedEntries_loose`): neither sees what the other has noted
(`Walk.related_swap`), nor what the other has changed.
-/

namespace Conform

/-! ## Walks in any order -/

/-- **The same notes in any order.** Nothing is asked of the reasons why the walks end early: of two
dates that leave the calendar, the one that comes first ends the walk. -/
def Comparison.unordered : Comparison where
  notes := .permuted
  ends _ _ := True

namespace Walk

variable {α β γ : Type}

theorem related_refl (m : Walk α) : Related .unordered Eq m m := by
  rw [related_iff]
  cases m.run [] with
  | error e => exact .inr ⟨e, e, rfl, rfl, trivial⟩
  | ok r => exact .inl ⟨r.1, r.1, r.2, r.2, rfl, rfl, rfl, .refl _⟩

theorem Related.symm {R : α → β → Prop} {m : Walk α} {m' : Walk β} (h : Related .unordered R m m') :
    Related .unordered (fun b a => R a b) m' m := by
  rw [related_iff] at h ⊢
  rcases h with ⟨a, b, notes, notes', hm, hm', hab, hnotes⟩ | ⟨e, e', hm, hm', -⟩
  · exact .inl ⟨b, a, notes', notes, hm', hm, hab, hnotes.symm⟩
  · exact .inr ⟨e', e, hm', hm, trivial⟩

theorem Related.trans {R : α → β → Prop} {S : β → γ → Prop} {m : Walk α} {m' : Walk β}
    {m'' : Walk γ} (h : Related .unordered R m m') (h' : Related .unordered S m' m'') :
    Related .unordered (fun a c => ∃ b, R a b ∧ S b c) m m'' := by
  rw [related_iff] at h h' ⊢
  rcases h with ⟨a, b, notes, notes', hm, hm', hab, hnotes⟩ | ⟨e, e', hm, hm', -⟩
  · rcases h' with ⟨b', c, more, notes'', hb, hm'', hbc, hmore⟩ | ⟨e, e', hb, -, -⟩
    · cases hm'.symm.trans hb
      exact .inl ⟨a, c, notes, notes'', hm, hm'', ⟨b, hab, hbc⟩, hnotes.trans hmore⟩
    · cases hm'.symm.trans hb
  · rcases h' with ⟨b', c, more, notes'', hb, -, -, -⟩ | ⟨i, e'', hb, hm'', -⟩
    · cases hm'.symm.trans hb
    · exact .inr ⟨e, e'', hm, hm'', trivial⟩

/-- What is true of all that the first walk gives may be added. -/
theorem Related.and_left {k : Comparison} {R : α → β → Prop} {P : α → Prop} {m : Walk α}
    {m' : Walk β} (h : Related k R m m') (hP : ∀ a notes, m.run [] = .ok (a, notes) → P a) :
    Related k (fun a b => P a ∧ R a b) m m' := by
  rw [related_iff] at h ⊢
  rcases h with ⟨a, b, notes, notes', hm, hm', hab, hnotes⟩ | hends
  · exact .inl ⟨a, b, notes, notes', hm, hm', ⟨hP a notes hm, hab⟩, hnotes⟩
  · exact .inr hends

/-- What related walks yield is related. -/
theorem Related.of_yields {k : Comparison} {R : α → β → Prop} {m : Walk α} {m' : Walk β}
    (h : Related k R m m') {a : α} {b : β} (ha : m.Yields a) (hb : m'.Yields b) : R a b := by
  rcases related_iff.mp h with ⟨a', b', notes, notes', hm, hm', hab, -⟩ | ⟨e, e', hm, -, -⟩
  · cases ha.symm.trans hm
    cases hb.symm.trans hm'
    exact hab
  · cases ha.symm.trans hm

/-- **Two walks may be taken in either order.** -/
theorem related_swap {δ : Type} {R : γ → δ → Prop} {m : Walk α} {m' : Walk β}
    {f : α → β → Walk γ} {g : α → β → Walk δ} (hm : m.Appends) (hm' : m'.Appends)
    (hf : ∀ a b, (f a b).Appends) (hg : ∀ a b, (g a b).Appends)
    (h : ∀ a b, Related .unordered R (f a b) (g a b)) :
    Related .unordered R (m >>= fun a => m' >>= fun b => f a b)
      (m' >>= fun b => m >>= fun a => g a b) := by
  -- what follows the first walk on either side
  let next : α → Walk γ := fun a => m' >>= fun b => f a b
  let next' : β → Walk δ := fun b => m >>= fun a => g a b
  have hnext : ∀ a, (next a).Appends := fun a => hm'.bind (hf a)
  have hnext' : ∀ b, (next' b).Appends := fun b => hm.bind (fun a => hg a b)
  show Related .unordered R (m >>= next) (m' >>= next')
  rw [related_iff]
  cases hrun : m.run [] with
  | error e =>
    refine .inr ⟨e, ?_⟩
    cases hrun' : m'.run [] with
    | error e' => exact ⟨e', run_bind_of_error hrun, run_bind_of_error hrun', trivial⟩
    | ok r =>
      have hrest : (next' r.1).run [] = .error e := run_bind_of_error hrun
      refine ⟨e, run_bind_of_error hrun, ?_, trivial⟩
      rw [run_bind_of_ok (hnext' r.1) hrun', hrest]
      rfl
  | ok r =>
    cases hrun' : m'.run [] with
    | error e' =>
      have hrest : (next r.1).run [] = .error e' := run_bind_of_error hrun'
      refine .inr ⟨e', e', ?_, run_bind_of_error hrun', trivial⟩
      rw [run_bind_of_ok (hnext r.1) hrun, hrest]
      rfl
    | ok r' =>
      obtain ⟨a, notes⟩ := r
      obtain ⟨b, notes'⟩ := r'
      have hrest : (next a).run [] = ((f a b).run []).map (fun r => (r.1, notes' ++ r.2)) :=
        run_bind_of_ok (hf a b) hrun'
      have hrest' : (next' b).run [] = ((g a b).run []).map (fun r => (r.1, notes ++ r.2)) :=
        run_bind_of_ok (f := fun a => g a b) (hg a b) hrun
      rw [run_bind_of_ok (hnext a) hrun, run_bind_of_ok (hnext' b) hrun', hrest, hrest']
      rcases related_iff.mp (h a b) with ⟨c, d, more, more', hc, hd, hcd, hmore⟩ |
        ⟨e, e', hc, hd, -⟩
      · rw [hc, hd]
        refine .inl ⟨c, d, _, _, rfl, rfl, hcd, ?_⟩
        show (notes ++ (notes' ++ more)).Perm (notes' ++ (notes ++ more'))
        exact (List.perm_append_comm_assoc notes notes' more).trans
          ((hmore.append_left notes).append_left notes')
      · rw [hc, hd]
        exact .inr ⟨e, e', rfl, rfl, trivial⟩

end Walk

/-! ## Walks that go side by side -/

/-- The comparison of walks with themselves that asks that they only add to the notes. -/
def Walk.Congruence.appending : Congruence where
  holds m _ := m.Appends
  pure := Walk.appends_pure
  bind h hf := h.bind hf

/-- A walk of linked values only adds to the notes, whatever the cells are. -/
abbrev LinkedWalk.Appends {α : Type} (x : LinkedWalk α) : Prop := x.InStep .appending x

/-- **Walks that go side by side** from cells that differ only in the order of keys, and leave such
cells: they find the same in some order. -/
def LinkedWalk.Reordered {α β : Type} (R : α → β → Prop) (x : LinkedWalk α) (x' : LinkedWalk β) :
    Prop :=
  ∀ cells cells' : Cells, cells.Reordered cells' → Walk.Related .unordered
    (fun out out' => R out.1 out'.1 ∧ Cells.Reordered out.2 out'.2) (x.run cells) (x'.run cells')

namespace LinkedWalk.Reordered

variable {α β γ δ : Type} {R : α → β → Prop} {S : γ → δ → Prop}

theorem pure {a : α} {b : β} (h : R a b) : Reordered R (Pure.pure a) (Pure.pure b) :=
  fun _ _ hcells => Walk.related_pure ⟨h, hcells⟩

theorem throw (e e' : Interruption) :
    Reordered R (MonadExcept.throw e) (MonadExcept.throw e') :=
  fun _ _ _ => Walk.related_throw trivial

/-- Walks that do not look at cells may be compared without them. -/
theorem lift {m : Walk α} {m' : Walk β} (h : Walk.Related .unordered R m m') :
    Reordered R (liftM m) (liftM m') := by
  intro cells cells' hcells
  show Walk.Related _ _ (m >>= fun a => Pure.pure (a, cells))
    (m' >>= fun b => Pure.pure (b, cells'))
  exact h.bind (fun _ => Walk.appends_pure _) (fun _ => Walk.appends_pure _)
    (fun _ _ hab => Walk.related_pure ⟨hab, hcells⟩)

theorem bind {x : LinkedWalk α} {x' : LinkedWalk β} {k : α → LinkedWalk γ} {k' : β → LinkedWalk δ}
    (h : Reordered R x x') (hk : ∀ a, (k a).Appends) (hk' : ∀ b, (k' b).Appends)
    (hkk' : ∀ a b, R a b → Reordered S (k a) (k' b)) : Reordered S (x >>= k) (x' >>= k') :=
  fun cells cells' hcells => (h cells cells' hcells).bind (fun out => hk out.1 out.2)
    (fun out => hk' out.1 out.2) (fun _ _ hout => hkk' _ _ hout.1 _ _ hout.2)

theorem map {x : LinkedWalk α} {x' : LinkedWalk β} (h : Reordered R x x') {f : α → γ} {g : β → δ}
    (hfg : ∀ a b, R a b → S (f a) (g b)) : Reordered S (f <$> x) (g <$> x') := by
  rw [map_eq_pure_bind, map_eq_pure_bind]
  exact h.bind (fun a => .pure (f a)) (fun b => .pure (g b)) (fun a b hab => pure (hfg a b hab))

/-- What is read of the cells differs in the order of keys only. -/
theorem get {x : Cells → LinkedWalk α} {x' : Cells → LinkedWalk β}
    (h : ∀ cells cells', cells.Reordered cells' → Reordered R (x cells) (x' cells')) :
    Reordered R (MonadState.get >>= x) (MonadState.get >>= x') :=
  fun cells cells' hcells => h cells cells' hcells cells cells' hcells

/-- **Containers are changed side by side** where they are kept. -/
theorem update {change change' : Linked → LinkedWalk Linked}
    (h : ∀ l m, l.Reordered m → Reordered Linked.Reordered (change l) (change' m)) {l m : Linked}
    (hlm : l.Reordered m) :
    Reordered Linked.Reordered (l.update change) (m.update change') := by
  cases hlm with
  | cell a =>
    rw [Linked.update_cell, Linked.update_cell]
    refine get (fun cells cells' hcells => ?_)
    have hrel := rel_getElem? hcells a
    generalize cells[a]? = found at hrel
    generalize cells'[a]? = found' at hrel
    cases hrel with
    | none => exact pure (.atom rfl)
    | @some l m hlm =>
      exact (h l m hlm).bind (fun _ _ => Walk.appends_pure _) (fun _ _ => Walk.appends_pure _)
        (fun l m hlm _ _ hcells => Walk.related_pure ⟨.cell a, forall₂_set hcells hlm a⟩)
  | copy htop hinner =>
    intro cells cells' hcells
    rw [Linked.update_copy, Linked.update_copy, StateT.run_map, StateT.run_map, Linked.run_apart,
      Linked.run_apart, Functor.map_map, Functor.map_map]
    exact (h _ _ htop _ _ hinner).map (fun out out' hout => ⟨.copy hout.1 hout.2, hcells⟩)
  | atom hleaf => exact h _ _ (.atom hleaf)
  | tuple hclosed => exact h _ _ (.tuple hclosed)
  | list hls => exact h _ _ (.list hls)
  | map hkeyed hloose hes hloose' => exact h _ _ (.map hkeyed hloose hes hloose')

end LinkedWalk.Reordered

namespace Course

open Walk LinkedWalk

section Members

variable {member member' : Path → Linked → LinkedWalk (Option Linked)} {path : Path}

theorem appends_walkLinkedEntries (h : ∀ path l, (member path l).Appends) (path : Path)
    (es : List (Value × Linked)) : (walkLinkedEntries member path es).Appends :=
  walkLinkedEntries_inStep (fun _ => h _) es

theorem appends_walkLinkedItems (h : ∀ path l, (member path l).Appends) (path : Path) (index : Nat)
    (ls : List Linked) : (walkLinkedItems member path index ls).Appends :=
  walkLinkedItems_inStep (fun _ => h _) index ls

/-- A walk puts no entry into a map. -/
theorem keys_walkLinkedEntries (es : List (Value × Linked)) (cells : Cells) :
    (walkLinkedEntries member path es).Ensures cells fun es' _ =>
      (es'.map Prod.fst).Sublist (es.map Prod.fst) := by
  induction es generalizing cells with
  | nil => exact .pure (.refl _)
  | cons e es ih =>
    have hany : (member (path ++ [e.1]) e.2).Ensures cells fun _ _ => True := fun _ _ _ => trivial
    refine hany.bind (fun child cells' _ => (ih cells').bind (fun rest cells'' hrest => .pure ?_))
    rw [List.map_append]
    cases child with
    | none => exact hrest.cons _
    | some m => exact hrest.cons_cons _

variable (happends : ∀ path l, (member path l).Appends)

include happends

/-- **Entries are walked side by side**, each with its partner. -/
theorem reordered_walkLinkedEntries_pointwise (happends' : ∀ path l, (member' path l).Appends)
    {es fs : List (Value × Linked)}
    (h : List.Forall₂ (fun e f => e.1 = f.1 ∧ LinkedWalk.Reordered (Option.Rel Linked.Reordered)
      (member (path ++ [e.1]) e.2) (member' (path ++ [f.1]) f.2)) es fs) :
    LinkedWalk.Reordered (List.Forall₂ Linked.EntryReordered) (walkLinkedEntries member path es)
      (walkLinkedEntries member' path fs) := by
  induction h with
  | nil => exact .pure .nil
  | @cons e f _ _ hfirst _ ih =>
    obtain ⟨hkey, hfirst⟩ := hfirst
    refine hfirst.bind
      (fun _ => (appends_walkLinkedEntries happends path _).bind (fun _ => .pure _))
      (fun _ => (appends_walkLinkedEntries happends' path _).bind (fun _ => .pure _))
      (fun child child' hchild => ih.bind (fun _ => .pure _) (fun _ => .pure _)
        (fun rest rest' hrest => .pure ?_))
    rw [hkey]
    cases hchild with
    | none => exact hrest
    | some h => exact .cons (.value _ h) hrest

/-- **Items are walked side by side.** -/
theorem reordered_walkLinkedItems (happends' : ∀ path l, (member' path l).Appends) {index : Nat}
    {ls ms : List Linked}
    (h : List.Forall₂ (fun l m => ∀ i : Nat, LinkedWalk.Reordered (Option.Rel Linked.Reordered)
      (member (path ++ [.int i]) l) (member' (path ++ [.int i]) m)) ls ms) :
    LinkedWalk.Reordered (List.Forall₂ Linked.Reordered) (walkLinkedItems member path index ls)
      (walkLinkedItems member' path index ms) := by
  induction h generalizing index with
  | nil => exact .pure .nil
  | cons hfirst _ ih =>
    refine (hfirst index).bind
      (fun _ => (appends_walkLinkedItems happends path _ _).bind (fun _ => .pure _))
      (fun _ => (appends_walkLinkedItems happends' path _ _).bind (fun _ => .pure _))
      (fun child child' hchild => ih.bind (fun _ => .pure _) (fun _ => .pure _)
        (fun rest rest' hrest => .pure ?_))
    cases hchild with
    | none => exact hrest
    | some h => exact .cons h hrest

/-- **Two entries may change places** if one of them refers to no cells. -/
theorem related_walkLinkedEntries_swap {e : Value × Linked}
    (haside : (member (path ++ [e.1]) e.2).Aside fun child => ∀ m ∈ child, m.Closed)
    (f : Value × Linked) (es : List (Value × Linked)) (cells : Cells) :
    Related .unordered (fun out out' => Linked.Loose out.1 out'.1 ∧ out.2 = out'.2)
      ((walkLinkedEntries member path (e :: f :: es)).run cells)
      ((walkLinkedEntries member path (f :: e :: es)).run cells) := by
  have hentries := appends_walkLinkedEntries happends path
  obtain ⟨m, hm⟩ := haside
  let entry : Value → Option Linked → List (Value × Linked) := fun k child =>
    (child.map fun l => (k, l)).toList
  let second : Walk (Option Linked × Cells) := (member (path ++ [f.1]) f.2).run cells
  have hfirst : (walkLinkedEntries member path (e :: f :: es)).run cells =
      m >>= fun a => second >>= fun out => (walkLinkedEntries member path es).run out.2 >>=
        fun rest => pure (entry e.1 a.1 ++ (entry f.1 out.1 ++ rest.1), rest.2) := by
    simp only [walkLinkedEntries, StateT.run_bind, hm, bind_map_left, bind_assoc, StateT.run_pure,
      pure_bind]
    rfl
  have hsecond : (walkLinkedEntries member path (f :: e :: es)).run cells =
      second >>= fun out => m >>= fun a => (walkLinkedEntries member path es).run out.2 >>=
        fun rest => pure (entry f.1 out.1 ++ (entry e.1 a.1 ++ rest.1), rest.2) := by
    simp only [walkLinkedEntries, StateT.run_bind, hm, bind_map_left, bind_assoc, StateT.run_pure,
      pure_bind]
    rfl
  have hm' : m.Appends := by
    have hrun := happends (path ++ [e.1]) e.2 cells
    rw [hm] at hrun
    exact hrun.of_map (fun _ _ h => Subtype.ext (Prod.mk.inj h).1)
  rw [hfirst, hsecond]
  refine related_swap hm' (happends _ _ cells)
    (fun _ out => (hentries es out.2).bind (fun _ => appends_pure _))
    (fun _ out => (hentries es out.2).bind (fun _ => appends_pure _)) (fun a out => ?_)
  refine (related_refl _).bind (fun _ => appends_pure _) (fun _ => appends_pure _)
    (fun rest _ hrest => related_pure ?_)
  subst hrest
  refine ⟨?_, rfl⟩
  obtain ⟨child, hchild⟩ := a
  cases child with
  | none => exact .refl _
  | some l => exact Linked.Loose.middle (e := (e.1, l)) (hchild l rfl) (entry f.1 out.1) rest.1

/-- **Entries may be walked in another order** if those that change places refer to no cells. -/
theorem related_walkLinkedEntries_loose
    (haside : ∀ key (l : Linked), l.Closed →
      (member (path ++ [key]) l).Aside fun child => ∀ m ∈ child, m.Closed)
    {es fs : List (Value × Linked)} (h : Linked.Loose es fs) (cells : Cells) :
    Related .unordered (fun out out' => Linked.Loose out.1 out'.1 ∧ out.2 = out'.2)
      ((walkLinkedEntries member path es).run cells)
      ((walkLinkedEntries member path fs).run cells) := by
  have hentries := appends_walkLinkedEntries happends path
  induction h generalizing cells with
  | refl es => exact (related_refl _).mono (by rintro out _ rfl; exact ⟨.refl _, rfl⟩)
  | symm _ ih => exact (ih cells).symm.mono (fun _ _ hout => ⟨hout.1.symm, hout.2.symm⟩)
  | trans _ _ ih ih' =>
    refine ((ih cells).trans (ih' cells)).mono (fun _ _ hout => ?_)
    obtain ⟨_, hout, hout'⟩ := hout
    exact ⟨hout.1.trans hout'.1, hout.2.trans hout'.2⟩
  | @cons e es fs h ih =>
    rw [walkLinkedEntries, walkLinkedEntries, StateT.run_bind, StateT.run_bind]
    refine (related_refl _).bind (fun out => ((hentries _).bind (fun _ => .pure _)) out.2)
      (fun out => ((hentries _).bind (fun _ => .pure _)) out.2) (fun out _ hout => ?_)
    subst hout
    rw [StateT.run_bind, StateT.run_bind]
    refine (ih out.2).bind (fun _ => appends_pure _) (fun _ => appends_pure _) (fun _ _ hrest => ?_)
    exact related_pure ⟨hrest.1.append_left _, hrest.2⟩
  | swap he f es => exact related_walkLinkedEntries_swap happends (haside _ _ he) f es cells

/-- **The entries of reordered maps** go side by side, if the entries of the one do. -/
theorem reordered_walkLinkedEntries (happends' : ∀ path l, (member' path l).Appends)
    (haside : ∀ key (l : Linked), l.Closed →
      (member (path ++ [key]) l).Aside fun child => ∀ m ∈ child, m.Closed)
    (haside' : ∀ key (l : Linked), l.Closed →
      (member' (path ++ [key]) l).Aside fun child => ∀ m ∈ child, m.Closed)
    {es hs : List (Value × Linked)} (h : (Linked.map es).Reordered (.map hs))
    (hmember : ∀ e ∈ es, ∀ m, e.2.Reordered m →
      LinkedWalk.Reordered (Option.Rel Linked.Reordered) (member (path ++ [e.1]) e.2)
        (member' (path ++ [e.1]) m)) :
    LinkedWalk.Reordered (fun es' hs' => (Linked.map es').Reordered (.map hs'))
      (walkLinkedEntries member path es) (walkLinkedEntries member' path hs) := by
  cases h with
  | @map _ fs gs _ hkeyed hloose hpointwise hloose' =>
    have hpairs : LinkedWalk.Reordered (List.Forall₂ Linked.EntryReordered)
        (walkLinkedEntries member path fs) (walkLinkedEntries member' path gs) := by
      refine reordered_walkLinkedEntries_pointwise happends happends'
        ((forall₂_of_mem hpointwise).imp ?_)
      rintro _ _ ⟨he, -, ⟨k, h⟩⟩
      exact ⟨rfl, hmember _ (hloose.perm.mem_iff.mpr he) _ h⟩
    intro cells cells' hcells
    have hkeys : ∀ (out : List (Value × Linked) × Cells) notes,
        ((walkLinkedEntries member path es).run cells).run [] = .ok (out, notes) →
        (out.1.map Prod.fst).Sublist (es.map Prod.fst) :=
      fun out notes hrun => keys_walkLinkedEntries es cells [] (out, notes) hrun
    refine (((related_walkLinkedEntries_loose happends haside hloose cells).trans
      ((hpairs cells cells' hcells).trans
        (related_walkLinkedEntries_loose happends' haside' hloose' cells'))).and_left
          hkeys).mono ?_
    rintro out out' ⟨hsub, _, ⟨hfirst, hcells₁⟩, _, ⟨hpairs, hcells₂⟩, hlast, hcells₃⟩
    refine ⟨.map (hkeyed.sublist (hsub.filterMap _)) hfirst hpairs hlast, ?_⟩
    rw [hcells₁, ← hcells₃]
    exact hcells₂

/-- **The members of reordered values** go side by side, if reordered members do. -/
theorem reordered_walkLinkedMembers (happends' : ∀ path l, (member' path l).Appends)
    (haside : ∀ key (l : Linked), l.Closed →
      (member (path ++ [key]) l).Aside fun child => ∀ m ∈ child, m.Closed)
    (haside' : ∀ key (l : Linked), l.Closed →
      (member' (path ++ [key]) l).Aside fun child => ∀ m ∈ child, m.Closed)
    (hmember : ∀ key l m, l.Reordered m → LinkedWalk.Reordered (Option.Rel Linked.Reordered)
      (member (path ++ [key]) l) (member' (path ++ [key]) m)) {l m : Linked}
    (hlm : l.Reordered m) : LinkedWalk.Reordered Linked.Reordered
      (walkLinkedMembers member path l) (walkLinkedMembers member' path m) := by
  refine LinkedWalk.Reordered.update (fun l m hlm => ?_) hlm
  cases hlm with
  | map hkeyed hloose h hloose' =>
    exact (reordered_walkLinkedEntries happends happends' haside haside'
      (.map hkeyed hloose h hloose') (fun e _ m h => hmember e.1 e.2 m h)).map (fun _ _ h => h)
  | list h =>
    exact (reordered_walkLinkedItems happends happends'
      (h.imp (fun l m hlm (i : Nat) => hmember (.int i) l m hlm))).map (fun _ _ h => .list h)
  | atom hleaf => exact .pure (.atom hleaf)
  | tuple h => exact .pure (.tuple h)
  | cell a => exact .pure (.cell a)
  | copy h hinner => exact .pure (.copy h hinner)

end Members

end Course

/-! ### Sifting -/

namespace Linked

open LinkedWalk.Reordered

variable {inCell inCell' : Nat → LinkedWalk Linked}

/-- How a member is sifted: a mark is dropped. -/
def siftMember (inCell : Nat → LinkedWalk Linked) (_ : Path) :
    Linked → LinkedWalk (Option Linked)
  | .atom .absent => return none
  | l => some <$> siftWith inCell l

theorem siftMember_of_ne {l : Linked} (h : l ≠ .atom .absent) (path : Path) :
    siftMember inCell path l = some <$> siftWith inCell l := by
  cases l with
  | atom v => cases v <;> first | rfl | exact absurd rfl h
  | _ => rfl

/-- Sifting entries is walking them. -/
theorem siftEntriesWith_eq (es : List (Value × Linked)) :
    siftEntriesWith inCell es = Course.walkLinkedEntries (siftMember inCell) [] es := by
  induction es with
  | nil => rfl
  | cons e es ih =>
    obtain ⟨k, l⟩ := e
    by_cases hl : l = .atom .absent
    · subst hl
      rw [siftEntriesWith, ih, Course.walkLinkedEntries]
      show _ = (do
        let rest ← Course.walkLinkedEntries (siftMember inCell) [] es
        Pure.pure ([] ++ rest))
      simp only [List.nil_append, bind_pure]
    · rw [siftEntriesWith_cons inCell k hl, Course.walkLinkedEntries, siftMember_of_ne hl, ih,
        bind_map_left]
      rfl

theorem siftItemsWith_eq (ls : List Linked) (index : Nat) :
    siftItemsWith inCell ls = Course.walkLinkedItems (siftMember inCell) [] index ls := by
  induction ls generalizing index with
  | nil => rfl
  | cons l ls ih =>
    by_cases hl : l = .atom .absent
    · subst hl
      rw [siftItemsWith, ih (index + 1), Course.walkLinkedItems]
      show _ = (do
        let rest ← Course.walkLinkedItems (siftMember inCell) [] (index + 1) ls
        Pure.pure ([] ++ rest))
      simp only [List.nil_append, bind_pure]
    · rw [siftItemsWith_cons inCell hl, Course.walkLinkedItems, siftMember_of_ne hl,
        ih (index + 1), bind_map_left]
      rfl

theorem appends_siftMember (h : ∀ a, (inCell a).Appends) (path : Path) (l : Linked) :
    (siftMember inCell path l).Appends := by
  by_cases hl : l = .atom .absent
  · subst hl
    exact .pure _
  · rw [siftMember_of_ne hl]
    exact (siftWith_inStep h l).map _

theorem siftMember_aside (inCell : Nat → LinkedWalk Linked) (path : Path) {l : Linked}
    (hl : l.Closed) : (siftMember inCell path l).Aside fun child => ∀ m ∈ child, m.Closed := by
  by_cases hne : l = .atom .absent
  · subst hne
    exact .pure (by rintro _ ⟨⟩)
  · rw [siftMember_of_ne hne, hl.siftWith_eq]
    exact .pure (by rintro _ ⟨⟩; exact hl.sifted)

theorem Reordered.eq_absent {l m : Linked} (h : l.Reordered m) :
    l = .atom .absent ↔ m = .atom .absent := by
  cases h <;> simp

/-- Members are sifted side by side, and marks are dropped on both sides. -/
theorem reordered_siftMember {l m : Linked} (hlm : l.Reordered m)
    (h : LinkedWalk.Reordered Linked.Reordered (siftWith inCell l) (siftWith inCell' m))
    (path : Path) : LinkedWalk.Reordered (Option.Rel Linked.Reordered) (siftMember inCell path l)
      (siftMember inCell' path m) := by
  by_cases hl : l = .atom .absent
  · have hm := hlm.eq_absent.mp hl
    subst hl hm
    exact .pure .none
  · rw [siftMember_of_ne hl, siftMember_of_ne (fun hm => hl (hlm.eq_absent.mpr hm))]
    exact h.map (fun _ _ h => .some h)

/-- Nothing outside of a copy refers to its cells, so it is sifted as if there were no others. -/
theorem reordered_sifted {l m : Linked} (h : LinkedWalk.Reordered Linked.Reordered
    (siftWith (fun a => Pure.pure (.cell a)) l) (siftWith (fun a => Pure.pure (.cell a)) m)) :
    l.sifted.Reordered m.sifted := by
  rw [siftWith_eq_pure (fun _ => rfl), siftWith_eq_pure (fun _ => rfl)] at h
  exact (h [] [] .nil).1.1

/-- **Sifting goes side by side**, if sifting cells does. -/
theorem reordered_siftWith {l m : Linked} (hlm : l.Reordered m)
    (happends : ∀ a, (inCell a).Appends) (happends' : ∀ a, (inCell' a).Appends)
    (hcell : ∀ a, LinkedWalk.Reordered Linked.Reordered (inCell a) (inCell' a)) :
    LinkedWalk.Reordered Linked.Reordered (siftWith inCell l) (siftWith inCell' m) := by
  induction l using members_induction generalizing m inCell inCell' with
  | map es ih =>
    cases hlm with
    | map hkeyed hloose h hloose' =>
      rw [siftWith, siftWith, siftEntriesWith_eq, siftEntriesWith_eq]
      exact (Course.reordered_walkLinkedEntries (appends_siftMember happends)
        (appends_siftMember happends') (fun _ _ => siftMember_aside inCell _)
        (fun _ _ => siftMember_aside inCell' _) (.map hkeyed hloose h hloose')
        (fun e he m hem => reordered_siftMember hem (ih e he hem happends happends' hcell) _)).map
          (fun _ _ h => h)
  | list ls ih =>
    cases hlm with
    | list h =>
      rw [siftWith, siftWith, siftItemsWith_eq _ 0, siftItemsWith_eq _ 0]
      refine (Course.reordered_walkLinkedItems (appends_siftMember happends)
        (appends_siftMember happends') ((forall₂_of_mem h).imp ?_)).map (fun _ _ h => .list h)
      rintro l m ⟨hl, -, hlm⟩ i
      exact reordered_siftMember hlm (ih l hl hlm happends happends' hcell) _
  | cell a =>
    cases hlm
    exact hcell a
  | atom v =>
    cases hlm with
    | atom hleaf => exact .pure (.atom hleaf)
  | tuple ls =>
    cases hlm with
    | tuple h => exact .pure (.tuple h)
  | copy top inner ihtop ih =>
    cases hlm with
    | copy h hinner =>
      have hpure : ∀ a, LinkedWalk.Appends (Pure.pure (Linked.cell a)) := fun a => .pure _
      refine .pure (.copy ?_ ?_)
      · exact reordered_sifted (ihtop h hpure hpure (fun a => .pure (.cell a)))
      · rw [siftedCells_eq_map, siftedCells_eq_map]
        refine List.rel_map ?_ (forall₂_of_mem hinner)
        rintro l m ⟨hl, -, hlm⟩
        exact reordered_sifted (ih l hl hlm hpure hpure (fun a => .pure (.cell a)))

/-- Sifting a cell goes side by side. -/
theorem reordered_siftCell (depth a : Nat) : LinkedWalk.Reordered Linked.Reordered
    (siftCell depth a) (siftCell depth a) := by
  induction depth generalizing a with
  | zero => exact .pure (.atom rfl)
  | succ depth ih =>
    have happends : ∀ a, LinkedWalk.Appends (siftCell depth a : LinkedWalk Linked) :=
      siftCell_inStep depth
    exact LinkedWalk.Reordered.update
      (fun l m hlm => reordered_siftWith hlm happends happends ih) (.cell a)

theorem Reordered.sift {l m : Linked} (hlm : l.Reordered m) :
    LinkedWalk.Reordered Linked.Reordered l.sift m.sift := by
  refine LinkedWalk.Reordered.get (fun cells cells' hcells => ?_)
  have happends : ∀ a, LinkedWalk.Appends (siftCell cells.length a : LinkedWalk Linked) :=
    siftCell_inStep cells.length
  rw [← hcells.length_eq]
  exact reordered_siftWith hlm happends happends (reordered_siftCell _)

end Linked

end Conform
