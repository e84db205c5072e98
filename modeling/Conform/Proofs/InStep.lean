import Conform.Proofs.CleanCells
import Conform.Proofs.Findings

/-!
# Walks in step

Two courses may differ in little: in the schema above a place, in the place itself, in when they
end. Where they look up the same types, their walks of linked values do the same, up to what each of
them makes of a violation. What this is, and which ends of the walks go together, is for a
`Walk.Congruence` to say, of which nothing is asked but that it goes step by step. Cells make no
difference to this, for the two walks change them alike (`LinkedWalk.InStep`).

So two walks are in step if their courses are when they settle a visit (`Course.InStep`,
`Course.walkLinked_inStep`). Whatever is shared in the defaults is the same on both sides.
-/

namespace Conform

/-- **A comparison of walks that goes step by step.** -/
structure Walk.Congruence where
  holds : ∀ {α : Type}, Walk α → Walk α → Prop
  pure : ∀ {α : Type} (a : α), holds (Pure.pure a) (Pure.pure a)
  bind : ∀ {α β : Type} {m m' : Walk α} {f f' : α → Walk β}, holds m m' →
    (∀ a, holds (f a) (f' a)) → holds (m >>= f) (m' >>= f')

/-- The comparison of equal walks. -/
def Walk.Congruence.equal : Walk.Congruence where
  holds m m' := m = m'
  pure _ := rfl
  bind h hf := by rw [h, funext hf]

/-- **What is asked of walks that go side by side** is asked step by step, where they only add to
their notes. -/
def Walk.Congruence.related (k : Comparison) : Walk.Congruence where
  holds m m' := m.Appends ∧ m'.Appends ∧ Walk.Related k Eq m m'
  pure a := ⟨Walk.appends_pure a, Walk.appends_pure a, Walk.related_pure rfl⟩
  bind h hf := ⟨h.1.bind (fun a => (hf a).1), h.2.1.bind (fun a => (hf a).2.1),
    h.2.2.bind (fun a => (hf a).1) (fun a => (hf a).2.1) (by rintro a _ rfl; exact (hf a).2.2)⟩

/-- **Two walks of linked values in step**, from whatever cells they start. -/
def LinkedWalk.InStep (K : Walk.Congruence) {α : Type} (x x' : LinkedWalk α) : Prop :=
  ∀ cells, K.holds (x.run cells) (x'.run cells)

namespace LinkedWalk.InStep

variable {K : Walk.Congruence} {α β : Type}

theorem pure (a : α) : InStep K (Pure.pure a) (Pure.pure a) := fun cells => K.pure (a, cells)

theorem bind {x x' : LinkedWalk α} {f f' : α → LinkedWalk β} (h : InStep K x x')
    (hf : ∀ a, InStep K (f a) (f' a)) : InStep K (x >>= f) (x' >>= f') :=
  fun cells => K.bind (h cells) (fun out => hf out.1 out.2)

theorem map {x x' : LinkedWalk α} (g : α → β) (h : InStep K x x') :
    InStep K (g <$> x) (g <$> x') := by
  rw [map_eq_pure_bind, map_eq_pure_bind]
  exact h.bind (fun a => pure (g a))

/-- Walks that do not look at cells may be compared without them. -/
theorem lift {m m' : Walk α} (h : K.holds m m') : InStep K (liftM m) (liftM m') :=
  fun cells => K.bind h (fun a => K.pure (a, cells))

/-- What is done to the cells alone is done on both sides. -/
theorem modifyGet (g : Cells → α × Cells) :
    InStep K (MonadState.modifyGet g) (MonadState.modifyGet g) := fun cells => K.pure (g cells)

theorem get {f f' : Cells → LinkedWalk α} (h : ∀ cells, InStep K (f cells) (f' cells)) :
    InStep K (MonadState.get >>= f) (MonadState.get >>= f') := fun cells => h cells cells

/-- What is done apart is in step if it is where it starts. -/
theorem apart {x x' : LinkedWalk α} (inner : Cells) (h : InStep K x x') :
    InStep K (Linked.apart inner x) (Linked.apart inner x') := by
  intro cells
  rw [Linked.run_apart, Linked.run_apart, map_eq_pure_bind, map_eq_pure_bind]
  exact K.bind (h inner) (fun out => K.pure (out, cells))

/-- **Containers are changed in step** where they are kept. -/
theorem update {change change' : Linked → LinkedWalk Linked}
    (h : ∀ l, InStep K (change l) (change' l)) (l : Linked) :
    InStep K (l.update change) (l.update change') := by
  cases l with
  | cell a =>
    rw [Linked.update_cell, Linked.update_cell]
    refine get (fun cells => ?_)
    cases cells[a]? with
    | none => exact pure _
    | some l => exact (h l).bind (fun l' => (modifyGet _).bind (fun _ => pure _))
  | copy top inner =>
    rw [Linked.update_copy, Linked.update_copy]
    exact (apart inner (h top)).map _
  | _ => exact h _

end LinkedWalk.InStep

namespace Linked

open LinkedWalk

variable {K : Walk.Congruence} {inCell : Nat → LinkedWalk Linked}

/-- Sifting is done on both sides. -/
theorem siftWith_inStep (hcell : ∀ a, InStep K (inCell a) (inCell a)) (l : Linked) :
    InStep K (siftWith inCell l) (siftWith inCell l) := by
  induction l using members_induction with
  | map es ih =>
    refine InStep.map Linked.map ?_
    induction es with
    | nil => exact InStep.pure []
    | cons e es ih' =>
      obtain ⟨k, l⟩ := e
      rw [List.forall_mem_cons] at ih
      by_cases hl : l = .atom .absent
      · subst hl
        exact ih' ih.2
      · rw [siftEntriesWith_cons inCell k hl]
        exact ih.1.bind (fun _ => (ih' ih.2).bind (fun _ => InStep.pure _))
  | list ls ih =>
    refine InStep.map Linked.list ?_
    induction ls with
    | nil => exact InStep.pure []
    | cons l ls ih' =>
      rw [List.forall_mem_cons] at ih
      by_cases hl : l = .atom .absent
      · subst hl
        exact ih' ih.2
      · rw [siftItemsWith_cons inCell hl]
        exact ih.1.bind (fun _ => (ih' ih.2).bind (fun _ => InStep.pure _))
  | atom v => exact InStep.pure _
  | tuple ls => exact InStep.pure _
  | copy top inner => exact InStep.pure _
  | cell a => exact hcell a

theorem siftCell_inStep (depth a : Nat) :
    InStep K (siftCell depth a : LinkedWalk Linked) (siftCell depth a) := by
  induction depth generalizing a with
  | zero => exact InStep.pure _
  | succ depth ih => exact InStep.update (fun l => siftWith_inStep ih l) _

theorem sift_inStep (l : Linked) : InStep K (l.sift : LinkedWalk Linked) l.sift :=
  InStep.get (fun cells => siftWith_inStep (fun a => siftCell_inStep cells.length a) l)

end Linked

namespace Course

open LinkedWalk

/-- **Two courses in step**, the one below one base and the other below another: they drop the same
of what is unknown, and they settle a visit in step. -/
structure InStep (K : Walk.Congruence) (c c' : Course) (base base' : Path) : Prop where
  unknown : c.unknown = c'.unknown
  settle : ∀ (rel : Path) {x : Site → Checked (Option Value)}, Portable x →
    ∀ (l : Linked) (left : Option Linked),
      LinkedWalk.InStep K (c.settle l left (x (c.site (base ++ rel))))
        (c'.settle l left (x (c'.site (base' ++ rel))))

variable {K : Walk.Congruence} {c c' : Course} {base base' : Path}

/-- **A visit is in step** where the same type is found. -/
theorem visitLinked_inStep (h : c.InStep K c' base base') {rel : Path}
    (hlocate : c.schema.locate (base ++ rel) = c'.schema.locate (base' ++ rel)) (l : Linked) :
    LinkedWalk.InStep K (c.visitLinked (base ++ rel) l) (c'.visitLinked (base' ++ rel) l) := by
  cases ht : c.schema.locate (base ++ rel) with
  | none =>
    rw [visitLinked_undeclared ht, visitLinked_undeclared (hlocate ▸ ht), h.unknown]
    exact InStep.get (fun cells => InStep.pure _)
  | some t =>
    have ht' := hlocate ▸ ht
    by_cases hl : l = .atom .absent
    · subst hl
      rw [visitLinked_absent ht, visitLinked_absent ht']
      cases t.fill with
      | some d =>
        exact InStep.get (fun cells =>
          h.settle rel ((portable_checkPresent t (d.value cells)).map some) d none)
      | none => exact h.settle rel (portable_apply t .absent) (.atom .absent) none
    · rw [visitLinked_present ht hl, visitLinked_present ht' hl]
      exact InStep.get (fun cells => h.settle rel (portable_apply t (l.value cells)) l (some l))

section Members

variable {member member' : Path → Linked → LinkedWalk (Option Linked)} {path path' : Path}
  (hmember : ∀ key l, LinkedWalk.InStep K (member (path ++ [key]) l) (member' (path' ++ [key]) l))

include hmember

theorem walkLinkedEntries_inStep (es : List (Value × Linked)) :
    LinkedWalk.InStep K (walkLinkedEntries member path es)
      (walkLinkedEntries member' path' es) := by
  induction es with
  | nil => exact InStep.pure []
  | cons e es ih => exact (hmember e.1 e.2).bind (fun _ => ih.bind (fun _ => InStep.pure _))

theorem walkLinkedItems_inStep (index : Nat) (ls : List Linked) :
    LinkedWalk.InStep K (walkLinkedItems member path index ls)
      (walkLinkedItems member' path' index ls) := by
  induction ls generalizing index with
  | nil => exact InStep.pure []
  | cons l ls ih =>
    exact (hmember (.int index) l).bind (fun _ => (ih (index + 1)).bind (fun _ => InStep.pure _))

theorem walkLinkedMembers_inStep (l : Linked) :
    LinkedWalk.InStep K (walkLinkedMembers member path l) (walkLinkedMembers member' path' l) := by
  refine InStep.update (fun l => ?_) l
  cases l with
  | map es => exact (walkLinkedEntries_inStep hmember es).map Linked.map
  | list ls => exact (walkLinkedItems_inStep hmember 0 ls).map Linked.list
  | _ => exact InStep.pure _

end Members

/-- **Walks are in step** at two places below which the same is declared. -/
theorem walkLinked_inStep (h : c.InStep K c' base base') (budget : Nat) (rel : Path)
    (hlocate : ∀ more, c.schema.locate (base ++ (rel ++ more)) =
      c'.schema.locate (base' ++ (rel ++ more))) (l : Linked) :
    LinkedWalk.InStep K (c.walkLinked budget (base ++ rel) l)
      (c'.walkLinked budget (base' ++ rel) l) := by
  induction budget generalizing rel l with
  | zero =>
    refine InStep.get (fun cells => ?_)
    rw [h.unknown]
    cases c'.unknown (l.value cells) with
    | none => exact InStep.pure none
    | some _ => exact (Linked.sift_inStep l).map some
  | succ budget ih =>
    have hself : c.schema.locate (base ++ rel) = c'.schema.locate (base' ++ rel) := by
      simpa using hlocate []
    refine (visitLinked_inStep h hself l).bind (fun child => ?_)
    cases child with
    | none => exact InStep.pure none
    | some l' =>
      refine InStep.bind (x := c.walkBelow _ (base ++ rel) l') ?_ (fun _ => InStep.pure _)
      unfold walkBelow
      rw [hself]
      split
      · refine walkLinkedMembers_inStep (fun key m => ?_) l'
        rw [List.append_assoc, List.append_assoc]
        exact ih (rel ++ [key])
          (fun more => by rw [List.append_assoc]; exact hlocate ([key] ++ more)) m
      · exact Linked.sift_inStep l'

/-- **The walks of the root are in step**, if there is a budget that serves both. -/
theorem walkShared_inStep (h : c.InStep K c' [] []) (hschema : c.schema = c'.schema)
    (es : List (Value × Value)) : K.holds (c.walkShared es) (c'.walkShared es) := by
  unfold walkShared
  dsimp only
  rw [← hschema]
  refine K.bind (walkLinkedMembers_inStep (fun key l => ?_) _ _) (fun out => K.pure _)
  exact walkLinked_inStep h c.schema.depth ([] ++ [key]) (fun more => by rw [hschema]) l

/-! ## Findings -/

section Findings

variable {base base' : Path} {o : Options}

/-- A failure that is no violation is the same at all places. -/
theorem related_moved_throw {α : Type} {e : Interruption} (h : ∀ v, e ≠ .violation v) :
    (Walk.Congruence.related (.moved o base base')).holds (throw e : Walk α) (throw e) :=
  ⟨Walk.appends_throw e, Walk.appends_throw e, Walk.related_throw (.inr ⟨rfl, h⟩)⟩

/-- **Two courses under the same options** settle a visit with the same finding. -/
theorem inStep_moved (s s' : Schema) (o : Options) (base base' : Path) :
    (⟨s, o⟩ : Course).InStep (.related (.moved o base base')) ⟨s', o⟩ base base' where
  unknown := rfl
  settle rel x hx l left := by
    cases hx with
    | passes w h =>
      rw [h, h]
      exact InStep.pure _
    | stops e hne h =>
      rw [h, h]
      cases e with
      | violation v => exact absurd rfl (hne v)
      | dateOutOfRange => exact fun _ => related_moved_throw nofun
      | search e => exact fun _ => related_moved_throw nofun
    | fails rule extra h =>
      rw [h, h]
      let f : Finding := ⟨rel, rule, extra⟩
      have hreport : (Walk.Congruence.related (.moved o base base')).holds
          (report ⟨s, o⟩ ((f.under base).violation o.catalog))
          (report ⟨s', o⟩ ((f.under base').violation o.catalog)) :=
        ⟨appends_report _ _, appends_report _ _, related_report f⟩
      exact (InStep.lift hreport).bind (fun _ => InStep.pure left)

end Findings

end Course

end Conform
