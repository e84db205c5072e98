import Conform.Proofs.Alone
import Conform.Proofs.Failures

/-!
# What a walk comes to

A walk checks nothing but what it comes to: what the data holds, and below a mark what the default
holds that takes its place. Where a default shares nothing, this is there to be read in the schema.
Where it does, what a walk comes to in one place of a container may be what it has left there from
another place, so it is told step by step along the walk (`Course.Comes`).

Whatever ends a walk is thus explained by something that it meets (`Fields.Meets`,
`Course.lands_walkAlone`), and validation has few ways to end (`Schema.validateShared_ends`).
-/

namespace Conform

/-! ## Where walks land -/

namespace Walk

variable {α β : Type} {E : Interruption → Prop} {P : α → Prop} {Q : β → Prop}

/-- **Where a walk lands**: at a result of some sort, or it ends early for a reason of some sort. -/
def Lands (E : Interruption → Prop) (P : α → Prop) (m : Walk α) : Prop :=
  ∀ notes, match m.run notes with
    | .ok r => P r.1
    | .error i => E i

/-- **What a walk may give**, whatever has been noted before. -/
def Gives (m : Walk α) (a : α) : Prop := ∃ notes notes', m.run notes = .ok (a, notes')

theorem lands_pure {a : α} (h : P a) : Lands E P (pure a) := fun _ => h

theorem lands_throw {i : Interruption} (h : E i) : Lands E P (throw i) := fun _ => h

/-- **A sequence lands** where its second part does, from all results of the first. -/
theorem Lands.bind {m : Walk α} {f : α → Walk β} (hm : Lands E P m)
    (hf : ∀ a, P a → Lands E Q (f a)) : Lands E Q (m >>= f) := by
  intro notes
  have hfirst := hm notes
  rw [StateT.run_bind]
  cases hrun : m.run notes with
  | error i =>
    rw [hrun] at hfirst
    exact hfirst
  | ok r =>
    rw [hrun] at hfirst
    exact hf r.1 hfirst r.2

/-- Nothing is asked of what becomes of a result. -/
theorem Lands.map {m : Walk α} (hm : Lands E P m) (f : α → β) :
    Lands E (fun _ => True) (f <$> m) := by
  rw [map_eq_pure_bind]
  exact hm.bind (fun _ _ => lands_pure trivial)

/-- A walk lands at what it may give. -/
theorem Lands.gives {m : Walk α} (hm : Lands E P m) : Lands E m.Gives m := by
  intro notes
  have h := hm notes
  cases hrun : m.run notes with
  | error i =>
    rw [hrun] at h
    exact h
  | ok r => exact ⟨notes, r.2, hrun⟩

/-- The comparison of walks with themselves that asks for what reasons they end early. -/
def Congruence.landing (E : Interruption → Prop) : Congruence where
  holds m _ := Lands E (fun _ => True) m
  pure _ := lands_pure trivial
  bind h hf := h.bind (fun a _ => hf a)

end Walk

/-- **What explains that a walk ends early.** A violation does if validation ends at the first, and
other failures have to be accounted for. -/
def Interruption.ExplainedBy (o : Options) (P : CheckFailure → Prop) : Interruption → Prop
  | .violation _ => o.abortEarly = true
  | .dateOutOfRange => P .dateOutOfRange
  | .search e => P (.search e)

/-! ## What a walk comes to in a default -/

/-- What a linked value holds, and the cells for that: what is in its cell, if it is an address, and
what is in a copy has the cells of the copy. -/
def Linked.opened (l : Linked) (cells : Cells) : Linked × Cells :=
  match l with
  | .cell a => (cells.content a, cells)
  | .copy top inner => (top, inner)
  | l => (l, cells)

mutual

/-- **The values that a walk of a linked value comes to**, each at its path: the value itself, the
default that takes its place if it is a mark, and what the walk comes to in the members of what is
left by the visit of something declared. -/
inductive Course.Comes (c : Course) : (budget : Nat) → Path → Linked → Cells → Path → Value → Prop
  | value {budget : Nat} {path : Path} {l : Linked} {cells : Cells} :
    Comes c budget path l cells path (l.value cells)
  | default {budget : Nat} {path : Path} {cells : Cells} {t : TypeSpec} {d : Linked}
    (ht : c.schema.locate path = some t) (hfill : t.fill = some d) :
    Comes c budget path (.atom .absent) cells path (d.value cells)
  | entry {budget : Nat} {path path' : Path} {l m : Linked} {cells cells' inner : Cells} {v : Value}
    {es : List (Value × Linked)} {t : TypeSpec} (ht : c.schema.locate path = some t)
    (hvisit : ((c.visitLinked path l).run cells).Gives (some m, cells'))
    (hopened : m.opened cells' = (.map es, inner))
    (h : EntriesCome c budget path es inner path' v) :
    Comes c (budget + 1) path l cells path' v
  | item {budget : Nat} {path path' : Path} {l m : Linked} {cells cells' inner : Cells} {v : Value}
    {ls : List Linked} {t : TypeSpec} (ht : c.schema.locate path = some t)
    (hvisit : ((c.visitLinked path l).run cells).Gives (some m, cells'))
    (hopened : m.opened cells' = (.list ls, inner))
    (h : ItemsCome c budget path 0 ls inner path' v) :
    Comes c (budget + 1) path l cells path' v

/-- **What a walk comes to in entries**: in each of them, with the cells as the walks of those
before it have left them. -/
inductive Course.EntriesCome (c : Course) :
    (budget : Nat) → Path → List (Value × Linked) → Cells → Path → Value → Prop
  | here {budget : Nat} {path path' : Path} {k : Value} {l : Linked} {es : List (Value × Linked)}
    {cells : Cells} {v : Value} (h : Comes c budget (path ++ [k]) l cells path' v) :
    EntriesCome c budget path ((k, l) :: es) cells path' v
  | later {budget : Nat} {path path' : Path} {k : Value} {l : Linked} {es : List (Value × Linked)}
    {cells cells' : Cells} {child : Option Linked} {v : Value}
    (hfirst : ((c.walkLinked budget (path ++ [k]) l).run cells).Gives (child, cells'))
    (h : EntriesCome c budget path es cells' path' v) :
    EntriesCome c budget path ((k, l) :: es) cells path' v

/-- **What a walk comes to in items** from an index on. -/
inductive Course.ItemsCome (c : Course) :
    (budget : Nat) → Path → Nat → List Linked → Cells → Path → Value → Prop
  | here {budget : Nat} {path path' : Path} {index : Nat} {l : Linked} {ls : List Linked}
    {cells : Cells} {v : Value} (h : Comes c budget (path ++ [.int index]) l cells path' v) :
    ItemsCome c budget path index (l :: ls) cells path' v
  | later {budget : Nat} {path path' : Path} {index : Nat} {l : Linked} {ls : List Linked}
    {cells cells' : Cells} {child : Option Linked} {v : Value}
    (hfirst : ((c.walkLinked budget (path ++ [.int index]) l).run cells).Gives (child, cells'))
    (h : ItemsCome c budget path (index + 1) ls cells' path' v) :
    ItemsCome c budget path index (l :: ls) cells path' v

end

namespace Course

open Walk LinkedWalk Checked Linked

/-! ## Accounts -/

section Accounts

variable {c : Course} {P : CheckFailure → Prop} {path : Path} {t : TypeSpec} {v : Value}
  {cells : Cells}

/-- What the check of a value at a path may fail for **is accounted for**. -/
def Accounts (c : Course) (P : CheckFailure → Prop) (path : Path) (v : Value) : Prop :=
  ∀ t f, c.schema.locate path = some t → (t.resolve v).Explains v f → P f

/-- A failure that is a violation, or accounted for. -/
def Told (P : CheckFailure → Prop) (f : CheckFailure) : Prop := (∃ w, f = .violation w) ∨ P f

theorem failsFor_checkPresent (site : Site) (ht : c.schema.locate path = some t)
    (h : c.Accounts P path v) : FailsFor (Told P) (checkPresent site t v) := by
  unfold checkPresent
  split
  · exact site.failsFor_fail (fun _ => .inl ⟨_, rfl⟩) _ _
  · exact fun f hf => .inr (h t f ht (Node.explains_of_check _ _ _ f hf))

/-- **What a type has to object to in a value** is accounted for, if it is in the value and in the
default that may take its place. -/
theorem failsFor_apply (site : Site) (ht : c.schema.locate path = some t)
    (h : c.Accounts P path v)
    (hdefault : ∀ d, v = .absent → t.first.default? = some d → d ≠ .null →
      c.Accounts P path (t.seed d)) : FailsFor (Told P) (apply site t v) := by
  by_cases hnull : v = .null
  · subst hnull
    rw [apply_null]
    split
    · exact failsFor_ok _
    · exact site.failsFor_fail (fun _ => .inl ⟨_, rfl⟩) _ _
  by_cases habsent : v = .absent
  · subst habsent
    cases hd : t.first.default? with
    | none =>
      rw [apply_absent_of_none hd]
      split
      · exact site.failsFor_fail (fun _ => .inl ⟨_, rfl⟩) _ _
      · exact failsFor_ok _
    | some d =>
      by_cases hne : d = .null
      · subst hne
        rw [apply_absent_of_null hd]
        exact failsFor_ok _
      · rw [apply_absent_of_default hd hne]
        exact (failsFor_checkPresent site ht (hdefault d rfl hd hne)).map some
  · rw [apply_of_present hnull habsent]
    exact (failsFor_checkPresent site ht h).map some

theorem lands_report (w : Violation) :
    Lands (Interruption.ExplainedBy c.options P) (fun _ => True) (c.report w) := by
  unfold report
  split
  next habort => exact lands_throw habort
  next => exact fun _ => trivial

/-- A visit of a linked value ends the walk for what the check says. -/
theorem lands_settle {l : Linked} {left : Option Linked} {outcome : Checked (Option Value)}
    (h : FailsFor (Told P) outcome) :
    Lands (Interruption.ExplainedBy c.options P) (fun _ => True)
      ((c.settle l left outcome).run cells) := by
  cases outcome with
  | ok w => exact fun _ => trivial
  | error f =>
    have hf := h f rfl
    cases f with
    | dateOutOfRange => exact lands_throw (hf.resolve_left nofun)
    | search e => exact lands_throw (hf.resolve_left nofun)
    | violation w =>
      rw [settle_violation]
      exact (lands_report w).map _

end Accounts

/-! ## Walks of linked values -/

section LinkedWalks

variable {c : Course} {P : CheckFailure → Prop} {path : Path} {budget : Nat} {cells : Cells}
  {l : Linked}

/-- Linked values in which every cell holds what it may, whatever the leaves are. -/
abbrev Tidy (l : Linked) : Prop := l.Sound fun _ => true

/-- Cells that hold what they may, whatever the leaves are. -/
abbrev TidyCells (cells : Cells) : Prop := cells.Good fun _ => true

/-- What is in a tidy value is tidy, and so are its cells. -/
theorem tidy_opened (hcells : TidyCells cells) (hl : Tidy l) :
    Tidy (l.opened cells).1 ∧ TidyCells (l.opened cells).2 := by
  cases l with
  | cell a => exact ⟨(held_content (fun _ _ => rfl) hcells a).sound, hcells⟩
  | copy top inner => exact ⟨hl.held_of_copy.1.sound, hl.held_of_copy.2⟩
  | _ => exact ⟨hl, hcells⟩

theorem valueWith_ne_absent (h : l.isBody = true) (inCell : Nat → Value) :
    l.valueWith inCell ≠ .absent := by
  cases l with
  | atom v =>
    rintro rfl
    cases h
  | cell a => cases h
  | copy top inner => cases h
  | _ =>
    intro h
    cases h

/-- Nothing that is no mark is read as one. -/
theorem value_ne_absent (hcells : TidyCells cells) (hl : Tidy l) (hne : l ≠ .atom .absent) :
    l.value cells ≠ .absent := by
  cases l with
  | atom v => exact fun hv => hne (congrArg Linked.atom hv)
  | cell a =>
    show cellValue cells cells.length a ≠ .absent
    cases cells.length with
    | zero =>
      intro h
      cases h
    | succ depth =>
      rw [cellValue_succ]
      exact valueWith_ne_absent (held_content (fun _ _ => rfl) hcells a).isBody _
  | copy top inner => exact valueWith_ne_absent hl.held_of_copy.1.isBody _
  | _ =>
    intro h
    cases h

/-- A container is changed where it is kept, and this lands where the change does. -/
theorem lands_update {E : Interruption → Prop} {change : Linked → LinkedWalk Linked}
    (h : Lands E (fun _ => True) ((change (l.opened cells).1).run (l.opened cells).2)) :
    Lands E (fun _ => True) ((l.update change).run cells) := by
  cases l with
  | cell a =>
    rw [update_cell]
    have hopened : (cell a).opened cells = (cells[a]?.getD (.atom .null), cells) :=
      congrArg (fun l => (l, cells)) (List.getD_eq_getElem?_getD ..)
    show Lands E _ ((cells[a]?.elim _ _ : LinkedWalk Linked).run cells)
    rw [hopened] at h
    cases hcell : cells[a]? with
    | none => exact fun _ => trivial
    | some m =>
      rw [hcell] at h
      show Lands E _ ((change m).run cells >>= fun out => pure (cell a, out.2.set a out.1))
      exact h.bind (fun _ _ => lands_pure trivial)
  | copy top inner =>
    rw [update_copy, StateT.run_map, run_apart]
    exact (Lands.map h _).map _
  | _ => exact h

/-- **A visit** of a linked value ends the walk for what it comes to there. -/
theorem lands_visitLinked (hcells : TidyCells cells) (hl : Tidy l)
    (h : ∀ v, c.Comes budget path l cells path v → c.Accounts P path v) :
    Lands (Interruption.ExplainedBy c.options P) (fun _ => True)
      ((c.visitLinked path l).run cells) := by
  cases ht : c.schema.locate path with
  | none =>
    rw [visitLinked_undeclared ht]
    exact fun _ => trivial
  | some t =>
    by_cases habsent : l = .atom .absent
    · subst habsent
      rw [visitLinked_absent ht]
      cases hd : t.first.default? with
      | none =>
        rw [TypeSpec.fill_of_none hd]
        refine lands_settle (failsFor_apply _ ht (h _ .value) (fun d _ hd' => ?_))
        cases hd.symm.trans hd'
      | some d =>
        by_cases hne : d = .null
        · subst hne
          rw [TypeSpec.fill_of_null hd]
          refine lands_settle (failsFor_apply _ ht (h _ .value) (fun d' _ hd' hne => ?_))
          cases hd.symm.trans hd'
          exact absurd rfl hne
        · have hfill := TypeSpec.fill_of_default hd hne
          rw [hfill]
          exact lands_settle (c := c)
            (FailsFor.map some (failsFor_checkPresent _ ht (h _ (.default ht hfill))))
    · rw [visitLinked_present ht habsent]
      refine lands_settle (failsFor_apply _ ht (h _ .value) (fun d hv => ?_))
      exact absurd hv (value_ne_absent hcells hl habsent)

/-- A walk keeps cells tidy. -/
theorem tidy_of_gives (hcells : TidyCells cells) (hl : Tidy l) {child : Option Linked}
    {cells' : Cells} (h : ((c.walkLinked budget path l).run cells).Gives (child, cells')) :
    TidyCells cells' := by
  obtain ⟨notes, notes', hrun⟩ := h
  exact (walkLinked_ensures (fun _ _ => rfl) c.untupled_trivial budget hl hcells notes _
    hrun).1.good

section Members

variable (ih : ∀ (path : Path) (l : Linked) (cells : Cells), TidyCells cells → Tidy l →
  (∀ path' v, c.Comes budget path l cells path' v → c.Accounts P path' v) →
  Lands (Interruption.ExplainedBy c.options P) (fun _ => True)
    ((c.walkLinked budget path l).run cells))

include ih

theorem lands_walkLinkedEntries {es : List (Value × Linked)} (hcells : TidyCells cells)
    (hes : ∀ e ∈ es, Tidy e.2)
    (h : ∀ path' v, c.EntriesCome budget path es cells path' v → c.Accounts P path' v) :
    Lands (Interruption.ExplainedBy c.options P) (fun _ => True)
      ((walkLinkedEntries (c.walkLinked budget) path es).run cells) := by
  induction es generalizing cells with
  | nil => exact fun _ => trivial
  | cons e es ih' =>
    obtain ⟨k, l⟩ := e
    rw [List.forall_mem_cons] at hes
    rw [walkLinkedEntries, StateT.run_bind]
    refine (ih _ l cells hcells hes.1 (fun path' v hv => h path' v (.here hv))).gives.bind ?_
    rintro ⟨child, cells'⟩ hfirst
    rw [StateT.run_bind]
    exact (ih' (tidy_of_gives hcells hes.1 hfirst) hes.2 (fun path' v hv =>
      h path' v (.later hfirst hv))).bind (fun _ _ => fun _ => trivial)

theorem lands_walkLinkedItems {index : Nat} {ls : List Linked} (hcells : TidyCells cells)
    (hls : ∀ l ∈ ls, Tidy l)
    (h : ∀ path' v, c.ItemsCome budget path index ls cells path' v → c.Accounts P path' v) :
    Lands (Interruption.ExplainedBy c.options P) (fun _ => True)
      ((walkLinkedItems (c.walkLinked budget) path index ls).run cells) := by
  induction ls generalizing cells index with
  | nil => exact fun _ => trivial
  | cons l ls ih' =>
    rw [List.forall_mem_cons] at hls
    rw [walkLinkedItems, StateT.run_bind]
    refine (ih _ l cells hcells hls.1 (fun path' v hv => h path' v (.here hv))).gives.bind ?_
    rintro ⟨child, cells'⟩ hfirst
    rw [StateT.run_bind]
    exact (ih' (tidy_of_gives hcells hls.1 hfirst) hls.2 (fun path' v hv =>
      h path' v (.later hfirst hv))).bind (fun _ _ => fun _ => trivial)

end Members

/-- Sifting does not end a walk. -/
theorem lands_sift (E : Interruption → Prop) (l : Linked) (cells : Cells) :
    Lands E (fun _ => True) ((l.sift : LinkedWalk Linked).run cells) :=
  sift_inStep (K := .landing E) l cells

/-- **The run**: a walk of a linked value ends early for what it comes to. -/
theorem lands_walkLinked (hcells : TidyCells cells) (hl : Tidy l)
    (h : ∀ path' v, c.Comes budget path l cells path' v → c.Accounts P path' v) :
    Lands (Interruption.ExplainedBy c.options P) (fun _ => True)
      ((c.walkLinked budget path l).run cells) := by
  induction budget generalizing path l cells with
  | zero =>
    have hsift : LinkedWalk.InStep (Congruence.landing (Interruption.ExplainedBy c.options P))
        (c.walkLinked 0 path l) (c.walkLinked 0 path l) := by
      refine InStep.get (fun cells => ?_)
      cases c.unknown (l.value cells) with
      | none => exact InStep.pure none
      | some _ => exact (sift_inStep l).map some
    exact hsift cells
  | succ budget ih =>
    rw [walkLinked_succ, StateT.run_bind]
    refine (lands_visitLinked hcells hl (fun v => h path v)).gives.bind ?_
    rintro ⟨child, cells'⟩ hvisit
    cases child with
    | none => exact fun _ => trivial
    | some m =>
      rw [descend, StateT.run_map]
      refine Lands.map (P := fun _ => True) ?_ _
      cases ht : c.schema.locate path with
      | none =>
        rw [walkBelow_undeclared ht]
        exact lands_sift _ m cells'
      | some t =>
        rw [walkBelow_of_locate ht]
        obtain ⟨notes, notes', hrun⟩ := id hvisit
        obtain ⟨hbecomes, hm⟩ := visitLinked_ensures (fun _ _ => rfl) c.untupled_trivial hl hcells
          notes _ hrun
        have hopened := tidy_opened hbecomes.good (hm m rfl).1
        refine lands_update ?_
        cases hcontent : m.opened cells' with
        | mk top inner =>
          rw [hcontent] at hopened
          obtain ⟨htop, hinner⟩ := hopened
          cases top with
          | map es =>
            have hes : ∀ e ∈ es, Tidy e.2 := by cases htop; assumption
            dsimp only
            rw [StateT.run_map]
            exact (lands_walkLinkedEntries (fun _ _ _ => ih) hinner hes
              (fun path' v hv => h path' v (.entry ht hvisit hcontent hv))).map _
          | list ls =>
            have hls : ∀ l ∈ ls, Tidy l := by cases htop; assumption
            dsimp only
            rw [StateT.run_map]
            exact (lands_walkLinkedItems (fun _ _ _ => ih) hinner hls
              (fun path' v hv => h path' v (.item ht hvisit hcontent hv))).map _
          | _ => exact fun _ => trivial

end LinkedWalks

end Course

/-! ## What a walk meets -/

/-- **The values that stand in marked data**, each at its path: what the data holds, and below a
mark what the default holds that takes its place, unless the default shares a container. -/
inductive Fields.Holds (fs : Fields) (es : List (Value × Value)) : Path → Value → Prop
  | root : Holds fs es [] (.map (Fields.seed fs es))
  | entry {path : Path} {entries : List (Value × Value)} {k v : Value}
    (h : Holds fs es path (.map entries)) (hmem : (k, v) ∈ entries) : Holds fs es (path ++ [k]) v
  | item {path : Path} {items : List Value} {i : Nat} {v : Value}
    (h : Holds fs es path (.list items)) (hget : items[i]? = some v) :
    Holds fs es (path ++ [.int i]) v
  | default {path : Path} {t : TypeSpec} {d : Value} (h : Holds fs es path .absent)
    (ht : Fields.locate fs path = some t) (hd : t.first.default? = some d)
    (hshare : t.first.sharing = []) : Holds fs es path (t.seed d)

/-- **The values that a walk meets**, each at its path: those that stand in the marked data, and
below a mark what the walk comes to in a default with shared containers, which is copied for it. -/
inductive Fields.Meets (fs : Fields) (o : Options) (es : List (Value × Value)) :
    Path → Value → Prop
  | held {path : Path} {v : Value} (h : Fields.Holds fs es path v) : Meets fs o es path v
  | shared {path path' : Path} {t : TypeSpec} {budget : Nat} {v : Value}
    (h : Fields.Holds fs es path .absent) (ht : Fields.locate fs path = some t)
    (hshare : t.first.sharing ≠ []) (hbudget : (Schema.mapping fs).depth < budget + path.length)
    (hcomes : Course.Comes ⟨.mapping fs, o⟩ budget path (.atom .absent) [] path' v) :
    Meets fs o es path' v

/-- Where no default shares a container, what is met stands in the marked data. -/
theorem Fields.Meets.holds {fs : Fields} {o : Options} {es : List (Value × Value)} {path : Path}
    {v : Value} (h : Fields.Meets fs o es path v)
    (hshare : (Schema.mapping fs).everyType TypeSpec.sharesNothing = true) :
    Fields.Holds fs es path v := by
  cases h with
  | held h => exact h
  | @shared _ _ t _ _ _ ht hne _ _ =>
    have hnothing := TypeSpec.self_of_everyType (Schema.everyType_of_locate hshare ht)
    exact absurd (TypeSpec.sharing_of_mem hnothing t.first_mem) hne

/-- **Data that brings a failure with it**: somewhere a value is met at which the check against its
type may fail so. -/
def Fields.Provokes (fs : Fields) (o : Options) (es : List (Value × Value)) (f : CheckFailure) :
    Prop :=
  ∃ path v t, Fields.Meets fs o es path v ∧ Fields.locate fs path = some t ∧
    (t.resolve v).Explains v f

namespace Course

open Walk Checked

section Members

variable {E : Interruption → Prop} {member : Path → Value → Walk (Option Value)} {path : Path}

theorem lands_walkEntries {es : List (Value × Value)}
    (h : ∀ e ∈ es, Lands E (fun _ => True) (member (path ++ [e.1]) e.2)) :
    Lands E (fun _ => True) (walkEntries member path es) := by
  induction es with
  | nil => exact lands_pure trivial
  | cons e es ih =>
    rw [List.forall_mem_cons] at h
    exact h.1.bind (fun _ _ => (ih h.2).bind (fun _ _ => lands_pure trivial))

theorem lands_walkItems {vs : List Value} {index : Nat}
    (h : ∀ (i : Nat) v, vs[i]? = some v →
      Lands E (fun _ => True) (member (path ++ [.int (index + i : Nat)]) v)) :
    Lands E (fun _ => True) (walkItems member path index vs) := by
  induction vs generalizing index with
  | nil => exact lands_pure trivial
  | cons v vs ih =>
    refine (h 0 v rfl).bind (fun _ _ => (ih (fun i w hw => ?_)).bind
      (fun _ _ => lands_pure trivial))
    rw [Nat.add_assoc, Nat.add_comm 1 i]
    exact h (i + 1) w hw

end Members

variable {fs : Fields} {o : Options} {es : List (Value × Value)} {path : Path} {v : Value}

/-- What may be the matter with a value that is met is accounted for. -/
theorem accounts_of_meets (h : Fields.Meets fs o es path v) :
    (⟨.mapping fs, o⟩ : Course).Accounts (Fields.Provokes fs o es) path v :=
  fun t _ ht hf => ⟨path, v, t, h, ht, hf⟩

/-- **The step**: what a visit leaves of a value of the data, if it has members, stands at the same
path, and if the visit ends the walk, then this is explained. -/
theorem lands_visit (hholds : Fields.Holds fs es path v)
    (hshare : v = .absent → ∀ t, Fields.locate fs path = some t → t.first.sharing = []) :
    Lands (Interruption.ExplainedBy o (Fields.Provokes fs o es))
      (fun child => ∀ w, child = some w → w.isContainer = true → Fields.Holds fs es path w)
      ((⟨.mapping fs, o⟩ : Course).visit path v) := by
  unfold visit
  cases ht : Fields.locate fs path with
  | none =>
    rw [show (Schema.mapping fs).locate path = none from ht]
    refine lands_pure (fun w hw _ => ?_)
    rw [← (unknown_eq_some.mp hw).1]
    exact hholds
  | some t =>
    rw [show (Schema.mapping fs).locate path = some t from ht]
    dsimp only
    have hdefault : ∀ d, v = .absent → t.first.default? = some d →
        Fields.Holds fs es path (t.seed d) := by
      rintro d rfl hd
      exact hholds.default ht hd (hshare rfl t ht)
    have hlocate : (⟨.mapping fs, o⟩ : Course).schema.locate path = some t := ht
    have hfails := failsFor_apply (site ⟨.mapping fs, o⟩ path) hlocate
      (accounts_of_meets (.held hholds))
      (fun d hv hd _ => accounts_of_meets (.held (hdefault d hv hd)))
    cases happly : apply (site ⟨.mapping fs, o⟩ path) t v with
    | ok child =>
      refine lands_pure (fun w hw hcontainer => ?_)
      subst hw
      cases apply_eq_ok_iff.mp happly with
      | null => cases hcontainer
      | nullDefault => cases hcontainer
      | present h => rwa [← h.eq_of_isContainer hcontainer]
      | default hd _ h =>
        rw [← h.eq_of_isContainer hcontainer]
        exact hdefault _ rfl hd
    | error f =>
      have hf := hfails f happly
      cases f with
      | dateOutOfRange => exact lands_throw (hf.resolve_left nofun)
      | search e => exact lands_throw (hf.resolve_left nofun)
      | violation w =>
        refine (lands_report (c := ⟨.mapping fs, o⟩) w).bind
          (fun _ _ => lands_pure (fun u hu _ => ?_))
        cases v <;> cases hu <;> exact hholds

/-- The members of a value of the data are values of the data. -/
theorem lands_walkMembers {E : Interruption → Prop} {member : Path → Value → Walk (Option Value)}
    (hmember : ∀ key v, Fields.Holds fs es (path ++ [key]) v →
      Lands E (fun _ => True) (member (path ++ [key]) v))
    (hholds : v.isContainer = true → Fields.Holds fs es path v) :
    Lands E (fun _ => True) (walkMembers member path v) := by
  cases v with
  | map entries =>
    exact (lands_walkEntries (fun e he => hmember _ _ ((hholds rfl).entry he))).map Value.map
  | list items =>
    refine (lands_walkItems (fun i u hu => ?_)).map Value.list
    rw [Nat.zero_add]
    exact hmember _ _ ((hholds rfl).item hu)
  | _ => exact lands_pure trivial

/-- **The run**: a walk of a value of the data ends early for reasons that are explained only. -/
theorem lands_walkAlone {budget : Nat} (hne : path ≠ [])
    (hbudget : (Schema.mapping fs).depth < budget + path.length)
    (hholds : Fields.Holds fs es path v) :
    Lands (Interruption.ExplainedBy o (Fields.Provokes fs o es)) (fun _ => True)
      ((⟨.mapping fs, o⟩ : Course).walkAlone budget path v) := by
  induction budget generalizing path v with
  | zero =>
    have hnone : ∀ more t, (Schema.mapping fs).locate (path ++ more) = some t →
        t.sharesNothing = true := by
      intro more t ht
      rw [Schema.locate_eq_none_of_depth_lt (by rw [List.length_append]; omega)] at ht
      cases ht
    rw [walkAlone_eq_walk hne hnone]
    exact lands_pure trivial
  | succ budget ih =>
    have hsucc : (v = .absent → ∀ t, Fields.locate fs path = some t → t.first.sharing = []) →
        ((⟨.mapping fs, o⟩ : Course).visitLinked path v.unshared).Mirrors
          (Option.map Value.unshared)
          ((⟨.mapping fs, o⟩ : Course).visit path v) →
        Lands (Interruption.ExplainedBy o (Fields.Provokes fs o es)) (fun _ => True)
          ((⟨.mapping fs, o⟩ : Course).walkAlone (budget + 1) path v) := by
      intro hshare hmirrors
      rw [walkAlone_of_mirrors hne hmirrors]
      refine (lands_visit hholds hshare).bind (fun child hchild => ?_)
      cases child with
      | none => exact lands_pure trivial
      | some w =>
        refine (lands_walkMembers (fun key u hu => ih (by simp) ?_ hu) (hchild w rfl)).bind
          (fun _ _ => lands_pure trivial)
        rw [List.length_append, List.length_singleton]
        omega
    by_cases hv : v = .absent
    · subst hv
      cases ht : Fields.locate fs path with
      | none =>
        rw [walkAlone_absent_of_dropped (fun t ht' => by cases ht.symm.trans ht')]
        exact lands_pure trivial
      | some t =>
        by_cases hshare : t.first.sharing = []
        · refine hsucc (fun _ t' ht' => ?_) (visitLinked_absent_mirrors hshare ht)
          cases ht.symm.trans ht'
          exact hshare
        · have hwalk := lands_walkLinked (c := ⟨.mapping fs, o⟩) (List.forall_mem_nil _)
            (.atom rfl rfl) (fun path' u hu =>
              accounts_of_meets (.shared hholds ht hshare hbudget hu))
          exact (Lands.map hwalk _).map _
    · exact hsucc (fun h => absurd h hv) (visitLinked_present_mirrors hv)

/-- **The walk of the root** ends early for reasons that are explained only. -/
theorem lands_walkShared : Lands (Interruption.ExplainedBy o (Fields.Provokes fs o es))
    (fun _ => True) ((⟨.mapping fs, o⟩ : Course).walkShared (Fields.seed fs es)) := by
  rw [walkShared_eq]
  exact lands_walkMembers (fun key v => lands_walkAlone (by simp) (Nat.lt_succ_self _))
    (fun _ => .root)

end Course

end Conform
