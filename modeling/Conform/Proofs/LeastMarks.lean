import Conform.Proofs.Encounters
import Conform.Proofs.MoreMarks

/-!
# Marking puts in what has to be there

Where a default shares containers, marking comes by one and the same map several times and puts into
it the keys of one field after the other, so the order in which the fields stand decides in which
order the marks are put in. It does not decide which. Marking leads to a value above the one that it
starts from, in which every map that the type leads to has the keys that are declared for it
(`TypeSpec.Marked`), and which is below every other such value (`TypeSpec.seedLinked_marks`).

Which keys are declared for which maps is the same for two types that differ in the order of fields
(`TypeSpec.Reordered.marked_iff`). So each of them marks no more than the other
(`TypeSpec.Marks.below`).
-/

namespace Conform

/-! ## What has to be marked -/

/-- **The maps that a type leads to** in a linked value, each with the mapping that it is marked
by. An address leads on to what its cell holds. -/
inductive TypeSpec.Reaches (cells : Cells) :
    TypeSpec → Linked → Fields → List (Value × Linked) → Prop
  | here {t : TypeSpec} {fs : Fields} {es : List (Value × Linked)} (h : t.seedFields? = some fs) :
    Reaches cells t (.map es) fs es
  | entry {t u : TypeSpec} {gs fs : Fields} {name : String} {l : Linked}
    {es es' : List (Value × Linked)} (hgs : t.seedFields? = some gs) (hu : (name, u) ∈ gs)
    (hl : (.text name, l) ∈ es) (h : Reaches cells u (l.opened cells).1 fs es') :
    Reaches cells t (.map es) fs es'
  | item {t u : TypeSpec} {fs : Fields} {l : Linked} {ls : List Linked}
    {es' : List (Value × Linked)} (hu : t.seedItems? = some u) (hl : l ∈ ls)
    (h : Reaches cells u (l.opened cells).1 fs es') : Reaches cells t (.list ls) fs es'

/-- **Whether a linked value is marked**: every map that a type leads to has the declared keys. -/
def TypeSpec.Marked (t : TypeSpec) (l : Linked) (cells : Cells) : Prop :=
  ∀ fs es, t.Reaches cells l fs es → ∀ f ∈ fs, ∃ m, (.text f.1, m) ∈ es

/-- **Whether the entries of a map are marked** by a mapping. -/
def Fields.Marked (fs : Fields) (es : List (Value × Linked)) (cells : Cells) : Prop :=
  ∀ f ∈ fs, ∃ m, (.text f.1, m) ∈ es ∧ f.2.Marked (m.opened cells).1 cells

namespace TypeSpec

variable {t u : TypeSpec} {fs : Fields} {es : List (Value × Linked)} {ls : List Linked}
  {cells cells' : Cells} {l m : Linked}

theorem marked_map_iff (hes : Linked.Keyed es) : t.Marked (.map es) cells ↔
    ∀ fs, t.seedFields? = some fs → Fields.Marked fs es cells := by
  constructor
  · intro h fs hfs f hf
    obtain ⟨m, hm⟩ := h fs es (.here hfs) f hf
    exact ⟨m, hm, fun gs es' hreach => h gs es' (.entry hfs hf hm hreach)⟩
  · intro h fs es' hreach
    cases hreach with
    | here hfs =>
      intro f hf
      obtain ⟨m, hm, -⟩ := h fs hfs f hf
      exact ⟨m, hm⟩
    | entry hgs hu hl hreach =>
      obtain ⟨m, hm, hmarked⟩ := h _ hgs _ hu
      cases hes.unique hl hm
      exact hmarked fs es' hreach

theorem marked_list_iff : t.Marked (.list ls) cells ↔
    ∀ u, t.seedItems? = some u → ∀ l ∈ ls, u.Marked (l.opened cells).1 cells := by
  constructor
  · exact fun h u hu l hl fs es hreach => h fs es (.item hu hl hreach)
  · intro h fs es hreach
    cases hreach with
    | item hu hl hreach => exact h _ hu _ hl fs es hreach

end TypeSpec

/-- What is below stands for what is below. -/
theorem Linked.Below.opened {cells cells' : Cells} {l m : Linked} (h : l.Below m)
    (hcells : cells.Below cells') : (l.opened cells).1.Below (m.opened cells').1 := by
  cases h with
  | cell a =>
    show (cells.content a).Below (cells'.content a)
    unfold Cells.content
    rw [List.getD_eq_getElem?_getD, List.getD_eq_getElem?_getD]
    exact rel_getD (rel_getElem? hcells a) (.atom .null)
  | atom v => exact .atom v
  | list h => exact .list h
  | map hes hfs hmarks hown => exact .map hes hfs hmarks hown

namespace TypeSpec

variable {t t' : TypeSpec} {fs gs : Fields} {es : List (Value × Linked)} {cells cells' : Cells}
  {l m : Linked}

/-- **A map that is led to** above is above one that is led to below: no mark leads to a map. -/
theorem Reaches.exists_below (h : t.Reaches cells' m fs es) (hcells : cells.Below cells')
    (hlm : l.Below m) :
    ∃ es', t.Reaches cells l fs es' ∧ (Linked.map es').Below (.map es) := by
  induction h generalizing l with
  | here hfs =>
    cases l with
    | map es' => exact ⟨es', .here hfs, hlm⟩
    | _ => cases hlm
  | @entry _ _ _ _ name m _ _ hgs hu hm hreach ih =>
    cases l with
    | map es' =>
      have hne : Linked.isMark (.text name, m) = false := by
        by_contra hmark
        rw [Bool.not_eq_false, Linked.isMark_text] at hmark
        subst hmark
        cases hreach
      obtain ⟨l, hl, hlm⟩ := hlm.exists_below hm hne
      obtain ⟨es'', hreach', hes⟩ := ih (hlm.opened hcells)
      exact ⟨es'', .entry hgs hu hl hreach', hes⟩
    | _ => cases hlm
  | item hu hm hreach ih =>
    cases hlm with
    | list h =>
      obtain ⟨l, hl, hlm⟩ := exists_of_forall₂_right h hm
      obtain ⟨es', hreach', hes⟩ := ih (hlm.opened hcells)
      exact ⟨es', .item hu hl hreach', hes⟩

/-- **What is marked stays marked** when there are more marks. -/
theorem Marked.mono (h : t.Marked l cells) (hlm : l.Below m) (hcells : cells.Below cells') :
    t.Marked m cells' := by
  intro fs es hreach f hf
  obtain ⟨es', hreach', hes⟩ := hreach.exists_below hcells hlm
  obtain ⟨x, hx⟩ := h fs es' hreach' f hf
  obtain ⟨y, hy, -⟩ := hes.exists_above hx
  exact ⟨y, hy⟩

/-- Types that have the same kind of fields and items lead to the same maps. -/
theorem Reaches.transport {S : TypeSpec → TypeSpec → Prop} {T : Fields → Fields → Prop}
    (hfields : ∀ t t', S t t' → Option.Rel T t.seedFields? t'.seedFields?)
    (hitems : ∀ t t', S t t' → Option.Rel S t.seedItems? t'.seedItems?)
    (hmem : ∀ fs gs, T fs gs → ∀ name t, (name, t) ∈ fs → ∃ t', (name, t') ∈ gs ∧ S t t')
    (h : t.Reaches cells l fs es) (ht : S t t') : ∃ gs, T fs gs ∧ t'.Reaches cells l gs es := by
  induction h generalizing t' with
  | here hfs =>
    have hrel := hfields _ _ ht
    rw [hfs] at hrel
    generalize hgs : t'.seedFields? = found at hrel
    cases hrel with
    | some hrel => exact ⟨_, hrel, .here hgs⟩
  | entry hfs hu hl _ ih =>
    have hrel := hfields _ _ ht
    rw [hfs] at hrel
    generalize hgs : t'.seedFields? = found at hrel
    cases hrel with
    | some hrel =>
      obtain ⟨u', hu', huu'⟩ := hmem _ _ hrel _ _ hu
      obtain ⟨gs, hT, hreach⟩ := ih huu'
      exact ⟨gs, hT, .entry hgs hu' hl hreach⟩
  | item hu hl _ ih =>
    have hrel := hitems _ _ ht
    rw [hu] at hrel
    generalize hu' : t'.seedItems? = found at hrel
    cases hrel with
    | some hrel =>
      obtain ⟨gs, hT, hreach⟩ := ih hrel
      exact ⟨gs, hT, .item hu' hl hreach⟩

end TypeSpec

theorem Fields.Reordered.exists_right {fs gs : Fields} (h : Fields.Reordered fs gs) {name : String}
    {t : TypeSpec} (ht : (name, t) ∈ fs) : ∃ t', (name, t') ∈ gs ∧ t.Reordered t' := by
  cases h with
  | fields h hperm =>
    obtain ⟨f, hf, hrel⟩ := exists_of_forall₂_left h ht
    cases hrel with
    | type _ h => exact ⟨_, hperm.mem_iff.mp hf, h⟩

theorem Fields.Reordered.exists_left {fs gs : Fields} (h : Fields.Reordered fs gs) {name : String}
    {t' : TypeSpec} (ht : (name, t') ∈ gs) : ∃ t, (name, t) ∈ fs ∧ t.Reordered t' := by
  cases h with
  | fields h hperm =>
    obtain ⟨f, hf, hrel⟩ := exists_of_forall₂_right h (hperm.mem_iff.mpr ht)
    cases hrel with
    | type _ h => exact ⟨_, hf, h⟩

/-- **What has to be marked** does not depend on the order of fields. -/
theorem TypeSpec.Reordered.marked_iff {t t' : TypeSpec} (h : t.Reordered t') (l : Linked)
    (cells : Cells) : t.Marked l cells ↔ t'.Marked l cells := by
  constructor
  · intro hmarked gs es hreach g hg
    obtain ⟨fs, hfs, hreach'⟩ := hreach.transport (S := flip TypeSpec.Reordered)
      (T := flip Fields.Reordered) (fun _ _ h => rel_flip h.seedFields?)
      (fun _ _ h => rel_flip h.seedItems?) (fun _ _ h _ _ ht => h.exists_left ht) h
    obtain ⟨t, ht, -⟩ := Fields.Reordered.exists_left hfs hg
    exact hmarked fs es hreach' (g.1, t) ht
  · intro hmarked fs es hreach f hf
    obtain ⟨gs, hgs, hreach'⟩ := hreach.transport (fun _ _ h => h.seedFields?)
      (fun _ _ h => h.seedItems?) (fun _ _ h _ _ ht => h.exists_right ht) h
    obtain ⟨t, ht, -⟩ := hgs.exists_right hf
    exact hmarked gs es hreach' (f.1, t) ht

/-! ## The least marked value -/

/-- **What is least above a start**: it is above the start, has a property, and is below all that is
above the start and has the property. The cells before some address are as they have been. -/
structure Cells.Least {α : Type} (R : α → α → Prop) (P : α → Cells → Prop) (b : Nat) (a : α)
    (cells : Cells) (out : α × Cells) : Prop where
  above : R a out.1
  cellsAbove : cells.Below out.2
  has : P out.1 out.2
  least : ∀ a' cells', R a a' → cells.Below cells' → P a' cells' →
    R out.1 a' ∧ out.2.Below cells'
  frame : ∀ i < b, out.2[i]? = cells[i]?

namespace Cells.Least

variable {α : Type} {R : α → α → Prop} {P P' : α → Cells → Prop} {b : Nat} {a : α} {cells : Cells}

/-- What has the property is the least itself. -/
theorem refl (ha : R a a) (hcells : cells.Layered) (h : P a cells) :
    Least R P b a cells (a, cells) :=
  ⟨ha, hcells.refl, h, fun _ _ ha' hcells' _ => ⟨ha', hcells'⟩, fun _ _ => rfl⟩

/-- Another property that says the same above the start. -/
theorem congr {out : α × Cells} (h : Least R P b a cells out)
    (hP : ∀ a' cells', R a a' → cells.Below cells' → (P a' cells' ↔ P' a' cells')) :
    Least R P' b a cells out where
  above := h.above
  cellsAbove := h.cellsAbove
  has := (hP _ _ h.above h.cellsAbove).mp h.has
  least a' cells' ha' hcells' h' := h.least a' cells' ha' hcells' ((hP _ _ ha' hcells').mpr h')
  frame := h.frame

end Cells.Least

namespace TypeSpec

variable {t : TypeSpec} {cells : Cells}

theorem marked_atom (t : TypeSpec) (v : Value) (cells : Cells) : t.Marked (.atom v) cells := by
  rintro _ _ ⟨⟩

theorem marked_cell (t : TypeSpec) (a : Nat) (cells : Cells) : t.Marked (.cell a) cells := by
  rintro _ _ ⟨⟩

theorem marked_map_of_none (h : t.seedFields? = none) (es : List (Value × Linked)) (cells : Cells) :
    t.Marked (.map es) cells := by
  intro fs es' hreach
  cases hreach with
  | here hfs => cases h.symm.trans hfs
  | entry hgs _ _ _ => cases h.symm.trans hgs

theorem marked_list_of_none (h : t.seedItems? = none) (ls : List Linked) (cells : Cells) :
    t.Marked (.list ls) cells := by
  intro fs es' hreach
  cases hreach with
  | item hu _ _ => cases h.symm.trans hu

end TypeSpec

/-- **What marking by a type does** to a linked value: it leads to the least that is marked. -/
def TypeSpec.Marks (t : TypeSpec) (x : Linked → StateM Cells Linked) : Prop :=
  ∀ (b : Nat) (l : Linked) (cells : Cells), l.Fits b cells.length → cells.Layered →
    Cells.Least Linked.Below (fun l cells => t.Marked (l.opened cells).1 cells) b l cells
      ((x l).run cells)

/-- **What a cell holds is changed where it is kept.** The cell comes before all that are in it, so
it holds the container still when that has been dealt with. -/
theorem Cells.Least.cell {t : TypeSpec} {cells : Cells} {a b : Nat} {out : Linked × Cells}
    (hcells : cells.Layered) (ha : a < cells.length) (hba : b ≤ a)
    (h : Least Linked.Below (fun m cells => t.Marked m cells) (a + 1) (cells.content a) cells out) :
    Least Linked.Below (fun l cells => t.Marked (l.opened cells).1 cells) b (.cell a) cells
      (.cell a, out.2.set a out.1) := by
  have hget : cells[a]? = some (cells.content a) := by
    rw [content, List.getD_eq_getElem?_getD, List.getElem?_eq_getElem ha]
    rfl
  have hkept : out.2[a]? = some (cells.content a) := (h.frame a (Nat.lt_succ_self a)).trans hget
  have hset : out.2.Below (out.2.set a out.1) :=
    (h.cellsAbove.layered hcells).refl.set (fun l hl => by
      cases hkept.symm.trans hl
      exact h.above)
  have hcontent : content (out.2.set a out.1) a = out.1 := by
    rw [Linked.content_set (by rwa [← h.cellsAbove.length_eq]), if_pos rfl]
  refine ⟨.cell a, h.cellsAbove.trans hset, ?_, fun l' cells' hl' hcells' hmarked => ?_,
    fun i hi => ?_⟩
  · show t.Marked (content (out.2.set a out.1) a) _
    rw [hcontent]
    exact h.has.mono (h.above.fits (hcells a _ hget)).refl hset
  · cases hl'
    have hopened : (cells.content a).Below (cells'.content a) :=
      (Linked.Below.cell a).opened hcells'
    obtain ⟨hm, hrest⟩ := h.least _ cells' hopened hcells' hmarked
    refine ⟨.cell a, hrest.set_left (fun d hd => ?_)⟩
    rw [content, List.getD_eq_getElem?_getD, hd] at hm
    exact hm
  · rw [List.getElem?_set_ne (by omega : a ≠ i)]
    exact h.frame i (by omega)

/-- **Changing a container where it is kept** leads to the least, if changing it does. -/
theorem TypeSpec.marks_update {t : TypeSpec} {change : Linked → StateM Cells Linked}
    (h : ∀ (b : Nat) (m : Linked) (cells : Cells), m.Fits b cells.length → cells.Layered →
      Cells.Least Linked.Below (fun m cells => t.Marked m cells) b m cells ((change m).run cells)) :
    t.Marks (fun l => l.update change) := by
  intro b l cells hl hcells
  have hdirect : (∀ m, l.Below m → ∀ cells, (m.opened cells).1 = m) →
      Cells.Least Linked.Below (fun l cells => t.Marked (l.opened cells).1 cells) b l cells
        ((change l).run cells) := fun hopened =>
    (h b l cells hl hcells).congr (fun m cells' hm _ => by rw [hopened m hm cells'])
  cases l with
  | cell a =>
    cases hl with
    | cell hb hn =>
      have hget : cells[a]? = some (cells.content a) := by
        rw [Cells.content, List.getD_eq_getElem?_getD, List.getElem?_eq_getElem hn]
        rfl
      rw [Linked.run_update_cell, hget, Option.elim_some]
      exact (h (a + 1) _ cells (hcells a _ hget) hcells).cell hcells hn hb
  | atom v => exact hdirect (fun m hm cells => by cases hm; rfl)
  | list ls => exact hdirect (fun m hm cells => by cases hm; rfl)
  | map es => exact hdirect (fun m hm cells => by cases hm; rfl)
  | tuple ls => cases hl
  | copy top inner => cases hl

/-! ## Marking is the least -/

section Entries

variable {es fs : List (Value × Linked)} {name : String} {m : Linked} {b n : Nat}

/-- The value of a field that is missing is a mark. -/
theorem Linked.Below.entry (h : (Linked.map es).Below (.map fs)) (hm : (.text name, m) ∈ fs) :
    ((Value.entry? es (.text name)).getD (.atom .absent)).Below m := by
  by_cases hold : ∃ l, (.text name, l) ∈ es
  · obtain ⟨l, hl⟩ := hold
    obtain ⟨m', hm', hlm⟩ := h.exists_above hl
    cases h with
    | map hes hfs _ _ =>
      cases hfs.unique hm hm'
      rw [hes.entry?_eq hl]
      exact hlm
  · have hnew : ∀ l, (.text name, l) ∉ es := fun l hl => hold ⟨l, hl⟩
    rw [Linked.entry?_eq_none hnew, Option.getD_none]
    cases hmark : Linked.isMark (.text name, m) with
    | true =>
      rw [Linked.isMark_text.mp hmark]
      exact .atom .absent
    | false =>
      obtain ⟨l, hl, -⟩ := h.exists_below hm hmark
      exact absurd hl (hnew l)

theorem Linked.Fits.entry (h : (Linked.map es).Fits b n) (key : Value) :
    ((Value.entry? es key).getD (.atom .absent)).Fits b n := by
  cases hget : Value.entry? es key with
  | none => exact .atom rfl
  | some l =>
    obtain ⟨k, hk⟩ := Value.mem_of_entry? hget
    cases h with
    | map _ h => exact h _ hk

end Entries

namespace Cells.Least

variable {t : TypeSpec} {b : Nat} {cells : Cells}

/-- A map is marked when its entries are. -/
theorem map {fs : Fields} {es : List (Value × Linked)} {out : List (Value × Linked) × Cells}
    (h : Least (fun es gs => (Linked.map es).Below (.map gs))
      (fun es cells => Fields.Marked fs es cells) b es cells out) (hfs : t.seedFields? = some fs) :
    Least Linked.Below t.Marked b (.map es) cells (.map out.1, out.2) where
  above := h.above
  cellsAbove := h.cellsAbove
  has := by
    have habove := h.above
    cases habove with
    | map _ hkeyed _ _ =>
      refine (TypeSpec.marked_map_iff hkeyed).mpr (fun gs hgs => ?_)
      cases hfs.symm.trans hgs
      exact h.has
  least a' cells' ha' hcells' hmarked := by
    cases a' with
    | map gs =>
      refine h.least gs cells' ha' hcells' ?_
      cases ha' with
      | map _ hkeyed _ _ => exact (TypeSpec.marked_map_iff hkeyed).mp hmarked fs hfs
    | _ => cases ha'
  frame := h.frame

/-- A list is marked when its items are. -/
theorem list {u : TypeSpec} {ls : List Linked} {out : List Linked × Cells}
    (h : Least (List.Forall₂ Linked.Below)
      (fun ls cells => ∀ l ∈ ls, u.Marked (l.opened cells).1 cells) b ls cells out)
    (hu : t.seedItems? = some u) :
    Least Linked.Below t.Marked b (.list ls) cells (.list out.1, out.2) where
  above := .list h.above
  cellsAbove := h.cellsAbove
  has := by
    refine TypeSpec.marked_list_iff.mpr (fun u' hu' => ?_)
    cases hu.symm.trans hu'
    exact h.has
  least a' cells' ha' hcells' hmarked := by
    cases ha' with
    | list hms =>
      obtain ⟨hls, hcells''⟩ :=
        h.least _ cells' hms hcells' (TypeSpec.marked_list_iff.mp hmarked u hu)
      exact ⟨.list hls, hcells''⟩
  frame := h.frame

end Cells.Least

/-- **Items marked one by one.** -/
theorem TypeSpec.Marks.mapM {t : TypeSpec} {x : Linked → StateM Cells Linked} (h : t.Marks x)
    {b : Nat} {ls : List Linked} {cells : Cells} (hls : ∀ l ∈ ls, l.Fits b cells.length)
    (hcells : cells.Layered) : Cells.Least (List.Forall₂ Linked.Below)
      (fun ls cells => ∀ l ∈ ls, t.Marked (l.opened cells).1 cells) b ls cells
      ((ls.mapM x).run cells) := by
  induction ls generalizing cells with
  | nil => exact .refl .nil hcells (List.forall_mem_nil _)
  | cons l ls ih =>
    rw [List.forall_mem_cons] at hls
    have hfirst := h b l cells hls.1 hcells
    rw [List.mapM_cons]
    show Cells.Least _ _ b (l :: ls) cells
      (((x l).run cells).1 :: ((ls.mapM x).run ((x l).run cells).2).1,
        ((ls.mapM x).run ((x l).run cells).2).2)
    generalize (x l).run cells = out at hfirst
    have hrest := ih (fun l hl => by rw [← hfirst.cellsAbove.length_eq]; exact hls.2 l hl)
      (hfirst.cellsAbove.layered hcells)
    generalize (ls.mapM x).run out.2 = out' at hrest
    have hkept := (hfirst.above.fits hls.1).refl
    refine ⟨.cons hfirst.above hrest.above, hfirst.cellsAbove.trans hrest.cellsAbove, ?_, ?_, ?_⟩
    · exact List.forall_mem_cons.mpr
        ⟨hfirst.has.mono (hkept.opened hrest.cellsAbove) hrest.cellsAbove, hrest.has⟩
    · intro ms cells' hms hcells' hmarked
      cases hms with
      | cons hlm hms =>
        rw [List.forall_mem_cons] at hmarked
        obtain ⟨hl, hcells'⟩ := hfirst.least _ cells' hlm hcells' hmarked.1
        obtain ⟨hls, hcells'⟩ := hrest.least _ cells' hms hcells' hmarked.2
        exact ⟨.cons hl hls, hcells'⟩
    · exact fun i hi => (hrest.frame i hi).trans (hfirst.frame i hi)

namespace TypeSpec

theorem seedFields?_single (n : Node) : (single n).seedFields? = n.seedFields? := by
  rcases n with _ | _ | _ | _ | ⟨p, _ | _⟩ | _ <;> rfl

theorem seedItems?_single (n : Node) : (single n).seedItems? = n.seedItems? := by
  rcases n with _ | _ | _ | _ | ⟨p, _ | _⟩ | _ <;> rfl

/-- What has nothing to mark is marked. -/
theorem marks_pure {t : TypeSpec} (h : t.seedFields? = none) (h' : t.seedItems? = none) :
    t.Marks Pure.pure := by
  intro b l cells hl hcells
  refine .refl hl.refl hcells ?_
  cases (l.opened cells).1 with
  | map es => exact marked_map_of_none h es cells
  | list ls => exact marked_list_of_none h' ls cells
  | _ => rintro _ _ ⟨⟩

theorem seedLinkedAmong_eq (ns : List Node) (v : Value) (l : Linked) : seedLinkedAmong ns v l =
    ((ns.find? (fun n => n.matches v)).map (fun n => n.seedLinked l)).getD (pure l) := by
  induction ns with
  | nil => rfl
  | cons n ns ih =>
    rw [seedLinkedAmong, List.find?_cons, ih]
    cases n.matches v <;> rfl

/-- A linked value is marked by the one candidate that its value fits, if there is just one. -/
theorem run_seedLinked_union (n m : Node) (ns : List Node) (l : Linked) (cells : Cells) :
    ((union n m ns).seedLinked l).run cells =
      match (union n m ns).fitting (l.value cells) with
      | [k] => (k.seedLinked l).run cells
      | _ => (l, cells) := by
  have hseed : ((union n m ns).seedLinked l).run cells =
      if ((union n m ns).fitting (l.value cells)).length = 1 then
        (seedLinkedAmong (union n m ns).candidates (l.value cells) l).run cells
      else (l, cells) := by
    rw [seedLinked]
    show (if _ then _ else _ : StateM Cells Linked).run cells = _
    split
    next h => exact (if_pos h).symm
    next h => exact (if_neg h).symm
  rw [hseed, seedLinkedAmong_eq, ← List.head?_filter, ← fitting]
  generalize (union n m ns).fitting (l.value cells) = fitting
  rcases fitting with _ | ⟨k, _ | ⟨l, ks⟩⟩
  · rfl
  · rfl
  · rw [if_neg (by simp)]

/-- What a linked value is read as is what stands where it leads to. -/
theorem exists_value_eq {b : Nat} {l : Linked} {cells : Cells} (hl : l.Fits b cells.length) :
    ∃ inCell, l.value cells = (l.opened cells).1.valueWith inCell := by
  cases hl with
  | cell _ hn =>
    obtain ⟨depth, hdepth⟩ : ∃ depth, cells.length = depth + 1 := ⟨cells.length - 1, by omega⟩
    refine ⟨Linked.cellValue cells depth, ?_⟩
    rw [Linked.value, Linked.valueWith, hdepth, Linked.cellValue_succ]
    rfl
  | _ => exact ⟨_, rfl⟩

/-- **Maps are marked by the one candidate that they fit**, wherever they stand. -/
theorem seedFields?_of_opened {t : TypeSpec} {b : Nat} {l : Linked} {cells : Cells}
    {es : List (Value × Linked)} (hl : l.Fits b cells.length) (hes : (l.opened cells).1 = .map es) :
    t.seedFields? = match t.fitting (l.value cells) with
      | [k] => k.seedFields?
      | _ => none := by
  obtain ⟨inCell, hvalue⟩ := exists_value_eq hl
  unfold fitting
  rw [hvalue, hes, Linked.valueWith]
  simp only [Node.matches_map]
  rfl

/-- So are the items of a list. -/
theorem seedItems?_of_opened {t : TypeSpec} {b : Nat} {l : Linked} {cells : Cells}
    {ls : List Linked} (hl : l.Fits b cells.length) (hls : (l.opened cells).1 = .list ls) :
    t.seedItems? = match t.fitting (l.value cells) with
      | [k] => k.seedItems?
      | _ => none := by
  obtain ⟨inCell, hvalue⟩ := exists_value_eq hl
  unfold fitting
  rw [hvalue, hls, Linked.valueWith]
  simp only [Node.matches_list]
  rfl

/-- **A type marks as the one candidate does** that the value fits. -/
theorem marks_union {n m : Node} {ns : List Node}
    (h : ∀ k ∈ (union n m ns).candidates, (single k).Marks k.seedLinked) :
    (union n m ns).Marks (union n m ns).seedLinked := by
  intro b l cells hl hcells
  have hfields := fun es (hes : (l.opened cells).1 = .map es) =>
    (union n m ns).seedFields?_of_opened hl hes
  have hitems := fun ls (hls : (l.opened cells).1 = .list ls) =>
    (union n m ns).seedItems?_of_opened hl hls
  have hmem : ∀ k ∈ (union n m ns).fitting (l.value cells), k ∈ (union n m ns).candidates :=
    fun k hk => (List.mem_filter.mp hk).1
  rw [run_seedLinked_union]
  generalize (union n m ns).fitting (l.value cells) = fitting at hfields hitems hmem
  rcases fitting with _ | ⟨k, _ | ⟨k', ks⟩⟩
  case cons.nil =>
    refine (h k (hmem k List.mem_cons_self) b l cells hl hcells).congr
      (fun l' cells' hl' hcells' => ?_)
    have hopened := hl'.opened hcells'
    generalize (l.opened cells).1 = body at hfields hitems hopened
    generalize (l'.opened cells').1 = body' at hopened
    cases hopened with
    | map _ hkeyed _ _ =>
      rw [marked_map_iff hkeyed, marked_map_iff hkeyed, hfields _ rfl, seedFields?_single]
    | list _ => rw [marked_list_iff, marked_list_iff, hitems _ rfl, seedItems?_single]
    | atom v => exact iff_of_true (marked_atom _ _ _) (marked_atom _ _ _)
    | cell a => exact iff_of_true (marked_cell _ _ _) (marked_cell _ _ _)
  all_goals
    refine .refl hl.refl hcells ?_
    generalize (l.opened cells).1 = body at hfields hitems
    cases body with
    | map es => exact marked_map_of_none (hfields es rfl) es cells
    | list ls => exact marked_list_of_none (hitems ls rfl) ls cells
    | _ => rintro _ _ ⟨⟩

end TypeSpec

section Marking

open TypeSpec

/-- A node that is no object of a mapping and no array marks nothing. -/
theorem Node.marks_of_none {n : Node} (h : n.seedFields? = none) (h' : n.seedItems? = none) :
    (single n).Marks Pure.pure :=
  marks_pure ((seedFields?_single n).trans h) ((seedItems?_single n).trans h')

mutual

theorem Fields.seedLinked_least : ∀ (fs : List (String × TypeSpec)) {b : Nat}
    {es : List (Value × Linked)} {cells : Cells}, (Linked.map es).Fits b cells.length →
    cells.Layered → Cells.Least (fun es gs => (Linked.map es).Below (.map gs))
      (fun es cells => Fields.Marked fs es cells) b es cells ((Fields.seedLinked fs es).run cells)
  | [], b, es, cells, hes, hcells => .refl hes.refl hcells (List.forall_mem_nil _)
  | (name, t) :: fs, b, es, cells, hes, hcells => by
    have hfirst := TypeSpec.seedLinked_marks t b _ cells (hes.entry (.text name)) hcells
    show Cells.Least _ _ b es cells ((Fields.seedLinked fs (Value.setEntry es (.text name)
      ((t.seedLinked _).run cells).1)).run ((t.seedLinked _).run cells).2)
    generalize (t.seedLinked ((Value.entry? es (.text name)).getD (.atom .absent))).run cells = out
      at hfirst
    have hset := hes.below_setEntry rfl hfirst.above
    have hrest := Fields.seedLinked_least fs (hset.fits (hfirst.cellsAbove.length_eq ▸ hes))
      (hfirst.cellsAbove.layered hcells)
    generalize (Fields.seedLinked fs (Value.setEntry es (.text name) out.1)).run out.2 = out'
      at hrest
    refine ⟨hset.trans hrest.above, hfirst.cellsAbove.trans hrest.cellsAbove, ?_, ?_, ?_⟩
    · refine List.forall_mem_cons.mpr ⟨?_, hrest.has⟩
      obtain ⟨m, hm, hlm⟩ := hrest.above.exists_above (Linked.mem_setEntry_self es name out.1)
      exact ⟨m, hm, hfirst.has.mono (hlm.opened hrest.cellsAbove) hrest.cellsAbove⟩
    · intro gs cells' hgs hcells' hmarked
      obtain ⟨⟨m, hm, hfield⟩, hmarked⟩ := List.forall_mem_cons.mp hmarked
      obtain ⟨hl, hcells'⟩ := hfirst.least m cells' (hgs.entry hm) hcells' hfield
      exact hrest.least gs cells' (.setEntry rfl hfirst.above hgs hm hl) hcells' hmarked
    · exact fun i hi => (hrest.frame i hi).trans (hfirst.frame i hi)

/-- **Marking leads to the least** that is marked, by whatever type. -/
theorem TypeSpec.seedLinked_marks : ∀ t : TypeSpec, t.Marks t.seedLinked
  | .single n => Node.seedLinked_marks n
  | .union n m ns => marks_union (List.forall_mem_cons.mpr ⟨Node.seedLinked_marks n,
      List.forall_mem_cons.mpr ⟨Node.seedLinked_marks m, Node.seedLinked_marks_of_mem ns⟩⟩)

theorem Node.seedLinked_marks_of_mem : ∀ ns : List Node, ∀ k ∈ ns, (single k).Marks k.seedLinked
  | [] => List.forall_mem_nil _
  | n :: ns => List.forall_mem_cons.mpr
      ⟨Node.seedLinked_marks n, Node.seedLinked_marks_of_mem ns⟩

theorem Node.seedLinked_marks : ∀ n : Node, (single n).Marks n.seedLinked
  | .object p (.mapping fs) => by
    refine marks_update (fun b m cells hm hcells => ?_)
    cases hm with
    | @map es hes h =>
      exact (Fields.seedLinked_least fs (.map hes h) hcells).map rfl
    | list h => exact .refl (Linked.Fits.list h).refl hcells (marked_list_of_none rfl _ _)
    | atom => exact .refl (.atom _) hcells (marked_atom _ _ _)
    | cell hb hn => exact .refl (.cell _) hcells (marked_cell _ _ _)
  | .array p t count => by
    refine marks_update (fun b m cells hm hcells => ?_)
    cases hm with
    | @list ls h =>
      exact ((TypeSpec.seedLinked_marks t).mapM h hcells).list rfl
    | map hes h => exact .refl (Linked.Fits.map hes h).refl hcells (marked_map_of_none rfl _ _)
    | atom => exact .refl (.atom _) hcells (marked_atom _ _ _)
    | cell hb hn => exact .refl (.cell _) hcells (marked_cell _ _ _)
  | .object _ (.union ..) | .string .. | .number .. | .boolean .. | .date .. =>
    Node.marks_of_none rfl rfl

end

end Marking

/-- **What two types mark is the same**, but for the order of the marks, if the same has to be
marked. -/
theorem TypeSpec.Marks.below {t t' : TypeSpec} {x x' : Linked → StateM Cells Linked} (h : t.Marks x)
    (h' : t'.Marks x') (hmarked : ∀ l cells, t'.Marked l cells → t.Marked l cells) {b : Nat}
    {l : Linked} {cells : Cells} (hl : l.Fits b cells.length) (hcells : cells.Layered) :
    ((x l).run cells).1.Below ((x' l).run cells).1 ∧
      Cells.Below ((x l).run cells).2 ((x' l).run cells).2 :=
  let hleast' := h' b l cells hl hcells
  (h b l cells hl hcells).least _ _ hleast'.above hleast'.cellsAbove (hmarked _ _ hleast'.has)

end Conform
