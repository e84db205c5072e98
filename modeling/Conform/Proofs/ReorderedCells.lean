import Conform.Proofs.Aside
import Conform.Proofs.LeastMarks

/-!
# Linked values in another order

Two linked values may differ in the order of keys, but not in any order: what stands in cells is
changed by each who comes by, so the entries that refer to cells keep their order among each other,
and only entries that refer to none may change places (`Linked.Loose`). What differs so is read as
values that differ in the order of keys (`Linked.Reordered.value`), and so differ the copies of a
default that types mark which differ in the order of fields (`TypeSpec.Reordered.copied`).
-/

namespace Conform

/-! ## Entries in another order -/

namespace Linked

/-- **Entries in another order**: of two entries that have changed places, one refers to no cells,
so that it does not matter what becomes of cells before or after. -/
inductive Loose : List (Value × Linked) → List (Value × Linked) → Prop
  | refl (es : List (Value × Linked)) : Loose es es
  | cons (e : Value × Linked) {es fs : List (Value × Linked)} (h : Loose es fs) :
    Loose (e :: es) (e :: fs)
  | swap {e : Value × Linked} (he : e.2.Closed) (f : Value × Linked) (es : List (Value × Linked)) :
    Loose (e :: f :: es) (f :: e :: es)
  | symm {es fs : List (Value × Linked)} (h : Loose es fs) : Loose fs es
  | trans {es fs gs : List (Value × Linked)} (h : Loose es fs) (h' : Loose fs gs) : Loose es gs

namespace Loose

variable {es fs : List (Value × Linked)}

theorem perm (h : Loose es fs) : es.Perm fs := by
  induction h with
  | refl es => exact .refl es
  | cons e _ ih => exact ih.cons e
  | swap _ f es => exact .swap f _ es
  | symm _ ih => exact ih.symm
  | trans _ _ ih ih' => exact ih.trans ih'

theorem append_left (ds : List (Value × Linked)) (h : Loose es fs) :
    Loose (ds ++ es) (ds ++ fs) := by
  induction ds with
  | nil => exact h
  | cons d ds ih => exact ih.cons d

/-- An entry that refers to no cells may stand anywhere. -/
theorem middle {e : Value × Linked} (he : e.2.Closed) (es fs : List (Value × Linked)) :
    Loose (e :: (es ++ fs)) (es ++ e :: fs) := by
  induction es with
  | nil => exact .refl _
  | cons d es ih => exact (Loose.swap he d _).trans (ih.cons d)

/-- Entries that refer to no cells may stand in any order. -/
theorem of_perm (h : es.Perm fs) (hes : ∀ e ∈ es, e.2.Closed) : Loose es fs := by
  induction h with
  | nil => exact .refl _
  | cons e _ ih => exact (ih (List.forall_mem_cons.mp hes).2).cons e
  | swap e f es => exact .swap (List.forall_mem_cons.mp hes).1 _ _
  | trans h _ ih ih' => exact (ih hes).trans (ih' (fun e he => hes e (h.mem_iff.mpr he)))

/-- **Marks may stand after the other entries.** -/
theorem own_append (es : List (Value × Linked)) : Loose es (own es ++ es.filter isMark) := by
  induction es with
  | nil => exact .refl _
  | cons e es ih =>
    rw [own, List.filter_cons, List.filter_cons]
    cases hmark : isMark e with
    | false => exact ih.cons e
    | true =>
      obtain ⟨name, rfl⟩ := isMark_iff.mp hmark
      exact (ih.cons _).trans (.middle (.atom _) _ _)

end Loose

end Linked

/-! ## Linked values in another order -/

mutual
/-- **Linked values that differ only in the order of keys**, at any depth, and in which no text key
stands twice. Entries that refer to cells stand in the same order. -/
inductive Linked.Reordered : Linked → Linked → Prop
  | atom {v : Value} (hleaf : v.isContainer = false) : Linked.Reordered (.atom v) (.atom v)
  | tuple {ls : List Linked} (h : (Linked.tuple ls).Closed) :
    Linked.Reordered (.tuple ls) (.tuple ls)
  | cell (a : Nat) : Linked.Reordered (.cell a) (.cell a)
  | list {ls ms : List Linked} (h : List.Forall₂ Linked.Reordered ls ms) :
    Linked.Reordered (.list ls) (.list ms)
  | map {es fs gs hs : List (Value × Linked)} (hkeyed : Linked.Keyed es)
    (hloose : Linked.Loose es fs) (h : List.Forall₂ Linked.EntryReordered fs gs)
    (hloose' : Linked.Loose gs hs) :
    Linked.Reordered (.map es) (.map hs)
  | copy {top top' : Linked} {inner inner' : Cells} (h : Linked.Reordered top top')
    (hinner : List.Forall₂ Linked.Reordered inner inner') :
    Linked.Reordered (.copy top inner) (.copy top' inner')

/-- Entries with one key whose values differ only in the order of keys. -/
inductive Linked.EntryReordered : Value × Linked → Value × Linked → Prop
  | value (key : Value) {l m : Linked} (h : Linked.Reordered l m) :
    Linked.EntryReordered (key, l) (key, m)
end

/-- **Cells that hold what differs only in the order of keys.** -/
abbrev Cells.Reordered (cells cells' : Cells) : Prop := List.Forall₂ Linked.Reordered cells cells'

namespace Linked

variable {l m : Linked} {cells cells' : Cells}

/-! ### Reading -/

/-- **Values that differ only in the order of keys**, and in which no text key stands twice. -/
structure ReadsAs (v w : Value) : Prop where
  reordered : v.Reordered w
  keyed : v.everywhere Value.isKeyed = true

theorem readsAs_null : ReadsAs .null .null := ⟨.refl _, rfl⟩

/-- Cells are read alike to some depth where what they hold is. -/
theorem readsAs_cellValue (h : ∀ a inCell inCell', (∀ a, ReadsAs (inCell a) (inCell' a)) →
      ReadsAs ((cells.content a).valueWith inCell) ((cells'.content a).valueWith inCell'))
    (depth a : Nat) : ReadsAs (cellValue cells depth a) (cellValue cells' depth a) := by
  induction depth generalizing a with
  | zero => exact readsAs_null
  | succ depth ih =>
    rw [cellValue_succ, cellValue_succ]
    exact h a _ _ ih

/-- What two cells hold is read alike, where there are such cells. -/
theorem readsAs_content {inCell inCell' : Nat → Value}
    (h : cells.Reordered cells')
    (hread : ∀ l ∈ cells, ∀ m, l.Reordered m → ReadsAs (l.valueWith inCell) (m.valueWith inCell'))
    (a : Nat) :
    ReadsAs ((cells.content a).valueWith inCell) ((cells'.content a).valueWith inCell') := by
  unfold Cells.content
  rw [List.getD_eq_getElem?_getD, List.getD_eq_getElem?_getD]
  have hrel := rel_getElem? h a
  generalize hl : cells[a]? = found at hrel
  generalize cells'[a]? = found' at hrel
  cases hrel with
  | none => exact readsAs_null
  | some hlm => exact hread _ (List.mem_of_getElem? hl) _ hlm

/-- Items are read alike if each is read like its partner. -/
theorem readsAs_list {ls ms : List Linked} {inCell inCell' : Nat → Value}
    (h : List.Forall₂ (fun l m => ReadsAs (l.valueWith inCell) (m.valueWith inCell')) ls ms) :
    ReadsAs ((Linked.list ls).valueWith inCell) ((Linked.list ms).valueWith inCell') := by
  rw [Linked.valueWith, Linked.valueWith, valuesWith_eq_map, valuesWith_eq_map]
  refine ⟨.list (List.rel_map (fun _ _ h => h.reordered) h), ?_⟩
  refine Value.testsKeys_isKeyed.list_iff.mpr (fun v hv => ?_)
  obtain ⟨l, hl, rfl⟩ := List.mem_map.mp hv
  obtain ⟨m, -, hlm⟩ := exists_of_forall₂_left h hl
  exact hlm.keyed

/-- Maps are read alike if their entries have partners that are. -/
theorem readsAs_map {es fs gs hs : List (Value × Linked)} {inCell inCell' : Nat → Value}
    (hkeyed : Keyed es) (hloose : Loose es fs)
    (h : List.Forall₂ (fun e f => e.1 = f.1 ∧
      ReadsAs (e.2.valueWith inCell) (f.2.valueWith inCell')) fs gs) (hloose' : Loose gs hs) :
    ReadsAs ((Linked.map es).valueWith inCell) ((Linked.map hs).valueWith inCell') := by
  rw [Linked.valueWith, Linked.valueWith, entriesWith_eq_map, entriesWith_eq_map]
  constructor
  · have hvalues : List.Forall₂ Value.EntryReordered
        (fs.map fun e => (e.1, e.2.valueWith inCell))
        (gs.map fun e => (e.1, e.2.valueWith inCell')) := by
      refine List.rel_map ?_ h
      rintro ⟨k, l⟩ ⟨_, m⟩ ⟨rfl, h⟩
      exact .value k h.reordered
    obtain ⟨es', hes', hperm⟩ := List.perm_comp_forall₂ (hloose.perm.map _) hvalues
    exact .map hes' (hperm.trans (hloose'.perm.map _))
  · refine Value.testsKeys_isKeyed.map_iff.mpr ⟨?_, fun e he => ?_⟩
    · rw [Value.textKeys_eq, List.map_map]
      exact hkeyed
    · obtain ⟨f, hf, rfl⟩ := List.mem_map.mp he
      obtain ⟨g, -, -, hfg⟩ := exists_of_forall₂_left h (hloose.perm.mem_iff.mp hf)
      exact hfg.keyed

/-- **What differs only in the order of keys** is read as what differs only in the order of keys. -/
theorem Reordered.valueWith (h : l.Reordered m) {inCell inCell' : Nat → Value}
    (hcell : ∀ a, ReadsAs (inCell a) (inCell' a)) :
    ReadsAs (l.valueWith inCell) (m.valueWith inCell') := by
  induction l using members_induction generalizing m inCell inCell' with
  | atom v =>
    cases h with
    | atom hleaf => exact ⟨.refl v, by cases v <;> first | rfl | cases hleaf⟩
  | tuple ls =>
    cases h with
    | tuple h =>
      rw [h.valueWith_eq inCell inCell']
      exact ⟨.refl _, rfl⟩
  | cell a =>
    cases h
    exact hcell a
  | list ls ih =>
    cases h with
    | list h =>
      exact readsAs_list ((forall₂_of_mem h).imp (fun _ _ hlm => ih _ hlm.1 hlm.2.2 hcell))
  | map es ih =>
    cases h with
    | map hkeyed hloose h hloose' =>
      refine readsAs_map hkeyed hloose ((forall₂_of_mem h).imp ?_) hloose'
      rintro _ _ ⟨he, -, ⟨k, h⟩⟩
      exact ⟨rfl, ih _ (hloose.perm.mem_iff.mpr he) h hcell⟩
  | copy top inner ihtop ih =>
    cases h with
    | copy h hinner =>
      refine ihtop h (fun a => ?_)
      rw [← hinner.length_eq]
      exact readsAs_cellValue (fun a _ _ hcell => readsAs_content hinner
        (fun l hl m hlm => ih l hl hlm hcell) a) _ a

theorem Reordered.value (h : l.Reordered m) (hcells : cells.Reordered cells') :
    ReadsAs (l.value cells) (m.value cells') := by
  refine h.valueWith (fun a => ?_)
  rw [← hcells.length_eq]
  exact readsAs_cellValue (fun a _ _ hcell => readsAs_content hcells
    (fun l _ m hlm => hlm.valueWith hcell) a) _ a

/-- **Values that share nothing** and differ only in the order of keys. -/
theorem reordered_unshared {v w : Value} (h : v.Reordered w)
    (hkeyed : v.everywhere Value.isKeyed = true) : v.unshared.Reordered w.unshared := by
  induction v using Value.members_induction generalizing w with
  | map es ih =>
    obtain ⟨fs, gs, rfl, hes, hperm⟩ := h.exists_of_map
    obtain ⟨hkeys, hvalues⟩ := Value.testsKeys_isKeyed.map_iff.mp hkeyed
    rw [Value.unshared_map, Value.unshared_map]
    refine .map ?_ (.refl _) (List.rel_map ?_ (forall₂_of_mem hes))
      (.of_perm (hperm.map _) (fun e he => ?_))
    · rw [Value.textKeys_eq] at hkeys
      rw [Keyed, Value.unsharedEntries, List.map_map]
      exact hkeys
    · rintro _ _ ⟨he, -, ⟨k, h⟩⟩
      exact .value k (ih _ he h (hvalues _ he))
    · obtain ⟨e', -, rfl⟩ := List.mem_map.mp he
      exact closed_unshared e'.2
  | list vs ih =>
    obtain ⟨ws, rfl, hvs⟩ := h.exists_of_list
    rw [Value.unshared_list, Value.unshared_list]
    refine .list (List.rel_map ?_ (forall₂_of_mem hvs))
    rintro v w ⟨hv, -, h⟩
    exact ih v hv h (Value.testsKeys_isKeyed.list_iff.mp hkeyed v hv)
  | other v hleaf =>
    rw [h.eq_of_leaf hleaf]
    cases v with
    | map es => cases hleaf
    | list vs => cases hleaf
    | tuple vs =>
      have hclosed := closed_unshared (.tuple vs)
      rw [Value.unshared_tuple] at hclosed ⊢
      exact .tuple hclosed
    | _ => exact .atom rfl

/-! ### Marked copies -/

/-- Marks have distinct keys. -/
theorem Keyed.nodup_marks {es : List (Value × Linked)} (h : Keyed es) :
    (es.filter isMark).Nodup := by
  rw [Keyed, List.filterMap_map, List.Nodup, List.pairwise_filterMap] at h
  refine (h.sublist List.filter_sublist).imp_of_mem ?_
  rintro e _ he - hne rfl
  obtain ⟨name, rfl⟩ := isMark_iff.mp (List.mem_filter.mp he).2
  exact hne name rfl name rfl rfl

/-- Marks that each of two maps has from the other are the same in some order. -/
theorem Keyed.perm_marks {es fs : List (Value × Linked)} (hes : Keyed es) (hfs : Keyed fs)
    (h : ∀ e ∈ es, isMark e = true → e ∈ fs) (h' : ∀ e ∈ fs, isMark e = true → e ∈ es) :
    (es.filter isMark).Perm (fs.filter isMark) := by
  refine (List.perm_ext_iff_of_nodup hes.nodup_marks hfs.nodup_marks).mpr (fun e => ?_)
  rw [List.mem_filter, List.mem_filter]
  exact and_congr_left (fun hmark => ⟨fun he => h e he hmark, fun he => h' e he hmark⟩)

/-- Marks refer to no cells. -/
theorem closed_of_mem_marks {es : List (Value × Linked)} {e : Value × Linked}
    (he : e ∈ es.filter isMark) : e.2 = .atom .absent ∧ e.2.Closed := by
  obtain ⟨name, rfl⟩ := isMark_iff.mp (List.mem_filter.mp he).2
  exact ⟨rfl, .atom _⟩

/-- **What is marked alike** differs only in the order of keys: each is below the other. -/
theorem Below.reordered {b n : Nat} (h : l.Below m) (h' : m.Below l) (hl : l.Fits b n) :
    l.Reordered m := by
  induction hl generalizing m with
  | atom hleaf =>
    cases h
    exact .atom hleaf
  | cell =>
    cases h
    exact .cell _
  | list _ ih =>
    cases h with
    | list h =>
      cases h' with
      | list h' =>
        refine .list ((forall₂_of_mem (forall₂_and_flip h h')).imp ?_)
        rintro l m ⟨hl, -, h, h'⟩
        exact ih l hl h h'
  | @map es hes _ ih =>
    cases h with
    | @map _ fs _ hfs hmarks hown =>
      cases h' with
      | map _ _ hmarks' hown' =>
        have hvalues : List.Forall₂ EntryReordered (own es) (own fs) := by
          refine (forall₂_of_mem (forall₂_and_flip hown hown')).imp ?_
          rintro _ _ ⟨he, -, ⟨k, h⟩, ⟨_, h'⟩⟩
          exact .value k (ih _ (mem_own.mp he).1 h h')
        have hkept : List.Forall₂ EntryReordered (es.filter isMark) (es.filter isMark) :=
          List.forall₂_same.mpr (fun e he => .value e.1 (by
            rw [(closed_of_mem_marks he).1]
            exact .atom rfl))
        have hperm := hes.perm_marks hfs hmarks hmarks'
        exact .map hes (.own_append es) (List.rel_append hvalues hkept)
          (((Loose.of_perm hperm (fun _ he => (closed_of_mem_marks he).2)).append_left _).trans
            (Loose.own_append fs).symm)

/-- What is packed differs only in the order of keys. -/
theorem Reordered.packed (h : l.Reordered m) (hcells : cells.Reordered cells') :
    (l.packed cells).Reordered (m.packed cells') := by
  cases hcells with
  | nil => rwa [packed_nil, packed_nil]
  | cons hfirst hrest =>
    cases h with
    | atom hleaf => exact .atom hleaf
    | tuple h => exact .copy (.tuple h) (.cons hfirst hrest)
    | cell a => exact .copy (.cell a) (.cons hfirst hrest)
    | list h => exact .copy (.list h) (.cons hfirst hrest)
    | map hkeyed hloose h hloose' =>
      exact .copy (.map hkeyed hloose h hloose') (.cons hfirst hrest)
    | copy h hinner => exact .copy (.copy h hinner) (.cons hfirst hrest)

end Linked

theorem Cells.Below.reordered {cells cells' : Cells} (h : cells.Below cells')
    (h' : cells'.Below cells) (hcells : cells.Layered) : cells.Reordered cells' := by
  refine (forall₂_of_mem (forall₂_and_flip h h')).imp ?_
  rintro l m ⟨hl, -, h, h'⟩
  obtain ⟨i, hi⟩ := List.getElem?_of_mem hl
  exact h.reordered h' (hcells i l hi)

/-- **Types that mark alike** give marked copies that differ only in the order of keys. -/
theorem TypeSpec.Reordered.copied {t t' : TypeSpec} (h : t.Reordered t')
    (hnamed : t.everyType TypeSpec.wellNamed = true)
    (hnamed' : t'.everyType TypeSpec.wellNamed = true) {d : Value} {s : Sharing}
    (hkeyed : d.everywhere Value.isKeyed = true)
    (huntupled : s = [] ∨ d.everywhere Value.isUntupled = true) :
    (t.copied d s).Reordered (t'.copied d s) := by
  by_cases hs : s = []
  · subst hs
    rw [t.copied_nil, t'.copied_nil]
    have hmarkers : Option.Rel TypeSpec.Reordered (some t) (some t') := .some h
    have hm : Marker.All TypeSpec.wellNamed (some t) := fun u hu => Option.some.inj hu ▸ hnamed
    have hm' : Marker.All TypeSpec.wellNamed (some t') := fun u hu => Option.some.inj hu ▸ hnamed'
    exact Linked.reordered_unshared (Marker.reordered_mark hmarkers hm hm' (.refl d) hkeyed)
      (Value.testsKeys_isKeyed.mark hm hkeyed)
  · have hd : d.Untupled Value.isKeyed := ⟨.inl (huntupled.resolve_left hs), hkeyed⟩
    obtain ⟨hcells, hl⟩ := hd.layered_place s
    have hcopied : ∀ t : TypeSpec, t.copied d s = Linked.packed
        ((t.seedLinked ((d.place s).run []).1).run ((d.place s).run []).2).1
        ((t.seedLinked ((d.place s).run []).1).run ((d.place s).run []).2).2 := fun _ => rfl
    rw [hcopied, hcopied]
    generalize (d.place s).run [] = start at hcells hl ⊢
    obtain ⟨hbelow, hcellsBelow⟩ := (seedLinked_marks t).below (seedLinked_marks t')
      (fun l cells => (h.marked_iff l cells).mpr) hl hcells
    obtain ⟨hbelow', hcellsBelow'⟩ := (seedLinked_marks t').below (seedLinked_marks t)
      (fun l cells => (h.marked_iff l cells).mp) hl hcells
    have hleast := seedLinked_marks t 0 _ _ hl hcells
    exact (hbelow.reordered hbelow' (hleast.above.fits hl)).packed
      (hcellsBelow.reordered hcellsBelow' (hleast.cellsAbove.layered hcells))

end Conform
