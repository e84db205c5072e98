import Conform.Proofs.Reordering

/-!
# Sorted values as canonical forms

Two values that differ in the order of keys only become the same value when their keys are sorted.
That a value can be told by its sorted form is the converse, and it is not about sorting at all: an
entry of the sorted map is found again in each of the two maps it may come from, and so the entries
of these can be matched, map by map and on all levels (`Value.reordered_of_sortKeys_eq`). Nothing is
asked of the keys there. It is the other direction that needs them to be texts and distinct, for
sorting goes by the texts of keys and leaves entries with one text as they came.

Under this condition the sorted form has a description that does not mention sorting. At each path
there is a map just where the value has one, its keys ascend, and its entries are those of the map
that was there, with sorted values. There is one such list only
(`Value.eq_mergeSort_of_ascending`).
-/

namespace Conform.Value

variable {v w : Value} {es gs : List (Value × Value)}

/-! ## Ascending keys -/

/-- **Keys in ascending order**: they are texts, and each comes before those after it, by code
points. -/
def Ascending (es : List (Value × Value)) : Prop :=
  ∃ names : List String, es.map Prod.fst = names.map text ∧ names.Pairwise (· < ·)

/-- Where all keys are texts, they are those of their texts. -/
theorem keys_eq_map_text (htexts : ∀ e ∈ es, ∃ s, e.1 = .text s) :
    es.map Prod.fst = (es.map (fun e => e.1.plainText)).map text := by
  rw [List.map_map]
  refine List.map_congr_left (fun e he => ?_)
  obtain ⟨s, hs⟩ := htexts e he
  rw [Function.comp_apply, hs]
  rfl

theorem Ascending.exists_text (h : Ascending es) {e : Value × Value} (he : e ∈ es) :
    ∃ s, e.1 = .text s := by
  obtain ⟨names, hnames, -⟩ := h
  have hkey : e.1 ∈ names.map text := hnames ▸ List.mem_map_of_mem he
  obtain ⟨s, -, hs⟩ := List.mem_map.mp hkey
  exact ⟨s, hs.symm⟩

/-- The texts of ascending keys ascend. -/
theorem Ascending.pairwise (h : Ascending es) :
    (es.map (fun e => e.1.plainText)).Pairwise (· < ·) := by
  have hkeys := keys_eq_map_text (fun e he => h.exists_text he)
  obtain ⟨names, hnames, hsorted⟩ := h
  have hinj : Function.Injective text := fun s t hst => text.inj hst
  rw [← hinj.list_map (hnames.symm.trans hkeys)]
  exact hsorted

/-- **Sorted entries ascend**, where all keys are texts and distinct. -/
theorem ascending_mergeSort (htexts : ∀ e ∈ es, ∃ s, e.1 = .text s) (hkeys : (textKeys es).Nodup) :
    Ascending (es.mergeSort entryLe) := by
  refine ⟨_, keys_eq_map_text (fun e he => htexts e (List.mem_mergeSort.mp he)), ?_⟩
  have hperm : ((es.mergeSort entryLe).map (fun e => e.1.plainText)).Perm
      (es.map (fun e => e.1.plainText)) := (List.mergeSort_perm es entryLe).map _
  rw [textKeys_eq_map htexts, ← hperm.nodup_iff] at hkeys
  have hle : ((es.mergeSort entryLe).map (fun e => e.1.plainText)).Pairwise (· ≤ ·) :=
    List.pairwise_map.mpr ((List.pairwise_mergeSort entryLe_trans entryLe_total es).imp
      (fun hab => of_decide_eq_true hab))
  exact (hle.and hkeys).imp (fun hst =>
    String.not_le.mp (fun hts => hst.2 (String.le_antisymm hst.1 hts)))

/-- **There is one ascending order** of the entries of a map. -/
theorem eq_mergeSort_of_ascending (h : Ascending gs) (hperm : gs.Perm es) :
    gs = es.mergeSort entryLe := by
  have htexts : ∀ e ∈ gs, ∃ s, e.1 = .text s := fun e he => h.exists_text he
  have hkeys : (textKeys gs).Nodup := by
    rw [textKeys_eq_map htexts]
    exact h.pairwise.imp (fun hst => String.ne_of_lt hst)
  rw [← mergeSort_eq_of_perm hperm htexts hkeys, List.mergeSort_of_pairwise]
  exact (List.pairwise_map.mp h.pairwise).imp (fun hab =>
    decide_eq_true (String.not_lt.mp (String.lt_asymm hab)))

/-! ## Matching the entries -/

theorem sortKeys_of_leaf (h : v.isContainer = false) : v.sortKeys = v := by
  cases v with
  | map es => cases h
  | list vs => cases h
  | _ => rfl

theorem isContainer_sortKeys (v : Value) : v.sortKeys.isContainer = v.isContainer := by
  cases v <;> rfl

/-- What comes from two lists of entries by sorting their values is matched by them. -/
theorem exists_perm_of_sortValues (h : (sortValues es).Perm (sortValues gs)) :
    ∃ fs, List.Forall₂ (fun e f => e.1 = f.1 ∧ e.2.sortKeys = f.2.sortKeys) es fs ∧
      fs.Perm gs := by
  rw [sortValues_eq_map, sortValues_eq_map] at h
  have hcomp : Relation.Comp (fun l l' => l = l'.map (fun e => (e.1, e.2.sortKeys))) List.Perm
      (es.map (fun e => (e.1, e.2.sortKeys))) gs := by
    rw [List.eq_map_comp_perm]
    exact h
  obtain ⟨fs, hfs, hperm⟩ := hcomp
  refine ⟨fs, ?_, hperm⟩
  rw [← List.forall₂_eq_eq_eq, List.forall₂_map_left_iff, List.forall₂_map_right_iff] at hfs
  exact hfs.imp (fun e f hef => Prod.mk.inj hef)

/-- **Values with one sorted form** differ in the order of keys only. -/
theorem reordered_of_sortKeys_eq (h : v.sortKeys = w.sortKeys) : v.Reordered w := by
  induction v using members_induction generalizing w with
  | map es ih =>
    cases w with
    | map gs =>
      have hsorted : (sortValues es).mergeSort entryLe = (sortValues gs).mergeSort entryLe :=
        map.inj h
      have hperm : (sortValues es).Perm (sortValues gs) := by
        refine (List.mergeSort_perm (sortValues es) entryLe).symm.trans ?_
        rw [hsorted]
        exact List.mergeSort_perm (sortValues gs) entryLe
      obtain ⟨fs, hes, hfs⟩ := exists_perm_of_sortValues hperm
      refine .map ((forall₂_of_mem hes).imp ?_) hfs
      rintro ⟨k, v⟩ ⟨k', w⟩ ⟨he, -, hkey, hvalue⟩
      cases hkey
      exact .value k (ih _ he hvalue)
    | _ => cases h
  | list vs ih =>
    cases w with
    | list ws =>
      have hitems : vs.map sortKeys = ws.map sortKeys := by
        rw [← sortItems_eq_map, ← sortItems_eq_map]
        exact list.inj h
      rw [← List.forall₂_eq_eq_eq, List.forall₂_map_left_iff, List.forall₂_map_right_iff] at hitems
      exact .list ((forall₂_of_mem hitems).imp (fun v w hvw => ih v hvw.1 hvw.2.2))
    | _ => cases h
  | other v hleaf =>
    rw [sortKeys_of_leaf hleaf] at h
    have hleaf' : w.isContainer = false := by rw [← isContainer_sortKeys, ← h, hleaf]
    rw [h, sortKeys_of_leaf hleaf']
    exact .refl w

/-! ## The canonical form -/

/-- The keys of a map in a value are texts and distinct, if those of all maps are. -/
theorem keys_of_at {path : Path} (hkeyed : v.everywhere isKeyed = true)
    (htexts : v.everywhere keysAreTexts = true) (hat : v.At path (.map es)) :
    (∀ e ∈ es, ∃ s, e.1 = .text s) ∧ (textKeys es).Nodup := by
  have hself : keysAreTexts (.map es) = true := self_of_everywhere (everywhere_of_at htexts hat)
  refine ⟨fun e he => ?_, (testsKeys_isKeyed.map_iff.mp (everywhere_of_at hkeyed hat)).1⟩
  have hkey := List.all_eq_true.mp hself e he
  cases hk : e.1 <;> rw [hk] at hkey <;> first | exact ⟨_, rfl⟩ | cases hkey

/-- **The maps of a sorted value** are told by their keys and entries: they are in the places of the
maps of the value, their keys ascend, and their entries are those of the map, each value sorted. -/
theorem sortKeys_at_map (hkeyed : v.everywhere isKeyed = true)
    (htexts : v.everywhere keysAreTexts = true) {path : Path} :
    v.sortKeys.At path (.map gs) ↔
      ∃ es, v.At path (.map es) ∧ gs.Perm (es.map (fun e => (e.1, e.2.sortKeys))) ∧
        Ascending gs := by
  rw [sortKeys_at]
  constructor
  · rintro ⟨w, hw, hsorted⟩
    cases w with
    | map es =>
      obtain ⟨hes, hkeys⟩ := keys_of_at hkeyed htexts hw
      cases hsorted
      refine ⟨es, hw, ?_, ascending_mergeSort ?_ ?_⟩
      · rw [← sortValues_eq_map]
        exact List.mergeSort_perm _ entryLe
      · rw [sortValues_eq_map]
        exact List.forall_mem_map.mpr hes
      · rwa [sortValues_eq_map, textKeys_map]
    | _ => cases hsorted
  · rintro ⟨es, hes, hperm, hascending⟩
    refine ⟨.map es, hes, ?_⟩
    rw [sortKeys, sortValues_eq_map, ← eq_mergeSort_of_ascending hascending hperm]

/-- **The lists of a sorted value** have their items in their places, each sorted. -/
theorem sortKeys_at_list {path : Path} {ws : List Value} :
    v.sortKeys.At path (.list ws) ↔ ∃ vs, v.At path (.list vs) ∧ ws = vs.map sortKeys := by
  rw [sortKeys_at]
  constructor
  · rintro ⟨w, hw, hsorted⟩
    cases w with
    | list vs =>
      rw [sortKeys, sortItems_eq_map] at hsorted
      exact ⟨vs, hw, list.inj hsorted⟩
    | _ => cases hsorted
  · rintro ⟨vs, hvs, rfl⟩
    exact ⟨.list vs, hvs, by rw [sortKeys, sortItems_eq_map]⟩

/-- **Sorting the keys gives a canonical form**, where all keys are texts and those of a map
distinct. The maps and lists of the sorted value stand where those of the value stand, with the keys
of the maps ascending and everything else as it was; sorting it again changes nothing; and it is the
same for two values just if they differ in the order of keys only. -/
theorem sortKeys_canonical (hkeyed : v.everywhere isKeyed = true)
    (htexts : v.everywhere keysAreTexts = true) :
    (∀ path gs, v.sortKeys.At path (.map gs) ↔
      ∃ es, v.At path (.map es) ∧ gs.Perm (es.map (fun e => (e.1, e.2.sortKeys))) ∧
        Ascending gs) ∧
    (∀ path ws, v.sortKeys.At path (.list ws) ↔
      ∃ vs, v.At path (.list vs) ∧ ws = vs.map sortKeys) ∧
    v.sortKeys.sortKeys = v.sortKeys ∧
    ∀ w, v.sortKeys = w.sortKeys ↔ v.Reordered w :=
  ⟨fun _ _ => sortKeys_at_map hkeyed htexts, fun _ _ => sortKeys_at_list, v.sortKeys_idem,
    fun _ => ⟨reordered_of_sortKeys_eq, fun h => h.sortKeys_eq hkeyed htexts⟩⟩

/-- Two maps that hold the same in another order, as do the maps in their lists, have one sorted
form, in which the keys of every map ascend. -/
theorem sortKeys_canonical_nested :
    (Value.map [(.text "b", .list [.map [(.text "d", .int 1), (.text "c", .null)], .int 2]),
        (.text "a", .bool true)]).sortKeys =
      (Value.map [(.text "a", .bool true),
        (.text "b", .list [.map [(.text "c", .null), (.text "d", .int 1)], .int 2])]).sortKeys ∧
    ∀ path gs, (Value.map [(.text "b", .list [.map [(.text "d", .int 1), (.text "c", .null)],
        .int 2]), (.text "a", .bool true)]).sortKeys.At path (.map gs) → Ascending gs := by
  have hcanonical := sortKeys_canonical (v := .map [(.text "b", .list [.map [(.text "d", .int 1),
    (.text "c", .null)], .int 2]), (.text "a", .bool true)]) (by decide) (by decide)
  have hinner : Reordered (.map [(.text "d", .int 1), (.text "c", .null)])
      (.map [(.text "c", .null), (.text "d", .int 1)]) :=
    .map (.cons (.value _ (.refl _)) (.cons (.value _ (.refl _)) .nil)) (.swap _ _ _)
  have hlist : Reordered (.list [.map [(.text "d", .int 1), (.text "c", .null)], .int 2])
      (.list [.map [(.text "c", .null), (.text "d", .int 1)], .int 2]) :=
    .list (.cons hinner (.cons (.refl _) .nil))
  refine ⟨(hcanonical.2.2.2 _).mpr (.map (.cons (.value _ hlist) (.cons (.value _ (.refl _)) .nil))
    (.swap _ _ _)), fun path gs hat => ?_⟩
  obtain ⟨es, -, -, hascending⟩ := (hcanonical.1 path gs).mp hat
  exact hascending

end Conform.Value
