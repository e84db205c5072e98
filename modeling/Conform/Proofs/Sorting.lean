import Mathlib.Data.List.Nodup
import Conform.Options
import Conform.Proofs.Members

/-!
# What sorting keeps

Sorting the entries of a map is stable, so it does not matter whether entries are taken out before
or after it (`Value.sortKeys_filter`), nor in which order their values are changed
(`Value.mergeSort_map`). And where all keys are texts and distinct, the order in which the entries
came does not matter either (`Value.mergeSort_eq_of_perm`).
-/

namespace Conform

section Filter

variable {α : Type} {le : α → α → Bool}

/-- A list has one way only to be cut between what fails a test and what passes it. -/
theorem eq_of_append_eq {q : α → Bool} {xs ys zs ws : List α} (h : xs ++ ys = zs ++ ws)
    (hxs : ∀ a ∈ xs, q a = false) (hys : ∀ a ∈ ys, q a = true) (hzs : ∀ a ∈ zs, q a = false)
    (hws : ∀ a ∈ ws, q a = true) : xs = zs ∧ ys = ws := by
  have hcut : ∀ {us vs : List α}, (∀ a ∈ us, q a = false) → (∀ a ∈ vs, q a = true) →
      (us ++ vs).filter (fun a => !q a) = us ∧ (us ++ vs).filter q = vs := by
    intro us vs hus hvs
    rw [List.filter_append, List.filter_append]
    constructor
    · rw [List.filter_eq_self.mpr (fun a ha => by rw [hus a ha]; rfl),
        List.filter_eq_nil_iff.mpr (fun a ha => by simp [hvs a ha]), List.append_nil]
    · rw [List.filter_eq_nil_iff.mpr (fun a ha => by simp [hus a ha]),
        List.filter_eq_self.mpr hvs, List.nil_append]
  obtain ⟨hleft, hright⟩ := hcut hxs hys
  rw [h] at hleft hright
  exact ⟨hleft.symm.trans (hcut hzs hws).1, hright.symm.trans (hcut hzs hws).2⟩

/-- **Sorting is stable under taking out**: what is left of a sorted list is the list of what is
left, sorted. -/
theorem mergeSort_filter (htrans : ∀ a b c, le a b = true → le b c = true → le a c = true)
    (htotal : ∀ a b, (le a b || le b a) = true) (p : α → Bool) (l : List α) :
    (l.filter p).mergeSort le = (l.mergeSort le).filter p := by
  induction l with
  | nil => simp
  | cons a l ih =>
    obtain ⟨before, after, hcons, hl, hbefore⟩ := List.mergeSort_cons htrans htotal a l
    rw [hl, List.filter_append] at ih
    by_cases hp : p a = true
    · obtain ⟨before', after', hcons', hl', hbefore'⟩ :=
        List.mergeSort_cons htrans htotal a (l.filter p)
      have hafter : ∀ {us vs k : List α}, (a :: k).mergeSort le = us ++ a :: vs →
          ∀ b ∈ vs, le a b = true := by
        intro us vs k heq b hb
        have hsorted := heq ▸ List.pairwise_mergeSort htrans htotal (a :: k)
        exact List.rel_of_pairwise_cons (List.pairwise_append.mp hsorted).2.1 hb
      -- the new element goes to the same place before and after taking out
      obtain ⟨rfl, rfl⟩ := eq_of_append_eq (q := le a) (hl'.symm.trans ih)
        (fun b hb => by simpa using hbefore' b hb) (hafter hcons')
        (fun b hb => by simpa using hbefore b ((List.mem_filter.mp hb).1))
        (fun b hb => hafter hcons b ((List.mem_filter.mp hb).1))
      rw [List.filter_cons_of_pos hp, hcons', hcons, List.filter_append,
        List.filter_cons_of_pos hp]
    · rw [List.filter_cons_of_neg hp, ih, hcons, List.filter_append, List.filter_cons_of_neg hp]

end Filter

namespace Value

/-- Values that are changed under their keys may be changed before or after sorting. -/
theorem mergeSort_map (g : Value × Value → Value) (es : List (Value × Value)) :
    (es.map (fun e => (e.1, g e))).mergeSort entryLe =
      (es.mergeSort entryLe).map (fun e => (e.1, g e)) :=
  (List.map_mergeSort (f := fun e => (e.1, g e)) (fun _ _ _ _ => rfl)).symm

/-- **Keys may be taken out before or after sorting.** -/
theorem sortKeys_filter (q : Value → Bool) (es : List (Value × Value)) :
    (map (es.filter (fun e => q e.1))).sortKeys =
      map (((sortValues es).mergeSort entryLe).filter (fun e => q e.1)) := by
  rw [sortKeys, ← mergeSort_filter entryLe_trans entryLe_total, sortValues_eq_map,
    sortValues_eq_map, List.filter_map]
  rfl

/-- Where every key is a text, the text keys are all keys. -/
theorem textKeys_eq_map {es : List (Value × Value)} (htexts : ∀ e ∈ es, ∃ s, e.1 = .text s) :
    textKeys es = es.map (fun e => e.1.plainText) := by
  rw [textKeys, ← List.filterMap_eq_map]
  refine List.filterMap_congr (fun e he => ?_)
  obtain ⟨s, hs⟩ := htexts e he
  rw [Function.comp_apply, hs]
  rfl

/-- **Entries come out in one order**, in whichever they came, where all keys are texts and
distinct. -/
theorem mergeSort_eq_of_perm {es gs : List (Value × Value)} (hperm : es.Perm gs)
    (htexts : ∀ e ∈ es, ∃ s, e.1 = .text s) (hkeys : (textKeys es).Nodup) :
    es.mergeSort entryLe = gs.mergeSort entryLe := by
  rw [textKeys_eq_map htexts] at hkeys
  refine List.Perm.eq_of_pairwise (fun a b ha hb hab hba => ?_)
    (List.pairwise_mergeSort entryLe_trans entryLe_total es)
    (List.pairwise_mergeSort entryLe_trans entryLe_total gs)
    ((List.mergeSort_perm es entryLe).trans (hperm.trans (List.mergeSort_perm gs entryLe).symm))
  rw [List.mem_mergeSort] at ha hb
  exact List.inj_on_of_nodup_map hkeys ha (hperm.mem_iff.mpr hb)
    (String.le_antisymm (of_decide_eq_true hab) (of_decide_eq_true hba))

end Value

/-- A result with its keys sorted, if that is asked for. -/
def Options.arranged (o : Options) (v : Value) : Value := if o.sortKeys then v.sortKeys else v

end Conform
