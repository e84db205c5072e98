import Conform.Path
import Conform.Validation.Walk
import Conform.Value.Plain
import Conform.Value.Sorted

/-!
# The values in a value

A path of keys leads from a value to the values in it, through the entries of maps and the items of
lists (`Value.At`). What is said of a value at every depth is said along these paths, or, where it
is to be computed, by a test of every value on them (`Value.everywhere`).

Three such tests tell what validation may rely on. In the working copy of data there are no
containers but maps and lists, and the text keys of a map are distinct (`Value.isCopied`). Data and
defaults may be of the narrower sort that text formats know (`Value.isPlain`), and they may be free
of marks of absence (`Value.isPresent`), at least among the items of lists (`Value.itemsPresent`),
where such a mark would change the places of the items after it.
-/

namespace Conform.Value

/-- **The way into a value**: the keys of a path lead from the first value to the second. A list is
entered by an index, and a map by one of its keys as it is spelled. -/
inductive At : Value → Path → Value → Prop
  | here (v : Value) : At v [] v
  | entry {es : List (Value × Value)} {k w u : Value} {path : Path} (hmem : (k, w) ∈ es)
      (h : At w path u) : At (.map es) (k :: path) u
  | item {vs : List Value} {i : Nat} {w u : Value} {path : Path} (hget : vs[i]? = some w)
      (h : At w path u) : At (.list vs) (.int i :: path) u

section At

variable {v w u : Value} {path more : Path}

@[simp] theorem at_nil : v.At [] u ↔ v = u := by
  constructor
  · rintro ⟨⟩
    rfl
  · rintro rfl
    exact .here v

theorem map_at_cons {es : List (Value × Value)} {k : Value} :
    (map es).At (k :: path) u ↔ ∃ w, (k, w) ∈ es ∧ w.At path u := by
  constructor
  · rintro (_ | ⟨hmem, h⟩ | _)
    exact ⟨_, hmem, h⟩
  · rintro ⟨w, hmem, h⟩
    exact .entry hmem h

theorem list_at_cons {vs : List Value} {k : Value} :
    (list vs).At (k :: path) u ↔ ∃ (i : Nat) (w : Value), k = .int i ∧ vs[i]? = some w ∧
      w.At path u := by
  constructor
  · rintro (_ | _ | ⟨hget, h⟩)
    exact ⟨_, _, rfl, hget, h⟩
  · rintro ⟨i, w, rfl, hget, h⟩
    exact .item hget h

theorem At.append (h : v.At path w) (h' : w.At more u) : v.At (path ++ more) u := by
  induction h with
  | here => exact h'
  | entry hmem _ ih => exact .entry hmem (ih h')
  | item hget _ ih => exact .item hget (ih h')

/-- A path is taken key by key. -/
theorem at_cons {k : Value} : v.At (k :: path) u ↔ ∃ w, v.At [k] w ∧ w.At path u := by
  constructor
  · rintro (_ | ⟨hmem, h⟩ | ⟨hget, h⟩)
    · exact ⟨_, .entry hmem (.here _), h⟩
    · exact ⟨_, .item hget (.here _), h⟩
  · rintro ⟨w, hw, h⟩
    exact hw.append h

end At

/-! ## Induction over maps and lists -/

/-- Whether a value is a map or a list. -/
def isContainer : Value → Bool
  | .map _ | .list _ => true
  | _ => false

mutual

/-- What holds of maps and lists whose members have it, and of all other values, holds of every
value. -/
@[elab_as_elim]
theorem members_induction {P : Value → Prop}
    (map : ∀ es, (∀ e ∈ es, P e.2) → P (.map es)) (list : ∀ vs, (∀ v ∈ vs, P v) → P (.list vs))
    (other : ∀ v, v.isContainer = false → P v) : ∀ v, P v
  | .map es => map es (members_induction_entries map list other es)
  | .list vs => list vs (members_induction_items map list other vs)
  | .null | .bool _ | .number _ | .text _ | .bytes _ | .date _ | .dateTime _ | .absent | .tuple _
  | .set _ | .noMoment | .timestamp _ | .scalar .. | .array .. | .series .. | .table _
  | .foreign _ => other _ rfl

theorem members_induction_entries {P : Value → Prop}
    (map : ∀ es, (∀ e ∈ es, P e.2) → P (.map es)) (list : ∀ vs, (∀ v ∈ vs, P v) → P (.list vs))
    (other : ∀ v, v.isContainer = false → P v) :
    ∀ (es : List (Value × Value)), ∀ e ∈ es, P e.2
  | [], _, he => nomatch he
  | (_, v) :: es, e, he => (List.mem_cons.mp he).elim
      (fun h => h ▸ members_induction map list other v)
      (fun h => members_induction_entries map list other es e h)

theorem members_induction_items {P : Value → Prop}
    (map : ∀ es, (∀ e ∈ es, P e.2) → P (.map es)) (list : ∀ vs, (∀ v ∈ vs, P v) → P (.list vs))
    (other : ∀ v, v.isContainer = false → P v) :
    ∀ (vs : List Value), ∀ v ∈ vs, P v
  | [], _, hv => nomatch hv
  | w :: vs, v, hv => (List.mem_cons.mp hv).elim
      (fun h => h ▸ members_induction map list other w)
      (fun h => members_induction_items map list other vs v h)

end

/-! ## Tests at every depth -/

mutual
/-- **Whether a test holds of a value and of every value in it.** -/
def everywhere (p : Value → Bool) : Value → Bool
  | .map es => p (.map es) && everyEntry p es
  | .list vs => p (.list vs) && everyItem p vs
  | v => p v

/-- Whether a test holds at every depth of the values of a map. -/
def everyEntry (p : Value → Bool) : List (Value × Value) → Bool
  | [] => true
  | (_, v) :: es => everywhere p v && everyEntry p es

/-- Whether a test holds at every depth of the items of a list. -/
def everyItem (p : Value → Bool) : List Value → Bool
  | [] => true
  | v :: vs => everywhere p v && everyItem p vs
end

section Everywhere

variable {p q : Value → Bool} {v u : Value} {path : Path}

theorem everyEntry_eq_all (es : List (Value × Value)) :
    everyEntry p es = es.all (fun e => e.2.everywhere p) := by
  induction es with
  | nil => rfl
  | cons e es ih => rw [everyEntry, ih, List.all_cons]

theorem everyItem_eq_all (vs : List Value) :
    everyItem p vs = vs.all (fun v => v.everywhere p) := by
  induction vs with
  | nil => rfl
  | cons v vs ih => rw [everyItem, ih, List.all_cons]

theorem everywhere_map {es : List (Value × Value)} : (map es).everywhere p = true ↔
    p (map es) = true ∧ ∀ e ∈ es, e.2.everywhere p = true := by
  rw [everywhere, everyEntry_eq_all, Bool.and_eq_true, List.all_eq_true]

theorem everywhere_list {vs : List Value} : (list vs).everywhere p = true ↔
    p (list vs) = true ∧ ∀ v ∈ vs, v.everywhere p = true := by
  rw [everywhere, everyItem_eq_all, Bool.and_eq_true, List.all_eq_true]

theorem self_of_everywhere (h : v.everywhere p = true) : p v = true := by
  cases v with
  | map es => exact (everywhere_map.mp h).1
  | list vs => exact (everywhere_list.mp h).1
  | _ => exact h

/-- **A test at every depth** is a test of every value that a path leads to. -/
theorem everywhere_iff : v.everywhere p = true ↔ ∀ path u, v.At path u → p u = true := by
  constructor
  · intro h path u hat
    induction hat with
    | here v => exact self_of_everywhere h
    | entry hmem _ ih => exact ih ((everywhere_map.mp h).2 _ hmem)
    | item hget _ ih => exact ih ((everywhere_list.mp h).2 _ (List.mem_of_getElem? hget))
  · intro h
    induction v using members_induction with
    | map es ih =>
      exact everywhere_map.mpr ⟨h [] _ (.here _), fun e he =>
        ih e he (fun path u hat => h (e.1 :: path) u (.entry he hat))⟩
    | list vs ih =>
      refine everywhere_list.mpr ⟨h [] _ (.here _), fun v hv => ih v hv (fun path u hat => ?_)⟩
      obtain ⟨i, hi⟩ := List.mem_iff_getElem?.mp hv
      exact h (.int i :: path) u (.item hi hat)
    | other v hleaf =>
      cases v with
      | map es => cases hleaf
      | list vs => cases hleaf
      | _ => exact h [] _ (.here _)

/-- What is at a path passes at every depth what the whole passes at every depth. -/
theorem everywhere_of_at (h : v.everywhere p = true) (hat : v.At path u) :
    u.everywhere p = true := by
  rw [everywhere_iff] at h ⊢
  exact fun more w hw => h (path ++ more) w (hat.append hw)

theorem everywhere_mono (hpq : ∀ u, p u = true → q u = true) (h : v.everywhere p = true) :
    v.everywhere q = true := by
  rw [everywhere_iff] at h ⊢
  exact fun path u hat => hpq u (h path u hat)

end Everywhere

/-! ## Tests of a single value -/

/-- The text keys of a map. -/
def textKeys (es : List (Value × Value)) : List String :=
  es.filterMap (fun e => Violation.textOf? e.1)

/-- Whether a value is there. -/
def isPresent : Value → Bool
  | .absent => false
  | _ => true

/-- Whether the items of a list are there; of other values nothing is asked. -/
def itemsPresent : Value → Bool
  | .list vs => vs.all isPresent
  | _ => true

/-- **Whether a value may stand in a working copy**: its container is a map with distinct text keys
or a list, and it is no columnar data. -/
def isCopied : Value → Bool
  | .map es => decide (textKeys es).Nodup
  | .tuple _ | .noMoment | .timestamp _ | .scalar .. | .array .. | .series .. | .table _
  | .foreign _ => false
  | _ => true

/-- **Whether a value is plain**: what text formats know, with dates, and no mark of absence. -/
def isPlain : Value → Bool
  | .map es => decide (textKeys es).Nodup
  | .null | .bool _ | .number _ | .text _ | .date _ | .dateTime _ | .list _ => true
  | _ => false

/-- **Whether a value is foreign to plain data**: a tuple, columnar data, or one of its scalars. -/
def isForeign : Value → Bool
  | .tuple _ | .noMoment | .timestamp _ | .scalar .. | .array .. | .series .. | .table _
  | .foreign _ => true
  | _ => false

/-- **Whether a value is none of the points in time that columnar data has.** A check of dates takes
such a point for the date-time that it names (`Value.instant`). -/
def isTimely : Value → Bool
  | .timestamp _ | .noMoment => false
  | _ => true

theorem isCopied_of_isPlain {v : Value} (h : v.isPlain = true) : v.isCopied = true := by
  cases v <;> first | exact h | rfl

theorem isPresent_of_isPlain {v : Value} (h : v.isPlain = true) : v.isPresent = true := by
  cases v <;> first | rfl | cases h

theorem isContainer_eq_false_of_isForeign {v : Value} (h : v.isForeign = true) :
    v.isContainer = false := by
  cases v <;> first | rfl | cases h

theorem isForeign_eq_false_of_isCopied {v : Value} (h : v.isCopied = true) :
    v.isForeign = false := by
  cases v <;> first | rfl | cases h

theorem textKeys_eq (es : List (Value × Value)) :
    textKeys es = (es.map Prod.fst).filterMap Violation.textOf? := by
  rw [List.filterMap_map]
  rfl

theorem isCopied_map_iff {es : List (Value × Value)} : (map es).everywhere isCopied = true ↔
    (textKeys es).Nodup ∧ ∀ e ∈ es, e.2.everywhere isCopied = true := by
  rw [everywhere_map]
  exact and_congr_left (fun _ => decide_eq_true_iff)

theorem isCopied_list_iff {vs : List Value} : (list vs).everywhere isCopied = true ↔
    ∀ v ∈ vs, v.everywhere isCopied = true := by
  rw [everywhere_list]
  exact ⟨fun h => h.2, fun h => ⟨rfl, h⟩⟩

/-! ## What leaves such values as they are -/

theorem plainItems_eq_self {vs : List Value} (h : ∀ v ∈ vs, v.plain = .ok v) :
    plainItems vs = .ok vs := by
  induction vs with
  | nil => rfl
  | cons v vs ih =>
    rw [List.forall_mem_cons] at h
    rw [plainItems, h.1, ih h.2]
    rfl

theorem plainEntries_eq_self {es : List (Value × Value)} (h : ∀ e ∈ es, e.2.plain = .ok e.2) :
    plainEntries es = .ok es := by
  induction es with
  | nil => rfl
  | cons e es ih =>
    rw [List.forall_mem_cons] at h
    rw [plainEntries, h.1, ih h.2]
    rfl

/-- **A working copy is its own working copy.** -/
theorem plain_eq_self {v : Value} (h : v.everywhere isCopied = true) : v.plain = .ok v := by
  induction v using members_induction with
  | map es ih =>
    rw [plain, plainEntries_eq_self (fun e he => ih e he ((everywhere_map.mp h).2 e he))]
    rfl
  | list vs ih =>
    rw [plain, plainItems_eq_self (fun v hv => ih v hv ((everywhere_list.mp h).2 v hv))]
    rfl
  | other v hleaf =>
    have h := self_of_everywhere h
    cases v with
    | map es => cases hleaf
    | list vs => cases hleaf
    | _ => first | rfl | cases h

theorem presentItems_cons {v : Value} (h : v.isPresent = true) (vs : List Value) :
    presentItems (v :: vs) = v.withoutAbsent :: presentItems vs := by
  cases v <;> first | rfl | cases h

theorem presentEntries_cons {v : Value} (h : v.isPresent = true) (k : Value)
    (es : List (Value × Value)) :
    presentEntries ((k, v) :: es) = (k, v.withoutAbsent) :: presentEntries es := by
  cases v <;> first | rfl | cases h

theorem isPresent_iff {v : Value} : v.isPresent = true ↔ v ≠ .absent := by
  cases v <;> simp [isPresent]

section Container

variable {v : Value} (h : v.isContainer = true)

include h

theorem ne_null_of_isContainer : v ≠ .null := by
  rintro rfl
  cases h

theorem ne_absent_of_isContainer : v ≠ .absent := by
  rintro rfl
  cases h

theorem isPresent_of_isContainer : v.isPresent = true :=
  isPresent_iff.mpr (ne_absent_of_isContainer h)

end Container

/-- What is left of a value when what is absent is sifted out; nothing if it is absent itself. -/
def sifted? (v : Value) : Option Value := if v.isPresent then some v.withoutAbsent else none

theorem presentEntries_eq (es : List (Value × Value)) : presentEntries es =
    es.flatMap (fun e => (e.2.sifted?.map (fun w => (e.1, w))).toList) := by
  induction es with
  | nil => rfl
  | cons e es ih =>
    obtain ⟨k, v⟩ := e
    rw [List.flatMap_cons, ← ih, sifted?]
    cases v <;> rfl

theorem presentItems_eq (vs : List Value) :
    presentItems vs = vs.flatMap (fun v => v.sifted?.toList) := by
  induction vs with
  | nil => rfl
  | cons v vs ih =>
    rw [List.flatMap_cons, ← ih, sifted?]
    cases v <;> rfl

theorem mem_sifted? {v w : Value} :
    w ∈ v.sifted?.toList ↔ v.isPresent = true ∧ w = v.withoutAbsent := by
  unfold sifted?
  split <;> simp [*]

/-- What is left of the entries of a map are those that are there, sifted. -/
theorem exists_of_mem_presentEntries {es : List (Value × Value)} {e : Value × Value}
    (h : e ∈ presentEntries es) :
    ∃ f ∈ es, f.2.isPresent = true ∧ e = (f.1, f.2.withoutAbsent) := by
  rw [presentEntries_eq] at h
  obtain ⟨f, hf, he⟩ := List.mem_flatMap.mp h
  rw [Option.toList_map, List.mem_map] at he
  obtain ⟨w, hw, rfl⟩ := he
  obtain ⟨hpresent, rfl⟩ := mem_sifted?.mp hw
  exact ⟨f, hf, hpresent, rfl⟩

theorem exists_of_mem_presentItems {vs : List Value} {w : Value} (h : w ∈ presentItems vs) :
    ∃ v ∈ vs, v.isPresent = true ∧ w = v.withoutAbsent := by
  rw [presentItems_eq] at h
  obtain ⟨v, hv, hw⟩ := List.mem_flatMap.mp h
  exact ⟨v, hv, mem_sifted?.mp hw⟩

theorem keys_sublist_presentEntries (es : List (Value × Value)) :
    ((presentEntries es).map Prod.fst).Sublist (es.map Prod.fst) := by
  rw [presentEntries_eq]
  induction es with
  | nil => exact List.Sublist.refl _
  | cons e es ih =>
    rw [List.flatMap_cons, List.map_append]
    cases e.2.sifted? with
    | none => exact ih.cons _
    | some w => exact ih.cons_cons _

/-- **Sifting leaves nothing absent.** -/
theorem isPresent_withoutAbsent {v : Value} (h : v.isPresent = true) :
    v.withoutAbsent.everywhere isPresent = true := by
  induction v using members_induction with
  | map es ih =>
    refine everywhere_map.mpr ⟨rfl, fun e he => ?_⟩
    obtain ⟨f, hf, hpresent, rfl⟩ := exists_of_mem_presentEntries he
    exact ih f hf hpresent
  | list vs ih =>
    refine everywhere_list.mpr ⟨rfl, fun w hw => ?_⟩
    obtain ⟨v, hv, hpresent, rfl⟩ := exists_of_mem_presentItems hw
    exact ih v hv hpresent
  | other v hleaf =>
    cases v with
    | map es => cases hleaf
    | list vs => cases hleaf
    | _ => exact h

theorem presentItems_eq_self {vs : List Value} (hpresent : ∀ v ∈ vs, v.isPresent = true)
    (h : ∀ v ∈ vs, v.withoutAbsent = v) : presentItems vs = vs := by
  induction vs with
  | nil => rfl
  | cons v vs ih =>
    rw [List.forall_mem_cons] at h hpresent
    rw [presentItems_cons hpresent.1, h.1, ih hpresent.2 h.2]

theorem presentEntries_eq_self {es : List (Value × Value)}
    (hpresent : ∀ e ∈ es, e.2.isPresent = true) (h : ∀ e ∈ es, e.2.withoutAbsent = e.2) :
    presentEntries es = es := by
  induction es with
  | nil => rfl
  | cons e es ih =>
    rw [List.forall_mem_cons] at h hpresent
    rw [presentEntries_cons hpresent.1, h.1, ih hpresent.2 h.2]

/-- Where nothing is absent, sifting out what is absent changes nothing. -/
theorem withoutAbsent_eq_self {v : Value} (h : v.everywhere isPresent = true) :
    v.withoutAbsent = v := by
  induction v using members_induction with
  | map es ih =>
    have h := (everywhere_map.mp h).2
    rw [withoutAbsent, presentEntries_eq_self (fun e he => self_of_everywhere (h e he))
      (fun e he => ih e he (h e he))]
  | list vs ih =>
    have h := (everywhere_list.mp h).2
    rw [withoutAbsent, presentItems_eq_self (fun v hv => self_of_everywhere (h v hv))
      (fun v hv => ih v hv (h v hv))]
  | other v hleaf =>
    cases v with
    | map es => cases hleaf
    | list vs => cases hleaf
    | _ => rfl

/-! ## Sorted keys -/

theorem sortItems_eq_map (vs : List Value) : sortItems vs = vs.map sortKeys := by
  induction vs with
  | nil => rfl
  | cons v vs ih => rw [sortItems, ih, List.map_cons]

theorem sortValues_eq_map (es : List (Value × Value)) :
    sortValues es = es.map (fun e => (e.1, e.2.sortKeys)) := by
  induction es with
  | nil => rfl
  | cons e es ih => rw [sortValues, ih, List.map_cons]

theorem mem_sortKeys_map {es : List (Value × Value)} {e : Value × Value} :
    e ∈ (sortValues es).mergeSort entryLe ↔ ∃ v, (e.1, v) ∈ es ∧ e.2 = v.sortKeys := by
  rw [List.mem_mergeSort, sortValues_eq_map, List.mem_map]
  constructor
  · rintro ⟨⟨k, v⟩, hv, rfl⟩
    exact ⟨v, hv, rfl⟩
  · rintro ⟨v, hv, he⟩
    exact ⟨(e.1, v), hv, Prod.ext rfl he.symm⟩

/-- **Sorting keys keeps every value at its path**, with its own keys sorted. -/
theorem sortKeys_at {v u : Value} {path : Path} :
    v.sortKeys.At path u ↔ ∃ w, v.At path w ∧ u = w.sortKeys := by
  induction path generalizing v with
  | nil => simp [eq_comm]
  | cons k path ih =>
    cases v with
    | map es =>
      rw [sortKeys, map_at_cons]
      constructor
      · rintro ⟨x, hx, hu⟩
        obtain ⟨v, hv, rfl⟩ := mem_sortKeys_map.mp hx
        obtain ⟨w, hw, rfl⟩ := ih.mp hu
        exact ⟨w, .entry hv hw, rfl⟩
      · rintro ⟨w, hw, rfl⟩
        obtain ⟨v, hv, hw⟩ := map_at_cons.mp hw
        exact ⟨v.sortKeys, mem_sortKeys_map.mpr ⟨v, hv, rfl⟩, ih.mpr ⟨w, hw, rfl⟩⟩
    | list vs =>
      rw [sortKeys, sortItems_eq_map, list_at_cons]
      constructor
      · rintro ⟨i, x, rfl, hx, hu⟩
        rw [List.getElem?_map] at hx
        obtain ⟨v, hv, rfl⟩ := Option.map_eq_some_iff.mp hx
        obtain ⟨w, hw, rfl⟩ := ih.mp hu
        exact ⟨w, .item hv hw, rfl⟩
      · rintro ⟨w, hw, rfl⟩
        obtain ⟨i, v, rfl, hv, hw⟩ := list_at_cons.mp hw
        refine ⟨i, v.sortKeys, rfl, ?_, ih.mpr ⟨w, hw, rfl⟩⟩
        rw [List.getElem?_map, hv]
        rfl
    | _ =>
      constructor
      · rintro ⟨⟩
      · rintro ⟨w, ⟨⟩, -⟩

theorem entryLe_trans (a b c : Value × Value) (hab : entryLe a b = true)
    (hbc : entryLe b c = true) : entryLe a c = true :=
  decide_eq_true (String.le_trans (of_decide_eq_true hab) (of_decide_eq_true hbc))

theorem entryLe_total (a b : Value × Value) : (entryLe a b || entryLe b a) = true := by
  rcases String.le_total a.1.plainText b.1.plainText with h | h
  · exact Bool.or_eq_true_iff.mpr (.inl (decide_eq_true h))
  · exact Bool.or_eq_true_iff.mpr (.inr (decide_eq_true h))

/-- **Sorting keys again changes nothing.** -/
theorem sortKeys_idem (v : Value) : v.sortKeys.sortKeys = v.sortKeys := by
  induction v using members_induction with
  | map es ih =>
    have hsorted := List.pairwise_mergeSort entryLe_trans entryLe_total (sortValues es)
    have hvalues : sortValues ((sortValues es).mergeSort entryLe) =
        (sortValues es).mergeSort entryLe := by
      rw [sortValues_eq_map ((sortValues es).mergeSort entryLe)]
      refine (List.map_congr_left (fun e he => ?_)).trans (List.map_id _)
      obtain ⟨v, hv, hsort⟩ := mem_sortKeys_map.mp he
      refine Prod.ext rfl ?_
      show e.2.sortKeys = e.2
      rw [hsort]
      exact ih _ hv
    rw [sortKeys, sortKeys, hvalues, List.mergeSort_of_pairwise hsorted]
  | list vs ih =>
    rw [sortKeys, sortKeys, sortItems_eq_map, sortItems_eq_map, List.map_map]
    exact congrArg list (List.map_congr_left ih)
  | other v hleaf =>
    cases v with
    | map es => cases hleaf
    | list vs => cases hleaf
    | _ => rfl

end Conform.Value
