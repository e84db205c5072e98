import Conform.Proofs.CleanCells
import Conform.Proofs.Reordering

/-!
# More marks

Marking puts marks into the maps of a default and changes nothing else. One linked value is below
another if that only has more marks, wherever they stand (`Linked.Below`), and so it is with cells.

Where a default is put into cells, each container lies in a cell before those of what it holds
(`Cells.Layered`, `Value.Untupled.layered_place`). In such cells setting an entry to what is above
it leads to what is above (`Linked.Fits.below_setEntry`), and where the new entry is below some
entry, it leads no further (`Linked.Below.setEntry`).
-/

namespace Conform

namespace Linked

/-! ## Marks among entries -/

section Entries

variable {es fs : List (Value × Linked)} {name : String} {l m : Linked}

/-- Whether an entry is the mark of a field. -/
def isMark : Value × Linked → Bool
  | (.text _, .atom .absent) => true
  | _ => false

/-- The entries that are no marks. -/
def own (es : List (Value × Linked)) : List (Value × Linked) := es.filter (fun e => !isMark e)

/-- Whether the text keys of entries are distinct. -/
def Keyed (es : List (Value × Linked)) : Prop :=
  ((es.map Prod.fst).filterMap Violation.textOf?).Nodup

theorem isMark_iff {e : Value × Linked} :
    isMark e = true ↔ ∃ name, e = (.text name, .atom .absent) := by
  constructor
  · intro h
    unfold isMark at h
    split at h
    · exact ⟨_, rfl⟩
    · cases h
  · rintro ⟨name, rfl⟩
    rfl

theorem isMark_text : isMark (.text name, l) = true ↔ l = .atom .absent := by
  rw [isMark_iff]
  constructor
  · rintro ⟨_, h⟩
    exact (Prod.mk.inj h).2
  · rintro rfl
    exact ⟨name, rfl⟩

theorem mem_own {e : Value × Linked} : e ∈ own es ↔ e ∈ es ∧ isMark e = false := by
  rw [own, List.mem_filter, Bool.not_eq_true']

theorem own_concat_mark (es : List (Value × Linked)) (name : String) :
    own (es ++ [(.text name, .atom .absent)]) = own es := by
  rw [own, List.filter_append]
  exact List.append_nil _

/-- A text key stands once. -/
theorem Keyed.unique (h : Keyed es) (hl : (.text name, l) ∈ es) (hm : (.text name, m) ∈ es) :
    l = m := by
  induction es with
  | nil => cases hl
  | cons e es ih =>
    have hnew : ∀ l, e.1 = .text name → (.text name, l) ∈ es → False := by
      intro l he hl
      rw [Keyed, List.map_cons, List.filterMap_cons_some (by rw [he]; rfl), List.nodup_cons] at h
      exact h.1 (List.mem_filterMap.mpr ⟨_, List.mem_map_of_mem hl, rfl⟩)
    have hrest : Keyed es := h.sublist (((List.sublist_cons_self e es).map _).filterMap _)
    rcases List.mem_cons.mp hl with rfl | hl <;> rcases List.mem_cons.mp hm with h' | hm
    · exact (Prod.mk.inj h').2.symm
    · exact (hnew m rfl hm).elim
    · exact (hnew l (by rw [← h']) hl).elim
    · exact ih hrest hl hm

/-- What stands at a text key. -/
theorem Keyed.entry?_eq (h : Keyed es) (hl : (.text name, l) ∈ es) :
    Value.entry? es (.text name) = some l := by
  cases hget : Value.entry? es (.text name) with
  | none =>
    rw [Value.entry?, Option.map_eq_none_iff, List.find?_eq_none] at hget
    exact absurd (by rw [Value.sameKey_text]; exact keyNames_iff.mpr rfl) (hget _ hl)
  | some m =>
    obtain ⟨e, he, rfl⟩ := Option.map_eq_some_iff.mp hget
    have hkey := List.find?_some he
    rw [Value.sameKey_text] at hkey
    have hmem := List.mem_of_find?_eq_some he
    rw [h.unique hl (by rw [← keyNames_iff.mp hkey]; exact hmem)]

theorem entry?_eq_none (h : ∀ l, (.text name, l) ∉ es) : Value.entry? es (.text name) = none := by
  rw [Value.entry?, Option.map_eq_none_iff, List.find?_eq_none]
  intro e he hkey
  rw [Value.sameKey_text] at hkey
  exact h e.2 (by rw [← keyNames_iff.mp hkey]; exact he)

end Entries

/-! ## More marks -/

mutual
/-- **One linked value below another**, which only has more marks: what is no mark stands in the
same order in both, and the marks anywhere. -/
inductive Below : Linked → Linked → Prop
  | atom (v : Value) : Below (.atom v) (.atom v)
  | cell (a : Nat) : Below (.cell a) (.cell a)
  | list {ls ms : List Linked} (h : List.Forall₂ Below ls ms) : Below (.list ls) (.list ms)
  | map {es fs : List (Value × Linked)} (hes : Keyed es) (hfs : Keyed fs)
    (hmarks : ∀ e ∈ es, isMark e = true → e ∈ fs)
    (hown : List.Forall₂ EntryBelow (own es) (own fs)) : Below (.map es) (.map fs)

/-- Entries with one key, the one value below the other. -/
inductive EntryBelow : Value × Linked → Value × Linked → Prop
  | value (key : Value) {l m : Linked} (h : Below l m) : EntryBelow (key, l) (key, m)
end

section Below

variable {es fs : List (Value × Linked)} {k : Value} {name : String} {l m : Linked} {b b' n : Nat}

theorem Below.trans {l m r : Linked} (h : l.Below m) (h' : m.Below r) : l.Below r := by
  induction l using members_induction generalizing m r with
  | map es ih =>
    cases h with
    | map hes _ hmarks hown =>
      cases h' with
      | map _ hfs hmarks' hown' =>
        refine .map hes hfs (fun e he hmark => hmarks' e (hmarks e he hmark) hmark)
          (forall₂_trans_of_mem hown hown' ?_)
        rintro e he _ _ ⟨k, h⟩ ⟨_, h'⟩
        exact .value k (ih _ (mem_own.mp he).1 h h')
  | list ls ih =>
    cases h with
    | list h =>
      cases h' with
      | list h' => exact .list (forall₂_trans_of_mem h h' (fun l hl _ _ h h' => ih l hl h h'))
  | atom v =>
    cases h
    exact h'
  | cell a =>
    cases h
    exact h'
  | tuple ls => cases h
  | copy top inner => cases h

theorem Below.eq_absent (h : l.Below m) : l = .atom .absent ↔ m = .atom .absent := by
  cases h <;> simp

/-- What stands in one map stands in a map above it, with more marks. -/
theorem Below.exists_above (h : (Linked.map es).Below (.map fs)) (hl : (k, l) ∈ es) :
    ∃ m, (k, m) ∈ fs ∧ l.Below m := by
  cases h with
  | map _ _ hmarks hown =>
    cases hmark : isMark (k, l) with
    | true =>
      obtain ⟨name, he⟩ := isMark_iff.mp hmark
      cases he
      exact ⟨_, hmarks _ hl hmark, .atom _⟩
    | false =>
      obtain ⟨f, hf, he⟩ := exists_of_forall₂_left hown (mem_own.mpr ⟨hl, hmark⟩)
      cases he with
      | value _ h => exact ⟨_, (mem_own.mp hf).1, h⟩

/-- What stands in a map and is no mark stands in a map below it, with fewer marks. -/
theorem Below.exists_below (h : (Linked.map es).Below (.map fs)) (hm : (k, m) ∈ fs)
    (hmark : isMark (k, m) = false) : ∃ l, (k, l) ∈ es ∧ l.Below m := by
  cases h with
  | map _ _ _ hown =>
    obtain ⟨e, he, hem⟩ := exists_of_forall₂_right hown (mem_own.mpr ⟨hm, hmark⟩)
    cases hem with
    | value _ h => exact ⟨_, (mem_own.mp he).1, h⟩

/-! ## Addresses -/

/-- **A linked value that a default may give**: it has no tuple, its text keys are distinct, and its
addresses are from some address on and before another. -/
inductive Fits (b n : Nat) : Linked → Prop
  | atom {v : Value} (hleaf : v.isContainer = false) : Fits b n (.atom v)
  | cell {a : Nat} (hb : b ≤ a) (hn : a < n) : Fits b n (.cell a)
  | list {ls : List Linked} (h : ∀ l ∈ ls, Fits b n l) : Fits b n (.list ls)
  | map {es : List (Value × Linked)} (hes : Keyed es) (h : ∀ e ∈ es, Fits b n e.2) :
    Fits b n (.map es)

theorem Fits.refl (h : l.Fits b n) : l.Below l := by
  induction h with
  | atom => exact .atom _
  | cell => exact .cell _
  | list _ ih => exact .list (List.forall₂_same.mpr ih)
  | map hes _ ih =>
    refine .map hes hes (fun e he _ => he) (List.forall₂_same.mpr (fun e he => ?_))
    exact .value e.1 (ih e (mem_own.mp he).1)

/-- Marks have no addresses. -/
theorem Below.fits (h : l.Below m) (hl : l.Fits b n) : m.Fits b n := by
  induction hl generalizing m with
  | atom hleaf =>
    cases h
    exact .atom hleaf
  | cell hb hn =>
    cases h
    exact .cell hb hn
  | list _ ih =>
    cases h with
    | list h =>
      refine .list (fun m hm => ?_)
      obtain ⟨l, hl, hlm⟩ := exists_of_forall₂_right h hm
      exact ih l hl hlm
  | @map es hes _ ih =>
    cases h with
    | @map _ fs _ hfs hmarks hown =>
      refine .map hfs (fun f hf => ?_)
      cases hmark : isMark f with
      | true =>
        obtain ⟨name, rfl⟩ := isMark_iff.mp hmark
        exact .atom rfl
      | false =>
        obtain ⟨e, he, hef⟩ := exists_of_forall₂_right hown (mem_own.mpr ⟨hf, hmark⟩)
        cases hef with
        | value k h => exact ih _ (mem_own.mp he).1 h

end Below

/-! ## Setting an entry -/

section SetEntry

variable {es fs : List (Value × Linked)} {name : String} {l l' m : Linked} {b n : Nat}

/-- An entry with another value, if it has the key of a field. -/
def revalue (name : String) (l : Linked) (e : Value × Linked) : Value × Linked :=
  if keyNames e.1 name then (e.1, l) else e

theorem setEntry_of_mem (hl : (.text name, l) ∈ es) :
    Value.setEntry es (.text name) l' = es.map (revalue name l') := by
  have hany : es.any (fun e => keyNames e.1 name) = true :=
    List.any_eq_true.mpr ⟨_, hl, keyNames_iff.mpr rfl⟩
  unfold Value.setEntry
  simp only [Value.sameKey_text]
  rw [if_pos hany]
  rfl

theorem setEntry_of_notMem (h : ∀ l, (.text name, l) ∉ es) :
    Value.setEntry es (.text name) l' = es ++ [(.text name, l')] := by
  have hany : ¬es.any (fun e => keyNames e.1 name) = true := by
    intro hany
    obtain ⟨e, he, hkey⟩ := List.any_eq_true.mp hany
    exact h e.2 (by rw [← keyNames_iff.mp hkey]; exact he)
  unfold Value.setEntry
  simp only [Value.sameKey_text]
  rw [if_neg hany]

/-- What has been set is there. -/
theorem mem_setEntry_self (es : List (Value × Linked)) (name : String) (l' : Linked) :
    (.text name, l') ∈ Value.setEntry es (.text name) l' := by
  by_cases h : ∃ l, (.text name, l) ∈ es
  · obtain ⟨l, hl⟩ := h
    rw [setEntry_of_mem hl]
    exact List.mem_map.mpr ⟨_, hl, by rw [revalue, if_pos (keyNames_iff.mpr rfl)]⟩
  · rw [setEntry_of_notMem (fun l hl => h ⟨l, hl⟩)]
    exact List.mem_append_right _ (List.mem_singleton_self _)

theorem keys_revalue (es : List (Value × Linked)) (name : String) (l : Linked) :
    (es.map (revalue name l)).map Prod.fst = es.map Prod.fst := by
  rw [List.map_map]
  refine List.map_congr_left (fun e _ => ?_)
  show (if _ then _ else _ : Value × Linked).1 = e.1
  split <;> rfl

theorem Keyed.setEntry (h : Keyed es) (name : String) (l' : Linked) :
    Keyed (Value.setEntry es (.text name) l') := by
  by_cases hnew : ∃ l, (.text name, l) ∈ es
  · obtain ⟨l, hl⟩ := hnew
    rw [setEntry_of_mem hl, Keyed, keys_revalue]
    exact h
  · rw [setEntry_of_notMem (fun l hl => hnew ⟨l, hl⟩), Keyed, List.map_append,
      List.filterMap_append]
    refine List.nodup_append.mpr ⟨h, List.pairwise_singleton _ name, ?_⟩
    rintro _ ha b hb rfl
    cases List.mem_singleton.mp hb
    obtain ⟨k, hk, hname⟩ := List.mem_filterMap.mp ha
    obtain ⟨e, he, rfl⟩ := List.mem_map.mp hk
    refine hnew ⟨e.2, ?_⟩
    rw [← keyNames_iff.mp (show keyNames e.1 name = true from ?_)]
    · exact he
    · cases hk : e.1 <;> rw [hk] at hname <;> cases hname
      exact keyNames_iff.mpr rfl

section Revalue

variable (hes : Keyed es) (hl : (.text name, l) ∈ es) (hll' : l.Below l')

include hes hl hll'

/-- A value above that of an entry makes no mark of it, nor of a mark anything else. -/
theorem isMark_revalue {e : Value × Linked} (he : e ∈ es) :
    isMark (revalue name l' e) = isMark e ∧ (isMark e = true → revalue name l' e = e) := by
  unfold revalue
  split
  next hkey =>
    obtain ⟨k, m⟩ := e
    cases keyNames_iff.mp hkey
    cases hes.unique hl he
    refine ⟨Bool.eq_iff_iff.mpr (isMark_text.trans (hll'.eq_absent.symm.trans isMark_text.symm)),
      fun hmark => ?_⟩
    cases isMark_text.mp hmark
    rw [hll'.eq_absent.mp rfl]
  next => exact ⟨rfl, fun _ => rfl⟩

theorem own_revalue : own (es.map (revalue name l')) = (own es).map (revalue name l') := by
  unfold own
  rw [List.filter_map]
  refine congrArg _ (List.filter_congr (fun e he => ?_))
  rw [Function.comp_apply, (isMark_revalue hes hl hll' he).1]

theorem isMark_mem_revalue {e : Value × Linked} (hmark : isMark e = true) :
    e ∈ es.map (revalue name l') ↔ e ∈ es := by
  constructor
  · intro he
    obtain ⟨e', he', rfl⟩ := List.mem_map.mp he
    obtain ⟨hsame, hkeep⟩ := isMark_revalue hes hl hll' he'
    rw [hkeep (hsame.symm.trans hmark)]
    exact he'
  · exact fun he => List.mem_map.mpr ⟨e, he, (isMark_revalue hes hl hll' he).2 hmark⟩

end Revalue

variable (hl : (Value.entry? es (.text name)).getD (.atom .absent) = l) (hll' : l.Below l')

include hl hll'

/-- **Setting a value above that of an entry** leads to a map above, and so does a new mark. -/
theorem Fits.below_setEntry (hes : (Linked.map es).Fits b n) :
    (Linked.map es).Below (.map (Value.setEntry es (.text name) l')) := by
  have hrefl := hes.refl
  cases hes with
  | map hkeys _ =>
    cases hrefl with
    | map _ _ _ hown =>
      by_cases hnew : ∃ l, (.text name, l) ∈ es
      · obtain ⟨l₀, hl₀⟩ := hnew
        rw [hkeys.entry?_eq hl₀, Option.getD_some] at hl
        subst hl
        refine .map hkeys (hkeys.setEntry name l') (fun e he hmark => ?_) ?_
        · rw [setEntry_of_mem hl₀, isMark_mem_revalue hkeys hl₀ hll' hmark]
          exact he
        · rw [setEntry_of_mem hl₀, own_revalue hkeys hl₀ hll', List.forall₂_map_right_iff]
          refine List.forall₂_same.mpr (fun e he => ?_)
          unfold revalue
          split
          next hkey =>
            obtain ⟨k, m⟩ := e
            cases keyNames_iff.mp hkey
            cases hkeys.unique hl₀ (mem_own.mp he).1
            exact .value _ hll'
          next => exact List.forall₂_same.mp hown e he
      · have hnew : ∀ l, (.text name, l) ∉ es := fun l hl => hnew ⟨l, hl⟩
        rw [entry?_eq_none hnew, Option.getD_none] at hl
        subst hl
        cases hll'.eq_absent.mp rfl
        refine .map hkeys (hkeys.setEntry name _) (fun e he _ => ?_) ?_
        · rw [setEntry_of_notMem hnew]
          exact List.mem_append_left _ he
        · rw [setEntry_of_notMem hnew, own_concat_mark]
          exact hown

/-- **A map above another** is above it still when an entry has been set to what is below its own.
-/
theorem Below.setEntry (h : (Linked.map es).Below (.map fs)) (hm : (.text name, m) ∈ fs)
    (hlm : l'.Below m) : (Linked.map (Value.setEntry es (.text name) l')).Below (.map fs) := by
  cases h with
  | map hes hfs hmarks hown =>
    by_cases hnew : ∃ l, (.text name, l) ∈ es
    · obtain ⟨l₀, hl₀⟩ := hnew
      rw [hes.entry?_eq hl₀, Option.getD_some] at hl
      subst hl
      refine .map (hes.setEntry name l') hfs (fun e he hmark => ?_) ?_
      · rw [setEntry_of_mem hl₀, isMark_mem_revalue hes hl₀ hll' hmark] at he
        exact hmarks e he hmark
      · rw [setEntry_of_mem hl₀, own_revalue hes hl₀ hll', List.forall₂_map_left_iff]
        refine (forall₂_of_mem hown).imp ?_
        rintro _ _ ⟨-, hf, ⟨k, h⟩⟩
        unfold revalue
        split
        next hkey =>
          cases keyNames_iff.mp hkey
          cases hfs.unique hm (mem_own.mp hf).1
          exact .value _ hlm
        next => exact .value k h
    · have hnew : ∀ l, (.text name, l) ∉ es := fun l hl => hnew ⟨l, hl⟩
      rw [entry?_eq_none hnew, Option.getD_none] at hl
      subst hl
      cases hll'.eq_absent.mp rfl
      cases hlm.eq_absent.mp rfl
      refine .map (hes.setEntry name _) hfs (fun e he hmark => ?_) ?_
      · rw [setEntry_of_notMem hnew] at he
        rcases List.mem_append.mp he with he | he
        · exact hmarks e he hmark
        · rw [List.mem_singleton.mp he]
          exact hm
      · rw [setEntry_of_notMem hnew, own_concat_mark]
        exact hown

end SetEntry

end Linked

/-- **Cells each below another's.** -/
abbrev Cells.Below (cells cells' : Cells) : Prop := List.Forall₂ Linked.Below cells cells'

/-- **Cells of a default**: each holds what a default may give, with the addresses of later cells
only. -/
def Cells.Layered (cells : Cells) : Prop :=
  ∀ (i : Nat) (l : Linked), cells[i]? = some l → l.Fits (i + 1) cells.length

namespace Cells

variable {cells cells' cells'' : Cells}

theorem Below.trans (h : cells.Below cells') (h' : cells'.Below cells'') : cells.Below cells'' :=
  forall₂_trans_of_mem h h' (fun _ _ _ _ => Linked.Below.trans)

theorem Layered.refl (h : cells.Layered) : cells.Below cells := by
  refine List.forall₂_same.mpr (fun l hl => ?_)
  obtain ⟨i, hi⟩ := List.getElem?_of_mem hl
  exact (h i l hi).refl

/-- A cell may be given what is above what it has held. -/
theorem Below.set (h : cells.Below cells') {a : Nat} {m : Linked}
    (hm : ∀ l, cells[a]? = some l → l.Below m) : cells.Below (cells'.set a m) := by
  induction h generalizing a with
  | nil => exact .nil
  | cons hlm h ih =>
    cases a with
    | zero => exact .cons (hm _ rfl) h
    | succ a => exact .cons hlm (ih hm)

theorem Below.set_left (h : cells.Below cells') {a : Nat} {l : Linked}
    (hl : ∀ m, cells'[a]? = some m → l.Below m) : Cells.Below (cells.set a l) cells' := by
  induction h generalizing a with
  | nil => exact .nil
  | cons hlm h ih =>
    cases a with
    | zero => exact .cons (hl _ rfl) h
    | succ a => exact .cons hlm (ih hl)

theorem Below.layered (h : cells.Below cells') (hcells : cells.Layered) : cells'.Layered := by
  intro i m hm
  have hrel := rel_getElem? h i
  rw [hm] at hrel
  rw [← h.length_eq]
  generalize hl : cells[i]? = found at hrel
  cases hrel with
  | some hlm => exact hlm.fits (hcells i _ hl)

end Cells

/-! ## Defaults in cells -/

namespace Value

variable {address? : Path → Option Nat} {b n : Nat}

theorem keys_linkedEntries (address? : Path → Option Nat) (path : Path)
    (es : List (Value × Value)) :
    (linkedEntries address? path es).map Prod.fst = es.map Prod.fst := by
  induction es with
  | nil => rfl
  | cons e es ih => exact congrArg (e.1 :: ·) ih

section Addresses

variable (haddress : ∀ path a, address? path = some a → b ≤ a ∧ a < n)

include haddress

theorem fits_elim {l : Linked} (hl : l.Fits b n) (path : Path) :
    ((address? path).elim l .cell).Fits b n := by
  cases h : address? path with
  | none => exact hl
  | some a => exact .cell (haddress path a h).1 (haddress path a h).2

theorem fits_linkedItems {vs : List Value}
    (h : ∀ v ∈ vs, ∀ path, (v.linked address? path).Fits b n) (path : Path) (index : Nat) :
    ∀ l ∈ linkedItems address? path index vs, l.Fits b n := by
  induction vs generalizing index with
  | nil => exact List.forall_mem_nil _
  | cons v vs ih =>
    rw [List.forall_mem_cons] at h
    exact List.forall_mem_cons.mpr ⟨fits_elim haddress (h.1 _) _, ih h.2 (index + 1)⟩

theorem fits_linkedEntries {es : List (Value × Value)}
    (h : ∀ e ∈ es, ∀ path, (e.2.linked address? path).Fits b n) (path : Path) :
    ∀ e ∈ linkedEntries address? path es, e.2.Fits b n := by
  induction es with
  | nil => exact List.forall_mem_nil _
  | cons e es ih =>
    rw [List.forall_mem_cons] at h
    exact List.forall_mem_cons.mpr ⟨fits_elim haddress (h.1 _) _, ih h.2⟩

/-- **A default with distinct text keys and no tuple** fits, linked. -/
theorem Untupled.fits_linked {v : Value} (h : v.Untupled isKeyed) (path : Path) :
    (v.linked address? path).Fits b n := by
  induction v using members_induction generalizing path with
  | map es ih =>
    refine .map ?_ (fits_linkedEntries haddress (fun e he => ih e he (h.entry he)) path)
    rw [Linked.Keyed, keys_linkedEntries, ← textKeys_eq]
    exact (testsKeys_isKeyed.map_iff.mp h.leaves).1
  | list vs ih =>
    exact .list (fits_linkedItems haddress (fun v hv => ih v hv (h.item hv)) path 0)
  | other v hleaf =>
    cases v with
    | map es => cases hleaf
    | list vs => cases hleaf
    | tuple vs =>
      rcases h.untupled with h | h
      · cases h
      · exact absurd (h (.map [(.text "", .null), (.text "", .null)])) (by decide)
    | _ => exact .atom rfl

theorem Untupled.fits_body {v : Value} (h : v.Untupled isKeyed) (path : Path) :
    (v.body address? path).Fits b n := by
  unfold body
  cases hw : v.at? path with
  | none => exact .atom rfl
  | some w =>
    have hw := (h.at? hw).fits_linked haddress path
    cases w with
    | list vs => exact hw
    | tuple vs => cases hw
    | map es => exact hw
    | _ => exact .atom rfl

end Addresses

theorem lt_of_cellAt? {s : Sharing} {index a : Nat} {place : Path}
    (h : cellAt? s 0 index place = some a) : index ≤ a ∧ a < s.length := by
  obtain ⟨i, hi, h⟩ := Option.bind_eq_some_iff.mp h
  have hlength := (List.findIdx?_eq_some_iff_getElem.mp hi).1
  split at h
  · cases h
    rw [Nat.zero_add]
    exact ⟨by assumption, hlength⟩
  · cases h

/-- **A default is put into cells** that lie one behind the other. -/
theorem Untupled.layered_place {d : Value} (h : d.Untupled isKeyed) (s : Sharing) :
    Cells.Layered ((d.place s).run []).2 ∧
      ((d.place s).run []).1.Fits 0 ((d.place s).run []).2.length := by
  have hcells : ((d.place s).run []).2 =
      s.zipIdx.map fun e => d.body (cellAt? s 0 (e.2 + 1)) (e.1.headD []) := rfl
  have hlength : ((d.place s).run []).2.length = s.length := by
    rw [hcells, List.length_map, List.length_zipIdx]
  refine ⟨fun i l hl => ?_, ?_⟩
  · rw [hlength]
    rw [hcells, List.getElem?_map, List.getElem?_zipIdx] at hl
    obtain ⟨e, he, rfl⟩ := Option.map_eq_some_iff.mp hl
    obtain ⟨places, -, rfl⟩ := Option.map_eq_some_iff.mp he
    dsimp only
    rw [Nat.zero_add]
    exact h.fits_body (fun _ _ => lt_of_cellAt?) _
  · rw [hlength]
    exact h.fits_linked (fun _ _ => lt_of_cellAt?) []

end Value

end Conform
