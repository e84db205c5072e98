import Conform.Proofs.Marking
import Conform.Proofs.Rules

/-!
# Working copies of what is given

Data may hold tuples, arrays, columns, tables and typed scalars, and its working copy none of them
(`Value.isCopied_of_plain`). What is asked of the data for this is what such data is made of: the
text keys of a map are distinct, and the elements of a typed array, of a column or of a typed scalar
are single data unless their type is that of objects (`Value.isGiven`).
-/

namespace Conform.Value

/-! ## What may be given -/

/-- Whether a value is a single datum, no container and no columnar data. -/
def isDatum (v : Value) : Bool := v.isCopied && !v.isContainer

mutual
/-- **Whether a value may be given as data.** -/
def isGiven : Value → Bool
  | .map es => decide (textKeys es).Nodup && givenEntries es
  | .list vs => givenItems vs
  | .tuple vs => givenItems vs
  | .scalar _ v => v.isDatum
  | .array type (.list items) => givenElements type items
  | .array type (.tuple items) => givenElements type items
  | .array .object (.map entries) => givenKeys entries
  | .series type items => givenColumn type items
  | .table columns => givenColumns columns
  | .foreign _ => false
  | _ => true

/-- Whether the items of a list may be given. -/
def givenItems : List Value → Bool
  | [] => true
  | v :: vs => isGiven v && givenItems vs

/-- Whether the values of a map may be given. -/
def givenEntries : List (Value × Value) → Bool
  | [] => true
  | (_, v) :: es => isGiven v && givenEntries es

/-- Whether the keys of a map may be given as items. -/
def givenKeys : List (Value × Value) → Bool
  | [] => true
  | (k, _) :: es => isGiven k && givenKeys es

/-- Whether the elements of an array may be given. -/
def givenElements (type : ElementType) : List Value → Bool
  | [] => true
  | .list items :: vs => givenElements type items && givenElements type vs
  | v :: vs => (if type = .object then isGiven v else v.isDatum) && givenElements type vs

/-- Whether the items of a column may be given. -/
def givenColumn (type : ElementType) : List Value → Bool
  | [] => true
  | v :: vs => (if type = .object then isGiven v else v.isDatum) && givenColumn type vs

/-- Whether the columns of a table may be given. -/
def givenColumns : List (String × ElementType × List Value) → Bool
  | [] => true
  | (_, type, items) :: cs => givenColumn type items && givenColumns cs
end

/-! ## Elements -/

section Elements

variable {v : Value}

theorem isCopied_of_isDatum (h : v.isDatum = true) : v.everywhere isCopied = true := by
  obtain ⟨hcopied, hleaf⟩ := Bool.and_eq_true_iff.mp h
  cases v with
  | map es => cases hleaf
  | list vs => cases hleaf
  | _ => exact hcopied

theorem isDatum_integerElement (h : v.isDatum = true) : (integerElement v).isDatum = true := by
  cases v with
  | number n =>
    cases n with
    | int n => rfl
    | float x =>
      rw [integerElement]
      cases x.truncate? <;> rfl
  | bool b => rfl
  | _ => exact h

theorem isDatum_doubleElement (h : v.isDatum = true) : (doubleElement v).isDatum = true := by
  cases v with
  | number n =>
    cases n with
    | int n => rfl
    | float x => cases x <;> rfl
  | bool b => rfl
  | null => rfl
  | _ => exact h

theorem isDatum_truthElement (h : v.isDatum = true) : (truthElement v).isDatum = true := by
  cases v with
  | number n => rfl
  | text s => rfl
  | null => rfl
  | _ => exact h

theorem isDatum_momentOfText (unit : MomentUnit) (s : String) :
    (momentOfText unit s).isDatum = true := by
  unfold momentOfText
  cases dateTimeOfText? s with
  | none => rfl
  | some t =>
    cases unit with
    | asWritten =>
      dsimp only
      split <;> rfl
    | _ => rfl

/-- **An element of a datum is a datum.** -/
theorem isDatum_element (type : ElementType) (h : v.isDatum = true) :
    (element type v).isDatum = true := by
  cases type with
  | integer => exact isDatum_integerElement h
  | double => exact isDatum_doubleElement h
  | single =>
    have hdouble := isDatum_doubleElement h
    unfold element
    dsimp only
    generalize doubleElement v = w at hdouble
    cases w with
    | number n => cases n <;> rfl
    | _ => exact hdouble
  | truth => exact isDatum_truthElement h
  | text => rfl
  | object => exact h
  | moment unit =>
    cases v with
    | text s => exact isDatum_momentOfText unit s
    | _ => rfl

theorem isDatum_columnElement (type : ElementType) (h : v.isDatum = true) :
    (columnElement type v).isDatum = true := by
  unfold columnElement
  split
  next s =>
    cases dateTimeOfText? s <;> rfl
  next => exact isDatum_element _ h

theorem isCopied_tableItem (type : ElementType) (h : v.everywhere isCopied = true) :
    (tableItem type v).everywhere isCopied = true := by
  unfold tableItem
  split
  · rfl
  · exact h

end Elements

/-! ## Rows of a table -/

/-- Setting an entry repeats no text key. -/
theorem isCopied_setEntry {es : List (Value × Value)} {name : String} {v : Value}
    (hes : (map es).everywhere isCopied = true) (hv : v.everywhere isCopied = true) :
    (map (setEntry es (.text name) v)).everywhere isCopied = true := by
  obtain ⟨hkeys, hes⟩ := isCopied_map_iff.mp hes
  refine isCopied_map_iff.mpr ⟨?_, fun e he => ?_⟩
  · rw [setEntry_eq]
    cases hkey : hasKey es name with
    | true =>
      rw [if_pos rfl, textKeys_map]
      exact hkeys
    | false =>
      rw [if_neg (by simp), textKeys_append]
      refine List.nodup_append.mpr ⟨hkeys, List.pairwise_singleton _ name, fun a ha b hb hab => ?_⟩
      rw [hab, List.mem_singleton.mp hb, ← hasKey_iff, hkey] at ha
      cases ha
  · rcases mem_setEntry he with he | he
    · exact hes e he
    · rw [he]
      exact hv

/-- **A row of working copies is a working copy.** -/
theorem isCopied_ofEntries (es : List (String × Value))
    (h : ∀ e ∈ es, e.2.everywhere isCopied = true) :
    (ofEntries (es.map (fun e => (.text e.1, e.2)))).everywhere isCopied = true := by
  have hfold : ∀ (rest : List (String × Value)) (found : List (Value × Value)),
      (∀ e ∈ rest, e.2.everywhere isCopied = true) → (map found).everywhere isCopied = true →
      (map ((rest.map (fun e => ((.text e.1 : Value), e.2))).foldl
        (fun es e => setEntry es e.1 e.2) found)).everywhere isCopied = true := by
    intro rest
    induction rest with
    | nil => exact fun _ _ hfound => hfound
    | cons e rest ih =>
      intro found hrest hfound
      rw [List.forall_mem_cons] at hrest
      exact ih _ hrest.2 (isCopied_setEntry hfound hrest.1)
  exact hfold es [] h rfl

/-- The rows of columns of working copies. -/
theorem isCopied_rows {columns : List (String × List Value)}
    (h : ∀ column ∈ columns, ∀ v ∈ column.2, v.everywhere isCopied = true) :
    ∀ row ∈ rows columns, row.everywhere isCopied = true := by
  intro row hrow
  cases columns with
  | nil => cases hrow
  | cons first columns =>
    obtain ⟨i, -, rfl⟩ := List.mem_map.mp hrow
    have hcells := isCopied_ofEntries
      ((first :: columns).map (fun column => (column.1, (column.2[i]?).getD .null))) (fun e he => by
        obtain ⟨column, hcolumn, rfl⟩ := List.mem_map.mp he
        cases hcell : column.2[i]? with
        | none => rfl
        | some v => exact h column hcolumn v (List.mem_of_getElem? hcell))
    rwa [List.map_map] at hcells

/-! ## Working copies -/

theorem isCopied_charactersOf (s : String) :
    (list (charactersOf s)).everywhere isCopied = true := by
  refine isCopied_list_iff.mpr (fun c hc => ?_)
  obtain ⟨_, -, rfl⟩ := List.mem_map.mp hc
  rfl

open Checked

/-- The first of some elements is copied if their type is that of objects, and else converted. -/
theorem isCopied_of_first {type : ElementType} {v : Value} {g : Value → Value}
    {tail : Except NotIterable (List Value)} {ws : List Value}
    (hv : (if type = ElementType.object then v.isGiven else v.isDatum) = true)
    (hplain : ∀ w, v.isGiven = true → v.plain = .ok w → w.everywhere isCopied = true)
    (hdatum : v.isDatum = true → (g v).isDatum = true)
    (htail : ∀ rest, tail = .ok rest → ∀ w ∈ rest, w.everywhere isCopied = true)
    (h : (do
      let first ← if type = ElementType.object then v.plain else pure (g v)
      return first :: (← tail)) = .ok ws) : ∀ w ∈ ws, w.everywhere isCopied = true := by
  split at h
  next htype =>
    rw [if_pos htype] at hv
    obtain ⟨w, hw, h⟩ := bind_eq_ok.mp h
    obtain ⟨rest, hrest, h⟩ := bind_eq_ok.mp h
    cases h
    exact List.forall_mem_cons.mpr ⟨hplain w hv hw, htail rest hrest⟩
  next htype =>
    rw [if_neg htype] at hv
    obtain ⟨_, ⟨⟩, h⟩ := bind_eq_ok.mp h
    obtain ⟨rest, hrest, h⟩ := bind_eq_ok.mp h
    cases h
    exact List.forall_mem_cons.mpr ⟨isCopied_of_isDatum (hdatum hv), htail rest hrest⟩

/-- An array without dimensions has the characters of its text as items, or there is no copy. -/
theorem isCopied_of_scalar_array {type : ElementType} {v w : Value}
    (hlist : ∀ items, v ≠ .list items) (htuple : ∀ items, v ≠ .tuple items)
    (hmap : ∀ es, type = .object → v ≠ .map es) (hw : (array type v).plain = .ok w) :
    w.everywhere isCopied = true := by
  rw [plain] at hw
  · split at hw <;> cases hw
    exact isCopied_charactersOf _
  · exact hlist
  · exact htuple
  · exact hmap

/-- An element of an array that is no further dimension. -/
theorem isCopied_of_plainElements_cons {type : ElementType} {v : Value} {vs ws : List Value}
    (hlist : ∀ items, v ≠ .list items)
    (hself : ∀ w, v.isGiven = true → v.plain = .ok w → w.everywhere isCopied = true)
    (hrest : ∀ rest, givenElements type vs = true → plainElements type vs = .ok rest →
      ∀ w ∈ rest, w.everywhere isCopied = true)
    (h : givenElements type (v :: vs) = true) (hws : plainElements type (v :: vs) = .ok ws) :
    ∀ w ∈ ws, w.everywhere isCopied = true := by
  have hgiven : givenElements type (v :: vs) =
      ((if type = .object then v.isGiven else v.isDatum) && givenElements type vs) := by
    rw [givenElements]
    exact hlist
  have hplain : plainElements type (v :: vs) = (do
      let first ← if type = .object then v.plain else pure (element type v)
      return first :: (← plainElements type vs)) := by
    rw [plainElements]
    exact hlist
  rw [hgiven, Bool.and_eq_true] at h
  rw [hplain] at hws
  exact isCopied_of_first (g := element type) h.1 hself (isDatum_element type)
    (fun rest => hrest rest h.2) hws

mutual

/-- **The working copy of what is given** has no containers but maps and lists, and the text keys of
a map are distinct. -/
theorem isCopied_of_plain : ∀ (v w : Value), v.isGiven = true → v.plain = .ok w →
    w.everywhere isCopied = true
  | .map es, w, h, hw => by
    obtain ⟨hkeys, hgiven⟩ := Bool.and_eq_true_iff.mp h
    obtain ⟨es', hes', rfl⟩ := map_eq_ok.mp hw
    obtain ⟨hsame, hes⟩ := isCopied_of_plainEntries es es' hgiven hes'
    refine isCopied_map_iff.mpr ⟨?_, hes⟩
    rw [textKeys_eq, hsame, ← textKeys_eq]
    exact of_decide_eq_true hkeys
  | .list vs, w, h, hw => by
    obtain ⟨ws, hws, rfl⟩ := map_eq_ok.mp hw
    exact isCopied_list_iff.mpr (isCopied_of_plainItems vs ws h hws)
  | .tuple vs, w, h, hw => by
    obtain ⟨ws, hws, rfl⟩ := map_eq_ok.mp hw
    exact isCopied_list_iff.mpr (isCopied_of_plainItems vs ws h hws)
  | .scalar type v, w, h, hw => by
    cases hw
    exact isCopied_of_isDatum (isDatum_element type h)
  | .series type vs, w, h, hw => by
    obtain ⟨ws, hws, rfl⟩ := map_eq_ok.mp hw
    exact isCopied_list_iff.mpr (isCopied_of_plainColumn type vs ws h hws)
  | .table columns, w, h, hw => by
    obtain ⟨cs, hcs, rfl⟩ := map_eq_ok.mp hw
    exact isCopied_list_iff.mpr (isCopied_rows (isCopied_of_plainColumns columns cs h hcs))
  | .array type v, w, h, hw => by
    cases v with
    | list items =>
      obtain ⟨ws, hws, rfl⟩ := map_eq_ok.mp hw
      exact isCopied_list_iff.mpr (isCopied_of_plainElements type items ws h hws)
    | tuple items =>
      obtain ⟨ws, hws, rfl⟩ := map_eq_ok.mp hw
      exact isCopied_list_iff.mpr (isCopied_of_plainElements type items ws h hws)
    | map es =>
      by_cases htype : type = .object
      · subst htype
        obtain ⟨ws, hws, rfl⟩ := map_eq_ok.mp hw
        exact isCopied_list_iff.mpr (isCopied_of_plainKeys es ws h hws)
      · exact isCopied_of_scalar_array (by simp) (by simp)
          (fun _ hobject => absurd hobject htype) hw
    | _ => exact isCopied_of_scalar_array (by simp) (by simp) (by simp) hw
  | .null, _, _, hw | .bool _, _, _, hw | .number _, _, _, hw | .text _, _, _, hw
  | .bytes _, _, _, hw | .date _, _, _, hw | .dateTime _, _, _, hw | .absent, _, _, hw
  | .set _, _, _, hw | .noMoment, _, _, hw | .timestamp _, _, _, hw => by
    cases hw
    rfl

theorem isCopied_of_plainItems : ∀ (vs ws : List Value), givenItems vs = true →
    plainItems vs = .ok ws → ∀ w ∈ ws, w.everywhere isCopied = true
  | [], ws, _, hws => by
    cases hws
    exact nofun
  | v :: vs, ws, h, hws => by
    obtain ⟨hv, hvs⟩ := Bool.and_eq_true_iff.mp h
    obtain ⟨w, hw, hws⟩ := bind_eq_ok.mp hws
    obtain ⟨rest, hrest, hws⟩ := bind_eq_ok.mp hws
    cases hws
    exact List.forall_mem_cons.mpr
      ⟨isCopied_of_plain v w hv hw, isCopied_of_plainItems vs rest hvs hrest⟩

theorem isCopied_of_plainEntries : ∀ (es es' : List (Value × Value)), givenEntries es = true →
    plainEntries es = .ok es' → es'.map Prod.fst = es.map Prod.fst ∧
      ∀ e ∈ es', e.2.everywhere isCopied = true
  | [], es', _, hes => by
    cases hes
    exact ⟨rfl, nofun⟩
  | (k, v) :: es, es', h, hes => by
    obtain ⟨hv, hvs⟩ := Bool.and_eq_true_iff.mp h
    obtain ⟨w, hw, hes⟩ := bind_eq_ok.mp hes
    obtain ⟨rest, hrest, hes⟩ := bind_eq_ok.mp hes
    cases hes
    obtain ⟨hkeys, hmem⟩ := isCopied_of_plainEntries es rest hvs hrest
    exact ⟨by rw [List.map_cons, List.map_cons, hkeys],
      List.forall_mem_cons.mpr ⟨isCopied_of_plain v w hv hw, hmem⟩⟩

theorem isCopied_of_plainKeys : ∀ (es : List (Value × Value)) (ws : List Value),
    givenKeys es = true → plainKeys es = .ok ws → ∀ w ∈ ws, w.everywhere isCopied = true
  | [], ws, _, hws => by
    cases hws
    exact nofun
  | (k, v) :: es, ws, h, hws => by
    obtain ⟨hk, hes⟩ := Bool.and_eq_true_iff.mp h
    obtain ⟨w, hw, hws⟩ := bind_eq_ok.mp hws
    obtain ⟨rest, hrest, hws⟩ := bind_eq_ok.mp hws
    cases hws
    exact List.forall_mem_cons.mpr
      ⟨isCopied_of_plain k w hk hw, isCopied_of_plainKeys es rest hes hrest⟩

theorem isCopied_of_plainElements (type : ElementType) : ∀ (vs ws : List Value),
    givenElements type vs = true → plainElements type vs = .ok ws →
    ∀ w ∈ ws, w.everywhere isCopied = true
  | [], ws, _, hws => by
    cases hws
    exact nofun
  | v :: vs, ws, h, hws => by
    have hself := isCopied_of_plain v
    have hrest := isCopied_of_plainElements type vs
    cases v with
    | list items =>
      obtain ⟨hitems, hvs⟩ := Bool.and_eq_true_iff.mp h
      obtain ⟨xs, hxs, hws⟩ := bind_eq_ok.mp hws
      obtain ⟨rest, htail, hws⟩ := bind_eq_ok.mp hws
      cases hws
      exact List.forall_mem_cons.mpr
        ⟨isCopied_list_iff.mpr (isCopied_of_plainElements type items xs hitems hxs),
          hrest rest hvs htail⟩
    | _ => exact isCopied_of_plainElements_cons (by simp) hself hrest h hws

theorem isCopied_of_plainColumn (type : ElementType) : ∀ (vs ws : List Value),
    givenColumn type vs = true → plainColumn type vs = .ok ws →
    ∀ w ∈ ws, w.everywhere isCopied = true
  | [], ws, _, hws => by
    cases hws
    exact nofun
  | v :: vs, ws, h, hws => by
    obtain ⟨hv, hvs⟩ := Bool.and_eq_true_iff.mp h
    unfold plainColumn at hws
    exact isCopied_of_first (g := columnElement type) hv (fun w => isCopied_of_plain v w)
      (isDatum_columnElement type) (fun rest => isCopied_of_plainColumn type vs rest hvs) hws

theorem isCopied_of_plainColumns : ∀ (columns : List (String × ElementType × List Value))
    (cs : List (String × List Value)), givenColumns columns = true →
    plainColumns columns = .ok cs → ∀ c ∈ cs, ∀ w ∈ c.2, w.everywhere isCopied = true
  | [], cs, _, hcs => by
    cases hcs
    exact nofun
  | (name, type, items) :: columns, cs, h, hcs => by
    obtain ⟨hitems, hcolumns⟩ := Bool.and_eq_true_iff.mp h
    obtain ⟨ws, hws, hcs⟩ := bind_eq_ok.mp hcs
    obtain ⟨rest, hrest, hcs⟩ := bind_eq_ok.mp hcs
    cases hcs
    refine List.forall_mem_cons.mpr
      ⟨fun w hw => ?_, isCopied_of_plainColumns columns rest hcolumns hrest⟩
    obtain ⟨v, hv, rfl⟩ := List.mem_map.mp hw
    exact isCopied_tableItem type (isCopied_of_plainColumn type items ws hitems hws v hv)

end

end Conform.Value
