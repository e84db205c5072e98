import Conform.Proofs.Markers
import Conform.Proofs.Settled

/-!
# What stays true of the keys

The result of a validation can be validated again without being copied first: it is its own working
copy (`Value.plain_eq_self`). It has no containers but maps and lists, and the text keys of a map
are distinct, for a walk takes entries out of a map but puts none in, and what marking puts in was
not there.

Every test that a map keeps passing when it loses entries, and a list whatever its items are,
outlasts a walk (`Value.Outlasts`), if marking does not break it in the defaults. Among these are
the tests that ask of a map just that its text keys are distinct (`Value.TestsKeys`):
`Value.isCopied`, and `Value.isKeyed`, which asks nothing of values other than maps.
-/

namespace Conform

namespace Value

/-! ## Tests that outlast a walk -/

/-- **A test that outlasts a walk**: a map that has lost entries passes it, and a list with other
items, if what is in them does, and so does what a check puts in the place of a value. -/
structure Outlasts (p : Value → Bool) : Prop where
  null : p .null = true
  text : ∀ s, p (.text s) = true
  dateTime : ∀ t, p (.dateTime t) = true
  map : ∀ {es es' : List (Value × Value)}, (Value.map es).everywhere p = true →
    (es'.map Prod.fst).Sublist (es.map Prod.fst) → (∀ e ∈ es', e.2.everywhere p = true) →
    (Value.map es').everywhere p = true
  list : ∀ {vs ws : List Value}, (Value.list vs).everywhere p = true →
    (∀ w ∈ ws, w.everywhere p = true) → (Value.list ws).everywhere p = true

namespace Outlasts

variable {p : Value → Bool} (hp : Outlasts p)

include hp

theorem withoutAbsent {v : Value} (h : v.everywhere p = true) :
    v.withoutAbsent.everywhere p = true := by
  induction v using members_induction with
  | map es ih =>
    refine hp.map h (keys_sublist_presentEntries es) (fun e he => ?_)
    obtain ⟨f, hf, -, rfl⟩ := exists_of_mem_presentEntries he
    exact ih f hf ((everywhere_map.mp h).2 f hf)
  | list vs ih =>
    refine hp.list h (fun w hw => ?_)
    obtain ⟨v, hv, -, rfl⟩ := exists_of_mem_presentItems hw
    exact ih v hv ((everywhere_list.mp h).2 v hv)
  | other v hleaf =>
    cases v with
    | map es => cases hleaf
    | list vs => cases hleaf
    | _ => exact h

variable {c : Course} {path : Path}

/-- Members that keep passing make up a value that does. -/
theorem walkMembers {member : Path → Value → Walk (Option Value)}
    (happends : ∀ path v, (member path v).Appends)
    (hmember : ∀ path v w, v.everywhere p = true →
      (member path v).Yields (some w) → w.everywhere p = true) {v w : Value}
    (hv : v.everywhere p = true) (h : (Course.walkMembers member path v).Yields w) :
    w.everywhere p = true := by
  cases v with
  | map es =>
    obtain ⟨es', hes', rfl⟩ := Walk.yields_map.mp h
    refine hp.map hv (Course.keys_sublist_of_walkEntries happends hes') (fun e he => ?_)
    obtain ⟨u, hu, hwalk⟩ := Course.exists_of_mem_walkEntries happends hes' he
    exact hmember _ _ _ ((everywhere_map.mp hv).2 _ hu) hwalk
  | list vs =>
    obtain ⟨vs', hvs', rfl⟩ := Walk.yields_map.mp h
    refine hp.list hv (fun w hw => ?_)
    obtain ⟨k, u, hu, hwalk⟩ := Course.exists_of_mem_walkItems happends hvs' hw
    exact hmember _ _ _ ((everywhere_list.mp hv).2 u hu) hwalk
  | _ =>
    cases Walk.yields_pure.mp h
    exact hv

/-- **What is left of a value after a walk** passes what the value and the marked defaults pass. -/
theorem walk (hdefaults : ∀ path t d, c.schema.locate path = some t →
      t.first.default? = some d → (t.seed d).everywhere p = true) {budget : Nat} {v w : Value}
    (hv : v.everywhere p = true) (h : (c.walk budget path v).Yields (some w)) :
    w.everywhere p = true := by
  induction budget generalizing path v w with
  | zero =>
    obtain ⟨u, hu, rfl⟩ := Option.map_eq_some_iff.mp (Walk.yields_pure.mp h)
    obtain ⟨rfl, -, -⟩ := Course.unknown_eq_some.mp hu
    exact hp.withoutAbsent hv
  | succ budget ih =>
    rcases Course.walk_succ_yields.mp h with ⟨h, -⟩ | ⟨x, x', hvisit, hmembers, hx'⟩
    · cases h
    cases hx'
    have hx : x.everywhere p = true :=
      Course.everywhere_of_visit hp.null hp.text hp.dateTime (hdefaults path) hvisit hv
    exact hp.walkMembers (c.appends_walk budget) (fun _ _ _ => ih) hx hmembers

theorem walkRoot (hdefaults : ∀ path t d, c.schema.locate path = some t →
      t.first.default? = some d → (t.seed d).everywhere p = true)
    {es : List (Value × Value)} {w : Value} (hes : (Value.map es).everywhere p = true)
    (h : (c.walkRoot es).Yields w) : w.everywhere p = true :=
  hp.walkMembers (c.appends_walk _) (fun _ _ _ => hp.walk hdefaults) hes h

end Outlasts

/-! ## Tests of keys -/

/-- Whether the text keys of a map are distinct; of other values nothing is asked. -/
def isKeyed : Value → Bool
  | .map es => decide (textKeys es).Nodup
  | _ => true

/-- **A test of keys.** -/
structure TestsKeys (p : Value → Bool) : Prop where
  map : ∀ es, p (.map es) = decide (textKeys es).Nodup
  list : ∀ vs, p (.list vs) = true
  null : p .null = true
  text : ∀ s, p (.text s) = true
  dateTime : ∀ t, p (.dateTime t) = true
  absent : p .absent = true

theorem testsKeys_isCopied : TestsKeys isCopied :=
  ⟨fun _ => rfl, fun _ => rfl, rfl, fun _ => rfl, fun _ => rfl, rfl⟩

theorem testsKeys_isKeyed : TestsKeys isKeyed :=
  ⟨fun _ => rfl, fun _ => rfl, rfl, fun _ => rfl, fun _ => rfl, rfl⟩

theorem isKeyed_of_isCopied {v : Value} (h : v.isCopied = true) : v.isKeyed = true := by
  cases v <;> first | exact h | rfl

/-- Some keys of a map are distinct where all are. -/
theorem nodup_textKeys_of_sublist {es fs : List (Value × Value)}
    (h : (es.map Prod.fst).Sublist (fs.map Prod.fst)) (hfs : (textKeys fs).Nodup) :
    (textKeys es).Nodup := by
  rw [textKeys_eq] at hfs ⊢
  exact hfs.sublist (h.filterMap _)

namespace TestsKeys

variable {p : Value → Bool} (hp : TestsKeys p)

include hp

theorem map_iff {es : List (Value × Value)} : (Value.map es).everywhere p = true ↔
    (textKeys es).Nodup ∧ ∀ e ∈ es, e.2.everywhere p = true := by
  rw [everywhere_map, hp.map]
  exact and_congr_left (fun _ => decide_eq_true_iff)

theorem list_iff {vs : List Value} : (Value.list vs).everywhere p = true ↔
    ∀ v ∈ vs, v.everywhere p = true := by
  rw [everywhere_list]
  exact ⟨fun h => h.2, fun h => ⟨hp.list vs, h⟩⟩

/-- A test of keys outlasts a walk, which puts no entry into a map. -/
theorem outlasts : Outlasts p where
  null := hp.null
  text := hp.text
  dateTime := hp.dateTime
  map h hkeys hes :=
    hp.map_iff.mpr ⟨nodup_textKeys_of_sublist hkeys (hp.map_iff.mp h).1, hes⟩
  list _ hvs := hp.list_iff.mpr hvs

theorem sortKeys {v : Value} (h : v.everywhere p = true) : v.sortKeys.everywhere p = true := by
  induction v using members_induction with
  | map es ih =>
    obtain ⟨hkeys, h⟩ := hp.map_iff.mp h
    refine hp.map_iff.mpr ⟨?_, fun e he => ?_⟩
    · have hperm := ((List.mergeSort_perm (sortValues es) entryLe).map Prod.fst).filterMap
        Violation.textOf?
      rw [textKeys_eq, hperm.nodup_iff, ← textKeys_eq, sortValues_eq_map, textKeys_map]
      exact hkeys
    · obtain ⟨v, hv, hsorted⟩ := mem_sortKeys_map.mp he
      rw [hsorted]
      exact ih _ hv (h _ hv)
  | list vs ih =>
    rw [Value.sortKeys, sortItems_eq_map]
    refine hp.list_iff.mpr (fun w hw => ?_)
    obtain ⟨v, hv, rfl⟩ := List.mem_map.mp hw
    exact ih v hv (hp.list_iff.mp h v hv)
  | other v hleaf =>
    cases v with
    | map es => cases hleaf
    | list vs => cases hleaf
    | _ => exact h

/-- **A marked map** has no text key twice: only fields that are missing are put in. -/
theorem mark {m : Marker} (hm : m.All TypeSpec.wellNamed) {v : Value}
    (h : v.everywhere p = true) : (m.mark v).everywhere p = true := by
  induction v using Value.members_induction generalizing m with
  | map es ih =>
    obtain ⟨hkeys, h⟩ := hp.map_iff.mp h
    rw [m.mark_map hm hkeys]
    refine hp.map_iff.mpr ⟨?_, fun e he => ?_⟩
    · rw [Value.textKeys_append, Value.textKeys_map]
      exact hm.nodup_missing hkeys
    · rcases List.mem_append.mp he with he | he
      · obtain ⟨f, hf, rfl⟩ := List.mem_map.mp he
        exact ih f hf (hm.atKey f.1) (h f hf)
      · rw [m.absent_of_mem_missing he]
        exact hp.absent
  | list vs ih =>
    rw [m.mark_list]
    refine hp.list_iff.mpr (fun w hw => ?_)
    obtain ⟨v, hv, rfl⟩ := List.mem_map.mp hw
    exact ih v hv hm.ofItems (hp.list_iff.mp h v hv)
  | other v hleaf => rwa [m.mark_of_leaf hleaf]

/-- **What is left of a value after a walk** has no text key twice, if it had none before. -/
theorem walkRoot {c : Course} (hnamed : c.schema.everyType TypeSpec.wellNamed = true)
    (hdefaults : c.schema.everyType (TypeSpec.defaultsPass p) = true)
    {es : List (Value × Value)} {w : Value} (hes : (Value.map es).everywhere p = true)
    (h : (c.walkRoot es).Yields w) : w.everywhere p = true := by
  refine hp.outlasts.walkRoot (fun path t d ht hd => ?_) hes h
  have hmark : Marker.All TypeSpec.wellNamed (some t) := by
    rintro u ⟨⟩
    exact Schema.everyType_of_locate hnamed ht
  exact hp.mark hmark (TypeSpec.everywhere_of_default (Schema.everyType_of_locate hdefaults ht) hd)

end TestsKeys

end Value

/-- **A marked working copy** is a working copy. -/
theorem Marker.isCopied_mark {m : Marker} (hm : m.All TypeSpec.wellNamed) {v : Value}
    (h : v.everywhere Value.isCopied = true) : (m.mark v).everywhere Value.isCopied = true :=
  Value.testsKeys_isCopied.mark hm h

end Conform
