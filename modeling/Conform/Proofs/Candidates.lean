import Conform.Proofs.Rules
import Conform.Validation.Walk

/-!
# What a type makes of a value

A value is checked against one candidate of its type: the first whose kind it fits, or the first of
all. `TypeSpec.Takes` says what comes of it, a null and a missing value included, and
`Course.apply_eq_ok_iff` that this is what a visit does.

The normal form of a value resolves to the candidate that has produced it
(`TypeSpec.resolve_of_accepts`). This needs an argument, for the normal form of a date that was
given as a text is no text any more: it fits fewer candidates than the text, but the one that has
accepted it still is the first. So a type that is a union admits what it has taken
(`TypeSpec.Takes.admits`), and takes again what it admits (`TypeSpec.Admits.takes`).
-/

namespace Conform

/-- Whether a node takes care of a value that is missing: it rejects it or has a default. -/
def Node.isAsked (n : Node) : Bool := n.required || n.default?.isSome

namespace TypeSpec

variable {t : TypeSpec} {v w : Value}

theorem first_mem (t : TypeSpec) : t.first ∈ t.candidates := by
  cases t <;> exact List.mem_cons_self

theorem getD_zero_candidates (t : TypeSpec) (n : Node) : t.candidates.getD 0 n = t.first := by
  cases t <;> rfl

@[simp] theorem resolve_absent (t : TypeSpec) : t.resolve .absent = t.first :=
  t.getD_zero_candidates t.first

/-- **The candidate of a value** is the first that it fits, or the first of all. -/
theorem resolve_eq (t : TypeSpec) (h : v ≠ .absent) :
    t.resolve v = (t.candidates.find? (fun n => n.matches v)).getD t.first := by
  have hindex : resolvedIndex t.candidates v =
      (t.candidates.findIdx? (fun n => n.matches v)).getD 0 := by
    cases v <;> first | rfl | exact absurd rfl h
  rw [resolve, hindex, List.find?_eq_bind_findIdx?_getElem?]
  cases hfind : t.candidates.findIdx? (fun n => n.matches v) with
  | none => exact t.getD_zero_candidates t.first
  | some i =>
    obtain ⟨hi, -⟩ := List.findIdx?_eq_some_iff_getElem.mp hfind
    simp [hi]

theorem resolve_mem (t : TypeSpec) (v : Value) : t.resolve v ∈ t.candidates := by
  by_cases h : v = .absent
  · rw [h, resolve_absent]
    exact t.first_mem
  · rw [t.resolve_eq h]
    cases hfind : t.candidates.find? (fun n => n.matches v) with
    | none => exact t.first_mem
    | some n => exact List.mem_of_find?_eq_some hfind

/-- What fits the same candidates resolves to the same. -/
theorem resolve_congr (hv : v ≠ .absent) (hw : w ≠ .absent)
    (h : ∀ n : Node, n.matches v = n.matches w) : t.resolve v = t.resolve w := by
  rw [t.resolve_eq hv, t.resolve_eq hw]
  simp only [h]

/-- **A normal form resolves to the candidate that has produced it.** -/
theorem resolve_of_accepts (h : (t.resolve v).Accepts v w) : t.resolve w = t.resolve v := by
  have hself := h.admits.matches
  have hnarrow : ∀ m : Node, m.matches w = true → m.matches v = true := fun m =>
    h.matches_of_matches
  rw [t.resolve_eq h.ne_absent] at hself ⊢
  rw [t.resolve_eq h.admits.ne_absent]
  cases hfind : t.candidates.find? (fun n => n.matches v) with
  | none =>
    have hnone := List.find?_eq_none.mp hfind
    have hw : t.candidates.find? (fun n => n.matches w) = none :=
      List.find?_eq_none.mpr (fun m hm hmw => hnone m hm (hnarrow m hmw))
    rw [hw]
  | some n =>
    rw [hfind] at hself
    obtain ⟨hn, before, after, hsplit, hbefore⟩ := List.find?_eq_some_iff_append.mp hfind
    have hw : t.candidates.find? (fun n => n.matches w) = some n := by
      refine List.find?_eq_some_iff_append.mpr ⟨hself, before, after, hsplit, fun m hm => ?_⟩
      have hmv := hbefore m hm
      cases hmw : m.matches w with
      | false => rfl
      | true => rw [hnarrow m hmw] at hmv; exact hmv
    rw [hw]

/-! ## Taking a value -/

/-- **What a type makes of a value that it takes**: its normal form, or nothing if it may be
missing. -/
inductive Takes (t : TypeSpec) : Value → Option Value → Prop
  | null (h : (t.resolve .null).acceptsNull = true) : Takes t .null (some .null)
  | present {v w : Value} (h : (t.resolve v).Accepts v w) : Takes t v (some w)
  /-- A default of null is not checked. -/
  | nullDefault (h : t.first.default? = some .null) : Takes t .absent (some .null)
  | default {d w : Value} (hd : t.first.default? = some d) (hne : d ≠ .null)
    (h : (t.resolve (t.seed d)).Accepts (t.seed d) w) : Takes t .absent (some w)
  | omitted (hd : t.first.default? = none) (h : t.first.required = false) : Takes t .absent none

/-- **What a type admits**: null, if the candidate of null accepts it, or a value in normal form
that its candidate admits. -/
def Admits (t : TypeSpec) (v : Value) : Prop :=
  (v = .null ∧ (t.resolve .null).acceptsNull = true) ∨
    ((t.resolve v).matches v = true ∧ (t.resolve v).Admits v)

theorem admits_of_accepts (h : (t.resolve v).Accepts v w) : t.Admits w := by
  refine .inr ?_
  rw [resolve_of_accepts h]
  exact ⟨h.admits.matches, h.admits⟩

/-- Null is accepted where it is the default of the first candidate, whatever candidate null
resolves to. -/
theorem acceptsNull_of_default (h : t.first.default? = some .null) :
    (t.resolve .null).acceptsNull = true := by
  rw [t.resolve_eq (by simp)]
  cases hfind : t.candidates.find? (fun n => n.matches .null) with
  | none =>
    show (t.first.nullable || t.first.hasNullDefault) = true
    rw [Node.hasNullDefault, h, Bool.or_true]
  | some n =>
    have hn : n.nullable = true := List.find?_some hfind
    show (n.nullable || n.hasNullDefault) = true
    rw [hn, Bool.true_or]

theorem Takes.admits {u : Value} (h : t.Takes v (some u)) : t.Admits u := by
  cases h with
  | null h => exact .inl ⟨rfl, h⟩
  | present h => exact admits_of_accepts h
  | nullDefault h => exact .inl ⟨rfl, acceptsNull_of_default h⟩
  | default _ _ h => exact admits_of_accepts h

theorem Admits.takes (h : t.Admits v) : t.Takes v (some v) := by
  rcases h with ⟨rfl, h⟩ | ⟨-, h⟩
  · exact .null h
  · exact .present h.accepts

theorem Admits.ne_absent (h : t.Admits v) : v ≠ .absent := by
  rcases h with ⟨rfl, -⟩ | ⟨-, h⟩
  · simp
  · exact h.ne_absent

/-- Only what is absent may be left out. -/
theorem Takes.eq_absent (h : t.Takes v none) :
    v = .absent ∧ t.first.default? = none ∧ t.first.required = false := by
  cases h with
  | omitted hd h => exact ⟨rfl, hd, h⟩

end TypeSpec

/-! ## Visits -/

namespace Course

open TypeSpec

theorem checkPresent_eq_ok_iff {site : Site} {t : TypeSpec} {v w : Value} :
    checkPresent site t v = .ok w ↔ (t.resolve v).Accepts v w := by
  unfold checkPresent
  split
  case isTrue hnone =>
    refine ⟨fun h => absurd h Site.fail_ne_ok, fun h => ?_⟩
    -- the candidate that accepts the value is one that the value fits
    have hany : t.candidates.any (fun n => n.matches v) = true :=
      List.any_eq_true.mpr ⟨_, t.resolve_mem v, h.matches⟩
    rw [hany] at hnone
    simp at hnone
  case isFalse => exact Node.check_eq_ok_iff

theorem apply_null {site : Site} {t : TypeSpec} : apply site t .null =
    if (t.resolve .null).acceptsNull then .ok (some .null) else site.fail .nullable [] := rfl

theorem apply_of_present {site : Site} {t : TypeSpec} {v : Value} (hnull : v ≠ .null)
    (habsent : v ≠ .absent) : apply site t v = some <$> checkPresent site t v := by
  cases v <;> first | rfl | exact absurd rfl hnull | exact absurd rfl habsent

theorem apply_absent_of_default {site : Site} {t : TypeSpec} {d : Value}
    (hd : t.first.default? = some d) (hne : d ≠ .null) :
    apply site t .absent = some <$> checkPresent site t (t.seed d) := by
  unfold apply
  rw [resolve_absent]
  simp only [hd]

/-- A default of null is put in without a check. -/
theorem apply_absent_of_null {site : Site} {t : TypeSpec} (hd : t.first.default? = some .null) :
    apply site t .absent = .ok (some .null) := by
  simp only [apply, resolve_absent, hd]
  rfl

theorem apply_absent_of_none {site : Site} {t : TypeSpec} (hd : t.first.default? = none) :
    apply site t .absent = if t.first.required then site.fail .required [] else .ok none := by
  simp only [apply, resolve_absent, hd]
  rfl

theorem takes_of_apply_absent {site : Site} {t : TypeSpec} {child : Option Value}
    (h : apply site t .absent = .ok child) : t.Takes .absent child := by
  cases hd : t.first.default? with
  | none =>
    rw [apply_absent_of_none hd] at h
    cases hr : t.first.required <;> rw [hr] at h
    · cases h
      exact .omitted hd hr
    · cases h
  | some d =>
    by_cases hne : d = .null
    · subst hne
      rw [apply_absent_of_null hd] at h
      cases h
      exact .nullDefault hd
    · rw [apply_absent_of_default hd hne] at h
      obtain ⟨w, hw, rfl⟩ := Checked.map_eq_ok.mp h
      exact .default hd hne (checkPresent_eq_ok_iff.mp hw)

/-- **A visit does what the type makes of the value.** -/
theorem apply_eq_ok_iff {site : Site} {t : TypeSpec} {v : Value} {child : Option Value} :
    apply site t v = .ok child ↔ t.Takes v child := by
  constructor
  · intro h
    by_cases hnull : v = .null
    · subst hnull
      rw [apply_null] at h
      split at h
      case isTrue haccepts =>
        cases h
        exact .null haccepts
      case isFalse => cases h
    by_cases habsent : v = .absent
    · subst habsent
      exact takes_of_apply_absent h
    · rw [apply_of_present hnull habsent] at h
      obtain ⟨w, hw, rfl⟩ := Checked.map_eq_ok.mp h
      exact .present (checkPresent_eq_ok_iff.mp hw)
  · intro h
    cases h with
    | null h => rw [apply_null, if_pos h]
    | present h =>
      rw [apply_of_present h.ne_null h.ne_absent]
      exact Checked.map_eq_ok.mpr ⟨_, checkPresent_eq_ok_iff.mpr h, rfl⟩
    | nullDefault hd => exact apply_absent_of_null hd
    | default hd hne h =>
      rw [apply_absent_of_default hd hne]
      exact Checked.map_eq_ok.mpr ⟨_, checkPresent_eq_ok_iff.mpr h, rfl⟩
    | omitted hd h =>
      rw [apply_absent_of_none hd, h]
      rfl

end Course

end Conform
