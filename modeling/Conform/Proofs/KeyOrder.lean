import Conform.Proofs.Endings
import Conform.Proofs.FailFast
import Conform.Proofs.ReorderedWalks
import Conform.Proofs.Repetition

/-!
# Key order decides the outcome only within tuples

Two validations are compared: of two schemas that differ only in the order of fields, and of two
values that differ only in the order of keys. A walk goes by that order, and what it notes, it notes
in that order; the marks of missing fields come in the order of the schema. The verdict at a path
depends on none of this, but on the type that governs the path and the value there, and these differ
in order only (`Course.alike_apply`). So one visit leaves values that differ in order only
(`Course.reordered_visitLinked`), and so does a walk (`Course.reordered_walkLinked`). An early end
is the exception. Of two dates that leave the calendar the first one ends the walk, so nothing is
asked of the reasons why two walks end early, only that both do; and since violations are collected,
no violation is among these reasons.

Nothing is sorted within a tuple. Data has none, and a default is the same in both schemas, but if a
map has a place in a tuple and a declared one as well, then the missing fields are put into the
tuple too, in the order of the schema (`Schema.pairedBox_out_of_order`). Elsewhere key order never
decides the outcome (`Schema.validateShared_reordered`).

Members of a union stay in their places. A walk that notes the same violations in another order
notes as many, so the same member is the closest (`Rejection.rel_closest`).
-/

namespace Conform

open Linked (ReadsAs)

/-! ## Two schemas, two values -/

/-- Whether no default of a type has tuples and shared containers both. -/
def TypeSpec.sharesUntupled (t : TypeSpec) : Bool :=
  t.candidates.all fun n =>
    n.sharing.isEmpty || n.default?.all (fun d => d.everywhere Value.isUntupled)

/-- **Two types that differ only in the order of fields**, in which no name stands twice, nor a text
key in a default, and no default has tuples and shared containers both. -/
structure TypeSpec.Twins (t t' : TypeSpec) : Prop where
  reordered : t.Reordered t'
  named : t.everyType TypeSpec.wellNamed = true
  named' : t'.everyType TypeSpec.wellNamed = true
  keyed : ∀ d, t.first.default? = some d → d.everywhere Value.isKeyed = true
  untupled : ∀ d, t.first.default? = some d →
    t.first.sharing = [] ∨ d.everywhere Value.isUntupled = true

/-- **Two schemas that differ only in the order of fields**, with the same asked of them. -/
structure Schema.Twins (s s' : Schema) : Prop where
  reordered : s.Reordered s'
  named : s.wellNamed = true
  named' : s'.wellNamed = true
  keyed : s.everyType (TypeSpec.defaultsPass Value.isKeyed) = true
  untupled : s.everyType TypeSpec.sharesUntupled = true

theorem TypeSpec.untupled_of_default {t : TypeSpec} (h : t.everyType sharesUntupled = true)
    {d : Value} (hd : t.first.default? = some d) :
    t.first.sharing = [] ∨ d.everywhere Value.isUntupled = true := by
  have hfirst := List.all_eq_true.mp (self_of_everyType h) _ t.first_mem
  rw [hd, Bool.or_eq_true_iff, List.isEmpty_iff] at hfirst
  exact hfirst

/-- What governs a path in the one schema governs it in the other. -/
theorem Schema.Twins.locate {s s' : Schema} (h : s.Twins s') (path : Path) :
    (s.locate path = none ∧ s'.locate path = none) ∨
      ∃ t t', s.locate path = some t ∧ s'.locate path = some t' ∧ t.Twins t' := by
  have hnamed := (Bool.and_eq_true_iff.mp h.named).2
  have hnamed' := (Bool.and_eq_true_iff.mp h.named').2
  have hlocate := h.reordered.locate h.named path
  cases ht : s.locate path <;> cases ht' : s'.locate path <;> rw [ht, ht'] at hlocate <;>
    cases hlocate
  case none.none => exact .inl ⟨rfl, rfl⟩
  case some.some hreordered =>
    exact .inr ⟨_, _, rfl, rfl, hreordered, everyType_of_locate hnamed ht,
      everyType_of_locate hnamed' ht',
      fun d hd => TypeSpec.everywhere_of_default (everyType_of_locate h.keyed ht) hd,
      fun d hd => TypeSpec.untupled_of_default (everyType_of_locate h.untupled ht) hd⟩

/-- **The defaults that are put in** differ only in the order of keys. -/
theorem TypeSpec.Twins.fill {t t' : TypeSpec} (h : t.Twins t') :
    Option.Rel Linked.Reordered t.fill t'.fill := by
  have hfirst := h.reordered.first
  cases hd : t.first.default? with
  | none =>
    rw [fill_of_none hd, fill_of_none (hfirst.default?_eq ▸ hd)]
    exact .none
  | some d =>
    have hd' : t'.first.default? = some d := hfirst.default?_eq ▸ hd
    by_cases hne : d = .null
    · subst hne
      rw [fill_of_null hd, fill_of_null hd']
      exact .none
    · rw [fill_of_default hd hne, fill_of_default hd' hne, ← hfirst.sharing_eq]
      exact .some (h.reordered.copied h.named h.named' (h.keyed d hd) (h.untupled d hd))

namespace Course

open Walk

section Apply

variable {t t' : TypeSpec} {v w : Value}

/-- A value fits a candidate whatever the order of keys is. -/
theorem any_matches_eq (h : t.Reordered t') (hvw : v.Reordered w) :
    t.candidates.any (·.matches v) = t'.candidates.any (·.matches w) := by
  cases h with
  | candidates h =>
    generalize t.candidates = ns at h
    generalize t'.candidates = ns' at h
    induction h with
    | nil => rfl
    | cons hn _ ih => rw [List.any_cons, List.any_cons, ih, hn.matches_eq, hvw.matches_eq]

theorem alike_checkPresent (site : Site) (h : t.Reordered t') (hvw : v.Reordered w) :
    Checked.Alike Value.Reordered (checkPresent site t v) (checkPresent site t' w) := by
  unfold checkPresent
  rw [h.isUnion_eq, any_matches_eq h hvw]
  split
  · exact .error _
  · rw [(h.resolve hvw).check_eq]
    exact Node.alike_check _ site hvw

/-- **What two types make of two values** that differ in the order of fields and keys. -/
theorem alike_apply (site : Site) (h : t.Twins t') (hvw : v.Reordered w) :
    Checked.Alike (Option.Rel Value.Reordered) (apply site t v) (apply site t' w) := by
  by_cases hnull : v = .null
  · subst hnull
    rw [hvw.eq_of_leaf rfl, apply_null, apply_null,
      (h.reordered.resolve (.refl .null)).acceptsNull_eq]
    split
    · exact .ok (.some (.refl _))
    · exact .error _
  by_cases habsent : v = .absent
  · subst habsent
    rw [hvw.eq_of_leaf rfl]
    cases hd : t.first.default? with
    | none =>
      rw [apply_absent_of_none hd, apply_absent_of_none (h.reordered.first.default?_eq ▸ hd),
        h.reordered.first.required_eq]
      split
      · exact .error _
      · exact .ok .none
    | some d =>
      have hd' : t'.first.default? = some d := h.reordered.first.default?_eq ▸ hd
      by_cases hne : d = .null
      · subst hne
        rw [apply_absent_of_null hd, apply_absent_of_null hd']
        exact .ok (.some (.refl _))
      · have hmarkers : Option.Rel TypeSpec.Reordered (some t) (some t') := .some h.reordered
        have hseed : (t.seed d).Reordered (t'.seed d) := Marker.reordered_mark hmarkers
          (fun u hu => Option.some.inj hu ▸ h.named) (fun u hu => Option.some.inj hu ▸ h.named')
          (.refl d) (h.keyed d hd)
        rw [apply_absent_of_default hd hne, apply_absent_of_default hd' hne]
        exact (alike_checkPresent site h.reordered hseed).map (fun _ _ h => .some h)
  · have hnull' : w ≠ .null := by
      rintro rfl
      cases hvw
      exact hnull rfl
    have habsent' : w ≠ .absent := by
      rintro rfl
      cases hvw
      exact habsent rfl
    rw [apply_of_present hnull habsent, apply_of_present hnull' habsent']
    exact (alike_checkPresent site h.reordered hvw).map (fun _ _ h => .some h)

end Apply

section Walks

variable {s s' : Schema} {o : Options} {v w : Value} {l m : Linked}

theorem reordered_unknown (c : Course) (hvw : v.Reordered w) :
    Option.Rel Value.Reordered (c.unknown v) (c.unknown w) := by
  cases hvw with
  | refl => exact rel_self .refl _
  | list h =>
    show Option.Rel _ (if c.options.stripUnknown then none else _)
      (if c.options.stripUnknown then none else _)
    split
    · exact .none
    · exact .some (.list h)
  | map h hperm =>
    show Option.Rel _ (if c.options.stripUnknown then none else _)
      (if c.options.stripUnknown then none else _)
    split
    · exact .none
    · exact .some (.map h hperm)

/-- What two checks make of linked values, leaves of leaves. -/
theorem reordered_become (hlm : l.Reordered m) (hvw : v.Reordered w)
    (hleaf : ∀ u, l = .atom u → v.isContainer = false) : (l.become v).Reordered (m.become w) := by
  cases hlm with
  | atom =>
    have hv := hleaf _ rfl
    rw [hvw.eq_of_leaf hv]
    exact .atom hv
  | tuple h => exact .tuple h
  | cell a => exact .cell a
  | list h => exact .list h
  | map hkeyed hloose h hloose' => exact .map hkeyed hloose h hloose'
  | copy h hinner => exact .copy h hinner

/-- Visits that checks settle alike. -/
theorem reordered_settle {x y : Checked (Option Value)} {left left' : Option Linked}
    (h : Checked.Alike (Option.Rel Value.Reordered) x y) (hlm : l.Reordered m)
    (hleaf : ∀ u, l = .atom u → ∀ w, x = .ok (some w) → w.isContainer = false)
    (hleft : Option.Rel Linked.Reordered left left') :
    LinkedWalk.Reordered (Option.Rel Linked.Reordered) (settle ⟨s, o⟩ l left x)
      (settle ⟨s', o⟩ m left' y) := by
  cases h with
  | ok hchild =>
    refine .pure ?_
    cases hchild with
    | none => exact .none
    | some hvw => exact .some (reordered_become hlm hvw (fun u hu => hleaf u hu _ rfl))
  | error e =>
    cases e with
    | violation violation =>
      exact (LinkedWalk.Reordered.lift (related_refl (report ⟨s, o⟩ violation))).bind
        (fun _ => .pure _) (fun _ => .pure _) (fun _ _ _ => .pure hleft)
    | _ => exact .throw _ _

/-- Without a default that is put in, nothing but a null can take the place of an absent value. -/
theorem isLeaf_of_apply_absent {site : Site} {t : TypeSpec} (hfill : t.fill = none)
    (h : apply site t .absent = .ok (some w)) : w.isContainer = false := by
  cases apply_eq_ok_iff.mp h with
  | nullDefault => rfl
  | present h => exact (h.isLeaf rfl).1
  | default hd hne => cases (TypeSpec.fill_of_default hd hne).symm.trans hfill

/-- **In place of a mark** comes the default of either type, or none of either. -/
theorem reordered_visitLinked_absent {t t' : TypeSpec} {path : Path} (ht : s.locate path = some t)
    (ht' : s'.locate path = some t') (h : t.Twins t') :
    LinkedWalk.Reordered (Option.Rel Linked.Reordered) (visitLinked ⟨s, o⟩ path (.atom .absent))
      (visitLinked ⟨s', o⟩ path (.atom .absent)) := by
  rw [visitLinked_absent ht, visitLinked_absent ht',
    show site ⟨s', o⟩ path = site ⟨s, o⟩ path from rfl]
  have hfill := h.fill
  generalize hd : t.fill = d at hfill
  generalize t'.fill = d' at hfill
  cases hfill with
  | none =>
    exact reordered_settle (alike_apply _ h (.refl _)) (.atom rfl)
      (fun _ _ _ hw => isLeaf_of_apply_absent hd hw) .none
  | some hcopies =>
    refine .get (fun cells cells' hcells => ?_)
    have hchecked := alike_checkPresent (site ⟨s, o⟩ path) h.reordered
      (hcopies.value hcells).reordered
    refine reordered_settle (hchecked.map (fun _ _ h => .some h)) hcopies ?_ .none
    rintro u rfl w hw
    obtain ⟨w', hw', hsome⟩ := Checked.map_eq_ok.mp hw
    cases hsome
    cases hcopies with
    | atom hleaf => exact ((checkPresent_eq_ok_iff.mp hw').isLeaf hleaf).1

/-- **The step**: visits of reordered values leave reordered values. -/
theorem reordered_visitLinked (h : s.Twins s') (path : Path) (hlm : l.Reordered m) :
    LinkedWalk.Reordered (Option.Rel Linked.Reordered) (visitLinked ⟨s, o⟩ path l)
      (visitLinked ⟨s', o⟩ path m) := by
  rcases h.locate path with ⟨hnone, hnone'⟩ | ⟨t, t', ht, ht', htwins⟩
  · rw [visitLinked_undeclared hnone, visitLinked_undeclared hnone']
    refine .get (fun cells cells' hcells => .pure ?_)
    have hunknown := reordered_unknown ⟨s, o⟩ (hlm.value hcells).reordered
    show Option.Rel _ ((unknown ⟨s, o⟩ _).map _) ((unknown ⟨s, o⟩ _).map _)
    generalize unknown ⟨s, o⟩ (l.value cells) = kept at hunknown
    generalize unknown ⟨s, o⟩ (m.value cells') = kept' at hunknown
    cases hunknown with
    | none => exact .none
    | some => exact .some hlm
  · by_cases habsent : l = .atom .absent
    · have habsent' := hlm.eq_absent.mp habsent
      subst habsent habsent'
      exact reordered_visitLinked_absent ht ht' htwins
    · rw [visitLinked_present ht habsent,
        visitLinked_present ht' (fun hm => habsent (hlm.eq_absent.mpr hm)),
        show site ⟨s', o⟩ path = site ⟨s, o⟩ path from rfl]
      refine .get (fun cells cells' hcells => ?_)
      refine reordered_settle (alike_apply _ htwins (hlm.value hcells).reordered) hlm ?_ (.some hlm)
      rintro u rfl w hw
      cases hlm with
      | atom hleaf =>
        exact ((apply_eq_ok_iff.mp hw).isLeaf (fun hu => habsent (congrArg _ hu)) hleaf).1

theorem appends_walkLinked (c : Course) (budget : Nat) (path : Path) (l : Linked) :
    (c.walkLinked budget path l).Appends := fun cells =>
  (walkLinked_inStep (inStep_moved c.schema c.schema c.options [] []) budget path (fun _ => rfl) l
    cells).1

/-- **The run**: walks of reordered values leave reordered values, and find the same in some
order. -/
theorem reordered_walkLinked (h : s.Twins s') (budget : Nat) (path : Path) (hlm : l.Reordered m) :
    LinkedWalk.Reordered (Option.Rel Linked.Reordered) (walkLinked ⟨s, o⟩ budget path l)
      (walkLinked ⟨s', o⟩ budget path m) := by
  induction budget generalizing path l m with
  | zero =>
    refine .get (fun cells cells' hcells => ?_)
    have hunknown := reordered_unknown ⟨s, o⟩ (hlm.value hcells).reordered
    rw [show unknown ⟨s', o⟩ = unknown ⟨s, o⟩ from rfl]
    generalize unknown ⟨s, o⟩ (l.value cells) = kept at hunknown
    generalize unknown ⟨s, o⟩ (m.value cells') = kept' at hunknown
    cases hunknown with
    | none => exact .pure .none
    | some => exact hlm.sift.map (fun _ _ h => .some h)
  | succ budget ih =>
    rw [walkLinked_succ, walkLinked_succ]
    refine (reordered_visitLinked h path hlm).bind
      (fun child cells => appends_descend _ budget path child cells)
      (fun child cells => appends_descend _ budget path child cells) (fun child child' hchild => ?_)
    cases hchild with
    | none => exact .pure .none
    | some hchild =>
      refine LinkedWalk.Reordered.map ?_ (fun _ _ h => .some h)
      unfold walkBelow
      rcases h.locate path with ⟨hnone, hnone'⟩ | ⟨t, t', ht, ht', -⟩
      · rw [hnone, hnone']
        exact hchild.sift
      · rw [ht, ht']
        exact reordered_walkLinkedMembers (appends_walkLinked _ budget)
          (appends_walkLinked _ budget)
          (fun key _ hl => walkLinked_aside _ budget (path ++ [key]) hl)
          (fun key _ hl => walkLinked_aside _ budget (path ++ [key]) hl)
          (fun key _ _ hlm => ih (path ++ [key]) hlm) hchild

/-- **The walks of the root** of reordered data. -/
theorem related_walkShared (h : s.Twins s') {es es' : List (Value × Value)}
    (hes : (Value.map es).Reordered (.map es'))
    (hkeyed : (Value.map es).everywhere Value.isKeyed = true) :
    Related .unordered ReadsAs (walkShared ⟨s, o⟩ es) (walkShared ⟨s', o⟩ es') := by
  -- one budget for both
  have hroot : ∀ (c : Course) (more : Nat) (es : List (Value × Value)), c.walkShared es =
      (fun out => out.1.value out.2) <$>
        (walkLinkedMembers (c.walkLinked (c.schema.depth + more)) []
          (Value.map es).unshared).run [] := fun c more es => by
    rw [walkLinkedMembers_congr (fun key l => walkLinked_add_budget (Nat.lt_succ_self _) more l),
      map_eq_pure_bind]
    rfl
  rw [hroot ⟨s, o⟩ s'.depth, hroot ⟨s', o⟩ s.depth]
  dsimp only
  rw [Nat.add_comm s'.depth]
  have hmembers : LinkedWalk.Reordered Linked.Reordered
      (walkLinkedMembers (walkLinked ⟨s, o⟩ (s.depth + s'.depth)) [] (Value.map es).unshared)
      (walkLinkedMembers (walkLinked ⟨s', o⟩ (s.depth + s'.depth)) [] (Value.map es').unshared) :=
    reordered_walkLinkedMembers (appends_walkLinked _ _) (appends_walkLinked _ _)
      (fun key _ hl => walkLinked_aside _ _ _ hl) (fun key _ hl => walkLinked_aside _ _ _ hl)
      (fun key _ _ hlm => reordered_walkLinked h _ _ hlm) (Linked.reordered_unshared hes hkeyed)
  exact (hmembers [] [] .nil).map (fun out out' hout => hout.1.value hout.2)

end Walks

end Course

/-! ## Outcomes -/

/-- **Outcomes that differ only in the order of keys**: both are results, of which nothing differs
if keys are sorted and are texts, both are rejections with the same violations in some order, or
both are failures. -/
inductive Validated.Reordered (o : Options) : Validated → Validated → Prop
  | returned {r r' : Value} (h : r.Reordered r') (hsorted : o.sortKeys = true →
    r.everywhere Value.keysAreTexts = true → r = r') : Validated.Reordered o (.ok r) (.ok r')
  | rejected {z z' : Rejection} (h : z.violations.Perm z'.violations) :
    Validated.Reordered o (.error (.rejected z)) (.error (.rejected z'))
  | failed (e e' : EngineError) :
    Validated.Reordered o (.error (.engine e)) (.error (.engine e'))

/-- A walk that is not ended by a violation fails if it ends early. -/
theorem Options.conclude_eq_failed {o : Options} {e : Interruption}
    (h : ∀ v, e ≠ .violation v) : ∃ x, o.conclude (.error e) = .error (.engine x) := by
  cases e with
  | violation v => exact absurd rfl (h v)
  | dateOutOfRange => exact ⟨_, rfl⟩
  | search e => exact ⟨_, rfl⟩

/-- **The outcomes of two walks that find the same in any order** differ only in the order of keys,
if what they yield does. -/
theorem Options.reordered_conclude (o : Options) {m m' : Walk Value}
    (h : Walk.Related .unordered (fun _ _ => True) m m')
    (hyields : ∀ v w, m.Yields v → m'.Yields w → ReadsAs v w)
    (hends : ∀ v, m.run [] ≠ .error (.violation v))
    (hends' : ∀ v, m'.run [] ≠ .error (.violation v)) :
    Validated.Reordered o (o.conclude (m.run [])) (o.conclude (m'.run [])) := by
  rcases Walk.related_iff.mp h with ⟨v, w, notes, notes', hm, hm', -, hnotes⟩ |
    ⟨e, e', hm, hm', -⟩
  · cases notes with
    | nil =>
      obtain rfl := List.nil_perm.mp hnotes
      obtain ⟨hvw, hv⟩ := hyields v w hm hm'
      rw [hm, hm']
      show Validated.Reordered o (.ok (o.arranged v)) (.ok (o.arranged w))
      unfold Options.arranged
      split
      · refine .returned hvw.sortKeys (fun _ htexts => ?_)
        -- sorted once more, both come out the same
        rw [← v.sortKeys_idem, ← w.sortKeys_idem]
        exact hvw.sortKeys.sortKeys_eq (Value.testsKeys_isKeyed.sortKeys hv) htexts
      next hsort => exact .returned hvw (fun hs => absurd hs hsort)
    | cons n notes =>
      rw [hm, hm']
      cases notes' with
      | nil => exact absurd hnotes.eq_nil (List.cons_ne_nil n notes)
      | cons n' notes' => exact .rejected hnotes
  · rw [hm] at hends ⊢
    rw [hm'] at hends' ⊢
    obtain ⟨x, hx⟩ := o.conclude_eq_failed (e := e) (fun v hv => hends v (congrArg _ hv))
    obtain ⟨x', hx'⟩ := o.conclude_eq_failed (e := e') (fun v hv => hends' v (congrArg _ hv))
    rw [hx, hx']
    exact .failed x x'

/-! ## Against a mapping -/

section Validation

variable {fs gs : Fields} {o : Options} {data data' : Value}

/-- The walk of the root, if it collects, is not ended by a violation. -/
theorem Course.walkShared_ne_violation (hcollect : o.abortEarly = false)
    (es : List (Value × Value)) (v : Violation) :
    ((⟨.mapping fs, o⟩ : Course).walkShared (Fields.seed fs es)).run [] ≠
      .error (.violation v) := by
  intro hend
  have hlands : Walk.Lands (Interruption.ExplainedBy o (Fields.Provokes fs o es)) (fun _ => True)
      ((⟨.mapping fs, o⟩ : Course).walkShared (Fields.seed fs es)) := lands_walkShared
  have hexplained := hlands []
  rw [hend] at hexplained
  exact Bool.false_ne_true (hcollect.symm.trans hexplained)

theorem Fields.wellNamed_asType_of_wellNamed (h : (Schema.mapping fs).wellNamed = true) :
    Marker.All TypeSpec.wellNamed (some fs.asType) :=
  let ⟨hnames, hnamed⟩ := Schema.names_of_wellNamed h
  Fields.wellNamed_asType hnames hnamed

/-- **Against a mapping**, key order does not decide the outcome. -/
theorem Fields.reordered_validateShared (h : (Schema.mapping fs).Twins (.mapping gs))
    (hcollect : o.abortEarly = false) (hdata : data.everywhere Value.isCopied = true)
    (hreordered : data.Reordered data') :
    Validated.Reordered o (fs.validateShared o data) (gs.validateShared o data') := by
  have hdata' := Value.testsKeys_isCopied.reordered hreordered hdata
  unfold Fields.validateShared
  rw [Value.plain_eq_self hdata, Value.plain_eq_self hdata']
  cases data with
  | map es =>
    obtain ⟨-, es', rfl, -, -⟩ := hreordered.exists_of_map
    have hm := Fields.wellNamed_asType_of_wellNamed h.named
    have hm' := Fields.wellNamed_asType_of_wellNamed h.named'
    have hmarkers : Option.Rel TypeSpec.Reordered (some fs.asType) (some gs.asType) :=
      .some (.candidates (.cons (.object {} h.reordered) .nil))
    have hkeyed : (Value.map es).everywhere Value.isKeyed = true :=
      Value.everywhere_mono (fun _ => Value.isKeyed_of_isCopied) hdata
    have hseed : (Value.map (Fields.seed fs es)).Reordered (.map (Fields.seed gs es')) :=
      Marker.reordered_mark hmarkers hm hm' hreordered hkeyed
    have hrelated := Course.related_walkShared (o := o) h hseed
      (Value.testsKeys_isKeyed.mark hm hkeyed)
    exact o.reordered_conclude (hrelated.mono (fun _ _ _ => trivial))
      (fun v w hv hw => hrelated.of_yields hv hw)
      (Course.walkShared_ne_violation hcollect es) (Course.walkShared_ne_violation hcollect es')
  | list vs =>
    obtain ⟨vs', rfl, -⟩ := hreordered.exists_of_list
    exact .rejected (.refl _)
  | _ =>
    rw [hreordered.eq_of_leaf rfl]
    exact .rejected (.refl _)

/-! ## Against a union -/

/-- **Rejections by members in the same place** of two unions, with the same violations in some
order. -/
structure Rejection.Paired (o : Options) (data data' : Value) (ms ms' : List Fields)
    (y y' : Rejection) : Prop where
  members : ∃ fs gs, (fs, gs) ∈ ms.zip ms' ∧ fs.validateShared o data = .error (.rejected y) ∧
    gs.validateShared o data' = .error (.rejected y')
  perm : y.violations.Perm y'.violations

/-- **Rejections by unions whose closest members stand in the same place**: each says that no member
fits, and then what its closest member says. -/
def Rejection.FromPartners (o : Options) (data data' : Value) (ms ms' : List Fields)
    (z z' : Rejection) : Prop :=
  ∃ y y', Rejection.Paired o data data' ms ms' y y' ∧
    z.violations = .ofRule o.catalog .union "" [] :: y.violations ∧
    z'.violations = .ofRule o.catalog .union "" [] :: y'.violations

/-- **What the members of two unions say** of reordered data: one accepts it, or all reject it, or
one fails. -/
inductive MembersReordered (o : Options) (R : Rejection → Rejection → Prop) :
    Except EngineError (Value ⊕ List Rejection) → Except EngineError (Value ⊕ List Rejection) → Prop
  | returned {r r' : Value} (h : Validated.Reordered o (.ok r) (.ok r')) :
    MembersReordered o R (.ok (.inl r)) (.ok (.inl r'))
  | rejected {rs rs' : List Rejection} (h : List.Forall₂ R rs rs') :
    MembersReordered o R (.ok (.inr rs)) (.ok (.inr rs'))
  | failed (e e' : EngineError) : MembersReordered o R (.error e) (.error e')

/-- Members that are asked one by one, each with its partner. -/
theorem reordered_tryMembers {ms ms' : List Fields}
    (h : List.Forall₂ (fun fs gs => Validated.Reordered o (fs.validateShared o data)
      (gs.validateShared o data')) ms ms') :
    MembersReordered o (Rejection.Paired o data data' ms ms')
      (tryMembers (fun fs => fs.validateShared o data) ms)
      (tryMembers (fun gs => gs.validateShared o data') ms') := by
  induction h with
  | nil => exact .rejected .nil
  | @cons fs gs ms ms' hfirst _ ih =>
    rw [tryMembers, tryMembers]
    generalize hfs : fs.validateShared o data = x at hfirst
    generalize hgs : gs.validateShared o data' = x' at hfirst
    cases hfirst with
    | returned h hsorted => exact .returned (.returned h hsorted)
    | failed e e' => exact .failed e e'
    | @rejected z z' hperm =>
      dsimp only
      generalize tryMembers (fun fs => fs.validateShared o data) ms = y at ih
      generalize tryMembers (fun gs => gs.validateShared o data') ms' = y' at ih
      cases ih with
      | returned h => exact .returned h
      | failed e e' => exact .failed e e'
      | rejected hrest =>
        refine .rejected (.cons ⟨⟨fs, gs, List.mem_cons_self, hfs, hgs⟩, hperm⟩ (hrest.imp ?_))
        rintro y y' ⟨⟨fs', gs', hmem, hy, hy'⟩, hperm⟩
        exact ⟨⟨fs', gs', List.mem_cons_of_mem _ hmem, hy, hy'⟩, hperm⟩

/-- **The closest rejections** of two lists stand in the same place, if partners are of one size. -/
theorem Rejection.rel_closest {R : Rejection → Rejection → Prop}
    (hsize : ∀ y y', R y y' → y.size = y'.size) {r r' : Rejection} {rs rs' : List Rejection}
    (h : R r r') (hs : List.Forall₂ R rs rs') : R (r.closest rs) (r'.closest rs') := by
  induction hs generalizing r r' with
  | nil => exact h
  | cons hx _ ih =>
    rw [closest_cons, closest_cons, hsize _ _ h, hsize _ _ hx]
    split
    · exact ih hx
    · exact ih h

/-- A union that collects reports that no member fits, and the violations of the closest. -/
theorem Options.violations_rejectUnion {o : Options} (hcollect : o.abortEarly = false)
    (r : Rejection) (rs : List Rejection) : (o.rejectUnion (r :: rs)).violations =
      .ofRule o.catalog .union "" [] :: (r.closest rs).violations := by
  unfold rejectUnion
  dsimp only
  rw [hcollect]
  rfl

/-- **Against a union**, key order does not decide the outcome, nor which member is the closest. -/
theorem Schema.reordered_union {fs fs' gs gs' : Fields} {hs hs' : List Fields}
    (hcollect : o.abortEarly = false)
    (hmembers : List.Forall₂ (fun fs gs => Validated.Reordered o (Fields.validateShared fs o data)
      (Fields.validateShared gs o data')) (fs :: fs' :: hs) (gs :: gs' :: hs')) :
    Validated.Reordered o ((Schema.union fs fs' hs).validateShared o data)
      ((Schema.union gs gs' hs').validateShared o data') ∧
    ∀ z z', (Schema.union fs fs' hs).validateShared o data = .error (.rejected z) →
      (Schema.union gs gs' hs').validateShared o data' = .error (.rejected z') →
      Rejection.FromPartners o data data' (fs :: fs' :: hs) (gs :: gs' :: hs') z z' := by
  have hout := reordered_tryMembers hmembers
  have hlength : ∀ rs, tryMembers (fun fs => Fields.validateShared fs o data) (fs :: fs' :: hs) =
      .ok (.inr rs) → rs ≠ [] := by
    rintro rs hrs rfl
    cases length_of_tryMembers hrs
  simp only [Schema.validateShared_union]
  generalize tryMembers (fun fs => Fields.validateShared fs o data) (fs :: fs' :: hs) = x
    at hout hlength
  generalize tryMembers (fun gs => Fields.validateShared gs o data') (gs :: gs' :: hs') = x' at hout
  cases hout with
  | returned h => exact ⟨h, fun z z' hz => by cases hz⟩
  | failed e e' => exact ⟨.failed e e', fun z z' hz => by cases hz⟩
  | rejected hrs =>
    cases hrs with
    | nil => exact absurd rfl (hlength [] rfl)
    | @cons r r' rs rs' hr hrs =>
      have hclosest := Rejection.rel_closest (fun y y' hy => hy.perm.length_eq) hr hrs
      have hz := o.violations_rejectUnion hcollect r rs
      have hz' := o.violations_rejectUnion hcollect r' rs'
      refine ⟨.rejected ?_, ?_⟩
      · rw [hz, hz']
        exact hclosest.perm.cons _
      · rintro _ _ ⟨⟩ ⟨⟩
        exact ⟨_, _, hclosest, hz, hz'⟩

end Validation

/-- Members in the same place differ in the order of fields only. -/
theorem Schema.Twins.members {s s' : Schema} (h : s.Twins s') :
    List.Forall₂ (fun fs gs => (Schema.mapping fs).Twins (.mapping gs)) s.members s'.members := by
  obtain ⟨⟨hmembers⟩, hnamed, hnamed', hkeyed, huntupled⟩ := h
  refine (forall₂_of_mem hmembers).imp (fun fs gs hmember => ?_)
  obtain ⟨hfs, hgs, hreordered⟩ := hmember
  exact {
    reordered := .members (.cons hreordered .nil)
    named := Schema.wellNamed_of_mem hnamed hfs
    named' := Schema.wellNamed_of_mem hnamed' hgs
    keyed := everyType_of_mem hkeyed hfs
    untupled := everyType_of_mem huntupled hfs }

/-- **Key order never decides the outcome** where no default has tuples and shared containers both.
For two schemas that have been read and differ only in the order of fields, two values that differ
only in the order of keys, and violations that are collected: the two validations return results
that differ only in the order of keys – in nothing, if keys are sorted and are texts –, or they
report the same violations in some order, or both fail. And where the members of a union have all
rejected the data, the violations are those of one member on either side, in the same place. The
data are working copies, and the defaults have no text key twice. -/
theorem Schema.validateShared_reordered {d d' : RawDocument} {data data' : Value} {s s' : Schema}
    {o : Options} (hread : Schema.read d = .ok s) (hread' : Schema.read d' = .ok s')
    (h : s.Reordered s') (hdefaults : s.everyType (TypeSpec.defaultsPass Value.isKeyed) = true)
    (huntupled : s.everyType TypeSpec.sharesUntupled = true)
    (hdata : data.everywhere Value.isCopied = true) (hreordered : data.Reordered data')
    (hcollect : o.abortEarly = false) :
    Validated.Reordered o (s.validateShared o data) (s'.validateShared o data') ∧
    (s.isUnion = true → ∀ z z', s.validateShared o data = .error (.rejected z) →
      s'.validateShared o data' = .error (.rejected z') →
      Rejection.FromPartners o data data' s.members s'.members z z') := by
  have htwins : s.Twins s' := ⟨h, Schema.wellNamed_of_read d s hread,
    Schema.wellNamed_of_read d' s' hread', hdefaults, huntupled⟩
  have hmembers : List.Forall₂ (fun fs gs => Validated.Reordered o (Fields.validateShared fs o data)
      (Fields.validateShared gs o data')) s.members s'.members :=
    htwins.members.imp (fun fs gs h => Fields.reordered_validateShared h hcollect hdata hreordered)
  cases s with
  | mapping fs =>
    cases s' with
    | mapping gs =>
      cases hmembers with
      | cons hfirst _ => exact ⟨hfirst, fun hunion => by cases hunion⟩
    | union =>
      cases hmembers with
      | cons _ hrest => cases hrest
  | union fs fs' hs =>
    cases s' with
    | mapping gs =>
      cases hmembers with
      | cons _ hrest => cases hrest
    | union gs gs' hs' =>
      obtain ⟨hout, hpartners⟩ := Schema.reordered_union hcollect hmembers
      exact ⟨hout, fun _ => hpartners⟩

/-- The document of a mapping whose fields are numbers. -/
def Schema.numbersDocument (names : List String) : Value :=
  .map (names.map fun name => (.text name, .map [(.text "type", .text "number")]))

/-- A mapping whose fields are numbers. -/
def Fields.numbers (names : List String) : Fields :=
  names.map fun name => (name, .single (.number {} {}))

/-- A rectangle or a box, read from two documents whose fields come the other way round. The data
fit neither, and the rectangle is closer: its two violations come the other way round too. -/
theorem Schema.numbersDocument_reordered : ∃ s s' : Schema,
    Schema.read (Value.list [numbersDocument ["width", "height"],
      numbersDocument ["width", "height", "depth"]]) = .ok s ∧
    Schema.read (Value.list [numbersDocument ["height", "width"],
      numbersDocument ["depth", "height", "width"]]) = .ok s' ∧
    ∃ z z', s.validateShared ({} : Options).collecting
        (.map [(.text "width", .null), (.text "height", .null)]) = .error (.rejected z) ∧
      s'.validateShared ({} : Options).collecting
        (.map [(.text "height", .null), (.text "width", .null)]) = .error (.rejected z') ∧
      z.paths = ["", "width", "height"] ∧ z'.paths = ["", "height", "width"] ∧
      z.violations.Perm z'.violations := by
  have hread : Schema.read (Value.list [numbersDocument ["width", "height"],
      numbersDocument ["width", "height", "depth"]]) = .ok (.union
        (Fields.numbers ["width", "height"])
        (Fields.numbers ["width", "height", "depth"]) []) := rfl
  have hread' : Schema.read (Value.list [numbersDocument ["height", "width"],
      numbersDocument ["depth", "height", "width"]]) = .ok (.union
        (Fields.numbers ["height", "width"])
        (Fields.numbers ["depth", "height", "width"]) []) := rfl
  have hreverse : ∀ fs : Fields, Fields.Reordered fs fs.reverse := fun fs =>
    .fields (List.forall₂_same.mpr (fun f _ => .type f.1 (.refl f.2))) (List.reverse_perm fs).symm
  have hschemas : (Schema.union (Fields.numbers ["width", "height"])
      (Fields.numbers ["width", "height", "depth"]) []).Reordered
      (.union (Fields.numbers ["height", "width"])
        (Fields.numbers ["depth", "height", "width"]) []) :=
    .members (.cons (hreverse _) (.cons (hreverse _) .nil))
  have hdata : (Value.map [(.text "width", .null), (.text "height", .null)]).Reordered
      (.map [(.text "height", .null), (.text "width", .null)]) :=
    .map (List.forall₂_same.mpr (fun e _ => .value e.1 (.refl e.2))) (.swap _ _ _)
  obtain ⟨y, y', hpaired, hz, hz'⟩ := (Schema.validateShared_reordered
    (o := ({} : Options).collecting) hread hread' hschemas rfl rfl rfl hdata rfl).2 rfl _ _ rfl rfl
  refine ⟨_, _, hread, hread', _, _, rfl, rfl, rfl, rfl, ?_⟩
  rw [hz, hz']
  exact hpaired.perm.cons _

/-- The document of an object with a box whose sides have defaults. By default the box is empty, and
it stands in a pair besides. -/
def Schema.pairedBoxDocument (sides : List (String × Int)) : RawDocument where
  value := .map [(.text "o", .map [(.text "type", .text "object"),
    (.text "properties", .map [(.text "box", .map [(.text "type", .text "object"),
      (.text "properties", .map (sides.map fun side => (.text side.1,
        .map [(.text "type", .text "number"), (.text "default", .int side.2)])))])]),
    (.text "default", .map [(.text "box", .map []),
      (.text "pairs", .list [.tuple [.text "box", .map []]])])])]
  sharing := [[[.text "o", .text "default", .text "box"],
    [.text "o", .text "default", .text "pairs", .int 0, .int 1]]]

/-- The schema that is read from it. -/
def Schema.pairedBox (sides : List (String × Int)) : Schema :=
  .mapping [("o", .single (.object
    { default? := some (some [("box", .map []),
        ("pairs", .list [.tuple [.text "box", .map []]])]),
      sharing := [[[.text "box"], [.text "pairs", .int 0, .int 1]]] }
    (.mapping [("box", .single (.object {} (.mapping (sides.map fun side =>
      (side.1, .single (.number { default? := some (some (.int side.2)) } {}))))))])))]

/-- A box with some sides. -/
def Value.box (sides : List (String × Int)) : Value :=
  .map (sides.map fun side => (.text side.1, .int side.2))

/-- An object with a box, and with a box in a pair. -/
def Value.pairedBox (box paired : Value) : Value :=
  .map [(.text "o", .map [(.text "box", box),
    (.text "pairs", .list [.tuple [.text "box", paired]])])]

namespace Value

theorem sortKeys_pair {k k' : String} (h : k < k') (v v' : Value) :
    (map [(.text k, v), (.text k', v')]).sortKeys =
        .map [(.text k, v.sortKeys), (.text k', v'.sortKeys)] ∧
      (map [(.text k', v'), (.text k, v)]).sortKeys =
        .map [(.text k, v.sortKeys), (.text k', v'.sortKeys)] := by
  have hle : entryLe (.text k, v.sortKeys) (.text k', v'.sortKeys) = true :=
    decide_eq_true (String.not_lt.mp (String.lt_asymm h))
  have hnot : entryLe (.text k', v'.sortKeys) (.text k, v.sortKeys) = false :=
    decide_eq_false (String.not_le.mpr h)
  simp [sortKeys, sortValues, List.mergeSort, List.MergeSort.Internal.splitInTwo, hle, hnot]

/-- **Nothing is sorted in a pair.** -/
theorem sortKeys_pairedBox (box paired : Value) :
    (pairedBox box paired).sortKeys = pairedBox box.sortKeys paired := by
  have hobject := (sortKeys_pair (show "box" < "pairs" by decide) box
    (.list [.tuple [.text "box", paired]])).1
  rw [pairedBox, sortKeys, sortValues, hobject]
  simp [sortValues, sortKeys, sortItems, pairedBox]

end Value

/-- The order of the sides is the order of fields. -/
theorem Schema.reordered_pairedBox (sides : List (String × Int)) :
    (pairedBox sides).Reordered (pairedBox sides.reverse) := by
  let fields : Fields := sides.map fun side =>
    (side.1, .single (.number { default? := some (some (.int side.2)) } {}))
  have hfields : Fields.Reordered fields (sides.reverse.map fun side =>
      (side.1, .single (.number { default? := some (some (.int side.2)) } {}))) :=
    .fields (List.forall₂_same.mpr (fun f _ => .type f.1 (.refl f.2)))
      ((List.reverse_perm sides).symm.map _)
  have hnode : ∀ (name : String) (p : Presence (List (String × Value))) {fs gs : Fields},
      Fields.Reordered fs gs → Fields.Reordered [(name, .single (.object p (.mapping fs)))]
        [(name, .single (.object p (.mapping gs)))] := fun name p fs gs h =>
    .fields (.cons (.type name (.candidates (.cons (.object p (.members (.cons h .nil))) .nil)))
      .nil) (.refl _)
  exact .members (.cons (hnode "o" _ (hnode "box" _ hfields)) .nil)

/-- **Within a tuple key order stays**: two schemas put the same sides into the box, each in its own
order, and in the pair they are not sorted. -/
theorem Schema.pairedBox_out_of_order :
    ¬ ∀ (d d' : RawDocument) (data data' r r' : Value) (s s' : Schema) (o : Options),
      Schema.read d = .ok s → Schema.read d' = .ok s' → s.Reordered s' →
      s.everyType (TypeSpec.defaultsPass Value.isKeyed) = true →
      data.everywhere Value.isCopied = true → data.Reordered data' →
      o.abortEarly = false → o.sortKeys = true → s.validateShared o data = .ok r →
      s'.validateShared o data' = .ok r' → r.everywhere Value.keysAreTexts = true → r = r' := by
  intro hsame
  -- whichever order the sides come in, sorting leaves one
  obtain ⟨hbox, hbox'⟩ : (Value.box [("height", 2), ("width", 1)]).sortKeys =
        .box [("height", 2), ("width", 1)] ∧
      (Value.box [("width", 1), ("height", 2)]).sortKeys = .box [("height", 2), ("width", 1)] :=
    Value.sortKeys_pair (by decide) (.int 2) (.int 1)
  have hresult : (pairedBox [("height", 2), ("width", 1)]).validateShared
      { abortEarly := false, sortKeys := true } (.map []) = .ok (Value.pairedBox
        (Value.box [("height", 2), ("width", 1)]).sortKeys
        (.box [("height", 2), ("width", 1)])) := by
    rw [← Value.sortKeys_pairedBox]
    rfl
  have hresult' : (pairedBox [("width", 1), ("height", 2)]).validateShared
      { abortEarly := false, sortKeys := true } (.map []) = .ok (Value.pairedBox
        (Value.box [("width", 1), ("height", 2)]).sortKeys
        (.box [("width", 1), ("height", 2)])) := by
    rw [← Value.sortKeys_pairedBox]
    rfl
  rw [hbox] at hresult
  rw [hbox'] at hresult'
  have heq := hsame (pairedBoxDocument [("height", 2), ("width", 1)])
    (pairedBoxDocument [("width", 1), ("height", 2)]) (.map []) (.map []) _ _ _ _ _ rfl rfl
    (reordered_pairedBox [("height", 2), ("width", 1)]) rfl rfl (.refl _) rfl rfl hresult hresult'
    rfl
  simp [Value.pairedBox, Value.box] at heq

end Conform
