import Conform.Proofs.SideBySide

/-!
# What is found does not depend on the place

A violation names its place by a text, which cannot be taken apart into keys again. So the same
walk at two places is compared in terms of *findings*, which keep the keys: a finding at a path
below some base becomes a violation when it is put under that base.

Two facts make up the comparison. A check is *portable*: whether it passes, fails or stops does not
depend on its site, which only words the violation (`Course.portable_apply`). And what is reported
at two places is the same finding below either (`Course.related_report`).

What a walk has to say is summed up in a `Verdict`, and the verdict on a list is put together from
those on its items (`Verdict.items`).
-/

namespace Conform

/-- **A finding**: a rule that the value at a path fails, and the parts of its violation other than
the path. -/
structure Finding where
  path : Path
  rule : Rule
  parts : Parts

namespace Finding

/-- A finding with some keys put in front of its path. -/
def under (base : Path) (f : Finding) : Finding := { f with path := base ++ f.path }

/-- The violation that reports a finding. -/
def violation (messages : Catalog) (f : Finding) : Violation :=
  .ofRule messages f.rule f.path.text f.parts

theorem under_append (base more : Path) (f : Finding) :
    f.under (base ++ more) = (f.under more).under base := by
  simp [under]

theorem under_nil (f : Finding) : f.under [] = f := rfl

end Finding

/-! ## Checks that can stand anywhere -/

/-- **A check that can stand anywhere**: the site only words the violation. -/
inductive Portable {α : Type} (x : Site → Checked α) : Prop
  | passes (a : α) (h : ∀ site, x site = .ok a)
  | fails (rule : Rule) (extra : Parts) (h : ∀ site, x site = site.fail rule extra)
  | stops (e : CheckFailure) (hne : ∀ v, e ≠ .violation v) (h : ∀ site, x site = .error e)

section Portable

variable {α β : Type}

theorem portable_pure (a : α) : Portable fun _ => pure a := .passes a (fun _ => rfl)

theorem portable_fail (rule : Rule) (extra : Parts) :
    Portable fun site => (site.fail rule extra : Checked α) := .fails rule extra (fun _ => rfl)

theorem Portable.bind {x : Site → Checked α} {f : α → Site → Checked β} (h : Portable x)
    (hf : ∀ a, Portable (f a)) : Portable fun site => x site >>= fun a => f a site := by
  cases h with
  | passes a h =>
    have hsame : (fun site => x site >>= fun a => f a site) = f a := by
      funext site
      rw [h site]
      rfl
    rw [hsame]
    exact hf a
  | fails rule extra h => exact .fails rule extra (fun site => by rw [h site]; rfl)
  | stops e hne h => exact .stops e hne (fun site => by rw [h site]; rfl)

theorem Portable.map {x : Site → Checked α} (f : α → β) (h : Portable x) :
    Portable fun site => f <$> x site := by
  simp only [map_eq_pure_bind]
  exact h.bind (fun a => portable_pure (f a))

theorem portable_require (condition : Bool) (rule : Rule) (extra : Parts) :
    Portable fun site => site.require condition rule extra := by
  unfold Site.require
  cases condition
  · exact portable_fail rule extra
  · exact portable_pure ()

/-- A rule that is asked before others. -/
theorem Portable.require_then {x : Site → Checked α} (h : Portable x) {condition : Bool}
    {rule : Rule} {extra : Parts} :
    Portable fun site => site.require condition rule extra >>= fun _ => x site :=
  (portable_require condition rule extra).bind (fun _ => h)

theorem portable_requireLength (length : Nat) (min max : Option Nat) (tooShort tooLong : Rule) :
    Portable fun site => site.requireLength length min max tooShort tooLong := by
  unfold Site.requireLength
  cases min with
  | none =>
    cases max with
    | none => exact portable_pure ()
    | some n => exact portable_require _ _ _
  | some m =>
    cases max with
    | none => exact (portable_pure ()).require_then
    | some n => exact (portable_require _ _ _).require_then

theorem StringRules.portable_check (r : StringRules) (s : String) :
    Portable fun site => r.check site s := by
  have hoccurs : ∀ p : Pattern, Portable fun _ => StringRules.occurs p (r.normalize s) := by
    intro p
    unfold occurs
    cases p.occursIn (r.normalize s) with
    | ok b => exact portable_pure b
    | error e => exact .stops (.search e) nofun (fun _ => rfl)
  have hlength := (portable_requireLength (r.normalize s).length r.min r.max .stringMin
    .stringMax).bind (fun _ => portable_pure (r.normalize s))
  unfold check
  cases r.allowed with
  | none =>
    cases r.pattern with
    | none => exact hlength
    | some p => exact (hoccurs p).bind (fun _ => hlength.require_then)
  | some texts =>
    refine Portable.require_then ?_
    cases r.pattern with
    | none => exact hlength
    | some p => exact (hoccurs p).bind (fun _ => hlength.require_then)

theorem NumberRules.portable_check (r : NumberRules) (n : Number) :
    Portable fun site => r.check site n := by
  unfold check
  have hsigns : Portable fun site => (do
      site.require (!r.integer || n.isWhole) .numberInteger []
      site.require (!r.positive || !n.lt zero) .numberPositive []
      site.require (!r.negative || !(zero.lt n || zero.same n)) .numberNegative [] :
      Checked Unit) :=
    (portable_require _ _ _).require_then.require_then
  -- the rules that may be missing come first
  cases r.allowed <;> cases r.min <;> cases r.max <;>
    first
    | exact hsigns
    | exact hsigns.require_then
    | exact hsigns.require_then.require_then
    | exact hsigns.require_then.require_then.require_then

theorem DateRules.portable_check (r : DateRules) (i : Instant) :
    Portable fun site => r.check site i := by
  unfold check
  cases r.min with
  | none =>
    cases r.max with
    | none => exact portable_pure ()
    | some b => exact portable_require _ _ _
  | some a =>
    cases r.max with
    | none => exact (portable_pure ()).require_then
    | some b => exact (portable_require _ _ _).require_then

theorem DateRules.portable_instant (v : Value) : Portable fun site => DateRules.instant site v := by
  unfold DateRules.instant
  cases v.instant with
  | ok i => exact portable_pure i
  | error e =>
    cases e with
    | outOfRange => exact .stops .dateOutOfRange nofun (fun _ => rfl)
    | _ => exact portable_fail _ _

theorem Node.portable_check (n : Node) (v : Value) : Portable fun site => n.check site v := by
  cases n with
  | string p r =>
    cases v with
    | text s => exact (r.portable_check s).map Value.text
    | _ => exact portable_fail _ _
  | number p r =>
    cases v with
    | number x => exact (r.portable_check x).map (fun _ => Value.number x)
    | _ => exact portable_fail _ _
  | boolean p =>
    cases v with
    | bool b => exact portable_pure _
    | _ => exact portable_fail _ _
  | date p r =>
    exact (DateRules.portable_instant v).bind (fun i =>
      (r.portable_check i).bind (fun _ => portable_pure (Value.dateTime i.toDateTime)))
  | object p s =>
    cases v with
    | map es => exact portable_pure _
    | _ => exact portable_fail _ _
  | array p t count =>
    cases v with
    | list vs => exact (portable_requireLength _ _ _ _ _).bind (fun _ => portable_pure _)
    | _ => exact portable_fail _ _

namespace Course

theorem portable_checkPresent (t : TypeSpec) (v : Value) :
    Portable fun site => checkPresent site t v := by
  unfold checkPresent
  split
  · exact portable_fail _ _
  · exact Node.portable_check _ _

/-- **What a type makes of a value** does not depend on the site. -/
theorem portable_apply (t : TypeSpec) (v : Value) : Portable fun site => apply site t v := by
  by_cases hnull : v = .null
  · subst hnull
    simp only [apply_null]
    split
    · exact portable_pure _
    · exact portable_fail _ _
  by_cases habsent : v = .absent
  · subst habsent
    cases hd : t.first.default? with
    | none =>
      simp only [apply_absent_of_none hd]
      split
      · exact portable_fail _ _
      · exact portable_pure _
    | some d =>
      by_cases hne : d = .null
      · subst hne
        simp only [apply_absent_of_null hd]
        exact portable_pure _
      · simp only [apply_absent_of_default hd hne]
        exact (portable_checkPresent t _).map some
  · simp only [apply_of_present hnull habsent]
    exact (portable_checkPresent t v).map some

end Course

end Portable

/-! ## The same walk at two places -/

/-- **The same findings at two places**, one walk below the one base and the other below the other.
Where validation ends at the first violation, the finding ends it. -/
def Comparison.moved (o : Options) (base base' : Path) : Comparison where
  notes := {
    holds := fun notes notes' => ∃ found : List Finding, (o.abortEarly = true → found = []) ∧
      notes = found.map (fun f => (f.under base).violation o.catalog) ∧
      notes' = found.map (fun f => (f.under base').violation o.catalog)
    nil := ⟨[], fun _ => rfl, rfl, rfl⟩
    append := by
      rintro _ _ _ _ ⟨found, hnone, rfl, rfl⟩ ⟨more, hmore, rfl, rfl⟩
      refine ⟨found ++ more, fun h => ?_, by rw [List.map_append], by rw [List.map_append]⟩
      rw [hnone h, hmore h]
      rfl }
  ends e e' := (∃ f : Finding, o.abortEarly = true ∧
      e = .violation ((f.under base).violation o.catalog) ∧
      e' = .violation ((f.under base').violation o.catalog)) ∨
    (e = e' ∧ ∀ v, e ≠ .violation v)

namespace Course

open Walk

variable {s s' : Schema} {o : Options}

/-- **One finding is reported** at two places. -/
theorem related_report {base base' : Path} (f : Finding) :
    Related (.moved o base base') Eq
      ((⟨s, o⟩ : Course).report ((f.under base).violation o.catalog))
      ((⟨s', o⟩ : Course).report ((f.under base').violation o.catalog)) := by
  unfold report
  dsimp only
  split
  next habort => exact related_throw (.inl ⟨f, habort, rfl, rfl⟩)
  next habort => exact ⟨rfl, [f], fun h => absurd h habort, rfl, rfl⟩

end Course

/-! ## Verdicts -/

/-- **What a validation has to say**, its findings with their keys. -/
inductive Verdict (α : Type) where
  | returned (a : α)
  | rejected (first : Finding) (others : List Finding)
  | failed (e : EngineError)

namespace Verdict

variable {α β : Type}

/-- A verdict with its result changed. -/
def map (f : α → β) : Verdict α → Verdict β
  | returned a => returned (f a)
  | rejected first others => rejected first others
  | failed e => failed e

/-- A verdict with some keys put in front of the paths of its findings. -/
def under (base : Path) : Verdict α → Verdict α
  | returned a => returned a
  | rejected first others => rejected (first.under base) (others.map (·.under base))
  | failed e => failed e

/-- The outcome that a caller sees, the findings reported as violations. -/
def outcome (messages : Catalog) : Verdict Value → Validated
  | returned v => .ok v
  | rejected first others =>
    .error (.rejected ⟨first.violation messages, others.map (·.violation messages)⟩)
  | failed e => .error (.engine e)

/-- The verdict on a list with one more item in front. What ends the validation of the first item
keeps the others from being looked at; other findings come before those of the others. -/
def cons (abortEarly : Bool) : Verdict α → Verdict (List α) → Verdict (List α)
  | returned a, rest => rest.map (a :: ·)
  | failed e, _ => failed e
  | rejected first others, rest =>
    if abortEarly then rejected first others else
      match rest with
      | returned _ => rejected first others
      | rejected first' others' => rejected first (others ++ first' :: others')
      | failed e => failed e

/-- **The verdict on a list**: those on its items, from an index on, each under its own index. -/
def items (abortEarly : Bool) : Nat → List (Verdict α) → Verdict (List α)
  | _, [] => returned []
  | index, d :: ds => (d.under [.int index]).cons abortEarly (items abortEarly (index + 1) ds)

theorem outcome_eq_ok {messages : Catalog} {d : Verdict Value} {v : Value} :
    d.outcome messages = .ok v ↔ d = returned v := by
  cases d <;> simp [outcome]

theorem map_eq_returned {f : α → β} {d : Verdict α} {b : β} :
    d.map f = returned b ↔ ∃ a, d = returned a ∧ f a = b := by
  cases d <;> simp [map]

theorem map_map {γ : Type} (f : α → β) (g : β → γ) (d : Verdict α) :
    (d.map f).map g = d.map (g ∘ f) := by
  cases d <;> rfl

theorem under_map (base : Path) (f : α → β) (d : Verdict α) :
    (d.map f).under base = (d.under base).map f := by
  cases d <;> rfl

theorem under_eq_returned {base : Path} {d : Verdict α} {a : α} :
    d.under base = returned a ↔ d = returned a := by
  cases d <;> simp [under]

theorem under_nil (d : Verdict α) : d.under [] = d := by
  cases d <;> simp [under, Finding.under_nil]

theorem cons_eq_returned {abortEarly : Bool} {d : Verdict α} {rest : Verdict (List α)}
    {ws : List α} : d.cons abortEarly rest = returned ws ↔
      ∃ w ws', d = returned w ∧ rest = returned ws' ∧ w :: ws' = ws := by
  cases d <;> cases rest <;> cases abortEarly <;> simp [cons, map]

/-- **A list is returned** if all of its items are. -/
theorem items_eq_returned {abortEarly : Bool} {index : Nat} {ds : List (Verdict α)}
    {ws : List α} : items abortEarly index ds = returned ws ↔
      List.Forall₂ (fun d w => d = returned w) ds ws := by
  induction ds generalizing index ws with
  | nil =>
    rw [items, List.forall₂_nil_left_iff, returned.injEq]
    exact eq_comm
  | cons d ds ih =>
    rw [items, cons_eq_returned, List.forall₂_cons_left_iff]
    simp only [under_eq_returned, ih]
    exact ⟨fun ⟨w, ws', hd, hds, h⟩ => ⟨w, ws', hd, hds, h.symm⟩,
      fun ⟨w, ws', hd, hds, h⟩ => ⟨w, ws', hd, hds, h.symm⟩⟩

/-- Results may be arranged item by item. -/
theorem items_map (f : α → β) (abortEarly : Bool) (index : Nat) (ds : List (Verdict α)) :
    items abortEarly index (ds.map (·.map f)) = (items abortEarly index ds).map (List.map f) := by
  induction ds generalizing index with
  | nil => rfl
  | cons d ds ih =>
    rw [List.map_cons, items, items, ih, under_map]
    generalize d.under [.int index] = d
    generalize items abortEarly (index + 1) ds = rest
    cases d <;> cases rest <;> cases abortEarly <;> rfl

end Verdict

/-- The failure that a walk ends in early, if it is no violation. -/
def Interruption.engineError? : Interruption → Option EngineError
  | violation _ => none
  | dateOutOfRange => some .dateOutOfRange
  | search e => some (.search e)

namespace Walk

variable {α β : Type} {o : Options} {base : Path}

/-- **What a walk below a base tells.** -/
def Tells (o : Options) (base : Path) (m : Walk α) : Verdict α → Prop
  | .returned a => m.Yields a
  | .rejected first others =>
    if o.abortEarly then
      m.run [] = .error (.violation ((first.under base).violation o.catalog)) ∧ others = []
    else ∃ a, m.run [] =
      .ok (a, (first :: others).map (fun f => (f.under base).violation o.catalog))
  | .failed e => ∃ i, m.run [] = .error i ∧ i.engineError? = some e

/-- **Walks that find the same at two places** tell the same. -/
theorem Related.exists_verdict {base' : Path} {m m' : Walk α}
    (h : Related (.moved o base base') Eq m m') :
    ∃ d : Verdict α, m.Tells o base d ∧ m'.Tells o base' d := by
  unfold Related at h
  cases hm : m.run [] with
  | error e =>
    cases hm' : m'.run [] with
    | ok r => rw [hm, hm'] at h; exact h.elim
    | error e' =>
      rw [hm, hm'] at h
      rcases h with ⟨f, habort, rfl, rfl⟩ | ⟨rfl, hne⟩
      · refine ⟨.rejected f [], ?_, ?_⟩
        · rw [Tells, if_pos habort]
          exact ⟨hm, rfl⟩
        · rw [Tells, if_pos habort]
          exact ⟨hm', rfl⟩
      · cases he : e.engineError? with
        | some failure => exact ⟨.failed failure, ⟨e, hm, he⟩, ⟨e, hm', he⟩⟩
        | none =>
          cases e with
          | violation v => exact absurd rfl (hne v)
          | _ => cases he
  | ok r =>
    cases hm' : m'.run [] with
    | error e' => rw [hm, hm'] at h; exact h.elim
    | ok r' =>
      rw [hm, hm'] at h
      obtain ⟨a, notes⟩ := r
      obtain ⟨a', notes'⟩ := r'
      obtain ⟨rfl, found, hnone, rfl, rfl⟩ := h
      cases found with
      | nil => exact ⟨.returned a, hm, hm'⟩
      | cons f found =>
        have habort : ¬o.abortEarly = true := fun habort => by cases hnone habort
        refine ⟨.rejected f found, ?_, ?_⟩
        · rw [Tells, if_neg habort]
          exact ⟨a, hm⟩
        · rw [Tells, if_neg habort]
          exact ⟨a, hm'⟩

section Tells

variable {m m' : Walk α} {d : Verdict α}

/-- What a walk tells shows in how it ends from no notes. -/
theorem Tells.congr (h : m'.run [] = m.run []) (hm : m.Tells o base d) : m'.Tells o base d := by
  cases d with
  | returned a => exact h.trans hm
  | failed e =>
    obtain ⟨i, hi, he⟩ := hm
    exact ⟨i, h.trans hi, he⟩
  | rejected first others =>
    unfold Tells at hm ⊢
    rwa [h]

theorem tells_rejected_of_abort (habort : o.abortEarly = true) {first : Finding}
    {others : List Finding} : m.Tells o base (.rejected first others) ↔
      m.run [] = .error (.violation ((first.under base).violation o.catalog)) ∧ others = [] := by
  rw [Tells, if_pos habort]

theorem tells_rejected_of_collect (habort : ¬o.abortEarly = true) {first : Finding}
    {others : List Finding} : m.Tells o base (.rejected first others) ↔
      ∃ a, m.run [] =
        .ok (a, (first :: others).map (fun f => (f.under base).violation o.catalog)) := by
  rw [Tells, if_neg habort]

theorem Tells.map (h : m.Tells o base d) (f : α → β) : (f <$> m).Tells o base (d.map f) := by
  rw [map_eq_pure_bind]
  cases d with
  | returned a => exact (yields_bind (fun a => appends_pure (f a))).mpr ⟨a, h, yields_pure.mpr rfl⟩
  | failed e =>
    obtain ⟨i, hi, he⟩ := h
    exact ⟨i, run_bind_of_error hi, he⟩
  | rejected first others =>
    by_cases habort : o.abortEarly = true
    · obtain ⟨hend, hothers⟩ := (tells_rejected_of_abort habort).mp h
      exact (tells_rejected_of_abort habort).mpr ⟨run_bind_of_error hend, hothers⟩
    · obtain ⟨a, ha⟩ := (tells_rejected_of_collect habort).mp h
      refine (tells_rejected_of_collect habort).mpr ⟨f a, ?_⟩
      rw [run_bind_of_ok (f := fun a => pure (f a)) (appends_pure (f a)) ha]
      show Except.ok (f a, _ ++ []) = _
      rw [List.append_nil]

/-- Keys of the base may be told with the findings instead. -/
theorem Tells.under {more : Path} (h : m.Tells o (base ++ more) d) :
    m.Tells o base (d.under more) := by
  cases d with
  | returned a => exact h
  | failed e => exact h
  | rejected first others =>
    by_cases habort : o.abortEarly = true
    · obtain ⟨hend, rfl⟩ := (tells_rejected_of_abort habort).mp h
      refine (tells_rejected_of_abort habort).mpr ⟨?_, rfl⟩
      rwa [← Finding.under_append]
    · obtain ⟨a, ha⟩ := (tells_rejected_of_collect habort).mp h
      refine (tells_rejected_of_collect habort).mpr ⟨a, ?_⟩
      rw [ha, ← List.map_cons, List.map_map]
      simp only [Function.comp_def, Finding.under_append]

end Tells

/-- **The findings of one item come before those of the items after it.** -/
theorem Tells.cons {m : Walk (Option α)} {rest : Walk (List α)} {d : Verdict α}
    {d' : Verdict (List α)} (hm : m.Tells o base (d.map some)) (hrest : rest.Tells o base d')
    (happends : rest.Appends) :
    (m >>= fun child => rest >>= fun others => pure (child.toList ++ others)).Tells o base
      (d.cons o.abortEarly d') := by
  -- what follows the item, which has become `child`
  let next : Option α → Walk (List α) := fun child =>
    rest >>= fun others => pure (child.toList ++ others)
  have hnext : ∀ child, (next child).Appends := fun _ => happends.bind (fun _ => appends_pure _)
  show (m >>= next).Tells o base _
  cases d with
  | returned a =>
    have hmap : (next (some a)).Tells o base (d'.map (a :: ·)) := by
      have hmap := hrest.map (a :: ·)
      rwa [map_eq_pure_bind] at hmap
    refine hmap.congr ?_
    rw [StateT.run_bind, show m.run [] = .ok (some a, []) from hm]
    rfl
  | failed e =>
    obtain ⟨i, hi, he⟩ := hm
    exact ⟨i, run_bind_of_error hi, he⟩
  | rejected first others =>
    unfold Verdict.cons
    dsimp only
    by_cases habort : o.abortEarly = true
    · obtain ⟨hend, rfl⟩ := (tells_rejected_of_abort habort).mp hm
      rw [if_pos habort]
      exact (tells_rejected_of_abort habort).mpr ⟨run_bind_of_error hend, rfl⟩
    · obtain ⟨child, hchild⟩ := (tells_rejected_of_collect habort).mp hm
      rw [if_neg habort]
      have hrun := run_bind_of_ok (hnext child) hchild
      have hafter : ∀ {as notes}, rest.run [] = .ok (as, notes) →
          (next child).run [] = .ok (child.toList ++ as, notes) := by
        intro as notes has
        refine (run_bind_of_ok (f := fun others => pure (child.toList ++ others))
          (appends_pure _) has).trans ?_
        show Except.ok (_, notes ++ []) = _
        rw [List.append_nil]
      cases d' with
      | returned as =>
        refine (tells_rejected_of_collect habort).mpr ⟨child.toList ++ as, hrun.trans ?_⟩
        rw [hafter hrest]
        show Except.ok (_, _ ++ []) = _
        rw [List.append_nil]
      | failed e =>
        obtain ⟨i, hi, he⟩ := hrest
        refine ⟨i, hrun.trans ?_, he⟩
        rw [show (next child).run [] = .error i from run_bind_of_error hi]
        rfl
      | rejected first' others' =>
        obtain ⟨as, has⟩ := (tells_rejected_of_collect habort).mp hrest
        refine (tells_rejected_of_collect habort).mpr ⟨child.toList ++ as, hrun.trans ?_⟩
        rw [hafter has, ← List.cons_append, List.map_append]
        rfl

end Walk

end Conform
