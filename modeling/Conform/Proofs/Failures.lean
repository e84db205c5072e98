import Conform.Proofs.Settled

/-!
# Failures that are no violations

What a schema cannot be read from never reaches validation: a union has at least two members or
candidates, a pattern is one that can be compiled, a bound on dates names an instant, and a default
is of the kind of its node (`Node.Prepared`). So there is little left that a check can fail for
without the value being at fault. A date may leave the calendar when it is moved to universal time,
and the search for a pattern may have no answer. There is nothing else: a check tells why it fails
(`Node.Explains`).
-/

namespace Conform

/-! ## Why a check fails -/

namespace Checked

variable {ε α β : Type} {P : ε → Prop}

/-- **A computation that fails for reasons of some sort only.** -/
def FailsFor (P : ε → Prop) (x : Except ε α) : Prop := ∀ e, x = .error e → P e

theorem failsFor_ok (a : α) : FailsFor P (.ok a : Except ε α) := nofun

theorem failsFor_error {e : ε} (h : P e) : FailsFor P (.error e : Except ε α) := by
  rintro _ ⟨⟩
  exact h

theorem FailsFor.bind {x : Except ε α} {f : α → Except ε β} (hx : FailsFor P x)
    (hf : ∀ a, x = .ok a → FailsFor P (f a)) : FailsFor P (x >>= f) := by
  cases x with
  | error e => exact failsFor_error (hx e rfl)
  | ok a => exact hf a rfl

theorem FailsFor.map {x : Except ε α} (f : α → β) (hx : FailsFor P x) : FailsFor P (f <$> x) := by
  rw [map_eq_pure_bind]
  exact hx.bind (fun a _ => failsFor_ok (f a))

end Checked

open Checked

section Checks

variable {P : CheckFailure → Prop} {site : Site} {α : Type}

theorem Site.failsFor_fail (hviolation : ∀ w, P (.violation w)) (rule : Rule) (extra : Parts) :
    FailsFor P (site.fail rule extra : Checked α) := failsFor_error (hviolation _)

theorem Site.failsFor_require (hviolation : ∀ w, P (.violation w)) (condition : Bool) (rule : Rule)
    (extra : Parts) : FailsFor P (site.require condition rule extra) := by
  cases condition
  · exact site.failsFor_fail hviolation rule extra
  · exact failsFor_ok ()

/-- A rule that is asked before others. -/
theorem Checked.FailsFor.require_then {x : Checked α} (h : FailsFor P x)
    (hviolation : ∀ w, P (.violation w)) {condition : Bool} {rule : Rule} {extra : Parts} :
    FailsFor P (site.require condition rule extra >>= fun _ => x) :=
  (site.failsFor_require hviolation _ _ _).bind (fun _ _ => h)

theorem Site.failsFor_requireLength (hviolation : ∀ w, P (.violation w)) (length : Nat)
    (min max : Option Nat) (tooShort tooLong : Rule) :
    FailsFor P (site.requireLength length min max tooShort tooLong) := by
  unfold requireLength
  cases min <;> cases max
  · exact failsFor_ok ()
  · exact site.failsFor_require hviolation _ _ _
  · exact (failsFor_ok ()).require_then hviolation
  · exact (site.failsFor_require hviolation _ _ _).require_then hviolation

/-- The search for the pattern apart, a check of a text fails by violations. -/
theorem StringRules.failsFor_check (hviolation : ∀ w, P (.violation w)) {r : StringRules}
    {s : String} (hsearch : ∀ q e, r.pattern = some q →
      q.occursIn (r.normalize s) = .error e → P (.search e)) : FailsFor P (r.check site s) := by
  have hlength := (site.failsFor_requireLength hviolation (r.normalize s).length r.min r.max
    .stringMin .stringMax).bind (fun _ _ => failsFor_ok (r.normalize s))
  have hoccurs : ∀ q, r.pattern = some q → FailsFor P (occurs q (r.normalize s)) := by
    intro q hq
    unfold occurs
    cases hsearched : q.occursIn (r.normalize s) with
    | ok b => exact failsFor_ok b
    | error e => exact failsFor_error (hsearch q e hq hsearched)
  unfold check
  cases r.allowed with
  | none =>
    cases hq : r.pattern with
    | none => exact hlength
    | some q => exact (hoccurs q hq).bind (fun _ _ => hlength.require_then hviolation)
  | some texts =>
    refine FailsFor.require_then ?_ hviolation
    cases hq : r.pattern with
    | none => exact hlength
    | some q => exact (hoccurs q hq).bind (fun _ _ => hlength.require_then hviolation)

/-- **A check of a number fails by violations only**: any two numbers can be compared. -/
theorem NumberRules.failsFor_check (hviolation : ∀ w, P (.violation w)) (r : NumberRules)
    (n : Number) : FailsFor P (r.check site n) := by
  have hsigns : FailsFor P (do
      site.require (!r.integer || n.isWhole) .numberInteger []
      site.require (!r.positive || !n.lt zero) .numberPositive []
      site.require (!r.negative || !(zero.lt n || zero.same n)) .numberNegative [] :
      Checked Unit) :=
    ((site.failsFor_require hviolation _ _ _).require_then hviolation).require_then hviolation
  unfold check
  -- the rules that may be missing come first
  cases r.allowed <;> cases r.min <;> cases r.max <;>
    first
    | exact hsigns
    | exact hsigns.require_then hviolation
    | exact (hsigns.require_then hviolation).require_then hviolation
    | exact ((hsigns.require_then hviolation).require_then hviolation).require_then hviolation

theorem DateRules.failsFor_check (hviolation : ∀ w, P (.violation w)) (r : DateRules)
    (i : Instant) : FailsFor P (r.check site i) := by
  unfold check
  cases r.min <;> cases r.max
  · exact failsFor_ok ()
  · exact site.failsFor_require hviolation _ _ _
  · exact (failsFor_ok ()).require_then hviolation
  · exact (site.failsFor_require hviolation _ _ _).require_then hviolation

/-- **What explains the failure of a check.** A violation needs no explanation. -/
def Node.Explains (n : Node) (v : Value) : CheckFailure → Prop
  | .violation _ => True
  | .dateOutOfRange => n.kind = .date ∧ v.instant = .error .outOfRange
  | .search e => ∃ p r q s, n = .string p r ∧ v = .text s ∧ r.pattern = some q ∧
    q.occursIn (r.normalize s) = .error e

/-- **A check that fails can be explained.** -/
theorem Node.explains_of_check (n : Node) (site : Site) (v : Value) :
    FailsFor (n.Explains v) (n.check site v) := by
  have hviolation : ∀ w, n.Explains v (.violation w) := fun _ => trivial
  have hfail : ∀ (rule : Rule) (extra : Parts),
      FailsFor (n.Explains v) (site.fail rule extra : Checked Value) :=
    fun rule extra => site.failsFor_fail hviolation rule extra
  cases n with
  | string p r =>
    cases v with
    | text s =>
      exact (StringRules.failsFor_check hviolation (fun q e hq he =>
        ⟨p, r, q, s, rfl, rfl, hq, he⟩)).map Value.text
    | _ => exact hfail _ _
  | number p r =>
    cases v with
    | number x => exact (r.failsFor_check hviolation x).map (fun _ => Value.number x)
    | _ => exact hfail _ _
  | boolean p =>
    cases v with
    | bool b => exact failsFor_ok _
    | _ => exact hfail _ _
  | date p r =>
    refine FailsFor.bind ?_ (fun i _ => (r.failsFor_check hviolation i).bind
      (fun _ _ => failsFor_ok (Value.dateTime i.toDateTime)))
    unfold DateRules.instant
    cases hi : v.instant with
    | ok i => exact failsFor_ok i
    | error e =>
      cases e with
      | outOfRange => exact failsFor_error ⟨rfl, hi⟩
      | _ => exact site.failsFor_fail hviolation _ _
  | object p s =>
    cases v with
    | map es => exact failsFor_ok _
    | _ => exact hfail _ _
  | array p t count =>
    cases v with
    | list vs =>
      exact (site.failsFor_requireLength hviolation _ _ _ _ _).bind (fun _ _ => failsFor_ok _)
    | _ => exact hfail _ _

end Checks

/-! ## Nodes that are prepared -/

/-- **A node that has all that its checks need**: its pattern is compiled without fail, whatever has
been compiled before, its bounds on dates name the instants that they are compared by, and numbers
of any sort can be compared with its own. -/
structure Node.Prepared (n : Node) : Prop where
  kind : n.kind ∈ Kind.all
  pattern : ∀ p r q, n = .string p r → r.pattern = some q → ∀ cache : PatternCache,
    ∃ cache', cache.get q.source = .ok (q, cache')
  bounds : ∀ p r b, n = .date p r → r.min = some b ∨ r.max = some b →
    instantOfText b.text = .ok b.instant
  comparisons : ∀ p r site x f, n = .number p r → r.check site x = .error f → ∃ w, f = .violation w

/-- Patterns with one source are one pattern. -/
theorem Pattern.ext_source {p q : Pattern} (h : p.source = q.source) : p = q := by
  obtain ⟨source, regex, hp⟩ := p
  obtain ⟨source', regex', hq⟩ := q
  cases h
  cases hp.symm.trans hq
  rfl

/-- **The source of a pattern** is compiled to the pattern. -/
theorem Pattern.compile_source (p : Pattern) : Pattern.compile p.source = .ok p := by
  unfold Pattern.compile
  split
  next r hr => exact congrArg _ (Pattern.ext_source rfl)
  next e he => cases p.spells.symm.trans he

/-- **A pattern is compiled again without fail**, from any cache. -/
theorem PatternCache.get_source (c : PatternCache) (p : Pattern) :
    ∃ c', c.get p.source = .ok (p, c') := by
  unfold get
  cases hfind : c.find? p.source with
  | some q =>
    have hsource := List.find?_some hfind
    rw [Pattern.ext_source (beq_iff_eq.mp hsource)]
    exact ⟨c, rfl⟩
  | none =>
    rw [p.compile_source]
    exact ⟨_, rfl⟩

/-- **Every node is prepared**, for no other can be built. -/
theorem Node.prepared (n : Node) : n.Prepared where
  kind := by cases n <;> simp [kind, Kind.all]
  pattern _ _ q _ _ cache := cache.get_source q
  bounds _ _ b _ _ := b.names_instant
  comparisons _ r site x f _ hf :=
    NumberRules.failsFor_check (P := fun f => ∃ w, f = .violation w) (fun w => ⟨w, rfl⟩) r x f hf

end Conform
