import Conform.Proofs.Casing
import Conform.Validation.Check

/-!
# What the rules accept

A check runs through the rules of a node one after the other and ends at the first that is failed.
Here the rules are read together, as what is true of a value that passes them all: `Node.Admits`
for a value in normal form, and `Node.Accepts` for a value and its normal form. A check accepts
exactly these (`Node.check_eq_ok_iff`).

A value in normal form that is admitted is accepted as it is (`Node.Admits.accepts`), and what is
accepted is admitted in its normal form (`Node.Accepts.admits`). So checking anew what has been
accepted changes nothing; for texts this rests on the stability of their normal form.
-/

namespace Conform

/-! ## Outcomes of checks -/

namespace Checked

variable {ε α β : Type}

theorem bind_eq_ok {x : Except ε α} {f : α → Except ε β} {b : β} :
    x >>= f = .ok b ↔ ∃ a, x = .ok a ∧ f a = .ok b := by
  cases x with
  | error e => exact ⟨nofun, nofun⟩
  | ok a => exact ⟨fun h => ⟨a, rfl, h⟩, fun ⟨_, ha, h⟩ => by cases ha; exact h⟩

theorem pure_eq_ok {a b : α} : (pure a : Except ε α) = .ok b ↔ a = b := by
  show Except.ok a = Except.ok b ↔ a = b
  simp

theorem map_eq_ok {x : Except ε α} {f : α → β} {b : β} :
    f <$> x = .ok b ↔ ∃ a, x = .ok a ∧ f a = b := by
  cases x with
  | error e => exact ⟨nofun, nofun⟩
  | ok a => exact ⟨fun h => ⟨a, rfl, Except.ok.inj h⟩, fun ⟨_, ha, h⟩ => by cases ha; rw [← h]; rfl⟩

end Checked

open Checked

namespace Site

theorem fail_ne_ok {α : Type} {s : Site} {rule : Rule} {extra : Parts} {a : α} :
    s.fail rule extra ≠ .ok a := nofun

theorem require_eq_ok {s : Site} {condition : Bool} {rule : Rule} {extra : Parts} {u : Unit} :
    s.require condition rule extra = .ok u ↔ condition = true := by
  cases condition
  · exact ⟨nofun, nofun⟩
  · exact ⟨fun _ => rfl, fun _ => rfl⟩

/-- A rule that is only asked for if a condition holds. -/
theorem require_or_eq_ok {s : Site} {asked condition : Bool} {rule : Rule} {extra : Parts}
    {u : Unit} : s.require (!asked || condition) rule extra = .ok u ↔
      (asked = true → condition = true) := by
  rw [require_eq_ok]
  cases asked <;> simp

theorem requireLength_eq_ok {s : Site} {length : Nat} {min max : Option Nat}
    {tooShort tooLong : Rule} {u : Unit} :
    s.requireLength length min max tooShort tooLong = .ok u ↔
      (∀ n, min = some n → n ≤ length) ∧ ∀ n, max = some n → length ≤ n := by
  unfold requireLength
  cases min <;> cases max <;> simp [bind_eq_ok, pure_eq_ok, require_eq_ok]

end Site

/-! ## The rules of each kind -/

/-- **A text that passes the rules**, in normal form. -/
structure StringRules.Admits (r : StringRules) (s : String) : Prop where
  normal : r.normalize s = s
  allowed : ∀ texts, r.allowed = some texts → s ∈ texts.map r.normalize
  pattern : ∀ p, r.pattern = some p → p.occursIn s = .ok true
  min : ∀ n, r.min = some n → n ≤ s.length
  max : ∀ n, r.max = some n → s.length ≤ n

/-- **A number that passes the rules.** The datum that is no number is neither below nor above any
bound, and it is equal to nothing, but it is found in a list that holds the very object. -/
structure NumberRules.Admits (r : NumberRules) (n : Number) : Prop where
  allowed : ∀ ns, r.allowed = some ns → ∃ m ∈ ns, n.alike m = true
  min : ∀ m, r.min = some m → n.lt m = false
  max : ∀ m, r.max = some m → m.lt n = false
  integer : r.integer = true → n.isWhole = true
  positive : r.positive = true → n.lt zero = false
  negative : r.negative = true → zero.lt n = false ∧ zero.same n = false

/-- **An instant that passes the rules.** -/
structure DateRules.Admits (r : DateRules) (i : Instant) : Prop where
  min : ∀ b, r.min = some b → i.before b.instant = false
  max : ∀ b, r.max = some b → b.instant.before i = false

/-- **A number of items that passes the rules.** -/
structure ItemCount.Admits (c : ItemCount) (length : Nat) : Prop where
  min : ∀ n, c.min = some n → n ≤ length
  max : ∀ n, c.max = some n → length ≤ n

theorem StringRules.occurs_eq_ok {p : Pattern} {s : String} {b : Bool} :
    occurs p s = .ok b ↔ p.occursIn s = .ok b := by
  unfold occurs
  cases p.occursIn s <;> simp [Except.mapError]

theorem StringRules.check_eq_ok_iff {r : StringRules} {site : Site} {s s' : String} :
    r.check site s = .ok s' ↔ r.normalize s = s' ∧ r.Admits s' := by
  have hcheck : r.check site s = .ok s' ↔ r.normalize s = s' ∧
      (∀ texts, r.allowed = some texts → r.normalize s ∈ texts.map r.normalize) ∧
      (∀ p, r.pattern = some p → p.occursIn (r.normalize s) = .ok true) ∧
      (∀ n, r.min = some n → n ≤ (r.normalize s).length) ∧
      ∀ n, r.max = some n → (r.normalize s).length ≤ n := by
    unfold check
    cases r.allowed <;> cases r.pattern <;>
      simp [bind_eq_ok, map_eq_ok, Site.require_eq_ok, Site.requireLength_eq_ok, occurs_eq_ok,
        and_comm, and_left_comm]
  rw [hcheck]
  constructor
  · rintro ⟨rfl, hallowed, hpattern, hmin, hmax⟩
    exact ⟨rfl, r.normalize_of_isNormal (r.isNormal_normalize s), hallowed, hpattern, hmin,
      hmax⟩
  · rintro ⟨rfl, h⟩
    exact ⟨rfl, h.allowed, h.pattern, h.min, h.max⟩

theorem NumberRules.check_eq_ok_iff {r : NumberRules} {site : Site} {n : Number} {u : Unit} :
    r.check site n = .ok u ↔ r.Admits n := by
  have hcheck : r.check site n = .ok u ↔
      (∀ ns, r.allowed = some ns → ∃ m ∈ ns, n.alike m = true) ∧
      (∀ m, r.min = some m → n.lt m = false) ∧ (∀ m, r.max = some m → m.lt n = false) ∧
      (r.integer = true → n.isWhole = true) ∧ (r.positive = true → n.lt zero = false) ∧
      (r.negative = true → zero.lt n = false ∧ zero.same n = false) := by
    unfold check
    cases r.allowed <;> cases r.min <;> cases r.max <;>
      simp only [bind_eq_ok, Site.require_or_eq_ok] <;> simp [Site.require_eq_ok]
  exact hcheck.trans ⟨fun ⟨h₁, h₂, h₃, h₄, h₅, h₆⟩ => ⟨h₁, h₂, h₃, h₄, h₅, h₆⟩,
    fun h => ⟨h.allowed, h.min, h.max, h.integer, h.positive, h.negative⟩⟩

theorem DateRules.check_eq_ok_iff {r : DateRules} {site : Site} {i : Instant} {u : Unit} :
    r.check site i = .ok u ↔ r.Admits i := by
  have hcheck : r.check site i = .ok u ↔ (∀ b, r.min = some b → i.before b.instant = false) ∧
      ∀ b, r.max = some b → b.instant.before i = false := by
    unfold check
    cases r.min <;> cases r.max <;> simp [bind_eq_ok, pure_eq_ok, Site.require_eq_ok]
  exact hcheck.trans ⟨fun ⟨h₁, h₂⟩ => ⟨h₁, h₂⟩, fun h => ⟨h.min, h.max⟩⟩

/-! ## Nodes -/

namespace Node

/-- **What a node makes of a value that it accepts.** -/
inductive Accepts : Node → Value → Value → Prop
  | string {p : Presence String} {r : StringRules} {s : String} (h : r.Admits (r.normalize s)) :
    Accepts (.string p r) (.text s) (.text (r.normalize s))
  | number {p : Presence Number} {r : NumberRules} {x : Number} (h : r.Admits x) :
    Accepts (.number p r) (.number x) (.number x)
  | boolean {p : Presence Bool} {b : Bool} : Accepts (.boolean p) (.bool b) (.bool b)
  | date {p : Presence String} {r : DateRules} {v : Value} {i : Instant}
    (hi : v.instant = .ok i) (h : r.Admits i) : Accepts (.date p r) v (.dateTime i.toDateTime)
  | object {p : Presence (List (String × Value))} {s : Schema} {es : List (Value × Value)} :
    Accepts (.object p s) (.map es) (.map es)
  | array {p : Presence (List Value)} {t : TypeSpec} {c : ItemCount} {vs : List Value}
    (h : c.Admits vs.length) : Accepts (.array p t c) (.list vs) (.list vs)

/-- **A value in normal form that a node admits**: it is of the kind of the node and satisfies
every rule. -/
inductive Admits : Node → Value → Prop
  | string {p : Presence String} {r : StringRules} {s : String} (h : r.Admits s) :
    Admits (.string p r) (.text s)
  | number {p : Presence Number} {r : NumberRules} {x : Number} (h : r.Admits x) :
    Admits (.number p r) (.number x)
  | boolean {p : Presence Bool} {b : Bool} : Admits (.boolean p) (.bool b)
  /-- A date is an instant, written in universal time. -/
  | date {p : Presence String} {r : DateRules} {i : Instant} (h : r.Admits i) :
    Admits (.date p r) (.dateTime i.toDateTime)
  | object {p : Presence (List (String × Value))} {s : Schema} {es : List (Value × Value)} :
    Admits (.object p s) (.map es)
  | array {p : Presence (List Value)} {t : TypeSpec} {c : ItemCount} {vs : List Value}
    (h : c.Admits vs.length) : Admits (.array p t c) (.list vs)

theorem instant_eq_ok {site : Site} {v : Value} {i : Instant} :
    DateRules.instant site v = .ok i ↔ v.instant = .ok i := by
  unfold DateRules.instant
  cases v.instant with
  | ok j => exact pure_eq_ok.trans (by simp)
  | error e => cases e <;> exact ⟨nofun, nofun⟩

/-- **A check accepts what passes all rules.** -/
theorem check_eq_ok_iff {n : Node} {site : Site} {v w : Value} :
    n.check site v = .ok w ↔ n.Accepts v w := by
  constructor
  · intro h
    cases n with
    | string p r =>
      cases v <;> try cases h
      case text s =>
        obtain ⟨s', hs, rfl⟩ := map_eq_ok.mp h
        obtain ⟨rfl, hr⟩ := StringRules.check_eq_ok_iff.mp hs
        exact .string hr
    | number p r =>
      cases v <;> try cases h
      case number x =>
        obtain ⟨u, hx, rfl⟩ := map_eq_ok.mp h
        exact .number (NumberRules.check_eq_ok_iff.mp hx)
    | boolean p =>
      cases v <;> cases h
      exact .boolean
    | date p r =>
      obtain ⟨i, hi, h⟩ := bind_eq_ok.mp h
      obtain ⟨u, hr, h⟩ := bind_eq_ok.mp h
      cases pure_eq_ok.mp h
      exact .date (instant_eq_ok.mp hi) (DateRules.check_eq_ok_iff.mp hr)
    | object p s =>
      cases v <;> cases h
      exact .object
    | array p t c =>
      cases v <;> try cases h
      case list vs =>
        obtain ⟨u, hc, h⟩ := bind_eq_ok.mp h
        cases pure_eq_ok.mp h
        obtain ⟨hmin, hmax⟩ := Site.requireLength_eq_ok.mp hc
        exact .array ⟨hmin, hmax⟩
  · intro h
    cases h with
    | string h => exact map_eq_ok.mpr ⟨_, StringRules.check_eq_ok_iff.mpr ⟨rfl, h⟩, rfl⟩
    | number h => exact map_eq_ok.mpr ⟨(), NumberRules.check_eq_ok_iff.mpr h, rfl⟩
    | boolean => rfl
    | date hi h =>
      exact bind_eq_ok.mpr ⟨_, instant_eq_ok.mpr hi,
        bind_eq_ok.mpr ⟨(), DateRules.check_eq_ok_iff.mpr h, rfl⟩⟩
    | object => rfl
    | array h => exact bind_eq_ok.mpr ⟨(), Site.requireLength_eq_ok.mpr ⟨h.min, h.max⟩, rfl⟩

variable {n m : Node} {v w : Value}

/-- What is accepted is admitted in its normal form. -/
theorem Accepts.admits (h : n.Accepts v w) : n.Admits w := by
  cases h with
  | string h => exact .string h
  | number h => exact .number h
  | boolean => exact .boolean
  | date _ h => exact .date h
  | object => exact .object
  | array h => exact .array h

/-- **What is admitted is accepted as it is.** -/
theorem Admits.accepts (h : n.Admits v) : n.Accepts v v := by
  cases h with
  | @string p r s h =>
    have hself : Accepts (.string p r) (.text s) (.text (r.normalize s)) :=
      .string (by rwa [h.normal])
    rwa [h.normal] at hself
  | number h => exact .number h
  | boolean => exact .boolean
  | date h => exact .date rfl h
  | object => exact .object
  | array h => exact .array h

/-- What is accepted is of the kind of the node. -/
theorem Accepts.matches (h : n.Accepts v w) : n.matches v = true := by
  cases h with
  | date hi h =>
    cases v <;> first | rfl | cases hi
  | _ => rfl

theorem Admits.matches (h : n.Admits v) : n.matches v = true := h.accepts.matches

/-- **A normal form fits no node that the value does not fit.** -/
theorem Accepts.matches_of_matches (h : n.Accepts v w) (hw : m.matches w = true) :
    m.matches v = true := by
  cases h with
  | string _ => exact hw
  | number _ => exact hw
  | boolean => exact hw
  | @date p r v i hi h =>
    -- only dates fit an instant, and they fit what named it
    have hdate : ∀ q s, (Node.date q s).matches v = true := fun q s =>
      (Accepts.date (p := q) (r := { }) hi ⟨nofun, nofun⟩).matches
    cases m with
    | date q s => exact hdate q s
    | _ => cases hw
  | object => exact hw
  | array _ => exact hw

theorem Accepts.ne_null (h : n.Accepts v w) : v ≠ .null := by
  rintro rfl
  cases h with
  | date hi _ => cases hi

theorem Accepts.ne_absent (h : n.Accepts v w) : v ≠ .absent := by
  rintro rfl
  cases h with
  | date hi _ => cases hi

theorem Admits.ne_absent (h : n.Admits v) : v ≠ .absent := h.accepts.ne_absent

end Node

end Conform
