import Conform.Proofs.InStep

/-!
# Ending at the first violation

A validation either ends at the first violation or goes on and collects them all. In the second
case it goes on with data that it knows to be wrong: a rejected value stays as it was, a missing
key is dropped, and what a rejected container holds is looked at all the same. Still the two agree
on everything that both can say (`Schema.validateShared_failingFast`): they return the same, they
reject the same data, and the one violation of the first is the first violation of the second.

The argument is a simulation of one walk by the other up to the first note (`Walk.CutShort`); after
that note the walk that ends early has ended, and the other one cannot take the note back. A union
of schemas asks its members one by one, so there the simulation is used member by member. Where all
of them reject the data, the violation that ends the validation early is that of the last member,
whereas the collected violations are those of the member that came closest.
-/

namespace Conform

/-- Options that ask for all violations. -/
def Options.collecting (o : Options) : Options := { o with abortEarly := false }

/-- Options that ask for an end at the first violation. -/
def Options.failingFast (o : Options) : Options := { o with abortEarly := true }

namespace Walk

variable {α β : Type}

/-- **A walk cut short at its first note.** -/
structure CutShort (slow fast : Walk α) : Prop where
  /-- Without a note both yield the same. -/
  yields : ∀ {a}, slow.run [] = .ok (a, []) → fast.run [] = .ok (a, [])
  /-- The first note of the slow walk ends the fast one. -/
  notes : ∀ {a v notes}, slow.run [] = .ok (a, v :: notes) →
    fast.run [] = .error (.violation v)
  /-- The slow walk never ends with a violation. -/
  goesOn : ∀ {v}, slow.run [] ≠ .error (.violation v)

theorem cutShort_pure (a : α) : CutShort (pure a) (pure a) where
  yields h := h
  notes := nofun
  goesOn := nofun

/-- **Cutting short is done step by step**: the first note of a sequence is the first note of its
first part, or else of its second. -/
theorem CutShort.bind {slow fast : Walk α} {f g : α → Walk β} (h : CutShort slow fast)
    (hf : ∀ a, (f a).Appends) (hg : ∀ a, (g a).Appends) (hfg : ∀ a, CutShort (f a) (g a)) :
    CutShort (slow >>= f) (fast >>= g) where
  yields := fun hb => by
    obtain ⟨a, ha, hab⟩ := (yields_bind hf).mp hb
    exact (yields_bind hg).mpr ⟨a, h.yields ha, (hfg a).yields hab⟩
  notes := fun hb => by
    cases hs : slow.run [] with
    | error e =>
      rw [run_bind_of_error hs] at hb
      cases hb
    | ok r =>
      obtain ⟨a, found⟩ := r
      rw [run_bind_of_ok (hf a) hs] at hb
      cases hfa : (f a).run [] with
      | error e =>
        rw [hfa] at hb
        cases hb
      | ok s =>
        obtain ⟨b, more⟩ := s
        rw [hfa] at hb
        simp only [Except.map, Except.ok.injEq, Prod.mk.injEq] at hb
        obtain ⟨rfl, hv⟩ := hb
        cases found with
        | nil =>
          -- no note so far: the second parts decide
          rw [show more = _ from hv] at hfa
          rw [run_bind_of_ok (hg a) (h.yields hs), (hfg a).notes hfa]
          rfl
        | cons w found =>
          -- the fast walk has ended, and the note stays the first one
          obtain ⟨rfl, -⟩ := List.cons.inj hv
          exact run_bind_of_error (h.notes hs)
  goesOn := fun hv => by
    cases hs : slow.run [] with
    | error e =>
      rw [run_bind_of_error hs] at hv
      cases hv
      exact h.goesOn hs
    | ok r =>
      obtain ⟨a, found⟩ := r
      rw [run_bind_of_ok (hf a) hs] at hv
      cases hfa : (f a).run [] with
      | error e =>
        rw [hfa] at hv
        cases hv
        exact (hfg a).goesOn hfa
      | ok s =>
        rw [hfa] at hv
        cases hv

/-- **Cutting short is a comparison of walks**, both of which only add to their notes. -/
def Congruence.cutShort : Congruence where
  holds slow fast := slow.Appends ∧ fast.Appends ∧ CutShort slow fast
  pure a := ⟨appends_pure a, appends_pure a, cutShort_pure a⟩
  bind h hf := ⟨h.1.bind (fun a => (hf a).1), h.2.1.bind (fun a => (hf a).2.1),
    h.2.2.bind (fun a => (hf a).1) (fun a => (hf a).2.1) (fun a => (hf a).2.2)⟩

end Walk

namespace Course

/-! ## One walk simulated by the other -/

variable (s : Schema) (o : Options)

theorem cutShort_report (v : Violation) :
    Walk.CutShort ((⟨s, o.collecting⟩ : Course).report v)
      ((⟨s, o.failingFast⟩ : Course).report v) where
  yields := nofun
  notes h := by
    cases h
    rfl
  goesOn := nofun

/-- A failure that is no violation cuts nothing short. -/
theorem cutShort_throw {α : Type} {e : Interruption} (h : ∀ v, e ≠ .violation v) :
    Walk.Congruence.cutShort.holds (throw e : Walk α) (throw e) :=
  ⟨Walk.appends_throw e, Walk.appends_throw e, nofun, nofun, fun hv => h _ (Except.error.inj hv)⟩

/-- **The two courses are in step**, for what a type makes of a value does not depend on when the
validation ends. -/
theorem inStep_failingFast (base : Path) : (⟨s, o.collecting⟩ : Course).InStep
    .cutShort ⟨s, o.failingFast⟩ base base where
  unknown := rfl
  settle rel x _ l left cells := by
    have hsite : site ⟨s, o.failingFast⟩ (base ++ rel) = site ⟨s, o.collecting⟩ (base ++ rel) := rfl
    rw [hsite]
    cases x (site ⟨s, o.collecting⟩ (base ++ rel)) with
    | ok w => exact Walk.Congruence.cutShort.pure _
    | error e =>
      cases e with
      | violation violation =>
        have hreport : Walk.Congruence.cutShort.holds (report ⟨s, o.collecting⟩ violation)
            (report ⟨s, o.failingFast⟩ violation) :=
          ⟨appends_report _ _, appends_report _ _, cutShort_report s o violation⟩
        exact (LinkedWalk.InStep.lift hreport).bind (fun _ => LinkedWalk.InStep.pure left) cells
      | dateOutOfRange => exact cutShort_throw nofun
      | search e => exact cutShort_throw nofun

/-- **The walk that ends at the first violation is the collecting walk, cut short.** -/
theorem cutShort_walkShared (es : List (Value × Value)) :
    Walk.CutShort ((⟨s, o.collecting⟩ : Course).walkShared es)
      ((⟨s, o.failingFast⟩ : Course).walkShared es) :=
  (walkShared_inStep (inStep_failingFast s o []) rfl es).2.2

end Course

/-! ## Outcomes -/

/-- The rejection that is left if only the first violation counts. -/
def Rejection.firstOnly (r : Rejection) : Rejection := ⟨r.first, []⟩

/-- **An outcome cut short**: the same result, or the first violation of the rejection. Nothing is
said where the collecting validation fails otherwise. -/
def Validated.CutShort (slow fast : Validated) : Prop :=
  match slow with
  | .ok v => fast = .ok v
  | .error (.rejected r) => fast = .error (.rejected r.firstOnly)
  | .error (.engine _) => True

theorem Options.cutShort_conclude (o : Options) {slow fast : Walk Value}
    (h : Walk.CutShort slow fast) :
    Validated.CutShort (o.collecting.conclude (slow.run []))
      (o.failingFast.conclude (fast.run [])) := by
  cases hs : slow.run [] with
  | error e =>
    cases e with
    | violation v => exact (h.goesOn hs).elim
    | dateOutOfRange => trivial
    | search e => trivial
  | ok r =>
    obtain ⟨v, notes⟩ := r
    cases notes with
    | nil =>
      rw [h.yields hs]
      rfl
    | cons w notes =>
      rw [h.notes hs]
      rfl

/-- **Against a mapping**, ending at the first violation is the collecting validation, cut
short. -/
theorem Fields.cutShort_validateShared (fs : Fields) (o : Options) (data : Value) :
    Validated.CutShort (fs.validateShared o.collecting data)
      (fs.validateShared o.failingFast data) := by
  unfold Fields.validateShared
  cases data.plain with
  | error e => trivial
  | ok w =>
    cases w with
    | map es => exact o.cutShort_conclude (Course.cutShort_walkShared (.mapping fs) o _)
    | _ => rfl

/-! ## Unions -/

/-- **Members that are asked one by one** answer alike up to the first that accepts the data; if
none does, each has rejected it in its own way. -/
theorem cutShort_tryMembers {slow fast : Fields → Validated}
    (h : ∀ fs, Validated.CutShort (slow fs) (fast fs)) (ms : List Fields) :
    match tryMembers slow ms with
    | .ok (.inl v) => tryMembers fast ms = .ok (.inl v)
    | .ok (.inr rs) => tryMembers fast ms = .ok (.inr (rs.map Rejection.firstOnly)) ∧
        ms.map slow = rs.map (fun r => .error (.rejected r))
    | .error _ => True := by
  induction ms with
  | nil => exact ⟨rfl, rfl⟩
  | cons fs ms ih =>
    have hfs := h fs
    rw [tryMembers, tryMembers, List.map_cons]
    cases hv : slow fs with
    | ok v =>
      rw [hv] at hfs
      rw [show fast fs = .ok v from hfs]
      rfl
    | error e =>
      cases e with
      | engine e => trivial
      | rejected r =>
        rw [hv] at hfs
        rw [show fast fs = .error (.rejected r.firstOnly) from hfs]
        cases hms : tryMembers slow ms with
        | error e => trivial
        | ok out =>
          rw [hms] at ih
          cases out with
          | inl v =>
            rw [show tryMembers fast ms = .ok (.inl v) from ih]
            rfl
          | inr rs =>
            obtain ⟨hfast, hrs⟩ := ih
            rw [hfast, hrs]
            exact ⟨rfl, rfl⟩

/-- The number of violations of a rejection. -/
def Rejection.size (r : Rejection) : Nat := r.violations.length

theorem Rejection.closest_cons (r x : Rejection) (rs : List Rejection) :
    r.closest (x :: rs) = if x.size < r.size then x.closest rs else r.closest rs := by
  have hiff : x.size < r.size ↔ x.others.length < r.others.length := Nat.succ_lt_succ_iff
  by_cases h : x.others.length < r.others.length
  · rw [if_pos (hiff.mpr h)]
    simp [closest, h]
  · rw [if_neg (fun hs => h (hiff.mp hs))]
    simp [closest, h]

/-- **The closest rejection** has the fewest violations: those before it have more, and those
after it have no fewer. -/
theorem Rejection.closest_spec (r : Rejection) (rs : List Rejection) :
    ∃ before after, r :: rs = before ++ r.closest rs :: after ∧
      (∀ z ∈ before, (r.closest rs).size < z.size) ∧
      (∀ z ∈ after, (r.closest rs).size ≤ z.size) := by
  induction rs generalizing r with
  | nil => exact ⟨[], [], rfl, nofun, nofun⟩
  | cons x rs ih =>
    rw [closest_cons]
    split
    case isTrue hx =>
      -- the second takes the place of the first
      obtain ⟨before, after, heq, hbefore, hafter⟩ := ih x
      refine ⟨r :: before, after, by rw [heq]; rfl, ?_, hafter⟩
      have hle : (x.closest rs).size ≤ x.size := by
        have hmem : x ∈ before ++ x.closest rs :: after := heq ▸ List.mem_cons_self
        rcases List.mem_append.mp hmem with h | h
        · exact Nat.le_of_lt (hbefore x h)
        · rcases List.mem_cons.mp h with h | h
          · exact Nat.le_of_eq (congrArg size h.symm)
          · exact hafter x h
      rw [List.forall_mem_cons]
      exact ⟨Nat.lt_of_le_of_lt hle hx, hbefore⟩
    case isFalse hx =>
      -- the first stays, and the second is not closer
      have hx : r.size ≤ x.size := Nat.le_of_not_lt hx
      obtain ⟨before, after, heq, hbefore, hafter⟩ := ih r
      cases before with
      | nil =>
        obtain ⟨hr, rfl⟩ := List.cons.inj heq
        refine ⟨[], x :: rs, by rw [← hr]; rfl, nofun, ?_⟩
        rw [List.forall_mem_cons, ← hr]
        exact ⟨hx, hr ▸ hafter⟩
      | cons z before =>
        obtain ⟨rfl, hrs⟩ := List.cons.inj heq
        refine ⟨r :: x :: before, after, congrArg (fun l => r :: x :: l) hrs, ?_, hafter⟩
        rw [List.forall_mem_cons] at hbefore
        rw [List.forall_mem_cons, List.forall_mem_cons]
        exact ⟨hbefore.1, Nat.lt_of_lt_of_le hbefore.1 hx, hbefore.2⟩

theorem Schema.validateShared_mapping (fs : Fields) (o : Options) (data : Value) :
    (Schema.mapping fs).validateShared o data = fs.validateShared o data := rfl

theorem Schema.validateShared_union (fs gs : Fields) (hs : List Fields) (o : Options)
    (data : Value) : (Schema.union fs gs hs).validateShared o data =
      match tryMembers (fun fs => Fields.validateShared fs o data) (fs :: gs :: hs) with
      | .error e => .error (.engine e)
      | .ok (.inl v) => .ok v
      | .ok (.inr rs) => .error (.rejected (o.rejectUnion rs)) := rfl

/-! ## The two ways to validate -/

namespace Schema

/-- The last of the mappings of a schema. -/
def lastMember : Schema → Fields
  | mapping fs => fs
  | union _ gs hs => hs.getLastD gs

/-- **How the two rejections of the same data go together**: `slow` with all violations and `fast`
with the first. -/
structure RejectedAlike (s : Schema) (o : Options) (data : Value) (slow fast : Rejection) :
    Prop where
  /-- The one violation is the first that the last mapping of the schema finds alone – the schema
  itself, if it is no union. -/
  first : ∃ alone, s.lastMember.validateShared o.collecting data = .error (.rejected alone) ∧
    fast.violations = [alone.first]
  /-- A union says that no member fits and adds all that its closest member has found. -/
  closest : s.isUnion = true → ∃ before fs after r, s.members = before ++ fs :: after ∧
    fs.validateShared o.collecting data = .error (.rejected r) ∧
    (∀ gs ∈ before, ∃ z,
      gs.validateShared o.collecting data = .error (.rejected z) ∧ r.size < z.size) ∧
    (∀ gs ∈ after, ∃ z,
      gs.validateShared o.collecting data = .error (.rejected z) ∧ r.size ≤ z.size) ∧
    slow.violations = Violation.ofRule o.catalog .union "" [] :: r.violations

/-- The members of a union that all reject the data, the closest among them. -/
theorem exists_closest {α : Type} {f : α → Validated} {ms : List α} {r : Rejection}
    {rs : List Rejection} (h : ms.map f = (r :: rs).map (fun z => .error (.rejected z))) :
    ∃ before m after, ms = before ++ m :: after ∧ f m = .error (.rejected (r.closest rs)) ∧
      (∀ n ∈ before, ∃ z, f n = .error (.rejected z) ∧ (r.closest rs).size < z.size) ∧
      (∀ n ∈ after, ∃ z, f n = .error (.rejected z) ∧ (r.closest rs).size ≤ z.size) := by
  obtain ⟨before, after, heq, hbefore, hafter⟩ := r.closest_spec rs
  rw [heq, List.map_append, List.map_cons] at h
  obtain ⟨ms₁, ms₂, rfl, h₁, h₂⟩ := List.map_eq_append_iff.mp h
  obtain ⟨m, ms₃, rfl, hm, h₃⟩ := List.map_eq_cons_iff.mp h₂
  have hall : ∀ (ns : List α) (zs : List Rejection) (p : Rejection → Prop),
      ns.map f = zs.map (fun z => .error (.rejected z)) → (∀ z ∈ zs, p z) →
      ∀ n ∈ ns, ∃ z, f n = .error (.rejected z) ∧ p z := by
    intro ns zs p hmap hp n hn
    obtain ⟨z, hz, hfz⟩ := List.mem_map.mp (hmap ▸ List.mem_map_of_mem hn)
    exact ⟨z, hfz.symm, hp z hz⟩
  exact ⟨ms₁, m, ms₃, rfl, hm, hall _ _ _ h₁ hbefore, hall _ _ _ h₃ hafter⟩

/-- Where all members reject the data, the last one does so with the last rejection. -/
theorem validate_lastMember {f : Fields → Validated} {fs gs : Fields} {hs : List Fields}
    {r : Rejection} {rs : List Rejection}
    (h : (fs :: gs :: hs).map f = (r :: rs).map (fun z => .error (.rejected z))) :
    f (union fs gs hs).lastMember = .error (.rejected (rs.getLastD r)) := by
  cases rs with
  | nil =>
    have hlen := congrArg List.length h
    simp at hlen
  | cons r' rs =>
    obtain ⟨-, h⟩ := List.cons.inj h
    obtain ⟨hgs, hhs⟩ := List.cons.inj h
    calc f (hs.getLastD gs) = (hs.map f).getLastD (f gs) := List.getLastD_map.symm
      _ = (rs.map (fun z => .error (.rejected z))).getLastD (.error (.rejected r')) := by
        rw [hhs, hgs]
      _ = .error (.rejected (rs.getLastD r')) := List.getLastD_map
      _ = .error (.rejected ((r' :: rs).getLastD r)) := by rw [List.getLastD_cons]

/-- Either both ways accept the data, with the same result, or both reject it. -/
theorem validateShared_failingFast_cases (s : Schema) (o : Options) (data : Value)
    (h : ∀ e, s.validateShared o.collecting data ≠ .error (.engine e)) :
    (∃ v, s.validateShared o.collecting data = .ok v ∧
        s.validateShared o.failingFast data = .ok v) ∨
      ∃ slow fast, s.validateShared o.collecting data = .error (.rejected slow) ∧
        s.validateShared o.failingFast data = .error (.rejected fast) ∧
        s.RejectedAlike o data slow fast := by
  cases s with
  | mapping fs =>
    have hcut := Fields.cutShort_validateShared fs o data
    simp only [validateShared_mapping] at h ⊢
    cases hv : Fields.validateShared fs o.collecting data with
    | ok v =>
      rw [hv] at hcut
      exact .inl ⟨v, rfl, hcut⟩
    | error e =>
      rw [hv] at hcut
      cases e with
      | engine e => exact absurd hv (h e)
      | rejected r => exact .inr ⟨r, r.firstOnly, rfl, hcut, ⟨r, hv, rfl⟩,
        fun hunion => absurd hunion Bool.false_ne_true⟩
  | union fs gs hs =>
    have hcut := cutShort_tryMembers (fun fs => Fields.cutShort_validateShared fs o data)
      (fs :: gs :: hs)
    simp only [validateShared_union] at h ⊢
    cases hv :
      tryMembers (fun fs => Fields.validateShared fs o.collecting data) (fs :: gs :: hs) with
    | error e =>
      rw [hv] at h
      exact absurd rfl (h e)
    | ok out =>
      rw [hv] at hcut
      cases out with
      | inl v =>
        rw [hcut]
        exact .inl ⟨v, rfl, rfl⟩
      | inr rs =>
        obtain ⟨hfast, hall⟩ := hcut
        rw [hfast]
        cases rs with
        | nil => cases hall
        | cons r others =>
          obtain ⟨before, m, after, hms, hm, hbefore, hafter⟩ := exists_closest hall
          refine .inr ⟨_, _, rfl, rfl, ⟨others.getLastD r, ?_, ?_⟩, fun _ =>
            ⟨before, m, after, r.closest others, hms, hm, hbefore, hafter, rfl⟩⟩
          · exact validate_lastMember hall
          · show ((others.map Rejection.firstOnly).getLastD r.firstOnly).violations = _
            rw [List.getLastD_map]
            rfl

/-- **Ending at the first violation and collecting all violations agree**, unless the collecting
validation fails for a reason that is no violation: the results are the same, the rejected data
are the same, and the two rejections go together (`RejectedAlike`). -/
theorem validateShared_failingFast (s : Schema) (o : Options) (data : Value)
    (h : ∀ e, s.validateShared o.collecting data ≠ .error (.engine e)) :
    (∀ v, s.validateShared o.collecting data = .ok v ↔
      s.validateShared o.failingFast data = .ok v) ∧
    ((∃ slow, s.validateShared o.collecting data = .error (.rejected slow)) ↔
      ∃ fast, s.validateShared o.failingFast data = .error (.rejected fast)) ∧
    ∀ slow fast, s.validateShared o.collecting data = .error (.rejected slow) →
      s.validateShared o.failingFast data = .error (.rejected fast) →
      s.RejectedAlike o data slow fast := by
  rcases s.validateShared_failingFast_cases o data h with ⟨v, hs, hf⟩ | ⟨slow, fast, hs, hf, halike⟩
  · rw [hs, hf]
    exact ⟨fun _ => Iff.rfl, ⟨nofun, nofun⟩, nofun⟩
  · rw [hs, hf]
    refine ⟨fun _ => ⟨nofun, nofun⟩, ⟨fun _ => ⟨fast, rfl⟩, fun _ => ⟨slow, rfl⟩⟩, ?_⟩
    intro slow' fast' hs' hf'
    cases hs'
    cases hf'
    exact halike

/-- Two shapes, neither of which the empty map has: it lacks two fields of the first, and one of
the second. -/
def twoShapes : Schema :=
  .union [("a", .single (.number {} {})), ("b", .single (.number {} {}))]
    [("c", .single (.string {} {}))] []

/-- Of the two shapes the second comes closer to the empty map, and it is the last. -/
theorem twoShapes_failingFast :
    (∀ e, twoShapes.validateShared ({} : Options).collecting (.map []) ≠ .error (.engine e)) ∧
      ∃ slow fast,
        twoShapes.validateShared ({} : Options).collecting (.map []) = .error (.rejected slow) ∧
        twoShapes.validateShared ({} : Options).failingFast (.map []) = .error (.rejected fast) ∧
        twoShapes.RejectedAlike {} (.map []) slow fast ∧
        slow.paths = ["", "c"] ∧ fast.paths = ["c"] := by
  have hno : ∀ e,
      twoShapes.validateShared ({} : Options).collecting (.map []) ≠ .error (.engine e) := nofun
  exact ⟨hno, _, _, rfl, rfl,
    (validateShared_failingFast twoShapes {} (.map []) hno).2.2 _ _ rfl rfl, rfl, rfl⟩

end Schema

end Conform
