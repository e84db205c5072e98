import Conform.Proofs.Ordinals
import Conform.Proofs.Rules

/-!
# One time line

A date rule compares instants by their numbers, from the year down to the microsecond, and an
instant is written in universal time before that, which may take it over the end of a day, a month
or a year. The *moment* of a value needs none of this: it is the count of microseconds of its
local reading, less its offset (`Value.moment?`).

Instants and moments are the same thing. A moment leads to the one instant with that count
(`Instant.ofCount?_eq_some_iff`), so the way through the universal calendar keeps the moment of a
value (`Value.instant_eq_ok_iff`), and an instant is before another exactly if its moment is
(`Instant.before_iff`). So a date node accepts the moments between its bounds, whatever the offsets
that values and bounds are spelled with (`Node.check_date_on_timeline`).

The line ends with the years 1 and 9999, and has no gaps in between (`Instant.exists_count_eq_iff`).
A value may name a date-time whose moment lies past an end (`Value.LeavesCalendar`). It has a moment
but no instant, and no other value is out of range (`Value.instant_eq_outOfRange_iff`).
-/

namespace Conform

/-! ## Times of day -/

namespace TimeOfDay

variable {t u : TimeOfDay}

theorem count_lt (t : TimeOfDay) : t.count < dayLength := by
  obtain ⟨hhour, hminute, hsecond, hmicrosecond⟩ := t.in_range
  unfold count dayLength
  omega

/-- **Times that follow each other have counts that do.** -/
theorem count_lt_count (h : [t.hour, t.minute, t.second, t.microsecond] <
    [u.hour, u.minute, u.second, u.microsecond]) : t.count < u.count := by
  obtain ⟨-, hminute, hsecond, hmicrosecond⟩ := t.in_range
  unfold count
  rcases List.cons_lt_cons_iff.mp h with hlt | ⟨hsame, h⟩
  · omega
  rcases List.cons_lt_cons_iff.mp h with hlt | ⟨hsame', h⟩
  · omega
  rcases List.cons_lt_cons_iff.mp h with hlt | ⟨hsame'', h⟩
  · omega
  rcases List.cons_lt_cons_iff.mp h with hlt | ⟨-, h⟩
  · omega
  · cases h

theorem of?_eq_some_iff {h m s us : Nat} :
    of? h m s us = some t ↔ t.hour = h ∧ t.minute = m ∧ t.second = s ∧ t.microsecond = us := by
  unfold of?
  constructor
  · intro hsome
    split at hsome
    next => cases hsome; exact ⟨rfl, rfl, rfl, rfl⟩
    next => cases hsome
  · rintro ⟨rfl, rfl, rfl, rfl⟩
    rw [dif_pos t.in_range]

/-- A time of day and its count are inverse to each other. -/
theorem ofCount?_eq_some_iff {us : Nat} : Instant.timeOfCount? us = some t ↔ t.count = us := by
  obtain ⟨hhour, hminute, hsecond, hmicrosecond⟩ := t.in_range
  unfold Instant.timeOfCount? count
  rw [of?_eq_some_iff]
  omega

theorem exists_count_eq {us : Nat} (h : us < dayLength) : ∃ t : TimeOfDay, t.count = us := by
  unfold dayLength at h
  refine ⟨⟨us / 3600000000, us / 60000000 % 60, us / 1000000 % 60, us % 1000000, by omega⟩, ?_⟩
  show ((us / 3600000000 * 60 + us / 60000000 % 60) * 60 + us / 1000000 % 60) * 1000000 +
    us % 1000000 = us
  omega

end TimeOfDay

/-! ## Instants and their counts -/

namespace Instant

variable {i j : Instant}

/-- The quotient and the remainder of a count are the day and the time in the day. -/
theorem count_eq_iff {day time : Nat} (htime : time < dayLength) {n : Int} :
    (day : Int) * dayLength + time = n ↔
      (day : Int) = n.fdiv dayLength ∧ time = (n.fmod dayLength).toNat := by
  have hpos : (0 : Int) ≤ dayLength := Int.natCast_nonneg _
  rw [Int.fdiv_eq_ediv_of_nonneg n hpos, Int.fmod_eq_emod_of_nonneg n hpos]
  unfold dayLength at htime ⊢
  omega

/-- **An instant and its count are inverse to each other.** -/
theorem ofCount?_eq_some_iff {n : Int} : ofCount? n = some i ↔ i.count = n := by
  obtain ⟨date, time⟩ := i
  unfold count
  rw [count_eq_iff time.count_lt, ← Date.ofOrdinal?_eq_some_iff,
    ← TimeOfDay.ofCount?_eq_some_iff, ofCount?]
  cases Date.ofOrdinal? (n.fdiv dayLength) <;>
    cases timeOfCount? (n.fmod dayLength).toNat <;> simp

/-- An instant is known by its count. -/
theorem eq_of_count_eq (h : i.count = j.count) : i = j := by
  have hi : ofCount? i.count = some i := ofCount?_eq_some_iff.mpr rfl
  rw [h, ofCount?_eq_some_iff.mpr rfl] at hi
  exact (Option.some.inj hi).symm

/-- The numbers of an instant are compared by its date first, and then by its time. -/
theorem count_lt_of_fields_lt (h : i.fields < j.fields) : i.count < j.count := by
  have hi := i.time.count_lt
  -- the first three numbers are those of the date
  have hsplit : [i.date.year, i.date.month, i.date.day] < [j.date.year, j.date.month, j.date.day] ∨
      i.date = j.date ∧ [i.time.hour, i.time.minute, i.time.second, i.time.microsecond] <
        [j.time.hour, j.time.minute, j.time.second, j.time.microsecond] := by
    rcases List.cons_lt_cons_iff.mp h with hlt | ⟨hyear, h⟩
    · exact .inl (List.Lex.rel hlt)
    rcases List.cons_lt_cons_iff.mp h with hlt | ⟨hmonth, h⟩
    · exact .inl (hyear ▸ List.Lex.cons (List.Lex.rel hlt))
    rcases List.cons_lt_cons_iff.mp h with hlt | ⟨hday, h⟩
    · exact .inl (hyear ▸ hmonth ▸ List.Lex.cons (List.Lex.cons (List.Lex.rel hlt)))
    · exact .inr ⟨Date.eq_of_ordinal_eq (by unfold Date.ordinal; rw [hyear, hmonth, hday]), h⟩
  unfold count
  rcases hsplit with hdate | ⟨hdate, htime⟩
  · have := Date.ordinal_lt_ordinal hdate
    unfold dayLength at hi ⊢
    omega
  · have := TimeOfDay.count_lt_count htime
    rw [hdate]
    omega

/-- **The order of the numbers is the order of the counts.** -/
theorem before_iff : i.before j = true ↔ i.count < j.count := by
  unfold before
  rw [decide_eq_true_iff]
  constructor
  · exact count_lt_of_fields_lt
  · intro hlt
    rcases Std.lt_trichotomy i.fields j.fields with h | h | h
    · exact h
    · have hsame : i.count = j.count := by
        simp only [fields, List.cons.injEq] at h
        obtain ⟨hyear, hmonth, hday, hhour, hminute, hsecond, hmicrosecond, -⟩ := h
        unfold count Date.ordinal TimeOfDay.count
        rw [hyear, hmonth, hday, hhour, hminute, hsecond, hmicrosecond]
      omega
    · have := count_lt_of_fields_lt h
      omega

theorem before_eq_false_iff : i.before j = false ↔ j.count ≤ i.count := by
  rw [← Bool.not_eq_true, before_iff, Int.not_lt]

@[simp] theorem toDateTime_count (i : Instant) : i.toDateTime.count = i.count := Int.sub_zero _

end Instant

/-- **A date-time names the instant at its own count**, if there is one. -/
theorem DateTime.instant?_eq_some_iff {t : DateTime} {i : Instant} :
    t.instant? = some i ↔ i.count = t.count := by
  unfold instant?
  split
  next hshift =>
    have hcount : t.count = Instant.count ⟨t.date, t.time⟩ := by
      unfold count
      rw [hshift]
      exact Int.sub_zero _
    rw [hcount]
    exact ⟨fun h => by rw [Option.some.inj h], fun h => by rw [Instant.eq_of_count_eq h]⟩
  next => exact Instant.ofCount?_eq_some_iff

/-- **The moments of the years 1 to 9999.** -/
def OnCalendar (n : Int) : Prop := dayLength ≤ n ∧ n < (Date.lastOrdinal + 1) * dayLength

/-- **The calendar has no gaps**: each of its moments is that of an instant. -/
theorem Instant.exists_count_eq_iff {n : Int} : (∃ i : Instant, i.count = n) ↔ OnCalendar n := by
  unfold OnCalendar
  constructor
  · rintro ⟨i, rfl⟩
    have hdate := i.date.ordinal_mem_range
    have htime := i.time.count_lt
    unfold count
    unfold dayLength at htime ⊢
    omega
  · rintro ⟨hfirst, hlast⟩
    have hpos : (0 : Int) ≤ dayLength := Int.natCast_nonneg _
    have hday : 1 ≤ n.fdiv dayLength ∧ n.fdiv dayLength ≤ Date.lastOrdinal := by
      rw [Int.fdiv_eq_ediv_of_nonneg n hpos]
      unfold dayLength at hfirst hlast ⊢
      omega
    obtain ⟨date, hdate⟩ := Option.isSome_iff_exists.mp (Date.isSome_ofOrdinal?.mpr hday)
    have htime : (n.fmod dayLength).toNat < dayLength := by
      rw [Int.fmod_eq_emod_of_nonneg n hpos]
      unfold dayLength
      omega
    obtain ⟨time, htime⟩ := TimeOfDay.exists_count_eq htime
    exact ⟨⟨date, time⟩,
      (count_eq_iff time.count_lt).mpr ⟨Date.ofOrdinal?_eq_some_iff.mp hdate, htime⟩⟩

theorem DateTime.instant_eq_ok_iff {t : DateTime} {i : Instant} :
    t.instant = .ok i ↔ i.count = t.count := by
  rw [← instant?_eq_some_iff]
  unfold instant
  cases t.instant? with
  | none => exact ⟨nofun, nofun⟩
  | some j => exact Checked.pure_eq_ok.trans (by simp)

theorem DateTime.instant_eq_outOfRange_iff {t : DateTime} :
    t.instant = .error .outOfRange ↔ ¬ OnCalendar t.count := by
  rw [← Instant.exists_count_eq_iff]
  simp only [← instant?_eq_some_iff]
  unfold instant
  cases t.instant? with
  | none => exact ⟨fun _ => nofun, fun _ => rfl⟩
  | some j => exact ⟨nofun, fun h => absurd ⟨j, rfl⟩ h⟩

/-! ## The moment of a value -/

namespace Value

/-- The date-time that a value names. -/
def dateTimeNamed : Value → Except InstantError DateTime
  | .dateTime t | .timestamp t => return t
  | .date d => return .ofDate d
  | .text s => dateTimeOfText s
  | v => throw (.wrongType v.typeName)

/-- **The moment of a value**: the microseconds of its local reading less those of its offset. -/
def moment? (v : Value) : Option Int := v.dateTimeNamed.toOption.map DateTime.count

theorem instant_eq_bind (v : Value) : v.instant = v.dateTimeNamed >>= DateTime.instant := by
  cases v <;> rfl

/-- **The way through the calendar keeps the moment.** -/
theorem instant_eq_ok_iff {v : Value} {i : Instant} :
    v.instant = .ok i ↔ v.moment? = some i.count := by
  unfold moment?
  rw [instant_eq_bind]
  cases v.dateTimeNamed with
  | error e => exact ⟨nofun, nofun⟩
  | ok t => exact DateTime.instant_eq_ok_iff.trans (by simp [Except.toOption, eq_comm])

end Value

/-- **A value that leaves the calendar**: it names a date-time, but not one whose moment lies in the
years 1 to 9999. -/
def Value.LeavesCalendar (v : Value) : Prop := ∃ n, v.moment? = some n ∧ ¬ OnCalendar n

/-- A text that is no date is not said to be out of range. -/
theorem dateTimeOfText_ne_outOfRange (s : String) : dateTimeOfText s ≠ .error .outOfRange := by
  unfold dateTimeOfText
  split
  · nofun
  · split <;> nofun

/-- **Only a moment off the calendar is out of range.** -/
theorem Value.instant_eq_outOfRange_iff {v : Value} :
    v.instant = .error .outOfRange ↔ v.LeavesCalendar := by
  unfold LeavesCalendar moment?
  rw [instant_eq_bind]
  cases hnamed : v.dateTimeNamed with
  | ok t =>
    refine DateTime.instant_eq_outOfRange_iff.trans ⟨fun h => ⟨_, rfl, h⟩, ?_⟩
    rintro ⟨_, ⟨⟩, h⟩
    exact h
  | error e =>
    refine ⟨fun h => ?_, fun ⟨_, hn, _⟩ => nomatch hn⟩
    cases h
    cases v with
    | text s => exact absurd hnamed (dateTimeOfText_ne_outOfRange s)
    | _ => cases hnamed

/-! ## Bounds -/

/-- **The moments between the bounds that are set.** -/
structure DateRules.Includes (r : DateRules) (n : Int) : Prop where
  min : ∀ b, r.min = some b → ∃ m, (Value.text b.text).moment? = some m ∧ m ≤ n
  max : ∀ b, r.max = some b → ∃ m, (Value.text b.text).moment? = some m ∧ n ≤ m

theorem DateBound.moment?_text (b : DateBound) :
    (Value.text b.text).moment? = some b.instant.count :=
  Value.instant_eq_ok_iff.mp b.names_instant

/-- The bounds are compared on the time line. -/
theorem DateRules.admits_iff {r : DateRules} {i : Instant} : r.Admits i ↔ r.Includes i.count := by
  constructor
  · intro h
    exact ⟨fun b hb => ⟨_, b.moment?_text, Instant.before_eq_false_iff.mp (h.min b hb)⟩,
      fun b hb => ⟨_, b.moment?_text, Instant.before_eq_false_iff.mp (h.max b hb)⟩⟩
  · intro h
    refine ⟨fun b hb => ?_, fun b hb => ?_⟩
    · obtain ⟨m, hm, hle⟩ := h.min b hb
      rw [b.moment?_text] at hm
      cases hm
      exact Instant.before_eq_false_iff.mpr hle
    · obtain ⟨m, hm, hle⟩ := h.max b hb
      rw [b.moment?_text] at hm
      cases hm
      exact Instant.before_eq_false_iff.mpr hle

/-- Between two moments that are included all are. -/
theorem DateRules.Includes.between {r : DateRules} {lo n hi : Int} (hlo : r.Includes lo)
    (hhi : r.Includes hi) (h : lo ≤ n) (h' : n ≤ hi) : r.Includes n := by
  refine ⟨fun b hb => ?_, fun b hb => ?_⟩
  · obtain ⟨m, hm, hle⟩ := hlo.min b hb
    exact ⟨m, hm, Int.le_trans hle h⟩
  · obtain ⟨m, hm, hle⟩ := hhi.max b hb
    exact ⟨m, hm, Int.le_trans h' hle⟩

/-! ## Date nodes -/

namespace Node

variable {p : Presence String} {r : DateRules} {site : Site} {v : Value} {i : Instant}

/-- A date node accepts the instants of the moments between its bounds. -/
theorem check_date_eq_ok_iff {w : Value} : (Node.date p r).check site v = .ok w ↔
    ∃ i : Instant, v.moment? = some i.count ∧ r.Includes i.count ∧
      w = .dateTime i.toDateTime := by
  rw [check_eq_ok_iff]
  constructor
  · intro h
    cases h with
    | @date _ _ _ i hi hr =>
      exact ⟨i, Value.instant_eq_ok_iff.mp hi, DateRules.admits_iff.mp hr, rfl⟩
  · rintro ⟨i, hi, hr, rfl⟩
    exact .date (Value.instant_eq_ok_iff.mpr hi) (DateRules.admits_iff.mpr hr)

/-- A check of a date looks at nothing but the instant. -/
theorem check_date_congr {v' : Value} (h : v'.instant = v.instant) :
    (Node.date p r).check site v' = (Node.date p r).check site v := by
  have hinstant : DateRules.instant site v' = DateRules.instant site v := by
    unfold DateRules.instant
    rw [h]
  show (DateRules.instant site v' >>= fun i => _) = (DateRules.instant site v >>= fun i => _)
  rw [hinstant]

/-- **Dates are compared on one time line.** A value that names an instant has a moment, and its
verdict and result depend on this moment alone: it is accepted exactly if the moment lies between
those of the bounds, and the result is the moment written in universal time. The moments that are
accepted have no gaps, and a result is accepted as it is. -/
theorem check_date_on_timeline (p : Presence String) (r : DateRules) (site : Site)
    (hv : v.instant = .ok i) : ∃ n, v.moment? = some n ∧
      (∀ w, (Node.date p r).check site v = .ok w ↔ r.Includes n ∧
        ∃ t : DateTime, w = .dateTime t ∧ t.offset = some .zero ∧ t.count = n) ∧
      (∀ v', v'.moment? = some n →
        (Node.date p r).check site v' = (Node.date p r).check site v) ∧
      (∀ lo hi m m' x y, lo.moment? = some m → hi.moment? = some m' → m ≤ n → n ≤ m' →
        (Node.date p r).check site lo = .ok x → (Node.date p r).check site hi = .ok y →
        ∃ w, (Node.date p r).check site v = .ok w) ∧
      ∀ w, (Node.date p r).check site v = .ok w → (Node.date p r).check site w = .ok w := by
  have hn : v.moment? = some i.count := Value.instant_eq_ok_iff.mp hv
  -- in universal time there is one way to write a moment
  have hresult : ∀ t : DateTime, t.offset = some .zero → t.count = i.count →
      t = i.toDateTime := by
    rintro ⟨date, time, _⟩ rfl hcount
    have hinstant : (⟨date, time⟩ : Instant) = i :=
      Instant.eq_of_count_eq ((Instant.toDateTime_count ⟨date, time⟩).symm.trans hcount)
    rw [← hinstant]
    rfl
  have hcheck : ∀ w, (Node.date p r).check site v = .ok w ↔ r.Includes i.count ∧
      ∃ t : DateTime, w = .dateTime t ∧ t.offset = some .zero ∧ t.count = i.count := by
    intro w
    rw [check_date_eq_ok_iff]
    constructor
    · rintro ⟨j, hj, hr, rfl⟩
      obtain rfl : i = j := Instant.eq_of_count_eq (Option.some.inj (hn.symm.trans hj))
      exact ⟨hr, _, rfl, rfl, i.toDateTime_count⟩
    · rintro ⟨hr, t, rfl, hzero, hcount⟩
      exact ⟨i, hn, hr, by rw [hresult t hzero hcount]⟩
  refine ⟨i.count, hn, hcheck, fun v' hv' => ?_, ?_, fun w hw => ?_⟩
  · exact check_date_congr ((Value.instant_eq_ok_iff.mpr hv').trans hv.symm)
  · intro lo hi m m' x y hlo hhi hle hle' hx hy
    obtain ⟨j, hj, hrj, -⟩ := check_date_eq_ok_iff.mp hx
    obtain ⟨k, hk, hrk, -⟩ := check_date_eq_ok_iff.mp hy
    cases hlo.symm.trans hj
    cases hhi.symm.trans hk
    exact ⟨_, (hcheck _).mpr ⟨hrj.between hrk hle hle', _, rfl, rfl, i.toDateTime_count⟩⟩
  · exact check_eq_ok_iff.mpr (check_eq_ok_iff.mp hw).admits.accepts

end Node

/-! ## The end of a February -/

/-- Bounds around the start of a leap day, spelled in two ways. -/
def DateRules.leapDay : DateRules where
  min := some ⟨"2024-02-28T18:44:30.000001-05:00",
    ⟨⟨2024, 2, 28, by decide⟩, ⟨23, 44, 30, 1, by decide⟩⟩, by decide +kernel⟩
  max := some ⟨"20240229", ⟨⟨2024, 2, 29, by decide⟩, .midnight⟩, by decide +kernel⟩

/-- A text that is on the leap day by its own reading names the moment of the lower bound, which is
on the day before. It is accepted, and so is the same moment in another spelling. -/
theorem Node.leapDay_on_timeline : ∃ i : Instant,
    (Value.text "2024-02-29T00:30:00.000001+00:45:30").instant = .ok i ∧
      DateRules.leapDay.Includes i.count ∧
      (Node.date {} .leapDay).check ⟨⟨[]⟩, "d"⟩ (.text "2024-02-29T00:30:00.000001+00:45:30") =
        .ok (.dateTime i.toDateTime) ∧
      (Node.date {} .leapDay).check ⟨⟨[]⟩, "d"⟩ (.text "2024-02-28 23:44:30,000001Z") =
        .ok (.dateTime i.toDateTime) := by
  have hv : (Value.text "2024-02-29T00:30:00.000001+00:45:30").instant =
      .ok ⟨⟨2024, 2, 28, by decide⟩, ⟨23, 44, 30, 1, by decide⟩⟩ := by decide +kernel
  obtain ⟨n, hn, haccepts, hspelling, -⟩ :=
    Node.check_date_on_timeline {} .leapDay ⟨⟨[]⟩, "d"⟩ hv
  have hcount := Value.instant_eq_ok_iff.mp hv
  obtain rfl : Instant.count _ = n := Option.some.inj (hcount.symm.trans hn)
  have hincludes : DateRules.leapDay.Includes
      (Instant.count ⟨⟨2024, 2, 28, by decide⟩, ⟨23, 44, 30, 1, by decide⟩⟩) := by
    constructor
    · rintro b ⟨⟩
      exact ⟨_, DateBound.moment?_text _, by decide⟩
    · rintro b ⟨⟩
      exact ⟨_, DateBound.moment?_text _, by decide⟩
  have hcheck := (haccepts _).mpr ⟨hincludes, _, rfl, rfl, Instant.toDateTime_count _⟩
  exact ⟨_, hv, hincludes, hcheck, (hspelling _ (by decide +kernel)).trans hcheck⟩

end Conform
