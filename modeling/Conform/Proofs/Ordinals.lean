import Conform.Calendar.Date

/-!
# Days and their numbers

The number of a day is the count of days up to it, by the lengths of the years and months before.
Going back from a number to its day is not the same computation run backwards: it splits off cycles
of 400, 100, 4 and 1 years, of which the last in a row may be a day longer. Here the two are shown
to be inverse to each other (`Date.ofOrdinal?_eq_some_iff`), with no gap between the first day of
the year 1 and the last of the year 9999 (`Date.isSome_ofOrdinal?`), and the numbers of days to be
ordered as the days are (`Date.ordinal_lt_ordinal`).

All of this comes from two running totals, the days before a year and the days before a month of a
year, each of which grows by the length of what it passes (`add_le_of_lt`).
-/

namespace Conform

/-- The number of days of a year. -/
def daysInYear (y : Nat) : Nat := if isLeapYear y then 366 else 365

/-- **A running total**: the total up to a later place holds the part of an earlier one. -/
theorem add_le_of_lt {total part : Nat → Nat} {first m n : Nat}
    (hstep : ∀ k, first ≤ k → total (k + 1) = total k + part k) (hm : first ≤ m) (h : m < n) :
    total m + part m ≤ total n := by
  induction h with
  | refl => exact Nat.le_of_eq (hstep m hm).symm
  | @step k hlt ih =>
    have hk : first ≤ k := Nat.le_trans hm (Nat.le_of_lt hlt)
    calc total m + part m ≤ total k := ih
      _ ≤ total k + part k := Nat.le_add_right ..
      _ = total (k + 1) := (hstep k hk).symm

/-! ## The days before a year -/

theorem isLeapYear_iff (y : Nat) :
    isLeapYear y = true ↔ y % 4 = 0 ∧ (y % 100 ≠ 0 ∨ y % 400 = 0) := by
  simp [isLeapYear]

/-- The days before a year that is given by its place in the cycles. -/
theorem daysBeforeYear_cycles {a b c d : Nat} (hb : b ≤ 3) (hc : c ≤ 24) (hd : d ≤ 3) :
    daysBeforeYear (400 * a + 100 * b + 4 * c + d + 1) =
      146097 * a + 36524 * b + 1461 * c + 365 * d := by
  unfold daysBeforeYear
  omega

/-- The last year of four is a leap year, but for the last of a hundred that is not the last of four
hundred. -/
theorem isLeapYear_cycles {a b c d : Nat} (hb : b ≤ 3) (hc : c ≤ 24) (hd : d ≤ 3) :
    isLeapYear (400 * a + 100 * b + 4 * c + d + 1) = true ↔ d = 3 ∧ (c = 24 → b = 3) := by
  rw [isLeapYear_iff]
  omega

/-- Every year has its place in the cycles. -/
theorem exists_cycles {y : Nat} (hy : 1 ≤ y) : ∃ a b c d, b ≤ 3 ∧ c ≤ 24 ∧ d ≤ 3 ∧
    y = 400 * a + 100 * b + 4 * c + d + 1 :=
  ⟨(y - 1) / 400, (y - 1) % 400 / 100, (y - 1) % 100 / 4, (y - 1) % 4, by omega⟩

theorem daysBeforeYear_succ {y : Nat} (hy : 1 ≤ y) :
    daysBeforeYear (y + 1) = daysBeforeYear y + daysInYear y := by
  obtain ⟨a, b, c, d, hb, hc, hd, rfl⟩ := exists_cycles hy
  have hleap := isLeapYear_cycles (a := a) hb hc hd
  -- the next year is the next of its cycle, or the first of the next longer cycle
  have hnext : ∀ a' b' c' d' : Nat, b' ≤ 3 → c' ≤ 24 → d' ≤ 3 →
      400 * a + 100 * b + 4 * c + d + 1 = 400 * a' + 100 * b' + 4 * c' + d' →
      daysBeforeYear (400 * a + 100 * b + 4 * c + d + 1 + 1) =
        146097 * a' + 36524 * b' + 1461 * c' + 365 * d' := by
    intro a' b' c' d' hb' hc' hd' h
    rw [h, daysBeforeYear_cycles hb' hc' hd']
  rw [daysBeforeYear_cycles hb hc hd, daysInYear]
  by_cases hd3 : d < 3
  · rw [if_neg (by rw [hleap]; omega), hnext a b c (d + 1) hb hc (by omega) (by omega)]
    omega
  by_cases hc24 : c < 24
  · rw [if_pos (hleap.mpr (by omega)),
      hnext a b (c + 1) 0 hb (by omega) (by omega) (by omega)]
    omega
  by_cases hb3 : b < 3
  · rw [if_neg (by rw [hleap]; omega),
      hnext a (b + 1) 0 0 (by omega) (by omega) (by omega) (by omega)]
    omega
  · rw [if_pos (hleap.mpr (by omega)),
      hnext (a + 1) 0 0 0 (by omega) (by omega) (by omega) (by omega)]
    omega

/-- **A year lies before the next ones as a whole.** -/
theorem daysBeforeYear_add_le {y z : Nat} (hy : 1 ≤ y) (h : y < z) :
    daysBeforeYear y + daysInYear y ≤ daysBeforeYear z :=
  add_le_of_lt (fun _ => daysBeforeYear_succ) hy h

/-- **Four cycles in a row**, of which the last has a length of its own: which of them a day falls
into, and how many days of this cycle lie before it. -/
theorem split_four {r n m : Nat} (hn : 0 < n) (hr : r < 3 * n + m) :
    min (r / n) 3 ≤ 3 ∧ n * min (r / n) 3 + (r - n * min (r / n) 3) = r ∧
      r - n * min (r / n) 3 < if min (r / n) 3 = 3 then m else n := by
  have hdiv : n * (r / n) + r % n = r := Nat.div_add_mod ..
  have hmod : r % n < n := Nat.mod_lt _ hn
  rcases Nat.lt_or_ge (r / n) 3 with hlt | hge
  · rw [Nat.min_eq_left (Nat.le_of_lt hlt), if_neg (by omega)]
    omega
  · have hthree : n * 3 ≤ n * (r / n) := Nat.mul_le_mul_left n hge
    rw [Nat.min_eq_right hge, if_pos rfl]
    omega

/-- **The year that a day falls into**: the days before the year and those of the year so far make
up the number of the day, and the year is not over yet. -/
theorem Date.splitYears_spec (day : Nat) : 1 ≤ (splitYears day).1 ∧
    daysBeforeYear (splitYears day).1 + (splitYears day).2 = day ∧
    (splitYears day).2 < daysInYear (splitYears day).1 := by
  unfold splitYears
  dsimp only
  -- one cycle after the other: of 400 years, of 100, of 4, and the year
  have h400 : 146097 * (day / 146097) + day % 146097 = day := Nat.div_add_mod ..
  have h400' : day % 146097 < 3 * 36524 + 36525 := Nat.mod_lt _ (by decide)
  generalize day / 146097 = a, day % 146097 = r at h400 h400' ⊢
  obtain ⟨hb, h100, h100'⟩ := split_four (by decide) h400'
  generalize min (r / 36524) 3 = b at hb h100 h100' ⊢
  generalize r - 36524 * b = s at h100 h100' ⊢
  have hc : s / 1461 ≤ 24 := by split at h100' <;> omega
  have h4 : 1461 * (s / 1461) + s % 1461 = s := Nat.div_add_mod ..
  have h4' : s % 1461 < 3 * 365 + if s / 1461 = 24 → b = 3 then 366 else 365 := by
    split at h100' <;> split <;> omega
  generalize s / 1461 = c, s % 1461 = t at hc h4 h4' ⊢
  obtain ⟨hd, h1, h1'⟩ := split_four (by decide) h4'
  generalize min (t / 365) 3 = d at hd h1 h1' ⊢
  generalize t - 365 * d = u at h1 h1' ⊢
  refine ⟨Nat.le_add_left .., ?_, ?_⟩
  · rw [daysBeforeYear_cycles hb hc hd]
    omega
  · rw [daysInYear]
    simp only [isLeapYear_cycles hb hc hd]
    by_cases hlast : d = 3 <;> simpa [hlast] using h1'

/-! ## The days before a month -/

theorem daysBeforeMonth_one (y : Nat) : daysBeforeMonth y 1 = 0 := rfl

theorem daysBeforeMonth_succ (y : Nat) {m : Nat} (hm : 1 ≤ m) :
    daysBeforeMonth y (m + 1) = daysBeforeMonth y m + daysInMonth y m := by
  unfold daysBeforeMonth
  rw [List.range_succ, List.drop_append_of_le_length (by simpa using hm), List.foldl_append]
  rfl

/-- Twelve months make a year. -/
theorem daysBeforeMonth_thirteen (y : Nat) : daysBeforeMonth y 13 = daysInYear y := by
  unfold daysInYear
  cases hleap : isLeapYear y <;>
    simp [daysBeforeMonth, List.range_succ, daysInMonth, hleap]

/-- **A month lies before the next ones as a whole.** -/
theorem daysBeforeMonth_add_le (y : Nat) {m n : Nat} (hm : 1 ≤ m) (h : m < n) :
    daysBeforeMonth y m + daysInMonth y m ≤ daysBeforeMonth y n :=
  add_le_of_lt (fun _ => daysBeforeMonth_succ y) hm h

/-- **The month that a day falls into**, if it comes before the end of the last month that may be
passed over to. -/
theorem Date.splitMonths_spec (y : Nat) {months month day : Nat} (hmonth : 1 ≤ month)
    (hday : daysBeforeMonth y month + day < daysBeforeMonth y (month + months + 1)) :
    month ≤ (splitMonths y months month day).1 ∧
      (splitMonths y months month day).1 ≤ month + months ∧
      daysBeforeMonth y (splitMonths y months month day).1 +
        (splitMonths y months month day).2 = daysBeforeMonth y month + day ∧
      (splitMonths y months month day).2 < daysInMonth y (splitMonths y months month day).1 := by
  induction months generalizing month day with
  | zero =>
    rw [Nat.add_zero, daysBeforeMonth_succ y hmonth] at hday
    exact ⟨Nat.le_refl _, Nat.le_refl _, rfl, show day < daysInMonth y month by omega⟩
  | succ months ih =>
    rw [splitMonths]
    split
    next hin => exact ⟨Nat.le_refl _, Nat.le_add_right .., rfl, hin⟩
    next hout =>
      have hsucc := daysBeforeMonth_succ y hmonth
      have hnext : month + (months + 1) + 1 = month + 1 + months + 1 := by omega
      rw [hnext] at hday
      have hleft : daysBeforeMonth y (month + 1) + (day - daysInMonth y month) <
          daysBeforeMonth y (month + 1 + months + 1) := by omega
      obtain ⟨hge, hle, hsum, hlt⟩ := ih (Nat.le_add_left ..) hleft
      exact ⟨by omega, by omega, by omega, hlt⟩

/-! ## Days in order -/

namespace Date

variable (d e : Date)

theorem month_day_le : daysBeforeMonth d.year d.month + d.day ≤ daysInYear d.year := by
  obtain ⟨-, -, hmonth, hmonth', -, hday⟩ := d.exists_day
  have := daysBeforeMonth_add_le d.year hmonth (show d.month < 13 by omega)
  rw [daysBeforeMonth_thirteen] at this
  omega

variable {d e}

/-- **Days that follow each other have numbers that do.** -/
theorem ordinal_lt_ordinal (h : [d.year, d.month, d.day] < [e.year, e.month, e.day]) :
    d.ordinal < e.ordinal := by
  obtain ⟨hyear, -, hmonth, -, hday, hday'⟩ := d.exists_day
  obtain ⟨-, -, -, -, hpos, -⟩ := e.exists_day
  have hd := d.month_day_le
  unfold ordinal
  rcases List.cons_lt_cons_iff.mp h with hlt | ⟨hsame, h⟩
  · have := daysBeforeYear_add_le hyear hlt
    omega
  rw [← hsame]
  rcases List.cons_lt_cons_iff.mp h with hlt | ⟨hsame, h⟩
  · have := daysBeforeMonth_add_le d.year hmonth hlt
    omega
  rw [← hsame]
  rcases List.cons_lt_cons_iff.mp h with hlt | ⟨-, h⟩
  · omega
  · cases h

/-- **A day is known by its number.** -/
theorem eq_of_ordinal_eq (h : d.ordinal = e.ordinal) : d = e := by
  rcases Std.lt_trichotomy [d.year, d.month, d.day] [e.year, e.month, e.day] with hlt | heq | hgt
  · have := ordinal_lt_ordinal hlt
    omega
  · simp only [List.cons.injEq] at heq
    obtain ⟨hyear, hmonth, hday, -⟩ := heq
    cases d
    cases e
    cases hyear
    cases hmonth
    cases hday
    rfl
  · have := ordinal_lt_ordinal hgt
    omega

/-! ## Back from the number -/

/-- The number of the calendar's last day. -/
def lastOrdinal : Nat := 3652059

theorem ordinal_mem_range (d : Date) : 1 ≤ d.ordinal ∧ d.ordinal ≤ lastOrdinal := by
  obtain ⟨hyear, hyear', -, -, hday, -⟩ := d.exists_day
  have hd := d.month_day_le
  have hlast : daysBeforeYear d.year + daysInYear d.year ≤ lastOrdinal :=
    daysBeforeYear_add_le hyear (show d.year < 10000 by omega)
  unfold ordinal
  omega

theorem of?_eq_some_iff {y m n : Nat} :
    of? y m n = some d ↔ d.year = y ∧ d.month = m ∧ d.day = n := by
  unfold of?
  constructor
  · intro h
    split at h
    next => cases h; exact ⟨rfl, rfl, rfl⟩
    next => cases h
  · rintro ⟨rfl, rfl, rfl⟩
    rw [dif_pos d.exists_day]

/-- **Every number of the calendar is that of a day**, to which it leads back. -/
theorem exists_ofOrdinal? {n : Nat} (h : 1 ≤ n) (h' : n ≤ lastOrdinal) :
    ∃ d, ofOrdinal? n = some d ∧ d.ordinal = n := by
  obtain ⟨hyear, hday, hin⟩ := splitYears_spec (n - 1)
  have hyear' : (splitYears (n - 1)).1 ≤ 9999 := by
    refine Nat.le_of_not_lt (fun hlate => ?_)
    have hlast : lastOrdinal ≤ daysBeforeYear (splitYears (n - 1)).1 :=
      daysBeforeYear_add_le (show 1 ≤ 9999 by decide) hlate
    omega
  have hmonths := daysBeforeMonth_thirteen (splitYears (n - 1)).1
  have hstart : daysBeforeMonth (splitYears (n - 1)).1 1 + (splitYears (n - 1)).2 <
      daysBeforeMonth (splitYears (n - 1)).1 (1 + 11 + 1) := by
    rw [daysBeforeMonth_one, hmonths]
    omega
  obtain ⟨hmonth, hmonth', hsum, hlt⟩ := splitMonths_spec _ (Nat.le_refl 1) hstart
  rw [daysBeforeMonth_one] at hsum
  unfold ofOrdinal?
  rw [if_neg (by omega), Int.toNat_natCast]
  dsimp only
  generalize (splitYears (n - 1)).1 = y, (splitYears (n - 1)).2 = r at *
  generalize (splitMonths y 11 1 r).1 = m, (splitMonths y 11 1 r).2 = k at *
  refine ⟨⟨y, m, k + 1, hyear, hyear', hmonth, hmonth', by omega, hlt⟩, ?_, ?_⟩
  · exact of?_eq_some_iff.mpr ⟨rfl, rfl, rfl⟩
  · show daysBeforeYear y + daysBeforeMonth y m + (k + 1) = n
    omega

/-- **Days and their numbers are inverse to each other.** -/
theorem ofOrdinal?_eq_some_iff {n : Int} : ofOrdinal? n = some d ↔ (d.ordinal : Int) = n := by
  constructor
  · intro h
    have hpos : ¬ n < 1 := fun hneg => by simp [ofOrdinal?, hneg] at h
    by_cases hlast : n ≤ lastOrdinal
    · obtain ⟨e, he, hn⟩ := exists_ofOrdinal? (n := n.toNat) (by omega) (by omega)
      rw [Int.toNat_of_nonneg (by omega), h] at he
      cases he
      omega
    · -- a number past the last day splits into a year past the last one
      rw [ofOrdinal?, if_neg hpos] at h
      obtain ⟨-, hday, hin⟩ := splitYears_spec (n.toNat - 1)
      have hyear : d.year = (splitYears (n.toNat - 1)).1 := (of?_eq_some_iff.mp h).1
      have hlate := d.exists_day.2.1
      have hbefore : daysBeforeYear d.year + daysInYear d.year ≤ lastOrdinal :=
        daysBeforeYear_add_le d.exists_day.1 (show d.year < 10000 by omega)
      rw [hyear] at hbefore
      omega
  · rintro rfl
    obtain ⟨hpos, hlast⟩ := d.ordinal_mem_range
    obtain ⟨e, he, hn⟩ := exists_ofOrdinal? hpos hlast
    rw [he, eq_of_ordinal_eq hn]

/-- The calendar has no gaps. -/
theorem isSome_ofOrdinal? {n : Int} : (ofOrdinal? n).isSome ↔ 1 ≤ n ∧ n ≤ lastOrdinal := by
  rw [Option.isSome_iff_exists]
  constructor
  · rintro ⟨d, h⟩
    have hn := ofOrdinal?_eq_some_iff.mp h
    have := d.ordinal_mem_range
    omega
  · rintro ⟨hpos, hlast⟩
    obtain ⟨d, hd, -⟩ := exists_ofOrdinal? (n := n.toNat) (by omega) (by omega)
    rw [Int.toNat_of_nonneg (by omega)] at hd
    exact ⟨d, hd⟩

end Date

end Conform
