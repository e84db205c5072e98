import Conform.Text.Blank
import Conform.Text.Casing
import Mathlib.Tactic.MkIffOfInductiveProp

/-!
# What the case tables say

That small letters stay small letters, that capitals stay capitals, and that no letter becomes a
blank are facts about the tables of case mappings, and are computed from them here. A set of code
points is a number with their bits set for this (`mask`), so that two of the sets are compared in a
single step, and the theorems below translate the comparisons back.

The one fact that is not about two sets is that a capital letter which is the capital form of some
letter has a small form, if any, whose capital form it is (`shift?_upper_of_shift?_lower`). It is
computed run by run: the runs of the two tables correspond, up to letters that share their capital
form with a letter of another run.
-/

namespace Conform.Text

/-! ## Runs -/

namespace Table.Run

/-- Whether a run holds a code point. -/
def holds (r : Run) (code : Nat) : Bool :=
  r.first ≤ code && code ≤ r.last && (code - r.first) % r.step == 0

/-- The code points of a run. -/
def codes (r : Run) : List Nat := List.range' r.first ((r.last - r.first) / r.step + 1) r.step

/-- A run moved by a distance. -/
def movedBy (r : Run) (shift : Int) : Run :=
  { r with first := ((r.first : Int) + shift).toNat, last := ((r.last : Int) + shift).toNat }

/-- Whether a run can be moved by a distance without getting below the first code point. -/
def movable (r : Run) (shift : Int) : Bool := decide (0 ≤ (r.first : Int) + shift)

/-- Whether a run lies in another. Comparisons are spelled so that they compute well. -/
def within (r q : Run) : Bool :=
  Nat.ble q.first r.first && (Nat.ble r.last q.last && (Nat.beq q.step 1 ||
    ((Nat.beq r.step q.step || Nat.beq r.first r.last) &&
      Nat.beq ((r.first - q.first) % q.step) 0)))

theorem holds_iff {r : Run} {code : Nat} : r.holds code = true ↔
    r.first ≤ code ∧ code ≤ r.last ∧ (code - r.first) % r.step = 0 := by
  simp [holds, and_assoc]

theorem mem_codes {r : Run} {code : Nat} (h : r.holds code = true) : code ∈ r.codes := by
  obtain ⟨hfirst, hlast, hstep⟩ := holds_iff.mp h
  refine List.mem_range'.mpr ⟨(code - r.first) / r.step, ?_, ?_⟩
  · exact Nat.lt_succ_of_le (Nat.div_le_div_right (Nat.sub_le_sub_right hlast _))
  · have := Nat.div_add_mod (code - r.first) r.step
    omega

theorem holds_of_mem_codes {r : Run} {code : Nat} (hr : r.first ≤ r.last) (h : code ∈ r.codes) :
    r.holds code = true := by
  obtain ⟨i, hi, rfl⟩ := List.mem_range'.mp h
  have hle : r.step * i ≤ r.last - r.first :=
    Nat.le_trans (Nat.mul_le_mul_left _ (Nat.le_of_lt_succ hi)) (Nat.mul_div_le _ _)
  refine holds_iff.mpr ⟨Nat.le_add_right _ _, by omega, ?_⟩
  rw [Nat.add_sub_cancel_left, Nat.mul_mod_right]

/-- A code point that moves with its run is held by the moved run. -/
theorem holds_movedBy {r : Run} {shift : Int} {code : Nat} (hr : r.movable shift = true)
    (h : r.holds code = true) : (r.movedBy shift).holds ((code : Int) + shift).toNat = true := by
  obtain ⟨hfirst, hlast, hstep⟩ := holds_iff.mp h
  have hr : 0 ≤ (r.first : Int) + shift := of_decide_eq_true hr
  refine holds_iff.mpr ⟨?_, ?_, ?_⟩
  · show ((r.first : Int) + shift).toNat ≤ _
    omega
  · show _ ≤ ((r.last : Int) + shift).toNat
    omega
  · show (((code : Int) + shift).toNat - ((r.first : Int) + shift).toNat) % r.step = 0
    rwa [show ((code : Int) + shift).toNat - ((r.first : Int) + shift).toNat = code - r.first
      by omega]

theorem holds_of_within {r q : Run} {code : Nat} (hrq : r.within q = true)
    (h : r.holds code = true) : q.holds code = true := by
  obtain ⟨hfirst, hlast, hstep⟩ := holds_iff.mp h
  simp only [within, Bool.and_eq_true, Bool.or_eq_true, Nat.ble_eq, Nat.beq_eq] at hrq
  obtain ⟨hqr, hrq, hsteps⟩ := hrq
  refine holds_iff.mpr ⟨Nat.le_trans hqr hfirst, Nat.le_trans hlast hrq, ?_⟩
  have hsum : code - q.first = (code - r.first) + (r.first - q.first) := by omega
  rcases hsteps with hone | ⟨hstep' | hsingle, hmod⟩
  · rw [hone, Nat.mod_one]
  · rw [hsum, Nat.add_mod, hmod, ← hstep', hstep]
    simp
  · rwa [show code = r.first by omega]

end Table.Run

open Table (Run)

theorem shift?_eq (runs : List Run) (code : Nat) : shift? runs code =
    (runs.find? (fun r => r.holds code)).map (fun r => ((code : Int) + r.shift).toNat) := rfl

theorem exists_run_of_shift? {runs : List Run} {code moved : Nat}
    (h : shift? runs code = some moved) :
    ∃ r ∈ runs, r.holds code = true ∧ ((code : Int) + r.shift).toNat = moved := by
  rw [shift?_eq] at h
  obtain ⟨r, hr, rfl⟩ := Option.map_eq_some_iff.mp h
  have hholds := List.find?_some hr
  exact ⟨r, List.mem_of_find?_eq_some hr, hholds, rfl⟩

theorem shift?_eq_none {runs : List Run} {code : Nat} :
    shift? runs code = none ↔ ∀ r ∈ runs, r.holds code = false := by
  rw [shift?_eq, Option.map_eq_none_iff, List.find?_eq_none]
  simp

/-- Whether the runs of a table follow each other from a bound on. -/
def ascendingFrom (bound : Nat) : List Run → Bool
  | [] => true
  | r :: rs => Nat.ble bound r.first && (Nat.ble r.first r.last && ascendingFrom (r.last + 1) rs)

theorem ascendingFrom_cons {bound : Nat} {r : Run} {rs : List Run} :
    ascendingFrom bound (r :: rs) = true ↔
      bound ≤ r.first ∧ r.first ≤ r.last ∧ ascendingFrom (r.last + 1) rs = true := by
  simp [ascendingFrom, Nat.ble_eq]

theorem first_le_last_of_ascendingFrom {bound : Nat} {rs : List Run}
    (h : ascendingFrom bound rs = true) {q : Run} (hq : q ∈ rs) : q.first ≤ q.last := by
  induction rs generalizing bound with
  | nil => cases hq
  | cons r rs ih =>
    obtain ⟨-, hr, hrs⟩ := ascendingFrom_cons.mp h
    rcases List.mem_cons.mp hq with rfl | hq
    · exact hr
    · exact ih hrs hq

theorem le_of_ascendingFrom {bound : Nat} {rs : List Run} (h : ascendingFrom bound rs = true)
    {q : Run} (hq : q ∈ rs) {code : Nat} (hcode : q.holds code = true) : bound ≤ code := by
  induction rs generalizing bound with
  | nil => cases hq
  | cons r rs ih =>
    obtain ⟨hbound, hr, hrs⟩ := ascendingFrom_cons.mp h
    rcases List.mem_cons.mp hq with rfl | hq
    · exact Nat.le_trans hbound (Run.holds_iff.mp hcode).1
    · have := ih hrs hq
      omega

/-- **In an ascending table** the run that holds a code point is the one that is found. -/
theorem shift?_of_holds {bound : Nat} {rs : List Run} (h : ascendingFrom bound rs = true) {q : Run}
    (hq : q ∈ rs) {code : Nat} (hcode : q.holds code = true) :
    shift? rs code = some ((code : Int) + q.shift).toNat := by
  have hfind : rs.find? (fun r => r.holds code) = some q := by
    induction rs generalizing bound with
    | nil => cases hq
    | cons r rs ih =>
      obtain ⟨-, -, hrs⟩ := ascendingFrom_cons.mp h
      rcases List.mem_cons.mp hq with rfl | hq
      · rw [List.find?_cons, hcode]
      · have hlt := le_of_ascendingFrom hrs hq hcode
        have hr : r.holds code = false := by
          refine Bool.eq_false_iff.mpr (fun hr => ?_)
          have := (Run.holds_iff.mp hr).2.1
          omega
        rw [List.find?_cons, hr]
        exact ih hrs hq
  rw [shift?_eq, hfind]
  rfl

/-! ## Sets of code points -/

/-- A set of code points as the bits of a number. -/
def mask : List Nat → Nat
  | [] => 0
  | code :: codes => mask codes ||| 1 <<< code

theorem testBit_mask (codes : List Nat) (code : Nat) :
    (mask codes).testBit code = decide (code ∈ codes) := by
  induction codes with
  | nil => simp [mask]
  | cons c codes ih =>
    rw [mask, Nat.testBit_or, ih, Nat.one_shiftLeft, Nat.testBit_two_pow]
    by_cases h : c = code
    · simp [h]
    · simp [h, Ne.symm h]

/-- Whether two sets of code points have none in common. -/
def apart (codes codes' : List Nat) : Bool := Nat.beq (Nat.land (mask codes) (mask codes')) 0

theorem not_mem_of_apart {codes codes' : List Nat} (h : apart codes codes' = true) {code : Nat}
    (hcode : code ∈ codes) : code ∉ codes' := by
  intro hcode'
  have hzero : mask codes &&& mask codes' = 0 := Nat.eq_of_beq_eq_true h
  have hbit : (mask codes &&& mask codes').testBit code = true := by
    rw [Nat.testBit_and, testBit_mask, testBit_mask]
    simp [hcode, hcode']
  rw [hzero, Nat.zero_testBit] at hbit
  cases hbit

/-- Whether the code points that two sets have in common are in a third. -/
def covered (codes codes' cover : List Nat) : Bool :=
  Nat.beq (Nat.land (Nat.land (mask codes) (mask codes')) (mask cover))
    (Nat.land (mask codes) (mask codes'))

theorem mem_of_covered {codes codes' cover : List Nat} (h : covered codes codes' cover = true)
    {code : Nat} (hcode : code ∈ codes) (hcode' : code ∈ codes') : code ∈ cover := by
  have heq : mask codes &&& mask codes' &&& mask cover = mask codes &&& mask codes' :=
    Nat.eq_of_beq_eq_true h
  have hbit : (mask codes &&& mask codes' &&& mask cover).testBit code = true := by
    rw [heq, Nat.testBit_and, testBit_mask, testBit_mask]
    simp [hcode, hcode']
  rw [Nat.testBit_and, testBit_mask cover] at hbit
  exact of_decide_eq_true (Bool.and_eq_true_iff.mp hbit).2

/-- The code points that the runs of a table hold. -/
def domain (runs : List Run) : List Nat := runs.flatMap (fun r => r.codes)

/-- The code points that the runs of a table move to. -/
def image (runs : List Run) : List Nat := runs.flatMap (fun r => (r.movedBy r.shift).codes)

theorem mem_domain {runs : List Run} {r : Run} {code : Nat} (hr : r ∈ runs)
    (h : r.holds code = true) : code ∈ domain runs :=
  List.mem_flatMap.mpr ⟨r, hr, Run.mem_codes h⟩

/-- A code point that the runs of an ascending table move to is held by a moved run. -/
theorem exists_run_of_mem_image {bound : Nat} {runs : List Run}
    (h : ascendingFrom bound runs = true) {code : Nat} (hcode : code ∈ image runs) :
    ∃ r ∈ runs, (r.movedBy r.shift).holds code = true := by
  obtain ⟨r, hr, hcode⟩ := List.mem_flatMap.mp hcode
  refine ⟨r, hr, Run.holds_of_mem_codes ?_ hcode⟩
  have hle := first_le_last_of_ascendingFrom h hr
  show ((r.first : Int) + r.shift).toNat ≤ ((r.last : Int) + r.shift).toNat
  omega

theorem shift?_eq_none_of_not_mem {runs : List Run} {code : Nat} (h : code ∉ domain runs) :
    shift? runs code = none :=
  shift?_eq_none.mpr (fun _ hr => Bool.eq_false_iff.mpr (fun hcode => h (mem_domain hr hcode)))

theorem mem_image {runs : List Run} (hmovable : runs.all (fun r => r.movable r.shift) = true)
    {code moved : Nat} (h : shift? runs code = some moved) : moved ∈ image runs := by
  obtain ⟨r, hr, hcode, rfl⟩ := exists_run_of_shift? h
  exact List.mem_flatMap.mpr ⟨r, hr,
    Run.mem_codes (Run.holds_movedBy (List.all_eq_true.mp hmovable r hr) hcode)⟩

/-! ## The computed facts -/

namespace Table

/-- The code points of capital forms that are more than one character. -/
def specialCapitals : List Nat := upperSpecial.flatMap (fun e => e.2)

/-- The code points that capital forms consist of. -/
def capitals : List Nat := image upper ++ specialCapitals

/-- The code points of blanks. -/
def blanks : List Nat := blankRanges.flatMap (fun b => List.range' b.1 (b.2 - b.1 + 1))

/-- The code points that are no characters. -/
def surrogates : List Nat := List.range' 0xd800 0x800

/-- Whether the capital forms of the letters of a run have small forms whose capital forms they
are. -/
def returns (r : Run) : Bool :=
  let capital := r.movedBy r.shift
  lower.any (fun q => capital.within q && (capital.movable q.shift && upper.any (fun p =>
    (capital.movedBy q.shift).within p && decide (p.shift + q.shift = 0))))

/-- **What is computed about the tables**, in a single computation. -/
@[mk_iff]
structure Computed : Prop where
  lower_movable : lower.all (fun r => r.movable r.shift) = true
  upper_movable : upper.all (fun r => r.movable r.shift) = true
  lower_ascending : ascendingFrom 0 lower = true
  upper_ascending : ascendingFrom 0 upper = true
  /-- What a letter turns into when it turns small stays as it is. -/
  lower_apart : apart (image lower) (0x3a3 :: 0x130 :: domain lower) = true
  /-- What a letter turns into when it turns into a capital stays as it is. -/
  capitals_apart :
    apart capitals (0x130 :: (domain upper ++ upperSpecial.map (fun e => e.1))) = true
  special_apart : apart (upperSpecial.map (fun e => e.1)) (domain upper) = true
  blanks_apart : apart blanks (image lower ++ capitals) = true
  surrogates_apart : apart surrogates (image lower ++ capitals) = true
  codes_le : (image lower ++ capitals).all (fun code => Nat.ble code 0x10ffff) = true
  upper_returns : upper.all returns = true
  /-- A capital letter in a capital form of more than one character is the capital form of a
  single letter, or has no small form. -/
  specialCapitals_covered : covered specialCapitals (domain lower) (image upper) = true
  /-- A capital form of more than one character has characters. -/
  special_nonempty : upperSpecial.all (fun e => !e.2.isEmpty) = true
  /-- The small forms that the tables are not asked for, of the capital sigma and of the dotted
  capital i, have no further small form. -/
  exceptions_small : ∀ code ∈ [0x3c2, 0x3c3, 0x69, 0x307], shift? lower code = none
  /-- Both small sigmas have the one capital sigma. -/
  sigmas_upper : ∀ code ∈ [0x3c2, 0x3c3],
    upperSpecial.lookup code = none ∧ shift? upper code = some 0x3a3

theorem computed : Computed := by
  rw [computed_iff]
  decide +kernel

/-! ## Single code points -/

/-- A code point that a letter turns into is a character. -/
theorem isValidChar_of_mem {code : Nat} (h : code ∈ image lower ++ capitals) :
    code.isValidChar := by
  have hle : code ≤ 0x10ffff := Nat.le_of_ble_eq_true (List.all_eq_true.mp computed.codes_le code h)
  have hsurrogate : code ∉ surrogates := fun hcode =>
    not_mem_of_apart computed.surrogates_apart hcode h
  rw [surrogates, List.mem_range'_1] at hsurrogate
  unfold Nat.isValidChar
  omega

theorem not_blank_of_mem {code : Nat} (h : code ∈ image lower ++ capitals) :
    inRanges blankRanges code = false := by
  refine Bool.eq_false_iff.mpr (fun hblank => ?_)
  obtain ⟨b, hb, hcode⟩ := List.any_eq_true.mp hblank
  have hrange : code ∈ List.range' b.1 (b.2 - b.1 + 1) := by
    simp only [Bool.and_eq_true, decide_eq_true_eq] at hcode
    exact List.mem_range'_1.mpr (by omega)
  exact not_mem_of_apart computed.blanks_apart (List.mem_flatMap.mpr ⟨b, hb, hrange⟩) h

/-- A small letter has no further small form. -/
theorem shift?_lower_of_mem {code : Nat} (h : code ∈ image lower) :
    code ≠ 0x3a3 ∧ code ≠ 0x130 ∧ shift? lower code = none := by
  have hnot := not_mem_of_apart computed.lower_apart h
  simp only [List.mem_cons, not_or] at hnot
  exact ⟨hnot.1, hnot.2.1, shift?_eq_none_of_not_mem hnot.2.2⟩

/-- A code point that is not among those with a capital form of more than one character. -/
theorem lookup_eq_none {code : Nat} (h : code ∉ upperSpecial.map (fun e => e.1)) :
    upperSpecial.lookup code = none :=
  List.lookup_eq_none_iff.mpr (fun e he =>
    bne_iff_ne.mpr (fun heq => h (List.mem_map.mpr ⟨e, he, heq.symm⟩)))

/-- A letter has one capital form only. -/
theorem lookup_of_shift?_upper {code capital : Nat} (h : shift? upper code = some capital) :
    upperSpecial.lookup code = none := by
  obtain ⟨r, hr, hcode, -⟩ := exists_run_of_shift? h
  exact lookup_eq_none (fun hspecial => not_mem_of_apart computed.special_apart hspecial
    (mem_domain hr hcode))

/-- A capital letter has no further capital form. -/
theorem shift?_upper_of_mem {code : Nat} (h : code ∈ capitals) :
    code ≠ 0x130 ∧ shift? upper code = none ∧ upperSpecial.lookup code = none := by
  have hnot := not_mem_of_apart computed.capitals_apart h
  simp only [List.mem_cons, List.mem_append, not_or] at hnot
  exact ⟨hnot.1, shift?_eq_none_of_not_mem hnot.2.1, lookup_eq_none hnot.2.2⟩

/-- **A capital letter with a small form is the capital form of it.** -/
theorem shift?_upper_of_shift?_lower {code small : Nat} (h : code ∈ capitals)
    (hsmall : shift? lower code = some small) : shift? upper small = some code := by
  obtain ⟨q', hq', hcode', hsmall⟩ := exists_run_of_shift? hsmall
  have himage : code ∈ image upper := by
    rcases List.mem_append.mp h with h | h
    · exact h
    · exact mem_of_covered computed.specialCapitals_covered h (mem_domain hq' hcode')
  obtain ⟨r, hr, hcode⟩ := exists_run_of_mem_image computed.upper_ascending himage
  obtain ⟨q, hq, hback⟩ := List.any_eq_true.mp (List.all_eq_true.mp computed.upper_returns r hr)
  simp only [Bool.and_eq_true, List.any_eq_true, decide_eq_true_eq] at hback
  obtain ⟨hrq, hmovable, p, hp, hqp, hshift⟩ := hback
  -- the run of the small letters is the one that holds the capital letter
  have hcodeq := Run.holds_of_within hrq hcode
  have hq' := (shift?_of_holds computed.lower_ascending hq' hcode').symm.trans
    (shift?_of_holds computed.lower_ascending hq hcodeq)
  rw [hsmall, Option.some.injEq] at hq'
  have hsmallp := Run.holds_of_within hqp (Run.holds_movedBy hmovable hcode)
  rw [hq', shift?_of_holds computed.upper_ascending hp hsmallp]
  have hnonneg : 0 ≤ (code : Int) + q.shift := by
    have := of_decide_eq_true hmovable
    have := (Run.holds_iff.mp hcode).1
    omega
  refine congrArg some ?_
  omega

end Table

end Conform.Text
