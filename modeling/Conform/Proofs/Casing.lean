import Mathlib.Data.List.DropRight
import Conform.Proofs.CaseTables
import Conform.Validation.Check

/-!
# Stable normal forms of texts

A text is brought into normal form by trimming it, then turning it into small letters, then into
capitals, as far as its rules ask for it. Doing this once more changes nothing
(`StringRules.normalize_idem`), although every step works on what the steps before it have made:
a character may become several, a capital sigma becomes one of two small ones, and where small
letters and capitals are both asked for, the second pass turns capitals into small letters again.

What carries the proof are properties of single characters, which come from the tables: a small
character stays as it is (`IsSmall`), so does a capital one, the way from a capital character to its
small form leads back, and a character that is no blank never becomes one.
-/

namespace Conform.Text

open Table (capitals)

/-! ## Characters -/

/-- **A character that stays as it is** when a text is turned into small letters. -/
structure IsSmall (c : Char) : Prop where
  not_sigma : c ≠ 'Σ'
  not_dotted : c ≠ 'İ'
  not_moved : shift? Table.lower c.toNat = none

theorem toNat_ofNat_of_mem {code : Nat} (h : code ∈ image Table.lower ++ capitals) :
    (Char.ofNat code).toNat = code := by
  unfold Char.ofNat
  rw [dif_pos (Table.isValidChar_of_mem h)]
  rfl

theorem lowerChar_of_isSmall {c : Char} (h : IsSmall c) (before after : List Char) :
    lowerChar before c after = [c] := by
  have hcode : c.toNat ≠ 0x130 := fun hcode => h.not_dotted (Char.toNat_inj.mp hcode)
  rw [lowerChar, if_neg h.not_sigma, if_neg h.not_dotted, firstLower, if_neg hcode, h.not_moved]
  exact congrArg (fun d => [d]) (Char.ofNat_toNat c)

/-- The small form of a character is small. -/
theorem isSmall_of_mem_lowerChar {before after : List Char} {c d : Char}
    (h : d ∈ lowerChar before c after) : IsSmall d := by
  unfold lowerChar at h
  split at h
  case isTrue hsigma =>
    have hfinal : IsSmall 'ς' := ⟨by decide, by decide,
      Table.computed.exceptions_small 0x3c2 (by decide)⟩
    have hsmall : IsSmall 'σ' := ⟨by decide, by decide,
      Table.computed.exceptions_small 0x3c3 (by decide)⟩
    rw [List.mem_singleton.mp h]
    split <;> assumption
  case isFalse hsigma =>
    split at h
    case isTrue hdotted =>
      have hi : IsSmall 'i' := ⟨by decide, by decide,
        Table.computed.exceptions_small 0x69 (by decide)⟩
      have hdot : IsSmall '\u0307' := ⟨by decide, by decide,
        Table.computed.exceptions_small 0x307 (by decide)⟩
      rcases List.mem_cons.mp h with rfl | h
      · exact hi
      · rwa [List.mem_singleton.mp h]
    case isFalse hdotted =>
      have hcode : c.toNat ≠ 0x130 := fun hcode => hdotted (Char.toNat_inj.mp hcode)
      rw [List.mem_singleton, firstLower, if_neg hcode] at h
      cases hshift : shift? Table.lower c.toNat with
      | none =>
        rw [hshift, Option.getD_none, Char.ofNat_toNat] at h
        rw [h]
        exact ⟨hsigma, hdotted, hshift⟩
      | some code =>
        have hmem := mem_image Table.computed.lower_movable hshift
        obtain ⟨hnsigma, hndotted, hnone⟩ := Table.shift?_lower_of_mem hmem
        have hd : d.toNat = code := by
          rw [h, hshift]
          exact toNat_ofNat_of_mem (List.mem_append_left _ hmem)
        exact ⟨fun hd' => hnsigma (by rw [← hd, hd']; rfl),
          fun hd' => hndotted (by rw [← hd, hd']; rfl), by rw [hd]; exact hnone⟩

/-- **What the capital form of a character consists of**: code points of capital forms, unless the
character has no capital form and stays as it is. -/
theorem mem_upperChar {c d : Char} (h : d ∈ upperChar c) :
    d.toNat ∈ capitals ∨ (d = c ∧ upperChar c = [c]) := by
  unfold upperChar at h ⊢
  cases hspecial : Table.upperSpecial.lookup c.toNat with
  | some codes =>
    rw [hspecial] at h
    obtain ⟨code, hcode, rfl⟩ := List.mem_map.mp h
    obtain ⟨l₁, l₂, hl, -⟩ := List.lookup_eq_some_iff.mp hspecial
    have hmem : code ∈ capitals := List.mem_append_right _ (List.mem_flatMap.mpr
      ⟨(c.toNat, codes), by rw [hl]; exact List.mem_append_right _ List.mem_cons_self, hcode⟩)
    rw [toNat_ofNat_of_mem (List.mem_append_right _ hmem)]
    exact .inl hmem
  | none =>
    rw [hspecial] at h
    cases hshift : shift? Table.upper c.toNat with
    | none =>
      rw [hshift, Option.getD_none, Char.ofNat_toNat, List.mem_singleton] at h
      refine .inr ⟨h, ?_⟩
      rw [Option.getD_none, Char.ofNat_toNat]
    | some code =>
      have hmem : code ∈ capitals :=
        List.mem_append_left _ (mem_image Table.computed.upper_movable hshift)
      rw [hshift, Option.getD_some, List.mem_singleton] at h
      rw [h, toNat_ofNat_of_mem (List.mem_append_right _ hmem)]
      exact .inl hmem

theorem upperChar_of_shift? {c : Char} {code : Nat}
    (h : Table.upperSpecial.lookup c.toNat = none ∧ shift? Table.upper c.toNat = some code) :
    upperChar c = [Char.ofNat code] := by
  rw [upperChar, h.1, h.2, Option.getD_some]

/-- A capital form stays as it is. -/
theorem upperChar_of_mem_upperChar {c d : Char} (h : d ∈ upperChar c) : upperChar d = [d] := by
  rcases mem_upperChar h with hd | ⟨rfl, hc⟩
  · obtain ⟨-, hshift, hspecial⟩ := Table.shift?_upper_of_mem hd
    rw [upperChar, hspecial, hshift, Option.getD_none, Char.ofNat_toNat]
  · exact hc

/-- **The way back**: the small form of a capital form has that capital form. -/
theorem flatMap_upperChar_lowerChar {c d : Char} (hc : IsSmall c) (hd : d ∈ upperChar c)
    (before after : List Char) : (lowerChar before d after).flatMap upperChar = [d] := by
  rcases mem_upperChar hd with hmem | ⟨rfl, hself⟩
  · by_cases hsigma : d = 'Σ'
    · -- both small sigmas have the one capital sigma
      have hfinal : upperChar 'ς' = ['Σ'] :=
        upperChar_of_shift? (Table.computed.sigmas_upper 0x3c2 (by decide))
      have hsmall : upperChar 'σ' = ['Σ'] :=
        upperChar_of_shift? (Table.computed.sigmas_upper 0x3c3 (by decide))
      rw [lowerChar, if_pos hsigma, hsigma]
      split <;> simpa
    · have hdotted : d ≠ 'İ' := fun h => (Table.shift?_upper_of_mem hmem).1 (by rw [h]; rfl)
      have hcode : d.toNat ≠ 0x130 := fun h => hdotted (Char.toNat_inj.mp h)
      cases hshift : shift? Table.lower d.toNat with
      | none =>
        rw [lowerChar_of_isSmall ⟨hsigma, hdotted, hshift⟩]
        simpa using upperChar_of_mem_upperChar hd
      | some small =>
        have hback := Table.shift?_upper_of_shift?_lower hmem hshift
        have hsmall : (Char.ofNat small).toNat = small :=
          toNat_ofNat_of_mem (List.mem_append_left _
            (mem_image Table.computed.lower_movable hshift))
        rw [lowerChar, if_neg hsigma, if_neg hdotted, firstLower, if_neg hcode, hshift]
        simp [upperChar, hsmall, hback, Table.lookup_of_shift?_upper hback]
  · rw [lowerChar_of_isSmall hc]
    simpa using hself

/-! ## Blanks -/

theorem isBlank_of_mem {c : Char} (h : c.toNat ∈ image Table.lower ++ capitals) :
    isBlank c = false := Table.not_blank_of_mem h

/-- A character that is no blank does not become one when it turns small. -/
theorem isBlank_of_mem_lowerChar {before after : List Char} {c d : Char}
    (hc : isBlank c = false) (h : d ∈ lowerChar before c after) : isBlank d = false := by
  unfold lowerChar at h
  split at h
  case isTrue =>
    rw [List.mem_singleton.mp h]
    split <;> decide
  case isFalse hsigma =>
    split at h
    case isTrue =>
      rcases List.mem_cons.mp h with rfl | h
      · decide
      · rw [List.mem_singleton.mp h]
        decide
    case isFalse hdotted =>
      have hcode : c.toNat ≠ 0x130 := fun hcode => hdotted (Char.toNat_inj.mp hcode)
      rw [List.mem_singleton, firstLower, if_neg hcode] at h
      cases hshift : shift? Table.lower c.toNat with
      | none =>
        rw [hshift, Option.getD_none, Char.ofNat_toNat] at h
        rwa [h]
      | some code =>
        have hmem := List.mem_append_left capitals (mem_image Table.computed.lower_movable hshift)
        rw [h, hshift, Option.getD_some]
        exact isBlank_of_mem (by rwa [toNat_ofNat_of_mem hmem])

theorem isBlank_of_mem_upperChar {c d : Char} (hc : isBlank c = false) (h : d ∈ upperChar c) :
    isBlank d = false := by
  rcases mem_upperChar h with hd | ⟨rfl, -⟩
  · exact isBlank_of_mem (List.mem_append_right _ hd)
  · exact hc

theorem lowerChar_ne_nil (before after : List Char) (c : Char) : lowerChar before c after ≠ [] := by
  unfold lowerChar
  split
  · simp
  · split <;> simp

theorem upperChar_ne_nil (c : Char) : upperChar c ≠ [] := by
  unfold upperChar
  cases hspecial : Table.upperSpecial.lookup c.toNat with
  | none => simp
  | some codes =>
    obtain ⟨l₁, l₂, hl, -⟩ := List.lookup_eq_some_iff.mp hspecial
    have hmem : (c.toNat, codes) ∈ Table.upperSpecial := by
      rw [hl]
      exact List.mem_append_right _ List.mem_cons_self
    have hne := List.all_eq_true.mp Table.computed.special_nonempty _ hmem
    cases codes with
    | nil => cases hne
    | cons code codes => exact List.cons_ne_nil _ _

/-- **Trimmed characters**: neither end is a blank. -/
structure Trimmed (cs : List Char) : Prop where
  head : ∀ c rest, cs = c :: rest → isBlank c = false
  last : ∀ front c, cs = front ++ [c] → isBlank c = false

theorem trimmed_trimChars (cs : List Char) : Trimmed (trimChars isBlank cs) := by
  have hprefix : trimChars isBlank cs <+: cs.dropWhile isBlank := List.rdropWhile_prefix isBlank _
  constructor
  · intro c rest h
    have hhead := List.head?_dropWhile_not isBlank cs
    obtain ⟨t, ht⟩ := hprefix
    rw [← ht, h] at hhead
    simpa using hhead
  · intro front c h
    have hne : (cs.dropWhile isBlank).rdropWhile isBlank ≠ [] := by
      show trimChars isBlank cs ≠ []
      simp [h]
    have hlast := List.rdropWhile_last_not isBlank (cs.dropWhile isBlank) hne
    have heq : ((cs.dropWhile isBlank).rdropWhile isBlank).getLast hne = c := by
      have h' : (cs.dropWhile isBlank).rdropWhile isBlank = front ++ [c] := h
      simp [h']
    rw [heq] at hlast
    simpa using hlast

theorem Trimmed.trimChars_eq {cs : List Char} (h : Trimmed cs) : trimChars isBlank cs = cs := by
  have hdrop : cs.dropWhile isBlank = cs := by
    cases cs with
    | nil => rfl
    | cons c rest => rw [List.dropWhile_cons_of_neg (by rw [h.head c rest rfl]; decide)]
  show (cs.dropWhile isBlank).rdropWhile isBlank = cs
  rw [hdrop]
  refine List.rdropWhile_eq_self_iff.mpr (fun hne => ?_)
  rw [h.last cs.dropLast (cs.getLast hne) (List.dropLast_append_getLast hne).symm]
  decide

/-- What begins and ends with characters that are no blanks is trimmed. -/
theorem trimmed_of_blocks {cs first rest front last : List Char} (hfirst : cs = first ++ rest)
    (hlast : cs = front ++ last) (hfirst' : first ≠ []) (hlast' : last ≠ [])
    (h : ∀ c ∈ first, isBlank c = false) (h' : ∀ c ∈ last, isBlank c = false) : Trimmed cs := by
  constructor
  · intro c more hc
    cases first with
    | nil => exact absurd rfl hfirst'
    | cons d first =>
      rw [hfirst] at hc
      obtain ⟨rfl, -⟩ := List.cons.inj hc
      exact h d List.mem_cons_self
  · intro more c hc
    have hlast'' := List.dropLast_append_getLast hlast'
    rw [hlast, ← hlast'', ← List.append_assoc] at hc
    obtain ⟨-, hc⟩ := List.append_inj' hc rfl
    obtain rfl := List.cons.inj hc |>.1
    exact h' _ (List.getLast_mem hlast')

/-- A text that ends with a character has its small form end with that of the character. -/
theorem exists_lowerFrom_concat (before cs : List Char) (c : Char) :
    ∃ front before', lowerFrom before (cs ++ [c]) = front ++ lowerChar before' c [] := by
  induction cs generalizing before with
  | nil => exact ⟨[], before, by simp [lowerFrom]⟩
  | cons d cs ih =>
    obtain ⟨front, before', h⟩ := ih (d :: before)
    exact ⟨lowerChar before d (cs ++ [c]) ++ front, before',
      by rw [List.cons_append, lowerFrom, h, List.append_assoc]⟩

theorem Trimmed.lowerFrom {cs : List Char} (h : Trimmed cs) : Trimmed (lowerFrom [] cs) := by
  rcases List.eq_nil_or_concat cs with rfl | ⟨front, d, hd⟩
  · exact h
  rw [List.concat_eq_append] at hd
  obtain ⟨front', before', hlast⟩ := exists_lowerFrom_concat [] front d
  obtain ⟨c, rest, hcs⟩ := List.exists_cons_of_ne_nil (l := cs) (by simp [hd])
  have hfirst : Text.lowerFrom [] cs = lowerChar [] c rest ++ Text.lowerFrom [c] rest := by
    rw [hcs, Text.lowerFrom]
  exact trimmed_of_blocks hfirst (by rw [hd, hlast]) (lowerChar_ne_nil _ _ _)
    (lowerChar_ne_nil _ _ _) (fun e he => isBlank_of_mem_lowerChar (h.head c rest hcs) he)
    (fun e he => isBlank_of_mem_lowerChar (h.last front d hd) he)

theorem Trimmed.flatMap_upperChar {cs : List Char} (h : Trimmed cs) :
    Trimmed (cs.flatMap upperChar) := by
  rcases List.eq_nil_or_concat cs with rfl | ⟨front, d, hd⟩
  · exact h
  rw [List.concat_eq_append] at hd
  obtain ⟨c, rest, hcs⟩ := List.exists_cons_of_ne_nil (l := cs) (by simp [hd])
  have hfirst : cs.flatMap upperChar = upperChar c ++ rest.flatMap upperChar := by
    rw [hcs, List.flatMap_cons]
  have hlast : cs.flatMap upperChar = front.flatMap upperChar ++ upperChar d := by
    rw [hd, List.flatMap_append, List.flatMap_singleton]
  exact trimmed_of_blocks hfirst hlast (upperChar_ne_nil _) (upperChar_ne_nil _)
    (fun e he => isBlank_of_mem_upperChar (h.head c rest hcs) he)
    (fun e he => isBlank_of_mem_upperChar (h.last front d hd) he)

/-! ## Texts -/

theorem isSmall_of_mem_lowerFrom {before cs : List Char} {d : Char}
    (h : d ∈ lowerFrom before cs) : IsSmall d := by
  induction cs generalizing before with
  | nil => cases h
  | cons c cs ih =>
    rw [lowerFrom] at h
    rcases List.mem_append.mp h with h | h
    · exact isSmall_of_mem_lowerChar h
    · exact ih h

/-- Small characters stay as they are. -/
theorem lowerFrom_of_isSmall {before cs : List Char} (h : ∀ c ∈ cs, IsSmall c) :
    lowerFrom before cs = cs := by
  induction cs generalizing before with
  | nil => rfl
  | cons c cs ih =>
    rw [List.forall_mem_cons] at h
    rw [lowerFrom, lowerChar_of_isSmall h.1, ih h.2]
    rfl

theorem flatMap_upperChar_upperChar (cs : List Char) :
    (cs.flatMap upperChar).flatMap upperChar = cs.flatMap upperChar := by
  have hself : ∀ ds : List Char, (∀ d ∈ ds, upperChar d = [d]) → ds.flatMap upperChar = ds := by
    intro ds h
    induction ds with
    | nil => rfl
    | cons d ds ih =>
      rw [List.forall_mem_cons] at h
      rw [List.flatMap_cons, h.1, ih h.2]
      rfl
  refine hself _ (fun d hd => ?_)
  obtain ⟨c, -, hd⟩ := List.mem_flatMap.mp hd
  exact upperChar_of_mem_upperChar hd

/-- **Capitals of a small text** come back from their small forms, whatever these are. -/
theorem flatMap_upperChar_lowerFrom {cs : List Char} (h : ∀ c ∈ cs, IsSmall c)
    (before : List Char) :
    (lowerFrom before (cs.flatMap upperChar)).flatMap upperChar = cs.flatMap upperChar := by
  have hback : ∀ (ds before : List Char),
      (∀ d ∈ ds, ∀ b a, (lowerChar b d a).flatMap upperChar = [d]) →
      (lowerFrom before ds).flatMap upperChar = ds := by
    intro ds
    induction ds with
    | nil => exact fun _ _ => rfl
    | cons d ds ih =>
      intro before hds
      rw [List.forall_mem_cons] at hds
      rw [lowerFrom, List.flatMap_append, hds.1, ih _ hds.2]
      rfl
  refine hback _ _ (fun d hd b a => ?_)
  obtain ⟨c, hc, hd⟩ := List.mem_flatMap.mp hd
  exact flatMap_upperChar_lowerChar (h c hc) hd b a

theorem lower_lower (s : String) : lower (lower s) = lower s := by
  unfold lower
  rw [String.toList_ofList, lowerFrom_of_isSmall (fun _ h => isSmall_of_mem_lowerFrom h)]

theorem upper_upper (s : String) : upper (upper s) = upper s := by
  unfold upper
  rw [String.toList_ofList, flatMap_upperChar_upperChar]

theorem upper_lower_upper_lower (s : String) :
    upper (lower (upper (lower s))) = upper (lower s) := by
  unfold upper lower
  simp only [String.toList_ofList]
  rw [flatMap_upperChar_lowerFrom (fun _ h => isSmall_of_mem_lowerFrom h)]

theorem trimmed_trim (s : String) : Trimmed (trim s).toList := by
  rw [trim, String.toList_ofList]
  exact trimmed_trimChars _

theorem trim_of_trimmed {s : String} (h : Trimmed s.toList) : trim s = s := by
  rw [trim, h.trimChars_eq, String.ofList_toList]

theorem trimmed_lower {s : String} (h : Trimmed s.toList) : Trimmed (lower s).toList := by
  rw [lower, String.toList_ofList]
  exact h.lowerFrom

theorem trimmed_upper {s : String} (h : Trimmed s.toList) : Trimmed (upper s).toList := by
  rw [upper, String.toList_ofList]
  exact h.flatMap_upperChar

end Conform.Text

namespace Conform.StringRules

variable (r : StringRules)

/-- The case of a text, as far as rules ask for it. -/
def recase (s : String) : String :=
  let s := if r.lowercase then Text.lower s else s
  if r.uppercase then Text.upper s else s

theorem normalize_eq (s : String) :
    r.normalize s = r.recase (if r.trim then Text.trim s else s) := rfl

theorem recase_recase (s : String) : r.recase (r.recase s) = r.recase s := by
  unfold recase
  cases r.lowercase <;> cases r.uppercase
  · rfl
  · exact Text.upper_upper s
  · exact Text.lower_lower s
  · exact Text.upper_lower_upper_lower s

theorem trimmed_recase {s : String} (h : Text.Trimmed s.toList) :
    Text.Trimmed (r.recase s).toList := by
  unfold recase
  cases r.lowercase <;> cases r.uppercase
  · exact h
  · exact Text.trimmed_upper h
  · exact Text.trimmed_lower h
  · exact Text.trimmed_upper (Text.trimmed_lower h)

/-- **A text in normal form**: trimmed and in the case that rules ask for. -/
structure IsNormal (s : String) : Prop where
  trimmed : r.trim = true → Text.Trimmed s.toList
  recased : r.recase s = s

/-- What comes out is in normal form: turning letters leaves no blank at an end. -/
theorem isNormal_normalize (s : String) : r.IsNormal (r.normalize s) where
  trimmed h := by
    rw [normalize_eq, if_pos h]
    exact r.trimmed_recase (Text.trimmed_trim s)
  recased := by rw [normalize_eq, recase_recase]

/-- A text in normal form stays as it is. -/
theorem normalize_of_isNormal {s : String} (h : r.IsNormal s) : r.normalize s = s := by
  have htrim : (if r.trim then Text.trim s else s) = s := by
    split
    next htrim => exact Text.trim_of_trimmed (h.trimmed htrim)
    next => rfl
  rw [normalize_eq, htrim, h.recased]

/-- **A normal form is its own normal form.** -/
theorem normalize_idem (s : String) : r.normalize (r.normalize s) = r.normalize s :=
  r.normalize_of_isNormal (r.isNormal_normalize s)

end Conform.StringRules
