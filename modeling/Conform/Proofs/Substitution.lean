import Conform.Violation.Message
import Mathlib.Data.List.Basic
import Mathlib.Data.List.Induction
import Mathlib.Data.List.Infix
import Mathlib.Logic.Function.Basic
import Mathlib.Tactic.LinearCombination
import Mathlib.Tactic.Zify

/-!
# Filling in all places at once

A message is filled in one kind of place after the other, each time over the whole text. What it is
meant for is simpler: the places of the message are read off once, and each has its part put in. The
two are not the same. A text that is put in may spell a place, or complete one with what stands
around it, and a later turn does not know that this place was not in the message.

`substitute` reads the message once. How the turns compare with it is told by the number of places
of the kind whose turn it is. They only ever get more, and the turn is right just if they have not,
or if the part is its own place (`Placeholder.turn_iff`). The reason is that marks neither overlap
nor begin in one another, so that of two rewritings of one text, with all marks replaced and with
some, the numbers of replacements tell whether they are the same (`Rewrites.eq_replaceFrom_iff`).

So messages are filled in at once as long as no turn finds a new place
(`fillIn_simultaneous_iff`), and then in whatever order. Where the message has no other opening
braces and the parts have none at all, as is usual, nothing new can be found
(`addsNoPlace_of_braceless`).
-/

namespace Conform

/-! ## Occurrences -/

/-- How often a mark stands in a text. -/
def occurrences (mark : List Char) : List Char → Nat
  | [] => 0
  | c :: cs => occurrences mark cs + if mark.isPrefixOf (c :: cs) then 1 else 0

/-- **A mark that does not overlap with another of its kind**, wherever it stands: it has at least
one character, and none of its occurrences begins within another. -/
structure Separate (mark : List Char) : Prop where
  ne_nil : mark ≠ []
  occurrences_append : ∀ cs, occurrences mark (mark ++ cs) = occurrences mark cs + 1

variable {mark new : List Char}

theorem replaceFrom_eq_drop (skip : Nat) (cs : List Char) :
    replaceFrom mark new skip cs = replaceFrom mark new 0 (cs.drop skip) := by
  induction cs generalizing skip with
  | nil => cases skip <;> rfl
  | cons c cs ih =>
    cases skip with
    | zero => rfl
    | succ skip => exact ih skip

/-- A mark in front is replaced. -/
theorem replaceFrom_append (h : mark ≠ []) (cs : List Char) :
    replaceFrom mark new 0 (mark ++ cs) = new ++ replaceFrom mark new 0 cs := by
  cases mark with
  | nil => exact absurd rfl h
  | cons c tail =>
    rw [List.cons_append, replaceFrom, if_pos (by simp), replaceFrom_eq_drop]
    simp

/-! ## Rewritings -/

/-- **A rewriting of a text**: the second list is the text, and the first has some of its marks
replaced, as many as the number says. -/
inductive Rewrites (mark new : List Char) : Nat → List Char → List Char → Prop
  | nil : Rewrites mark new 0 [] []
  | keep {k : Nat} {as cs : List Char} (c : Char) (h : Rewrites mark new k as cs) :
    Rewrites mark new k (c :: as) (c :: cs)
  | replace {k : Nat} {as cs : List Char} (h : Rewrites mark new k as cs) :
    Rewrites mark new (k + 1) (new ++ as) (mark ++ cs)

namespace Rewrites

variable {k n : Nat} {as bs cs : List Char}

theorem append_left (xs : List Char) (h : Rewrites mark new k as cs) :
    Rewrites mark new k (xs ++ as) (xs ++ cs) := by
  induction xs with
  | nil => exact h
  | cons x xs ih => exact ih.keep x

/-- No more marks are replaced than there are, and if it is all of them, the text is the one with
all marks replaced. -/
theorem le_occurrences (hmark : Separate mark) (h : Rewrites mark new k as cs) :
    k ≤ occurrences mark cs ∧ (k = occurrences mark cs → as = replaceFrom mark new 0 cs) := by
  induction h with
  | nil => exact ⟨Nat.le_refl 0, fun _ => rfl⟩
  | @keep k as cs c h ih =>
    rw [occurrences, replaceFrom]
    split
    · -- there is a mark in front that is kept
      exact ⟨Nat.le_succ_of_le ih.1, fun heq => absurd heq (Nat.ne_of_lt (Nat.lt_succ_of_le ih.1))⟩
    · exact ⟨ih.1, fun heq => congrArg (c :: ·) (ih.2 heq)⟩
  | @replace k as cs h ih =>
    rw [hmark.occurrences_append, replaceFrom_append hmark.ne_nil]
    exact ⟨Nat.succ_le_succ ih.1, fun heq => congrArg (new ++ ·) (ih.2 (Nat.succ.inj heq))⟩

/-- The text with all marks replaced is a rewriting. -/
theorem replaceFrom_rewrites (hmark : Separate mark) (cs : List Char) :
    Rewrites mark new (occurrences mark cs) (replaceFrom mark new 0 cs) cs := by
  induction hlength : cs.length using Nat.strongRecOn generalizing cs with
  | ind length ih =>
    subst hlength
    cases cs with
    | nil => exact .nil
    | cons c cs =>
      by_cases hfront : mark.isPrefixOf (c :: cs) = true
      · obtain ⟨rest, hrest⟩ := List.isPrefixOf_iff_prefix.mp hfront
        rw [← hrest, hmark.occurrences_append, replaceFrom_append hmark.ne_nil]
        refine .replace (ih rest.length ?_ rest rfl)
        rw [← hrest, List.length_append]
        exact Nat.lt_add_of_pos_left (List.length_pos_iff.mpr hmark.ne_nil)
      · rw [occurrences, replaceFrom, if_neg hfront, if_neg hfront]
        exact .keep c (ih cs.length (Nat.lt_succ_self _) cs rfl)

/-- Each replacement makes the same difference in length. -/
theorem length_eq (h : Rewrites mark new k as cs) :
    as.length + k * mark.length = cs.length + k * new.length := by
  induction h with
  | nil => rw [Nat.zero_mul, Nat.zero_mul]
  | keep c h ih =>
    rw [List.length_cons, List.length_cons]
    omega
  | replace h ih =>
    rw [List.length_append, List.length_append, Nat.succ_mul, Nat.succ_mul]
    omega

/-- Replacing a mark by itself changes nothing. -/
theorem eq_of_mark (h : Rewrites mark mark k as cs) : as = cs := by
  induction h with
  | nil => rfl
  | keep c h ih => rw [ih]
  | replace h ih => rw [ih]

end Rewrites

/-- In how many places two texts differ. -/
def differences (as cs : List Char) : Nat := (List.zipWith (fun a c => a != c) as cs).count true

theorem differences_append {xs ys : List Char} (h : xs.length = ys.length) (as cs : List Char) :
    differences (xs ++ as) (ys ++ cs) = differences xs ys + differences as cs := by
  unfold differences
  rw [List.zipWith_append h, List.count_append]

theorem differences_cons (a c : Char) (as cs : List Char) :
    differences (a :: as) (c :: cs) = differences [a] [c] + differences as cs :=
  differences_append (show [a].length = [c].length from rfl) as cs

theorem differences_self (xs : List Char) : differences xs xs = 0 := by
  induction xs with
  | nil => rfl
  | cons x xs ih => simpa [differences] using ih

theorem eq_of_differences {xs ys : List Char} (hlength : xs.length = ys.length)
    (h : differences xs ys = 0) : xs = ys := by
  induction xs generalizing ys with
  | nil => exact (List.length_eq_zero_iff.mp hlength.symm).symm
  | cons x xs ih =>
    cases ys with
    | nil => cases hlength
    | cons y ys =>
      rw [differences_cons] at h
      obtain ⟨hhead, htail⟩ := Nat.add_eq_zero_iff.mp h
      rw [ih (Nat.succ.inj hlength) htail]
      have hxy : x = y := by simpa [differences, List.count_singleton] using hhead
      rw [hxy]

namespace Rewrites

variable {k n : Nat} {as cs : List Char}

/-- With a text of the same length, each replacement makes the same differences. -/
theorem differences_eq (hlength : new.length = mark.length) (h : Rewrites mark new k as cs) :
    differences as cs = k * differences new mark := by
  induction h with
  | nil => rw [Nat.zero_mul]; rfl
  | keep c h ih => rw [differences_cons, differences_self, Nat.zero_add, ih]
  | replace h ih => rw [differences_append hlength, ih, Nat.succ_mul, Nat.add_comm]

/-- **A text tells how often its marks were replaced**, unless they were replaced by themselves. -/
theorem unique (hnew : new ≠ mark) (hk : Rewrites mark new k as cs)
    (hn : Rewrites mark new n as cs) : k = n := by
  by_cases hlength : new.length = mark.length
  · have heq := (hk.differences_eq hlength).symm.trans (hn.differences_eq hlength)
    exact Nat.eq_of_mul_eq_mul_right
      (Nat.pos_of_ne_zero (fun h => hnew (eq_of_differences hlength h))) heq
  · have hk := hk.length_eq
    have hn := hn.length_eq
    have hzero : ((k : Int) - n) * ((mark.length : Int) - new.length) = 0 := by
      zify at hk hn
      linear_combination hk - hn
    rcases mul_eq_zero.mp hzero with hkn | hlen
    · exact Int.ofNat_inj.mp (sub_eq_zero.mp hkn)
    · exact absurd (Int.ofNat_inj.mp (sub_eq_zero.mp hlen)).symm hlength

/-- **A rewriting replaces all marks** if its number says so, or if nothing changes. -/
theorem eq_replaceFrom_iff (hmark : Separate mark) (h : Rewrites mark new k as cs) :
    as = replaceFrom mark new 0 cs ↔ k = occurrences mark cs ∨ new = mark := by
  have hall : Rewrites mark new (occurrences mark cs) (replaceFrom mark new 0 cs) cs :=
    replaceFrom_rewrites hmark cs
  constructor
  · intro heq
    by_cases hnew : new = mark
    · exact .inr hnew
    · rw [← heq] at hall
      exact .inl (h.unique hnew hall)
  · rintro (hk | rfl)
    · exact (h.le_occurrences hmark).2 hk
    · rw [h.eq_of_mark, hall.eq_of_mark]

end Rewrites

/-! ## Marks -/

namespace Placeholder

/-- The characters of a mark. -/
def chars (p : Placeholder) : List Char := p.mark.toList

/-- A mark is an opening brace and characters that are none. -/
theorem exists_chars (p : Placeholder) : ∃ tail, p.chars = '\x7b' :: tail ∧ '\x7b' ∉ tail := by
  cases p <;> exact ⟨_, rfl, by decide⟩

theorem chars_ne_nil (p : Placeholder) : p.chars ≠ [] := by
  obtain ⟨tail, htail, -⟩ := p.exists_chars
  rw [htail]
  exact List.cons_ne_nil _ _

theorem eq_of_isPrefix_chars {p q : Placeholder} (h : p.chars <+: q.chars) : p = q := by
  revert h
  cases p <;> cases q <;> decide

/-- Of all marks only its own is in front of a mark. -/
theorem isPrefixOf_chars_append (p q : Placeholder) (cs : List Char) :
    p.chars.isPrefixOf (q.chars ++ cs) = decide (p = q) := by
  rw [Bool.eq_iff_iff, List.isPrefixOf_iff_prefix, decide_eq_true_iff]
  constructor
  · intro h
    rcases List.prefix_or_prefix_of_prefix h (List.prefix_append q.chars cs) with h | h
    · exact eq_of_isPrefix_chars h
    · exact (eq_of_isPrefix_chars h).symm
  · rintro rfl
    exact List.prefix_append _ _

/-- No mark begins within a text that has no opening brace. -/
theorem occurrences_append_of_braceless (p : Placeholder) {xs : List Char} (h : '\x7b' ∉ xs)
    (cs : List Char) : occurrences p.chars (xs ++ cs) = occurrences p.chars cs := by
  obtain ⟨tail, htail, -⟩ := p.exists_chars
  rw [htail]
  induction xs with
  | nil => rfl
  | cons x xs ih =>
    rw [List.mem_cons, not_or] at h
    rw [List.cons_append, occurrences, ih h.2, List.isPrefixOf_cons_cons, beq_false_of_ne h.1]
    rfl

/-- **Marks do not overlap**, neither with their own kind nor with others. -/
theorem occurrences_chars_append (p q : Placeholder) (cs : List Char) :
    occurrences p.chars (q.chars ++ cs) = occurrences p.chars cs + if p = q then 1 else 0 := by
  have hfront := isPrefixOf_chars_append p q cs
  obtain ⟨tail, htail, hbrace⟩ := q.exists_chars
  rw [htail, List.cons_append] at hfront ⊢
  rw [occurrences, p.occurrences_append_of_braceless hbrace, hfront]
  simp only [decide_eq_true_eq]

theorem separate_chars (p : Placeholder) : Separate p.chars where
  ne_nil := p.chars_ne_nil
  occurrences_append cs := by rw [occurrences_chars_append, if_pos rfl]

end Placeholder

/-! ## Reading a message once -/

/-- **What a message is read as**: characters, and places to be filled in. -/
inductive Segment where
  | char (c : Char)
  | place (p : Placeholder)
deriving DecidableEq, Repr

/-- The text of a segment, where it is told what stands in the places. -/
def Segment.text (f : Placeholder → List Char) : Segment → List Char
  | .char c => [c]
  | .place p => f p

/-- **A message read once**, from left to right; `skip` characters at the front belong to a place
that has already been read. -/
def segments : Nat → List Char → List Segment
  | _, [] => []
  | skip + 1, _ :: cs => segments skip cs
  | 0, c :: cs =>
    match Placeholder.all.find? (fun p => p.chars.isPrefixOf (c :: cs)) with
    | some p => .place p :: segments (p.chars.length - 1) cs
    | none => .char c :: segments 0 cs

theorem segments_eq_drop (skip : Nat) (cs : List Char) :
    segments skip cs = segments 0 (cs.drop skip) := by
  induction cs generalizing skip with
  | nil => cases skip <;> rfl
  | cons c cs ih =>
    cases skip with
    | zero => rfl
    | succ skip => exact ih skip

/-- A mark in front is read as a place. -/
theorem segments_chars_append (p : Placeholder) (cs : List Char) :
    segments 0 (p.chars ++ cs) = .place p :: segments 0 cs := by
  have hfind : Placeholder.all.find? (fun q => q.chars.isPrefixOf (p.chars ++ cs)) = some p := by
    simp only [Placeholder.isPrefixOf_chars_append]
    cases p <;> rfl
  have hdrop : (p.chars ++ cs).drop p.chars.length = cs := List.drop_left
  obtain ⟨tail, htail, -⟩ := p.exists_chars
  rw [htail, List.cons_append] at hfind hdrop ⊢
  rw [segments, hfind]
  dsimp only
  rw [htail, segments_eq_drop]
  exact congrArg _ (congrArg _ hdrop)

/-- Where no mark is in front, the first character is just that. -/
theorem segments_cons {c : Char} {cs : List Char}
    (h : ∀ p : Placeholder, p.chars.isPrefixOf (c :: cs) = false) :
    segments 0 (c :: cs) = .char c :: segments 0 cs := by
  have hfind : Placeholder.all.find? (fun p => p.chars.isPrefixOf (c :: cs)) = none :=
    List.find?_eq_none.mpr (fun p _ => Bool.eq_false_iff.mp (h p))
  rw [segments, hfind]

/-- **An induction over messages** as they are read. -/
theorem message_induction {P : List Char → Prop} (nil : P [])
    (place : ∀ (p : Placeholder) (cs : List Char), P cs → P (p.chars ++ cs))
    (char : ∀ (c : Char) (cs : List Char),
      (∀ p : Placeholder, p.chars.isPrefixOf (c :: cs) = false) → P cs → P (c :: cs))
    (cs : List Char) : P cs := by
  induction hlength : cs.length using Nat.strongRecOn generalizing cs with
  | ind length ih =>
    subst hlength
    cases cs with
    | nil => exact nil
    | cons c cs =>
      by_cases hfront : ∃ p : Placeholder, p.chars.isPrefixOf (c :: cs) = true
      · obtain ⟨p, hp⟩ := hfront
        obtain ⟨rest, hrest⟩ := List.isPrefixOf_iff_prefix.mp hp
        rw [← hrest]
        refine place p rest (ih rest.length ?_ rest rfl)
        rw [← hrest, List.length_append]
        exact Nat.lt_add_of_pos_left (List.length_pos_iff.mpr p.chars_ne_nil)
      · refine char c cs (fun p => ?_) (ih cs.length (Nat.lt_succ_self _) cs rfl)
        rw [Bool.eq_false_iff]
        exact fun hp => hfront ⟨p, hp⟩

/-- Nothing is lost where a message is read: with their marks in the places it is as before. -/
theorem text_segments (cs : List Char) :
    (segments 0 cs).flatMap (Segment.text Placeholder.chars) = cs := by
  induction cs using message_induction with
  | nil => rfl
  | place p cs ih => rw [segments_chars_append, List.flatMap_cons, ih, Segment.text]
  | char c cs hfront ih =>
    rw [segments_cons hfront, List.flatMap_cons, ih]
    rfl

/-- Every mark in a message is read as a place. -/
theorem count_segments (p : Placeholder) (cs : List Char) :
    (segments 0 cs).count (.place p) = occurrences p.chars cs := by
  induction cs using message_induction with
  | nil => rfl
  | place q cs ih =>
    rw [segments_chars_append, List.count_cons, ih, p.occurrences_chars_append]
    refine congrArg _ (if_congr ?_ rfl rfl)
    rw [beq_iff_eq, Segment.place.injEq, eq_comm]
  | char c cs hfront ih =>
    rw [segments_cons hfront, List.count_cons, ih, occurrences, hfront p]
    rfl

/-- **Other parts in the places of one kind** are a rewriting of the text, wherever their marks
stand there. -/
theorem rewrites_segments {f : Placeholder → List Char} {p : Placeholder} (hf : f p = p.chars)
    (new : List Char) (ps : List Segment) :
    Rewrites p.chars new (ps.count (.place p))
      (ps.flatMap (Segment.text (Function.update f p new))) (ps.flatMap (Segment.text f)) := by
  induction ps with
  | nil => exact .nil
  | cons segment ps ih =>
    rw [List.flatMap_cons, List.flatMap_cons, List.count_cons]
    cases segment with
    | char c =>
      rw [if_neg (by simp)]
      exact ih.keep c
    | place q =>
      by_cases hq : q = p
      · subst hq
        rw [if_pos (by simp), Segment.text, Segment.text, Function.update_self, hf]
        exact ih.replace
      · rw [if_neg (by simpa using hq), Segment.text, Segment.text, Function.update_of_ne hq]
        exact ih.append_left (f q)

/-! ## Turns -/

/-- What stands in the places when those of some kinds have been filled in: the part, if there is
one, or else still the mark. -/
def filling (parts : Parts) (done : List Placeholder) (p : Placeholder) : List Char :=
  ((if p ∈ done then parts.lookup p.name else none).getD p.mark).toList

/-- **A message with the places of some kinds filled in at once.** -/
def substitute (done : List Placeholder) (template : String) (parts : Parts) : String :=
  String.ofList ((segments 0 template.toList).flatMap (Segment.text (filling parts done)))

/-- One kind of place filled in, all over a text. -/
def Placeholder.turn (parts : Parts) (message : String) (p : Placeholder) : String :=
  match parts.lookup p.name with
  | some part => replaceAll message p.mark part
  | none => message

/-- A message filled in by turns, in some order. -/
def fillInBy (order : List Placeholder) (template : String) (parts : Parts) : String :=
  order.foldl (Placeholder.turn parts) template

theorem fillIn_eq (template : String) (parts : Parts) :
    fillIn template parts = fillInBy Placeholder.all template parts := rfl

/-- **No turn finds a new place**: whenever a part is about to be put in, and is not its own mark,
there are as many places for it as in the message that was given. -/
def AddsNoPlace (order : List Placeholder) (template : String) (parts : Parts) : Prop :=
  ∀ (done : List Placeholder) (p : Placeholder) (part : String), done ++ [p] <+: order →
    parts.lookup p.name = some part → part ≠ p.mark →
    occurrences p.chars (substitute done template parts).toList =
      occurrences p.chars template.toList

section Turns

variable {template : String} {parts : Parts} {done order : List Placeholder} {p : Placeholder}

theorem filling_nil (parts : Parts) : filling parts [] = Placeholder.chars := by
  funext q
  rw [filling, if_neg List.not_mem_nil]
  rfl

/-- Before the first turn the message is as it was given. -/
theorem substitute_nil (template : String) (parts : Parts) :
    substitute [] template parts = template := by
  rw [substitute, filling_nil, text_segments, String.ofList_toList]

/-- What is filled in does not depend on the order of the kinds. -/
theorem substitute_congr (h : ∀ p, p ∈ done ↔ p ∈ order) :
    substitute done template parts = substitute order template parts := by
  have hfilling : filling parts done = filling parts order := by
    funext q
    unfold filling
    simp only [h q]
  rw [substitute, substitute, hfilling]

/-- A kind of place has one turn. -/
theorem not_mem_of_turn (hnodup : order.Nodup) (h : done ++ [p] <+: order) : p ∉ done :=
  fun hmem => (List.nodup_append.mp (hnodup.sublist h.sublist)).2.2 _ hmem _
    (List.mem_singleton_self _) rfl

theorem filling_of_not_mem (h : p ∉ done) : filling parts done p = p.chars := by
  rw [filling, if_neg h]
  rfl

theorem filling_concat (h : p ∉ done) : filling parts (done ++ [p]) =
    Function.update (filling parts done) p ((parts.lookup p.name).getD p.mark).toList := by
  funext q
  unfold filling
  by_cases hq : q = p
  · subst hq
    rw [Function.update_self, if_pos (List.mem_append_right _ (List.mem_singleton_self q))]
  · rw [Function.update_of_ne hq]
    simp [hq]

/-- **A turn fills in the places of its kind, and no others**, if there are as many of them as in
the message, or if the part is the mark itself. -/
theorem Placeholder.turn_iff (h : p ∉ done) :
    p.turn parts (substitute done template parts) = substitute (done ++ [p]) template parts ↔
      ∀ part, parts.lookup p.name = some part → part ≠ p.mark →
        occurrences p.chars (substitute done template parts).toList =
          occurrences p.chars template.toList := by
  cases hpart : parts.lookup p.name with
  | none =>
    -- nothing is put in
    refine iff_of_true ?_ nofun
    rw [turn, hpart, substitute, substitute, filling_concat h, hpart]
    have hmark : ((none : Option String).getD p.mark).toList = filling parts done p :=
      (filling_of_not_mem h).symm
    rw [hmark, Function.update_eq_self]
  | some part =>
    have hfilling : filling parts done p = p.chars := filling_of_not_mem h
    have hrewrites := rewrites_segments hfilling part.toList (segments 0 template.toList)
    have hiff := hrewrites.eq_replaceFrom_iff p.separate_chars
    rw [count_segments] at hiff
    have hstep : p.turn parts (substitute done template parts) =
        substitute (done ++ [p]) template parts ↔
        occurrences p.chars template.toList =
          occurrences p.chars (substitute done template parts).toList ∨ part.toList = p.chars := by
      rw [turn, hpart, substitute, substitute, filling_concat h, hpart, String.toList_ofList,
        ← hiff]
      show String.ofList (replaceFrom _ _ 0 (String.ofList _).toList) = String.ofList _ ↔ _
      rw [String.toList_ofList, String.ofList_inj]
      exact eq_comm
    rw [hstep, chars, String.toList_inj]
    constructor
    · rintro (hcount | hsame) part' ⟨⟩ hnew
      · exact hcount.symm
      · exact absurd hsame hnew
    · intro hcount
      by_cases hnew : part = p.mark
      · exact .inr hnew
      · exact .inl (hcount part rfl hnew).symm

/-- **Filling in by turns is filling in at once**, after every turn, if and only if no turn finds a
new place. -/
theorem fillInBy_iff (hnodup : order.Nodup) :
    (∀ done, done <+: order → fillInBy done template parts = substitute done template parts) ↔
      AddsNoPlace order template parts := by
  have hstep : ∀ (done : List Placeholder) (p : Placeholder),
      fillInBy (done ++ [p]) template parts = p.turn parts (fillInBy done template parts) :=
    fun done p => List.foldl_concat _ _ p done
  constructor
  · intro h done p part hturn hpart hnew
    have hbefore := h done ((List.prefix_append done [p]).trans hturn)
    have hafter := h (done ++ [p]) hturn
    rw [hstep, hbefore] at hafter
    exact (Placeholder.turn_iff (not_mem_of_turn hnodup hturn)).mp hafter part hpart hnew
  · intro h done
    induction done using List.reverseRecOn with
    | nil => exact fun _ => (substitute_nil template parts).symm
    | append_singleton done p ih =>
      intro hturn
      rw [hstep, ih ((List.prefix_append done [p]).trans hturn)]
      exact (Placeholder.turn_iff (not_mem_of_turn hnodup hturn)).mpr
        (fun part hpart hnew => h done p part hturn hpart hnew)

/-! ## Opening braces -/

/-- Where no opening brace stands outside of places and marks, there are just the marks that were
read. -/
theorem occurrences_text {f : Placeholder → List Char} (hf : f p = p.chars)
    (hothers : ∀ q, f q = q.chars ∨ '\x7b' ∉ f q) {ps : List Segment}
    (hps : Segment.char '\x7b' ∉ ps) :
    occurrences p.chars (ps.flatMap (Segment.text f)) = ps.count (.place p) := by
  induction ps with
  | nil => rfl
  | cons segment ps ih =>
    rw [List.mem_cons, not_or] at hps
    rw [List.flatMap_cons, List.count_cons]
    cases segment with
    | char c =>
      rw [Segment.text, p.occurrences_append_of_braceless (by simpa [eq_comm] using hps.1),
        ih hps.2]
      rfl
    | place q =>
      rw [Segment.text]
      by_cases hq : q = p
      · rw [hq, hf, p.occurrences_chars_append, ih hps.2]
        simp
      · have hother : occurrences p.chars (f q ++ ps.flatMap (Segment.text f)) =
            occurrences p.chars (ps.flatMap (Segment.text f)) := by
          rcases hothers q with h | h
          · rw [h, p.occurrences_chars_append, if_neg (Ne.symm hq), Nat.add_zero]
          · exact p.occurrences_append_of_braceless h _
        rw [hother, ih hps.2]
        simp [hq]

/-- **Without opening braces nothing new can be found**: neither in the parts nor in the message
beside its places. -/
theorem addsNoPlace_of_braceless (hnodup : order.Nodup)
    (hmessage : Segment.char '\x7b' ∉ segments 0 template.toList)
    (hparts : ∀ (p : Placeholder) (part : String), parts.lookup p.name = some part →
      '\x7b' ∉ part.toList) : AddsNoPlace order template parts := by
  intro done p part hturn hpart _
  rw [substitute, String.toList_ofList, occurrences_text, count_segments]
  · exact filling_of_not_mem (not_mem_of_turn hnodup hturn)
  · intro q
    unfold filling
    split
    · cases hq : parts.lookup q.name with
      | none => exact .inl rfl
      | some part => exact .inr (hparts q part hq)
    · exact .inl rfl
  · exact hmessage

end Turns

/-! ## All places -/

theorem Placeholder.nodup_all : Placeholder.all.Nodup := by decide

/-- **Filling in a message by turns is filling in all its places at once**, turn by turn, if and
only if no turn finds a place that was not in the message. Then the message is what one reading
gives, and so it is in every other order in which no turn finds a new place. -/
theorem fillIn_simultaneous_iff (template : String) (parts : Parts) :
    ((∀ done, done <+: Placeholder.all →
        fillInBy done template parts = substitute done template parts) ↔
      AddsNoPlace Placeholder.all template parts) ∧
    (AddsNoPlace Placeholder.all template parts →
      fillIn template parts = substitute Placeholder.all template parts) ∧
    ∀ order, order.Perm Placeholder.all → AddsNoPlace order template parts →
      fillInBy order template parts = substitute Placeholder.all template parts := by
  have horders : ∀ order, order.Perm Placeholder.all → AddsNoPlace order template parts →
      fillInBy order template parts = substitute Placeholder.all template parts := by
    intro order hperm h
    rw [(fillInBy_iff (hperm.nodup_iff.mpr Placeholder.nodup_all)).mpr h order List.prefix_rfl]
    exact substitute_congr (fun p => hperm.mem_iff)
  refine ⟨fillInBy_iff Placeholder.nodup_all, fun h => ?_, horders⟩
  rw [fillIn_eq]
  exact horders _ (List.Perm.refl _) h

/-- A pattern with braces of its own is put into its message, and makes no new place there. -/
theorem fillIn_simultaneous_pattern :
    AddsNoPlace Placeholder.all Rule.stringPattern.template
        [("path", "code"), ("pattern", "^[0-9]\x7b4\x7d$")] ∧
      fillIn Rule.stringPattern.template [("path", "code"), ("pattern", "^[0-9]\x7b4\x7d$")] =
        substitute Placeholder.all Rule.stringPattern.template
          [("path", "code"), ("pattern", "^[0-9]\x7b4\x7d$")] := by
  have hiff := fillIn_simultaneous_iff Rule.stringPattern.template
    [("path", "code"), ("pattern", "^[0-9]\x7b4\x7d$")]
  have hturns : ∀ done ∈ Placeholder.all.inits, fillInBy done Rule.stringPattern.template
      [("path", "code"), ("pattern", "^[0-9]\x7b4\x7d$")] =
        substitute done Rule.stringPattern.template
          [("path", "code"), ("pattern", "^[0-9]\x7b4\x7d$")] := by
    decide
  have hadds := hiff.1.mp (fun done hdone => hturns done ((List.mem_inits _ _).mpr hdone))
  exact ⟨hadds, hiff.2.1 hadds⟩

/-- **What is put in is filled in again**, if it spells a place whose turn is still to come: a field
named after the place of its bound disappears from the message. So the order of the turns is to be
seen in the message. -/
theorem fillIn_not_simultaneous :
    (¬ ∀ (template : String) (parts : Parts),
      fillIn template parts = substitute Placeholder.all template parts) ∧
    ¬ ∀ (template : String) (parts : Parts) (order : List Placeholder),
      order.Perm Placeholder.all → fillInBy order template parts = fillIn template parts := by
  have hturns : fillIn Rule.numberMin.template [("path", "\x7bmin\x7d"), ("min", "3")] =
      "3 must be greater than or equal to 3" := rfl
  have honce : substitute Placeholder.all Rule.numberMin.template
      [("path", "\x7bmin\x7d"), ("min", "3")] =
        "\x7bmin\x7d must be greater than or equal to 3" := rfl
  have hbackwards : fillInBy Placeholder.all.reverse Rule.numberMin.template
      [("path", "\x7bmin\x7d"), ("min", "3")] =
        "\x7bmin\x7d must be greater than or equal to 3" := rfl
  constructor
  · intro hall
    have heq := hall Rule.numberMin.template [("path", "\x7bmin\x7d"), ("min", "3")]
    rw [hturns, honce] at heq
    exact absurd heq (by decide)
  · intro hall
    have heq := hall Rule.numberMin.template [("path", "\x7bmin\x7d"), ("min", "3")]
      Placeholder.all.reverse (List.reverse_perm _)
    rw [hturns, hbackwards] at heq
    exact absurd heq (by decide)

/-- **The messages of the rules** are filled in at once, if there are no opening braces in the
parts. -/
theorem Rule.fillIn_template (r : Rule) {parts : Parts}
    (hparts : ∀ (p : Placeholder) (part : String), parts.lookup p.name = some part →
      '\x7b' ∉ part.toList) :
    fillIn r.template parts = substitute Placeholder.all r.template parts := by
  have hmessage : Segment.char '\x7b' ∉ segments 0 r.template.toList := by
    cases r <;> decide +kernel
  rw [fillIn_eq]
  exact (fillInBy_iff Placeholder.nodup_all).mpr
    (addsNoPlace_of_braceless Placeholder.nodup_all hmessage hparts) _ List.prefix_rfl

end Conform
