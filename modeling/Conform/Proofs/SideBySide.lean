import Mathlib.Data.List.Forall2
import Conform.Proofs.Settled

/-!
# Two walks side by side

Many things that are true of validation are about two walks: of one value in two schemas, of two
values that differ in little, or under two settings of the options. `Walk.Related` compares how two
walks end: both with a result, or both early. What is asked of the results, of the notes and of the
early ends varies with what is to be shown. What is asked of the notes has to survive concatenation
(`ListRelation`), for then the comparison goes step by step through a sequence, and through the
entries of a map and the items of a list.
-/

namespace Conform

/-- **A relation of lists that survives concatenation.** -/
structure ListRelation (α β : Type) where
  holds : List α → List β → Prop
  nil : holds [] []
  append : ∀ {xs ys zs ws}, holds xs ys → holds zs ws → holds (xs ++ zs) (ys ++ ws)

namespace ListRelation

variable {α β : Type}

/-- Equal lists. -/
def equal : ListRelation α α where
  holds xs ys := xs = ys
  nil := rfl
  append h h' := by rw [h, h']

/-- One list in any order. -/
def permuted : ListRelation α α where
  holds := List.Perm
  nil := .refl _
  append h h' := h.append h'

/-- Any two lists. -/
def any : ListRelation α β where
  holds _ _ := True
  nil := trivial
  append _ _ := trivial

end ListRelation

/-- **How two walks are compared**: what is asked of their notes, and of the reasons why they end
early. -/
structure Comparison where
  notes : ListRelation Violation Violation
  ends : Interruption → Interruption → Prop

namespace Walk

variable {α β γ δ : Type} {k : Comparison} {R : α → β → Prop} {S : γ → δ → Prop}

/-- **Two walks that go side by side**: both end well, with results and notes that are related, or
both end early, for related reasons. -/
def Related (k : Comparison) (R : α → β → Prop) (m : Walk α) (m' : Walk β) : Prop :=
  match m.run [], m'.run [] with
  | .ok (a, notes), .ok (b, notes') => R a b ∧ k.notes.holds notes notes'
  | .error e, .error e' => k.ends e e'
  | _, _ => False

/-- There are two ways for two walks to go side by side. -/
theorem related_iff {m : Walk α} {m' : Walk β} : Related k R m m' ↔
    (∃ a b notes notes', m.run [] = .ok (a, notes) ∧ m'.run [] = .ok (b, notes') ∧ R a b ∧
      k.notes.holds notes notes') ∨
    ∃ e e', m.run [] = .error e ∧ m'.run [] = .error e' ∧ k.ends e e' := by
  unfold Related
  cases m.run [] with
  | error e => cases m'.run [] <;> simp
  | ok r =>
    obtain ⟨a, notes⟩ := r
    cases m'.run [] with
    | error e => simp
    | ok r' =>
      obtain ⟨b, notes'⟩ := r'
      simp

theorem related_pure {a : α} {b : β} (h : R a b) : Related k R (pure a) (pure b) :=
  ⟨h, k.notes.nil⟩

theorem related_throw {e e' : Interruption} (h : k.ends e e') :
    Related k R (throw e) (throw e') := h

/-- **Two sequences go side by side** if their first parts do, and their second parts from related
results on. -/
theorem Related.bind {m : Walk α} {m' : Walk β} {f : α → Walk γ} {g : β → Walk δ}
    (h : Related k R m m') (hf : ∀ a, (f a).Appends) (hg : ∀ b, (g b).Appends)
    (hfg : ∀ a b, R a b → Related k S (f a) (g b)) : Related k S (m >>= f) (m' >>= g) := by
  unfold Related at h ⊢
  cases hm : m.run [] with
  | error e =>
    cases hm' : m'.run [] with
    | error e' =>
      rw [hm, hm'] at h
      rw [run_bind_of_error hm, run_bind_of_error hm']
      exact h
    | ok r => rw [hm, hm'] at h; exact h.elim
  | ok r =>
    obtain ⟨a, notes⟩ := r
    cases hm' : m'.run [] with
    | error e' => rw [hm, hm'] at h; exact h.elim
    | ok r' =>
      obtain ⟨b, notes'⟩ := r'
      rw [hm, hm'] at h
      obtain ⟨hab, hnotes⟩ := h
      have hrest := hfg a b hab
      rw [run_bind_of_ok (hf a) hm, run_bind_of_ok (hg b) hm']
      unfold Related at hrest
      cases hfa : (f a).run [] with
      | error e =>
        cases hgb : (g b).run [] with
        | error e' => rw [hfa, hgb] at hrest; exact hrest
        | ok s => rw [hfa, hgb] at hrest; exact hrest.elim
      | ok s =>
        cases hgb : (g b).run [] with
        | error e' => rw [hfa, hgb] at hrest; exact hrest.elim
        | ok s' =>
          rw [hfa, hgb] at hrest
          exact ⟨hrest.1, k.notes.append hnotes hrest.2⟩

theorem Related.map {m : Walk α} {m' : Walk β} {f : α → γ} {g : β → δ} (h : Related k R m m')
    (hfg : ∀ a b, R a b → S (f a) (g b)) : Related k S (f <$> m) (g <$> m') := by
  rw [map_eq_pure_bind, map_eq_pure_bind]
  exact h.bind (fun a => appends_pure (f a)) (fun b => appends_pure (g b))
    (fun a b hab => related_pure (hfg a b hab))

/-- What is asked may be weakened. -/
theorem Related.mono {R' : α → β → Prop} {m : Walk α} {m' : Walk β} (h : Related k R m m')
    (hR : ∀ a b, R a b → R' a b) : Related k R' m m' := by
  unfold Related at h ⊢
  cases hm : m.run [] <;> cases hm' : m'.run [] <;> rw [hm, hm'] at h
  · exact h
  · exact h
  · exact h
  · exact ⟨hR _ _ h.1, h.2⟩

end Walk

namespace Course

open Walk

/-! ## Members -/

section Members

variable {k : Comparison} {member member' : Path → Value → Walk (Option Value)} {path path' : Path}

/-- **The entries of two maps** go side by side if each does with its partner. -/
theorem related_walkEntries (h : ∀ path v, (member path v).Appends)
    (h' : ∀ path v, (member' path v).Appends) (T : ListRelation (Value × Value) (Value × Value))
    {es fs : List (Value × Value)}
    (hmembers : List.Forall₂ (fun e f => Related k
      (fun child child' => T.holds (child.map fun w => (e.1, w)).toList
        (child'.map fun w => (f.1, w)).toList)
      (member (path ++ [e.1]) e.2) (member' (path' ++ [f.1]) f.2)) es fs) :
    Related k T.holds (walkEntries member path es) (walkEntries member' path' fs) := by
  induction hmembers with
  | nil => exact related_pure T.nil
  | cons hfirst _ ih =>
    refine hfirst.bind
      (fun _ => (appends_walkEntries h path _).bind (fun _ => appends_pure _))
      (fun _ => (appends_walkEntries h' path' _).bind (fun _ => appends_pure _))
      (fun child child' hchild => ?_)
    exact ih.bind (fun _ => appends_pure _) (fun _ => appends_pure _)
      (fun _ _ hrest => related_pure (T.append hchild hrest))

/-- **The items of two lists** go side by side if each does with its partner. -/
theorem related_walkItems (h : ∀ path v, (member path v).Appends)
    (h' : ∀ path v, (member' path v).Appends) (T : ListRelation Value Value) {index : Nat}
    {vs ws : List Value}
    (hmembers : List.Forall₂ (fun v w => ∀ i : Nat, Related k
      (fun child child' => T.holds child.toList child'.toList)
      (member (path ++ [.int i]) v) (member' (path' ++ [.int i]) w)) vs ws) :
    Related k T.holds (walkItems member path index vs) (walkItems member' path' index ws) := by
  induction hmembers generalizing index with
  | nil => exact related_pure T.nil
  | cons hfirst _ ih =>
    refine (hfirst index).bind
      (fun _ => (appends_walkItems h path _ _).bind (fun _ => appends_pure _))
      (fun _ => (appends_walkItems h' path' _ _).bind (fun _ => appends_pure _))
      (fun child child' hchild => ?_)
    exact ih.bind (fun _ => appends_pure _) (fun _ => appends_pure _)
      (fun _ _ hrest => related_pure (T.append hchild hrest))

/-- The members of one value, walked in two ways. -/
theorem related_walkMembers (h : ∀ path v, (member path v).Appends)
    (h' : ∀ path v, (member' path v).Appends)
    (hmembers : ∀ key v, Related k Eq (member (path ++ [key]) v) (member' (path' ++ [key]) v))
    (v : Value) : Related k Eq (walkMembers member path v) (walkMembers member' path' v) := by
  cases v with
  | map es =>
    refine (related_walkEntries h h' .equal (List.forall₂_same.mpr (fun e _ => ?_))).map
      (fun _ _ hes => congrArg Value.map hes)
    exact (hmembers e.1 e.2).mono (fun _ _ hchild => by rw [hchild]; rfl)
  | list vs =>
    refine (related_walkItems h h' .equal (List.forall₂_same.mpr (fun v _ i => ?_))).map
      (fun _ _ hvs => congrArg Value.list hvs)
    exact (hmembers (.int i) v).mono (fun _ _ hchild => by rw [hchild]; rfl)
  | _ => exact related_pure rfl

/-- Entries that are walked alike. -/
theorem walkEntries_congr {es : List (Value × Value)}
    (h : ∀ e ∈ es, member (path ++ [e.1]) e.2 = member' (path ++ [e.1]) e.2) :
    walkEntries member path es = walkEntries member' path es := by
  induction es with
  | nil => rfl
  | cons e es ih =>
    rw [List.forall_mem_cons] at h
    rw [walkEntries, walkEntries, h.1, ih h.2]

/-- Items that are walked alike. -/
theorem walkItems_congr
    (h : ∀ (i : Nat) v, member (path ++ [.int i]) v = member' (path ++ [.int i]) v) (index : Nat)
    (vs : List Value) : walkItems member path index vs = walkItems member' path index vs := by
  induction vs generalizing index with
  | nil => rfl
  | cons v vs ih => rw [walkItems, walkItems, h, ih]

/-- Members that are walked alike. -/
theorem walkMembers_congr (h : ∀ key v, member (path ++ [key]) v = member' (path ++ [key]) v)
    (v : Value) : walkMembers member path v = walkMembers member' path v := by
  cases v with
  | map es => rw [walkMembers, walkMembers, walkEntries_congr (fun e _ => h e.1 e.2)]
  | list vs => rw [walkMembers, walkMembers, walkItems_congr (fun i v => h (.int i) v)]
  | _ => rfl

end Members

/-! ## Walks that are the same -/

theorem leftOver_of_isPresent {v : Value} (h : v.isPresent = true) : leftOver v = some v := by
  cases v <;> first | rfl | cases h

/-- **What follows a visit** of a value that is there need only be the same for leaves and for the
value itself. -/
theorem visit_bind_congr {α : Type} {c : Course} {path : Path} {v : Value}
    (hv : v.isPresent = true) {f g : Option Value → Walk α}
    (h : ∀ child, (∀ w, child = some w → w.isContainer = true → w = v) → f child = g child) :
    (c.visit path v >>= f) = (c.visit path v >>= g) := by
  unfold visit
  cases c.schema.locate path with
  | none =>
    refine h _ (fun w hw _ => ?_)
    exact (unknown_eq_some.mp hw).1.symm
  | some t =>
    dsimp only
    cases happly : apply (c.site path) t v with
    | ok child =>
      refine h _ (fun w hw hcontainer => ?_)
      subst hw
      have htakes := apply_eq_ok_iff.mp happly
      generalize hx : some w = x at htakes
      cases htakes with
      | present haccepts =>
        cases hx
        exact (haccepts.eq_of_isContainer hcontainer).symm
      | null => cases hx; cases hcontainer
      | nullDefault => cases hv
      | default => cases hv
      | omitted => cases hx
    | error e =>
      cases e with
      | violation violation =>
        dsimp only
        rw [bind_assoc, bind_assoc]
        refine bind_congr (fun _ => h _ (fun w hw _ => ?_))
        rw [leftOver_of_isPresent hv] at hw
        exact (Option.some.inj hw).symm
      | _ => rfl

end Course

end Conform
