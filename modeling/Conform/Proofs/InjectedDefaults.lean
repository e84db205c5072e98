import Conform.Proofs.KeyOrder

/-!
# Defaults that are put in

A default takes the place of a missing value when the walk comes by its mark. The same default may
be given in the data instead, and then it is marked with the rest of the data and visited like any
value. Both come to one and the same check: the default fits the first candidate of its type, which
is the one that a missing value resolves to, and it is marked by the type either way
(`Course.visit_default`). A default of null is not checked, and a given null is accepted, for the
same reason.

The two part where the check fails. A given value stays where it is, and its members are walked. A
default that is rejected is dropped, and what is wrong with its members is never found. This matters
for lists alone: a map fits its object, and other values have no members. So if every default that
is a list has a length that its own node admits, the two validations agree but for the order of keys
and violations (`Fields.validateShared_with_defaults`). If one has not, the data are rejected either
way, but the validation that puts the default in can report less
(`Fields.longDefault_reports_less`).

No default may have a container in two places either. What is given is copied, and then they are
two.

The comparison has a direction (`Walk.Within`): where the walk of the given defaults ends well, the
walk that puts them in ends well too, with a part of the notes.
-/

namespace Conform

/-! ## A walk within another -/

namespace Walk

variable {α β γ δ : Type} {R : α → β → Prop} {S : γ → δ → Prop}

/-- **A walk that finds no more than another**: where the other ends well, so does this one, with a
part of the notes, in any order. If it notes nothing, the other notes nothing either, and the
results are related. -/
def Within (R : α → β → Prop) (m : Walk α) (m' : Walk β) : Prop :=
  ∀ b notes', m'.run [] = .ok (b, notes') → ∃ a notes, m.run [] = .ok (a, notes) ∧
    notes.Subperm notes' ∧ (notes = [] → notes' = [] ∧ R a b)

theorem within_refl (m : Walk α) : Within Eq m m :=
  fun a notes h => ⟨a, notes, h, .refl _, fun hnil => ⟨hnil, rfl⟩⟩

theorem within_pure {a : α} {b : β} (h : R a b) : Within R (pure a) (pure b) := by
  rintro _ _ ⟨⟩
  exact ⟨a, [], rfl, .refl _, fun _ => ⟨rfl, h⟩⟩

/-- The results of a second part have to be related only if those of the first are. -/
theorem Within.bind {m : Walk α} {m' : Walk β} {f : α → Walk γ} {g : β → Walk δ}
    (h : Within R m m') (hf : ∀ a, (f a).Appends) (hg : ∀ b, (g b).Appends)
    (hfg : ∀ a b, Within (fun c d => R a b → S c d) (f a) (g b)) :
    Within S (m >>= f) (m' >>= g) := by
  intro d notes' hrun
  cases hm' : m'.run [] with
  | error e =>
    rw [run_bind_of_error hm'] at hrun
    cases hrun
  | ok r =>
    obtain ⟨b, first'⟩ := r
    rw [run_bind_of_ok (hg b) hm'] at hrun
    cases hgb : (g b).run [] with
    | error e =>
      rw [hgb] at hrun
      cases hrun
    | ok s =>
      obtain ⟨d', second'⟩ := s
      rw [hgb] at hrun
      obtain ⟨rfl, rfl⟩ := Prod.mk.inj (Except.ok.inj hrun)
      obtain ⟨a, first, hm, hfirst, hab⟩ := h b first' hm'
      obtain ⟨c, second, hfa, hsecond, hcd⟩ := hfg a b d' second' hgb
      have hboth : (first ++ second).Subperm (first' ++ second') :=
        ((List.subperm_append_right second).mpr hfirst).trans
          ((List.subperm_append_left first').mpr hsecond)
      refine ⟨c, first ++ second, ?_, hboth, fun hnil => ?_⟩
      · rw [run_bind_of_ok (hf a) hm, hfa]
        rfl
      · obtain ⟨hnil, hnil'⟩ := List.append_eq_nil_iff.mp hnil
        obtain ⟨hfirst', hab⟩ := hab hnil
        obtain ⟨hsecond', hcd⟩ := hcd hnil'
        exact ⟨by rw [hfirst', hsecond']; rfl, hcd hab⟩

/-- After the same note, what yields something finds no more than anything else. -/
theorem within_noted (violation : Violation) {f : Walk α} {g : Walk β} (hf : f.Appends)
    (hg : g.Appends) {a : α} (ha : f.Yields a) :
    Within R (modify (· ++ [violation]) >>= fun _ => f)
      (modify (· ++ [violation]) >>= fun _ => g) := by
  intro b notes' hrun
  rw [run_bind_of_ok hg rfl] at hrun
  cases hgb : g.run [] with
  | error e =>
    rw [hgb] at hrun
    cases hrun
  | ok r =>
    rw [hgb] at hrun
    obtain ⟨-, rfl⟩ := Prod.mk.inj (Except.ok.inj hrun)
    refine ⟨a, [violation], ?_, (List.sublist_append_left _ _).subperm, nofun⟩
    rw [run_bind_of_ok hf rfl, show f.run [] = .ok (a, []) from ha]
    rfl

theorem Within.map {m : Walk α} {m' : Walk β} {f : α → γ} {g : β → δ} (h : Within R m m')
    (hfg : ∀ a b, R a b → S (f a) (g b)) : Within S (f <$> m) (g <$> m') := by
  rw [map_eq_pure_bind, map_eq_pure_bind]
  exact h.bind (fun a => appends_pure (f a)) (fun b => appends_pure (g b))
    (fun a b => within_pure (hfg a b))

/-- Walks that find the same in any order are within each other. -/
theorem Related.within {m : Walk α} {m' : Walk β} (h : Related .unordered R m m') :
    Within R m m' := by
  intro b notes' hm'
  rcases related_iff.mp h with ⟨a, b', notes, more, hm, hb', hab, hnotes⟩ | ⟨e, e', -, he', -⟩
  · cases hm'.symm.trans hb'
    refine ⟨a, notes, hm, List.Perm.subperm hnotes, fun hnil => ?_⟩
    subst hnil
    exact ⟨List.nil_perm.mp hnotes, hab⟩
  · cases hm'.symm.trans he'

theorem Within.trans {m : Walk α} {m' : Walk β} {m'' : Walk γ} {T : β → γ → Prop}
    (h : Within R m m') (h' : Within T m' m'') :
    Within (fun a c => ∃ b, R a b ∧ T b c) m m'' := by
  intro c notes'' hm''
  obtain ⟨b, notes', hm', hsub', hbc⟩ := h' c notes'' hm''
  obtain ⟨a, notes, hm, hsub, hab⟩ := h b notes' hm'
  refine ⟨a, notes, hm, hsub.trans hsub', fun hnil => ?_⟩
  obtain ⟨hnil', hab⟩ := hab hnil
  obtain ⟨hnil'', hbc⟩ := hbc hnil'
  exact ⟨hnil'', b, hab, hbc⟩

/-- What walks within each other yield is related. -/
theorem Within.of_yields {m : Walk α} {m' : Walk β} (h : Within R m m') {a : α} {b : β}
    (ha : m.Yields a) (hb : m'.Yields b) : R a b := by
  obtain ⟨a', notes, ha', -, hab⟩ := h b [] hb
  cases ha'.symm.trans (show _ = Except.ok (a, []) from ha)
  exact (hab rfl).2

/-- **Walks within each other** find the same in any order. -/
theorem Within.related {m : Walk α} {m' : Walk β} (h : Within R m m')
    (h' : Within (fun _ _ => True) m' m) : Related .unordered (fun _ _ => True) m m' := by
  rw [related_iff]
  cases hm' : m'.run [] with
  | ok r =>
    obtain ⟨a, notes, hm, hsub, -⟩ := h r.1 r.2 hm'
    obtain ⟨b, notes', hb, hsub', -⟩ := h' a notes hm
    cases hm'.symm.trans hb
    exact .inl ⟨a, _, notes, _, hm, rfl, trivial, hsub.antisymm hsub'⟩
  | error e' =>
    cases hm : m.run [] with
    | error e => exact .inr ⟨e, e', rfl, rfl, trivial⟩
    | ok r =>
      obtain ⟨b, notes', hb, -, -⟩ := h' r.1 r.2 hm
      cases hm'.symm.trans hb

end Walk

/-- **The entries of a map** find no more than others of the same keys, if each finds no more than
its partner. -/
theorem Course.within_walkEntries {member : Path → Value → Walk (Option Value)} {path : Path}
    (h : ∀ path v, (member path v).Appends) {es fs : List (Value × Value)}
    (hmembers : List.Forall₂ (fun e f => e.1 = f.1 ∧
      Walk.Within Eq (member (path ++ [e.1]) e.2) (member (path ++ [f.1]) f.2)) es fs) :
    Walk.Within Eq (walkEntries member path es) (walkEntries member path fs) := by
  induction hmembers with
  | nil => exact Walk.within_pure rfl
  | cons hfirst _ ih =>
    obtain ⟨hkey, hfirst⟩ := hfirst
    refine hfirst.bind
      (fun _ => (appends_walkEntries h path _).bind (fun _ => Walk.appends_pure _))
      (fun _ => (appends_walkEntries h path _).bind (fun _ => Walk.appends_pure _))
      (fun child child' => ?_)
    refine ih.bind (fun _ => Walk.appends_pure _) (fun _ => Walk.appends_pure _)
      (fun rest rest' => Walk.within_pure (fun hrest hchild => ?_))
    rw [hkey, hrest, hchild]

/-- **The entries of a map may be walked in any order.** -/
theorem Course.related_walkEntries_perm {member : Path → Value → Walk (Option Value)} {path : Path}
    (h : ∀ path v, (member path v).Appends) {es gs : List (Value × Value)} (hperm : es.Perm gs) :
    Walk.Related .unordered List.Perm (walkEntries member path es)
      (walkEntries member path gs) := by
  have happends := appends_walkEntries h path
  induction hperm with
  | nil => exact Walk.related_pure (.refl _)
  | cons e _ ih =>
    refine (Walk.related_refl _).bind
      (fun _ => (happends _).bind (fun _ => Walk.appends_pure _))
      (fun _ => (happends _).bind (fun _ => Walk.appends_pure _)) (fun child child' hchild => ?_)
    subst hchild
    exact ih.bind (fun _ => Walk.appends_pure _) (fun _ => Walk.appends_pure _)
      (fun _ _ hrest => Walk.related_pure (hrest.append_left _))
  | swap e f es =>
    let entry : Value → Option Value → List (Value × Value) := fun k child =>
      (child.map fun w => (k, w)).toList
    have hsplit : ∀ e f : Value × Value, walkEntries member path (e :: f :: es) =
        member (path ++ [e.1]) e.2 >>= fun x => member (path ++ [f.1]) f.2 >>= fun y =>
          walkEntries member path es >>= fun rest =>
            pure (entry e.1 x ++ (entry f.1 y ++ rest)) := by
      intro e f
      simp only [walkEntries, bind_assoc, pure_bind]
      rfl
    rw [hsplit, hsplit]
    refine Walk.related_swap (h _ _) (h _ _)
      (fun _ _ => (happends es).bind (fun _ => Walk.appends_pure _))
      (fun _ _ => (happends es).bind (fun _ => Walk.appends_pure _)) (fun x y => ?_)
    refine (Walk.related_refl _).bind (fun _ => Walk.appends_pure _)
      (fun _ => Walk.appends_pure _) (fun rest rest' hrest => Walk.related_pure ?_)
    rw [hrest]
    exact List.perm_append_comm_assoc _ _ _
  | trans _ _ ih ih' =>
    refine (ih.trans ih').mono (fun _ _ hes => ?_)
    obtain ⟨_, h, h'⟩ := hes
    exact h.trans h'

/-! ## Defaults fit their node -/

namespace Node

variable {n : Node} {d : Value}

/-- **A default fits its node**, unless it is null. -/
theorem matches_default (hd : n.default? = some d) (hne : d ≠ .null) : n.matches d = true := by
  have hvalue : ∀ {α : Type} {p : Presence α} {f : α → Value}, p.defaultValue? f = some d →
      ∃ a, d = f a := by
    intro α p f h
    obtain ⟨a, -, ha⟩ := Option.map_eq_some_iff.mp h
    cases a with
    | none => exact absurd ha.symm hne
    | some a => exact ⟨a, ha.symm⟩
  cases n <;> obtain ⟨a, rfl⟩ := hvalue hd <;> rfl

theorem not_matches_absent (n : Node) : n.matches .absent = false := by
  cases n <;> rfl

end Node

namespace TypeSpec

variable {t : TypeSpec} {d : Value}

/-- **A default resolves to the first candidate**, as a missing value does. -/
theorem resolve_default (hd : t.first.default? = some d) (hne : d ≠ .null) :
    t.resolve (t.seed d) = t.first := by
  have hfirst : t.first.matches (t.seed d) = true := by
    rw [t.matches_seed]
    exact Node.matches_default hd hne
  have habsent : t.seed d ≠ .absent := by
    intro h
    rw [h, Node.not_matches_absent] at hfirst
    cases hfirst
  have hcandidates : ∃ ns, t.candidates = t.first :: ns := by
    cases t with
    | single n => exact ⟨[], rfl⟩
    | union n m ns => exact ⟨m :: ns, rfl⟩
  obtain ⟨ns, hns⟩ := hcandidates
  rw [t.resolve_eq habsent, hns, List.find?_cons, hfirst]
  rfl

/-- **Whether the default of a type has an admitted length**: if it is a list, it has as many items
as its own node asks for. -/
def AdmitsDefaultLength (t : TypeSpec) : Prop :=
  ∀ p u count vs, t.first = .array p u count → t.first.default? = some (.list vs) →
    count.Admits vs.length

/-- A default that is a map, or a list of an admitted length, passes all rules of its node. -/
theorem accepts_default (hd : t.first.default? = some d) (hcontainer : d.isContainer = true)
    (hlength : t.AdmitsDefaultLength) : (t.resolve (t.seed d)).Accepts (t.seed d) (t.seed d) := by
  have hne : d ≠ .null := Value.ne_null_of_isContainer hcontainer
  have hmatches := Node.matches_default hd hne
  rw [resolve_default hd hne]
  unfold AdmitsDefaultLength at hlength
  generalize t.first = n at hd hmatches hlength
  cases d with
  | map es =>
    rw [n.matches_map] at hmatches
    rw [seed_map]
    cases n <;> first | exact .object | cases hmatches
  | list vs =>
    rw [n.matches_list] at hmatches
    rw [seed_list]
    cases n with
    | array p u count =>
      have hcount := hlength p u count vs rfl hd
      refine .array ?_
      cases t.seedItems? <;> simpa using hcount
    | _ => cases hmatches
  | _ => cases hcontainer

/-- What takes a default that is a list admits its length. -/
theorem admitsDefaultLength_of_takes {child : Option Value} (h : t.Takes .absent child) :
    t.AdmitsDefaultLength := by
  intro p u count vs hfirst hd
  generalize habsent : Value.absent = v at h
  cases h with
  | null => cases habsent
  | present haccepts =>
    subst habsent
    exact absurd rfl haccepts.ne_absent
  | nullDefault hnull =>
    rw [hd] at hnull
    cases hnull
  | default hd' hne haccepts =>
    rw [hd] at hd'
    cases hd'
    rw [resolve_default hd hne, hfirst, seed_list] at haccepts
    cases haccepts with
    | array hcount =>
      revert hcount
      cases t.seedItems? <;> simp
  | omitted hnone =>
    rw [hd] at hnone
    cases hnone

end TypeSpec

/-! ## The two visits -/

namespace Course

open Walk

variable {c : Course} {path : Path} {t : TypeSpec} {d : Value}

/-- **A default that is put in is visited like one that is given**, until it is rejected: then the
one is dropped and the other stays. -/
theorem visit_default (hlocate : c.schema.locate path = some t)
    (hd : t.first.default? = some d) :
    c.visit path .absent = c.visit path (t.seed d) ∨
      (∃ violation, c.visit path .absent = (c.report violation >>= fun _ => pure none) ∧
        c.visit path (t.seed d) = (c.report violation >>= fun _ => pure (some (t.seed d)))) ∧
      (t.AdmitsDefaultLength → d.isContainer = false) := by
  by_cases hnull : d = .null
  · left
    subst hnull
    unfold visit
    rw [hlocate, t.seed_null]
    dsimp only
    rw [apply_absent_of_null hd, apply_null, if_pos (TypeSpec.acceptsNull_of_default hd)]
  · have habsent : d ≠ .absent := by
      rintro rfl
      have hmatches := Node.matches_default hd hnull
      rw [Node.not_matches_absent] at hmatches
      cases hmatches
    have hpresent : (t.seed d).isPresent = true := by
      rw [t.isPresent_seed, Value.isPresent_iff]
      exact habsent
    unfold visit
    rw [hlocate]
    dsimp only
    rw [apply_absent_of_default hd hnull, apply_of_present (fun h => hnull (t.seed_eq_null.mp h))
      (Value.isPresent_iff.mp hpresent), leftOver_of_isPresent hpresent]
    cases hcheck : checkPresent (c.site path) t (t.seed d) with
    | ok w => exact .inl rfl
    | error e =>
      cases e with
      | violation violation =>
        refine .inr ⟨⟨violation, rfl, rfl⟩, fun hlength => ?_⟩
        rw [Bool.eq_false_iff]
        intro hcontainer
        rw [checkPresent_eq_ok_iff.mpr (TypeSpec.accepts_default hd hcontainer hlength)] at hcheck
        cases hcheck
      | dateOutOfRange => exact .inl rfl
      | search e => exact .inl rfl

section Walks

variable {budget : Nat} (hcollect : c.options.abortEarly = false)

include hcollect

/-- Where the default is rejected, both walks note the rejection first. -/
theorem walk_default_of_rejected {violation : Violation}
    (habsent : c.visit path .absent = (c.report violation >>= fun _ => pure none))
    (hgiven : c.visit path (t.seed d) = (c.report violation >>= fun _ => pure (some (t.seed d)))) :
    c.walk (budget + 1) path .absent = (modify (· ++ [violation]) >>= fun _ => pure none) ∧
      c.walk (budget + 1) path (t.seed d) = (modify (· ++ [violation]) >>= fun _ =>
        some <$> walkMembers (c.walk budget) path (t.seed d)) := by
  have hreport : c.report violation = modify (· ++ [violation]) := by
    unfold report
    rw [hcollect]
    rfl
  constructor
  · rw [walk, habsent, hreport, bind_assoc]
    rfl
  · rw [walk, hgiven, hreport, bind_assoc]
    simp only [pure_bind, map_eq_pure_bind]

variable (hlocate : c.schema.locate path = some t) (hd : t.first.default? = some d)

include hlocate hd

/-- **A default that is put in** finds no more than one that is given. -/
theorem within_walk_default :
    Within Eq (c.walk (budget + 1) path .absent) (c.walk (budget + 1) path (t.seed d)) := by
  rcases visit_default hlocate hd with hvisit | ⟨⟨violation, habsent, hgiven⟩, -⟩
  · rw [walk, walk, hvisit]
    exact within_refl _
  · obtain ⟨hwalk, hwalk'⟩ := walk_default_of_rejected hcollect habsent hgiven
    rw [hwalk, hwalk']
    exact within_noted violation (appends_pure _)
      ((appends_walkMembers (c.appends_walk budget) path _).map some) (yields_pure.mpr rfl)

/-- **A default that is given** finds no more than one that is put in, if its length is admitted. -/
theorem walk_default_within (hlength : t.AdmitsDefaultLength) :
    Within Eq (c.walk (budget + 1) path (t.seed d)) (c.walk (budget + 1) path .absent) := by
  rcases visit_default hlocate hd with hvisit | ⟨⟨violation, habsent, hgiven⟩, hleaf⟩
  · rw [walk, walk, hvisit]
    exact within_refl _
  · obtain ⟨hwalk, hwalk'⟩ := walk_default_of_rejected hcollect habsent hgiven
    have hmembers : (walkMembers (c.walk budget) path (t.seed d)).Yields d := by
      -- what is rejected is no container, and has no members
      rw [t.seed_of_leaf (hleaf hlength), walkMembers_of_leaf (hleaf hlength)]
      exact yields_pure.mpr rfl
    rw [hwalk, hwalk']
    exact within_noted violation ((appends_walkMembers (c.appends_walk budget) path _).map some)
      (appends_pure _) (yields_map.mpr ⟨d, hmembers, rfl⟩)

end Walks

end Course

/-! ## Data with defaults -/

/-- **Defaults of fields that a map has not**, each under the name of its field. -/
structure Fields.Injects (fs : Fields) (es added : List (Value × Value)) : Prop where
  distinct : (Value.textKeys (es ++ added)).Nodup
  default : ∀ e ∈ added, ∃ name t, (name, t) ∈ fs ∧ e.1 = .text name ∧
    t.first.default? = some e.2

section Injection

variable {fs : Fields} {es added : List (Value × Value)}

namespace Fields

/-- The mark of a field. -/
def markOf (name : String) : Value × Value := (.text name, .absent)

theorem Injects.typeAt? (h : fs.Injects es added) (hnames : (fs.map Prod.fst).Nodup)
    {e : Value × Value} (he : e ∈ added) :
    ∃ t, fs.typeAt? e.1 = some t ∧ t.first.default? = some e.2 := by
  obtain ⟨name, t, ht, hkey, hd⟩ := h.default e he
  exact ⟨t, hkey ▸ typeAt?_of_mem hnames ht, hd⟩

/-- The map does not have the fields whose defaults are added. -/
theorem Injects.hasKey_eq_false (h : fs.Injects es added) {e : Value × Value} (he : e ∈ added)
    {name : String} (hkey : e.1 = .text name) : Value.hasKey es name = false := by
  have hdistinct := h.distinct
  rw [Value.textKeys_append, List.nodup_append] at hdistinct
  have hmem : name ∈ Value.textKeys added :=
    List.mem_filterMap.mpr ⟨e, he, by rw [hkey]; rfl⟩
  rw [Bool.eq_false_iff, Ne, Value.hasKey_iff]
  exact fun hes => hdistinct.2.2 name hes name hmem rfl

/-- The added names are those of the fields that the map lacks and the added defaults have. -/
theorem Injects.perm_textKeys (h : fs.Injects es added) (hnames : (fs.map Prod.fst).Nodup) :
    (((fs.filter (fun f => !Value.hasKey es f.1)).filter (fun f => Value.hasKey added f.1)).map
      Prod.fst).Perm (Value.textKeys added) := by
  have hadded := (List.nodup_append.mp (Value.textKeys_append es added ▸ h.distinct)).2.1
  refine (List.perm_ext_iff_of_nodup ?_ hadded).mpr (fun name => ?_)
  · exact hnames.sublist ((List.filter_sublist.trans List.filter_sublist).map Prod.fst)
  simp only [List.mem_map, List.mem_filter, Value.hasKey_iff]
  constructor
  · rintro ⟨f, ⟨-, hf⟩, rfl⟩
    exact hf
  · intro hname
    obtain ⟨e, he, hkey⟩ := List.mem_filterMap.mp hname
    obtain ⟨name', t, ht, hkey', -⟩ := h.default e he
    rw [hkey'] at hkey
    obtain rfl : name' = name := Option.some.inj hkey
    exact ⟨(name', t), ⟨⟨ht, by rw [h.hasKey_eq_false he hkey']; rfl⟩, hname⟩, rfl⟩

/-- The added defaults have the marks of their names. -/
theorem Injects.map_markOf (h : fs.Injects es added) :
    added.map (fun e => (e.1, .absent)) = (Value.textKeys added).map markOf := by
  have hkeys : ∀ e ∈ added, ∃ name, e.1 = .text name := by
    intro e he
    obtain ⟨name, _, _, hkey, _⟩ := h.default e he
    exact ⟨name, hkey⟩
  clear h
  induction added with
  | nil => rfl
  | cons e added ih =>
    rw [List.forall_mem_cons] at hkeys
    obtain ⟨⟨name, hkey⟩, hrest⟩ := hkeys
    rw [Value.textKeys, List.filterMap_cons, hkey, List.map_cons, ih hrest, hkey]
    rfl

/-- **The marks of a map** are those of the added defaults and those that are left. -/
theorem Injects.perm_marks (h : fs.Injects es added) (hnames : (fs.map Prod.fst).Nodup) :
    (fs.marks es).Perm
      (added.map (fun e => (e.1, .absent)) ++ fs.marks (es ++ added)) := by
  have hleft : fs.marks (es ++ added) =
      ((fs.filter (fun f => !Value.hasKey es f.1)).filter (fun f => !Value.hasKey added f.1)).map
        (fun f => (.text f.1, .absent)) := by
    rw [marks, List.filter_filter]
    refine congrArg _ (List.filter_congr (fun f _ => ?_))
    rw [Value.hasKey, List.any_append, Bool.not_or, Bool.and_comm]
    rfl
  have hadded := (h.perm_textKeys hnames).map markOf
  rw [List.map_map, ← h.map_markOf] at hadded
  rw [hleft]
  refine ((List.filter_append_perm (fun f => Value.hasKey added f.1) _).symm.map _).trans ?_
  rw [List.map_append]
  exact hadded.append_right _

/-- With the defaults, the data are still a working copy. -/
theorem Injects.isCopied (h : fs.Injects es added)
    (hdefaults : Fields.everyType (TypeSpec.defaultsPass Value.isCopied) fs = true)
    (hes : (Value.map es).everywhere Value.isCopied = true) :
    (Value.map (es ++ added)).everywhere Value.isCopied = true := by
  refine Value.isCopied_map_iff.mpr ⟨h.distinct, fun e he => ?_⟩
  rcases List.mem_append.mp he with he | he
  · exact (Value.isCopied_map_iff.mp hes).2 e he
  · obtain ⟨name, t, ht, -, hd⟩ := h.default e he
    exact TypeSpec.everywhere_of_default (everyType_of_mem hdefaults ht) hd

end Fields

/-- Marked data with the marks of the added defaults set apart, and with the defaults in the places
of these marks. -/
theorem Fields.Injects.seed_eq (h : fs.Injects es added) (hnames : (fs.map Prod.fst).Nodup) :
    (Fields.seed fs es).Perm (es.map (fun e => (e.1, fs.seedAt e.1 e.2)) ++
      (added.map (fun e => (e.1, .absent)) ++ fs.marks (es ++ added))) ∧
    Fields.seed fs (es ++ added) = es.map (fun e => (e.1, fs.seedAt e.1 e.2)) ++
      (added.map (fun e => (e.1, fs.seedAt e.1 e.2)) ++ fs.marks (es ++ added)) := by
  have hkeys := (List.nodup_append.mp (Value.textKeys_append es added ▸ h.distinct)).1
  constructor
  · rw [Fields.seed_eq hnames hkeys]
    exact (h.perm_marks hnames).append_left _
  · rw [Fields.seed_eq hnames h.distinct, List.map_append, List.append_assoc]

/-- What holds of every entry and itself, and of the mark and the default of every added entry,
holds of the two marked maps entry by entry. -/
theorem Fields.forall₂_injected {R : Value × Value → Value × Value → Prop} (hself : ∀ e, R e e)
    (hadded : ∀ e ∈ added, R (e.1, .absent) (e.1, fs.seedAt e.1 e.2))
    (own left : List (Value × Value)) :
    List.Forall₂ R (own ++ (added.map (fun e => (e.1, .absent)) ++ left))
      (own ++ (added.map (fun e => (e.1, fs.seedAt e.1 e.2)) ++ left)) := by
  refine List.rel_append (List.forall₂_same.mpr (fun e _ => hself e))
    (List.rel_append ?_ (List.forall₂_same.mpr (fun e _ => hself e)))
  rw [List.forall₂_map_left_iff, List.forall₂_map_right_iff, List.forall₂_same]
  exact hadded

namespace Course

open Walk

variable {o : Options}

/-- The type of a field governs the value under its name, and the budget reaches it. -/
theorem exists_budget {key : Value} {t : TypeSpec} (ht : fs.typeAt? key = some t) :
    (Schema.mapping fs).locate [key] = some t ∧ ∃ budget, Fields.depth fs = budget + 1 := by
  constructor
  · rw [Schema.locate_key, ht]
  · obtain ⟨name, hmem, -⟩ := Fields.exists_of_typeAt? ht
    exact Nat.exists_eq_succ_of_ne_zero (Nat.ne_zero_of_lt (Fields.depth_lt_of_mem hmem))

/-- **Where defaults are put in**, no more is found than where they are given. -/
theorem within_walkRoot_injected (hcollect : o.abortEarly = false)
    (hnames : (fs.map Prod.fst).Nodup) (h : fs.Injects es added) :
    Within Value.Reordered ((⟨.mapping fs, o⟩ : Course).walkRoot (Fields.seed fs es))
      ((⟨.mapping fs, o⟩ : Course).walkRoot (Fields.seed fs (es ++ added))) := by
  let c : Course := ⟨.mapping fs, o⟩
  have happends := c.appends_walk (Fields.depth fs)
  obtain ⟨hperm, hseed⟩ := h.seed_eq hnames
  have hentries : Within Eq
      (walkEntries (c.walk (Fields.depth fs)) [] (es.map (fun e => (e.1, fs.seedAt e.1 e.2)) ++
        (added.map (fun e => (e.1, .absent)) ++ fs.marks (es ++ added))))
      (walkEntries (c.walk (Fields.depth fs)) [] (Fields.seed fs (es ++ added))) := by
    rw [hseed]
    refine within_walkEntries happends (Fields.forall₂_injected (fun e => ⟨rfl, within_refl _⟩)
      (fun e he => ⟨rfl, ?_⟩) _ _)
    obtain ⟨t, ht, hd⟩ := h.typeAt? hnames he
    obtain ⟨hlocate, budget, hbudget⟩ := exists_budget ht
    rw [Fields.seedAt, ht, hbudget]
    exact within_walk_default (c := c) hcollect hlocate hd
  have hmarked : Within List.Perm (walkEntries (c.walk (Fields.depth fs)) [] (Fields.seed fs es))
      _ := (related_walkEntries_perm happends hperm).within
  refine (hmarked.trans hentries).map (fun a b hab => ?_)
  obtain ⟨_, hperm, rfl⟩ := hab
  exact .map (List.forall₂_same.mpr (fun e _ => .value e.1 (.refl e.2))) hperm

/-- **Where defaults of admitted lengths are given**, no more is found than where they are put
in. -/
theorem walkRoot_injected_within (hcollect : o.abortEarly = false)
    (hnames : (fs.map Prod.fst).Nodup) (h : fs.Injects es added)
    (hlength : ∀ e ∈ added, ∀ t, fs.typeAt? e.1 = some t → t.AdmitsDefaultLength) :
    Within (fun _ _ => True) ((⟨.mapping fs, o⟩ : Course).walkRoot (Fields.seed fs (es ++ added)))
      ((⟨.mapping fs, o⟩ : Course).walkRoot (Fields.seed fs es)) := by
  let c : Course := ⟨.mapping fs, o⟩
  have happends := c.appends_walk (Fields.depth fs)
  obtain ⟨hperm, hseed⟩ := h.seed_eq hnames
  have hentries : Within Eq
      (walkEntries (c.walk (Fields.depth fs)) [] (Fields.seed fs (es ++ added)))
      (walkEntries (c.walk (Fields.depth fs)) [] (es.map (fun e => (e.1, fs.seedAt e.1 e.2)) ++
        (added.map (fun e => (e.1, .absent)) ++ fs.marks (es ++ added)))) := by
    rw [hseed]
    refine within_walkEntries happends (Fields.forall₂_injected (fun e => ⟨rfl, within_refl _⟩)
      (fun e he => ⟨rfl, ?_⟩) _ _).flip
    obtain ⟨t, ht, hd⟩ := h.typeAt? hnames he
    obtain ⟨hlocate, budget, hbudget⟩ := exists_budget ht
    rw [Fields.seedAt, ht, hbudget]
    exact walk_default_within (c := c) hcollect hlocate hd (hlength e he t ht)
  have hmarked : Within List.Perm _
      (walkEntries (c.walk (Fields.depth fs)) [] (Fields.seed fs es)) :=
    (related_walkEntries_perm happends hperm.symm).within
  exact (hentries.trans hmarked).map (fun _ _ _ => trivial)

/-- What is returned without the defaults admits their lengths. -/
theorem admitsDefaultLength_of_walkRoot (hnames : (fs.map Prod.fst).Nodup)
    (h : fs.Injects es added) {v : Value}
    (hv : ((⟨.mapping fs, o⟩ : Course).walkRoot (Fields.seed fs es)).Yields v) :
    ∀ e ∈ added, ∀ t, fs.typeAt? e.1 = some t → t.AdmitsDefaultLength := by
  intro e he t ht
  obtain ⟨rs, hrs, -⟩ := yields_map.mp hv
  have hmark : (e.1, Value.absent) ∈ Fields.seed fs es :=
    (h.seed_eq hnames).1.mem_iff.mpr (List.mem_append_right _
      (List.mem_append_left _ (List.mem_map.mpr ⟨e, he, rfl⟩)))
  obtain ⟨child, hchild, -⟩ := yields_of_mem_walkEntries (appends_walk _ _) hrs hmark
  obtain ⟨hlocate, budget, hbudget⟩ := exists_budget ht
  have hvisit : ∃ child, ((⟨.mapping fs, o⟩ : Course).visit [e.1] .absent).Yields child := by
    rw [show (Schema.mapping fs).depth = budget + 1 from hbudget] at hchild
    rcases walk_succ_yields.mp hchild with ⟨-, hnone⟩ | ⟨w, -, hw, -⟩
    · exact ⟨none, hnone⟩
    · exact ⟨some w, hw⟩
  obtain ⟨child, hchild⟩ := hvisit
  exact TypeSpec.admitsDefaultLength_of_takes ((visit_yields_of_declared hlocate).mp hchild)

end Course

/-- **The outcomes of a walk that yields nothing and of one that it is within**: both fail, or the
first is rejected, and the second is rejected for no less or fails. -/
theorem Options.conclude_of_within (o : Options) {m m' : Walk Value} {R : Value → Value → Prop}
    (h : Walk.Within R m m') (hnone : ∀ v, ¬ m.Yields v)
    (hends : ∀ v, m.run [] ≠ .error (.violation v))
    (hends' : ∀ v, m'.run [] ≠ .error (.violation v)) :
    Validated.Reordered o (o.conclude (m.run [])) (o.conclude (m'.run [])) ∨
      ∃ z f, o.conclude (m.run []) = .error (.rejected z) ∧
        o.conclude (m'.run []) = .error f ∧
        ∀ z', f = .rejected z' → z.violations.Subperm z'.violations := by
  cases hm' : m'.run [] with
  | error e' =>
    obtain ⟨x', hx'⟩ := o.conclude_eq_failed (e := e') (fun v hv => hends' v (hv ▸ hm'))
    rw [hx']
    cases hm : m.run [] with
    | error e =>
      obtain ⟨x, hx⟩ := o.conclude_eq_failed (e := e) (fun v hv => hends v (hv ▸ hm))
      rw [hx]
      exact .inl (.failed x x')
    | ok out =>
      obtain ⟨a, notes⟩ := out
      cases notes with
      | nil => exact absurd hm (hnone a)
      | cons n notes => exact .inr ⟨_, _, rfl, rfl, nofun⟩
  | ok out' =>
    obtain ⟨b, notes'⟩ := out'
    obtain ⟨a, notes, hm, hsub, -⟩ := h b notes' hm'
    rw [hm]
    cases notes with
    | nil => exact absurd hm (hnone a)
    | cons n notes =>
      cases notes' with
      | nil => exact absurd hsub.length_le (by simp)
      | cons n' notes' =>
        refine .inr ⟨_, _, rfl, rfl, fun z' hz' => ?_⟩
        cases hz'
        exact hsub

/-- What is returned for a working copy is one. -/
theorem Fields.isCopied_of_walkRoot (hnamed : (Schema.mapping fs).wellNamed = true)
    (hdefaults : Fields.everyType (TypeSpec.defaultsPass Value.isCopied) fs = true)
    (hes : (Value.map es).everywhere Value.isCopied = true) {o : Options} {v : Value}
    (hv : ((⟨.mapping fs, o⟩ : Course).walkRoot (Fields.seed fs es)).Yields v) :
    v.everywhere Value.isCopied = true :=
  Value.testsKeys_isCopied.walkRoot (c := ⟨.mapping fs, o⟩) (Bool.and_eq_true_iff.mp hnamed).2
    hdefaults (Value.testsKeys_isCopied.mark (Fields.wellNamed_asType_of_wellNamed hnamed) hes) hv

/-- **Defaults that are put in are treated like defaults that are given**, for a mapping that has
been read and violations that are collected. If every default that is a list has a length that its
node admits, the validation of a map and the validation of the map with the defaults of some missing
fields return results that differ only in the order of keys, or report the same violations in some
order, or both fail. If not, they do so as well, or the first reports a part of what the second
reports, unless the second fails. The data and the defaults are working copies, and the defaults
share no containers. -/
theorem Fields.validateShared_with_defaults {d : RawDocument}
    (hread : Schema.read d = .ok (.mapping fs))
    (hshare : Fields.everyType TypeSpec.sharesNothing fs = true)
    (hdefaults : Fields.everyType (TypeSpec.defaultsPass Value.isCopied) fs = true) (o : Options)
    (hcollect : o.abortEarly = false) (hes : (Value.map es).everywhere Value.isCopied = true)
    (h : fs.Injects es added) :
    ((∀ e ∈ added, ∀ t, fs.typeAt? e.1 = some t → t.AdmitsDefaultLength) →
      Validated.Reordered o (fs.validateShared o (.map es))
        (fs.validateShared o (.map (es ++ added)))) ∧
    (Validated.Reordered o (fs.validateShared o (.map es))
        (fs.validateShared o (.map (es ++ added))) ∨
      ∃ z f, fs.validateShared o (.map es) = .error (.rejected z) ∧
        fs.validateShared o (.map (es ++ added)) = .error f ∧
        ∀ z', f = .rejected z' → z.violations.Subperm z'.violations) := by
  have hnamed := Schema.wellNamed_of_read d _ hread
  obtain ⟨hnames, -⟩ := Schema.names_of_wellNamed hnamed
  have hwithin := Course.within_walkRoot_injected hcollect hnames h
  have hwalk : ∀ es, (⟨.mapping fs, o⟩ : Course).walkShared es =
      (⟨.mapping fs, o⟩ : Course).walkRoot es := Course.walkShared_eq_walkRoot hshare
  have hends : ∀ v, ((⟨.mapping fs, o⟩ : Course).walkRoot (Fields.seed fs es)).run [] ≠
      .error (.violation v) := hwalk _ ▸ Course.walkShared_ne_violation hcollect es
  have hends' : ∀ v, ((⟨.mapping fs, o⟩ : Course).walkRoot (Fields.seed fs (es ++ added))).run [] ≠
      .error (.violation v) := hwalk _ ▸ Course.walkShared_ne_violation hcollect (es ++ added)
  simp only [Fields.validateShared_eq_validate hshare]
  unfold Fields.validate
  rw [Value.plain_eq_self hes, Value.plain_eq_self (h.isCopied hdefaults hes)]
  by_cases hlength : ∀ e ∈ added, ∀ t, fs.typeAt? e.1 = some t → t.AdmitsDefaultLength
  · have hagree := o.reordered_conclude
      (hwithin.related (Course.walkRoot_injected_within hcollect hnames h hlength))
      (fun v w hv hw => ⟨hwithin.of_yields hv hw, Value.everywhere_mono
        (fun _ => Value.isKeyed_of_isCopied) (Fields.isCopied_of_walkRoot hnamed hdefaults hes hv)⟩)
      hends hends'
    exact ⟨fun _ => hagree, .inl hagree⟩
  · refine ⟨fun hadmits => absurd hadmits hlength, ?_⟩
    exact o.conclude_of_within hwithin
      (fun v hv => hlength (Course.admitsDefaultLength_of_walkRoot hnames h hv)) hends hends'

end Injection

/-- The document of a list with at most one number, and with a default. -/
def Node.numbersDocument (vs : List Value) : Value :=
  .map [(.text "type", .text "array"), (.text "items", .map [(.text "type", .text "number")]),
    (.text "max", .int 1), (.text "default", .list vs)]

/-- A number in a list or a text, a size with a unit, and a tag, all of them with defaults. -/
def Schema.defaultsDocument : Value :=
  .map [(.text "marks", .list [Node.numbersDocument [.int 7],
      .map [(.text "type", .text "string")]]),
    (.text "size", .map [(.text "type", .text "object"),
      (.text "properties", .map [(.text "unit", .map [(.text "type", .text "string"),
        (.text "default", .text "cm")])]),
      (.text "default", .map [])]),
    (.text "tag", .map [(.text "type", .text "string"), (.text "default", .null)])]

/-- The fields that are read from it. -/
def Fields.withDefaults : Fields :=
  [("marks", .union (.array { default? := some (some [.int 7]) } (.single (.number {} {}))
      { max := some 1 }) (.string {} {}) []),
    ("size", .single (.object { default? := some (some []) }
      (.mapping [("unit", .single (.string { default? := some (some "cm") } {}))]))),
    ("tag", .single (.string { default? := some none } {}))]

/-- The defaults of the marks and of the size, in which the unit is put in either way. -/
theorem Fields.withDefaults_reordered :
    Schema.read Schema.defaultsDocument = .ok (.mapping withDefaults) ∧
      Validated.Reordered ({} : Options).collecting
        (withDefaults.validateShared ({} : Options).collecting (.map []))
        (withDefaults.validateShared ({} : Options).collecting
          (.map [(.text "marks", .list [.int 7]), (.text "size", .map [])])) := by
  have hread : Schema.read Schema.defaultsDocument = .ok (.mapping withDefaults) := rfl
  have hinjects : withDefaults.Injects []
      [(.text "marks", .list [.int 7]), (.text "size", .map [])] := by
    refine ⟨by decide, fun e he => ?_⟩
    rcases List.mem_pair.mp he with rfl | rfl
    · exact ⟨"marks", _, List.mem_cons_self, rfl, rfl⟩
    · exact ⟨"size", _, List.mem_cons_of_mem _ List.mem_cons_self, rfl, rfl⟩
  refine ⟨hread, (Fields.validateShared_with_defaults hread rfl rfl ({} : Options).collecting
    rfl rfl hinjects).1 (fun e he t ht => ?_)⟩
  rcases List.mem_pair.mp he with rfl | rfl
  · cases ht
    rintro _ _ _ _ ⟨⟩ ⟨⟩
    exact ⟨nofun, fun m hm => by cases hm; exact Nat.le_refl 1⟩
  · cases ht
    rintro _ _ _ _ ⟨⟩

/-- **A default that is put in may hide what is wrong with it**: two texts are too many numbers, and
none of them is one, which is reported only if they are given. -/
theorem Fields.longDefault_reports_less :
    ¬ ∀ (d : RawDocument) (fs : Fields) (o : Options) (es added : List (Value × Value)),
      Schema.read d = .ok (.mapping fs) →
      Fields.everyType (TypeSpec.defaultsPass Value.isPlain) fs = true → o.abortEarly = false →
      (Value.map es).everywhere Value.isPlain = true → fs.Injects es added →
      Validated.Reordered o (fs.validateShared o (.map es))
        (fs.validateShared o (.map (es ++ added))) := by
  intro hsame
  have hboth := hsame (Value.map [(.text "f", Node.numbersDocument [.text "x", .text "y"])])
    _ ({} : Options).collecting [] [(.text "f", .list [.text "x", .text "y"])] rfl rfl rfl rfl ?_
  · generalize hless : Fields.validateShared _ _ (.map []) = x at hboth
    generalize hmore : Fields.validateShared _ _ _ = y at hboth
    cases hless
    cases hmore
    cases hboth with
    | rejected hperm => cases hperm.length_eq
  · refine ⟨by decide, fun e he => ?_⟩
    cases List.mem_singleton.mp he
    exact ⟨"f", _, List.mem_cons_self, rfl, rfl⟩

end Conform
