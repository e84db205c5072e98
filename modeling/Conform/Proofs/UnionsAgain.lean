import Conform.Proofs.Repetition
import Conform.Proofs.Unshared

/-!
# Validating a result of a union again

The members of a union are tried in order, and the first that accepts the data wins. Its result is
new data: texts are in normal form, and defaults have been filled in. So a member in front of the
winner may accept the result though it has rejected the data, and it may fill in defaults of its own
(`Schema.growing_differs_again`). The members behind the winner do not matter, for the winner gives
its own result back (`Fields.Steady.validate_self`).

The result of a union is therefore validated to itself exactly if the first of the members in front
that does not reject it gives it back (`Fields.LetThrough`,
`Schema.validateShared_again_iff_letThrough`). The members share no containers in their defaults: a
container in two places may be changed in either of them.

If it is not, the new result has been accepted further to the front than the old one. This can
happen only as often as there are members in front: validation over and over again comes to rest
(`Schema.settles_of_rounds`).
-/

namespace Conform

/-! ## The winner gives its result back -/

theorem Value.itemsPresent_of_isPresent {v : Value} (h : v.everywhere isPresent = true) :
    v.everywhere itemsPresent = true := by
  induction v using members_induction with
  | map es ih =>
    exact everywhere_map.mpr ⟨rfl, fun e he => ih e he ((everywhere_map.mp h).2 e he)⟩
  | list vs ih =>
    have hvs := (everywhere_list.mp h).2
    exact everywhere_list.mpr ⟨List.all_eq_true.mpr (fun v hv => self_of_everywhere (hvs v hv)),
      fun v hv => ih v hv (hvs v hv)⟩
  | other v hleaf =>
    cases v with
    | map es => cases hleaf
    | list vs => cases hleaf
    | _ => rfl

/-- What a walk ends with, another may start from. -/
theorem Value.Outcome.source {w : Value} (h : w.Outcome) : w.Source :=
  ⟨h.copied, Value.itemsPresent_of_isPresent h.present⟩

/-- **A mapping whose results are stable**: names are distinct, no array stands in front of an
object that declares an index, and the defaults are what a walk may start from, none of them with a
container in two places. -/
structure Fields.Steady (fs : Fields) : Prop where
  names : (fs.map Prod.fst).Nodup
  wellNamed : Fields.everyType TypeSpec.wellNamed fs = true
  orderly : Fields.everyType TypeSpec.isOrderly fs = true
  copied : Fields.everyType (TypeSpec.defaultsPass Value.isCopied) fs = true
  itemsPresent : Fields.everyType (TypeSpec.defaultsPass Value.itemsPresent) fs = true
  unshared : Fields.everyType TypeSpec.sharesNothing fs = true

namespace Fields.Steady

variable {fs : Fields} {o : Options} {data r : Value} (hfs : fs.Steady)
  (hsource : ∀ w, data.plain = .ok w → w.Source) (h : fs.validateShared o data = .ok r)

include hfs hsource h

/-- The walk gives a map whose members are settled. -/
theorem exists_walked : ∃ es v, data.plain = .ok (.map es) ∧
    ((⟨.mapping fs, o⟩ : Course).walkRoot (Fields.seed fs es)).Yields v ∧ o.Normal fs v ∧
    r = if o.sortKeys then v.sortKeys else v := by
  rw [Fields.validateShared_eq_validate hfs.unshared] at h
  obtain ⟨es, v, hplain, hwalk, hr⟩ := Fields.validate_eq_ok.mp h
  refine ⟨es, v, hplain, hwalk, ?_, hr⟩
  exact Options.normal_of_walkRoot hfs.wellNamed hfs.copied hfs.itemsPresent
    (Marker.isCopied_mark (Fields.wellNamed_asType hfs.names hfs.wellNamed)
      (hsource _ hplain).copied)
    (TypeSpec.itemsPresent_seed _ _ (hsource _ hplain).itemsPresent) hwalk

theorem normal : o.Normal fs r := by
  obtain ⟨es, v, -, -, hv, rfl⟩ := hfs.exists_walked hsource h
  split
  · exact hv.sortKeys
  · exact hv

/-- **A result is validated to itself** by the mapping that has returned it. -/
theorem validate_self : fs.validateShared o r = .ok r := by
  rw [Fields.validateShared_eq_validate hfs.unshared]
  have hm := Fields.wellNamed_asType hfs.names hfs.wellNamed
  have hnormal := hfs.normal hsource h
  obtain ⟨es, v, hplain, hwalk, hv, hr⟩ := hfs.exists_walked hsource h
  have hsorted : o.sortKeys = true → r.sortKeys = r := by
    intro hs
    rw [hr, if_pos hs]
    exact v.sortKeys_idem
  refine (hnormal.validate_self_iff hsorted hm).mpr (fun path hat => ?_)
  -- the walk has dropped every mark that the result gets
  refine Fields.drops_of_walkRoot hfs.names hfs.wellNamed hfs.orderly hfs.copied hfs.itemsPresent
    (hsource _ hplain) hwalk hv ?_
  rw [hr] at hat
  split at hat
  · exact Marker.mark_at_of_sortKeys hm hv.copied hat
  · exact hat

end Fields.Steady

/-! ## The members in front of the winner -/

/-- Whether a mapping rejects a value. -/
def Fields.Rejects (fs : Fields) (o : Options) (v : Value) : Prop :=
  ∃ z, fs.validateShared o v = .error (.rejected z)

/-- **Some members let a value through**: the first that does not reject it, if there is one, gives
it back. -/
inductive Fields.LetThrough (o : Options) (v : Value) : List Fields → Prop
  | nil : Fields.LetThrough o v []
  | back {fs : Fields} {ms : List Fields} (h : fs.validateShared o v = .ok v) :
    Fields.LetThrough o v (fs :: ms)
  | rejects {fs : Fields} {ms : List Fields} (h : fs.Rejects o v) (hms : Fields.LetThrough o v ms) :
    Fields.LetThrough o v (fs :: ms)

section Members

variable {o : Options} {v : Value}

theorem Fields.letThrough_cons_iff {fs : Fields} {ms : List Fields} :
    Fields.LetThrough o v (fs :: ms) ↔
      fs.validateShared o v = .ok v ∨ fs.Rejects o v ∧ Fields.LetThrough o v ms := by
  constructor
  · rintro (_ | hback | ⟨hrejects, hms⟩)
    · exact .inl hback
    · exact .inr ⟨hrejects, hms⟩
  · rintro (hback | ⟨hrejects, hms⟩)
    · exact .back hback
    · exact .rejects hrejects hms

/-- **Among members one of which gives a value back**, the members in front of it decide whether all
of them do. -/
theorem tryMembers_self_iff {before after : List Fields} {fs : Fields}
    (h : fs.validateShared o v = .ok v) :
    tryMembers (fun gs => gs.validateShared o v) (before ++ fs :: after) = .ok (.inl v) ↔
      Fields.LetThrough o v before := by
  induction before with
  | nil => exact ⟨fun _ => .nil, fun _ => tryMembers_cons_eq_inl.mpr (.inl h)⟩
  | cons gs before ih =>
    rw [List.cons_append, tryMembers_cons_eq_inl, Fields.letThrough_cons_iff, ih]
    rfl

end Members

/-! ## Results of unions again -/

section Again

variable {s : Schema} {o : Options} {data r r' : Value}

/-- The members of a schema that has been read are stable where they are orderly. -/
theorem Schema.steady_of_read {d : RawDocument} (hread : Schema.read d = .ok s)
    (hshare : s.everyType TypeSpec.sharesNothing = true)
    (hcopies : s.everyType (TypeSpec.defaultsPass Value.isCopied) = true)
    (hdefaults : s.everyType (TypeSpec.defaultsPass Value.itemsPresent) = true) {fs : Fields}
    (hfs : fs ∈ s.members) (horderly : Fields.everyType TypeSpec.isOrderly fs = true) :
    fs.Steady := by
  have hwellNamed := Schema.wellNamed_of_read d s hread
  obtain ⟨hnames, hnamed⟩ := Schema.names_of_wellNamed (Schema.wellNamed_of_mem hwellNamed hfs)
  exact ⟨hnames, hnamed, horderly, Schema.everyType_of_mem hcopies hfs,
    Schema.everyType_of_mem hdefaults hfs, Schema.everyType_of_mem hshare hfs⟩

/-- A schema answers with its members. -/
theorem Schema.validateShared_eq_ok_iff_members : s.validateShared o data = .ok r ↔
    tryMembers (fun fs => fs.validateShared o data) s.members = .ok (.inl r) :=
  Schema.validateBy_eq_ok.trans tryMembers_eq_inl.symm

/-- **Validating a result of a union again** gives the result back exactly if the members in front
of the winner let it through. The winner itself gives it back, unless it has an array in front of an
object that declares an index. The schema has been read, its defaults share no containers and hold
none but maps and lists, and no mark of absence is among the items of a list in a default or in the
working copy of the data, which has no containers but maps and lists either. -/
theorem Schema.validateShared_again_iff_letThrough {d : RawDocument}
    (hread : Schema.read d = .ok s) (hshare : s.everyType TypeSpec.sharesNothing = true)
    (hcopies : s.everyType (TypeSpec.defaultsPass Value.isCopied) = true)
    (hdefaults : s.everyType (TypeSpec.defaultsPass Value.itemsPresent) = true)
    (hsource : ∀ w, data.plain = .ok w → w.Source)
    (h : s.validateShared o data = .ok r) :
    ∃ before fs after, s.members = before ++ fs :: after ∧
      (∀ gs ∈ before, Fields.Rejects gs o data) ∧ Fields.validateShared fs o data = .ok r ∧
      (Fields.everyType TypeSpec.isOrderly fs = true → Fields.validateShared fs o r = .ok r ∧
        (s.validateShared o r = .ok r ↔ Fields.LetThrough o r before)) := by
  obtain ⟨before, fs, after, hmembers, hbefore, hfs⟩ := Schema.validateBy_eq_ok.mp h
  refine ⟨before, fs, after, hmembers, hbefore, hfs, fun horderly => ?_⟩
  have hsteady : fs.Steady :=
    Schema.steady_of_read hread hshare hcopies hdefaults (by simp [hmembers]) horderly
  have hself : fs.validateShared o r = .ok r := hsteady.validate_self hsource hfs
  refine ⟨hself, ?_⟩
  rw [Schema.validateShared_eq_ok_iff_members, hmembers]
  exact tryMembers_self_iff hself

/-- Something of a size, or else something with a tag. -/
def Schema.sizedOrTagged : Schema :=
  .union [("size", .single (.number {} {}))]
    [("tag", .single (.string { default? := some (some " X ") } { lowercase := true }))] []

/-- The document that this schema is read from. -/
def Schema.sizedOrTaggedDocument : Value :=
  .list [.map [(.text "size", .map [(.text "type", .text "number")])],
    .map [(.text "tag", .map [(.text "type", .text "string"), (.text "default", .text " X "),
      (.text "lowercase", .bool true)])]]

/-- The tag is filled in, and the first member rejects the result as it has rejected the data. -/
theorem Schema.sizedOrTagged_again :
    Schema.sizedOrTagged.validateShared {} (.map []) = .ok (.map [(.text "tag", .text "x")]) ∧
      ∃ before fs after, Schema.sizedOrTagged.members = before ++ fs :: after ∧
        (∀ gs ∈ before, Fields.Rejects gs {} (.map [])) ∧
        Fields.validateShared fs {} (.map []) = .ok (.map [(.text "tag", .text "x")]) ∧
        (Fields.everyType TypeSpec.isOrderly fs = true →
          Fields.validateShared fs {} (.map [(.text "tag", .text "x")]) =
            .ok (.map [(.text "tag", .text "x")]) ∧
          (Schema.sizedOrTagged.validateShared {} (.map [(.text "tag", .text "x")]) =
              .ok (.map [(.text "tag", .text "x")]) ↔
            Fields.LetThrough {} (.map [(.text "tag", .text "x")]) before)) := by
  have hsource : ∀ w, (Value.map []).plain = .ok w → w.Source := by
    rintro w ⟨⟩
    exact ⟨rfl, rfl⟩
  have hvalidate : Schema.sizedOrTagged.validateShared {} (.map []) =
      .ok (.map [(.text "tag", .text "x")]) := rfl
  have hread : Schema.read Schema.sizedOrTaggedDocument = .ok Schema.sizedOrTagged := rfl
  exact ⟨hvalidate,
    Schema.validateShared_again_iff_letThrough hread rfl rfl rfl hsource hvalidate⟩

/-- Two numbers the second of which has a default, or else one number with a default. -/
def Schema.growing : Schema :=
  .union [("a", .single (.number {} {})),
      ("b", .single (.number { default? := some (some (.int 5)) } {}))]
    [("a", .single (.number { default? := some (some (.int 1)) } {}))] []

/-- The document that this schema is read from. -/
def Schema.growingDocument : Value :=
  .list [.map [(.text "a", .map [(.text "type", .text "number")]),
      (.text "b", .map [(.text "type", .text "number"), (.text "default", .int 5)])],
    .map [(.text "a", .map [(.text "type", .text "number"), (.text "default", .int 1)])]]

/-- **The result of a union is not always validated to itself**, not even for plain data and
defaults: the second member fills in the number that the first has missed, and then the first
accepts the result and fills in another. -/
theorem Schema.growing_differs_again :
    ¬ ∀ (d : RawDocument) (data r : Value) (s : Schema) (o : Options), Schema.read d = .ok s →
      s.isUnion = true → s.everyType (TypeSpec.defaultsPass Value.isPlain) = true →
      data.everywhere Value.isPlain = true → s.validateShared o data = .ok r →
      s.validateShared o r = .ok r := by
  intro hagain
  have hsecond := hagain Schema.growingDocument (.map []) (.map [(.text "a", .int 1)])
    Schema.growing {} rfl rfl rfl rfl rfl
  cases hsecond

/-! ## Over and over again -/

/-- **A member accepts a value**: the one with `front` members in front, all of which reject it. -/
def Schema.AcceptsAt (s : Schema) (o : Options) (front : Nat) (v r : Value) : Prop :=
  ∃ before fs after, s.members = before ++ fs :: after ∧ before.length = front ∧
    (∀ gs ∈ before, Fields.Rejects gs o v) ∧ Fields.validateShared fs o v = .ok r

/-- A schema is steady if its members are. -/
def Schema.Steady (s : Schema) : Prop := ∀ fs ∈ s.members, Fields.Steady fs

namespace Schema.Steady

variable (hs : s.Steady)

include hs

/-- **The next round**: the result is given back, or it is accepted further to the front. -/
theorem next {front : Nat} (hsource : ∀ w, data.plain = .ok w → w.Source)
    (h : s.AcceptsAt o front data r) (h' : s.validateShared o r = .ok r') :
    r' = r ∨ ∃ front', front' < front ∧ s.AcceptsAt o front' r r' := by
  obtain ⟨before, fs, after, hmembers, rfl, -, hfs⟩ := h
  obtain ⟨before', fs', after', hmembers', hbefore', hfs'⟩ := Schema.validateBy_eq_ok.mp h'
  have hself : fs.validateShared o r = .ok r :=
    (hs fs (by simp [hmembers])).validate_self hsource hfs
  rcases Nat.lt_trichotomy before'.length before.length with hlt | heq | hgt
  · exact .inr ⟨_, hlt, before', fs', after', hmembers', rfl, hbefore', hfs'⟩
  · obtain ⟨rfl, htail⟩ := List.append_inj (hmembers'.symm.trans hmembers) heq
    obtain ⟨rfl, -⟩ := List.cons.inj htail
    cases hself.symm.trans hfs'
    exact .inl rfl
  · -- the winner would stand in front of the new one, and reject its own result
    have hmem : fs ∈ before' := by
      have hget : s.members[before.length]? = some fs := by simp [hmembers]
      rw [hmembers', List.getElem?_append_left hgt] at hget
      exact List.mem_of_getElem? hget
    obtain ⟨z, hz⟩ := hbefore' fs hmem
    cases hself.symm.trans hz

/-- A result may be validated again. -/
theorem source {front : Nat} (hsource : ∀ w, data.plain = .ok w → w.Source)
    (h : s.AcceptsAt o front data r) : ∀ w, r.plain = .ok w → w.Source := by
  obtain ⟨before, fs, after, hmembers, -, -, hfs⟩ := h
  have hnormal := (hs fs (by simp [hmembers])).normal hsource hfs
  intro w hw
  rw [Value.plain_eq_self hnormal.copied] at hw
  cases hw
  exact hnormal.toOutcome.source

end Schema.Steady

/-- **Validation over and over again comes to rest**: in a union of `n` members, the result of the
`n`-th round is given back by all that follow. -/
theorem Schema.settles_of_rounds (hs : s.Steady) (hsource : ∀ w, data.plain = .ok w → w.Source)
    {x : Nat → Value} (hfirst : s.validateShared o data = .ok (x 0))
    (hnext : ∀ k, s.validateShared o (x k) = .ok (x (k + 1))) {k : Nat}
    (hk : s.members.length ≤ k + 1) : x (k + 1) = x k := by
  have hrest : ∀ k, x (k + 1) = x k → x (k + 2) = x (k + 1) := by
    intro k heq
    have hagain := hnext (k + 1)
    rw [heq, hnext k] at hagain
    exact (Except.ok.inj hagain).symm
  -- until it comes to rest, each round is won further to the front
  have hround : ∀ k, x (k + 1) = x k ∨ ∃ v front, front + k < s.members.length ∧
      (∀ w, v.plain = .ok w → w.Source) ∧ s.AcceptsAt o front v (x k) := by
    intro k
    induction k with
    | zero =>
      obtain ⟨before, fs, after, hmembers, hbefore, hfs⟩ := Schema.validateBy_eq_ok.mp hfirst
      refine .inr ⟨data, before.length, by simp [hmembers], hsource,
        before, fs, after, hmembers, rfl, hbefore, hfs⟩
    | succ k ih =>
      rcases ih with heq | ⟨v, front, hlt, hv, hfront⟩
      · exact .inl (hrest k heq)
      · rcases hs.next hv hfront (hnext k) with heq | ⟨front', hlt', hfront'⟩
        · exact .inl (hrest k heq)
        · exact .inr ⟨x k, front', by omega, hs.source hv hfront, hfront'⟩
  rcases hround k with heq | ⟨v, front, hlt, hv, hfront⟩
  · exact heq
  · rcases hs.next hv hfront (hnext k) with heq | ⟨front', hlt', -⟩
    · exact heq
    · omega

end Again

end Conform
