import Conform.Proofs.Routes
import Conform.Schema.Reading

/-!
# Distinct names

The marks of a map, and what a key of it means, depend on the names of a mapping being distinct. No
type says so, but no mapping that is read has a name twice: a repeated name takes the last of its
types (`Reading.ofEntries`). So every mapping of a schema that has been read, at whatever depth, has
distinct names (`Schema.wellNamed_of_read`).

A value says nothing about what is shared in it, so no default of a schema that has been read from a
value shares a container (`Schema.sharesNothing_of_read`). A document may say so.
-/

namespace Conform

/-! ## Mappings with distinct names -/

/-- Whether the names of a mapping are distinct. -/
def Fields.distinct (fs : Fields) : Bool := decide (fs.map Prod.fst).Nodup

theorem Fields.nodup_of_distinct {fs : Fields} (h : fs.distinct = true) :
    (fs.map Prod.fst).Nodup := of_decide_eq_true h

/-- Whether the mappings of a node have distinct names. -/
def Node.wellNamed : Node → Bool
  | .object _ s => s.members.all Fields.distinct
  | _ => true

/-- Whether the mappings of the candidates of a type have distinct names. -/
def TypeSpec.wellNamed (t : TypeSpec) : Bool := t.candidates.all Node.wellNamed

/-- **Whether every mapping of a schema has distinct names**, the mappings at all depths. -/
def Schema.wellNamed (s : Schema) : Bool :=
  s.members.all Fields.distinct && s.everyType TypeSpec.wellNamed

theorem TypeSpec.nodup_of_mem {t : TypeSpec} (h : t.everyType wellNamed = true)
    {p : Presence (List (String × Value))} {fs : Fields}
    (hn : Node.object p (.mapping fs) ∈ t.candidates) : (fs.map Prod.fst).Nodup :=
  Fields.nodup_of_distinct (List.all_eq_true.mp
    (List.all_eq_true.mp (TypeSpec.self_of_everyType h) _ hn) fs List.mem_cons_self)

/-- Whether nothing is shared in the default of a node. -/
def Node.sharesNothing (n : Node) : Bool := n.sharing.isEmpty

/-- **Whether nothing is shared in the defaults of a type.** -/
def TypeSpec.sharesNothing (t : TypeSpec) : Bool := t.candidates.all Node.sharesNothing

theorem TypeSpec.sharing_of_mem {t : TypeSpec} (h : t.sharesNothing = true) {n : Node}
    (hn : n ∈ t.candidates) : n.sharing = [] :=
  List.isEmpty_iff.mp (List.all_eq_true.mp h n hn)

/-! ## What it means to have been read -/

namespace Reading

variable {α β γ : Type}

theorem map_eq_ok {f : α → β} {r : Reading α} {b : β} :
    f <$> r = ok b ↔ ∃ a, r = ok a ∧ f a = b := by
  cases r with
  | ok a =>
    exact ⟨fun h => ⟨a, rfl, Reading.ok.inj h⟩, fun ⟨_, ha, hb⟩ => by cases ha; exact hb ▸ rfl⟩
  | failed e => exact ⟨nofun, nofun⟩

theorem zipWith_eq_ok {f : α → β → γ} {r : Reading α} {s : Reading β} {c : γ} :
    zipWith f r s = ok c ↔ ∃ a b, r = ok a ∧ s = ok b ∧ f a b = c := by
  cases r <;> cases s <;> simp [zipWith]

theorem seq_eq_ok {f : Reading (α → β)} {r : Reading α} {b : β} :
    f <*> r = ok b ↔ ∃ g a, f = ok g ∧ r = ok a ∧ g a = b := zipWith_eq_ok

theorem below_eq_ok {key : String} {r : Reading α} {a : α} : r.below key = ok a ↔ r = ok a := by
  cases r <;> simp [below]

theorem andThen_eq_ok {r : Reading α} {f : α → Reading β} {b : β} :
    r.andThen f = ok b ↔ ∃ a, r = ok a ∧ f a = ok b := by
  cases r <;> simp [andThen]

end Reading

/-! ## Repeated names -/

section Entries

variable {α : Type}

/-- Putting an entry in adds no other and repeats no name. -/
theorem Reading.ofEntries_step {found : List (String × α)} (e : String × α)
    (h : (found.map Prod.fst).Nodup) :
    let next := if found.any (·.1 == e.1) then found.map (fun f => if f.1 == e.1 then e else f)
      else found ++ [e]
    (next.map Prod.fst).Nodup ∧ ∀ f ∈ next, f = e ∨ f ∈ found := by
  intro next
  by_cases hany : found.any (·.1 == e.1) = true
  · have hnext : next = found.map (fun f => if f.1 == e.1 then e else f) := if_pos hany
    have hnames : next.map Prod.fst = found.map Prod.fst := by
      rw [hnext, List.map_map]
      refine List.map_congr_left (fun f _ => ?_)
      show (if f.1 == e.1 then e else f).1 = f.1
      split
      next hf => exact (eq_of_beq hf).symm
      next => rfl
    refine ⟨hnames ▸ h, fun f hf => ?_⟩
    rw [hnext] at hf
    obtain ⟨g, hg, rfl⟩ := List.mem_map.mp hf
    split
    · exact .inl rfl
    · exact .inr hg
  · have hnext : next = found ++ [e] := if_neg hany
    rw [hnext]
    refine ⟨?_, fun f hf => (List.mem_append.mp hf).elim .inr
      (fun hf => .inl (List.mem_singleton.mp hf))⟩
    rw [List.map_append]
    refine List.nodup_append.mpr ⟨h, List.pairwise_singleton _ e.1, fun a ha b hb hab => hany ?_⟩
    obtain ⟨f, hf, rfl⟩ := List.mem_map.mp ha
    rw [List.map_singleton, List.mem_singleton] at hb
    exact List.any_eq_true.mpr ⟨f, hf, beq_iff_eq.mpr (hab.trans hb)⟩

/-- **The entries that a mapping is read from** are put together without repeating a name. -/
theorem Reading.ofEntries_spec (es : List (String × α)) :
    ((Reading.ofEntries es).map Prod.fst).Nodup ∧ ∀ e ∈ Reading.ofEntries es, e ∈ es := by
  have hfold : ∀ (rest found : List (String × α)), (found.map Prod.fst).Nodup →
      ((rest.foldl (fun found e => if found.any (·.1 == e.1) then
          found.map fun f => if f.1 == e.1 then e else f else found ++ [e]) found).map
        Prod.fst).Nodup ∧
      ∀ e ∈ rest.foldl (fun found e => if found.any (·.1 == e.1) then
          found.map fun f => if f.1 == e.1 then e else f else found ++ [e]) found,
        e ∈ rest ∨ e ∈ found := by
    intro rest
    induction rest with
    | nil => exact fun found h => ⟨h, fun e he => .inr he⟩
    | cons e rest ih =>
      intro found h
      obtain ⟨hnext, hmem⟩ := Reading.ofEntries_step e h
      obtain ⟨hnodup, hfrom⟩ := ih _ hnext
      refine ⟨hnodup, fun f hf => ?_⟩
      rcases hfrom f hf with hf | hf
      · exact .inl (List.mem_cons_of_mem _ hf)
      · rcases hmem f hf with rfl | hf
        · exact .inl List.mem_cons_self
        · exact .inr hf
  obtain ⟨hnodup, hmem⟩ := hfold es [] List.nodup_nil
  exact ⟨hnodup, fun e he => (hmem e he).resolve_right List.not_mem_nil⟩

end Entries

/-! ## Schemas that have been read -/

/-- A node is well named with all types below it. -/
def Node.WellNamed (n : Node) : Prop :=
  n.wellNamed = true ∧ n.everyType TypeSpec.wellNamed = true

theorem TypeSpec.everyType_wellNamed {t : TypeSpec} (h : ∀ n ∈ t.candidates, n.WellNamed) :
    t.everyType TypeSpec.wellNamed = true := by
  rw [everyType_eq]
  exact Bool.and_eq_true_iff.mpr ⟨List.all_eq_true.mpr (fun n hn => (h n hn).1),
    List.all_eq_true.mpr (fun n hn => (h n hn).2)⟩

theorem Schema.wellNamed_of_members {s : Schema}
    (h : ∀ fs ∈ s.members, fs.distinct = true ∧ Fields.everyType TypeSpec.wellNamed fs = true) :
    s.wellNamed = true := by
  rw [wellNamed, everyType_eq]
  exact Bool.and_eq_true_iff.mpr ⟨List.all_eq_true.mpr (fun fs hfs => (h fs hfs).1),
    List.all_eq_true.mpr (fun fs hfs => (h fs hfs).2)⟩

/-- Whether a type is such as is read from a value: its mappings have distinct names, and nothing is
shared in its defaults. -/
def TypeSpec.asRead (t : TypeSpec) : Bool := t.wellNamed && t.sharesNothing

/-- Whether every mapping of a schema has distinct names, and nothing is shared in its defaults. -/
def Schema.asRead (s : Schema) : Bool :=
  s.members.all Fields.distinct && s.everyType TypeSpec.asRead

/-- Whether the body of a node is such as is read from a value. -/
def NodeBody.asRead : NodeBody → Bool
  | .plain => true
  | .properties s => s.asRead
  | .items t => t.everyType TypeSpec.asRead

/-- A node is such as is read from a value, with all types below it. -/
structure Node.AsRead (n : Node) : Prop where
  wellNamed : n.wellNamed = true
  sharesNothing : n.sharesNothing = true
  everyType : n.everyType TypeSpec.asRead = true

theorem TypeSpec.everyType_asRead {t : TypeSpec} (h : ∀ n ∈ t.candidates, n.AsRead) :
    t.everyType TypeSpec.asRead = true := by
  rw [everyType_eq]
  exact Bool.and_eq_true_iff.mpr ⟨Bool.and_eq_true_iff.mpr
    ⟨List.all_eq_true.mpr (fun n hn => (h n hn).wellNamed),
      List.all_eq_true.mpr (fun n hn => (h n hn).sharesNothing)⟩,
    List.all_eq_true.mpr (fun n hn => (h n hn).everyType)⟩

theorem Schema.asRead_of_members {s : Schema}
    (h : ∀ fs ∈ s.members, fs.distinct = true ∧ Fields.everyType TypeSpec.asRead fs = true) :
    s.asRead = true := by
  rw [asRead, everyType_eq]
  exact Bool.and_eq_true_iff.mpr ⟨List.all_eq_true.mpr (fun fs hfs => (h fs hfs).1),
    List.all_eq_true.mpr (fun fs hfs => (h fs hfs).2)⟩

/-- A mapping that is put together from types that have been read. -/
theorem Fields.asRead_ofEntries {fs : Fields}
    (h : ∀ f ∈ fs, f.2.everyType TypeSpec.asRead = true) :
    Fields.distinct (Reading.ofEntries fs) = true ∧
      Fields.everyType TypeSpec.asRead (Reading.ofEntries fs) = true := by
  obtain ⟨hnodup, hmem⟩ := Reading.ofEntries_spec fs
  refine ⟨decide_eq_true hnodup, ?_⟩
  rw [everyType_eq]
  exact List.all_eq_true.mpr (fun f hf => h f (hmem f hf))

theorem Schema.asRead_ofMembers {hs : List Fields} {s : Schema}
    (hmembers : ∀ fs ∈ hs, fs.distinct = true ∧ Fields.everyType TypeSpec.asRead fs = true)
    (h : Schema.ofMembers hs = .ok s) : s.asRead = true := by
  rcases hs with _ | ⟨fs, _ | ⟨gs, hs⟩⟩
  · cases h
  · cases h
  · cases h
    exact asRead_of_members hmembers

theorem TypeSpec.asRead_ofCandidates {ns : List Node} {t : TypeSpec}
    (hnodes : ∀ n ∈ ns, n.AsRead) (h : TypeSpec.ofCandidates ns = .ok t) :
    t.everyType TypeSpec.asRead = true := by
  rcases ns with _ | ⟨n, _ | ⟨m, ns⟩⟩
  · cases h
  · cases h
  · cases h
    exact everyType_asRead hnodes

open Reading

/-- A presence that is read says nothing of what is shared. -/
theorem Presence.sharing_of_read {α : Type} {es : Entries} {readValue : Value → Reading α}
    {p : Presence α} (h : Presence.read es readValue = .ok p) : p.sharing = [] := by
  obtain ⟨f, d, hf, -, rfl⟩ := seq_eq_ok.mp h
  obtain ⟨g, nullable, hg, -, rfl⟩ := seq_eq_ok.mp hf
  obtain ⟨required, -, rfl⟩ := map_eq_ok.mp hg
  rfl

/-- **A node that is put together** from a body that has been read. -/
theorem Node.asRead_ofEntries {k : Kind} {es : Entries} {body : Reading NodeBody} {n : Node}
    (hbody : ∀ b, body = .ok b → b.asRead = true)
    (h : Node.ofEntries k es body = .ok n) : n.AsRead := by
  obtain ⟨f, _, hf, -, rfl⟩ := seq_eq_ok.mp h
  obtain ⟨g, _, hg, -, rfl⟩ := seq_eq_ok.mp hf
  obtain ⟨n, hn, rfl⟩ := map_eq_ok.mp hg
  show n.AsRead
  cases k with
  | object =>
    obtain ⟨_, s, hp, hs, rfl⟩ := seq_eq_ok.mp hn
    obtain ⟨p, hread, rfl⟩ := map_eq_ok.mp hp
    obtain ⟨b, hb, hbs⟩ := andThen_eq_ok.mp hs
    cases b with
    | properties =>
      cases hbs
      obtain ⟨hnames, htypes⟩ := Bool.and_eq_true_iff.mp (hbody _ hb)
      exact ⟨hnames, List.isEmpty_iff.mpr (Presence.sharing_of_read hread), htypes⟩
    | _ => cases hbs
  | array =>
    obtain ⟨_, _, hitems, -, rfl⟩ := seq_eq_ok.mp hn
    obtain ⟨_, t, hp, ht, rfl⟩ := seq_eq_ok.mp hitems
    obtain ⟨p, hread, rfl⟩ := map_eq_ok.mp hp
    obtain ⟨b, hb, hbt⟩ := andThen_eq_ok.mp ht
    cases b with
    | items =>
      cases hbt
      exact ⟨rfl, List.isEmpty_iff.mpr (Presence.sharing_of_read hread), hbody _ hb⟩
    | _ => cases hbt
  | boolean =>
    obtain ⟨p, hread, rfl⟩ := map_eq_ok.mp hn
    exact ⟨rfl, List.isEmpty_iff.mpr (Presence.sharing_of_read hread), rfl⟩
  | _ =>
    obtain ⟨_, _, hp, -, rfl⟩ := seq_eq_ok.mp hn
    obtain ⟨p, hread, rfl⟩ := map_eq_ok.mp hp
    exact ⟨rfl, List.isEmpty_iff.mpr (Presence.sharing_of_read hread), rfl⟩

mutual

theorem Schema.asRead_of_ofValue : ∀ (v : Value) (s : Schema), Schema.ofValue v = .ok s →
    s.asRead = true
  | .map es, s, h => by
    obtain ⟨fs, hfs, rfl⟩ := map_eq_ok.mp h
    refine Schema.asRead_of_members (fun gs hgs => ?_)
    rw [List.mem_singleton.mp hgs]
    exact Fields.asRead_ofEntries (Fields.asRead_of_read es fs hfs)
  | .list vs, s, h => by
    obtain ⟨hs, hread, h⟩ := andThen_eq_ok.mp h
    exact Schema.asRead_ofMembers (Schema.asRead_of_readMembers vs hs hread) h
  | .tuple vs, s, h => by
    obtain ⟨hs, hread, h⟩ := andThen_eq_ok.mp h
    exact Schema.asRead_ofMembers (Schema.asRead_of_readMembers vs hs hread) h
  | .null, _, h | .bool _, _, h | .number _, _, h | .text _, _, h | .bytes _, _, h
  | .date _, _, h | .dateTime _, _, h | .absent, _, h | .set _, _, h | .noMoment, _, h
  | .timestamp _, _, h | .scalar .., _, h | .array .., _, h | .series .., _, h | .table _, _, h
  | .foreign _, _, h => nomatch h

theorem Schema.asRead_of_readMembers : ∀ (vs : List Value) (hs : List Fields),
    Schema.readMembers vs = .ok hs →
    ∀ fs ∈ hs, Fields.distinct fs = true ∧ Fields.everyType TypeSpec.asRead fs = true
  | [], hs, h => by
    cases h
    exact nofun
  | .map es :: vs, hs, h => by
    obtain ⟨_, gs, hfirst, hgs, rfl⟩ := zipWith_eq_ok.mp h
    obtain ⟨fs, hfs, rfl⟩ := map_eq_ok.mp hfirst
    exact List.forall_mem_cons.mpr ⟨Fields.asRead_ofEntries (Fields.asRead_of_read es fs hfs),
      Schema.asRead_of_readMembers vs gs hgs⟩
  | .list _ :: _, _, h | .tuple _ :: _, _, h | .null :: _, _, h | .bool _ :: _, _, h
  | .number _ :: _, _, h | .text _ :: _, _, h | .bytes _ :: _, _, h | .date _ :: _, _, h
  | .dateTime _ :: _, _, h | .absent :: _, _, h | .set _ :: _, _, h | .noMoment :: _, _, h
  | .timestamp _ :: _, _, h | .scalar .. :: _, _, h | .array .. :: _, _, h
  | .series .. :: _, _, h | .table _ :: _, _, h | .foreign _ :: _, _, h => by
    obtain ⟨_, _, hfirst, -⟩ := zipWith_eq_ok.mp h
    cases hfirst

theorem Fields.asRead_of_read : ∀ (es : List (Value × Value)) (fs : List (String × TypeSpec)),
    Fields.read es = .ok fs → ∀ f ∈ fs, f.2.everyType TypeSpec.asRead = true
  | [], fs, h => by
    cases h
    exact nofun
  | (k, v) :: es, fs, h => by
    obtain ⟨_, gs, hfirst, hgs, rfl⟩ := zipWith_eq_ok.mp h
    obtain ⟨name, t, -, ht, rfl⟩ := zipWith_eq_ok.mp hfirst
    exact List.forall_mem_cons.mpr ⟨TypeSpec.asRead_of_read v t (below_eq_ok.mp ht),
      Fields.asRead_of_read es gs hgs⟩

theorem TypeSpec.asRead_of_read : ∀ (v : Value) (t : TypeSpec), TypeSpec.read v = .ok t →
    t.everyType TypeSpec.asRead = true
  | .map es, t, h => by
    unfold TypeSpec.read at h
    split at h
    next k hk =>
      obtain ⟨n, hn, rfl⟩ := map_eq_ok.mp h
      refine TypeSpec.everyType_asRead (fun m hm => ?_)
      rw [List.mem_singleton.mp hm]
      exact Node.asRead_ofEntries (NodeBody.asRead_of_read k es) hn
    next => cases h
  | .list vs, t, h => by
    obtain ⟨ns, hread, ht⟩ := andThen_eq_ok.mp h
    exact TypeSpec.asRead_ofCandidates (TypeSpec.asRead_of_readCandidates vs ns hread) ht
  | .tuple vs, t, h => by
    obtain ⟨ns, hread, ht⟩ := andThen_eq_ok.mp h
    exact TypeSpec.asRead_ofCandidates (TypeSpec.asRead_of_readCandidates vs ns hread) ht
  | .null, _, h | .bool _, _, h | .number _, _, h | .text _, _, h | .bytes _, _, h
  | .date _, _, h | .dateTime _, _, h | .absent, _, h | .set _, _, h | .noMoment, _, h
  | .timestamp _, _, h | .scalar .., _, h | .array .., _, h | .series .., _, h | .table _, _, h
  | .foreign _, _, h => nomatch h

theorem TypeSpec.asRead_of_readCandidates : ∀ (vs : List Value) (ns : List Node),
    TypeSpec.readCandidates vs = .ok ns → ∀ n ∈ ns, n.AsRead
  | [], ns, h => by
    cases h
    exact nofun
  | .map es :: vs, ns, h => by
    obtain ⟨n, ms, hfirst, hms, rfl⟩ := zipWith_eq_ok.mp h
    refine List.forall_mem_cons.mpr ⟨?_, TypeSpec.asRead_of_readCandidates vs ms hms⟩
    split at hfirst
    next k hk => exact Node.asRead_ofEntries (NodeBody.asRead_of_read k es) hfirst
    next => cases hfirst
  | .list _ :: _, _, h | .tuple _ :: _, _, h | .null :: _, _, h | .bool _ :: _, _, h
  | .number _ :: _, _, h | .text _ :: _, _, h | .bytes _ :: _, _, h | .date _ :: _, _, h
  | .dateTime _ :: _, _, h | .absent :: _, _, h | .set _ :: _, _, h | .noMoment :: _, _, h
  | .timestamp _ :: _, _, h | .scalar .. :: _, _, h | .array .. :: _, _, h
  | .series .. :: _, _, h | .table _ :: _, _, h | .foreign _ :: _, _, h => by
    obtain ⟨_, _, hfirst, -⟩ := zipWith_eq_ok.mp h
    cases hfirst

theorem NodeBody.asRead_of_read (k : Kind) : ∀ (es : List (Value × Value)) (b : NodeBody),
    NodeBody.read k es = .ok b → b.asRead = true
  | [], b, h => by
    cases h
    rfl
  | (name, v) :: es, b, h => by
    unfold NodeBody.read at h
    split at h
    · split at h
      · obtain ⟨s, hs, rfl⟩ := map_eq_ok.mp h
        exact Schema.asRead_of_ofValue v s (below_eq_ok.mp hs)
      · exact NodeBody.asRead_of_read _ es b h
    · split at h
      · obtain ⟨t, ht, rfl⟩ := map_eq_ok.mp h
        exact TypeSpec.asRead_of_read v t (below_eq_ok.mp ht)
      · exact NodeBody.asRead_of_read _ es b h
    · cases h
      rfl

end

/-! ## What is shared has no names -/

section Share

theorem Fields.distinct_share (s : Sharing) (fs : Fields) :
    Fields.distinct (Fields.share s fs) = fs.distinct := by
  have hnames : (Fields.share s fs).map Prod.fst = fs.map Prod.fst := by
    induction fs with
    | nil => rfl
    | cons f fs ih => exact congrArg (f.1 :: ·) ih
  rw [distinct, hnames]
  rfl

theorem Schema.all_distinct_share (s : Sharing) (g : Schema) :
    (g.share s).members.all Fields.distinct = g.members.all Fields.distinct := by
  have hmembers : ∀ (index : Nat) (hs : List Fields),
      (Schema.shareMembers s index hs).all Fields.distinct = hs.all Fields.distinct := by
    intro index hs
    induction hs generalizing index with
    | nil => rfl
    | cons fs hs ih =>
      rw [Schema.shareMembers, List.all_cons, List.all_cons, Fields.distinct_share, ih]
  cases g with
  | mapping fs => simp [share, members, Fields.distinct_share]
  | union fs gs hs => simp [share, members, Fields.distinct_share, hmembers]

theorem Node.wellNamed_share (s : Sharing) (n : Node) : (n.share s).wellNamed = n.wellNamed := by
  cases n with
  | object p g => exact Schema.all_distinct_share _ g
  | _ => rfl

theorem TypeSpec.wellNamed_share (s : Sharing) (t : TypeSpec) :
    (t.share s).wellNamed = t.wellNamed := by
  have hnodes : ∀ (index : Nat) (ns : List Node),
      (TypeSpec.shareAmong s index ns).all Node.wellNamed = ns.all Node.wellNamed := by
    intro index ns
    induction ns generalizing index with
    | nil => rfl
    | cons n ns ih =>
      rw [TypeSpec.shareAmong, List.all_cons, List.all_cons, Node.wellNamed_share, ih]
  cases t with
  | single n => simp [wellNamed, share, candidates, Node.wellNamed_share]
  | union n m ns => simp [wellNamed, share, candidates, Node.wellNamed_share, hnodes]

variable {q : TypeSpec → Bool} (hq : ∀ s (t : TypeSpec), q (t.share s) = q t)

include hq

mutual

/-- **A test that does not ask what is shared** is passed by a schema whatever its defaults
share. -/
theorem Schema.everyType_share : ∀ (s : Sharing) (g : Schema),
    (g.share s).everyType q = g.everyType q
  | s, .mapping fs => Fields.everyType_share s fs
  | s, .union fs gs hs => by
    rw [Schema.share, Schema.everyType, Schema.everyType, Fields.everyType_share _ fs,
      Fields.everyType_share _ gs, Schema.everyTypeOfMembers_share s 2 hs]

theorem Schema.everyTypeOfMembers_share : ∀ (s : Sharing) (index : Nat)
    (hs : List (List (String × TypeSpec))),
    Schema.everyTypeOfMembers q (Schema.shareMembers s index hs) = Schema.everyTypeOfMembers q hs
  | _, _, [] => rfl
  | s, index, fs :: hs => by
    rw [Schema.shareMembers, Schema.everyTypeOfMembers, Schema.everyTypeOfMembers,
      Fields.everyType_share _ fs, Schema.everyTypeOfMembers_share s (index + 1) hs]

theorem Fields.everyType_share : ∀ (s : Sharing) (fs : List (String × TypeSpec)),
    Fields.everyType q (Fields.share s fs) = Fields.everyType q fs
  | _, [] => rfl
  | s, (name, t) :: fs => by
    rw [Fields.share, Fields.everyType, Fields.everyType, TypeSpec.everyType_share _ t,
      Fields.everyType_share s fs]

theorem TypeSpec.everyType_share : ∀ (s : Sharing) (t : TypeSpec),
    (t.share s).everyType q = t.everyType q
  | s, .single n => by
    have hself : q (.single (n.share s)) = q (.single n) := hq s (.single n)
    rw [TypeSpec.share, TypeSpec.everyType, TypeSpec.everyType, hself, Node.everyType_share s n]
  | s, .union n m ns => by
    have hself := hq s (.union n m ns)
    rw [TypeSpec.share] at hself ⊢
    rw [TypeSpec.everyType, TypeSpec.everyType, hself, Node.everyType_share _ n,
      Node.everyType_share _ m, TypeSpec.everyTypeAmong_share s 2 ns]

theorem TypeSpec.everyTypeAmong_share : ∀ (s : Sharing) (index : Nat) (ns : List Node),
    TypeSpec.everyTypeAmong q (TypeSpec.shareAmong s index ns) = TypeSpec.everyTypeAmong q ns
  | _, _, [] => rfl
  | s, index, n :: ns => by
    rw [TypeSpec.shareAmong, TypeSpec.everyTypeAmong, TypeSpec.everyTypeAmong,
      Node.everyType_share _ n, TypeSpec.everyTypeAmong_share s (index + 1) ns]

theorem Node.everyType_share : ∀ (s : Sharing) (n : Node), (n.share s).everyType q = n.everyType q
  | s, .object _ g => Schema.everyType_share _ g
  | s, .array _ t _ => TypeSpec.everyType_share _ t
  | _, .string .. | _, .number .. | _, .boolean .. | _, .date .. => rfl

end

omit hq

theorem Schema.wellNamed_share (s : Sharing) (g : Schema) :
    (g.share s).wellNamed = g.wellNamed := by
  rw [wellNamed, wellNamed, Schema.all_distinct_share,
    Schema.everyType_share TypeSpec.wellNamed_share]

end Share

/-! ## Schemas that have been read -/

/-- **A schema that has been read** has distinct names. -/
theorem Schema.wellNamed_of_read (raw : RawDocument) (s : Schema) (h : Schema.read raw = .ok s) :
    s.wellNamed = true := by
  have hvalue : ∀ g, Schema.ofValue raw.value = .ok g → g.wellNamed = true := by
    intro g hg
    obtain ⟨hnames, htypes⟩ := Bool.and_eq_true_iff.mp (Schema.asRead_of_ofValue raw.value g hg)
    exact Bool.and_eq_true_iff.mpr ⟨hnames,
      Schema.everyType_mono (fun _ ht => (Bool.and_eq_true_iff.mp ht).1) htypes⟩
  unfold read at h
  split at h
  next => exact hvalue s h
  next =>
    obtain ⟨g, hg, rfl⟩ := Reading.map_eq_ok.mp h
    rw [Schema.wellNamed_share]
    exact hvalue g hg

/-- **A schema that has been read from a value** shares nothing in its defaults. -/
theorem Schema.sharesNothing_of_read {raw : Value} {s : Schema} (h : Schema.read raw = .ok s) :
    s.everyType TypeSpec.sharesNothing = true :=
  Schema.everyType_mono (fun _ ht => (Bool.and_eq_true_iff.mp ht).2)
    (Bool.and_eq_true_iff.mp (Schema.asRead_of_ofValue raw s h)).2

/-- Each mapping of a schema with distinct names is such a schema. -/
theorem Schema.wellNamed_of_mem {s : Schema} {fs : Fields} (h : s.wellNamed = true)
    (hfs : fs ∈ s.members) : (Schema.mapping fs).wellNamed = true := by
  obtain ⟨hnames, hnamed⟩ := Bool.and_eq_true_iff.mp h
  refine Schema.wellNamed_of_members (fun gs hgs => ?_)
  rw [List.mem_singleton.mp hgs]
  exact ⟨List.all_eq_true.mp hnames fs hfs, Schema.everyType_of_mem hnamed hfs⟩

theorem Schema.names_of_wellNamed {fs : Fields} (h : (Schema.mapping fs).wellNamed = true) :
    (fs.map Prod.fst).Nodup ∧ Fields.everyType TypeSpec.wellNamed fs = true := by
  obtain ⟨hnames, hnamed⟩ := Bool.and_eq_true_iff.mp h
  exact ⟨Fields.nodup_of_distinct (List.all_eq_true.mp hnames fs List.mem_cons_self), hnamed⟩

/-- **A mapping that has been read** has distinct names, and so has every mapping below it. -/
theorem Schema.names_of_read {raw : RawDocument} {fs : Fields}
    (h : Schema.read raw = .ok (.mapping fs)) :
    (fs.map Prod.fst).Nodup ∧ Fields.everyType TypeSpec.wellNamed fs = true :=
  Schema.names_of_wellNamed (Schema.wellNamed_of_read raw _ h)

end Conform
