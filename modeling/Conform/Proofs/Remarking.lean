import Conform.Proofs.Copies
import Conform.Proofs.Settled

/-!
# Marking what is settled

A settled value that is marked and walked once more differs from itself in the marks only: visits
leave its own values as they are, and marking is the same visit for a value and for the marked
value. So what the second walk makes of it is decided by its marks. If every mark is dropped the
walk gives the value back (`Course.walkMembers_mark_self`), and if one is not, what fills it stands
where the value has nothing (`Course.filled_or_dropped`, `Marker.not_at_of_mark`).
-/

namespace Conform

/-! ## Marks are new -/

namespace Marker

variable {m : Marker} {v : Value}

theorem mark_alike (m : Marker) (v : Value) : Value.Alike v (m.mark v) := by
  cases v with
  | map es =>
    cases m with
    | none => exact .refl _
    | some t =>
      show Value.Alike _ (t.seed (.map es))
      rw [t.seed_map]
      exact .map _ _
  | list vs =>
    rw [m.mark_list]
    exact .list (List.length_map _).symm
  | _ =>
    rw [m.mark_of_leaf rfl]
    exact .refl _

/-- Marking makes nothing absent that is there. -/
theorem isPresent_mark (m : Marker) (h : v.isPresent = true) : (m.mark v).isPresent = true := by
  have halike := m.mark_alike v
  generalize m.mark v = w at halike
  cases halike with
  | refl => exact h
  | _ => rfl

/-- The mark of a value that is there stands below it. -/
theorem ne_nil_of_mark_at (h : v.isPresent = true) {path : Path}
    (hat : (m.mark v).At path .absent) : path ≠ [] := by
  rintro rfl
  have hthere := m.isPresent_mark h
  rw [Value.at_nil.mp hat] at hthere
  cases hthere

/-- A marker that leads on from a key does so by a name. -/
theorem exists_of_atKey {key : Value} {t : TypeSpec} (h : m.atKey key = some t) :
    ∃ name, key = .text name := by
  obtain ⟨fs, -, ht⟩ := Option.bind_eq_some_iff.mp h
  obtain ⟨name, -, hkey⟩ := Fields.exists_of_typeAt? ht
  exact ⟨name, hkey⟩

end Marker

/-- Among distinct text keys a key has one value. -/
theorem Value.eq_of_mem_of_nodup {es : List (Value × Value)} (hes : (textKeys es).Nodup)
    {name : String} {v w : Value} (hv : (.text name, v) ∈ es) (hw : (.text name, w) ∈ es) : v = w :=
  Option.some.inj ((entry?_of_mem hes hv).symm.trans (entry?_of_mem hes hw))

/-- **A mark stands where nothing was.** -/
theorem Marker.not_at_of_mark {m : Marker} (hm : m.All TypeSpec.wellNamed) {v : Value}
    (hcopied : v.everywhere Value.isCopied = true) (hpresent : v.everywhere Value.isPresent = true)
    {path : Path} (hmark : (m.mark v).At path .absent) (u : Value) : ¬ v.At path u := by
  induction path generalizing m v with
  | nil => exact absurd rfl (ne_nil_of_mark_at (Value.self_of_everywhere hpresent) hmark)
  | cons key path ih =>
    intro hat
    cases hat with
    | @entry es _ w _ _ hmem hat =>
      obtain ⟨hkeys, hes⟩ := Value.isCopied_map_iff.mp hcopied
      have hthere := (Value.everywhere_map.mp hpresent).2
      rw [m.mark_map hm hkeys, Value.map_at_cons] at hmark
      obtain ⟨x, hx, hmark⟩ := hmark
      rcases List.mem_append.mp hx with hx | hx
      · obtain ⟨⟨k, v⟩, hv, he⟩ := List.mem_map.mp hx
        obtain ⟨rfl, rfl⟩ := Prod.mk.inj he
        cases htype : m.atKey k with
        | none =>
          -- what is not marked has no marks
          rw [htype] at hmark
          have habsent := Value.everywhere_iff.mp (hthere _ hv) _ _ hmark
          cases habsent
        | some t =>
          obtain ⟨name, rfl⟩ := exists_of_atKey htype
          cases Value.eq_of_mem_of_nodup hkeys hv hmem
          exact ih (hm.atKey _) (hes _ hv) (hthere _ hv) hmark hat
      · obtain ⟨fs, name, t, -, -, hnew, he⟩ := mem_missing.mp hx
        obtain ⟨rfl, rfl⟩ := Prod.mk.inj he
        have hkey : Value.hasKey es name = true :=
          List.any_eq_true.mpr ⟨_, hmem, keyNames_iff.mpr rfl⟩
        rw [hnew] at hkey
        cases hkey
    | @item vs i w _ _ hget hat =>
      rw [m.mark_list, Value.list_at_cons] at hmark
      obtain ⟨j, x, hij, hx, hmark⟩ := hmark
      obtain rfl : i = j := Int.ofNat.inj (Number.int.inj (Value.number.inj hij))
      rw [List.getElem?_map, hget] at hx
      cases hx
      have hmem := List.mem_of_getElem? hget
      exact ih hm.ofItems (Value.isCopied_list_iff.mp hcopied _ hmem)
        ((Value.everywhere_list.mp hpresent).2 _ hmem) hmark hat

namespace Course

variable {c : Course} {path : Path} {budget : Nat} {m : Marker} {v : Value}

/-! ## Settled values -/

/-- A visit never yields a mark. -/
theorem not_visit_yields_absent : ¬ (c.visit path v).Yields (some .absent) := by
  intro h
  cases ht : c.schema.locate path with
  | none =>
    obtain ⟨rfl, hpresent, -⟩ := unknown_eq_some.mp ((visit_yields_of_undeclared ht).mp h)
    cases hpresent
  | some t => exact ((visit_yields_of_declared ht).mp h).admits.ne_absent rfl

/-- **Nothing is absent in a settled value.** -/
theorem Settled.isPresent (h : c.Settled path v) : v.everywhere Value.isPresent = true := by
  refine Value.everywhere_iff.mpr (fun more u hu => ?_)
  rw [Value.isPresent_iff]
  rintro rfl
  exact not_visit_yields_absent (h more .absent hu)

theorem Settled.sortKeys (h : c.Settled path v) : c.Settled path v.sortKeys := by
  intro more u hu
  obtain ⟨w, hw, rfl⟩ := Value.sortKeys_at.mp hu
  exact visit_self_of_alike (h more w hw) w.sortKeys_alike

/-- A marked value is visited like the value. -/
theorem Settled.visit_mark (h : c.Settled path v) (m : Marker) :
    (c.visit path (m.mark v)).Yields (some (m.mark v)) := by
  have hself := h [] v (.here v)
  rw [List.append_nil] at hself
  exact visit_self_of_alike hself (m.mark_alike v)

/-- **Whether the members of a value are settled**, whatever the value itself is visited to. -/
def SettledBelow (c : Course) (path : Path) (v : Value) : Prop :=
  ∀ key w, v.At [key] w → c.Settled (path ++ [key]) w

theorem Settled.below (h : c.Settled path v) : c.SettledBelow path v := by
  intro key w hw more u hu
  rw [List.append_assoc]
  exact h _ u (hw.append hu)

/-! ## One step of a walk -/

/-- What a mark becomes: it is dropped if nothing is asked for at its path. -/
theorem visit_absent_yields_none : (c.visit path .absent).Yields none ↔
    ∀ t, c.schema.locate path = some t → t.first.default? = none ∧ t.first.required = false := by
  cases ht : c.schema.locate path with
  | none => simp [visit_yields_of_undeclared ht, unknown]
  | some t =>
    rw [visit_yields_of_declared ht]
    constructor
    · rintro h u ⟨⟩
      exact h.eq_absent.2
    · intro h
      exact .omitted (h t rfl).1 (h t rfl).2

/-- Where the budget has run out nothing is declared, and one more key of it would change
nothing. -/
theorem exists_walk_succ (hne : path ≠ []) (hbudget : c.schema.depth < budget + path.length) :
    ∃ b, c.schema.depth < b + 1 + path.length ∧
      ∀ v, c.walk budget path v = c.walk (b + 1) path v := by
  cases budget with
  | succ b => exact ⟨b, hbudget, fun _ => rfl⟩
  | zero =>
    have hnone := Schema.locate_eq_none_of_depth_lt (Nat.zero_add path.length ▸ hbudget)
    refine ⟨0, by omega, fun v => ?_⟩
    rw [walk_of_locate_eq_none hne hnone, walk_of_locate_eq_none hne hnone]

/-- What is dropped is dropped by its visit. -/
theorem walk_yields_none (hne : path ≠ []) (hbudget : c.schema.depth < budget + path.length) :
    (c.walk budget path v).Yields none ↔ (c.visit path v).Yields none := by
  obtain ⟨b, -, hwalk⟩ := exists_walk_succ hne hbudget
  rw [hwalk, walk_succ_yields]
  constructor
  · rintro (⟨-, h⟩ | ⟨_, _, -, -, h⟩)
    · exact h
    · cases h
  · exact fun h => .inl ⟨rfl, h⟩

/-- Where a visit changes nothing, the members are walked. -/
theorem walk_yields_of_visit_self (h : (c.visit path v).Yields (some v)) {child : Option Value} :
    (c.walk (budget + 1) path v).Yields child ↔
      ∃ w, (walkMembers (c.walk budget) path v).Yields w ∧ child = some w := by
  rw [walk_succ_yields]
  constructor
  · rintro (⟨-, hnone⟩ | ⟨x, w, hx, hw, hchild⟩)
    · cases h.eq hnone
    · cases h.eq hx
      exact ⟨w, hw, hchild⟩
  · rintro ⟨w, hw, hchild⟩
    exact .inr ⟨v, w, h, hw, hchild⟩

/-! ## What becomes of the marks -/

/-- **A value that is marked and walked again**: its members are settled, it is a working copy, the
types that mark it name their fields once, and the budget of its members reaches beyond the
schema. -/
structure Repeats (c : Course) (budget : Nat) (path : Path) (m : Marker) (v : Value) : Prop where
  settled : c.SettledBelow path v
  copied : v.everywhere Value.isCopied = true
  named : m.All TypeSpec.wellNamed
  reaches : c.schema.depth < budget + 1 + path.length

/-- **Going down to a member**: it is not dropped, and what it yields is what its members yield. -/
theorem Repeats.member (h : c.Repeats budget path m v) {key u : Value} (hat : v.At [key] u)
    {n : Marker} (hn : n.All TypeSpec.wellNamed) :
    ∃ b, c.Repeats b (path ++ [key]) n u ∧ ∀ child,
      (c.walk budget (path ++ [key]) (n.mark u)).Yields child ↔
        ∃ w, (walkMembers (c.walk b) (path ++ [key]) (n.mark u)).Yields w ∧ child = some w := by
  have hsettled := h.settled key u hat
  obtain ⟨b, hb, hsucc⟩ := exists_walk_succ (by simp) (depth_lt_of_member key h.reaches)
  refine ⟨b, ⟨hsettled.below, Value.everywhere_of_at h.copied hat, hn, hb⟩, fun child => ?_⟩
  rw [hsucc]
  exact walk_yields_of_visit_self (hsettled.visit_mark n)

/-- A mark in a member stands below the member, which is there. -/
theorem Repeats.exists_cons (h : c.Repeats budget path m v) {key u : Value} (hu : v.At [key] u)
    {n : Marker} {more : Path} (hat : (n.mark u).At more .absent) :
    ∃ key more', more = key :: more' :=
  List.exists_cons_of_ne_nil (Marker.ne_nil_of_mark_at
    (Value.self_of_everywhere (h.settled key u hu).isPresent) hat)

/-- **If every mark is dropped**, a marked value is walked back to the value. -/
theorem walkMembers_mark_self (h : c.Repeats budget path m v)
    (hmarks : ∀ key more, (m.mark v).At (key :: more) .absent →
      (c.visit (path ++ key :: more) .absent).Yields none) :
    (walkMembers (c.walk budget) path (m.mark v)).Yields v := by
  induction v using Value.members_induction generalizing path m budget with
  | map es ih =>
    have happends := c.appends_walk budget
    rw [m.mark_map h.named (Value.isCopied_map_iff.mp h.copied).1] at hmarks ⊢
    have hown : (walkEntries (c.walk budget) path
        (es.map (fun e => (e.1, (m.atKey e.1).mark e.2)))).Yields es := by
      refine yields_walkEntries_map (g := fun e => (m.atKey e.1).mark e.2) happends (fun e he => ?_)
      obtain ⟨b, hb, hyields⟩ := h.member (.entry he (.here _)) (h.named.atKey e.1)
      refine (hyields _).mpr ⟨e.2, ih e he hb (fun key more hat => ?_), rfl⟩
      rw [List.append_assoc]
      exact hmarks e.1 (key :: more)
        (.entry (List.mem_append_left _ (List.mem_map.mpr ⟨e, he, rfl⟩)) hat)
    have hmissing : (walkEntries (c.walk budget) path (m.missing es)).Yields [] := by
      refine yields_walkEntries_nil happends (fun e he => ?_)
      have habsent := m.absent_of_mem_missing he
      rw [habsent, walk_yields_none (by simp) (depth_lt_of_member e.1 h.reaches)]
      exact hmarks e.1 [] (.entry (List.mem_append_right _ he) (habsent ▸ .here _))
    have hall := yields_walkEntries_append happends hown hmissing
    rw [List.append_nil] at hall
    exact Walk.yields_map.mpr ⟨es, hall, rfl⟩
  | list vs ih =>
    rw [m.mark_list] at hmarks ⊢
    refine Walk.yields_map.mpr ⟨vs, ?_, rfl⟩
    refine yields_walkItems_map (c.appends_walk budget) (fun i v hget => ?_)
    rw [Nat.zero_add]
    obtain ⟨b, hb, hyields⟩ := h.member (.item hget (.here _)) h.named.ofItems
    refine (hyields _).mpr ⟨v, ih v (List.mem_of_getElem? hget) hb (fun key more hat => ?_), rfl⟩
    rw [List.append_assoc]
    exact hmarks (.int i) (key :: more) (.item (by rw [List.getElem?_map, hget]; rfl) hat)
  | other v hleaf =>
    rw [m.mark_of_leaf hleaf, walkMembers_of_leaf hleaf]
    exact Walk.yields_pure.mpr rfl

/-- **A mark is dropped, or the result has a value in its place.** -/
theorem filled_or_dropped (h : c.Repeats budget path m v) {x : Value}
    (hwalk : (walkMembers (c.walk budget) path (m.mark v)).Yields x) {key : Value} {more : Path}
    (hat : (m.mark v).At (key :: more) .absent) :
    (c.visit (path ++ key :: more) .absent).Yields none ∨ ∃ u, x.At (key :: more) u := by
  induction v using Value.members_induction generalizing path m budget x key more with
  | map es ih =>
    rw [m.mark_map h.named (Value.isCopied_map_iff.mp h.copied).1] at hwalk hat
    obtain ⟨es', hes', rfl⟩ := Walk.yields_map.mp hwalk
    obtain ⟨y, hy, hat⟩ := Value.map_at_cons.mp hat
    obtain ⟨child, hchild, hleft⟩ := yields_of_mem_walkEntries (c.appends_walk budget) hes' hy
    rcases List.mem_append.mp hy with hown | hmissing
    · obtain ⟨e, he, heq⟩ := List.mem_map.mp hown
      obtain ⟨rfl, rfl⟩ := Prod.mk.inj heq
      have hentry : (Value.map es).At [e.1] e.2 := .entry he (.here _)
      obtain ⟨b, hb, hyields⟩ := h.member hentry (h.named.atKey e.1)
      obtain ⟨w, hw, rfl⟩ := (hyields child).mp hchild
      obtain ⟨key, more, rfl⟩ := h.exists_cons hentry hat
      have hmember := ih e he hb hw hat
      rw [List.append_assoc] at hmember
      exact hmember.imp_right (fun ⟨u, hu⟩ => ⟨u, .entry (hleft w rfl) hu⟩)
    · obtain rfl := m.absent_of_mem_missing hmissing
      cases hat with
      | here =>
        cases child with
        | none =>
          exact .inl ((walk_yields_none (by simp) (depth_lt_of_member key h.reaches)).mp hchild)
        | some w => exact .inr ⟨w, .entry (hleft w rfl) (.here w)⟩
  | list vs ih =>
    have hitem : ∀ {i : Nat} {v : Value}, vs[i]? = some v → (Value.list vs).At [.int i] v :=
      fun hget => .item hget (.here _)
    rw [m.mark_list] at hwalk hat
    obtain ⟨vs', rfl, hlen, hpoint⟩ :=
      walkMembers_list_yields (c.appends_walk budget) hwalk (fun i y hy hnone => by
        rw [List.getElem?_map, Option.map_eq_some_iff] at hy
        obtain ⟨v, hget, rfl⟩ := hy
        obtain ⟨b, -, hyields⟩ := h.member (hitem hget) h.named.ofItems
        obtain ⟨w, -, hw⟩ := (hyields none).mp hnone
        cases hw)
    obtain ⟨i, y, rfl, hy, hat⟩ := Value.list_at_cons.mp hat
    obtain ⟨z, hz⟩ := exists_getElem?_of_length_eq hlen hy
    have hchild := hpoint i y z hy hz
    rw [List.getElem?_map, Option.map_eq_some_iff] at hy
    obtain ⟨v, hget, rfl⟩ := hy
    obtain ⟨b, hb, hyields⟩ := h.member (hitem hget) h.named.ofItems
    obtain ⟨w, hw, hzw⟩ := (hyields (some z)).mp hchild
    cases hzw
    obtain ⟨key, more, rfl⟩ := h.exists_cons (hitem hget) hat
    have hmember := ih v (List.mem_of_getElem? hget) hb hw hat
    rw [List.append_assoc] at hmember
    exact hmember.imp_right (fun ⟨u, hu⟩ => ⟨u, .item hz hu⟩)
  | other v hleaf =>
    rw [m.mark_of_leaf hleaf] at hat
    cases hat <;> cases hleaf

end Course

end Conform
