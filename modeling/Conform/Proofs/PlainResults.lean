import Conform.Proofs.CleanWalks
import Conform.Proofs.Given
import Conform.Proofs.Pruning
import Conform.Proofs.UniqueFit

/-!
# What is not plain in a result

The working copy of data holds no tuples and no columnar data, unless the conversion of an element
has given something of the sort, and a walk makes nothing of it. It does put in defaults, though,
and these are put in as the schema holds them: a default has no working copy made of it. What stands
in a default below the places that a schema declares comes out as it is, and so does a tuple.

There is no other way in. If neither the working copy nor a default holds anything foreign, there is
nothing foreign in a result, whatever the defaults share. Where they share nothing, what is foreign
in a result, a value or a key of a map, is traced back through the walk (`Course.holds_of_walk`),
from the end of a visit to the value that was visited or to a default that was put in for it, and
through the marks, which are put in under text keys (`TypeSpec.holds_of_seed`). So it is held by a
default that is declared on the way to its path, or by the working copy
(`Schema.validateShared_foreign`).
-/

namespace Conform

namespace Value

/-! ## What a value holds -/

/-- **How a value occurs in another**: as a value in it, or as the key of one. -/
inductive Role where
  | value
  | key

/-- Whether a value occurs at the end of a path, or as a key on it. -/
def Occurs (x : Value) : Role → Path → Value → Prop
  | .value, _, u => u = x
  | .key, path, _ => x ∈ path

/-- **What a value holds**: the values that its paths lead to, or the keys on these paths. -/
def Holds (v : Value) (role : Role) (x : Value) : Prop :=
  ∃ path u, v.At path u ∧ x.Occurs role path u

variable {v x u : Value} {role : Role} {path : Path}

theorem occurs_nil : x.Occurs role [] u ↔ role = .value ∧ u = x := by
  cases role <;> simp [Occurs]

theorem occurs_cons {k : Value} :
    x.Occurs role (k :: path) u ↔ (role = .key ∧ k = x) ∨ x.Occurs role path u := by
  cases role <;> simp [Occurs, eq_comm]

/-- What is foreign is held by a map if it is one of its keys or held by one of its values. -/
theorem holds_map_iff (hx : x.isForeign = true) {es : List (Value × Value)} :
    (map es).Holds role x ↔ ∃ e ∈ es, (role = .key ∧ e.1 = x) ∨ e.2.Holds role x := by
  constructor
  · rintro ⟨path, u, hat, hu⟩
    cases path with
    | nil =>
      obtain ⟨-, rfl⟩ := occurs_nil.mp hu
      cases at_nil.mp hat
      cases hx
    | cons k path =>
      obtain ⟨w, hmem, hat⟩ := map_at_cons.mp hat
      exact ⟨_, hmem, (occurs_cons.mp hu).imp_right (fun hu => ⟨path, u, hat, hu⟩)⟩
  · rintro ⟨e, hmem, hkey | ⟨path, u, hat, hu⟩⟩
    · exact ⟨[e.1], e.2, .entry hmem (.here _), occurs_cons.mpr (.inl hkey)⟩
    · exact ⟨e.1 :: path, u, .entry hmem hat, occurs_cons.mpr (.inr hu)⟩

theorem holds_list_iff (hx : x.isForeign = true) {vs : List Value} :
    (list vs).Holds role x ↔ ∃ v ∈ vs, v.Holds role x := by
  constructor
  · rintro ⟨path, u, hat, hu⟩
    cases path with
    | nil =>
      obtain ⟨-, rfl⟩ := occurs_nil.mp hu
      cases at_nil.mp hat
      cases hx
    | cons k path =>
      obtain ⟨i, w, rfl, hget, hat⟩ := list_at_cons.mp hat
      refine ⟨w, List.mem_of_getElem? hget, path, u, hat, (occurs_cons.mp hu).resolve_left ?_⟩
      -- an index is not foreign
      rintro ⟨-, rfl⟩
      cases hx
  · rintro ⟨v, hv, path, u, hat, hu⟩
    obtain ⟨i, hget⟩ := List.mem_iff_getElem?.mp hv
    exact ⟨.int i :: path, u, .item hget hat, occurs_cons.mpr (.inr hu)⟩

theorem holds_leaf_iff (hv : v.isContainer = false) :
    v.Holds role x ↔ role = .value ∧ v = x := by
  constructor
  · rintro ⟨path, u, hat, hu⟩
    cases hat with
    | here => exact occurs_nil.mp hu
    | entry => cases hv
    | item => cases hv
  · rintro h
    exact ⟨[], v, .here v, occurs_nil.mpr h⟩

/-- Sifting out what is absent puts nothing in. -/
theorem holds_of_withoutAbsent (hx : x.isForeign = true) (h : v.withoutAbsent.Holds role x) :
    v.Holds role x := by
  induction v using members_induction with
  | map es ih =>
    obtain ⟨e, he, hex⟩ := (holds_map_iff hx).mp h
    obtain ⟨f, hf, -, rfl⟩ := exists_of_mem_presentEntries he
    exact (holds_map_iff hx).mpr ⟨f, hf, hex.imp_right (ih f hf)⟩
  | list vs ih =>
    obtain ⟨w, hw, hwx⟩ := (holds_list_iff hx).mp h
    obtain ⟨v, hv, -, rfl⟩ := exists_of_mem_presentItems hw
    exact (holds_list_iff hx).mpr ⟨v, hv, ih v hv hwx⟩
  | other v hleaf =>
    cases v with
    | map es => cases hleaf
    | list vs => cases hleaf
    | _ => exact h

end Value

/-! ## Marks -/

section Marks

variable {role : Value.Role} {x : Value}

mutual

/-- Marking a map puts in marks under text keys. -/
theorem Fields.holds_of_seed (hx : x.isForeign = true) :
    ∀ (fs : List (String × TypeSpec)) (es : List (Value × Value)),
    (∃ e ∈ Fields.seed fs es, (role = .key ∧ e.1 = x) ∨ e.2.Holds role x) →
      ∃ e ∈ es, (role = .key ∧ e.1 = x) ∨ e.2.Holds role x
  | [], _, h => h
  | (name, t) :: fs, es, h => by
    obtain ⟨e, he, hex⟩ := Fields.holds_of_seed hx fs _ h
    rcases hex with ⟨hrole, rfl⟩ | hex
    · rcases Value.key_of_mem_setEntry he with ⟨f, hf, hkey⟩ | hkey
      · exact ⟨f, hf, .inl ⟨hrole, hkey⟩⟩
      · rw [hkey] at hx
        cases hx
    · rcases Value.mem_setEntry he with he | he
      · exact ⟨e, he, .inr hex⟩
      · rw [he] at hex
        have hex := TypeSpec.holds_of_seed hx t _ hex
        cases hentry : Value.entry? es (.text name) with
        | none =>
          rw [hentry] at hex
          obtain ⟨-, rfl⟩ := (Value.holds_leaf_iff rfl).mp hex
          cases hx
        | some v =>
          rw [hentry] at hex
          obtain ⟨k, hk⟩ := Value.mem_of_entry? hentry
          exact ⟨_, hk, .inr hex⟩

/-- **Marking puts nothing foreign into a value.** -/
theorem TypeSpec.holds_of_seed (hx : x.isForeign = true) :
    ∀ (t : TypeSpec) (v : Value), (t.seed v).Holds role x → v.Holds role x
  | .single n, v, h => Node.holds_of_seed hx n v h
  | .union n m ns, v, h => by
    rw [TypeSpec.seed] at h
    split at h
    · split at h
      · exact Node.holds_of_seed hx n v h
      · split at h
        · exact Node.holds_of_seed hx m v h
        · exact TypeSpec.holds_of_seedAmong hx ns v h
    · exact h

theorem TypeSpec.holds_of_seedAmong (hx : x.isForeign = true) :
    ∀ (ns : List Node) (v : Value), (TypeSpec.seedAmong ns v).Holds role x → v.Holds role x
  | [], _, h => h
  | n :: ns, v, h => by
    rw [TypeSpec.seedAmong] at h
    split at h
    · exact Node.holds_of_seed hx n v h
    · exact TypeSpec.holds_of_seedAmong hx ns v h

theorem Node.holds_of_seed (hx : x.isForeign = true) :
    ∀ (n : Node) (v : Value), (n.seed v).Holds role x → v.Holds role x
  | .object _ (.mapping fs), v, h => by
    cases v with
    | map es =>
      exact (Value.holds_map_iff hx).mpr
        (Fields.holds_of_seed hx fs es ((Value.holds_map_iff hx).mp h))
    | _ => exact h
  | .array _ t _, v, h => by
    cases v with
    | list vs =>
      obtain ⟨w, hw, hwx⟩ := (Value.holds_list_iff hx).mp h
      obtain ⟨v, hv, rfl⟩ := List.mem_map.mp hw
      exact (Value.holds_list_iff hx).mpr ⟨v, hv, TypeSpec.holds_of_seed hx t v hwx⟩
    | _ => exact h
  | .object _ (.union ..), v, h => h
  | .string .., v, h | .number .., v, h | .boolean .., v, h | .date .., v, h => h

end

end Marks

/-! ## Walks -/

/-- **A default that is declared on the way** from a path further down, and that holds the value or
the key. -/
def Schema.DefaultHolds (s : Schema) (path more : Path) (role : Value.Role) (x : Value) : Prop :=
  ∃ upper lower t d, more = upper ++ lower ∧ s.locate (path ++ upper) = some t ∧
    t.first.default? = some d ∧ d.Holds role x

namespace Schema.DefaultHolds

variable {s : Schema} {path more : Path} {role : Value.Role} {x : Value}

theorem entry {key : Value} (h : s.DefaultHolds (path ++ [key]) more role x) :
    s.DefaultHolds path (key :: more) role x := by
  obtain ⟨upper, lower, t, d, rfl, ht, hd, hdx⟩ := h
  exact ⟨key :: upper, lower, t, d, rfl, by rwa [List.append_cons], hd, hdx⟩

/-- An item that moves ahead stays below the same defaults. -/
theorem item {i : Nat} (h : s.DefaultHolds (path ++ [.int i]) more role x) (j : Nat) :
    s.DefaultHolds path (.int j :: more) role x := by
  obtain ⟨upper, lower, t, d, rfl, ht, hd, hdx⟩ := h
  refine ⟨.int j :: upper, lower, t, d, rfl, ?_, hd, hdx⟩
  rwa [s.locate_index path upper j i, List.append_cons]

end Schema.DefaultHolds

section Foreign

variable {role : Value.Role} {x v w : Value} (hx : x.isForeign = true)

include hx

/-- The normal form of a value holds nothing foreign but what the value holds. -/
theorem Node.Accepts.holds {n : Node} (h : n.Accepts v w) (hw : w.Holds role x) :
    v.Holds role x := by
  have hleaf : w.isContainer = false → w.isForeign = false → v.Holds role x := by
    intro hleaf hplain
    obtain ⟨-, rfl⟩ := (Value.holds_leaf_iff hleaf).mp hw
    cases hplain.symm.trans hx
  cases h with
  | string h => exact hleaf rfl rfl
  | number h => exact hw
  | boolean => exact hw
  | date hi h => exact hleaf rfl rfl
  | object => exact hw
  | array h => exact hw

/-- What is taken holds what the value holds, or the default that is put in for it. -/
theorem TypeSpec.Takes.holds {t : TypeSpec} (h : t.Takes v (some w)) (hw : w.Holds role x) :
    v.Holds role x ∨ ∃ d, t.first.default? = some d ∧ d.Holds role x := by
  cases h with
  | null h => exact .inl hw
  | present h => exact .inl (h.holds hx hw)
  | nullDefault hd => exact .inr ⟨_, hd, hw⟩
  | default hd _ h => exact .inr ⟨_, hd, TypeSpec.holds_of_seed hx t _ (h.holds hx hw)⟩

namespace Course

variable {c : Course} {path : Path} {budget : Nat}

theorem holds_of_visit (h : (c.visit path v).Yields (some w)) (hw : w.Holds role x) (more : Path) :
    v.Holds role x ∨ c.schema.DefaultHolds path more role x := by
  cases ht : c.schema.locate path with
  | none =>
    rw [visit_yields_of_undeclared ht, unknown_eq_some] at h
    exact .inl (h.1 ▸ hw)
  | some t =>
    rw [visit_yields_of_declared ht] at h
    rcases h.holds hx hw with hv | ⟨d, hd, hdx⟩
    · exact .inl hv
    · exact .inr ⟨[], more, t, d, rfl, by rwa [List.append_nil], hd, hdx⟩

/-- **The step**: what the members that are left of a value hold. -/
theorem holds_of_walkMembers {member : Path → Value → Walk (Option Value)}
    (happends : ∀ path v, (member path v).Appends)
    (hmember : ∀ path v w more u, (member path v).Yields (some w) → w.At more u →
      x.Occurs role more u → v.Holds role x ∨ c.schema.DefaultHolds path more role x)
    (h : (walkMembers member path v).Yields w) {more : Path} {u : Value} (hat : w.At more u)
    (hux : x.Occurs role more u) : v.Holds role x ∨ c.schema.DefaultHolds path more role x := by
  -- a map or a list is not foreign, so there is a first key
  have hcons : w.isContainer = true → ∃ key rest, more = key :: rest := by
    intro hw
    cases more with
    | cons key rest => exact ⟨key, rest, rfl⟩
    | nil =>
      obtain rfl := Value.at_nil.mp hat
      obtain ⟨-, rfl⟩ := Value.occurs_nil.mp hux
      rw [Value.isContainer_eq_false_of_isForeign hx] at hw
      cases hw
  cases v with
  | map es =>
    obtain ⟨es', hes', rfl⟩ := Walk.yields_map.mp h
    obtain ⟨key, rest, rfl⟩ := hcons rfl
    obtain ⟨w, hw, hat⟩ := Value.map_at_cons.mp hat
    obtain ⟨v, hv, hyields⟩ := exists_of_mem_walkEntries happends hes' hw
    rw [Value.holds_map_iff hx]
    rcases Value.occurs_cons.mp hux with hkey | hux
    · exact .inl ⟨_, hv, .inl hkey⟩
    · rcases hmember _ _ _ _ _ hyields hat hux with hvx | hdefault
      · exact .inl ⟨_, hv, .inr hvx⟩
      · exact .inr hdefault.entry
  | list vs =>
    obtain ⟨vs', hvs', rfl⟩ := Walk.yields_map.mp h
    obtain ⟨key, rest, rfl⟩ := hcons rfl
    obtain ⟨j, w, rfl, hget, hat⟩ := Value.list_at_cons.mp hat
    obtain ⟨i, v, hv, hyields⟩ :=
      exists_of_mem_walkItems happends hvs' (List.mem_of_getElem? hget)
    rw [Value.holds_list_iff hx]
    rcases Value.occurs_cons.mp hux with ⟨-, rfl⟩ | hux
    · cases hx
    · rcases hmember _ _ _ _ _ hyields hat hux with hvx | hdefault
      · exact .inl ⟨v, hv, hvx⟩
      · exact .inr (hdefault.item j)
  | _ =>
    cases Walk.yields_pure.mp h
    exact .inl ⟨more, u, hat, hux⟩

/-- **The run**: what is left of a value holds nothing foreign but what the value holds, or a
default that is declared on the way. -/
theorem holds_of_walk (h : (c.walk budget path v).Yields (some w)) {more : Path} {u : Value}
    (hat : w.At more u) (hux : x.Occurs role more u) :
    v.Holds role x ∨ c.schema.DefaultHolds path more role x := by
  induction budget generalizing path v w more u with
  | zero =>
    obtain ⟨y, hy, rfl⟩ := Option.map_eq_some_iff.mp (Walk.yields_pure.mp h)
    obtain ⟨rfl, -, -⟩ := unknown_eq_some.mp hy
    exact .inl (Value.holds_of_withoutAbsent hx ⟨more, u, hat, hux⟩)
  | succ budget ih =>
    rcases walk_succ_yields.mp h with ⟨h, -⟩ | ⟨y, y', hvisit, hmembers, hy'⟩
    · cases h
    cases hy'
    rcases holds_of_walkMembers hx (c.appends_walk budget)
      (fun _ _ _ _ _ h hat hux => ih h hat hux) hmembers hat hux with hy | hdefault
    · exact holds_of_visit hx hvisit hy more
    · exact .inr hdefault

end Course

end Foreign

/-! ## Results -/

section Results

variable {o : Options} {data r : Value}

theorem Fields.holds_of_validate {fs : Fields} {role : Value.Role} {x : Value}
    (hx : x.isForeign = true) (h : fs.validate o data = .ok r) {path : Path} {u : Value}
    (hat : r.At path u) (hux : x.Occurs role path u) :
    ∃ es, data.plain = .ok (.map es) ∧
      ((Value.map es).Holds role x ∨ (Schema.mapping fs).DefaultHolds [] path role x) := by
  obtain ⟨es, w, hplain, hwalk, rfl⟩ := Fields.validate_eq_ok.mp h
  -- sorting keeps every path, and what is foreign at its end
  have hsorted : ∃ u', w.At path u' ∧ x.Occurs role path u' := by
    split at hat
    · obtain ⟨u', hu', rfl⟩ := Value.sortKeys_at.mp hat
      refine ⟨u', hu', ?_⟩
      cases role with
      | key => exact hux
      | value =>
        subst hux
        cases u' <;> first | rfl | cases hx
    · exact ⟨u, hat, hux⟩
  obtain ⟨u', hat', hux'⟩ := hsorted
  have hmarked : (Value.map (Fields.seed fs es)).Holds role x ∨
      (Schema.mapping fs).DefaultHolds [] path role x :=
    Course.holds_of_walkMembers hx (c := ⟨.mapping fs, o⟩) (Course.appends_walk _ _)
      (fun _ _ _ _ _ hwalk hat hux => Course.holds_of_walk hx hwalk hat hux) hwalk hat' hux'
  refine ⟨es, hplain, hmarked.imp_left (fun hes => ?_)⟩
  exact (Value.holds_map_iff hx).mpr
    (Fields.holds_of_seed hx fs es ((Value.holds_map_iff hx).mp hes))

/-- **What a validation has at hand** of values that no check has made: the working copy of the
data, and the defaults that are declared. -/
def Fields.Brings (fs : Fields) (w x : Value) : Prop :=
  w.Holds .value x ∨ ∃ path t d, Fields.locate fs path = some t ∧ t.first.default? = some d ∧
    d.Holds .value x

/-- A value that holds nothing foreign has none at any path. -/
theorem Value.everywhere_of_not_holds {v : Value}
    (h : ∀ x : Value, x.isForeign = true → ¬ v.Holds .value x) :
    v.everywhere (fun u => !u.isForeign) = true := by
  refine Value.everywhere_iff.mpr (fun path u hat => ?_)
  cases hu : u.isForeign with
  | false => rfl
  | true => exact absurd ⟨path, u, hat, rfl⟩ (h u hu)

/-- **Nothing foreign comes of nothing foreign**, whatever the defaults share. -/
theorem Fields.isForeign_eq_false_of_validateShared {fs : Fields} {w : Value}
    (hplain : data.plain = .ok w) (hbrings : ∀ x : Value, x.isForeign = true → ¬ fs.Brings w x)
    (h : fs.validateShared o data = .ok r) {path : Path} {u : Value} (hat : r.At path u) :
    u.isForeign = false := by
  have htests : Value.TestsForeign (fun u => !u.isForeign) := by
    intro v hv
    show (!v.isForeign) = true
    rw [hv, Bool.not_false]
  have hresult := (Fields.everywhere_of_validateShared htests
    ⟨rfl, fun _ => rfl, fun _ _ _ => rfl⟩ (fun v => by cases v <;> rfl)
    (fun path t d ht hd => ?_) (fun w' hw' => ?_) h).2
  · exact Bool.not_eq_eq_eq_not.mp (Value.everywhere_iff.mp hresult path u hat)
  · have hleaves := Value.everywhere_of_not_holds
      (fun x hx hdx => hbrings x hx (.inr ⟨path, t, d, ht, hd, hdx⟩))
    refine ⟨.inl (Value.everywhere_mono (fun u hu => ?_) hleaves), hleaves⟩
    cases u <;> first | rfl | cases hu
  · cases hplain.symm.trans hw'
    exact Value.everywhere_of_not_holds (fun x hx hwx => hbrings x hx (.inl hwx))

/-- **What is foreign in a result** has not been made by a check.

If the working copy of the data holds nothing foreign, and no default that is declared does, then
there is nothing foreign in the result, and the working copy holds nothing foreign if the elements
of columnar data are of the types that have a plain conversion.

Where no default shares a container, a value that is no plain one, at whatever depth of the result,
is held as it is by the working copy, or by a default that is declared on the way to its path. So is
a key. Only of points in time this is not said, for a check of dates may have moved them. -/
theorem Schema.validateShared_foreign {s : Schema} (h : s.validateShared o data = .ok r) :
    ∃ fs ∈ s.members, ∃ w, Fields.validateShared fs o data = .ok r ∧ data.plain = .ok w ∧
      (data.isGiven = true → ∀ x : Value, x.isForeign = true → ¬ w.Holds .value x) ∧
      ((∀ x : Value, x.isForeign = true → ¬ fs.Brings w x) →
        ∀ path u, r.At path u → u.isForeign = false) ∧
      (Fields.everyType TypeSpec.sharesNothing fs = true →
        (∀ path u, r.At path u → u.isForeign = true → u.isTimely = true →
          w.Holds .value u ∨ (Schema.mapping fs).DefaultHolds [] path .value u) ∧
        (∀ path u key, r.At path u → key ∈ path → key.isForeign = true →
          (∃ more v, w.At more v ∧ key ∈ more) ∨
            (Schema.mapping fs).DefaultHolds [] path .key key)) := by
  obtain ⟨before, fs, after, hmembers, -, hfs⟩ := Schema.validateBy_eq_ok.mp h
  have hmem : fs ∈ s.members := by
    rw [hmembers]
    simp
  obtain ⟨es, v, hplain, -⟩ := Fields.validateShared_eq_ok.mp hfs
  refine ⟨fs, hmem, _, hfs, hplain, fun hgiven x hx hholds => ?_,
    fun hbrings path u hat => Fields.isForeign_eq_false_of_validateShared hplain hbrings hfs hat,
    fun hshare => ⟨fun path u hat hu _ => ?_, fun path u key hat hkey hforeign => ?_⟩⟩
  · obtain ⟨path, u, hat, rfl⟩ := hholds
    have hcopied := Value.isCopied_of_plain data _ hgiven hplain
    have hu := Value.isForeign_eq_false_of_isCopied (Value.everywhere_iff.mp hcopied path _ hat)
    cases hu.symm.trans hx
  · rw [Fields.validateShared_eq_validate hshare] at hfs
    have hself : u.Occurs .value path u := rfl
    obtain ⟨es', hplain', hholds⟩ := Fields.holds_of_validate hu hfs hat hself
    cases hplain.symm.trans hplain'
    exact hholds
  · rw [Fields.validateShared_eq_validate hshare] at hfs
    have honPath : key.Occurs .key path u := hkey
    obtain ⟨es', hplain', hholds⟩ := Fields.holds_of_validate hforeign hfs hat honPath
    cases hplain.symm.trans hplain'
    exact hholds

end Results

/-! ## A pair in a default -/

/-- An object of which nothing is declared, with a pair in it by default. -/
def Schema.paired : Schema :=
  .mapping [("o", .single (.object
    { default? := some (some [("x", .tuple [.int 1, .int 2])]) } (.mapping [])))]

/-- The document that this schema is read from. -/
def Schema.pairedDocument : Value :=
  .map [(.text "o", .map [(.text "type", .text "object"), (.text "properties", .map []),
    (.text "default", .map [(.text "x", .tuple [.int 1, .int 2])])])]

/-- What is returned with `x` in the object. -/
def Value.objectWith (x : Value) : Value := .map [(.text "o", .map [(.text "x", x)])]

/-- The default comes out with the pair in it, though the same object, when it is given, comes out
with a list. -/
theorem Schema.paired_returns_tuple :
    Schema.read Schema.pairedDocument = .ok Schema.paired ∧
      Schema.paired.validateShared {} (.map []) = .ok (.objectWith (.tuple [.int 1, .int 2])) ∧
      (Value.objectWith (.tuple [.int 1, .int 2])).At [.text "o", .text "x"]
        (.tuple [.int 1, .int 2]) ∧
      Schema.paired.validateShared {} (.objectWith (.tuple [.int 1, .int 2])) =
        .ok (.objectWith (.list [.int 1, .int 2])) :=
  ⟨rfl, rfl, .entry List.mem_cons_self (.entry List.mem_cons_self (.here _)), rfl⟩

/-- There is a leap day in 2024. -/
theorem Date.exists_leapDay :
    1 ≤ 2024 ∧ 2024 ≤ 9999 ∧ 1 ≤ 2 ∧ 2 ≤ 12 ∧ 1 ≤ 29 ∧ 29 ≤ daysInMonth 2024 2 := by
  decide

/-- Data of foreign values, under a key that is one as well. -/
def Value.columns : Value :=
  .map [(.tuple [.int 0], .scalar .integer (.int 3)),
    (.text "s", .tuple [.series .integer [.int 1], .timestamp ⟨⟨2024, 2, 29, Date.exists_leapDay⟩,
      .midnight, none⟩, .table [("a", .integer, [.int 1, .int 2])], .noMoment])]

/-- What comes back for it. -/
def Value.columnsResult : Value :=
  .map [(.tuple [.int 0], .int 3),
    (.text "s", .list [.list [.int 1],
      .dateTime ⟨⟨2024, 2, 29, Date.exists_leapDay⟩, .midnight, none⟩,
      .list [.map [(.text "a", .int 1)], .map [(.text "a", .int 2)]], .null]),
    (.text "o", .map [(.text "x", .tuple [.int 1, .int 2])])]

/-- The foreign values of the data come out plain, the pair of the default does not, and the key
stays a key. -/
theorem Schema.paired_foreign :
    Schema.paired.validateShared {} Value.columns = .ok Value.columnsResult ∧
      ∃ fs ∈ Schema.paired.members, ∃ w, Value.columns.plain = .ok w ∧
        (∀ x : Value, x.isForeign = true → ¬ w.Holds .value x) ∧
        (Schema.mapping fs).DefaultHolds [] [.text "o", .text "x"] .value
          (.tuple [.int 1, .int 2]) ∧
        ((∃ more v, w.At more v ∧ .tuple [.int 0] ∈ more) ∨
          (Schema.mapping fs).DefaultHolds [] [.tuple [.int 0]] .key (.tuple [.int 0])) := by
  have hvalidate : Schema.paired.validateShared {} Value.columns = .ok Value.columnsResult := rfl
  obtain ⟨fs, hmem, w, -, hplain, hgiven, -, hshare⟩ := Schema.validateShared_foreign hvalidate
  have hcopy := hgiven rfl
  obtain ⟨hvalues, hkeys⟩ := hshare (by rw [List.mem_singleton.mp hmem]; rfl)
  have hpair : Value.columnsResult.At [.text "o", .text "x"] (.tuple [.int 1, .int 2]) :=
    .entry (List.mem_cons_of_mem _ (List.mem_cons_of_mem _ List.mem_cons_self))
      (.entry List.mem_cons_self (.here _))
  refine ⟨hvalidate, fs, hmem, w, hplain, hcopy,
    (hvalues _ _ hpair rfl rfl).resolve_left (hcopy _ rfl), hkeys _ (.int 3) _ ?_ ?_ rfl⟩
  · exact .entry List.mem_cons_self (.here _)
  · exact List.mem_cons_self

end Conform
