import Conform.Proofs.Candidates
import Conform.Proofs.DistinctNames
import Conform.Proofs.Members
import Conform.Proofs.Notes
import Conform.Validation.Validator

/-!
# Where nothing is shared

Validation is written down twice, with defaults that are trees and with defaults in which a
container may stand in several places. A default in which nothing is shared takes no cells when it
is copied (`Value.place_nil`), and the data has none to begin with, so there are never any. A walk
of linked values then mirrors the walk of the values step by step (`LinkedWalk.Mirrors`), and the
two validations are the same for every schema whose defaults share no container
(`Schema.validateShared_eq_validate`): what is proved of the one holds of the other.

A schema that has been read from a value is of this sort (`Schema.validateShared_of_read`). So is
one that has been read from a document, unless the document shares a container inside a default.
-/

namespace Conform

/-! ## Linked values without links -/

namespace Value

/-- Entries in which nothing is shared, as linked ones. -/
def unsharedEntries (es : List (Value × Value)) : List (Value × Linked) :=
  es.map fun e => (e.1, e.2.unshared)

mutual

/-- Where no place has a cell, it does not matter where a value stands. -/
theorem linked_eq_unshared : ∀ (v : Value) (path : Path),
    v.linked (fun _ => none) path = v.unshared
  | .list vs, path => congrArg Linked.list
      ((linkedItems_eq_map vs path 0).trans (linkedItems_eq_map vs [] 0).symm)
  | .tuple vs, path => congrArg Linked.tuple
      ((linkedItems_eq_map vs path 0).trans (linkedItems_eq_map vs [] 0).symm)
  | .map es, path => congrArg Linked.map
      ((linkedEntries_eq_map es path).trans (linkedEntries_eq_map es []).symm)
  | .null, _ | .bool _, _ | .number _, _ | .text _, _ | .bytes _, _ | .date _, _ | .dateTime _, _
  | .absent, _ | .set _, _ | .noMoment, _ | .timestamp _, _ | .scalar .., _ | .array .., _
  | .series .., _ | .table _, _ | .foreign _, _ => rfl

theorem linkedItems_eq_map : ∀ (vs : List Value) (path : Path) (index : Nat),
    linkedItems (fun _ => none) path index vs = vs.map unshared
  | [], _, _ => rfl
  | v :: vs, path, index => by
    show linked (fun _ => none) (path ++ [.int index]) v ::
      linkedItems (fun _ => none) path (index + 1) vs = v.unshared :: vs.map unshared
    rw [linkedItems_eq_map vs path (index + 1), linked_eq_unshared v]

theorem linkedEntries_eq_map : ∀ (es : List (Value × Value)) (path : Path),
    linkedEntries (fun _ => none) path es = unsharedEntries es
  | [], _ => rfl
  | (k, v) :: es, path => by
    show (k, linked (fun _ => none) (path ++ [k]) v) :: linkedEntries (fun _ => none) path es =
      (k, v.unshared) :: unsharedEntries es
    rw [linkedEntries_eq_map es path, linked_eq_unshared v]

end

@[simp] theorem unshared_list (vs : List Value) : (list vs).unshared = .list (vs.map unshared) :=
  congrArg Linked.list (linkedItems_eq_map vs [] 0)

@[simp] theorem unshared_tuple (vs : List Value) :
    (tuple vs).unshared = .tuple (vs.map unshared) :=
  congrArg Linked.tuple (linkedItems_eq_map vs [] 0)

@[simp] theorem unshared_map (es : List (Value × Value)) :
    (map es).unshared = .map (unsharedEntries es) :=
  congrArg Linked.map (linkedEntries_eq_map es [])

theorem unshared_eq_atom_absent {v : Value} : v.unshared = .atom .absent ↔ v = .absent := by
  constructor
  · intro h
    cases v <;> first | rfl | cases h
  · rintro rfl
    rfl

section Value

variable (inCell : Nat → Value)

mutual

theorem valueWith_unshared : ∀ v : Value, v.unshared.valueWith inCell = v
  | .list vs => by
    rw [unshared_list, Linked.valueWith, valuesWith_unshared vs]
  | .tuple vs => by
    rw [unshared_tuple, Linked.valueWith, valuesWith_unshared vs]
  | .map es => by
    rw [unshared_map, Linked.valueWith, entriesWith_unshared es]
  | .null | .bool _ | .number _ | .text _ | .bytes _ | .date _ | .dateTime _ | .absent | .set _
  | .noMoment | .timestamp _ | .scalar .. | .array .. | .series .. | .table _ | .foreign _ => rfl

theorem valuesWith_unshared : ∀ vs : List Value, Linked.valuesWith inCell (vs.map unshared) = vs
  | [] => rfl
  | v :: vs => by
    rw [List.map_cons, Linked.valuesWith, valueWith_unshared v, valuesWith_unshared vs]

theorem entriesWith_unshared : ∀ es : List (Value × Value),
    Linked.entriesWith inCell (unsharedEntries es) = es
  | [] => rfl
  | (k, v) :: es => by
    have hes := entriesWith_unshared es
    unfold unsharedEntries at hes ⊢
    rw [List.map_cons, Linked.entriesWith, valueWith_unshared v, hes]

end

end Value

/-- **A linked value without links stands for the value** that it has been made from. -/
@[simp] theorem value_unshared (v : Value) (cells : Cells) : v.unshared.value cells = v :=
  valueWith_unshared _ v

theorem update_unshared {m : Type → Type} [Monad m] [MonadStateOf Cells m]
    (change : Linked → m Linked) (v : Value) : v.unshared.update change = change v.unshared := by
  cases v <;> rfl

theorem entry?_unsharedEntries (es : List (Value × Value)) (key : Value) :
    entry? (unsharedEntries es) key = (Value.entry? es key).map unshared := by
  rw [unsharedEntries, entry?, List.find?_map, Option.map_map, entry?, Option.map_map]
  rfl

theorem setEntry_unsharedEntries (es : List (Value × Value)) (key v : Value) :
    setEntry (unsharedEntries es) key v.unshared = unsharedEntries (setEntry es key v) := by
  unfold setEntry unsharedEntries
  rw [List.any_map]
  show (if es.any (fun e => e.1.sameKey key) then _ else _) = _
  split
  · rw [List.map_map, List.map_map]
    refine List.map_congr_left (fun e _ => ?_)
    show (if e.1.sameKey key then (e.1, v.unshared) else (e.1, e.2.unshared)) =
      (fun e : Value × Value => (e.1, e.2.unshared)) (if e.1.sameKey key then (e.1, v) else e)
    split <;> rfl
  · rw [List.map_append]
    rfl

/-- Where nothing is shared, a copy takes no cells. -/
theorem place_nil (v : Value) : v.place [] = pure v.unshared := by
  funext cells
  show (v.linked (fun _ => none) [], cells ++ []) = (v.unshared, cells)
  rw [linked_eq_unshared, List.append_nil]

end Value

/-! ## Marking -/

section Marking

mutual

theorem Fields.seedLinked_unshared : ∀ (fs : List (String × TypeSpec)) (es : List (Value × Value)),
    Fields.seedLinked fs (Value.unsharedEntries es) =
      pure (Value.unsharedEntries (Fields.seed fs es))
  | [], _ => rfl
  | (name, t) :: fs, es => by
    have hentry : (Value.entry? (Value.unsharedEntries es) (.text name)).getD (.atom .absent) =
        ((Value.entry? es (.text name)).getD .absent).unshared := by
      rw [Value.entry?_unsharedEntries]
      cases Value.entry? es (.text name) <;> rfl
    rw [Fields.seedLinked, hentry, TypeSpec.seedLinked_unshared t, pure_bind,
      Value.setEntry_unsharedEntries, Fields.seedLinked_unshared fs]
    rfl

/-- **Where nothing is shared**, a linked value is marked as the value is. -/
theorem TypeSpec.seedLinked_unshared : ∀ (t : TypeSpec) (v : Value),
    t.seedLinked v.unshared = pure (t.seed v).unshared
  | .single n, v => Node.seedLinked_unshared n v
  | .union n m ns, v => by
    rw [TypeSpec.seedLinked, TypeSpec.seed]
    simp only [Value.value_unshared]
    funext cells
    show (if _ then _ else _ : StateM Cells Linked) cells = _
    split
    · split
      · rw [Node.seedLinked_unshared n v]
      · split
        · rw [Node.seedLinked_unshared m v]
        · rw [TypeSpec.seedLinkedAmong_unshared ns v]
    · rfl

theorem TypeSpec.seedLinkedAmong_unshared : ∀ (ns : List Node) (v : Value),
    TypeSpec.seedLinkedAmong ns v v.unshared = pure (TypeSpec.seedAmong ns v).unshared
  | [], _ => rfl
  | n :: ns, v => by
    rw [TypeSpec.seedLinkedAmong, TypeSpec.seedAmong]
    split
    · exact Node.seedLinked_unshared n v
    · exact TypeSpec.seedLinkedAmong_unshared ns v

theorem Node.seedLinked_unshared : ∀ (n : Node) (v : Value),
    n.seedLinked v.unshared = pure (n.seed v).unshared
  | .object _ (.mapping fs), v => by
    rw [Node.seedLinked, Value.update_unshared]
    cases v with
    | map es =>
      rw [Value.unshared_map]
      dsimp only
      rw [Fields.seedLinked_unshared fs es, Node.seed, Value.unshared_map]
      rfl
    | _ => rfl
  | .array _ t _, v => by
    rw [Node.seedLinked, Value.update_unshared]
    cases v with
    | list vs =>
      have hitems : (vs.map Value.unshared).mapM (fun l => TypeSpec.seedLinked t l) =
          (pure ((vs.map fun v => t.seed v).map Value.unshared) : StateM Cells _) := by
        induction vs with
        | nil => rfl
        | cons v vs ih =>
          rw [List.map_cons, List.mapM_cons, TypeSpec.seedLinked_unshared t v, pure_bind, ih]
          rfl
      rw [Value.unshared_list]
      dsimp only
      rw [hitems, Node.seed, Value.unshared_list]
      rfl
    | _ => rfl
  | .object _ (.union ..), v | .string .., v | .number .., v | .boolean .., v | .date .., v => rfl

end

end Marking

/-- Nothing takes the place of an absent value without a default. -/
theorem TypeSpec.fill_of_none {t : TypeSpec} (h : t.first.default? = none) : t.fill = none := by
  unfold fill
  rw [resolve_absent]
  dsimp only
  rw [h]

theorem TypeSpec.fill_of_null {t : TypeSpec} (h : t.first.default? = some .null) :
    t.fill = none := by
  unfold fill
  rw [resolve_absent]
  dsimp only
  rw [h]

/-- A default that is not null is put in. -/
theorem TypeSpec.fill_of_default {t : TypeSpec} {d : Value} (h : t.first.default? = some d)
    (hd : d ≠ .null) : t.fill = some (t.copied d t.first.sharing) := by
  unfold fill
  rw [resolve_absent]
  dsimp only
  rw [h]
  cases d <;> first | exact absurd rfl hd | rfl

theorem Linked.packed_nil (l : Linked) : l.packed [] = l := by
  cases l <;> rfl

/-- A copy of a default that shares nothing shares nothing. -/
theorem TypeSpec.copied_nil (t : TypeSpec) (d : Value) : t.copied d [] = (t.seed d).unshared := by
  have hcopy : (d.place [] >>= fun l => t.seedLinked l) = pure (t.seed d).unshared := by
    rw [Value.place_nil, pure_bind, seedLinked_unshared]
  show ((d.place [] >>= fun l => t.seedLinked l).run []).1.packed
    ((d.place [] >>= fun l => t.seedLinked l).run []).2 = _
  rw [hcopy]
  exact (t.seed d).unshared.packed_nil

/-! ## What is not declared -/

namespace Course

variable {c : Course} {path : Path}

theorem unknown_eq_some {v w : Value} :
    c.unknown v = some w ↔ v = w ∧ v.isPresent = true ∧ c.options.stripUnknown = false := by
  cases v <;> cases hstrip : c.options.stripUnknown <;> simp [unknown, Value.isPresent, hstrip]

theorem map_unknown (h : c.options.stripUnknown = false) (v : Value) :
    (c.unknown v).map Value.withoutAbsent = v.sifted? := by
  cases v <;> simp [unknown, Value.sifted?, Value.isPresent, h]

section Members

variable {member : Path → Value → Walk (Option Value)}

/-- Members none of which can fail. -/
theorem walkEntries_of_pure {f : Value → Option Value}
    (h : ∀ k v, member (path ++ [k]) v = pure (f v)) (es : List (Value × Value)) :
    walkEntries member path es =
      pure (es.flatMap (fun e => ((f e.2).map (fun w => (e.1, w))).toList)) := by
  induction es with
  | nil => rfl
  | cons e es ih =>
    rw [walkEntries, h, pure_bind, ih, pure_bind, List.flatMap_cons]

theorem walkItems_of_pure {f : Value → Option Value}
    (h : ∀ k v, member (path ++ [k]) v = pure (f v)) (index : Nat) (vs : List Value) :
    walkItems member path index vs = pure (vs.flatMap (fun v => (f v).toList)) := by
  induction vs generalizing index with
  | nil => rfl
  | cons v vs ih =>
    rw [walkItems, h, pure_bind, ih, pure_bind, List.flatMap_cons]

/-- A leaf has no members to walk. -/
theorem walkMembers_of_leaf {v : Value} (h : v.isContainer = false) :
    walkMembers member path v = pure v := by
  cases v with
  | map es => cases h
  | list vs => cases h
  | _ => rfl

end Members

/-- **An undeclared value** is kept or dropped as a whole, apart from the marks of absence in it. -/
theorem walk_of_locate_eq_none (hne : path ≠ []) (h : c.schema.locate path = none)
    (budget : Nat) (v : Value) :
    c.walk budget path v = pure ((c.unknown v).map Value.withoutAbsent) := by
  induction budget generalizing path v with
  | zero => rfl
  | succ budget ih =>
    have hvisit : c.visit path v = pure (c.unknown v) := by
      unfold visit
      rw [h]
    have hmember : ∀ k w, c.walk budget (path ++ [k]) w =
        pure ((c.unknown w).map Value.withoutAbsent) := fun k w =>
      ih (by simp) (Schema.locate_append_eq_none hne h [k]) w
    rw [walk, hvisit, pure_bind]
    cases hv : c.unknown v with
    | none => rfl
    | some w =>
      obtain ⟨rfl, -, hstrip⟩ := unknown_eq_some.mp hv
      simp only [map_unknown hstrip] at hmember
      have hmembers : walkMembers (c.walk budget) path v = pure v.withoutAbsent := by
        cases v with
        | map es =>
          rw [walkMembers, walkEntries_of_pure hmember, ← Value.presentEntries_eq]
          rfl
        | list vs =>
          rw [walkMembers, walkItems_of_pure hmember, ← Value.presentItems_eq]
          rfl
        | _ => rfl
      dsimp only
      rw [hmembers, pure_bind]
      rfl

end Course

/-! ## Walking -/

/-- **A walk that mirrors another**: it ends as the other does, with the same notes, it gives what
the other gives, in its linked form, and it changes no cell. -/
def LinkedWalk.Mirrors {α β : Type} (x : LinkedWalk β) (f : α → β) (m : Walk α) : Prop :=
  ∀ cells, x.run cells = (fun a => (f a, cells)) <$> m

namespace LinkedWalk.Mirrors

variable {α β α' β' : Type} {f : α → β} {g : α' → β'}

theorem pure (a : α) : Mirrors (Pure.pure (f a)) f (Pure.pure a) := fun _ => rfl

theorem throw (e : Interruption) : Mirrors (MonadExcept.throw e) f (MonadExcept.throw e) :=
  fun _ => rfl

theorem lift (m : Walk α) : Mirrors (liftM m) id m := fun _ => rfl

theorem bind {x : LinkedWalk β} {m : Walk α} {k : β → LinkedWalk β'} {k' : α → Walk α'}
    (h : x.Mirrors f m) (hk : ∀ a, (k (f a)).Mirrors g (k' a)) :
    (x >>= k).Mirrors g (m >>= k') := by
  intro cells
  rw [StateT.run_bind, h cells, bind_map_left, map_bind]
  exact congrArg (m >>= ·) (funext fun a => hk a cells)

theorem map {x : LinkedWalk β} {m : Walk α} (h : x.Mirrors f m) {k : β → β'} {k' : α → α'}
    (hk : ∀ a, k (f a) = g (k' a)) : (k <$> x).Mirrors g (k' <$> m) := by
  rw [map_eq_pure_bind, map_eq_pure_bind]
  exact h.bind (fun a => by rw [hk a]; exact pure _)

/-- What is read of the cells may not matter. -/
theorem get {x : Cells → LinkedWalk β} {m : Walk α} (h : ∀ cells, (x cells).Mirrors f m) :
    (MonadState.get >>= x).Mirrors f m := fun cells => h cells cells

end LinkedWalk.Mirrors

theorem Node.Accepts.become {n : Node} {v w : Value} (h : n.Accepts v w) :
    v.unshared.become w = w.unshared := by
  cases h with
  | object => rw [Value.unshared_map]; rfl
  | array => rw [Value.unshared_list]; rfl
  | string => rfl
  | number => rfl
  | boolean => rfl
  | date hi h => cases v <;> first | rfl | cases hi

namespace Linked

variable {m : Type → Type} [Monad m]

theorem siftEntriesWith_cons (inCell : Nat → m Linked) (k : Value) {l : Linked}
    (h : l ≠ .atom .absent) (es : List (Value × Linked)) :
    siftEntriesWith inCell ((k, l) :: es) =
      (do return (k, ← siftWith inCell l) :: (← siftEntriesWith inCell es)) := by
  cases l with
  | atom v => cases v <;> first | exact absurd rfl h | rfl
  | _ => rfl

theorem siftItemsWith_cons (inCell : Nat → m Linked) {l : Linked} (h : l ≠ .atom .absent)
    (ls : List Linked) : siftItemsWith inCell (l :: ls) =
      (do return (← siftWith inCell l) :: (← siftItemsWith inCell ls)) := by
  cases l with
  | atom v => cases v <;> first | exact absurd rfl h | rfl
  | _ => rfl

theorem siftedEntries_cons (k : Value) {l : Linked} (h : l ≠ .atom .absent)
    (es : List (Value × Linked)) :
    siftedEntries ((k, l) :: es) = (k, l.sifted) :: siftedEntries es := by
  cases l with
  | atom v => cases v <;> first | exact absurd rfl h | rfl
  | _ => rfl

theorem siftedItems_cons {l : Linked} (h : l ≠ .atom .absent) (ls : List Linked) :
    siftedItems (l :: ls) = l.sifted :: siftedItems ls := by
  cases l with
  | atom v => cases v <;> first | exact absurd rfl h | rfl
  | _ => rfl

/-- **Where nothing is shared**, sifting is sifting. -/
theorem siftWith_unshared [LawfulMonad m] (inCell : Nat → m Linked) (v : Value) :
    siftWith inCell v.unshared = pure v.withoutAbsent.unshared := by
  have hne : ∀ {w : Value}, w.isPresent = true → w.unshared ≠ .atom .absent :=
    fun hw h => Value.isPresent_iff.mp hw (Value.unshared_eq_atom_absent.mp h)
  induction v using Value.members_induction with
  | map es ih =>
    have hes : siftEntriesWith inCell (Value.unsharedEntries es) =
        pure (Value.unsharedEntries (Value.presentEntries es)) := by
      induction es with
      | nil => rfl
      | cons e es ih' =>
        obtain ⟨k, v⟩ := e
        rw [List.forall_mem_cons] at ih
        by_cases hv : v.isPresent = true
        · rw [Value.presentEntries_cons hv]
          show siftEntriesWith inCell ((k, v.unshared) :: Value.unsharedEntries es) = _
          rw [siftEntriesWith_cons inCell k (hne hv), ih.1, ih' ih.2, pure_bind, pure_bind]
          rfl
        · cases v <;> first | exact absurd rfl hv | exact ih' ih.2
    rw [Value.unshared_map, siftWith, hes, map_pure, Value.withoutAbsent, Value.unshared_map]
  | list vs ih =>
    have hvs : siftItemsWith inCell (vs.map Value.unshared) =
        pure ((Value.presentItems vs).map Value.unshared) := by
      induction vs with
      | nil => rfl
      | cons v vs ih' =>
        rw [List.forall_mem_cons] at ih
        by_cases hv : v.isPresent = true
        · rw [Value.presentItems_cons hv, List.map_cons, siftItemsWith_cons inCell (hne hv), ih.1,
            ih' ih.2, pure_bind, pure_bind]
          rfl
        · cases v <;> first | exact absurd rfl hv | exact ih' ih.2
    rw [Value.unshared_list, siftWith, hvs, map_pure, Value.withoutAbsent, Value.unshared_list]
  | other v hleaf =>
    cases v with
    | map es => cases hleaf
    | list vs => cases hleaf
    | _ => rfl

end Linked

namespace Course

open LinkedWalk

variable {c : Course} {path : Path}

/-- How a visit of a declared value ends. -/
def ending (c : Course) (left : Option Value) : Checked (Option Value) → Walk (Option Value)
  | .ok w => return w
  | .error .dateOutOfRange => throw .dateOutOfRange
  | .error (.search e) => throw (.search e)
  | .error (.violation violation) => do
    c.report violation
    return left

theorem visit_of_locate {t : TypeSpec} (ht : c.schema.locate path = some t) (v : Value) :
    c.visit path v = c.ending (leftOver v) (apply (c.site path) t v) := by
  unfold visit
  rw [ht]
  dsimp only
  cases apply (c.site path) t v with
  | ok w => rfl
  | error e => cases e <;> rfl

/-- A check ends a visit in its linked form. -/
theorem settle_mirrors (c : Course) {l : Linked} (left : Option Value)
    {outcome : Checked (Option Value)} (h : ∀ w, outcome = .ok (some w) → l.become w = w.unshared) :
    (c.settle l (left.map Value.unshared) outcome).Mirrors (Option.map Value.unshared)
      (c.ending left outcome) := by
  cases outcome with
  | ok w =>
    cases w with
    | none => exact Mirrors.pure (f := Option.map Value.unshared) none
    | some w =>
      show Mirrors (pure (some (l.become w))) _ _
      rw [h w rfl]
      exact Mirrors.pure (f := Option.map Value.unshared) (some w)
  | error e =>
    cases e with
    | dateOutOfRange => exact Mirrors.throw _
    | search e => exact Mirrors.throw _
    | violation violation =>
      exact (Mirrors.lift (c.report violation)).bind (fun _ => Mirrors.pure left)

/-- An undeclared value is kept as it is, or dropped. -/
theorem eq_of_unknown {v w : Value} (h : c.unknown v = some w) : v = w := by
  cases v <;> cases hstrip : c.options.stripUnknown <;> simp_all [unknown]

theorem map_unknown_unshared (c : Course) (v : Value) :
    (c.unknown v).map (fun _ => v.unshared) = (c.unknown v).map Value.unshared := by
  cases hv : c.unknown v with
  | none => rfl
  | some w =>
    rw [eq_of_unknown hv]
    rfl

theorem become_of_apply {site : Site} {t : TypeSpec} {v w : Value} (hv : v ≠ .absent)
    (h : apply site t v = .ok (some w)) : v.unshared.become w = w.unshared := by
  cases apply_eq_ok_iff.mp h with
  | null => rfl
  | present h => exact h.become
  | nullDefault => exact absurd rfl hv
  | default => exact absurd rfl hv

/-- A declared mark is visited by putting in the default and checking it, or by judging the
absence. -/
theorem visitLinked_absent {t : TypeSpec} (ht : c.schema.locate path = some t) :
    c.visitLinked path (.atom .absent) = (
      match t.fill with
      | some d => do c.settle d none (some <$> checkPresent (c.site path) t (d.value (← get)))
      | none => c.settle (.atom .absent) none (apply (c.site path) t .absent)) := by
  unfold visitLinked
  generalize c.schema.locate path = located at ht ⊢
  subst ht
  rfl

/-- A declared value that is no mark is visited by checking it. -/
theorem visitLinked_present {t : TypeSpec} (ht : c.schema.locate path = some t) {l : Linked}
    (hne : l ≠ .atom .absent) : c.visitLinked path l = (do
      c.settle l (some l) (apply (c.site path) t (l.value (← get)))) := by
  unfold visitLinked
  rw [ht]
  cases l with
  | atom v => cases v <;> first | exact absurd rfl hne | rfl
  | _ => rfl

/-- An undeclared value is kept or dropped. -/
theorem visitLinked_undeclared (ht : c.schema.locate path = none) (l : Linked) :
    c.visitLinked path l = (do return (c.unknown (l.value (← get))).map fun _ => l) := by
  unfold visitLinked
  rw [ht]

/-- Goes on from what a visit leaves. -/
def descend (c : Course) (budget : Nat) (path : Path) : Option Linked → LinkedWalk (Option Linked)
  | none => return none
  | some l => some <$> c.walkBelow (c.walkLinked budget) path l

/-- A walk is a visit and what follows it. -/
theorem walkLinked_succ (budget : Nat) (path : Path) (l : Linked) :
    c.walkLinked (budget + 1) path l = c.visitLinked path l >>= c.descend budget path := by
  refine bind_congr (fun child => ?_)
  cases child with
  | none => rfl
  | some m => exact (map_eq_pure_bind _ _).symm

/-- Below what is declared the members are walked. -/
theorem walkBelow_of_locate {t : TypeSpec} (ht : c.schema.locate path = some t)
    (member : Path → Linked → LinkedWalk (Option Linked)) (l : Linked) :
    c.walkBelow member path l = walkLinkedMembers member path l := by
  unfold walkBelow
  rw [ht]
  rfl

/-- Below what is not declared marks are dropped. -/
theorem walkBelow_undeclared (ht : c.schema.locate path = none)
    (member : Path → Linked → LinkedWalk (Option Linked)) (l : Linked) :
    c.walkBelow member path l = l.sift := by
  unfold walkBelow
  rw [ht]
  rfl

/-- **A mark is visited alike**: a default takes its place, or its absence is judged. -/
theorem visitLinked_absent_mirrors {t : TypeSpec} (hshare : t.first.sharing = [])
    (ht : c.schema.locate path = some t) :
    (c.visitLinked path (.atom .absent)).Mirrors (Option.map Value.unshared)
      (c.visit path .absent) := by
  rw [visitLinked_absent ht, visit_of_locate ht]
  cases hd : t.first.default? with
  | none =>
    rw [TypeSpec.fill_of_none hd]
    refine c.settle_mirrors none (fun w hw => ?_)
    cases apply_eq_ok_iff.mp hw with
    | present h => exact absurd rfl h.ne_absent
    | nullDefault h => cases hd.symm.trans h
    | default h => cases hd.symm.trans h
  | some d =>
    by_cases hne : d = .null
    · subst hne
      rw [TypeSpec.fill_of_null hd]
      refine c.settle_mirrors none (fun w hw => ?_)
      rw [apply_absent_of_null hd] at hw
      cases hw
      rfl
    · rw [TypeSpec.fill_of_default hd hne, apply_absent_of_default hd hne, hshare,
        TypeSpec.copied_nil]
      refine Mirrors.get (fun cells => ?_)
      rw [Value.value_unshared]
      refine c.settle_mirrors none (fun w hw => ?_)
      obtain ⟨w', hw', hww'⟩ := Checked.map_eq_ok.mp hw
      cases hww'
      exact (checkPresent_eq_ok_iff.mp hw').become

/-- **A value that is there is visited alike**, whatever is shared in the defaults. -/
theorem visitLinked_present_mirrors {v : Value} (hv : v ≠ .absent) :
    (c.visitLinked path v.unshared).Mirrors (Option.map Value.unshared) (c.visit path v) := by
  cases ht : c.schema.locate path with
  | none =>
    rw [visitLinked_undeclared ht, visit, ht]
    refine Mirrors.get (fun cells => ?_)
    rw [Value.value_unshared, c.map_unknown_unshared]
    exact Mirrors.pure (c.unknown v)
  | some t =>
    have hne : v.unshared ≠ .atom .absent := fun h => hv (Value.unshared_eq_atom_absent.mp h)
    have hleft : leftOver v = some v := by cases v <;> first | exact absurd rfl hv | rfl
    rw [visitLinked_present ht hne, visit_of_locate ht, hleft]
    refine Mirrors.get (fun cells => ?_)
    rw [Value.value_unshared]
    exact c.settle_mirrors (some v) (fun w hw => become_of_apply hv hw)

/-- **A visit mirrors a visit**, where nothing is shared in the default. -/
theorem visitLinked_mirrors
    (hshare : ∀ t, c.schema.locate path = some t → t.sharesNothing = true) (v : Value) :
    (c.visitLinked path v.unshared).Mirrors (Option.map Value.unshared) (c.visit path v) := by
  by_cases hv : v = .absent
  · subst hv
    cases ht : c.schema.locate path with
    | none =>
      show (c.visitLinked path (.atom .absent)).Mirrors _ _
      rw [visitLinked_undeclared ht, visit, ht]
      exact Mirrors.get (fun _ => Mirrors.pure (f := Option.map Value.unshared) none)
    | some t =>
      exact visitLinked_absent_mirrors (TypeSpec.sharing_of_mem (hshare t ht) t.first_mem) ht
  · exact visitLinked_present_mirrors hv

/-! ## Members -/

section Members

variable {linkedMember : Path → Linked → LinkedWalk (Option Linked)}
  {member : Path → Value → Walk (Option Value)}
  (hmember : ∀ key v, (linkedMember (path ++ [key]) v.unshared).Mirrors
    (Option.map Value.unshared) (member (path ++ [key]) v))

include hmember

theorem walkLinkedEntries_mirrors (es : List (Value × Value)) :
    (walkLinkedEntries linkedMember path (Value.unsharedEntries es)).Mirrors Value.unsharedEntries
      (walkEntries member path es) := by
  induction es with
  | nil => exact Mirrors.pure (f := Value.unsharedEntries) []
  | cons e es ih =>
    refine (hmember _ e.2).bind (fun child => ih.bind (fun rest => ?_))
    have hchild : ((child.map Value.unshared).map fun l => (e.1, l)).toList ++
        Value.unsharedEntries rest =
        Value.unsharedEntries ((child.map fun w => (e.1, w)).toList ++ rest) := by
      cases child <;> rfl
    rw [hchild]
    exact Mirrors.pure _

theorem walkLinkedItems_mirrors (index : Nat) (vs : List Value) :
    (walkLinkedItems linkedMember path index (vs.map Value.unshared)).Mirrors
      (List.map Value.unshared) (walkItems member path index vs) := by
  induction vs generalizing index with
  | nil => exact Mirrors.pure (f := List.map Value.unshared) []
  | cons v vs ih =>
    refine (hmember _ v).bind (fun child => (ih (index + 1)).bind (fun rest => ?_))
    have hchild : (child.map Value.unshared).toList ++ rest.map Value.unshared =
        (child.toList ++ rest).map Value.unshared := by
      cases child <;> rfl
    rw [hchild]
    exact Mirrors.pure _

theorem walkLinkedMembers_mirrors (v : Value) :
    (walkLinkedMembers linkedMember path v.unshared).Mirrors Value.unshared
      (walkMembers member path v) := by
  unfold walkLinkedMembers
  rw [Value.update_unshared]
  cases v with
  | map es =>
    rw [Value.unshared_map]
    exact (walkLinkedEntries_mirrors hmember es).map
      (fun es' => (Value.unshared_map es').symm)
  | list vs =>
    rw [Value.unshared_list]
    exact (walkLinkedItems_mirrors hmember 0 vs).map
      (fun vs' => (Value.unshared_list vs').symm)
  | tuple vs =>
    rw [Value.unshared_tuple]
    show Mirrors (pure (Linked.tuple (vs.map Value.unshared))) _ _
    rw [← Value.unshared_tuple]
    exact Mirrors.pure _
  | _ => exact Mirrors.pure _

end Members

/-- Sifting mirrors sifting. -/
theorem sift_mirrors (v : Value) :
    (v.unshared.sift : LinkedWalk Linked).Mirrors Value.unshared (pure v.withoutAbsent) := by
  refine Mirrors.get (fun cells => ?_)
  rw [Linked.siftWith_unshared]
  exact Mirrors.pure _

/-- **What is not declared** is kept or dropped as a whole. -/
theorem walkLinked_undeclared_mirrors (ht : c.schema.locate path = none) (budget : Nat)
    (v : Value) : (c.walkLinked budget path v.unshared).Mirrors (Option.map Value.unshared)
      (pure ((c.unknown v).map Value.withoutAbsent)) := by
  have hkept : ∀ w, c.unknown v = some w →
      (some <$> v.unshared.sift : LinkedWalk (Option Linked)).Mirrors (Option.map Value.unshared)
        (pure (some w.withoutAbsent)) := by
    intro w hv
    cases eq_of_unknown hv
    show Mirrors _ _ (some <$> (pure v.withoutAbsent : Walk Value))
    exact (sift_mirrors v).map (fun _ => rfl)
  have hdropped : (pure none : LinkedWalk (Option Linked)).Mirrors (Option.map Value.unshared)
      (pure none) := Mirrors.pure (f := Option.map Value.unshared) none
  cases budget with
  | zero =>
    unfold walkLinked
    refine Mirrors.get (fun cells => ?_)
    rw [Value.value_unshared]
    cases hv : c.unknown v with
    | none => exact hdropped
    | some w =>
      dsimp only
      rw [← map_eq_pure_bind]
      exact hkept w hv
  | succ budget =>
    rw [walkLinked_succ, visitLinked_undeclared ht]
    refine Mirrors.get (fun cells => ?_)
    rw [Value.value_unshared]
    cases hv : c.unknown v with
    | none => exact hdropped
    | some w =>
      show Mirrors (c.descend budget path (some v.unshared)) _ _
      rw [descend, walkBelow_undeclared ht]
      exact hkept w hv

/-- **A walk mirrors a walk**, where nothing is shared in the defaults. -/
theorem walkLinked_mirrors (budget : Nat) (hne : path ≠ [])
    (hshare : ∀ more t, c.schema.locate (path ++ more) = some t → t.sharesNothing = true)
    (v : Value) :
    (c.walkLinked budget path v.unshared).Mirrors (Option.map Value.unshared)
      (c.walk budget path v) := by
  induction budget generalizing path v with
  | zero =>
    unfold walkLinked walk
    refine Mirrors.get (fun cells => ?_)
    rw [Value.value_unshared]
    cases hv : c.unknown v with
    | none => exact Mirrors.pure (f := Option.map Value.unshared) none
    | some w =>
      cases eq_of_unknown hv
      exact (sift_mirrors v).map (fun _ => rfl)
  | succ budget ih =>
    have hself : ∀ t, c.schema.locate path = some t → t.sharesNothing = true :=
      fun t ht => hshare [] t (by rwa [List.append_nil])
    cases ht : c.schema.locate path with
    | none =>
      rw [walk_of_locate_eq_none hne ht]
      exact walkLinked_undeclared_mirrors ht (budget + 1) v
    | some t =>
      refine (visitLinked_mirrors hself v).bind (fun child => ?_)
      cases child with
      | none => exact Mirrors.pure (f := Option.map Value.unshared) none
      | some w =>
        rw [Option.map_some]
        dsimp only
        rw [walkBelow_of_locate ht]
        refine (walkLinkedMembers_mirrors
          (fun key v => ih (by simp) (fun more t ht => ?_) v) w).bind
          (fun w' => Mirrors.pure (f := Option.map Value.unshared) (some w'))
        rw [List.append_assoc] at ht
        exact hshare _ t ht

/-- **The walk of the root** is the walk of the root. -/
theorem walkShared_eq_walkRoot (hshare : c.schema.everyType TypeSpec.sharesNothing = true)
    (es : List (Value × Value)) : c.walkShared es = c.walkRoot es := by
  have hmember : ∀ key v, (c.walkLinked c.schema.depth ([] ++ [key]) v.unshared).Mirrors
      (Option.map Value.unshared) (c.walk c.schema.depth ([] ++ [key]) v) :=
    fun key v => walkLinked_mirrors c.schema.depth (by simp) (fun more t ht =>
      TypeSpec.self_of_everyType (Schema.everyType_of_locate hshare ht)) v
  unfold walkShared
  dsimp only
  rw [walkLinkedMembers_mirrors hmember (.map es) [], bind_map_left]
  simp only [Value.value_unshared, bind_pure]
  rfl

end Course

/-! ## Validation -/

section Validation

variable {fs : Fields} {s : Schema}

/-- **Where no default shares a container**, a mapping validates data as if every default were a
tree, which it is. -/
theorem Fields.validateShared_eq_validate
    (hshare : Fields.everyType TypeSpec.sharesNothing fs = true) (o : Options) (data : Value) :
    fs.validateShared o data = fs.validate o data := by
  unfold validateShared validate
  cases data.plain with
  | error e => rfl
  | ok w =>
    cases w with
    | map es =>
      dsimp only
      rw [Course.walkShared_eq_walkRoot (c := ⟨.mapping fs, o⟩) hshare]
    | _ => rfl

/-- Members that validate data alike answer alike. -/
theorem tryMembers_congr {validate validate' : Fields → Validated} (ms : List Fields)
    (h : ∀ fs ∈ ms, validate fs = validate' fs) :
    tryMembers validate ms = tryMembers validate' ms := by
  induction ms with
  | nil => rfl
  | cons fs ms ih =>
    rw [List.forall_mem_cons] at h
    rw [tryMembers, tryMembers, h.1, ih h.2]

/-- **Where no default shares a container**, a schema validates data as if every default were a
tree. -/
theorem Schema.validateShared_eq_validate (hshare : s.everyType TypeSpec.sharesNothing = true)
    (o : Options) (data : Value) : s.validateShared o data = s.validate o data := by
  have hmembers : ∀ fs ∈ s.members, Fields.validateShared fs o data = Fields.validate fs o data :=
    fun fs hfs => Fields.validateShared_eq_validate (Schema.everyType_of_mem hshare hfs) o data
  cases s with
  | mapping fs => exact hmembers fs List.mem_cons_self
  | union fs gs hs =>
    show Schema.validateBy _ _ _ = Schema.validateBy _ _ _
    rw [Schema.validateBy, Schema.validateBy,
      tryMembers_congr (fs :: gs :: hs) hmembers]

/-- **A schema that has been read from a value** is a tree with all its defaults. -/
theorem Schema.validateShared_of_read {raw : Value} (h : Schema.read raw = .ok s) (o : Options)
    (data : Value) : s.validateShared o data = s.validate o data :=
  validateShared_eq_validate (sharesNothing_of_read h) o data

end Validation

end Conform
