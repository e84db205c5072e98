import Conform.Proofs.Settled

/-!
# Cells without marks

A walk of linked values takes the marks out of what it comes by, but it may come by a cell again
that it has dealt with in another place. What has to be kept up is therefore said of one linked
value at a time. It is clean if it holds no mark (`Linked.IsClean`), and it stays clean if a cell is
given something clean (`Linked.IsClean.set`). It does not matter whether cells lie one inside the
other, for a value is read from them to any depth.

The second invariant is about leaves. A leaf of a linked value is one of the data or of a default,
or a check has put it in the place of one, and then it is not foreign (`Linked.Sound`). A tuple is a
leaf. A default must not have one, for a tuple can have cells in it, unless nothing is asked of
leaves.
-/

namespace Conform

namespace Linked

/-! ## Linked values -/

mutual

/-- What holds of containers whose members have it, of copies if it holds of what is in them, and of
all other linked values, holds of every linked value. -/
@[elab_as_elim]
theorem members_induction {P : Linked → Prop} (map : ∀ es, (∀ e ∈ es, P e.2) → P (.map es))
    (list : ∀ ls, (∀ l ∈ ls, P l) → P (.list ls)) (tuple : ∀ ls, (∀ l ∈ ls, P l) → P (.tuple ls))
    (copy : ∀ top cells, P top → (∀ l ∈ cells, P l) → P (.copy top cells))
    (atom : ∀ v, P (.atom v)) (cell : ∀ a, P (.cell a)) : ∀ l, P l
  | .map es => map es (members_induction_entries map list tuple copy atom cell es)
  | .list ls => list ls (members_induction_items map list tuple copy atom cell ls)
  | .tuple ls => tuple ls (members_induction_items map list tuple copy atom cell ls)
  | .copy top cells => copy top cells (members_induction map list tuple copy atom cell top)
      (members_induction_items map list tuple copy atom cell cells)
  | .atom v => atom v
  | .cell a => cell a

theorem members_induction_entries {P : Linked → Prop} (map : ∀ es, (∀ e ∈ es, P e.2) → P (.map es))
    (list : ∀ ls, (∀ l ∈ ls, P l) → P (.list ls)) (tuple : ∀ ls, (∀ l ∈ ls, P l) → P (.tuple ls))
    (copy : ∀ top cells, P top → (∀ l ∈ cells, P l) → P (.copy top cells))
    (atom : ∀ v, P (.atom v)) (cell : ∀ a, P (.cell a)) :
    ∀ (es : List (Value × Linked)), ∀ e ∈ es, P e.2
  | [], _, he => nomatch he
  | (_, l) :: es, e, he => (List.mem_cons.mp he).elim
      (fun h => h ▸ members_induction map list tuple copy atom cell l)
      (fun h => members_induction_entries map list tuple copy atom cell es e h)

theorem members_induction_items {P : Linked → Prop} (map : ∀ es, (∀ e ∈ es, P e.2) → P (.map es))
    (list : ∀ ls, (∀ l ∈ ls, P l) → P (.list ls)) (tuple : ∀ ls, (∀ l ∈ ls, P l) → P (.tuple ls))
    (copy : ∀ top cells, P top → (∀ l ∈ cells, P l) → P (.copy top cells))
    (atom : ∀ v, P (.atom v)) (cell : ∀ a, P (.cell a)) : ∀ (ls : List Linked), ∀ l ∈ ls, P l
  | [], _, hl => nomatch hl
  | m :: ls, l, hl => (List.mem_cons.mp hl).elim
      (fun h => h ▸ members_induction map list tuple copy atom cell m)
      (fun h => members_induction_items map list tuple copy atom cell ls l h)

end

/-- What is done apart starts from its own cells, and leaves the others as they are. -/
theorem run_apart {m : Type → Type} [Monad m] [LawfulMonad m] {α : Type} (inner : Cells)
    (x : StateT Cells m α) (cells : Cells) :
    (apart inner x).run cells = (fun out => (out, cells)) <$> x.run inner := by
  simp [apart, getThe]

/-- **A copy** is changed with its own cells. -/
theorem update_copy {m : Type → Type} [Monad m] [LawfulMonad m] [MonadStateOf Cells m]
    (change : Linked → m Linked) (top : Linked) (inner : Cells) :
    (copy top inner).update change = (fun out => copy out.1 out.2) <$> apart inner (change top) :=
  (map_eq_pure_bind _ _).symm

/-- **A container that is kept in a cell** is changed there. -/
theorem update_cell {m : Type → Type} [Monad m] [MonadStateOf Cells m]
    (change : Linked → m Linked) (a : Nat) : (cell a).update change = (do
      let cells ← getThe Cells
      cells[a]?.elim (pure (.atom .null)) fun l => do
        let l ← change l
        modifyThe Cells (·.set a l)
        return .cell a) := by
  refine bind_congr (fun cells => ?_)
  cases cells[a]? with
  | none => rfl
  | some l => rfl

theorem run_update_cell (change : Linked → StateM Cells Linked) (a : Nat) (cells : Cells) :
    ((cell a).update change).run cells = cells[a]?.elim (.atom .null, cells) fun l =>
      (.cell a, ((change l).run cells).2.set a ((change l).run cells).1) := by
  rw [update_cell]
  show (Option.elim cells[a]? _ _ : StateM Cells Linked) cells = _
  cases cells[a]? with
  | none => rfl
  | some l => rfl

section Values

variable {inCell : Nat → Value}

theorem readers_eq_map : ∀ ls : List Linked,
    readers ls = ls.map fun l inCell => valueWith inCell l
  | [] => rfl
  | l :: ls => congrArg ((fun inCell => valueWith inCell l) :: ·) (readers_eq_map ls)

/-- A cell is read by reading what it holds. -/
theorem cellValue_succ (cells : Cells) (depth a : Nat) :
    cellValue cells (depth + 1) a = (cells.content a).valueWith (cellValue cells depth) := by
  show (readers cells).getD a (fun _ => Value.null) (cellValue cells depth) = _
  unfold Cells.content
  rw [readers_eq_map, List.getD_eq_getElem?_getD, List.getElem?_map,
    List.getD_eq_getElem?_getD]
  cases cells[a]? <;> rfl

theorem valuesWith_eq_map : ∀ ls : List Linked,
    valuesWith inCell ls = ls.map (valueWith inCell)
  | [] => rfl
  | l :: ls => congrArg (valueWith inCell l :: ·) (valuesWith_eq_map ls)

theorem entriesWith_eq_map : ∀ es : List (Value × Linked),
    entriesWith inCell es = es.map fun e => (e.1, valueWith inCell e.2)
  | [] => rfl
  | (k, l) :: es => congrArg ((k, valueWith inCell l) :: ·) (entriesWith_eq_map es)

variable {p : Value → Bool}

/-- A test holds everywhere in the value of a list if it holds everywhere in the values of its
items. -/
theorem everywhere_list_iff {ls : List Linked} (hp : ∀ vs, p (.list vs) = true) :
    ((list ls).valueWith inCell).everywhere p = true ↔
      ∀ l ∈ ls, (l.valueWith inCell).everywhere p = true := by
  rw [valueWith, valuesWith_eq_map, Value.everywhere_list, and_iff_right (hp _),
    List.forall_mem_map]

theorem everywhere_map_iff {es : List (Value × Linked)} (hp : ∀ es, p (.map es) = true) :
    ((map es).valueWith inCell).everywhere p = true ↔
      ∀ e ∈ es, (e.2.valueWith inCell).everywhere p = true := by
  rw [valueWith, entriesWith_eq_map, Value.everywhere_map, and_iff_right (hp _),
    List.forall_mem_map]

end Values

/-! ## Clean values -/

/-- **Whether a linked value holds no mark.** -/
def IsClean (l : Linked) (cells : Cells) : Prop :=
  ∀ depth, (l.valueWith (cellValue cells depth)).everywhere Value.isPresent = true

section Clean

variable {l m : Linked} {cells : Cells} {a : Nat}

theorem isClean_atom {v : Value} (hleaf : v.isContainer = false) (hv : v ≠ .absent)
    (cells : Cells) : (atom v).IsClean cells := by
  intro depth
  show v.everywhere Value.isPresent = true
  cases v <;> first | rfl | exact absurd rfl hv | cases hleaf

theorem isClean_null (cells : Cells) : (atom .null).IsClean cells := fun _ => rfl

theorem isClean_tuple (ls : List Linked) (cells : Cells) : (tuple ls).IsClean cells := fun _ => rfl

theorem isClean_list {ls : List Linked} :
    (list ls).IsClean cells ↔ ∀ l ∈ ls, l.IsClean cells := by
  constructor
  · exact fun h l hl depth => (everywhere_list_iff (fun _ => rfl)).mp (h depth) l hl
  · exact fun h depth => (everywhere_list_iff (fun _ => rfl)).mpr (fun l hl => h l hl depth)

theorem isClean_map {es : List (Value × Linked)} :
    (map es).IsClean cells ↔ ∀ e ∈ es, e.2.IsClean cells := by
  constructor
  · exact fun h e he depth => (everywhere_map_iff (fun _ => rfl)).mp (h depth) e he
  · exact fun h depth => (everywhere_map_iff (fun _ => rfl)).mpr (fun e he => h e he depth)

/-- A copy is clean if it is with its own cells, whatever others there are. -/
theorem isClean_copy {top : Linked} {inner : Cells} (h : top.IsClean inner) (cells : Cells) :
    (copy top inner).IsClean cells := fun _ => h inner.length

/-- The values of cells decide whether a value that is read from them has a mark. -/
theorem everywhere_of_cells {inCell : Nat → Value} (inCells : Nat → Nat → Value)
    (hcell : ∀ a, (∀ depth, (inCells depth a).everywhere Value.isPresent = true) →
      (inCell a).everywhere Value.isPresent = true)
    (hm : ∀ depth, (m.valueWith (inCells depth)).everywhere Value.isPresent = true) :
    (m.valueWith inCell).everywhere Value.isPresent = true := by
  induction m using members_induction with
  | map es ih =>
    refine (everywhere_map_iff (fun _ => rfl)).mpr (fun e he => ih e he (fun depth => ?_))
    exact (everywhere_map_iff (fun _ => rfl)).mp (hm depth) e he
  | list ls ih =>
    refine (everywhere_list_iff (fun _ => rfl)).mpr (fun l hl => ih l hl (fun depth => ?_))
    exact (everywhere_list_iff (fun _ => rfl)).mp (hm depth) l hl
  | atom v => exact hm 0
  | tuple ls => rfl
  | copy top inner => exact hm 0
  | cell a => exact hcell a hm

theorem content_set {b : Nat} (ha : a < cells.length) :
    (Cells.content (cells.set a l) b) = if a = b then l else cells.content b := by
  unfold Cells.content
  rw [List.getD_eq_getElem?_getD, List.getElem?_set, List.getD_eq_getElem?_getD]
  split <;> rfl

/-- **What is clean stays clean** when a cell is given something clean. -/
theorem IsClean.set (hl : l.IsClean cells) (hm : m.IsClean cells) (a : Nat) :
    m.IsClean (cells.set a l) := by
  by_cases ha : a < cells.length
  case neg => rwa [List.set_eq_of_length_le (Nat.le_of_not_lt ha)]
  intro depth
  refine everywhere_of_cells (cellValue cells) (fun b hb => ?_) hm
  -- a cell that is read to some depth holds what is clean, the new content or the old one
  induction depth generalizing b with
  | zero => rfl
  | succ depth ih =>
    rw [cellValue_succ, content_set ha]
    refine everywhere_of_cells (cellValue cells) ih (fun depth => ?_)
    split
    · exact hl depth
    · rw [← cellValue_succ]
      exact hb (depth + 1)

theorem IsClean.cell_set (hl : l.IsClean cells) (ha : a < cells.length) :
    (cell a).IsClean (cells.set a l) := by
  intro depth
  cases depth with
  | zero => rfl
  | succ depth =>
    rw [valueWith, cellValue_succ, content_set ha, if_pos rfl]
    exact hl.set hl a depth

end Clean

end Linked

/-! ## Sound values -/

/-- **A test that only what is foreign can fail.** -/
def Value.TestsForeign (f : Value → Bool) : Prop := ∀ v : Value, v.isForeign = false → f v = true

/-- Whether a value is no tuple. -/
def Value.isUntupled : Value → Bool
  | .tuple _ => false
  | _ => true

namespace Linked

/-- Whether a linked value may be what a cell holds: no address, no copy and no mark. -/
def isBody : Linked → Bool
  | .cell _ | .copy _ _ | .atom .absent => false
  | _ => true

/-- **Whether the leaves of a linked value pass a test.** A tuple is a leaf, whatever is in the
cells that there may be in it. -/
inductive Sound (f : Value → Bool) : Linked → Prop
  | atom {v : Value} (hleaf : v.isContainer = false) (h : f v = true) : Sound f (.atom v)
  | list {ls : List Linked} (h : ∀ l ∈ ls, Sound f l) : Sound f (.list ls)
  | tuple {ls : List Linked} (h : ∀ inCell, f ((Linked.tuple ls).valueWith inCell) = true) :
    Sound f (.tuple ls)
  | map {es : List (Value × Linked)} (h : ∀ e ∈ es, Sound f e.2) : Sound f (.map es)
  | cell (a : Nat) : Sound f (.cell a)
  | copy {top : Linked} {inner : Cells} (htop : Sound f top) (hbody : top.isBody = true)
    (h : ∀ l ∈ inner, Sound f l) (hbodies : ∀ l ∈ inner, l.isBody = true) :
    Sound f (.copy top inner)

/-- **What a cell may hold.** -/
structure Held (f : Value → Bool) (l : Linked) : Prop where
  sound : l.Sound f
  isBody : l.isBody = true

end Linked

/-- **Cells all of which hold what a cell may hold.** -/
def Cells.Good (f : Value → Bool) (cells : Cells) : Prop := ∀ l ∈ cells, l.Held f

namespace Linked

section Sound

variable {f : Value → Bool} {l : Linked} {cells : Cells}

/-- **What may become of a linked value**: something sound, and something that a cell may hold if
the value is. -/
structure MayBecome (f : Value → Bool) (l l' : Linked) : Prop where
  sound : l'.Sound f
  isBody : l.isBody = true → l'.isBody = true

theorem ne_absent_of_isBody (h : l.isBody = true) : l ≠ .atom .absent := by
  rintro rfl
  cases h

/-- What is in a sound copy. -/
theorem Sound.held_of_copy {top : Linked} {inner : Cells} (h : (Linked.copy top inner).Sound f) :
    top.Held f ∧ inner.Good f := by
  cases h with
  | copy htop hbody h hbodies => exact ⟨⟨htop, hbody⟩, fun l hl => ⟨h l hl, hbodies l hl⟩⟩

/-- A copy of what a cell may hold, with such cells. -/
theorem sound_copy {top : Linked} {inner : Cells} (htop : top.Held f) (hinner : inner.Good f) :
    (Linked.copy top inner).Sound f :=
  .copy htop.sound htop.isBody (fun l hl => (hinner l hl).sound) (fun l hl => (hinner l hl).isBody)

/-- A value without links is sound if it passes the test everywhere. -/
theorem sound_unshared {v : Value} (h : v.everywhere f = true) : v.unshared.Sound f := by
  induction v using Value.members_induction with
  | map es ih =>
    rw [Value.unshared_map]
    refine .map (fun e he => ?_)
    obtain ⟨e', he', rfl⟩ := List.mem_map.mp he
    exact ih e' he' ((Value.everywhere_map.mp h).2 e' he')
  | list vs ih =>
    rw [Value.unshared_list]
    refine .list (fun l hl => ?_)
    obtain ⟨v, hv, rfl⟩ := List.mem_map.mp hl
    exact ih v hv ((Value.everywhere_list.mp h).2 v hv)
  | other v hleaf =>
    cases v with
    | map es => cases hleaf
    | list vs => cases hleaf
    | tuple vs =>
      rw [Value.unshared_tuple]
      refine .tuple (fun inCell => ?_)
      rw [valueWith, Value.valuesWith_unshared]
      exact h
    | _ => exact .atom rfl h

variable (hf : Value.TestsForeign f)

include hf

theorem sound_null : (atom .null).Sound f := .atom rfl (hf _ rfl)

theorem sound_absent : (atom .absent).Sound f := .atom rfl (hf _ rfl)

theorem held_content (hcells : cells.Good f) (a : Nat) : (cells.content a).Held f := by
  unfold Cells.content
  rw [List.getD_eq_getElem?_getD]
  cases hget : cells[a]? with
  | none => exact ⟨sound_null hf, rfl⟩
  | some m => exact hcells m (List.mem_of_getElem? hget)

/-- Cells are read to some depth where what they hold can be read. -/
theorem everywhere_cellValue (h : ∀ a inCell, (∀ a, (inCell a).everywhere f = true) →
    ((cells.content a).valueWith inCell).everywhere f = true) (depth a : Nat) :
    (cellValue cells depth a).everywhere f = true := by
  induction depth generalizing a with
  | zero => exact hf .null rfl
  | succ depth ih =>
    rw [cellValue_succ]
    exact h a _ ih

/-- **What is read from sound cells** passes the test of leaves everywhere. -/
theorem Sound.everywhere_valueWith (h : l.Sound f) {inCell : Nat → Value}
    (hcell : ∀ a, (inCell a).everywhere f = true) : (l.valueWith inCell).everywhere f = true := by
  induction h generalizing inCell with
  | @atom v hleaf h =>
    show v.everywhere f = true
    cases v <;> first | exact h | cases hleaf
  | list _ ih =>
    exact (everywhere_list_iff (fun vs => hf (.list vs) rfl)).mpr (fun l hl => ih l hl hcell)
  | tuple h => exact h inCell
  | map _ ih =>
    exact (everywhere_map_iff (fun es => hf (.map es) rfl)).mpr (fun e he => ih e he hcell)
  | cell => exact hcell _
  | copy _ _ _ _ ihtop ih =>
    refine ihtop (everywhere_cellValue hf (fun a inCell hcell => ?_) _)
    unfold Cells.content
    rw [List.getD_eq_getElem?_getD]
    generalize hget : (_ : Cells)[a]? = found
    cases found with
    | none => exact hf .null rfl
    | some m => exact ih m (List.mem_of_getElem? hget) hcell

theorem everywhere_value (hcells : cells.Good f) (h : l.Sound f) :
    (l.value cells).everywhere f = true := by
  refine h.everywhere_valueWith hf (everywhere_cellValue hf (fun a inCell hcell => ?_) _)
  exact (held_content hf hcells a).sound.everywhere_valueWith hf hcell

end Sound

end Linked

/-! ## Copies of defaults -/

namespace Value

variable {f : Value → Bool} {address? : Path → Option Nat}

/-- **A default whose leaves pass a test**, none of them a tuple, unless the test says nothing. -/
structure Untupled (f : Value → Bool) (v : Value) : Prop where
  untupled : v.everywhere isUntupled = true ∨ ∀ w, f w = true
  leaves : v.everywhere f = true

theorem Untupled.entry {es : List (Value × Value)} (h : Untupled f (map es)) {e : Value × Value}
    (he : e ∈ es) : Untupled f e.2 :=
  ⟨h.untupled.imp_left (fun h => (everywhere_map.mp h).2 e he), (everywhere_map.mp h.leaves).2 e he⟩

theorem Untupled.item {vs v} (h : Untupled f (list vs)) (hv : v ∈ vs) : Untupled f v :=
  ⟨h.untupled.imp_left (fun h => (everywhere_list.mp h).2 v hv),
    (everywhere_list.mp h.leaves).2 v hv⟩

/-- Everything passes a test that says nothing. -/
theorem untupled_of_trivial (hf : ∀ w, f w = true) (v : Value) : Untupled f v :=
  ⟨.inr hf, everywhere_iff.mpr (fun _ w _ => hf w)⟩

/-- A part of a default is like the default. -/
theorem Untupled.at? {v w : Value} {path : Path} (h : Untupled f v) (hw : v.at? path = some w) :
    Untupled f w := by
  induction path generalizing v with
  | nil =>
    cases hw
    exact h
  | cons key path ih =>
    cases v with
    | map es =>
      obtain ⟨u, hu, hw⟩ := Option.bind_eq_some_iff.mp hw
      obtain ⟨k, hk⟩ := mem_of_entry? hu
      exact ih (h.entry hk) hw
    | list vs =>
      obtain ⟨i, -, hw⟩ := Option.bind_eq_some_iff.mp hw
      obtain ⟨u, hu, hw⟩ := Option.bind_eq_some_iff.mp hw
      exact ih (h.item (List.mem_of_getElem? hu)) hw
    | tuple vs =>
      rcases h.untupled with h | h
      · cases h
      · exact untupled_of_trivial h w
    | _ => cases hw

theorem sound_elim {l : Linked} (hl : l.Sound f) (path : Path) :
    ((address? path).elim l .cell).Sound f := by
  cases address? path with
  | none => exact hl
  | some a => exact .cell a

theorem sound_linkedItems {vs : List Value} (h : ∀ v ∈ vs, ∀ path, (v.linked address? path).Sound f)
    (path : Path) (index : Nat) : ∀ l ∈ linkedItems address? path index vs, l.Sound f := by
  induction vs generalizing index with
  | nil => exact nofun
  | cons v vs ih =>
    rw [List.forall_mem_cons] at h
    exact List.forall_mem_cons.mpr ⟨sound_elim (h.1 _) _, ih h.2 (index + 1)⟩

theorem sound_linkedEntries {es : List (Value × Value)}
    (h : ∀ e ∈ es, ∀ path, (e.2.linked address? path).Sound f) (path : Path) :
    ∀ e ∈ linkedEntries address? path es, e.2.Sound f := by
  induction es with
  | nil => exact nofun
  | cons e es ih =>
    rw [List.forall_mem_cons] at h
    exact List.forall_mem_cons.mpr ⟨sound_elim (h.1 _) _, ih h.2⟩

theorem Untupled.sound_linked {v : Value} (h : Untupled f v) (path : Path) :
    (v.linked address? path).Sound f := by
  induction v using members_induction generalizing path with
  | map es ih => exact .map (sound_linkedEntries (fun e he => ih e he (h.entry he)) path)
  | list vs ih => exact .list (sound_linkedItems (fun v hv => ih v hv (h.item hv)) path 0)
  | other v hleaf =>
    cases v with
    | map es => cases hleaf
    | list vs => cases hleaf
    | tuple vs =>
      rcases h.untupled with h | h
      · cases h
      · exact .tuple (fun inCell => h _)
    | _ => exact .atom rfl h.leaves

/-- **What the cells of a default hold** to begin with. -/
theorem Untupled.held_body (hf : TestsForeign f) {v : Value} (h : Untupled f v) (path : Path) :
    (v.body address? path).Held f := by
  unfold body
  cases hw : v.at? path with
  | none => exact ⟨Linked.sound_null hf, rfl⟩
  | some w =>
    have hw : (w.linked address? path).Sound f := (h.at? hw).sound_linked path
    cases w with
    | list vs => exact ⟨hw, rfl⟩
    | tuple vs => exact ⟨hw, rfl⟩
    | map es => exact ⟨hw, rfl⟩
    | _ => exact ⟨Linked.sound_null hf, rfl⟩

end Value

/-! ## Marking -/

/-- **A computation that keeps cells good** and takes none away, and what it gives. -/
def Cells.Keeps {α : Type} (f : Value → Bool) (x : StateM Cells α) (Q : α → Prop) : Prop :=
  ∀ cells : Cells, cells.Good f → Cells.Good f (x.run cells).2 ∧
    cells.length ≤ (x.run cells).2.length ∧ Q (x.run cells).1

namespace Cells.Keeps

variable {α β : Type} {f : Value → Bool} {Q : α → Prop} {R : β → Prop}

theorem pure {a : α} (h : Q a) : Keeps f (Pure.pure a) Q := fun _ hcells => ⟨hcells, le_rfl, h⟩

theorem mono {x : StateM Cells α} {Q' : α → Prop} (hx : Keeps f x Q) (h : ∀ a, Q a → Q' a) :
    Keeps f x Q' := fun cells hcells =>
  let ⟨hgood, hlength, ha⟩ := hx cells hcells
  ⟨hgood, hlength, h _ ha⟩

theorem bind {x : StateM Cells α} {k : α → StateM Cells β} (hx : Keeps f x Q)
    (hk : ∀ a, Q a → Keeps f (k a) R) : Keeps f (x >>= k) R := fun cells hcells =>
  let ⟨hgood, hlength, ha⟩ := hx cells hcells
  let ⟨hgood', hlength', hb⟩ := hk _ ha _ hgood
  ⟨hgood', hlength.trans hlength', hb⟩

theorem map {x : StateM Cells α} (hx : Keeps f x Q) {g : α → β} (hg : ∀ a, Q a → R (g a)) :
    Keeps f (g <$> x) R := by
  rw [map_eq_pure_bind]
  exact hx.bind (fun a ha => pure (hg a ha))

/-- Whatever is read of the cells. -/
theorem get {x : Cells → StateM Cells α} (h : ∀ cells, Keeps f (x cells) Q) :
    Keeps f (MonadState.get >>= x) Q := fun cells hcells => h cells cells hcells

theorem mapM {ls : List α} {x : α → StateM Cells β} (h : ∀ a ∈ ls, Keeps f (x a) R) :
    Keeps f (ls.mapM x) (fun bs => ∀ b ∈ bs, R b) := by
  induction ls with
  | nil => exact pure nofun
  | cons a ls ih =>
    rw [List.forall_mem_cons] at h
    rw [List.mapM_cons]
    exact h.1.bind (fun b hb => (ih h.2).bind (fun bs hbs =>
      pure (List.forall_mem_cons.mpr ⟨hb, hbs⟩)))

/-- **Changing a container where it is kept** keeps cells good, if a cell may hold what becomes of
it. -/
theorem update {change : Linked → StateM Cells Linked} {l : Linked} (hf : Value.TestsForeign f)
    (hl : l.Sound f) (hchange : ∀ m : Linked, m.Sound f → Keeps f (change m) (m.MayBecome f)) :
    Keeps f (l.update change) (l.MayBecome f) := by
  cases l with
  | cell a =>
    intro cells hcells
    have hrun := Linked.run_update_cell change a cells
    cases hget : cells[a]? with
    | none =>
      rw [hget, Option.elim_none] at hrun
      rw [hrun]
      exact ⟨hcells, le_rfl, Linked.sound_null hf, nofun⟩
    | some m =>
      rw [hget, Option.elim_some] at hrun
      have hm := hcells m (List.mem_of_getElem? hget)
      obtain ⟨hcells', hlength, hbecome⟩ := hchange m hm.sound cells hcells
      rw [hrun]
      refine ⟨fun l hl => ?_, hlength.trans List.length_set.ge, .cell a, nofun⟩
      rcases List.mem_or_eq_of_mem_set hl with hl | rfl
      · exact hcells' l hl
      · exact ⟨hbecome.sound, hbecome.isBody hm.isBody⟩
  | copy top inner =>
    intro cells hcells
    obtain ⟨htop, hinner⟩ := hl.held_of_copy
    obtain ⟨hinner', -, hbecome⟩ := hchange top htop.sound inner hinner
    rw [Linked.update_copy, StateT.run_map, Linked.run_apart]
    exact ⟨hcells, le_rfl,
      Linked.sound_copy ⟨hbecome.sound, hbecome.isBody htop.isBody⟩ hinner', nofun⟩
  | _ => exact hchange _ hl

end Cells.Keeps

section Marking

open Cells.Keeps

variable {f : Value → Bool}

mutual

theorem Fields.seedLinked_keeps (hf : Value.TestsForeign f) :
    ∀ (fs : List (String × TypeSpec)) (es : List (Value × Linked)), (∀ e ∈ es, e.2.Sound f) →
    Cells.Keeps f (Fields.seedLinked fs es) (fun es' => ∀ e ∈ es', e.2.Sound f)
  | [], es, hes => pure hes
  | (name, t) :: fs, es, hes => by
    have hentry : ((Value.entry? es (.text name)).getD (.atom .absent)).Sound f := by
      cases hget : Value.entry? es (.text name) with
      | none => exact Linked.sound_absent hf
      | some l =>
        obtain ⟨k, hk⟩ := Value.mem_of_entry? hget
        exact hes _ hk
    refine (TypeSpec.seedLinked_keeps hf t _ hentry).bind (fun l hl => ?_)
    refine Fields.seedLinked_keeps hf fs _ (fun e he => ?_)
    rcases Value.mem_setEntry he with he | he
    · exact hes e he
    · rw [he]
      exact hl.sound

/-- **Marking** keeps cells good. -/
theorem TypeSpec.seedLinked_keeps (hf : Value.TestsForeign f) :
    ∀ (t : TypeSpec) (l : Linked), l.Sound f → Cells.Keeps f (t.seedLinked l) (l.MayBecome f)
  | .single n, l, hl => Node.seedLinked_keeps hf n l hl
  | .union n m ns, l, hl => by
    refine get (fun cells => ?_)
    dsimp only
    split
    · split
      · exact Node.seedLinked_keeps hf n l hl
      · split
        · exact Node.seedLinked_keeps hf m l hl
        · exact TypeSpec.seedLinkedAmong_keeps hf ns _ l hl
    · exact pure ⟨hl, id⟩

theorem TypeSpec.seedLinkedAmong_keeps (hf : Value.TestsForeign f) :
    ∀ (ns : List Node) (v : Value) (l : Linked), l.Sound f →
    Cells.Keeps f (TypeSpec.seedLinkedAmong ns v l) (l.MayBecome f)
  | [], _, _, hl => pure ⟨hl, id⟩
  | n :: ns, v, l, hl => by
    rw [TypeSpec.seedLinkedAmong]
    split
    · exact Node.seedLinked_keeps hf n l hl
    · exact TypeSpec.seedLinkedAmong_keeps hf ns v l hl

theorem Node.seedLinked_keeps (hf : Value.TestsForeign f) :
    ∀ (n : Node) (l : Linked), l.Sound f → Cells.Keeps f (n.seedLinked l) (l.MayBecome f)
  | .object _ (.mapping fs), l, hl => by
    refine update hf hl (fun m hm => ?_)
    cases m with
    | map es =>
      have hes : ∀ e ∈ es, e.2.Sound f := by cases hm; assumption
      exact (Fields.seedLinked_keeps hf fs _ hes).map (fun es' hes' => ⟨.map hes', fun _ => rfl⟩)
    | _ => exact pure ⟨hm, id⟩
  | .array _ t _, l, hl => by
    refine update hf hl (fun m hm => ?_)
    cases m with
    | list ls =>
      have hls : ∀ l ∈ ls, l.Sound f := by cases hm; assumption
      refine (mapM (fun l hl => ?_)).map (fun ls' hls' => ⟨.list hls', fun _ => rfl⟩)
      exact (TypeSpec.seedLinked_keeps hf t l (hls l hl)).mono (fun l' hl' => hl'.sound)
    | _ => exact pure ⟨hm, id⟩
  | .object _ (.union ..), _, hl | .string .., _, hl | .number .., _, hl | .boolean .., _, hl
  | .date .., _, hl => pure ⟨hl, id⟩

end

/-- A default is put into cells that hold what they may. -/
theorem Value.Untupled.place_keeps (hf : Value.TestsForeign f) {d : Value} (h : d.Untupled f)
    (s : Sharing) : Cells.Keeps f (d.place s)
      (fun l => l.Sound f ∧ ∃ address?, l = d.linked address? []) := by
  refine fun cells hcells => ⟨fun l hl => ?_, ?_, h.sound_linked [], _, rfl⟩
  swap
  · exact List.length_append.ge.trans' (Nat.le_add_right _ _)
  rcases List.mem_append.mp hl with hl | hl
  · exact hcells l hl
  · obtain ⟨e, -, rfl⟩ := List.mem_map.mp hl
    exact h.held_body hf _

/-- A leaf needs no cells. -/
theorem TypeSpec.copied_leaf (t : TypeSpec) {d : Value} (hleaf : d.isContainer = false)
    (htuple : d.isUntupled = true) (s : Sharing) : t.copied d s = .atom d := by
  have hlinked : ∀ address?, d.linked address? [] = .atom d := by
    intro address?
    cases d <;> first | rfl | (cases hleaf; done) | cases htuple
  have hseed : t.seedLinked (.atom d) = Pure.pure (Linked.atom d) := by
    have h := t.seedLinked_unshared d
    rw [t.seed_of_leaf hleaf, show d.unshared = .atom d from hlinked _] at h
    exact h
  show ((t.seedLinked (d.linked _ [])).run _).1.packed ((t.seedLinked (d.linked _ [])).run _).2 = _
  rw [hlinked, hseed]
  rfl

/-- **A copy of a default** is sound. -/
theorem TypeSpec.sound_copied (hf : Value.TestsForeign f) (t : TypeSpec) {d : Value}
    (h : d.Untupled f) (s : Sharing) : (t.copied d s).Sound f := by
  by_cases hleaf : d.isContainer = false ∧ d.isUntupled = true
  · rw [t.copied_leaf hleaf.1 hleaf.2]
    exact .atom hleaf.1 (Value.self_of_everywhere h.leaves)
  · have hbody : ∀ address?, (d.linked address? []).isBody = true := by
      intro address?
      cases d <;> first | rfl | exact absurd ⟨rfl, rfl⟩ hleaf
    have hkeeps : Cells.Keeps f (d.place s >>= fun l => t.seedLinked l) (Linked.Held f) := by
      refine (h.place_keeps hf s).bind (fun l hl => ?_)
      obtain ⟨hl, address?, rfl⟩ := hl
      exact (t.seedLinked_keeps hf _ hl).mono (fun l' hl' => ⟨hl'.sound, hl'.isBody (hbody _)⟩)
    obtain ⟨hcells, -, htop⟩ := hkeeps [] (List.forall_mem_nil _)
    show (Linked.packed ((d.place s >>= fun l => t.seedLinked l).run []).1
      ((d.place s >>= fun l => t.seedLinked l).run []).2).Sound f
    generalize ((d.place s >>= fun l => t.seedLinked l).run []).1 = top at htop
    generalize ((d.place s >>= fun l => t.seedLinked l).run []).2 = cells at hcells
    cases cells with
    | nil =>
      rw [top.packed_nil]
      exact htop.sound
    | cons l cells =>
      cases top with
      | atom v => exact htop.sound
      | _ => exact Linked.sound_copy htop hcells

end Marking

end Conform
