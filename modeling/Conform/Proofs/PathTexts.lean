import Conform.Proofs.Findings

/-!
# Reading paths back

A violation names its place by the text of a path, and in general the text does not tell which
keys the path is made of: the integer `0` and the text `"0"` are both written `[0]`, a name with a
dot in it looks like two names, and an empty name at the front leaves nothing behind. Over *legible*
keys this cannot happen. These are the integers that are not negative, and the names that are not
empty, do not look like an index and hold none of the marks `.`, `[` and `]`.

A text is read from its end (`Path.read`), where a key is complete when the mark in front of it is
met. Only the first key may come without a mark, and then the beginning of the text stands for it.
Reading gives back the keys of every legible path (`Path.read_text`), so the texts of two such paths
are different if the paths are, and so are the violations that are reported at them
(`Path.legible_text_eq_iff`).
-/

namespace Conform

/-! ## Legible keys -/

/-- Whether a character sets off a key in the text of a path. -/
def Path.isMark (c : Char) : Bool := c == '.' || c == '[' || c == ']'

/-- **A key that can be read back** from the text of a path. -/
def Value.isLegible : Value → Bool
  | .number (.int n) => decide (0 ≤ n)
  | .text s => s != "" && !(Value.text s).isIndex && s.toList.all (fun c => !Path.isMark c)
  | _ => false

/-- The legible keys are of two sorts. -/
theorem Value.isLegible_iff {key : Value} : key.isLegible = true ↔
    (∃ n : Nat, key = .int n) ∨ ∃ s : String, key = .text s ∧ s ≠ "" ∧
      (Value.text s).isIndex = false ∧ ∀ c ∈ s.toList, Path.isMark c = false := by
  constructor
  · intro h
    unfold isLegible at h
    split at h
    · rename_i n
      exact .inl ⟨n.toNat, by rw [Int.toNat_of_nonneg (of_decide_eq_true h)]⟩
    · rename_i s
      simp only [Bool.and_eq_true, bne_iff_ne, Bool.not_eq_true', List.all_eq_true] at h
      exact .inr ⟨s, rfl, h.1.1, h.1.2, h.2⟩
    · cases h
  · rintro (⟨n, rfl⟩ | ⟨s, rfl, hne, hindex, hmark⟩)
    · exact decide_eq_true (Int.natCast_nonneg n)
    · simpa [isLegible, hne, hindex] using hmark

/-! ## Numerals -/

theorem isDigit_eq (c : Char) : isDigit c = c.isDigit := by
  rw [Bool.eq_iff_iff]
  simp [isDigit, Char.isDigit, Char.le_def]

/-- A numeral has no mark in it. -/
theorem Path.isMark_of_mem_repr {n : Nat} {c : Char} (h : c ∈ n.repr.toList) :
    Path.isMark c = false := by
  rw [Nat.toList_repr] at h
  have hdigit := Nat.isDigit_of_mem_toDigits (by decide) (by decide) h
  refine Bool.eq_false_iff.mpr (fun hmark => ?_)
  simp only [Path.isMark, Bool.or_eq_true, beq_iff_eq] at hmark
  rcases hmark with (rfl | rfl) | rfl <;> exact absurd hdigit (by decide)

theorem hexDigit?_of_isDigit {c : Char} (h : isDigit c = true) :
    (hexDigit? c).getD 0 = c.toNat - '0'.toNat := by
  have hrange : '0' ≤ c ∧ c ≤ '9' := by simpa [isDigit] using h
  rw [hexDigit?, if_pos hrange, Option.getD_some]
  rfl

/-- **A numeral is read back** as the number that it was written for. -/
theorem decimal_repr (n : Nat) : decimal n.repr.toList = n := by
  have hfold : ∀ (ds : List Char) (m : Nat), (∀ c ∈ ds, isDigit c = true) →
      ds.foldl (fun n c => 10 * n + (hexDigit? c).getD 0) m = Nat.ofDigitChars 10 ds m := by
    intro ds
    induction ds with
    | nil => exact fun _ _ => rfl
    | cons c ds ih =>
      intro m h
      rw [List.forall_mem_cons] at h
      rw [List.foldl_cons, ih _ h.2, hexDigit?_of_isDigit h.1, Nat.ofDigitChars_cons]
  have hdigits : ∀ c ∈ Nat.toDigits 10 n, isDigit c = true := fun c hc =>
    (isDigit_eq c).trans (Nat.isDigit_of_mem_toDigits (by decide) (by decide) hc)
  rw [Nat.toList_repr, decimal, ofDigits, hfold _ _ hdigits]
  exact Nat.ofDigitChars_ten_toDigits

/-! ## Keys behind their marks -/

namespace Path

/-- A key as it stands in a text that has begun. -/
def keyChars (key : Value) : List Char :=
  if key.isIndex then '[' :: (key.plainText.toList ++ [']']) else '.' :: key.plainText.toList

theorem toList_extendText {text : String} (h : text ≠ "") (key : Value) :
    (extendText text key).toList = text.toList ++ keyChars key := by
  by_cases hindex : key.isIndex = true
  · simp [extendText, keyChars, hindex]
  · simp [extendText, keyChars, hindex, h]

/-- **A text that has begun** goes on with the keys behind their marks. -/
theorem toList_foldl_extendText (path : Path) {text : String} (h : text ≠ "") :
    (path.foldl extendText text).toList = text.toList ++ path.flatMap keyChars := by
  induction path generalizing text with
  | nil => simp
  | cons key path ih =>
    have hne : extendText text key ≠ "" := by
      intro hempty
      have htext := toList_extendText h key
      rw [hempty] at htext
      exact h (String.toList_eq_nil_iff.mp (List.append_eq_nil_iff.mp htext.symm).1)
    rw [List.foldl_cons, ih hne, toList_extendText h, List.flatMap_cons, List.append_assoc]

/-- The text of a path that begins with an index. -/
theorem toList_text_of_isIndex {key : Value} (path : Path) (h : key.isIndex = true) :
    (text (key :: path)).toList = (key :: path).flatMap keyChars := by
  have hkey : extendText "" key = String.ofList (keyChars key) := by
    simp [extendText, keyChars, h, String.ofList_cons, String.ofList_append, String.append_assoc]
  have hne : extendText "" key ≠ "" := by
    rw [hkey]
    simp [keyChars, h]
  rw [text, List.foldl_cons, toList_foldl_extendText path hne, hkey, String.toList_ofList,
    List.flatMap_cons]

/-- The text of a path that begins with a name. -/
theorem toList_text_of_name {s : String} (path : Path) (h : (Value.text s).isIndex = false)
    (hne : s ≠ "") : (text (.text s :: path)).toList = s.toList ++ path.flatMap keyChars := by
  have hkey : extendText "" (.text s) = s := by simp [extendText, h, Value.plainText]
  rw [text, List.foldl_cons, hkey, toList_foldl_extendText path hne]

/-! ## Reading -/

/-- Goes on reading with the character before: characters that belong to a key are gathered until
the mark in front of it tells which sort of key it is. -/
def readStep (c : Char) : List Char × Path → List Char × Path
  | (gathered, path) =>
    if c = '.' then ([], .text (String.ofList gathered) :: path)
    else if c = '[' then ([], .int (decimal gathered) :: path)
    else if c = ']' then ([], path)
    else (c :: gathered, path)

/-- **The path that a text names**, read from the end. -/
def read (text : String) : Path :=
  match text.toList.foldr readStep ([], []) with
  | ([], path) => path
  | (gathered, path) => .text (String.ofList gathered) :: path

theorem foldr_readStep {cs : List Char} (h : ∀ c ∈ cs, isMark c = false) (gathered : List Char)
    (path : Path) : cs.foldr readStep (gathered, path) = (cs ++ gathered, path) := by
  induction cs with
  | nil => rfl
  | cons c cs ih =>
    rw [List.forall_mem_cons] at h
    have hc := h.1
    simp only [isMark, Bool.or_eq_false_iff, beq_eq_false_iff_ne] at hc
    rw [List.foldr_cons, ih h.2, readStep, if_neg hc.1.1, if_neg hc.1.2, if_neg hc.2]
    rfl

/-- **The step**: a legible key behind its mark is read back. -/
theorem foldr_keyChars {key : Value} (h : key.isLegible = true) (path : Path) :
    (keyChars key).foldr readStep ([], path) = ([], key :: path) := by
  rcases Value.isLegible_iff.mp h with ⟨n, rfl⟩ | ⟨s, rfl, -, hindex, hmark⟩
  · have hindex : (Value.int n).isIndex = true := decide_eq_true (Int.natCast_nonneg n)
    have htext : (Value.int n).plainText = n.repr := rfl
    rw [keyChars, if_pos hindex, htext, List.foldr_cons, List.foldr_append]
    show readStep '[' (n.repr.toList.foldr readStep ([], path)) = _
    rw [foldr_readStep (fun _ => isMark_of_mem_repr), List.append_nil]
    show ([], Value.int (decimal n.repr.toList) :: path) = _
    rw [decimal_repr]
  · rw [keyChars, if_neg (by simp [hindex]), List.foldr_cons]
    show readStep '.' (s.toList.foldr readStep ([], path)) = _
    rw [foldr_readStep hmark, List.append_nil]
    show ([], Value.text (String.ofList s.toList) :: path) = _
    rw [String.ofList_toList]

theorem foldr_flatMap_keyChars {path : Path} (h : ∀ key ∈ path, key.isLegible = true) :
    (path.flatMap keyChars).foldr readStep ([], []) = ([], path) := by
  induction path with
  | nil => rfl
  | cons key path ih =>
    rw [List.forall_mem_cons] at h
    rw [List.flatMap_cons, List.foldr_append, ih h.2, foldr_keyChars h.1]

/-- **The keys of a legible path** are read back from its text. -/
theorem read_text {path : Path} (h : ∀ key ∈ path, key.isLegible = true) :
    read path.text = path := by
  cases path with
  | nil => rfl
  | cons key path =>
    obtain ⟨hkey, hpath⟩ := List.forall_mem_cons.mp h
    rcases Value.isLegible_iff.mp hkey with ⟨n, rfl⟩ | ⟨s, rfl, hne, hindex, hmark⟩
    · have hindex : (Value.int n).isIndex = true := decide_eq_true (Int.natCast_nonneg n)
      rw [read, toList_text_of_isIndex path hindex, foldr_flatMap_keyChars h]
    · -- the first name has no mark before it and is what remains at the beginning
      rw [read, toList_text_of_name path hindex hne, List.foldr_append,
        foldr_flatMap_keyChars hpath, foldr_readStep hmark, List.append_nil]
      have hchars : s.toList ≠ [] := fun hnil => hne (String.toList_eq_nil_iff.mp hnil)
      split
      · rename_i heq
        exact absurd (congrArg Prod.fst heq) hchars
      · rename_i heq
        obtain ⟨rfl, rfl⟩ := Prod.mk.inj heq
        rw [String.ofList_toList]

end Path

/-! ## Violations -/

namespace Course

/-- **A violation that the visit of a value reports.** -/
def Reports (c : Course) (path : Path) (v : Value) (violation : Violation) : Prop :=
  ∃ t, c.schema.locate path = some t ∧ apply (c.site path) t v = .error (.violation violation)

section Reports

variable {c : Course} {path : Path} {v : Value} {violation : Violation}

/-- The visit has nothing else to say. -/
theorem Reports.visit_eq (h : c.Reports path v violation) :
    c.visit path v = (do c.report violation; return leftOver v) := by
  obtain ⟨t, ht, happly⟩ := h
  unfold visit
  rw [ht]
  dsimp only
  rw [happly]

/-- A violation names the place at which it is reported. -/
theorem Reports.path_eq (h : c.Reports path v violation) : violation.path = path.text := by
  obtain ⟨t, -, happly⟩ := h
  cases portable_apply t v with
  | passes w h =>
    rw [h] at happly
    cases happly
  | fails rule extra h =>
    rw [h] at happly
    cases happly
    rfl
  | stops e hne h =>
    rw [h] at happly
    cases happly
    exact absurd rfl (hne violation)

end Reports

end Course

namespace Path

/-- **Paths are told apart by their texts**, and by the violations that are reported at them, if
their keys are legible. -/
theorem legible_text_eq_iff {path path' : Path} (h : ∀ key ∈ path, key.isLegible = true)
    (h' : ∀ key ∈ path', key.isLegible = true) :
    (path.text = path'.text ↔ path = path') ∧
      ∀ (c : Course) (v v' : Value) (violation violation' : Violation),
        c.Reports path v violation → c.Reports path' v' violation' →
          (violation.path = violation'.path ↔ path = path') := by
  have htext : path.text = path'.text ↔ path = path' := by
    refine ⟨fun heq => ?_, congrArg text⟩
    calc path = read path.text := (read_text h).symm
      _ = read path'.text := by rw [heq]
      _ = path' := read_text h'
  refine ⟨htext, fun c v v' violation violation' hreports hreports' => ?_⟩
  rw [hreports.path_eq, hreports'.path_eq]
  exact htext

/-- Users with an identifier each. -/
def users : Fields :=
  [("users", .single (.array {} (.single (.object {} (.mapping [("id", .single (.number {} {}))])))
    {}))]

theorem legible_text_eq_iff_users :
    Path.text [.text "users", .int 1, .text "id"] ≠ Path.text [.text "users", .int 11] ∧
      ∃ violation violation',
        (⟨.mapping users, {}⟩ : Course).Reports [.text "users", .int 1, .text "id"] .null
          violation ∧
        (⟨.mapping users, {}⟩ : Course).Reports [.text "users", .int 11] (.bool true)
          violation' ∧
        violation.path ≠ violation'.path := by
  have hlegible := @legible_text_eq_iff [.text "users", .int 1, .text "id"]
    [.text "users", .int 11] (by decide) (by decide)
  have hne : ([.text "users", .int 1, .text "id"] : Path) ≠ [.text "users", .int 11] := by simp
  have hnull : (⟨.mapping users, {}⟩ : Course).Reports [.text "users", .int 1, .text "id"] .null
      _ := ⟨_, rfl, rfl⟩
  have htruth : (⟨.mapping users, {}⟩ : Course).Reports [.text "users", .int 11] (.bool true)
      _ := ⟨_, rfl, rfl⟩
  exact ⟨fun h => hne (hlegible.1.mp h), _, _, hnull, htruth,
    fun h => hne ((hlegible.2 _ _ _ _ _ hnull htruth).mp h)⟩

/-- A name with a mark in it is not legible: its text is that of a longer path. -/
example : Path.text [.text "id.short"] = Path.text [.text "id", .text "short"] := by decide

end Path

end Conform
