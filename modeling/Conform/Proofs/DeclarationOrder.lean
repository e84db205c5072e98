import Mathlib.Data.List.Nodup
import Mathlib.Data.List.Perm.Subperm
import Mathlib.Data.List.Forall2
import Conform.Export.Declaration

/-!
# The order of declarations

A module of declarations can be run from its top to its bottom only if a name is defined before it
is used, and defined once. That each rendering keeps to this is not visible in its steps. The names
are made by putting texts together, so different places in a schema ask for the same name; and a
class takes its name before the classes that its fields refer to do, while its block comes after
theirs.

What a rendering leaves behind is therefore told in terms of *blocks* (`Block`), of which the module
keeps the texts only. They are in the order of the parts of the schema (`Schema.parts`), inner ones
first, and a block may refer to earlier ones only (`Block.StandsAfter`). The invariant of a
rendering is that its blocks define the names that it has taken, in some order, and that no name is
taken twice (`Render.Added`).
-/

namespace Conform

/-! ## Fresh names -/

/-- The name that is tried after some others: the name itself, then with a number from two on. -/
def attempt (name : String) : Nat → String
  | 0 => name
  | tried + 1 => name ++ (tried + 2).repr

theorem attempt_succ_ne (name : String) (i : Nat) : attempt name (i + 1) ≠ name := by
  simp [attempt]

/-- All names that are tried are different. -/
theorem attempt_inj {name : String} {i j : Nat} (h : attempt name i = attempt name j) : i = j := by
  cases i with
  | zero =>
    cases j with
    | zero => rfl
    | succ j => exact absurd h.symm (attempt_succ_ne name j)
  | succ i =>
    cases j with
    | zero => exact absurd h (attempt_succ_ne name i)
    | succ j =>
      have hrepr : (i + 2).repr = (j + 2).repr := (String.append_right_inj name).mp h
      have hdigits : Nat.toDigits 10 (i + 2) = Nat.toDigits 10 (j + 2) := by
        rw [← Nat.toList_repr, ← Nat.toList_repr, hrepr]
      have hnumber := congrArg (fun ds => Nat.ofDigitChars 10 ds 0) hdigits
      simp only [Nat.ofDigitChars_ten_toDigits] at hnumber
      omega

/-- Among the first names that are tried there is one that is free: there are more of them than
names that are taken. -/
theorem exists_attempt_not_mem (taken : List String) (name : String) :
    ∃ i ≤ taken.length, attempt name i ∉ taken := by
  by_contra hall
  push Not at hall
  have hnodup : ((List.range (taken.length + 1)).map (attempt name)).Nodup :=
    List.nodup_range.map (fun _ _ => attempt_inj)
  have hsubset : (List.range (taken.length + 1)).map (attempt name) ⊆ taken := by
    intro s hs
    obtain ⟨i, hi, rfl⟩ := List.mem_map.mp hs
    exact hall i (Nat.lt_succ_iff.mp (List.mem_range.mp hi))
  have hlength := (hnodup.subperm hsubset).length_le
  rw [List.length_map, List.length_range] at hlength
  omega

/-- **The fresh name** is the first that is free of those that are tried one after the other, and it
is found. -/
theorem freshName_eq_attempt (taken : List String) (name : String) :
    ∃ rounds ≤ taken.length, freshName taken name = attempt name rounds ∧
      attempt name rounds ∉ taken ∧ ∀ i < rounds, attempt name i ∈ taken := by
  obtain ⟨i, hi, hfree⟩ := exists_attempt_not_mem taken name
  have htried : name :: (List.range taken.length).map (fun i => name ++ (i + 2).repr) =
      (List.range (taken.length + 1)).map (attempt name) := by
    rw [List.range_succ_eq_map, List.map_cons, List.map_map]
    rfl
  cases hfind : (List.range (taken.length + 1)).find? (fun i => !taken.contains (attempt name i))
    with
  | none =>
    have htaken := List.find?_eq_none.mp hfind i (List.mem_range.mpr (Nat.lt_succ_of_le hi))
    simp [hfree] at htaken
  | some rounds =>
    obtain ⟨hfree, hmem, hbefore⟩ := List.find?_range_eq_some.mp hfind
    refine ⟨rounds, Nat.lt_succ_iff.mp (List.mem_range.mp hmem), ?_, by simpa using hfree,
      fun j hj => by simpa using hbefore j hj⟩
    unfold freshName
    dsimp only
    rw [htried, List.find?_map]
    exact congrArg (fun found => (found.map (attempt name)).getD name) hfind

theorem freshName_not_mem (taken : List String) (name : String) : freshName taken name ∉ taken := by
  obtain ⟨rounds, -, heq, hfree, -⟩ := freshName_eq_attempt taken name
  rwa [heq]

/-! ## Blocks -/

mutual
/-- **The parts of a schema that are declared**: its mappings and unions, inner ones first. -/
def Schema.parts : Schema → List Schema
  | .mapping fs => Fields.parts fs ++ [.mapping fs]
  | .union fs gs hs =>
    (Fields.parts fs ++ [.mapping fs]) ++ ((Fields.parts gs ++ [.mapping gs]) ++
      Schema.memberParts hs) ++ [.union fs gs hs]

/-- The parts of some members of a union. -/
def Schema.memberParts : List (List (String × TypeSpec)) → List Schema
  | [] => []
  | fs :: hs => (Fields.parts fs ++ [.mapping fs]) ++ Schema.memberParts hs

/-- The parts of the types of fields. -/
def Fields.parts : List (String × TypeSpec) → List Schema
  | [] => []
  | (_, t) :: fs => TypeSpec.parts t ++ Fields.parts fs

/-- The parts of a type. -/
def TypeSpec.parts : TypeSpec → List Schema
  | .single n => Node.parts n
  | .union n m ns => Node.parts n ++ (Node.parts m ++ TypeSpec.candidateParts ns)

/-- The parts of some candidates. -/
def TypeSpec.candidateParts : List Node → List Schema
  | [] => []
  | n :: ns => Node.parts n ++ TypeSpec.candidateParts ns

/-- The parts of a node. -/
def Node.parts : Node → List Schema
  | .object _ s => Schema.parts s
  | .array _ t _ => TypeSpec.parts t
  | _ => []
end

open Declaration

/-- **A block**: the part of a schema that it declares, the name that it defines for it, and its
text. -/
structure Declaration.Block where
  schema : Schema
  name : String
  text : String

/-- **A schema goes by a name** that one of some blocks defines for it. -/
def Schema.GoesBy (blocks : List Block) (s : Schema) (name : String) : Prop :=
  ∃ b ∈ blocks, b.schema = s ∧ b.name = name

mutual

/-- **An expression stands for a node**, after some blocks: the names in it are names that these
blocks define for the schemas in the node. -/
inductive Node.Expressed (blocks : List Block) : Node → String → Prop
  | string (p : Presence String) (r : StringRules) :
    Node.Expressed blocks (.string p r) (withNull (.string p r) (ofString r))
  | number (p : Presence Number) (r : NumberRules) :
    Node.Expressed blocks (.number p r) (withNull (.number p r) (ofNumber r))
  | boolean (p : Presence Bool) :
    Node.Expressed blocks (.boolean p) (withNull (.boolean p) "bool")
  | date (p : Presence String) (r : DateRules) :
    Node.Expressed blocks (.date p r) (withNull (.date p r) "datetime")
  | object {p : Presence (List (String × Value))} {s : Schema} {name : String}
    (h : s.GoesBy blocks name) :
    Node.Expressed blocks (.object p s) (withNull (.object p s) name)
  | array {p : Presence (List Value)} {t : TypeSpec} {c : ItemCount} {e : String}
    (h : TypeSpec.Expressed blocks t e) :
    Node.Expressed blocks (.array p t c) (withNull (.array p t c) ("list[" ++ e ++ "]"))

/-- An expression stands for a type, after some blocks. -/
inductive TypeSpec.Expressed (blocks : List Block) : TypeSpec → String → Prop
  | single {n : Node} {e : String} (h : Node.Expressed blocks n e) :
    TypeSpec.Expressed blocks (.single n) e
  | union {n m : Node} {ns : List Node} {es : List String}
    (h : TypeSpec.CandidatesExpressed blocks (n :: m :: ns) es) :
    TypeSpec.Expressed blocks (.union n m ns) (ofCandidates es)

/-- Expressions stand for some candidates, one by one. -/
inductive TypeSpec.CandidatesExpressed (blocks : List Block) : List Node → List String → Prop
  | nil : TypeSpec.CandidatesExpressed blocks [] []
  | cons {n : Node} {e : String} {ns : List Node} {es : List String}
    (h : Node.Expressed blocks n e) (hns : TypeSpec.CandidatesExpressed blocks ns es) :
    TypeSpec.CandidatesExpressed blocks (n :: ns) (e :: es)

end

/-- The fields of a class are expressed one by one, and those that may be missing are marked. -/
def Fields.Expressed (blocks : List Block) (fs : Fields) (rendered : List (String × String)) :
    Prop :=
  List.Forall₂ (fun f r => ∃ e, f.2.Expressed blocks e ∧
    r = (f.1, withAbsence (isOptional f.2) e)) fs rendered

/-- The members of a union go by some names. -/
def Schema.MembersGoBy (blocks : List Block) (ms : List Fields) (names : List String) : Prop :=
  List.Forall₂ (fun fs name => (Schema.mapping fs).GoesBy blocks name) ms names

namespace Declaration.Block

/-- **A block that can stand after some others**: it has the text of a class or of an alias, and the
names that it refers to are names that these blocks define. -/
inductive StandsAfter (earlier : List Block) : Block → Prop
  | mapping {fs : Fields} {className : String} {rendered : List (String × String)}
    (h : fs.Expressed earlier rendered) :
    StandsAfter earlier ⟨.mapping fs, className, mappingBlock className rendered⟩
  | union {fs gs : Fields} {hs : List Fields} {unionName : String} {variants : List String}
    (h : Schema.MembersGoBy earlier (fs :: gs :: hs) variants) :
    StandsAfter earlier ⟨.union fs gs hs, unionName, unionBlock unionName variants⟩

/-- Blocks of which each can stand after those before it, the first of them after `earlier`. -/
def Ordered : (earlier : List Block) → List Block → Prop
  | _, [] => True
  | earlier, b :: blocks => b.StandsAfter earlier ∧ Ordered (earlier ++ [b]) blocks

theorem Ordered.append {earlier blocks more : List Block} (h : Ordered earlier blocks)
    (hmore : Ordered (earlier ++ blocks) more) : Ordered earlier (blocks ++ more) := by
  induction blocks generalizing earlier with
  | nil => rwa [List.append_nil] at hmore
  | cons b blocks ih =>
    refine ⟨h.1, ih h.2 ?_⟩
    rwa [List.append_assoc, List.singleton_append]

theorem Ordered.standsAfter {start earlier later : List Block} {b : Block}
    (h : Ordered start (earlier ++ b :: later)) : b.StandsAfter (start ++ earlier) := by
  induction earlier generalizing start with
  | nil =>
    rw [List.append_nil]
    exact h.1
  | cons c earlier ih =>
    have hb := ih h.2
    rwa [List.append_assoc, List.singleton_append] at hb

end Declaration.Block

/-! ## What a rendering adds -/

namespace Render

variable {α β : Type}

/-- **The blocks that are added** between two states: the names that are taken in the meantime are
those that the blocks define, and no name is taken twice. -/
structure Added (state state' : DeclarationState) (blocks : List Block) : Prop where
  texts : state'.blocks = state.blocks ++ blocks.map Block.text
  names : state'.names.Perm (state.names ++ blocks.map Block.name)
  nodup : state.names.Nodup → state'.names.Nodup
  ordered : ∀ earlier, Block.Ordered earlier blocks

theorem added_nil (state : DeclarationState) : Added state state [] where
  texts := by simp
  names := by simp
  nodup := id
  ordered _ := trivial

theorem Added.append {state state' state'' : DeclarationState} {blocks more : List Block}
    (h : Added state state' blocks) (hmore : Added state' state'' more) :
    Added state state'' (blocks ++ more) where
  texts := by rw [hmore.texts, h.texts, List.map_append, List.append_assoc]
  names := by
    rw [List.map_append, ← List.append_assoc]
    exact hmore.names.trans (h.names.append_right _)
  nodup hstate := hmore.nodup (h.nodup hstate)
  ordered earlier := (h.ordered earlier).append (hmore.ordered _)

/-- **A block comes after those that are added while its name is taken already.** -/
theorem Added.concat {state state' : DeclarationState} {blocks : List Block} {b : Block}
    (hfree : b.name ∉ state.names)
    (h : Added { state with names := state.names ++ [b.name] } state' blocks)
    (hb : ∀ earlier, blocks ⊆ earlier → b.StandsAfter earlier) :
    Added state { state' with blocks := state'.blocks ++ [b.text] } (blocks ++ [b]) where
  texts := by
    show state'.blocks ++ [b.text] = _
    rw [h.texts, List.map_append, List.append_assoc]
    rfl
  names := by
    have hswap : ([b.name] ++ blocks.map Block.name).Perm (blocks.map Block.name ++ [b.name]) :=
      List.perm_append_comm
    refine h.names.trans ?_
    rw [List.append_assoc, List.map_append]
    exact hswap.append_left state.names
  nodup hstate := h.nodup (List.nodup_append.mpr ⟨hstate, List.nodup_singleton _,
    fun s hs t ht heq => hfree (List.mem_singleton.mp ht ▸ heq ▸ hs)⟩)
  ordered earlier := (h.ordered earlier).append ⟨hb _ (List.subset_append_right _ _), trivial⟩

/-- **What a rendering adds** to every state: blocks for some parts of a schema. What it gives may
rely on them, wherever they stand. -/
def Adds (m : Render α) (parts : List Schema) (post : List Block → α → Prop) : Prop :=
  ∀ state, ∃ blocks, Added state (m.run state).2 blocks ∧ blocks.map Block.schema = parts ∧
    ∀ all, blocks ⊆ all → post all (m.run state).1

theorem adds_pure {a : α} {post : List Block → α → Prop} (h : ∀ all, post all a) :
    Adds (pure a) [] post := fun state => ⟨[], added_nil state, rfl, fun all _ => h all⟩

theorem Adds.mono {m : Render α} {parts : List Schema} {mid post : List Block → α → Prop}
    (hm : Adds m parts mid) (h : ∀ all a, mid all a → post all a) : Adds m parts post := by
  intro state
  obtain ⟨blocks, hadded, hparts, hmid⟩ := hm state
  exact ⟨blocks, hadded, hparts, fun all hall => h all _ (hmid all hall)⟩

theorem Adds.bind {m : Render α} {f : α → Render β} {parts parts' : List Schema}
    {mid : List Block → α → Prop} {post : List Block → β → Prop} (hm : Adds m parts mid)
    (hf : ∀ a, Adds (f a) parts' (fun all b => mid all a → post all b)) :
    Adds (m >>= f) (parts ++ parts') post := by
  intro state
  obtain ⟨blocks, hadded, hparts, hmid⟩ := hm state
  obtain ⟨more, hmore, hparts', hpost⟩ := hf (m.run state).1 (m.run state).2
  refine ⟨blocks ++ more, hadded.append hmore, by rw [List.map_append, hparts, hparts'],
    fun all hall => ?_⟩
  obtain ⟨hblocks, hmore⟩ := List.append_subset.mp hall
  exact hpost all hmore (hmid all hblocks)

/-- What is made of what a rendering gives. -/
theorem Adds.map {m : Render α} {f : α → β} {parts : List Schema} {mid : List Block → α → Prop}
    {post : List Block → β → Prop} (hm : Adds m parts mid)
    (hf : ∀ all a, mid all a → post all (f a)) :
    Adds (do return f (← m)) parts post := by
  have h := hm.bind (f := fun a => pure (f a)) (fun a => adds_pure (fun all => hf all a))
  rwa [List.append_nil] at h

/-- **A rendering that declares a schema**: the last of the blocks that it adds defines the name
that it gives. -/
def Declares (m : Render String) (s : Schema) : Prop :=
  ∀ state, ∃ blocks b, Added state (m.run state).2 (blocks ++ [b]) ∧
    (blocks ++ [b]).map Block.schema = s.parts ∧ b.schema = s ∧ b.name = (m.run state).1

theorem Declares.adds {m : Render String} {s : Schema} (h : m.Declares s) :
    Adds m s.parts (fun all name => s.GoesBy all name) := by
  intro state
  obtain ⟨blocks, b, hadded, hparts, hschema, hname⟩ := h state
  exact ⟨blocks ++ [b], hadded, hparts, fun all hall =>
    ⟨b, hall (List.mem_append_right _ List.mem_cons_self), hschema, hname⟩⟩

/-- **The step**: a name is taken, what the block refers to is rendered, and the block is added. -/
theorem declares_of_body {body : String → Render α} {text : String → α → String} {s : Schema}
    {parts : List Schema} {post : List Block → α → Prop} (name : String)
    (hparts : s.parts = parts ++ [s]) (hbody : ∀ c, (body c).Adds parts post)
    (hstands : ∀ earlier c a, post earlier a → Block.StandsAfter earlier ⟨s, c, text c a⟩) :
    Declares (do
      let c ← claim name
      let a ← body c
      addBlock (text c a)
      return c) s := by
  intro state
  obtain ⟨blocks, hadded, hschemas, hpost⟩ := hbody (freshName state.names name)
    { state with names := state.names ++ [freshName state.names name] }
  exact ⟨blocks, ⟨s, freshName state.names name, _⟩,
    hadded.concat (freshName_not_mem state.names name)
      (fun earlier hearlier => hstands earlier _ _ (hpost earlier hearlier)),
    by rw [List.map_append, hschemas, hparts]; rfl, rfl, rfl⟩

end Render

/-! ## Whole renderings -/

open Render

/-- The members of a union are rendered one after the other, each as a schema of its own. -/
theorem Schema.declare_union (name : String) (fs gs : Fields) (hs : List Fields) :
    Schema.declare name (.union fs gs hs) = (do
      let unionName ← claim name
      let variants ← (do
        let first ← Schema.declare (name ++ "0") (.mapping fs)
        let second ← Schema.declare (name ++ "1") (.mapping gs)
        let others ← Schema.declareMembers name 2 hs
        return first :: second :: others)
      addBlock (unionBlock unionName variants)
      return unionName) := rfl

theorem Schema.declareMembers_cons (name : String) (index : Nat) (fs : Fields) (hs : List Fields) :
    Schema.declareMembers name index (fs :: hs) = (do
      let className ← Schema.declare (name ++ index.repr) (.mapping fs)
      return className :: (← Schema.declareMembers name (index + 1) hs)) := rfl

/-- A class is declared by its block, after what the types of its fields refer to. -/
theorem Fields.declares_class {fs : Fields} (name : String)
    (h : ∀ c, (Fields.declare c fs).Adds (Fields.parts fs) (fun all => fs.Expressed all)) :
    (Schema.declare name (.mapping fs)).Declares (.mapping fs) := by
  rw [Schema.declare]
  exact declares_of_body name rfl h (fun _ _ _ hfields => .mapping hfields)

mutual

/-- **What is rendered for a schema** is declared by the last block. -/
theorem Schema.declares_declare (name : String) :
    ∀ s : Schema, (Schema.declare name s).Declares s
  | .mapping fs => Fields.declares_class name (fun c => Fields.adds_declare c fs)
  | .union fs gs hs => by
    have hfirst := Fields.declares_class (name ++ "0") (fun c => Fields.adds_declare c fs)
    have hsecond := Fields.declares_class (name ++ "1") (fun c => Fields.adds_declare c gs)
    have hothers := Schema.adds_declareMembers name 2 hs
    rw [Schema.declare_union]
    refine declares_of_body name rfl (fun _ => ?_) (fun _ _ _ hmembers => .union hmembers)
    exact hfirst.adds.bind (fun _ => hsecond.adds.bind (fun _ => hothers.map
      (fun _ _ hothers hsecond hfirst => .cons hfirst (.cons hsecond hothers))))

theorem Schema.adds_declareMembers (name : String) :
    ∀ (index : Nat) (hs : List (List (String × TypeSpec))),
    (Schema.declareMembers name index hs).Adds (Schema.memberParts hs)
      (fun all => Schema.MembersGoBy all hs)
  | _, [] => adds_pure (fun _ => .nil)
  | index, fs :: hs => by
    have hfirst := Fields.declares_class (name ++ index.repr) (fun c => Fields.adds_declare c fs)
    rw [Schema.declareMembers_cons]
    exact hfirst.adds.bind (fun _ => (Schema.adds_declareMembers name (index + 1) hs).map
      (fun _ _ hothers hfirst => .cons hfirst hothers))

theorem Fields.adds_declare (className : String) : ∀ fs : List (String × TypeSpec),
    (Fields.declare className fs).Adds (Fields.parts fs) (fun all => Fields.Expressed all fs)
  | [] => adds_pure (fun _ => .nil)
  | (key, t) :: fs => (TypeSpec.adds_expression (className ++ pascalCase key) t).bind
      (fun e => (Fields.adds_declare className fs).map
        (fun _ _ hfields he => .cons ⟨e, he, rfl⟩ hfields))

theorem TypeSpec.adds_expression (hint : String) : ∀ t : TypeSpec,
    (TypeSpec.expression hint t).Adds (TypeSpec.parts t) (fun all => t.Expressed all)
  | .single n => (Node.adds_expression hint n).mono (fun _ _ h => .single h)
  | .union n m ns => (Node.adds_expression (hint ++ "0") n).bind (fun _ =>
      (Node.adds_expression (hint ++ "1") m).bind (fun _ =>
        (TypeSpec.adds_candidateExpressions hint 2 ns).map
          (fun _ _ hothers hsecond hfirst => .union (.cons hfirst (.cons hsecond hothers)))))

theorem TypeSpec.adds_candidateExpressions (hint : String) :
    ∀ (index : Nat) (ns : List Node),
    (TypeSpec.candidateExpressions hint index ns).Adds (TypeSpec.candidateParts ns)
      (fun all => TypeSpec.CandidatesExpressed all ns)
  | _, [] => adds_pure (fun _ => .nil)
  | index, n :: ns => (Node.adds_expression (hint ++ index.repr) n).bind (fun _ =>
      (TypeSpec.adds_candidateExpressions hint (index + 1) ns).map
        (fun _ _ hothers hfirst => .cons hfirst hothers))

theorem Node.adds_expression (hint : String) : ∀ n : Node,
    (Node.expression hint n).Adds (Node.parts n) (fun all => n.Expressed all)
  | .string p r => adds_pure (fun _ => .string p r)
  | .number p r => adds_pure (fun _ => .number p r)
  | .boolean p => adds_pure (fun _ => .boolean p)
  | .date p r => adds_pure (fun _ => .date p r)
  | .object _ s => (Schema.declares_declare hint s).adds.map (fun _ _ h => .object h)
  | .array _ t _ => (TypeSpec.adds_expression (hint ++ "Item") t).map (fun _ _ h => .array h)

end

/-- The name of a schema is still free when the rendering begins. -/
theorem Schema.declare_name (s : Schema) (name : String) : ((s.declare name).run {}).1 = name := by
  cases s <;> rfl

/-- **How the module of a schema is laid out**, under the name that was asked for. -/
structure Declaration.LaidOut (s : Schema) (name : String) (blocks : List Block) : Prop where
  /-- There is a block for each mapping and each union. -/
  schemas : blocks.map Block.schema = s.parts
  /-- No name is defined twice. -/
  nodup : (blocks.map Block.name).Nodup
  /-- A block refers to earlier ones only. -/
  standsAfter : ∀ earlier b later, blocks = earlier ++ b :: later → b.StandsAfter earlier
  /-- The schema itself comes last. -/
  root : ∃ front b, blocks = front ++ [b] ∧ b.schema = s ∧ b.name = name

/-- **A rendering that begins without blocks** leaves the texts of a module that is laid out. -/
theorem Schema.exists_laidOut (s : Schema) (name : String) :
    ∃ blocks, ((s.declare name).run {}).2.blocks = blocks.map Block.text ∧
      LaidOut s name blocks := by
  obtain ⟨front, root, hadded, hparts, hschema, hname⟩ := s.declares_declare name {}
  refine ⟨front ++ [root], hadded.texts, hparts,
    hadded.names.nodup_iff.mp (hadded.nodup List.nodup_nil), fun earlier b later hblocks => ?_,
    front, root, rfl, hschema, hname.trans (s.declare_name name)⟩
  have hordered := hadded.ordered []
  rw [hblocks] at hordered
  exact hordered.standsAfter

/-- **Every name is defined once, and before it is used**, in the module that declares a schema. And
the search for a free name always ends: it takes no more rounds than there are names taken. -/
theorem Schema.declaration_defines_once (s : Schema) {name : String} (h : isName name = true) :
    (∃ blocks, s.declaration name = .ok (moduleText (blocks.map Block.text)) ∧
      LaidOut s name blocks) ∧
    ∀ taken wanted, ∃ rounds ≤ taken.length, freshName taken wanted = attempt wanted rounds ∧
      attempt wanted rounds ∉ taken ∧ ∀ i < rounds, attempt wanted i ∈ taken := by
  refine ⟨?_, freshName_eq_attempt⟩
  obtain ⟨blocks, htexts, hlaid⟩ := s.exists_laidOut name
  refine ⟨blocks, ?_, hlaid⟩
  unfold Schema.declaration checkName
  rw [if_pos h, ← htexts]
  rfl

/-- The plans of a house, the first of which has two forms. The class of a form and those of the two
other plans ask for the same name. -/
def Schema.plans : Schema :=
  .mapping
    [("plan", .single (.object {} (.union [] [] []))),
      ("plan0", .single (.object {} (.mapping []))),
      ("plan-0", .single (.object {} (.mapping [])))]

theorem Schema.plans_defines_once :
    isName "House" = true ∧
      ((Schema.plans.declare "House").run {}).2.blocks =
        ["class HousePlan0(TypedDict):\n    pass", "class HousePlan1(TypedDict):\n    pass",
          "HousePlan = HousePlan0 | HousePlan1", "class HousePlan02(TypedDict):\n    pass",
          "class HousePlan03(TypedDict):\n    pass",
          "House = TypedDict('House', \x7b'plan': HousePlan, 'plan0': HousePlan02, " ++
            "'plan-0': HousePlan03\x7d)"] ∧
      ∃ blocks, Schema.plans.declaration "House" = .ok (moduleText (blocks.map Block.text)) ∧
        LaidOut Schema.plans "House" blocks := by
  have hname : isName "House" = true := rfl
  exact ⟨hname, by decide +kernel, (Schema.plans.declaration_defines_once hname).1⟩

end Conform
