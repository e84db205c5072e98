import Conform.Document.Yaml.Graph
import Conform.Document.Yaml.Token.Lexer

/-!
# Graphs from tokens

The tokens of a document are read by descent. A node is given its place as soon as it begins, so
that an anchor in front of it names it already among its own members. An anchor names one node
only, and a document holds at most one node that is not part of another.
-/

namespace Conform.Yaml

namespace Graph

/-! ## Handles -/

/-- **What handles stand for.** -/
abbrev Handles := List (String × String)

/-- The handles that need no declaration. -/
def usualHandles : Handles := [("!", "!"), ("!!", Tag.commonPrefix)]

/-- The full name of a tag. -/
def fullName (handles : Handles) (t : TagName) : Parsed String :=
  match t.handle with
  | none => return t.suffix
  | some h =>
    match handles.lookup h with
    | some stands => return stands ++ t.suffix
    | none => throw .malformed

/-- The handles that directives declare. A version has to be of the first edition, and nothing
may be declared twice. -/
def declare : (version : Bool) → Handles → List Directive → Parsed Handles
  | _, handles, [] => return handles
  | version, handles, .version major :: ds => do
    demand (!version && major == 1)
    declare true handles ds
  | version, handles, .handle name stands :: ds => do
    demand (handles.lookup name).isNone
    declare version ((name, stands) :: handles) ds
  | version, handles, .other :: ds => declare version handles ds

/-! ## Reading tokens -/

/-- **What is known while a graph is read.** -/
structure Progress where
  stream : TokenStream
  graph : Graph := {}
  /-- The places that anchors name. -/
  anchors : List (String × Nat) := []

/-- Reading a graph from tokens. -/
abbrev Compose := StateT Progress Parsed

/-- The next token, if there is one. -/
def peek : Compose (Option Token) := do (← get).stream.head?

/-- Goes past a token. -/
def advance : Compose Unit := modify fun p => { p with stream := p.stream.tail }

/-- Refuses the document. -/
def refuse {α : Type} : Compose α := throw .malformed

/-- Goes past a given token. -/
def expect (t : Token) : Compose Unit := do
  if (← peek) == some t then advance else refuse

/-- Whether the next token is one of some. -/
def isNext (ts : List Token) : Compose Bool := return (← peek).any ts.contains

/-- Adds a node, and tells its place. -/
def add (n : Node) : Compose Nat :=
  modifyGet fun p => (p.graph.size, { p with graph := p.graph.push n })

/-- Lets an anchor name a place. -/
def nameNode (name : String) (place : Nat) : Compose Unit := do
  if ((← get).anchors.lookup name).isSome then refuse
  modify fun p => { p with anchors := (name, place) :: p.anchors }

/-- The anchor and the tag in front of a node, in either order. -/
def properties : Compose (Option String × Option TagName) := do
  match ← peek with
  | some (.anchor a) =>
    advance
    match ← peek with
    | some (.tag t) => advance; return (some a, some t)
    | _ => return (some a, none)
  | some (.tag t) =>
    advance
    match ← peek with
    | some (.anchor a) => advance; return (some a, some t)
    | _ => return (none, some t)
  | _ => return (none, none)

/-- The tag of a node: the one that is written, or what the node is without one. -/
def tagOr (name : Option String) (usual : Tag) : Tag :=
  match name with
  | none => usual
  | some "!" => usual
  | some n => Tag.ofName n

/-- The tag of a scalar. A tag that names no type makes it count as plain. -/
def scalarTag (name : Option String) (text : String) (plain : Bool) : Tag :=
  tagOr name (if plain || name == some "!" then Tag.ofPlain text else .text)

/-- **Where a node stands**: which block collections may begin there. -/
inductive Context where
  /-- In a flow collection. -/
  | flow
  | block
  /-- In a block mapping, where the items of a sequence need no indentation. -/
  | blockMember
deriving DecidableEq, Repr

/-- The tokens that end the member of a block mapping. -/
def memberEnds : List Token := [.key, .value, .blockEnd]

mutual
/-- A node. -/
def node (handles : Handles) : (fuel : Nat) → Context → Compose Nat
  | 0, _ => refuse
  | fuel + 1, context => do
    if let some (.reference name) ← peek then
      advance
      match (← get).anchors.lookup name with
      | some place => return place
      | none => refuse
    else
      let (anchor, tag) ← properties
      let name ← match tag with
        | some t => some <$> (fullName handles t : Parsed String)
        | none => pure none
      let _ ← peek
      let place ← add .empty
      if let some a := anchor then nameNode a place
      let n ← content handles fuel context name (anchor.isSome || tag.isSome)
      modify fun p => { p with graph := p.graph.put place n }
      return place

/-- What a node is after its anchor and tag; it may be left out after these. -/
def content (handles : Handles) :
    (fuel : Nat) → Context → (name : Option String) → (marked : Bool) → Compose Node
  | 0, _, _, _ => refuse
  | fuel + 1, context, name, marked => do
    match ← peek with
    | some (.scalar text plain) =>
      advance
      return ⟨scalarTag name text plain, .scalar text⟩
    | some .flowSequenceStart =>
      advance
      return ⟨tagOr name .sequence, .sequence (← flowItems handles fuel true)⟩
    | some .flowMappingStart =>
      advance
      return ⟨tagOr name .mapping, .mapping (← flowEntries handles fuel true)⟩
    | some .blockEntry =>
      if context = .blockMember then
        return ⟨tagOr name .sequence, .sequence (← looseItems handles fuel)⟩
      else leftOut name marked
    | some .blockSequenceStart =>
      if context = .flow then leftOut name marked
      else
        advance
        return ⟨tagOr name .sequence, .sequence (← blockItems handles fuel)⟩
    | some .blockMappingStart =>
      if context = .flow then leftOut name marked
      else
        advance
        return ⟨tagOr name .mapping, .mapping (← blockEntries handles fuel)⟩
    | _ => leftOut name marked

/-- A node of which there is nothing but an anchor or a tag. -/
def leftOut (name : Option String) (marked : Bool) : Compose Node :=
  if marked then return ⟨scalarTag name "" (name.isNone || name == some "!"), .scalar ""⟩
  else refuse

/-- A node, or nothing if one of some tokens comes next. -/
def nodeUnless (handles : Handles) (ends : List Token) :
    (fuel : Nat) → Context → Compose Nat
  | 0, _ => refuse
  | fuel + 1, context => do
    if ← isNext ends then add .empty else node handles fuel context

/-- The items of a block sequence, up to its end. -/
def blockItems (handles : Handles) : (fuel : Nat) → Compose (List Nat)
  | 0 => refuse
  | fuel + 1 => do
    if ← isNext [.blockEntry] then
      advance
      let n ← nodeUnless handles [.blockEntry, .blockEnd] fuel .block
      return n :: (← blockItems handles fuel)
    else
      expect .blockEnd
      return []

/-- The items of a sequence that is not indented. -/
def looseItems (handles : Handles) : (fuel : Nat) → Compose (List Nat)
  | 0 => refuse
  | fuel + 1 => do
    if ← isNext [.blockEntry] then
      advance
      let n ← nodeUnless handles (.blockEntry :: memberEnds) fuel .block
      return n :: (← looseItems handles fuel)
    else return []

/-- The entries of a block mapping, up to its end. -/
def blockEntries (handles : Handles) : (fuel : Nat) → Compose (List (Nat × Nat))
  | 0 => refuse
  | fuel + 1 => do
    if ← isNext [.key] then
      advance
      let k ← nodeUnless handles memberEnds fuel .blockMember
      let v ← valueUnless handles memberEnds fuel .blockMember
      return (k, v) :: (← blockEntries handles fuel)
    else
      expect .blockEnd
      return []

/-- The value after a key; without a colon it is left out. -/
def valueUnless (handles : Handles) (ends : List Token) :
    (fuel : Nat) → Context → Compose Nat
  | 0, _ => refuse
  | fuel + 1, context => do
    if ← isNext [.value] then
      advance
      nodeUnless handles ends fuel context
    else add .empty

/-- The items of a flow sequence, up to its end. An item that is a key with a value is a mapping
of a single entry. -/
def flowItems (handles : Handles) : (fuel : Nat) → (first : Bool) → Compose (List Nat)
  | 0, _ => refuse
  | fuel + 1, first => do
    if ← isNext [.flowSequenceEnd] then
      advance
      return []
    if !first then expect .flowEntry
    if ← isNext [.key] then
      advance
      let k ← nodeUnless handles [.value, .flowEntry, .flowSequenceEnd] fuel .flow
      let v ← valueUnless handles [.flowEntry, .flowSequenceEnd] fuel .flow
      let pair ← add ⟨.mapping, .mapping [(k, v)]⟩
      return pair :: (← flowItems handles fuel false)
    else if ← isNext [.flowSequenceEnd] then
      advance
      return []
    else
      let n ← node handles fuel .flow
      return n :: (← flowItems handles fuel false)

/-- The entries of a flow mapping, up to its end. A node that is no key is the key of a value
that is left out. -/
def flowEntries (handles : Handles) :
    (fuel : Nat) → (first : Bool) → Compose (List (Nat × Nat))
  | 0, _ => refuse
  | fuel + 1, first => do
    if ← isNext [.flowMappingEnd] then
      advance
      return []
    if !first then expect .flowEntry
    if ← isNext [.key] then
      advance
      let k ← nodeUnless handles [.value, .flowEntry, .flowMappingEnd] fuel .flow
      let v ← valueUnless handles [.flowEntry, .flowMappingEnd] fuel .flow
      return (k, v) :: (← flowEntries handles fuel false)
    else if ← isNext [.flowMappingEnd] then
      advance
      return []
    else
      let k ← node handles fuel .flow
      return (k, ← add .empty) :: (← flowEntries handles fuel false)
end

/-! ## Documents -/

/-- The directives at the front, and the rest. -/
def takeDirectives (s : TokenStream) : List Directive × TokenStream :=
  let directive? : Token → Option Directive := fun
    | .directive d => some d
    | _ => none
  let (front, rest) := s.tokens.span fun t => (directive? t).isSome
  (front.filterMap directive?, { s with tokens := rest })

/-- Whether a token marks the border of a document. -/
def isBorder : Token → Bool
  | .directive _ | .documentStart | .documentEnd => true
  | _ => false

/-- Makes sure that no other document follows. Directives in front of one are looked at before it
is. -/
def closing (s : TokenStream) : Parsed Unit := do
  let s := { s with tokens := s.tokens.dropWhile (· == .documentEnd) }
  if (← s.head?).isNone then return ()
  let (ds, rest) := takeDirectives s
  let _ ← declare false [] ds
  let _ ← rest.head?
  throw .malformed

/-- The graph of a whole document. Each token takes at most five steps to read. -/
def ofContent (handles : Handles) (s : TokenStream) : Parsed Graph := do
  let (_, p) ← (node handles (5 * (s.tokens.length + 1)) .block).run { stream := s }
  closing p.stream
  return p.graph

/-- The graph after the start of a document. -/
def ofStarted (handles : Handles) (s : TokenStream) : Parsed Graph := do
  if (← s.head?).all isBorder then
    closing s
    return {}
  else ofContent handles s

/-- **The graph that tokens describe.** -/
def ofTokens (s : TokenStream) : Parsed Graph := do
  match ← s.head? with
  | none => return {}
  | some .documentStart => ofStarted usualHandles s.tail
  | some (.directive _) =>
    let (ds, rest) := takeDirectives s
    let handles ← declare false [] ds
    if (← rest.head?) == some .documentStart then ofStarted (handles ++ usualHandles) rest.tail
    else throw .malformed
  | some _ => ofContent usualHandles s

end Graph

end Conform.Yaml
