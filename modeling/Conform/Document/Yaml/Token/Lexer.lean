import Conform.Document.Yaml.Token
import Conform.Document.Yaml.Block
import Conform.Document.Yaml.Plain

/-!
# Tokens from characters

Between two tokens the lexer knows which block collections are open, by the columns that their
members stand at, and where the key of a mapping may have begun (`KeyMark`): a node is known to
be a key only when its colon comes, which has to be on the same line and not too far away. A key
token is then put in before the node, and the start of a block mapping before it if one begins
with this key.

A block collection ends where a token stands further to the left. In a flow collection
indentation does not count.

A token is settled as soon as no key may have begun at it or before it (`Layout.settled`). Where
the text makes no sense only the settled tokens have been seen.
-/

namespace Conform.Yaml

/-- **A place where a key may have begun.** -/
structure KeyMark where
  /-- The number of tokens before the place. -/
  position : Nat
  /-- Whether nothing but a key can stand at the place. -/
  required : Bool
  place : Glyph

/-- **What is known between two tokens.** -/
structure Layout where
  /-- The tokens so far, the last one first. -/
  tokens : List Token := []
  /-- For each open block collection the column after the one its members stand at, the
  innermost first. -/
  margins : List Nat := []
  /-- Where a key of the innermost collection may have begun. -/
  keyMark : Option KeyMark := none
  /-- The same for what surrounds each open flow collection, the innermost first. -/
  outerMarks : List (Option KeyMark) := []
  /-- Whether a key may begin here. -/
  keyAllowed : Bool := true

namespace Layout

/-- Whether a flow collection is open. -/
def isFlow (l : Layout) : Bool := !l.outerMarks.isEmpty

/-- The least column of what belongs to the innermost block collection. -/
def margin (l : Layout) : Nat := l.margins.headD 0

/-- Adds a token. -/
def emit (l : Layout) (t : Token) : Layout := { l with tokens := t :: l.tokens }

/-- Tells whether a key may begin at the next place. -/
def allowKey (l : Layout) (allowed : Bool) : Layout := { l with keyAllowed := allowed }

/-! ## Block collections -/

/-- Closes the block collections whose margin lies beyond a column. -/
def closeBeyond (l : Layout) (column : Nat) : Layout :=
  if l.isFlow then l
  else
    let (closed, remaining) := l.margins.span fun m => decide (column < m)
    { l with
      margins := remaining
      tokens := List.replicate closed.length .blockEnd ++ l.tokens }

/-- Opens a block collection at a column, unless its members belong to the innermost one. -/
def openAt (l : Layout) (column : Nat) (start : Token) : Layout :=
  if l.margin ≤ column then { l.emit start with margins := (column + 1) :: l.margins } else l

/-! ## Keys -/

/-- Whether a key that has begun at a mark cannot have its colon at a later place. -/
def isStale (m : KeyMark) (here : Glyph) : Bool :=
  m.place.line != here.line || m.place.index + 1024 < here.index

/-- Forgets a mark that has become stale. -/
def refresh (here : Glyph) (mark : Option KeyMark) : Parsed (Option KeyMark) :=
  match mark with
  | some m =>
    if !isStale m here then return some m
    else if m.required then throw .malformed
    else return none
  | none => return none

/-- Forgets all marks that have become stale. -/
def refreshKeys (l : Layout) (here : Glyph) : Parsed Layout := do
  return { l with
    keyMark := ← refresh here l.keyMark
    outerMarks := ← l.outerMarks.mapM (refresh here) }

/-- Forgets the mark of the innermost collection. -/
def forgetKey (l : Layout) : Parsed Layout :=
  if l.keyMark.any (·.required) then throw .malformed else return { l with keyMark := none }

/-- Marks a place where a key may begin. -/
def markKey (l : Layout) (here : Glyph) : Parsed Layout := do
  if !l.keyAllowed then return l
  let l ← l.forgetKey
  let required := !l.isFlow && l.margin == here.column + 1
  return { l with keyMark := some ⟨l.tokens.length, required, here⟩ }

/-- Puts in the token of a key that has begun at a mark. -/
def insertKey (l : Layout) (m : KeyMark) : Layout :=
  let after := l.tokens.length - m.position
  let opens := !l.isFlow && decide (l.margin ≤ m.place.column)
  { l with
    tokens := l.tokens.take after ++ Token.key ::
      ((if opens then [.blockMappingStart] else []) ++ l.tokens.drop after)
    margins := if opens then (m.place.column + 1) :: l.margins else l.margins
    keyMark := none }

/-! ## Tokens -/

/-- A token with a place where a key may begin before it, and none after it. -/
def node (l : Layout) (here : Glyph) : Parsed Layout := do
  return (← l.markKey here).allowKey false

/-- A mark between documents, and the rest after it. -/
def separate (l : Layout) (t : Token) : Parsed Layout := do
  return ((← (l.closeBeyond 0).forgetKey).allowKey false).emit t

/-- The start of a flow collection. -/
def openFlow (l : Layout) (here : Glyph) (t : Token) : Parsed Layout := do
  let l ← l.markKey here
  return { l.emit t with
    outerMarks := l.keyMark :: l.outerMarks
    keyMark := none
    keyAllowed := true }

/-- The end of a flow collection. -/
def closeFlow (l : Layout) (t : Token) : Parsed Layout :=
  match l.outerMarks with
  | [] => throw .malformed
  | m :: ms => return { l.emit t with outerMarks := ms, keyMark := m, keyAllowed := false }

/-- The comma of a flow collection. -/
def flowEntry (l : Layout) : Parsed Layout := do
  return ((← l.forgetKey).allowKey true).emit .flowEntry

/-- The hyphen of a block sequence. -/
def blockEntry (l : Layout) (here : Glyph) : Parsed Layout := do
  demand (l.isFlow || l.keyAllowed)
  let l := if l.isFlow then l else l.openAt here.column .blockSequenceStart
  return ((← l.forgetKey).allowKey true).emit .blockEntry

/-- The question mark before a key. -/
def explicitKey (l : Layout) (here : Glyph) : Parsed Layout := do
  demand (l.isFlow || l.keyAllowed)
  let l := if l.isFlow then l else l.openAt here.column .blockMappingStart
  return ((← l.forgetKey).allowKey !l.isFlow).emit .key

/-- The colon before a value. -/
def value (l : Layout) (here : Glyph) : Parsed Layout := do
  match l.keyMark with
  | some m => return ((l.insertKey m).allowKey false).emit .value
  | none =>
    demand (l.isFlow || l.keyAllowed)
    let l := if l.isFlow then l else l.openAt here.column .blockMappingStart
    return (l.allowKey !l.isFlow).emit .value

/-- The token that starts at a place, `s` being what follows its first character. -/
def step (l : Layout) (here : Glyph) (s : Source) : Parsed (Layout × Source) := do
  let all : Source := here :: s
  let next := s.peek 0
  let flow := l.isFlow
  match here.char with
  | '[' => return (← l.openFlow here .flowSequenceStart, s)
  | '{' => return (← l.openFlow here .flowMappingStart, s)
  | ']' => return (← l.closeFlow .flowSequenceEnd, s)
  | '}' => return (← l.closeFlow .flowMappingEnd, s)
  | ',' => return (← l.flowEntry, s)
  | '*' =>
    let (name, rest) ← readAnchor s
    return ((← l.node here).emit (.reference name), rest)
  | '&' =>
    let (name, rest) ← readAnchor s
    return ((← l.node here).emit (.anchor name), rest)
  | '!' =>
    let (tag, rest) ← readTag all
    return ((← l.node here).emit (.tag tag), rest)
  | '\'' =>
    let l ← l.node here
    let (text, rest) ← readQuoted false s
    return (l.emit (.scalar text false), rest)
  | '"' =>
    let l ← l.node here
    let (text, rest) ← readQuoted true s
    return (l.emit (.scalar text false), rest)
  | c =>
    if here.column = 0 && c == '%' then
      let (d, rest) ← readDirective s
      return (← l.separate (.directive d), rest)
    else if here.column = 0 && all.startsWith "---" then
      return (← l.separate .documentStart, all.skip 3)
    else if here.column = 0 && all.startsWith "..." then
      return (← l.separate .documentEnd, all.skip 3)
    else if c == '-' && isWhite next then return (← l.blockEntry here, s)
    else if c == '?' && (flow || isWhite next) then return (← l.explicitKey here, s)
    else if c == ':' && (flow || isWhite next) then return (← l.value here, s)
    else if !flow && (c == '|' || c == '>') then
      let (text, rest) ← readBlock (c == '>') l.margin s
      return (((← l.forgetKey).allowKey true).emit (.scalar text false), rest)
    else
      demand (startsPlain flow c next)
      let (text, ended, rest) := readPlain flow l.margin all
      return (((← l.node here).allowKey ended).emit (.scalar text true), rest)

/-- The token that starts at a place, after the block collections that end before it. -/
def take (l : Layout) (here : Glyph) (s : Source) : Parsed (Layout × Source) := do
  let l ← l.refreshKeys here
  (l.closeBeyond (here.column + 1)).step here s

/-- Skips blanks and comments before the next token, and tells whether a line ended there. -/
def skipToToken (inComment : Bool) : Source → Bool × Source
  | [] => (false, [])
  | g :: s =>
    if isBreak g.char then (true, (skipToToken false s).2)
    else if inComment || g.char == ' ' then skipToToken inComment s
    else if g.char = '#' then skipToToken true s
    else (false, g :: s)

/-- The end of the document: no flow collection may be open. -/
def finish (l : Layout) : Parsed Layout := do
  demand !l.isFlow
  (l.closeBeyond 0).forgetKey

/-- The tokens before any place where a key may have begun, as seen from the rest of a
document. -/
def settled (l : Layout) (s : Source) : List Token :=
  let marks := (l.keyMark :: l.outerMarks).filterMap fun mark =>
    mark.filter fun m => s.head?.all fun here => !isStale m here
  l.tokens.reverse.take (marks.foldl (fun n m => min n m.position) l.tokens.length)

/-- The tokens of the rest of a document, of which each has at least one character. -/
def run : (fuel : Nat) → Layout → Source → TokenStream
  | 0, l, s => ⟨l.settled s, some .malformed⟩
  | fuel + 1, l, s =>
    let (ended, rest) := skipToToken false s
    let next := if ended && !l.isFlow then l.allowKey true else l
    match rest with
    | [] =>
      match next.finish with
      | .ok last => ⟨last.tokens.reverse, none⟩
      | .error f => ⟨l.settled s, some f⟩
    | here :: rest =>
      match next.take here rest with
      | .ok (next, rest) => run fuel next rest
      | .error f => ⟨l.settled s, some f⟩

end Layout

/-- **The tokens of a document.** -/
def TokenStream.ofText (text : String) : TokenStream :=
  match Source.ofText? text with
  | some s => Layout.run (s.length + 1) {} s
  | none => ⟨[], some .malformed⟩

end Conform.Yaml
