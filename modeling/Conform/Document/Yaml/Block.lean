import Conform.Document.Yaml.Quoted

/-!
# Block scalars

A block scalar is a run of lines that are indented deeper than what surrounds them. Its header
tells how the line breaks at the end are dealt with and how deep the lines are indented; without
that, the first line that is not blank decides. A folded scalar joins lines by spaces, unless
one of them is indented further.
-/

namespace Conform.Yaml

/-- **What becomes of the line breaks at the end** of a block scalar. -/
inductive Chomping where
  /-- One break is kept. -/
  | clip
  /-- All breaks are kept. -/
  | keep
  /-- No break is kept. -/
  | strip
deriving DecidableEq, Repr

/-- The sign of a chomping. -/
def Chomping.ofSign? (c : Char) : Option Chomping := [('+', keep), ('-', strip)].lookup c

/-- **The header of a block scalar.** -/
structure BlockHeader where
  chomping : Chomping
  /-- How much deeper the lines are indented, if the header tells. -/
  indentation : Option Nat

/-- A depth of indentation, from one to nine, if there is a digit. -/
def takeDepth (s : Source) : Parsed (Option Nat × Source) :=
  match digit? (s.peek 0) with
  | none => return (none, s)
  | some 0 => throw .malformed
  | some n => return (some n, s.skip 1)

/-- The sign and the depth of a header, in either order. -/
def readHeader (s : Source) : Parsed (BlockHeader × Source) := do
  match Chomping.ofSign? (s.peek 0) with
  | some c =>
    let (depth, rest) ← takeDepth (s.skip 1)
    return (⟨c, depth⟩, rest)
  | none =>
    let (depth, rest) ← takeDepth s
    match depth.bind fun _ => Chomping.ofSign? (rest.peek 0) with
    | some c => return (⟨c, depth⟩, rest.skip 1)
    | none => return (⟨.clip, depth⟩, rest)

/-- The line breaks before the first line, the greatest column that spaces lead to, and the
rest. -/
def leadingBreaks : Source → List Char × Nat × Source
  | [] => ([], 0, [])
  | g :: s =>
    if isBreak g.char then
      let (bs, column, rest) := leadingBreaks s
      (g.char :: bs, column, rest)
    else if g.char = ' ' then
      let (bs, column, rest) := leadingBreaks s
      (bs, max (g.column + 1) column, rest)
    else ([], 0, g :: s)

/-- The line breaks before a line that is indented to a column. -/
def blankLines (column : Nat) : Source → List Char × Source
  | [] => ([], [])
  | g :: s =>
    if g.char = ' ' ∧ g.column < column then blankLines column s
    else if isBreak g.char then
      let (bs, rest) := blankLines column s
      (g.char :: bs, rest)
    else ([], g :: s)

/-- **The lines of a block scalar**: their text, and the breaks after them. -/
structure BlockLines where
  text : List Char
  /-- The break of the last line. -/
  lastBreak : List Char
  /-- The breaks of the blank lines after it. -/
  blankBreaks : List Char
  rest : Source

/-- What stands between two lines, `breaks` being those of the blank lines between them. -/
def betweenLines (folded : Bool) (lineBreak breaks : List Char) (first next : Char) : List Char :=
  if folded && lineBreak == ['\n'] && !isIndent first && !isIndent next then
    if breaks.isEmpty then [' '] else []
  else lineBreak

/-- The lines that are indented to a column; `breaks` are those of the blank lines before. -/
def readLines (folded : Bool) (column : Nat) :
    (fuel : Nat) → (breaks : List Char) → Source → BlockLines
  | 0, breaks, s => ⟨[], [], breaks, s⟩
  | _, breaks, [] => ⟨[], [], breaks, []⟩
  | fuel + 1, breaks, g :: s =>
    if g.column ≠ column then ⟨[], [], breaks, g :: s⟩
    else
      let (line, rest) := Source.spanChars (g :: s) fun c => !isLineEnd c
      let lineBreak := (Source.chars (rest.take 1))
      let (blank, rest) := blankLines column (rest.skip 1)
      if rest.isEmpty || rest.column ≠ column then
        ⟨breaks ++ line, lineBreak, blank, rest⟩
      else
        let more := readLines folded column fuel blank rest
        { more with
          text := breaks ++ line ++
            betweenLines folded lineBreak blank g.char (rest.peek 0) ++ more.text }

/-- **A block scalar** after its indicator, in a collection whose members stand from the column
`margin` on. -/
def readBlock (folded : Bool) (margin : Nat) (s : Source) : Parsed (String × Source) := do
  let (header, s) ← readHeader s
  if !isSpaceOrEnd (s.peek 0) then throw .malformed
  let s ← s.skipLineEnd
  let least := max 1 margin
  let (breaks, column, s) := match header.indentation with
    | some n =>
      let (breaks, s) := blankLines (least + n - 1) s
      (breaks, least + n - 1, s)
    | none =>
      let (breaks, column, s) := leadingBreaks s
      (breaks, max least column, s)
  let lines := readLines folded column s.length.succ breaks s
  let tail := match header.chomping with
    | .clip => lines.lastBreak
    | .keep => lines.lastBreak ++ lines.blankBreaks
    | .strip => []
  return (String.ofList (lines.text ++ tail), lines.rest)

end Conform.Yaml
