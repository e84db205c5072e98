import Conform.Document.Yaml.Quoted

/-!
# Plain scalars

A plain scalar has no quotes and ends where something else begins: at a colon before white, at a
comment, at the comma or bracket of a flow collection, or at a line that is not indented enough.
Otherwise it goes on over line breaks, which are folded.
-/

namespace Conform.Yaml

/-- Whether a plain scalar ends before a character, `next` being the one after it. -/
def endsPlain (flow : Bool) (c next : Char) : Bool :=
  isWhite c || (c == ':' && (isWhite next || (flow && isOneOf ",[]\x7b\x7d" next))) ||
    (flow && isOneOf ",?[]\x7b\x7d" c)

/-- Whether a plain scalar may start with a character, `next` being the one after it. -/
def startsPlain (flow : Bool) (c next : Char) : Bool :=
  !(isWhite c || isOneOf "-?:,[]\x7b\x7d#&*!|>'\"%@\x60" c) ||
    (!isWhite next && (c == '-' || (!flow && (c == '?' || c == ':'))))

/-- The characters of a plain scalar up to a blank or its end. -/
def plainRun (flow : Bool) : Source → List Char × Source
  | [] => ([], [])
  | g :: s =>
    if endsPlain flow g.char (Source.peek s 0) then ([], g :: s)
    else
      let (cs, rest) := plainRun flow s
      (g.char :: cs, rest)

/-- **Blanks inside a plain scalar.** -/
structure PlainGap where
  /-- The characters that the blanks stand for; there are none if the scalar ends here. -/
  text : List Char
  /-- Whether a line ends within the blanks. -/
  isLineEnd : Bool
  rest : Source

/-- The breaks after a first one, spaces being dropped; nothing if documents are separated. -/
def plainBreaks : Source → Option (List Char) × Source
  | [] => (some [], [])
  | g :: s =>
    if g.char = ' ' then plainBreaks s
    else if isBreak g.char then
      if Source.atSeparator s then (none, s)
      else
        let (bs, rest) := plainBreaks s
        (bs.map (g.char :: ·), rest)
    else (some [], g :: s)

/-- The blanks at the front. -/
def plainGap (s : Source) : PlainGap :=
  let (spaces, rest) := s.spanChars (· == ' ')
  match rest.takeBreak? with
  | none => ⟨spaces, false, rest⟩
  | some (b, rest) =>
    if rest.atSeparator then ⟨[], true, rest⟩
    else
      match plainBreaks rest with
      | (none, rest) => ⟨[], true, rest⟩
      | (some bs, rest) => ⟨foldBreaks b bs, true, rest⟩

/-- How a plain scalar goes on after a run of characters: its text, whether a line ends after
it, and the rest. A line of a block has to be indented to the column `margin`. -/
def plainTail (flow : Bool) (margin : Nat) : (fuel : Nat) → Source → List Char × Bool × Source
  | 0, s => ([], false, s)
  | fuel + 1, s =>
    let gap := plainGap s
    let next := gap.rest.peek 0
    if gap.text.isEmpty || next == '#' || (!flow && gap.rest.column < margin) then
      ([], gap.isLineEnd, gap.rest)
    else
      match plainRun flow gap.rest with
      | ([], rest) => ([], gap.isLineEnd, rest)
      | (cs, rest) =>
        let (more, ended, rest) := plainTail flow margin fuel rest
        (gap.text ++ cs ++ more, ended, rest)

/-- **A plain scalar**: its text, whether a line ends after it, and the rest. -/
def readPlain (flow : Bool) (margin : Nat) (s : Source) : String × Bool × Source :=
  let (cs, rest) := plainRun flow s
  let (more, ended, rest) := plainTail flow margin rest.length.succ rest
  (String.ofList (cs ++ more), ended, rest)

end Conform.Yaml
