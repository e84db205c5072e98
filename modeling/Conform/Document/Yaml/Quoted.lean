import Conform.Document.Yaml.Source
import Conform.Number.Numeral
import Conform.Text.Unit

/-!
# Quoted scalars

A scalar between single quotes has one escape, the doubled quote; between double quotes the
backslash starts an escape. Blanks around a line break are folded: a single break becomes a
space, and of several breaks all but the first are kept. A line that separates documents may not
stand inside.
-/

namespace Conform.Yaml

/-- The code point of an escape by one character. -/
def escapeOf? (c : Char) : Option Nat :=
  [('0', 0x0), ('a', 0x7), ('b', 0x8), ('t', 0x9), ('\t', 0x9), ('n', 0xa), ('v', 0xb),
    ('f', 0xc), ('r', 0xd), ('e', 0x1b), (' ', 0x20), ('"', 0x22), ('\\', 0x5c), ('/', 0x2f),
    ('N', 0x85), ('_', 0xa0), ('L', 0x2028), ('P', 0x2029)].lookup c

/-- The number of digits of an escape by a code point. -/
def escapeLength? (c : Char) : Option Nat := [('x', 2), ('u', 4), ('U', 8)].lookup c

/-- The code point that hexadecimal digits at the front spell. -/
def readCodePoint (length : Nat) (s : Source) : Parsed (Nat × Source) :=
  let digits := Source.chars (s.take length)
  if digits.length < length || digits.any fun c => (hexDigit? c).isNone then throw .malformed
  else
    let n := ofDigits 16 digits
    if pow2 31 ≤ n then throw .hugeCodePoint
    else if 0x110000 ≤ n then throw .noCodePoint
    else return (n, s.skip length)

/-- The line breaks at the front, blanks between them being dropped. -/
def readBreaks : (fuel : Nat) → Source → Parsed (List Char × Source)
  | 0, s => return ([], s)
  | fuel + 1, s =>
    if s.atSeparator then throw .malformed
    else
      let s := s.dropChars isIndent
      match s.takeBreak? with
      | none => return ([], s)
      | some (b, rest) => do
        let (bs, rest) ← readBreaks fuel rest
        return (b :: bs, rest)

/-- What a line break and the breaks after it are folded to. -/
def foldBreaks (first : Char) (others : List Char) : List Char :=
  if first ≠ '\n' then first :: others else if others.isEmpty then [' '] else others

/-- Blanks inside a scalar, folded if a line ends there. -/
def readBlanks (s : Source) : Parsed (List Char × Source) :=
  let (blanks, rest) := s.spanChars isIndent
  match rest.takeBreak? with
  | none => return (blanks, rest)
  | some (b, rest) => do
    let (bs, rest) ← readBreaks rest.length.succ rest
    return (foldBreaks b bs, rest)

/-- The code units of an escape after its backslash. -/
def readEscape : Source → Parsed (List Nat × Source)
  | [] => throw .malformed
  | g :: s =>
    match escapeOf? g.char, escapeLength? g.char with
    | some u, _ => return ([u], s)
    | none, some length => do
      let (u, rest) ← readCodePoint length s
      return ([u], rest)
    | none, none =>
      if isBreak g.char then do
        let (bs, rest) ← readBreaks s.length.succ s
        return (bs.map (·.toNat), rest)
      else throw .malformed

/-- The code units of a scalar after its opening quote, and what follows the closing one. -/
def readQuotedUnits (double : Bool) : (fuel : Nat) → Source → Parsed (List Nat × Source)
  | 0, _ => throw .malformed
  | _, [] => throw .malformed
  | fuel + 1, g :: s => do
    let go := fun (front : List Nat × Source) => do
      let (us, rest) ← readQuotedUnits double fuel front.2
      return (front.1 ++ us, rest)
    if g.char = (if double then '"' else '\'') then
      if !double && Source.peek s 0 == '\'' then go ([g.char.toNat], Source.skip s 1)
      else return ([], s)
    else if double && g.char == '\\' then go (← readEscape s)
    else if isIndent g.char || isBreak g.char then
      let (cs, rest) ← readBlanks (g :: s)
      go (cs.map (·.toNat), rest)
    else go ([g.char.toNat], s)

/-- **A quoted scalar** after its opening quote. -/
def readQuoted (double : Bool) (s : Source) : Parsed (String × Source) := do
  let (us, rest) ← readQuotedUnits double s.length.succ s
  return (String.ofList (Text.ofUnits us), rest)

end Conform.Yaml
