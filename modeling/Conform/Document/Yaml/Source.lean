import Conform.Document.Fault

/-!
# The characters of a YAML document

The layout of a YAML document is part of its grammar, so each character is kept with its place
(`Glyph`). Line breaks are all written `'\n'`, except for the two separators of Unicode, and a
byte order mark at the front is dropped; anywhere else it takes no column. A document that holds
a character that is not printable has no source.

`Source.peek` is the nul character beyond the end. No document holds one.
-/

namespace Conform.Yaml

/-- **A character and its place**, each count starting from zero. -/
structure Glyph where
  char : Char
  line : Nat
  column : Nat
  /-- The number of characters before this one. -/
  index : Nat

/-- **The rest of a document.** -/
abbrev Source := List Glyph

/-! ## Classes of characters -/

/-- Whether a document may hold a character. -/
def isPrintable (c : Char) : Bool :=
  let n := c.toNat
  n == 0x9 || n == 0xa || n == 0xd || n == 0x85 || (0x20 ≤ n && n ≤ 0x7e) ||
    (0xa0 ≤ n && n ≤ 0xfffd) || 0x10000 ≤ n

/-- Whether a character ends a line. -/
def isBreak (c : Char) : Bool := c == '\n' || c == '\u2028' || c == '\u2029'

/-- Whether a line ends here: at a break or at the end of the document. -/
def isLineEnd (c : Char) : Bool := c == '\x00' || isBreak c

/-- Whether a character is a space or ends a line. -/
def isSpaceOrEnd (c : Char) : Bool := c == ' ' || isLineEnd c

/-- Whether a character is white: a space, a tabulator or the end of a line. -/
def isWhite (c : Char) : Bool := c == '\t' || isSpaceOrEnd c

/-- Whether a character is a space or a tabulator. -/
def isIndent (c : Char) : Bool := c == ' ' || c == '\t'

/-- Whether a character may stand in a name: an ASCII letter or digit, a hyphen or a low
line. -/
def isNameChar (c : Char) : Bool :=
  ('0' ≤ c && c ≤ '9') || ('A' ≤ c && c ≤ 'Z') || ('a' ≤ c && c ≤ 'z') || c == '-' || c == '_'

/-- Whether a character is one of those of a text. -/
def isOneOf (cs : String) (c : Char) : Bool := cs.toList.contains c

/-! ## Sources -/

/-- Characters with their line breaks made alike. -/
def unifyBreaks : List Char → List Char
  | [] => []
  | '\r' :: '\n' :: cs => '\n' :: unifyBreaks cs
  | c :: cs => (if c = '\r' ∨ c = '\x85' then '\n' else c) :: unifyBreaks cs

/-- Characters without a byte order mark at the front. -/
def dropMark : List Char → List Char
  | '\uFEFF' :: cs => cs
  | cs => cs

/-- Characters with their places. -/
def placed (line column index : Nat) : List Char → Source
  | [] => []
  | c :: cs =>
    ⟨c, line, column, index⟩ ::
      (if isBreak c then placed (line + 1) 0 (index + 1) cs
      else placed line (if c = '\uFEFF' then column else column + 1) (index + 1) cs)

namespace Source

/-- **The source of a document.** -/
def ofText? (text : String) : Option Source :=
  if text.toList.all isPrintable then some (placed 0 0 0 (dropMark (unifyBreaks text.toList)))
  else none

/-- The character some places ahead. -/
def peek (s : Source) (ahead : Nat) : Char := (s[ahead]?.map (·.char)).getD '\x00'

/-- A source without some characters at its front. -/
def skip (s : Source) (count : Nat) : Source := s.drop count

/-- The column of the next character. -/
def column (s : Source) : Nat := (s.head?.map (·.column)).getD 0

/-- The characters of a source. -/
def chars (s : Source) : List Char := s.map (·.char)

/-- The characters at the front that pass a test, and the rest. -/
def spanChars (s : Source) (test : Char → Bool) : List Char × Source :=
  let (front, rest) := s.span fun g => test g.char
  (chars front, rest)

/-- A source without the characters at its front that pass a test. -/
def dropChars (s : Source) (test : Char → Bool) : Source := s.dropWhile fun g => test g.char

/-- A line break at the front, and the rest. -/
def takeBreak? : Source → Option (Char × Source)
  | [] => none
  | g :: s => if isBreak g.char then some (g.char, s) else none

/-- Whether three characters at the front are followed by white. -/
def startsWith (s : Source) (mark : String) : Bool :=
  chars (s.take 3) == mark.toList && isWhite (s.peek 3)

/-- Whether the line that starts here separates documents. -/
def atSeparator (s : Source) : Bool := s.startsWith "---" || s.startsWith "..."

/-- What follows the end of a line on which nothing but a comment is left. -/
def skipLineEnd (s : Source) : Parsed Source :=
  let s := s.dropChars (· == ' ')
  let s := if s.peek 0 = '#' then s.dropChars fun c => !isLineEnd c else s
  match s with
  | [] => return []
  | g :: rest => if isBreak g.char then return rest else throw .malformed

end Source

end Conform.Yaml
