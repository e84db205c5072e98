import Conform.Text.Ranges
import Conform.Text.Table.Printable
import Conform.Number.Numeral

/-!
# Quoted text

A text is shown between quotes so that it can be read back. The quotes are single ones, unless
the text holds a single quote and no double one. The backslash and the surrounding quote are
escaped with a backslash, line feed, carriage return and tabulator by their letters, and any
other character that is not printable by its code point in two, four or eight hexadecimal
digits. Octets are quoted alike, each octet outside printable ASCII in two digits.
-/

namespace Conform.Text

/-- Whether a character is shown as itself in a quoted text. -/
def isPrintable (c : Char) : Bool := inRanges Table.printable c.toNat

/-- A hexadecimal number of at least `width` digits. -/
def hexPadded (width n : Nat) : List Char :=
  let digits := Nat.toDigits 16 n
  List.replicate (width - digits.length) '0' ++ digits

/-- The escape of a code point: two, four or eight digits, whichever hold it. -/
def escapeCode (n : Nat) : List Char :=
  if n < 0x100 then '\\' :: 'x' :: hexPadded 2 n
  else if n < 0x10000 then '\\' :: 'u' :: hexPadded 4 n
  else '\\' :: 'U' :: hexPadded 8 n

/-- A character inside quotes. -/
def escapeChar (shown : Char → Bool) (quote c : Char) : List Char :=
  if c = quote ∨ c = '\\' then ['\\', c]
  else if c = '\n' then ['\\', 'n']
  else if c = '\r' then ['\\', 'r']
  else if c = '\t' then ['\\', 't']
  else if shown c then [c]
  else escapeCode c.toNat

/-- The quote that surrounds a text. -/
def quoteFor (cs : List Char) : Char :=
  if cs.contains '\'' && !cs.contains '"' then '"' else '\''

/-- **A text between quotes.** -/
def quoted (s : String) : String :=
  let cs := s.toList
  let q := quoteFor cs
  String.ofList (q :: cs.flatMap (escapeChar isPrintable q) ++ [q])

/-- Octets between quotes, marked by a leading `b`. -/
def quotedOctets (octets : List UInt8) : String :=
  let cs := octets.map fun o => Char.ofNat o.toNat
  let q := quoteFor cs
  let shown := fun c : Char => 0x20 ≤ c.toNat && c.toNat < 0x7f
  String.ofList ('b' :: q :: cs.flatMap (escapeChar shown q) ++ [q])

end Conform.Text
