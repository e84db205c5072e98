import Conform.Text.Ranges

/-!
# Blank characters

Three sets of blanks are told apart. `isBlank` is what is cut off the ends of a text when it is
trimmed: the white space of Unicode and the four separator controls. `isWhiteSpace` is the white
space alone; it may surround a numeral that is given as text. `isAsciiBlank` is the white space
of ASCII.
-/

namespace Conform.Text

/-- The blanks that trimming removes. -/
def blankRanges : List (Nat × Nat) := [
  (0x9, 0xd), (0x1c, 0x20), (0x85, 0x85), (0xa0, 0xa0), (0x1680, 0x1680), (0x2000, 0x200a),
  (0x2028, 0x2029), (0x202f, 0x202f), (0x205f, 0x205f), (0x3000, 0x3000)]

/-- Whether trimming removes a character. -/
def isBlank (c : Char) : Bool := inRanges blankRanges c.toNat

/-- Whether a character is white space: a blank that is no separator control. -/
def isWhiteSpace (c : Char) : Bool := isBlank c && !(0x1c ≤ c.toNat && c.toNat ≤ 0x1f)

/-- Whether a character is white space of ASCII. -/
def isAsciiBlank (c : Char) : Bool := c == ' ' || (9 ≤ c.toNat && c.toNat ≤ 13)

/-- A list of characters without those of a set at its two ends. -/
def trimChars (drop : Char → Bool) (cs : List Char) : List Char :=
  (((cs.dropWhile drop).reverse).dropWhile drop).reverse

/-- A text without the blanks at its two ends. -/
def trim (s : String) : String := String.ofList (trimChars isBlank s.toList)

end Conform.Text
