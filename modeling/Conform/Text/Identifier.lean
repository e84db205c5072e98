import Conform.Text.Ranges
import Conform.Text.Table.Identifier
import Conform.Text.Table.Word

/-!
# Identifiers and words

An identifier starts with a letter or the low line and goes on with letters, marks, digits and
connectors of any script. A word character is a letter, a numeral or the low line.
-/

namespace Conform.Text

/-- Whether a list of characters is an identifier. -/
def isIdentifierChars : List Char → Bool
  | [] => false
  | c :: cs =>
    inRanges Table.identifierStart c.toNat &&
      cs.all fun c => inRanges Table.identifierPart c.toNat

/-- Whether a text is an identifier. -/
def isIdentifier (s : String) : Bool := isIdentifierChars s.toList

/-- Whether a code point is a decimal digit of some script. -/
def isDecimalDigit (code : Nat) : Bool := inRanges Table.decimalDigit code

/-- Whether a code point is a word character. -/
def isWordCode (code : Nat) : Bool := inRanges Table.letterOrNumeral code || code == 0x5f

end Conform.Text
