import Conform.Number.Numeral
import Conform.Text.Blank
import Conform.Text.Identifier

/-!
# Numbers spelled in any script

Where a text is read as a number and nothing has been said about its form, there may be blanks
around the number, and its digits may be those of any script. In a text of ASCII characters alone
the blanks are the space and the controls from tabulator to carriage return; in any other text
every blank beyond ASCII counts as well, but not the separator controls.

The digits of an integer may have single low lines between them, and the letter of its base
after a zero in front of them.
-/

namespace Conform

/-- A digit of some script as an ASCII digit, and a blank beyond ASCII as a space. -/
def inAscii (c : Char) : Char :=
  if c.toNat < 0x7f then c
  else if Text.isBlank c then ' '
  else
    match Text.Table.decimalDigit.find? fun r => r.1 ≤ c.toNat && c.toNat ≤ r.2 with
    | some r => Char.ofNat (48 + (c.toNat - r.1) % 10)
    | none => c

/-- The characters of a spelled number, its digits in ASCII and without blanks around it. -/
def spelling (cs : List Char) : List Char := Text.trimChars Text.isAsciiBlank (cs.map inAscii)

/-- The letter that may stand after a zero in front of digits to a base. -/
def baseLetter? (base : Nat) : Option Char := [(2, 'b'), (8, 'o'), (16, 'x')].lookup base

/-- Digits without what stands for their base in front of them: a zero, a letter, and perhaps a
low line. -/
def dropBase (base : Nat) (cs : List Char) : List Char :=
  match cs with
  | '0' :: c :: ds =>
    if baseLetter? base = some (asciiLower c) then
      match ds with
      | '_' :: ds => ds
      | ds => ds
    else cs
  | _ => cs

/-- Whether a character is a digit to a base. -/
def isDigitTo (base : Nat) (c : Char) : Bool := (hexDigit? c).any fun d => decide (d < base)

/-- **The integer to a base that characters spell.** -/
def spelledInteger? (base : Nat) (cs : List Char) : Option Int :=
  let (negative, ds) := takeSign (spelling cs)
  let groups := ((String.ofList (dropBase base ds)).splitOn "_").map (·.toList)
  if groups.all fun g => !g.isEmpty && g.all (isDigitTo base) then
    let n : Int := ofDigits base groups.flatten
    some (if negative then -n else n)
  else none

/-- **The floating-point number that characters spell.** -/
def spelledFloat? (cs : List Char) : Option Binary64 := Binary64.ofChars? (spelling cs)

end Conform
