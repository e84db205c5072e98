import Conform.Number.Basic

/-!
# Reading numerals

A decimal numeral is a sign, digits, perhaps a fraction and perhaps an exponent. The scanners of
this module are shared by every reader of the library: those of the document formats, the one of
date texts, and the one that lets a schema spell a number as text. Each of them takes its digits
from the front of a list of characters and gives back the rest.
-/

namespace Conform

/-- The value of an ASCII decimal digit. -/
def digit? (c : Char) : Option Nat :=
  if '0' ≤ c ∧ c ≤ '9' then some (c.toNat - 48) else none

/-- Whether a character is an ASCII decimal digit. -/
def isDigit (c : Char) : Bool := '0' ≤ c && c ≤ '9'

/-- The value of an ASCII hexadecimal digit. -/
def hexDigit? (c : Char) : Option Nat :=
  if '0' ≤ c ∧ c ≤ '9' then some (c.toNat - 48)
  else if 'a' ≤ c ∧ c ≤ 'f' then some (c.toNat - 87)
  else if 'A' ≤ c ∧ c ≤ 'F' then some (c.toNat - 55)
  else none

/-- The value of a list of digits to a base, most significant first; characters that are no
digits count as zero. -/
def ofDigits (base : Nat) (digits : List Char) : Nat :=
  digits.foldl (fun n c => base * n + (hexDigit? c).getD 0) 0

/-- The value of a list of decimal digits. -/
def decimal (digits : List Char) : Nat := ofDigits 10 digits

/-- A sign at the front, `true` for minus, and the rest. -/
def takeSign : List Char → Bool × List Char
  | '-' :: cs => (true, cs)
  | '+' :: cs => (false, cs)
  | cs => (false, cs)

/-- **A decimal numeral** `(-1)^negative · coefficient · 10^exponent`. -/
structure Numeral where
  negative : Bool
  coefficient : Nat
  exponent : Int
deriving Repr

/-- The double nearest to a numeral. -/
def Numeral.toBinary64 (n : Numeral) : Binary64 :=
  .ofDecimal n.negative n.coefficient n.exponent

/-- The exponent part at the front, if there is one: `e`, perhaps a sign, and digits. -/
def takeExponent (cs : List Char) : Int × List Char :=
  match cs with
  | c :: rest =>
    if c == 'e' || c == 'E' then
      let (negative, digits) := takeSign rest
      match digits.span isDigit with
      | ([], _) => (0, cs)
      | (ds, rest) => (if negative then -(decimal ds : Int) else decimal ds, rest)
    else (0, cs)
  | [] => (0, cs)

/-- A numeral from its parts: the digits before and after the point, and an exponent. -/
def Numeral.ofParts (negative : Bool) (whole fraction : List Char) (exponent : Int) : Numeral :=
  ⟨negative, decimal (whole ++ fraction), exponent - fraction.length⟩

/-- The numeral that the whole text spells: a sign, digits with a point before, between or after
them, and an exponent. -/
def Numeral.ofChars? (cs : List Char) : Option Numeral :=
  let (negative, cs) := takeSign cs
  let (whole, cs) := cs.span isDigit
  let (fraction, cs) :=
    match cs with
    | '.' :: rest => rest.span isDigit
    | _ => ([], cs)
  let (exponent, cs) := takeExponent cs
  if cs.isEmpty && !(whole.isEmpty && fraction.isEmpty) then
    some (.ofParts negative whole fraction exponent)
  else none

/-- A character with ASCII capitals made small. -/
def asciiLower (c : Char) : Char :=
  if 'A' ≤ c ∧ c ≤ 'Z' then Char.ofNat (c.toNat + 32) else c

/-- A character with ASCII small letters made capital. -/
def asciiUpper (c : Char) : Char :=
  if 'a' ≤ c ∧ c ≤ 'z' then Char.ofNat (c.toNat - 32) else c

/-- **A floating-point number from its text**: a numeral, or the words for infinity and for the
datum that is no number, in any case and with any sign. -/
def Binary64.ofChars? (cs : List Char) : Option Binary64 :=
  let (negative, word) := takeSign cs
  let word := String.ofList (word.map asciiLower)
  if word = "inf" ∨ word = "infinity" then some (.infinity negative)
  else if word = "nan" then some .nan
  else (Numeral.ofChars? cs).map (·.toBinary64)

/-- An integer from its text: a sign and decimal digits. -/
def intOfChars? (cs : List Char) : Option Int :=
  let (negative, digits) := takeSign cs
  if digits.isEmpty || !digits.all isDigit then none
  else some (if negative then -(decimal digits : Int) else decimal digits)

end Conform
