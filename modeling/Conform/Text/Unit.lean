/-!
# Code units

Documents may spell a character beyond the first 65536 by two escapes, a *high* and a *low*
surrogate. `ofUnits` reads code units of either sort: a pair of surrogates is one character, and
any other unit is the character of its code point. A surrogate that stands alone is no character
and is read as the replacement character.
-/

namespace Conform.Text

/-- Whether a unit is the first half of a pair. -/
def isHighSurrogate (u : Nat) : Bool := 0xD800 ≤ u && u < 0xDC00

/-- Whether a unit is the second half of a pair. -/
def isLowSurrogate (u : Nat) : Bool := 0xDC00 ≤ u && u < 0xE000

/-- The character of a unit that is not part of a pair. -/
def charOfUnit (u : Nat) : Char :=
  if 0xD800 ≤ u ∧ u < 0xE000 then '\uFFFD' else Char.ofNat u

/-- The character of a pair. -/
def charOfPair (high low : Nat) : Char :=
  Char.ofNat (0x10000 + (high - 0xD800) * 0x400 + (low - 0xDC00))

/-- **The characters that code units spell.** -/
def ofUnits : List Nat → List Char
  | [] => []
  | [u] => [charOfUnit u]
  | u :: v :: us =>
    if isHighSurrogate u && isLowSurrogate v then charOfPair u v :: ofUnits us
    else charOfUnit u :: ofUnits (v :: us)

end Conform.Text
