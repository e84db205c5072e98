import Conform.Number.Numeral

/-!
# Tokens of a pattern

A pattern is read as tokens: a plain character, or a backslash with the character after it. A
backslash at the very end is a token of its own, which no reading of a pattern gets past.
-/

namespace Conform

/-- **A token of a pattern.** -/
inductive PatternToken where
  | plain (c : Char)
  | escape (c : Char)
  | danglingEscape
deriving DecidableEq, Repr

namespace PatternToken

/-- The tokens of a text. -/
def ofChars : List Char → List PatternToken
  | [] => []
  | ['\\'] => [danglingEscape]
  | '\\' :: c :: cs => escape c :: ofChars cs
  | c :: cs => plain c :: ofChars cs

end PatternToken

/-- At most `n` plain tokens at the front whose characters pass a test, and the rest. -/
def takePlain (test : Char → Bool) : (n : Nat) → List PatternToken → List Char × List PatternToken
  | 0, ts => ([], ts)
  | _, [] => ([], [])
  | n + 1, t :: ts =>
    match t with
    | .plain c =>
      if test c then
        let (cs, rest) := takePlain test n ts
        (c :: cs, rest)
      else ([], t :: ts)
    | _ => ([], t :: ts)

/-- The characters before the first plain `stop`, and the tokens after it. -/
def takeUntil (stop : Char) : List PatternToken → Option (List Char × List PatternToken)
  | [] => none
  | .danglingEscape :: _ => none
  | .plain c :: ts =>
    if c = stop then some ([], ts)
    else (takeUntil stop ts).map fun (cs, rest) => (c :: cs, rest)
  | .escape c :: ts => (takeUntil stop ts).map fun (cs, rest) => ('\\' :: c :: cs, rest)

/-- Whether a character is an octal digit. -/
def isOctalDigit (c : Char) : Bool := '0' ≤ c && c ≤ '7'

/-- Whether a character is a hexadecimal digit. -/
def isHexDigit (c : Char) : Bool := (hexDigit? c).isSome

end Conform
