import Conform.Pattern.Error
import Conform.Pattern.Token
import Conform.Pattern.Regex

/-!
# Quantifiers

A quantifier tells how often the item before it is repeated: `?`, `*`, `+`, or bounds in braces.
A mark after it says how greedy it is. Braces that hold no bounds are plain characters.
-/

namespace Conform

/-- Numbers of rounds from this one on are refused. -/
def roundLimit : Nat := 4294967295

/-- A number of rounds; without digits there is none. -/
def roundsOf (digits : List Char) (rest : List PatternToken) :
    Except PatternError (Option Nat) :=
  if digits.isEmpty then return none
  else if decimal digits < roundLimit then return some (decimal digits)
  else if rest.head? = some .danglingEscape then throw .malformed
  else throw .repetitionTooLarge

/-- The bounds of a quantifier in braces, after the opening one. What does not have that form is
no quantifier. -/
def readBounds (ts : List PatternToken) :
    Except PatternError (Option (Nat × Option Nat × List PatternToken)) := do
  if ts.head? = some (.plain '\x7d') then return none
  let (lo, ts) := takePlain isDigit ts.length ts
  let (hi, ts) := match ts with
    | .plain ',' :: ts => takePlain isDigit ts.length ts
    | ts => (lo, ts)
  match ts with
  | .plain '\x7d' :: rest =>
    let least ← roundsOf lo rest
    let most ← roundsOf hi rest
    match most with
    | some most => if most < least.getD 0 then throw .malformed
    | none => pure ()
    return some (least.getD 0, most, rest)
  | .danglingEscape :: _ => throw .malformed
  | _ => return none

/-- A quantifier at the front of a pattern, after its first character `c`; an opening brace may
be none. -/
def readQuantifier (c : Char) (ts : List PatternToken) :
    Except PatternError (Option (Nat × Option Nat × List PatternToken)) :=
  match c with
  | '?' => return some (0, some 1, ts)
  | '*' => return some (0, none, ts)
  | '+' => return some (1, none, ts)
  | _ => readBounds ts

/-- The greed of a quantifier, by the mark after it. -/
def readGreed : List PatternToken → Greed × List PatternToken
  | .plain '?' :: ts => (.lazy, ts)
  | .plain '+' :: ts => (.possessive, ts)
  | ts => (.greedy, ts)

end Conform
