import Conform.Pattern.Error
import Conform.Pattern.Token
import Conform.Pattern.Regex
import Conform.Text.Name

/-!
# Escapes

What a backslash and the character after it mean: a class of characters, an anchor, a single
character given by a letter, by its code or by its name, or a reference to a group. Inside a set
there are no anchors and no references, and `\b` is the backspace.

An escape of an ASCII letter without a meaning is refused; any other character stands for
itself.
-/

namespace Conform

/-- **What an escape means.** -/
inductive EscapeMeaning where
  | code (n : Nat)
  | ofClass (c : CharClass) (complement : Bool)
  | anchor (a : Anchor)
  | backReference (group : Nat)
deriving DecidableEq, Repr

namespace EscapeMeaning

/-- The characters with a name of one letter. -/
def namedCode? : Char → Option Nat
  | 'a' => some 7
  | 'b' => some 8
  | 'f' => some 12
  | 'n' => some 10
  | 'r' => some 13
  | 't' => some 9
  | 'v' => some 11
  | '\\' => some 92
  | _ => none

/-- The classes, a capital letter being the complement. -/
def class? : Char → Option EscapeMeaning
  | 'd' => some (.ofClass .digit false)
  | 'D' => some (.ofClass .digit true)
  | 's' => some (.ofClass .space false)
  | 'S' => some (.ofClass .space true)
  | 'w' => some (.ofClass .word false)
  | 'W' => some (.ofClass .word true)
  | _ => none

/-- The anchors. -/
def anchor? : Char → Option EscapeMeaning
  | 'A' => some (.anchor .textStart)
  | 'b' => some (.anchor .wordEdge)
  | 'B' => some (.anchor .noWordEdge)
  | 'Z' => some (.anchor .textEnd)
  | _ => none

/-- Whether a character is an ASCII letter. -/
def isAsciiLetter (c : Char) : Bool := ('a' ≤ c && c ≤ 'z') || ('A' ≤ c && c ≤ 'Z')

/-- The largest code point. -/
def lastCode : Nat := 0x10ffff

/-- The largest code that octal digits may give. -/
def lastOctal : Nat := 0o377

/-- A code of just `n` hexadecimal digits. -/
def hexCode (n : Nat) (ts : List PatternToken) : Except PatternError (Nat × List PatternToken) :=
  let (ds, rest) := takePlain isHexDigit n ts
  let value := ofDigits 16 ds
  if ds.length = n ∧ value ≤ lastCode then return (value, rest) else throw .malformed

/-- A code of octal digits. -/
def octalCode (digits : List Char) (rest : List PatternToken) :
    Except PatternError (EscapeMeaning × List PatternToken) :=
  let value := ofDigits 8 digits
  if value ≤ lastOctal then return (.code value, rest) else throw .malformed

/-- A code by the name of its character, in braces. -/
def nameCode (ts : List PatternToken) : Except PatternError (Nat × List PatternToken) :=
  match ts with
  | .plain '\x7b' :: ts =>
    match takeUntil '\x7d' ts with
    | some (name, rest) =>
      match Text.codeNamed? name with
      | some n => return (n, rest)
      | none => throw .malformed
    | none => throw .malformed
  | _ => throw .malformed

/-- The meaning of an escape that is no class, no anchor and no reference. -/
def ofCode (c : Char) (ts : List PatternToken) :
    Except PatternError (EscapeMeaning × List PatternToken) :=
  let hex := fun n => do
    let (value, rest) ← hexCode n ts
    return (.code value, rest)
  match c with
  | 'x' => hex 2
  | 'u' => hex 4
  | 'U' => hex 8
  | 'N' => do
    let (value, rest) ← nameCode ts
    return (.code value, rest)
  | c => if isAsciiLetter c || isDigit c then throw .malformed else return (.code c.toNat, ts)

/-- **The meaning of an escape in a set.** -/
def inSet (c : Char) (ts : List PatternToken) :
    Except PatternError (EscapeMeaning × List PatternToken) :=
  match namedCode? c, class? c with
  | some n, _ => return (.code n, ts)
  | none, some m => return (m, ts)
  | none, none =>
    if isOctalDigit c then
      let (ds, rest) := takePlain isOctalDigit 2 ts
      octalCode (c :: ds) rest
    else ofCode c ts

/-- A reference to a group, or a character given by three octal digits. -/
def ofDigit (c : Char) (ts : List PatternToken) :
    Except PatternError (EscapeMeaning × List PatternToken) :=
  match takePlain isDigit 1 ts with
  | ([d], rest) =>
    match takePlain isOctalDigit 1 rest with
    | ([e], rest') =>
      if isOctalDigit c && isOctalDigit d then octalCode [c, d, e] rest'
      else return (.backReference (decimal [c, d]), rest)
    | _ => return (.backReference (decimal [c, d]), rest)
  | _ => return (.backReference (decimal [c]), ts)

/-- **The meaning of an escape outside of sets.** -/
def outside (c : Char) (ts : List PatternToken) :
    Except PatternError (EscapeMeaning × List PatternToken) :=
  match class? c, anchor? c, namedCode? c with
  | some m, _, _ => return (m, ts)
  | none, some m, _ => return (m, ts)
  | none, none, some n => return (.code n, ts)
  | none, none, none =>
    if c = '0' then
      let (ds, rest) := takePlain isOctalDigit 2 ts
      return (.code (ofDigits 8 ds), rest)
    else if isDigit c then ofDigit c ts
    else ofCode c ts

end EscapeMeaning

end Conform
