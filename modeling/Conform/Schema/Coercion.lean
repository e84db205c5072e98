import Conform.Schema.Issue
import Conform.Text.Blank

/-!
# Lenient reading of scalars

The fields of a schema and of options are read leniently: a truth value may be spelled by a
number or a word, a number by a text, and a text by the octets that encode it. Each function
reads one value, or says what is wrong with it.

A text spells an integer by a sign, digits and perhaps a point with nothing but zeros after it;
single low lines may stand between digits. Zeros may stand in front of the digits, unless a minus
sign does, and low lines among these zeros do not count. A text spells a number if it spells an
integer, and else if it spells a floating-point number, which may have blanks around it or low
lines inside, but not both.
-/

namespace Conform.Coercion

/-- The text that octets encode. -/
def decode? (octets : List UInt8) : Option String :=
  String.fromUTF8? (ByteArray.mk octets.toArray)

/-- The characters of a text or of octets that encode one; `none` inside if they do not. -/
def spelling? : Value → Option (Option (List Char))
  | .text s => some (some s.toList)
  | .bytes octets => some ((decode? octets).map (·.toList))
  | _ => none

/-- Words for false. -/
def falseWords : List String := ["0", "off", "f", "false", "n", "no"]

/-- Words for true. -/
def trueWords : List String := ["1", "on", "t", "true", "y", "yes"]

/-- The truth value that a word spells, in any case. -/
def boolOfChars? (cs : List Char) : Option Bool :=
  let word := String.ofList (cs.map asciiLower)
  if falseWords.contains word then some false
  else if trueWords.contains word then some true
  else none

/-- Whether an integer fits into 64 bits. -/
def fits64 (n : Int) : Bool := -(pow2 63 : Int) ≤ n && n < pow2 63

/-- **A truth value.** -/
def bool : Value → Except IssueCode Bool
  | .bool b => return b
  | .number (.int n) =>
    if n = 0 then return false
    else if n = 1 then return true
    else throw (if fits64 n then .boolParsing else .boolType)
  | .number x =>
    if x.same (.int 0) then return false
    else if x.same (.int 1) then return true
    else throw .boolType
  | v =>
    match spelling? v with
    | none => throw .boolType
    | some cs => (cs.bind boolOfChars?).elim (throw .boolParsing) pure

/-- Characters without single low lines inside. -/
def dropLowLines (cs : List Char) : List Char :=
  let groups := (String.ofList cs).splitOn "_"
  if groups.all (· != "") then cs.filter (· != '_') else cs

/-- Characters without the zeros in front and the low lines among these, unless nothing but a
fraction is left. They start with a digit or a minus sign. -/
def dropZeros? (cs : List Char) : Option (List Char) :=
  match cs.span fun c => c == '0' || c == '_' with
  | ([], _) => if cs.head?.any fun c => isDigit c || c == '-' then some cs else none
  | (zeros, rest) =>
    if zeros.head? != some '0' then none
    else if rest.head?.any isDigit then some rest
    else if rest.head?.all (· == '.') && zeros.getLast? == some '0' then some ('0' :: rest)
    else none

/-- Characters without a point and the zeros after it at their end. -/
def dropFraction (cs : List Char) : List Char :=
  match cs.span (· != '.') with
  | (whole, _ :: zeros) => if zeros.isEmpty || zeros.any (· != '0') then cs else whole
  | _ => cs

/-- The integer that digits spell, of which the first is no zero if there are others, with a
minus sign in front or without. -/
def plainInt? (cs : List Char) : Option Int := do
  let (negative, digits) := match cs with
    | '-' :: ds => (true, ds)
    | ds => (false, ds)
  if digits.isEmpty || !digits.all isDigit || (digits.head? == some '0' && digits.length != 1) then
    none
  return if negative then -(decimal digits : Int) else decimal digits

/-- The integer that a text spells. -/
def intOfChars? (cs : List Char) : Option Int := do
  let cs ← match Text.trimChars Text.isWhiteSpace cs with
    | '+' :: '-' :: _ => none
    | '+' :: cs => some cs
    | cs => some cs
  plainInt? (dropLowLines (dropFraction (← dropZeros? cs)))

/-- The floating-point number that a text spells. -/
def floatOfChars? (cs : List Char) : Option Binary64 :=
  (Binary64.ofChars? (Text.trimChars Text.isWhiteSpace cs)).or
    (Binary64.ofChars? (dropLowLines cs))

/-- An integer. -/
def int : Value → Except IssueCode Int
  | .bool b => return if b then 1 else 0
  | .number (.int n) => return n
  | .number (.float x) =>
    match x.truncate? with
    | none => throw .finiteNumber
    | some n =>
      if !x.isWhole then throw .intFromFloat
      else if -(pow2 63 : Int) < n ∧ n < pow2 63 then return n
      else throw .intParsingSize
  | v =>
    match spelling? v with
    | none => throw .intType
    | some cs => (cs.bind intOfChars?).elim (throw .intParsing) pure

/-- **A bound on a length**: an integer that is not negative. -/
def nat (v : Value) : Except IssueCode Nat := do
  let n ← int v
  if n < 0 then throw .greaterThanEqual else return n.toNat

/-- **A number.** There are two ways to be one, and a value that is none has an issue for
each. -/
def number : Value → Reading Number
  | .bool b => .ok (.int (if b then 1 else 0))
  | .number n => .ok n
  | v =>
    let issues := fun (i f : IssueCode) => Reading.failed (.issues [⟨["int"], i⟩, ⟨["float"], f⟩])
    match spelling? v with
    | none => issues .intType .floatType
    | some none => issues .intParsing .floatParsing
    | some (some cs) =>
      match intOfChars? cs, floatOfChars? cs with
      | some n, _ => .ok (.int n)
      | none, some x => .ok (.float x)
      | none, none => issues .intParsing .floatParsing

/-- **A text.** -/
def text : Value → Except IssueCode String
  | .text s => return s
  | .bytes octets => (decode? octets).elim (throw .stringUnicode) pure
  | _ => throw .stringType

/-- **A list**; a tuple or a set is one too. -/
def list : Value → Except IssueCode (List Value)
  | .list vs | .tuple vs | .set vs => return vs
  | _ => throw .listType

end Conform.Coercion
