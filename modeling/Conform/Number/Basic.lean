import Conform.Number.Shortest

/-!
# Numbers and their text

A `Number` is an integer of any size or a floating-point number. Comparison between the two is
exact: both are placed on the extended real line (`Number.position?`), and a big integer is never
rounded. The datum that is no number has no place, so it is neither below nor above nor equal to
anything. Where a number is looked for in a list or among keys, it is found all the same if the very
same object is there (`Number.alike`).

`Number.text` writes an integer in decimal digits and a floating-point number in its shortest
decimal, laid out as the record `FloatLayout.plain` says. `Number.boundText` is the text of a
bound in a message, where a floating-point number without a fraction is written as the integer.
-/

namespace Conform

/-- **A number**: an integer of any size, or a floating-point number. -/
inductive Number where
  | int (n : Int)
  | float (x : Binary64)
deriving DecidableEq, Repr, Inhabited

/-- **How a floating-point number is laid out.** -/
structure FloatLayout where
  /-- The least decimal exponent that is written positionally. -/
  leastPositional : Int
  /-- The least decimal exponent above those that are written positionally. -/
  positionalBelow : Int
  /-- The least number of digits of a written exponent. -/
  exponentDigits : Nat

/-- Positional from `0.0001` up to `10 ^ 16`, elsewhere with a signed exponent of at least two
digits. -/
def FloatLayout.plain : FloatLayout := ⟨-4, 16, 2⟩

namespace FloatLayout

/-- The exponent part of a number in scientific form. -/
def exponentText (f : FloatLayout) (d : Int) : String :=
  let digits := d.natAbs.repr
  "e" ++ (if d < 0 then "-" else "+") ++
    String.ofList (List.replicate (f.exponentDigits - digits.length) '0') ++ digits

/-- The decimal `digits`, whose leading digit stands for units of `10 ^ d`. -/
def magnitudeText (f : FloatLayout) (digits : List Char) (d : Int) : String :=
  if f.leastPositional ≤ d ∧ d < f.positionalBelow then
    if d < 0 then
      "0." ++ String.ofList (List.replicate (-d - 1).toNat '0' ++ digits)
    else
      let whole := d.toNat + 1
      if digits.length ≤ whole then
        String.ofList (digits ++ List.replicate (whole - digits.length) '0') ++ ".0"
      else
        String.ofList (digits.take whole) ++ "." ++ String.ofList (digits.drop whole)
  else
    let tail := digits.drop 1
    String.ofList (digits.take 1) ++
      (if tail.isEmpty then "" else "." ++ String.ofList tail) ++ f.exponentText d

end FloatLayout

/-- The digits without the zeros at their end; a lone zero stays. -/
def trimZeros (digits : List Char) : List Char :=
  match (digits.reverse.dropWhile (· == '0')).reverse with
  | [] => ['0']
  | ds => ds

/-- **The text of a floating-point number**: its shortest decimal. -/
def Binary64.text (f : FloatLayout) : Binary64 → String
  | .notANumber _ => "nan"
  | .infinity s => (if s then "-" else "") ++ "inf"
  | .finite s m e =>
    let sign := if s then "-" else ""
    if m = 0 then sign ++ "0.0"
    else
      let (c, exponent) := shortest m e
      let digits := Nat.toDigits 10 c
      sign ++ f.magnitudeText (trimZeros digits) (exponent + digits.length - 1)

namespace Number

/-- The place of a number on the extended real line. -/
def position? : Number → Option Position
  | .int n => some (.finite n 0)
  | .float x => x.position?

/-- Strictly below. -/
def lt (a b : Number) : Bool :=
  match a.position?, b.position? with
  | some p, some q => p.lt q
  | _, _ => false

/-- Numerically equal. -/
def same (a b : Number) : Bool :=
  match a.position?, b.position? with
  | some p, some q => p.same q
  | _, _ => false

/-- Whether two data that are no numbers are one and the same object. -/
def isSameObject : Number → Number → Bool
  | .float (.notANumber (some a)), .float (.notANumber (some b)) => a == b
  | _, _ => false

/-- **Whether a number is found where another is listed**: the two are equal, or they are one and
the same datum that is no number. -/
def alike (a b : Number) : Bool := a.same b || a.isSameObject b

/-- Whether the number is an integer, however it is kept. -/
def isWhole : Number → Bool
  | .int _ => true
  | .float x => x.isWhole

/-- The text of a number. -/
def text : Number → String
  | .int n => toString n
  | .float x => x.text .plain

/-- The text of a bound: a whole number is written as the exact integer. -/
def boundText : Number → String
  | .int n => toString n
  | .float x =>
    match x.isWhole, x.truncate? with
    | true, some n => toString n
    | _, _ => x.text .plain

end Number

end Conform
