import Conform.Value.Basic
import Conform.Text.Unit
import Conform.Document.Fault

/-!
# JSON documents

A document holds a single value between blanks. Beyond the standard the words `NaN`, `Infinity`
and `-Infinity` are numbers. A number with a fraction or an exponent is a floating-point number,
any other an integer. Of the values of a repeated key the last one counts, at the place of the
first. A byte order mark is no blank.
-/

namespace Conform.Json

/-- Whether a character is a blank between tokens. -/
def isSpace (c : Char) : Bool := c == ' ' || c == '\t' || c == '\n' || c == '\r'

/-- Characters without the blanks at their front. -/
def skipSpace (cs : List Char) : List Char := cs.dropWhile isSpace

/-! ## Texts -/

/-- The code unit that four hexadecimal digits spell. -/
def unitOfDigits? (digits : List Char) : Option Nat :=
  if digits.all fun c => (hexDigit? c).isSome then some (ofDigits 16 digits) else none

/-- The code unit of an escape by a letter. -/
def escape? (c : Char) : Option Nat :=
  if c == '"' || c == '\\' || c == '/' then some c.toNat
  else [('b', 8), ('f', 12), ('n', 10), ('r', 13), ('t', 9)].lookup c

/-- The code units of a text after its opening quote, and what follows the closing one. A
control character has to be escaped. -/
def readUnits : List Char → Option (List Nat × List Char)
  | [] => none
  | '"' :: cs => some ([], cs)
  | '\\' :: 'u' :: a :: b :: c :: d :: cs => do
    let u ← unitOfDigits? [a, b, c, d]
    let (us, rest) ← readUnits cs
    return (u :: us, rest)
  | '\\' :: c :: cs => do
    let u ← escape? c
    let (us, rest) ← readUnits cs
    return (u :: us, rest)
  | c :: cs => do
    if c < ' ' then none
    let (us, rest) ← readUnits cs
    return (c.toNat :: us, rest)

/-- A text after its opening quote. -/
def readText (cs : List Char) : Option (String × List Char) := do
  let (us, rest) ← readUnits cs
  return (String.ofList (Text.ofUnits us), rest)

/-! ## Numbers -/

/-- The digits before the point: a zero alone, or digits that do not start with one. -/
def takeWhole : List Char → Option (List Char × List Char)
  | '0' :: cs => some (['0'], cs)
  | cs =>
    let (digits, rest) := cs.span isDigit
    if digits.isEmpty then none else some (digits, rest)

/-- A point with digits after it, if there is one; the digits are given. -/
def takeFraction (cs : List Char) : List Char × List Char :=
  match cs with
  | '.' :: rest =>
    let (digits, rest) := rest.span isDigit
    if digits.isEmpty then ([], cs) else (digits, rest)
  | _ => ([], cs)

/-- A number. -/
def readNumber (cs : List Char) : Option (Number × List Char) := do
  let (negative, cs) := match cs with
    | '-' :: cs => (true, cs)
    | cs => (false, cs)
  let (whole, cs) ← takeWhole cs
  let (fraction, cs) := takeFraction cs
  let (exponent, rest) := takeExponent cs
  if fraction.isEmpty && rest.length == cs.length then
    return (.int (if negative then -(decimal whole : Int) else decimal whole), rest)
  else
    return (.float (Numeral.ofParts negative whole fraction exponent).toBinary64, rest)

/-! ## Values -/

/-- The words that are values. -/
def words : List (String × Value) :=
  [("null", .null), ("true", .bool true), ("false", .bool false),
    ("NaN", .float (.notANumber (some .json))), ("Infinity", .float (.infinity false)),
    ("-Infinity", .float (.infinity true))]

/-- A word at the front. -/
def readWord (cs : List Char) : Option (Value × List Char) :=
  (words.find? fun w => w.1.toList.isPrefixOf cs).map fun w => (w.2, cs.drop w.1.length)

mutual
/-- A value at the front. -/
def readValue : (fuel : Nat) → List Char → Option (Value × List Char)
  | 0, _ => none
  | fuel + 1, cs =>
    match cs with
    | '"' :: cs => (readText cs).map fun (s, rest) => (.text s, rest)
    | '[' :: cs =>
      match skipSpace cs with
      | ']' :: rest => some (.list [], rest)
      | cs => (readItems fuel cs).map fun (vs, rest) => (.list vs, rest)
    | '{' :: cs =>
      match skipSpace cs with
      | '}' :: rest => some (.map [], rest)
      | cs => (readEntries fuel cs).map fun (es, rest) => (Value.ofEntries es, rest)
    | cs =>
      match readWord cs with
      | some found => some found
      | none => (readNumber cs).map fun (n, rest) => (.number n, rest)

/-- The items of a list, the first of them at the front, up to the closing bracket. -/
def readItems : (fuel : Nat) → List Char → Option (List Value × List Char)
  | 0, _ => none
  | fuel + 1, cs => do
    let (v, rest) ← readValue fuel cs
    match skipSpace rest with
    | ']' :: rest => return ([v], rest)
    | ',' :: rest =>
      let (vs, rest) ← readItems fuel (skipSpace rest)
      return (v :: vs, rest)
    | _ => none

/-- The entries of a map, the first of them at the front, up to the closing brace. -/
def readEntries : (fuel : Nat) → List Char → Option (List (Value × Value) × List Char)
  | 0, _ => none
  | fuel + 1, cs =>
    match cs with
    | '"' :: cs => do
      let (key, rest) ← readText cs
      match skipSpace rest with
      | ':' :: rest =>
        let (v, rest) ← readValue fuel (skipSpace rest)
        match skipSpace rest with
        | '}' :: rest => return ([(.text key, v)], rest)
        | ',' :: rest =>
          let (es, rest) ← readEntries fuel (skipSpace rest)
          return ((.text key, v) :: es, rest)
        | _ => none
      | _ => none
    | _ => none
end

/-- **The value that a document holds.** Each character takes at most two steps to read. -/
def read (text : String) : Option Value :=
  let cs := skipSpace text.toList
  match readValue (2 * cs.length + 2) cs with
  | some (v, rest) => if (skipSpace rest).isEmpty then some v else none
  | none => none

end Conform.Json
