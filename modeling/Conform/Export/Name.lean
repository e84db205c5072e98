import Conform.Text.Identifier
import Conform.Text.Casing
import Conform.Number.Numeral

/-!
# Names of declarations

The names that declarations get: words joined with capitals, a fresh name beside those that are
taken, and the name of the file that a declaration is written to. A reserved word is no name.
-/

namespace Conform

/-- Words that are no names. -/
def reservedWords : List String :=
  ["False", "None", "True", "and", "as", "assert", "async", "await", "break", "class", "continue",
    "def", "del", "elif", "else", "except", "finally", "for", "from", "global", "if", "import",
    "in", "is", "lambda", "nonlocal", "not", "or", "pass", "raise", "return", "try", "while",
    "with", "yield"]

/-- **Whether a text can be a name.** -/
def isName (s : String) : Bool := Text.isIdentifier s && !reservedWords.contains s

/-- Whether a character belongs to a word: an ASCII letter or digit. -/
def isWordLetter (c : Char) : Bool :=
  isDigit c || ('a' ≤ c && c ≤ 'z') || ('A' ≤ c && c ≤ 'Z')

/-- Characters joined to a name: each first letter of a word is capital, and what is no word is
left out. `inWord` tells whether the character before belongs to a word. -/
def pascalFrom (inWord : Bool) : List Char → List Char
  | [] => []
  | c :: cs =>
    if isWordLetter c then (if inWord then c else asciiUpper c) :: pascalFrom true cs
    else pascalFrom false cs

/-- **The words of a key, joined with capitals.** -/
def pascalCase (key : String) : String := String.ofList (pascalFrom false key.toList)

/-- Characters with a low line before each ASCII capital, except at the start. -/
def separateCapitals (cs : List Char) : List Char :=
  match cs with
  | [] => []
  | c :: cs => c :: cs.flatMap fun d => if 'A' ≤ d ∧ d ≤ 'Z' then ['_', d] else [d]

/-- **A name in small letters**, its words set off by low lines. -/
def snakeCase (name : String) : String :=
  Text.lower (String.ofList (separateCapitals name.toList))

/-- The name itself or the name with the first number from two on that is not taken. One of
the first `taken.length + 1` of these is not. -/
def freshName (taken : List String) (name : String) : String :=
  let numbered := (List.range taken.length).map fun i => name ++ (i + 2).repr
  ((name :: numbered).find? fun s => !taken.contains s).getD name

end Conform
