import Conform.Number.Numeral
import Conform.Text.Ranges
import Conform.Text.Table.Name.Ancient
import Conform.Text.Table.Name.Brahmic
import Conform.Text.Table.Name.Cuneiform
import Conform.Text.Table.Name.EastAsian
import Conform.Text.Table.Name.Emblem
import Conform.Text.Table.Name.European
import Conform.Text.Table.Name.Extended
import Conform.Text.Table.Name.Further
import Conform.Text.Table.Name.Indic
import Conform.Text.Table.Name.Minority
import Conform.Text.Table.Name.Notation
import Conform.Text.Table.Name.Operator
import Conform.Text.Table.Name.Pictograph
import Conform.Text.Table.Name.Presentation
import Conform.Text.Table.Name.Punctuation
import Conform.Text.Table.Name.Semitic
import Conform.Text.Table.Name.Shape
import Conform.Text.Table.Name.Shorthand
import Conform.Text.Table.Name.Syllabic

/-!
# Names of characters

`Text.codeNamed?` finds the character that has a given name. Most names are tabulated; the name
of a Korean syllable spells its letters, and that of a unified ideograph has its code. Capitals
and small letters are the same in a tabulated name, but not in one that is made by a rule.

Some characters have further names beside their own. Sequences of characters have names too, but
a name of a sequence is none of a character.
-/

namespace Conform.Text

/-! ## Names that are tabulated -/

/-- All runs of names. -/
def nameRuns : List Table.NameRun :=
  [Table.europeanNames, Table.semiticNames, Table.indicNames, Table.syllabicNames,
    Table.extendedNames, Table.punctuationNames, Table.shapeNames, Table.operatorNames,
    Table.eastAsianNames, Table.minorityNames, Table.presentationNames, Table.ancientNames,
    Table.brahmicNames, Table.cuneiformNames, Table.shorthandNames, Table.notationNames,
    Table.emblemNames, Table.pictographNames].flatten

/-- What is left of a list of characters after others in front of it. -/
def dropLead? : (lead cs : List Char) → Option (List Char)
  | [], cs => some cs
  | l :: lead, c :: cs => if l = c then dropLead? lead cs else none
  | _ :: _, [] => none

/-- The character of a run with a name. -/
def codeInRun? (name : List Char) (r : Table.NameRun) : Option Nat := do
  let rest ← dropLead? r.lead.toList name
  let index ← (r.rests.flatMap fun row => row.splitOn ",").idxOf? (String.ofList rest)
  return r.first + index

/-- The value of capital hexadecimal digits, four or five of them. -/
def hexName? (digits : List Char) : Option Nat :=
  if (digits.length = 4 ∨ digits.length = 5) ∧
      digits.all fun c => isDigit c || ('A' ≤ c && c ≤ 'F') then some (ofDigits 16 digits)
  else none

/-- The character of a run of coded names with a name. -/
def codeInCodedRun? (name : List Char) (r : Table.CodedNameRun) : Option Nat := do
  let digits ← dropLead? r.lead.toList name
  let code ← hexName? digits
  if r.first ≤ code ∧ code ≤ r.last ∧ (digits.length = 4 ∨ 0x10000 ≤ code) then some code
  else none

/-- The character that has a name as one of its further names. -/
def codeFurtherNamed? (name : List Char) : Option Nat :=
  (Table.furtherNames.find? fun e => e.2.contains (String.ofList name)).map (·.1)

/-! ## Names that are made by a rule -/

/-- The initial letters of Korean syllables. -/
def koreanInitials : List String :=
  ["G", "GG", "N", "D", "DD", "R", "M", "B", "BB", "S", "SS", "", "J", "JJ", "C", "K", "T", "P",
    "H"]

/-- The vowels of Korean syllables. -/
def koreanVowels : List String :=
  ["A", "AE", "YA", "YAE", "EO", "E", "YEO", "YE", "O", "WA", "WAE", "OE", "YO", "U", "WEO", "WE",
    "WI", "YU", "EU", "YI", "I"]

/-- The final letters of Korean syllables. -/
def koreanFinals : List String :=
  ["", "G", "GG", "GS", "N", "NJ", "NH", "D", "L", "LG", "LM", "LB", "LS", "LT", "LP", "LH", "M",
    "B", "BS", "S", "SS", "NG", "J", "C", "K", "T", "P", "H"]

/-- The index of the longest of some texts that stands in front, and what follows it. -/
def takeLongest? (texts : List String) (cs : List Char) : Option (Nat × List Char) :=
  texts.zipIdx.foldl (fun best (t, index) =>
    match dropLead? t.toList cs with
    | none => best
    | some rest =>
      if best.any fun b => b.2.length ≤ rest.length then best else some (index, rest)) none

/-- The Korean syllable with given letters: the longest initial letter that fits, then the
longest vowel, then the longest final letter, which is the rest. -/
def koreanSyllable? (letters : List Char) : Option Nat := do
  let (initial, cs) ← takeLongest? koreanInitials letters
  let (vowel, cs) ← takeLongest? koreanVowels cs
  let (final, cs) ← takeLongest? koreanFinals cs
  if cs.isEmpty then some (0xac00 + (initial * 21 + vowel) * 28 + final) else none

/-- The unified ideographs. -/
def unifiedIdeographs : List (Nat × Nat) := [
  (0x3400, 0x4dbf), (0x4e00, 0x9fff), (0x20000, 0x2a6df), (0x2a700, 0x2b738), (0x2b740, 0x2b81d),
  (0x2b820, 0x2cea1), (0x2ceb0, 0x2ebe0), (0x30000, 0x3134a)]

/-- The unified ideograph with a code in hexadecimal digits. -/
def ideograph? (digits : List Char) : Option Nat :=
  (hexName? digits).filter (inRanges unifiedIdeographs)

/-! ## All names -/

/-- **The code point of the character with a name.** -/
def codeNamed? (name : List Char) : Option Nat :=
  match dropLead? "HANGUL SYLLABLE ".toList name with
  | some letters => koreanSyllable? letters
  | none =>
    match dropLead? "CJK UNIFIED IDEOGRAPH-".toList name with
    | some digits => ideograph? digits
    | none =>
      let name := name.map asciiUpper
      (nameRuns.findSome? (codeInRun? name)) <|>
        (Table.codedNames.findSome? (codeInCodedRun? name)) <|> codeFurtherNamed? name

end Conform.Text
