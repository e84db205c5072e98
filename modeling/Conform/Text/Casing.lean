import Conform.Text.Ranges
import Conform.Text.Table.Casing

/-!
# Small and capital letters

`Text.lower` and `Text.upper` map a whole text with the full case mappings: one character may
become several (`ß` turns into `SS`), and a capital sigma at the end of a word turns into the
final sigma. Whether it is at the end is decided by its neighbours in the text that is mapped:
passing over the characters that are transparent for case, a cased character comes before it and
none after it.

`firstLower` and `firstUpper` give only the first code point of the full form; they serve
comparison without regard to case.
-/

namespace Conform.Text

/-- The code point that a list of runs moves `code` to, if one of them holds it. -/
def shift? (runs : List Table.Run) (code : Nat) : Option Nat :=
  (runs.find? fun r => r.first ≤ code && code ≤ r.last && (code - r.first) % r.step == 0).map
    fun r => ((code : Int) + r.shift).toNat

/-- The first code point of the small form of a code point. -/
def firstLower (code : Nat) : Nat :=
  if code = 0x130 then 0x69 else (shift? Table.lower code).getD code

/-- The first code point of the capital form of a code point. -/
def firstUpper (code : Nat) : Nat :=
  match Table.upperSpecial.lookup code with
  | some (first :: _) => first
  | _ => (shift? Table.upper code).getD code

/-- Whether a code point has a small form or a capital form that begins otherwise than it. -/
def changesCase (code : Nat) : Bool := firstLower code != code || firstUpper code != code

/-- Whether a character is cased. -/
def isCased (c : Char) : Bool := inRanges Table.cased c.toNat

/-- Whether a character is passed over when the context of a letter is looked at. -/
def isCaseIgnorable (c : Char) : Bool := inRanges Table.caseIgnorable c.toNat

/-- Whether a sigma between `before` – the nearest character first – and `after` ends a word. -/
def endsWord (before after : List Char) : Bool :=
  match before.dropWhile isCaseIgnorable with
  | [] => false
  | c :: _ =>
    isCased c &&
      match after.dropWhile isCaseIgnorable with
      | [] => true
      | d :: _ => !isCased d

/-- The small form of a character between `before` and `after`. -/
def lowerChar (before : List Char) (c : Char) (after : List Char) : List Char :=
  if c = 'Σ' then [if endsWord before after then 'ς' else 'σ']
  else if c = 'İ' then ['i', '\u0307']
  else [Char.ofNat (firstLower c.toNat)]

/-- The small form of `cs`, which stands after `before`. -/
def lowerFrom (before : List Char) : List Char → List Char
  | [] => []
  | c :: cs => lowerChar before c cs ++ lowerFrom (c :: before) cs

/-- The capital form of a character. -/
def upperChar (c : Char) : List Char :=
  match Table.upperSpecial.lookup c.toNat with
  | some codes => codes.map Char.ofNat
  | none => [Char.ofNat ((shift? Table.upper c.toNat).getD c.toNat)]

/-- **A text in small letters.** -/
def lower (s : String) : String := String.ofList (lowerFrom [] s.toList)

/-- **A text in capital letters.** -/
def upper (s : String) : String := String.ofList (s.toList.flatMap upperChar)

/-- Whether a run holds a code point between two others. -/
def meetsRun (first last : Nat) (r : Table.Run) : Bool :=
  let start := r.first + (first - r.first + r.step - 1) / r.step * r.step
  decide (start ≤ min last r.last)

/-- Whether a code point between two others changes with case. -/
def anyChangesCase (first last : Nat) : Bool :=
  let within := fun n => first ≤ n && n ≤ last
  Table.lower.any (meetsRun first last) || Table.upper.any (meetsRun first last) ||
    within 0x130 || Table.upperSpecial.any fun e => within e.1

/-- The small characters that share their capital form with the small character `code`. -/
def capitalMates (code : Nat) : List Nat :=
  match Table.sameCapital.find? (·.contains code) with
  | some mates => mates.filter (· != code)
  | none => []

/-- The code points whose small form begins with `code`. -/
def lowerSources (code : Nat) : List Nat :=
  (if firstLower code = code then [code] else []) ++ (if code = 0x69 then [0x130] else []) ++
    Table.lower.filterMap fun r =>
      let source := ((code : Int) - r.shift).toNat
      if r.first ≤ source && source ≤ r.last && (source - r.first) % r.step == 0 &&
          ((source : Int) + r.shift).toNat == code then some source
      else none

end Conform.Text
