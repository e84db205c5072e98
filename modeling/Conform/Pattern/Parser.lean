import Conform.Pattern.Alternatives
import Conform.Pattern.Quantifier
import Conform.Pattern.Reader

/-!
# Reading patterns

`Regex.ofPattern` reads the text of a pattern. The grammar is that of alternatives separated by
`|`, each a sequence of items; an item is a character, a set in brackets, an escape, an anchor,
a group or look-around in parentheses, and a quantifier after it repeats it.

A group that neither captures nor sets flags is nothing but its items. Flags for the whole
pattern stand in front of everything else.
-/

namespace Conform

/-! ## Pieces -/

/-- **An item of a sequence that is being read**: a regular expression, or a group that is nothing
but its items. -/
inductive Piece where
  | item (r : Regex)
  | plainGroup (items : List Regex)

namespace Piece

/-- The items of a list of pieces. -/
def items (ps : List Piece) : List Regex :=
  ps.flatMap fun
    | item r => [r]
    | plainGroup rs => rs

/-- What a quantifier after a piece repeats; nothing if the piece is an anchor or repeated
already. -/
def quantified? : Piece → Option Regex
  | item (.atom (.anchor _) _) => none
  | item (.repetition ..) => none
  | item r => some r
  | plainGroup rs => some (.ofSequence rs)

end Piece

namespace PatternReader

/-! ## Escapes and quantifiers -/

/-- An escape outside of sets. -/
def escape (flags : Flags) (c : Char) : PatternReader Regex := do
  let meaning ← reading (EscapeMeaning.outside c)
  match meaning with
  | .code n => return .atom (.code false n) flags
  | .ofClass k complement => return .atom (.set false [.ofClass k complement]) flags
  | .anchor a => return .atom (.anchor a) flags
  | .backReference n =>
    checkReference n
    return .atom (.backReference n) flags

/-- Repeats the last piece, after the quantifier's first character `c`; the pieces come last
first. -/
def quantify (flags : Flags) (c : Char) (pieces : List Piece) : PatternReader (List Piece) := do
  match ← readQuantifier c (← get).rest with
  | none => return .item (.atom (.code false c.toNat) flags) :: pieces
  | some (least, most, rest) =>
    match pieces with
    | [] => malformed
    | p :: ps =>
      match p.quantified? with
      | none => malformed
      | some r =>
        let (greed, rest) := readGreed rest
        setRest rest
        return .item (.repetition greed least most r) :: ps

/-! ## Sequences and groups -/

mutual
/-- **Alternatives**, up to a closing parenthesis or the end. -/
def alternatives : (fuel : Nat) → (top : Bool) → Flags → PatternReader (List Regex)
  | 0, _, _ => malformed
  | fuel + 1, top, flags => do
    let first ← sequence fuel top flags []
    let others ← moreAlternatives fuel top flags
    return joinAlternatives (first :: others)

/-- The alternatives after the first. -/
def moreAlternatives : (fuel : Nat) → (top : Bool) → Flags → PatternReader (List (List Regex))
  | 0, _, _ => malformed
  | fuel + 1, top, flags => do
    if ← accept '|' then
      let wholePattern := (← get).flags
      let rs ← sequence fuel false (if top then wholePattern else flags) []
      return rs :: (← moreAlternatives fuel top flags)
    else return []

/-- **A sequence of items** after the pieces already read, the last of them first. `start` tells
whether flags for the whole pattern may stand here. -/
def sequence : (fuel : Nat) → (start : Bool) → Flags → List Piece → PatternReader (List Regex)
  | 0, _, _, _ => malformed
  | fuel + 1, start, flags, pieces => do
    match ← peek with
    | none | some (.plain '|') | some (.plain ')') => return Piece.items pieces.reverse
    | some .danglingEscape => malformed
    | some (.escape c) =>
      advance
      let r ← escape flags c
      sequence fuel start flags (.item r :: pieces)
    | some (.plain c) =>
      advance
      if flags.verbose && Text.isAsciiBlank c then sequence fuel start flags pieces
      else if flags.verbose && c == '#' then
        modify fun s => { s with rest := afterLine s.rest }
        sequence fuel start flags pieces
      else
        match c with
        | '[' =>
          let a ← reading readSet
          sequence fuel start flags (.item (.atom a flags) :: pieces)
        | '(' =>
          if ← accept '?' then extension fuel start flags pieces
          else
            let p ← captureGroup fuel flags none
            sequence fuel start flags (p :: pieces)
        | '.' => sequence fuel start flags (.item (.atom .any flags) :: pieces)
        | '^' => sequence fuel start flags (.item (.atom (.anchor .lineStart) flags) :: pieces)
        | '$' => sequence fuel start flags (.item (.atom (.anchor .lineEnd) flags) :: pieces)
        | '?' | '*' | '+' | '\x7b' =>
          let pieces ← quantify flags c pieces
          sequence fuel start flags pieces
        | c => sequence fuel start flags (.item (.atom (.code false c.toNat) flags) :: pieces)

/-- The body of a group and its closing parenthesis. -/
def groupBody : (fuel : Nat) → Flags → PatternReader (List Regex)
  | 0, _ => malformed
  | fuel + 1, flags => do
    let rs ← alternatives fuel false flags
    expect ')'
    return rs

/-- A group that captures, after its opening parenthesis. -/
def captureGroup : (fuel : Nat) → Flags → (name : Option String) → PatternReader Piece
  | 0, _, _ => malformed
  | fuel + 1, flags, name => do
    let n ← openGroup name
    let body := Regex.ofSequence (← groupBody fuel flags)
    closeGroup n body
    return .item (.group (some n) body)

/-- What an opening parenthesis and a question mark begin, and the items after it. -/
def extension : (fuel : Nat) → (start : Bool) → Flags → List Piece → PatternReader (List Regex)
  | 0, _, _, _ => malformed
  | fuel + 1, start, flags, pieces => do
    match ← peek with
    | some (.plain c) =>
      match c with
      | '#' =>
        advance
        skipComment
        sequence fuel start flags pieces
      | 'P' =>
        advance
        if ← accept '<' then
          let name ← groupName '>'
          let p ← captureGroup fuel flags (some name)
          sequence fuel start flags (p :: pieces)
        else if ← accept '=' then
          let n ← groupNamed (← groupName ')')
          checkReference n
          sequence fuel start flags (.item (.atom (.backReference n) flags) :: pieces)
        else malformed
      | ':' =>
        advance
        let rs ← groupBody fuel flags
        sequence fuel start flags (.plainGroup rs :: pieces)
      | '>' =>
        advance
        let rs ← groupBody fuel flags
        sequence fuel start flags (.item (.atomic (.ofSequence rs)) :: pieces)
      | '=' | '!' =>
        advance
        let rs ← groupBody fuel flags
        sequence fuel start flags (.item (.lookAhead (c == '!') (.ofSequence rs)) :: pieces)
      | '<' =>
        advance
        let negative ← if ← accept '=' then pure false else do
          expect '!'
          pure true
        let outer := (← get).behindFrom
        modify fun c => { c with behindFrom := some (outer.getD (c.groups.length + 1)) }
        let rs ← alternatives fuel false flags
        modify fun c => { c with behindFrom := outer }
        expect ')'
        let r ← lookBehind negative (.ofSequence rs)
        sequence fuel start flags (.item r :: pieces)
      | '(' =>
        advance
        let n ← condition
        let yes ← sequence fuel false flags []
        let no ← if ← accept '|' then sequence fuel false flags [] else pure []
        expect ')'
        let r := Regex.conditional n (.ofSequence yes) (.ofSequence no)
        sequence fuel start flags (.item r :: pieces)
      | _ =>
        match ← reading readFlags with
        | .forPattern on =>
          if start && pieces.isEmpty then
            setPatternFlags on
            sequence fuel start (← get).flags []
          else malformed
        | .forGroup on off =>
          let inner := off.foldl Flags.turnOff (on.foldl Flags.turnOn flags)
          let rs ← groupBody fuel inner
          sequence fuel start flags (.item (.group none (.ofSequence rs)) :: pieces)
    | _ => malformed
end

end PatternReader

/-! ## Whole patterns -/

/-- Whether a regular expression repeats anything. -/
def Regex.hasRepetition : Regex → Bool
  | .empty | .atom .. => false
  | .seq r s | .alt r s | .conditional _ r s => r.hasRepetition || s.hasRepetition
  | .group _ r | .lookAhead _ r | .lookBehind _ _ r | .atomic r => r.hasRepetition
  | .repetition .. => true

/-- Look behinds of this distance on are refused. -/
def distanceLimit : Nat := 2147483648

/-- **The regular expression that a pattern spells.** -/
def Regex.ofPattern (source : String) : Except PatternError Regex := do
  let tokens := PatternToken.ofChars source.toList
  let (items, c) ← (PatternReader.alternatives (4 * tokens.length + 4) true {}).run
    { rest := tokens }
  if FlagLetter.conflicting c.letters then throw .conflictingFlags
  if !c.rest.isEmpty then throw .malformed
  if c.conditions.any (c.groups.length < ·) then throw .malformed
  let r := Regex.ofSequence items
  if c.unboundedLookBehind then throw .malformed
  if c.letters.contains .template && r.hasRepetition then throw .malformed
  if distanceLimit ≤ c.farthestBehind then throw .distanceTooLarge
  return r

end Conform
