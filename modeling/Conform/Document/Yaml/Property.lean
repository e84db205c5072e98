import Conform.Document.Yaml.Source
import Conform.Number.Numeral

/-!
# Anchors, tags and directives

A node may be given a name by which aliases refer to it, its *anchor*, and the name of its type,
its *tag*. A tag is written in full, or as a handle and a suffix; directives at the front of a
document declare what handles stand for. Octets in a tag may be escaped by a percent sign and
two hexadecimal digits.
-/

namespace Conform.Yaml

/-- **A tag as it is written**: a handle and a suffix, or a full name without a handle. -/
structure TagName where
  handle : Option String
  suffix : String
deriving DecidableEq, Repr

/-- **A directive.** -/
inductive Directive where
  /-- The version of the language. -/
  | version (major : Nat)
  /-- What a handle stands for. -/
  | handle (name stands : String)
  | other
deriving DecidableEq, Repr

/-- Refuses what does not satisfy a condition. -/
def demand (condition : Bool) : Parsed Unit := if condition then pure () else throw .malformed

/-! ## Anchors -/

/-- A name of at least one character, and the rest. -/
def takeName (s : Source) : Parsed (String × Source) := do
  let (name, rest) := s.spanChars isNameChar
  demand !name.isEmpty
  return (String.ofList name, rest)

/-- **The name of an anchor or an alias** after its indicator. -/
def readAnchor (s : Source) : Parsed (String × Source) := do
  let (name, rest) ← takeName s
  let next := rest.peek 0
  demand (isWhite next || isOneOf "?:,]\x7d%@\x60" next)
  return (name, rest)

/-! ## Tags -/

/-- Whether a character may stand in the suffix of a tag. -/
def isTagChar (c : Char) : Bool := isNameChar c || isOneOf ";/?:@&=+$,.!~*'()[]%" c

/-- The octets of escapes at the front. -/
def readOctets : Source → Parsed (List UInt8 × Source)
  | p :: g :: h :: s =>
    if p.char = '%' then
      match hexDigit? g.char, hexDigit? h.char with
      | some a, some b => do
        let (os, rest) ← readOctets s
        return ((16 * a + b).toUInt8 :: os, rest)
      | _, _ => throw .malformed
    else return ([], p :: g :: h :: s)
  | s => if Source.peek s 0 == '%' then throw .malformed else return ([], s)

/-- The characters of a tag's suffix. -/
def tagChars : (fuel : Nat) → Source → Parsed (List Char × Source)
  | 0, s => return ([], s)
  | _, [] => return ([], [])
  | fuel + 1, g :: s =>
    if g.char = '%' then do
      let (octets, rest) ← readOctets (g :: s)
      match String.fromUTF8? (ByteArray.mk octets.toArray) with
      | none => throw .malformed
      | some text =>
        let (cs, rest) ← tagChars fuel rest
        return (text.toList ++ cs, rest)
    else if isTagChar g.char then do
      let (cs, rest) ← tagChars fuel s
      return (g.char :: cs, rest)
    else return ([], g :: s)

/-- The suffix of a tag; it has at least one character. -/
def takeSuffix (s : Source) : Parsed (String × Source) := do
  demand (isTagChar (s.peek 0))
  let (cs, rest) ← tagChars s.length s
  return (String.ofList cs, rest)

/-- A handle: an exclamation mark alone, or two with a name between them. -/
def takeHandle (s : Source) : Parsed (String × Source) := do
  demand (s.peek 0 == '!')
  let rest := s.skip 1
  if rest.peek 0 == ' ' then return ("!", rest)
  let (name, rest) := rest.spanChars isNameChar
  demand (rest.peek 0 == '!')
  return ("!" ++ String.ofList name ++ "!", rest.skip 1)

/-- **A tag** after its exclamation mark; `s` starts with the mark. -/
def readTag (s : Source) : Parsed (TagName × Source) := do
  let next := s.peek 1
  let (tag, rest) ←
    if next == '<' then do
      let (suffix, rest) ← takeSuffix (s.skip 2)
      demand (rest.peek 0 == '>')
      pure (TagName.mk none suffix, rest.skip 1)
    else if isWhite next then pure (TagName.mk none "!", s.skip 1)
    else do
      let (word, _) := (s.skip 1).spanChars fun c => !isSpaceOrEnd c
      let (handle, rest) ← if word.contains '!' then takeHandle s else pure ("!", s.skip 1)
      let (suffix, rest) ← takeSuffix rest
      pure (TagName.mk (some handle) suffix, rest)
  demand (isSpaceOrEnd (rest.peek 0))
  return (tag, rest)

/-! ## Directives -/

/-- The digits at the front, at least one of them, as a number. -/
def takeDigits (s : Source) : Parsed (Nat × Source) := do
  let (digits, rest) := s.spanChars isDigit
  demand !digits.isEmpty
  return (decimal digits, rest)

/-- The version of the language. -/
def readVersion (s : Source) : Parsed (Directive × Source) := do
  let (major, rest) ← takeDigits (s.dropChars (· == ' '))
  demand (rest.peek 0 == '.')
  let (_, rest) ← takeDigits (rest.skip 1)
  demand (isSpaceOrEnd (rest.peek 0))
  return (.version major, rest)

/-- The declaration of a handle. -/
def readHandle (s : Source) : Parsed (Directive × Source) := do
  let (name, rest) ← takeHandle (s.dropChars (· == ' '))
  demand (rest.peek 0 == ' ')
  let (stands, rest) ← takeSuffix (rest.dropChars (· == ' '))
  demand (isSpaceOrEnd (rest.peek 0))
  return (.handle name stands, rest)

/-- **A directive** after its percent sign, up to the end of its line. -/
def readDirective (s : Source) : Parsed (Directive × Source) := do
  let (name, rest) ← takeName s
  demand (isSpaceOrEnd (rest.peek 0))
  let (d, rest) ←
    if name = "YAML" then readVersion rest
    else if name = "TAG" then readHandle rest
    else pure (Directive.other, rest.dropChars fun c => !isLineEnd c)
  return (d, ← rest.skipLineEnd)

end Conform.Yaml
