/-!
# Regular expressions

A `Regex` is the tree of a pattern. Its leaves are *atoms*: a test of one character, an anchor
that tests a position, or a reference back to what a group has matched. Each atom carries the
flags under which it was written, so that the meaning of a tree does not depend on where it
stands. Characters are code points.

`Regex.width` bounds the number of characters that a tree can match; a look behind needs a body
for which the two bounds agree.
-/

namespace Conform

/-- **Flags** that change the meaning of what is written under them. -/
structure Flags where
  /-- Small and capital letters are the same. -/
  ignoreCase : Bool := false
  /-- The line anchors hold at every line. -/
  multiline : Bool := false
  /-- The dot matches the end of a line too. -/
  dotAll : Bool := false
  /-- White space and comments in the pattern do not count. -/
  verbose : Bool := false
  /-- Classes of characters and case are those of ASCII. -/
  ascii : Bool := false
deriving DecidableEq, Repr

/-- **A class of characters** with a letter of its own. -/
inductive CharClass where
  | digit
  | space
  | word
deriving DecidableEq, Repr

/-- **A member of a set of characters.** -/
inductive SetMember where
  | code (n : Nat)
  | range (first last : Nat)
  | ofClass (c : CharClass) (complement : Bool)
deriving DecidableEq, Repr

/-- **A test of a position.** -/
inductive Anchor where
  | textStart
  | textEnd
  | lineStart
  | lineEnd
  | wordEdge
  | noWordEdge
deriving DecidableEq, Repr

/-- **A leaf of a regular expression.** -/
inductive Atom where
  | code (complement : Bool) (n : Nat)
  | any
  | set (complement : Bool) (members : List SetMember)
  | anchor (a : Anchor)
  | backReference (group : Nat)
deriving DecidableEq, Repr

/-- **How a repetition chooses** the number of its rounds: as many as possible, as few as
possible, or as many as possible without ever giving one back. -/
inductive Greed where
  | greedy
  | lazy
  | possessive
deriving DecidableEq, Repr

/-- **A regular expression.** -/
inductive Regex where
  | empty
  | atom (a : Atom) (flags : Flags)
  | seq (r s : Regex)
  | alt (r s : Regex)
  /-- A group; with a number it captures what it matches. -/
  | group (number : Option Nat) (body : Regex)
  /-- Goes on with `yes` if the group has matched, else with `no`. -/
  | conditional (group : Nat) (yes no : Regex)
  | lookAhead (negative : Bool) (body : Regex)
  /-- Tests the `distance` characters before the position. -/
  | lookBehind (negative : Bool) (distance : Nat) (body : Regex)
  /-- Keeps the first way in which the body matches. -/
  | atomic (body : Regex)
  /-- At least `least` and at most `most` rounds of the body. -/
  | repetition (greed : Greed) (least : Nat) (most : Option Nat) (body : Regex)
deriving Repr

/-- **Bounds on the number of characters matched**; without `most` there is no upper bound. -/
structure Width where
  least : Nat
  most : Option Nat
deriving DecidableEq, Repr

namespace Width

/-- No character at all. -/
def zero : Width := ⟨0, some 0⟩

/-- Just one character. -/
def one : Width := ⟨1, some 1⟩

/-- The width of one thing after another. -/
def add (v w : Width) : Width :=
  ⟨v.least + w.least, do return (← v.most) + (← w.most)⟩

/-- The width of one thing or another. -/
def union (v w : Width) : Width :=
  ⟨min v.least w.least, do return max (← v.most) (← w.most)⟩

/-- The width of repeated rounds. -/
def rounds (w : Width) (least : Nat) (most : Option Nat) : Width :=
  ⟨w.least * least,
    if w.most = some 0 ∨ most = some 0 then some 0 else do return (← w.most) * (← most)⟩

end Width

namespace Regex

/-- **The width of a regular expression**, given the widths of the groups it refers to. -/
def width (groups : Nat → Width) : Regex → Width
  | empty => .zero
  | atom (.anchor _) _ => .zero
  | atom (.backReference g) _ => groups g
  | atom _ _ => .one
  | seq r s => (r.width groups).add (s.width groups)
  | alt r s => (r.width groups).union (s.width groups)
  | group _ r => r.width groups
  | conditional _ r s => (r.width groups).union (s.width groups)
  | lookAhead _ _ => .zero
  | lookBehind _ _ _ => .zero
  | atomic r => r.width groups
  | repetition _ least most r => (r.width groups).rounds least most

/-- The widths of the groups of a regular expression, beside those already known. -/
def groupWidths : Regex → (Nat → Width) → Nat → Width
  | empty, known | atom _ _, known => known
  | seq r s, known | alt r s, known | conditional _ r s, known =>
    s.groupWidths (r.groupWidths known)
  | group none r, known | lookAhead _ r, known | lookBehind _ _ r, known | atomic r, known
  | repetition _ _ _ r, known => r.groupWidths known
  | group (some n) r, known =>
    let known := r.groupWidths known
    fun g => if g = n then r.width known else known g

/-- Regular expressions one after another. -/
def ofSequence : List Regex → Regex
  | [] => empty
  | [r] => r
  | r :: rs => seq r (ofSequence rs)

/-- Regular expressions as alternatives, of which there is at least one. If the last one is made
of alternatives itself, a group keeps them apart. -/
def ofAlternatives (r : Regex) : List Regex → Regex
  | [] =>
    match r with
    | alt .. => group none r
    | _ => r
  | s :: rs => alt r (ofAlternatives s rs)

end Regex

end Conform
