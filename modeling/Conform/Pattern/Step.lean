import Conform.Pattern.Capture
import Conform.Pattern.Letter

/-!
# Steps through a text

What a single atom does at a position of a text: an anchor holds or does not hold there, a
reference matches again what its group has matched, and any other atom accepts the character that
stands there or not.
-/

namespace Conform

/-- Whether an anchor holds at a position of a text. -/
def Anchor.holds (text : Array Nat) (f : Flags) (position : Nat) : Anchor → Bool
  | textStart => position == 0
  | textEnd => position == text.size
  | lineStart => position == 0 || (f.multiline && text[position - 1]? == some lineFeed)
  | lineEnd =>
    position == text.size ||
      (text[position]? == some lineFeed && (f.multiline || position + 1 == text.size))
  | wordEdge => text.size != 0 && atEdge
  | noWordEdge => text.size != 0 && !atEdge
where
  /-- Whether there is a word character on just one side of the position. -/
  atEdge : Bool :=
    let isWord := fun (c : Option Nat) => (c.map fun c => f.inClass c .word).getD false
    isWord text[position]? != (position != 0 && isWord text[position - 1]?)

/-- Whether the `n` characters from one position on stand at another one too. -/
def repeatsAt (text : Array Nat) (f : Flags) (start : Nat) : (n position : Nat) → Bool
  | 0, _ => true
  | n + 1, position =>
    match text[start]?, text[position]? with
    | some c, some d => f.sameAgain c d && repeatsAt text f (start + 1) n (position + 1)
    | _, _ => false

/-- Whether the character at a position is one that an atom accepts. -/
def Atom.acceptsAt (text : Array Nat) (f : Flags) (a : Atom) (position : Nat) : Bool :=
  text[position]?.any fun c => a.accepts f c

/-- The position after what an atom matches. -/
def Atom.step? (text : Array Nat) (f : Flags) (marks : Marks) (position : Nat) (a : Atom) :
    Option Nat :=
  match a with
  | .anchor x => if x.holds text f position then some position else none
  | .backReference g => do
    let (start, stop) ← marks.captured? g
    if repeatsAt text f start (stop - start) position then some (position + (stop - start))
    else none
  | a => if a.acceptsAt text f position then some (position + 1) else none

end Conform
