import Conform.Pattern.Regex
import Conform.Text.Casing
import Conform.Text.Blank
import Conform.Text.Identifier

/-!
# Characters under flags

What a class or a set of characters holds, and when two characters are the same letter, depends
on the flags. Without regard to case characters are compared by their small forms, and small
letters that share a capital form are the same.

A test *folds* if it compares small forms. Without regard to case a single character folds only
if it changes with case, and a set only if one of its members does; what does not fold compares
characters as they are written.
-/

namespace Conform

/-- The code of the end of a line. -/
def lineFeed : Nat := 0xa

namespace Flags

/-- Whether a code point is an ASCII letter. -/
def isAsciiLetter (c : Nat) : Bool := (0x41 ≤ c && c ≤ 0x5a) || (0x61 ≤ c && c ≤ 0x7a)

/-- Whether a code point is an ASCII letter or digit or the low line. -/
def isAsciiWord (c : Nat) : Bool := (0x30 ≤ c && c ≤ 0x39) || c == 0x5f || isAsciiLetter c

/-- Whether a code point is in a class. -/
def inClass (f : Flags) (c : Nat) : CharClass → Bool
  | .digit => if f.ascii then 0x30 ≤ c && c ≤ 0x39 else Text.isDecimalDigit c
  | .space =>
    if f.ascii then c == 0x20 || (0x9 ≤ c && c ≤ 0xd) else Text.inRanges Text.blankRanges c
  | .word => if f.ascii then isAsciiWord c else Text.isWordCode c

/-! ## Case -/

/-- The small form of a code point. -/
def fold (f : Flags) (c : Nat) : Nat :=
  if f.ascii then (if 0x41 ≤ c ∧ c ≤ 0x5a then c + 0x20 else c) else Text.firstLower c

/-- The small letters that count as the same as `c`: itself, and those that share its capital
form. -/
def mates (f : Flags) (c : Nat) : List Nat :=
  if f.ascii then [c] else c :: Text.capitalMates c

/-- The code points whose small form is `c`. -/
def foldSources (f : Flags) (c : Nat) : List Nat :=
  if f.ascii then c :: (if 0x61 ≤ c ∧ c ≤ 0x7a then [c - 0x20] else [])
  else Text.lowerSources c

/-- Whether a code point changes with case. -/
def isCased (f : Flags) (c : Nat) : Bool :=
  if f.ascii then isAsciiLetter c else Text.changesCase c

/-- Whether a code point between two others changes with case. -/
def anyCased (f : Flags) (first last : Nat) : Bool :=
  if f.ascii then (first ≤ 0x5a && 0x41 ≤ last) || (first ≤ 0x7a && 0x61 ≤ last)
  else Text.anyChangesCase first last

/-! ## Sets -/

/-- The last code point of the basic plane. -/
def lastBasic : Nat := 0xffff

/-- Whether a member makes its set fold. -/
def foldsMember (f : Flags) : SetMember → Bool
  | .code n => lastBasic < f.fold n || f.isCased n
  | .range first last => lastBasic < last || f.anyCased first last
  | .ofClass .. => false

/-- Whether a set folds. -/
def foldsSet (f : Flags) (members : List SetMember) : Bool :=
  f.ignoreCase && members.any f.foldsMember

/-- Whether a code point is in a set that does not fold. -/
def holds (f : Flags) (c : Nat) : SetMember → Bool
  | .code n => n == c
  | .range first last => first ≤ c && c ≤ last
  | .ofClass k complement => f.inClass c k != complement

/-- Whether the small letter `c` is in a set that folds. Beyond the basic plane, a single member
is compared as it is written, and a range also with the capital form. -/
def holdsFolded (f : Flags) (c : Nat) : SetMember → Bool
  | .code n => if lastBasic < f.fold n then n == c else (f.mates (f.fold n)).contains c
  | .range first last =>
    let within := fun n => first ≤ n && n ≤ last
    (f.mates c).any (fun m => (f.foldSources m).any fun n => within n && n ≤ lastBasic) ||
      (lastBasic < last && (within c || within (Text.firstUpper c)))
  | .ofClass k complement => f.inClass c k != complement

/-- Whether a code point is in one of the members of a set. -/
def inSet (f : Flags) (members : List SetMember) (c : Nat) : Bool :=
  if f.foldsSet members then members.any (f.holdsFolded (f.fold c))
  else members.any (f.holds c)

/-! ## Single characters -/

/-- Whether a single character folds. -/
def foldsCode (f : Flags) (n : Nat) : Bool := f.ignoreCase && f.isCased n

/-- Whether two code points are the same letter. -/
def sameLetter (f : Flags) (n c : Nat) : Bool :=
  if f.foldsCode n then (f.mates (f.fold n)).contains (f.fold c) else n == c

/-- Whether two code points are the same where a group is matched again. -/
def sameAgain (f : Flags) (c d : Nat) : Bool :=
  if f.ignoreCase then f.fold c == f.fold d else c == d

end Flags

/-! ## Atoms that test one character -/

namespace Atom

/-- Whether an atom tests one character. -/
def isSingle : Atom → Bool
  | code .. | any | set .. => true
  | anchor _ | backReference _ => false

/-- Whether an atom that tests one character accepts a code point. -/
def accepts (f : Flags) (c : Nat) : Atom → Bool
  | code complement n => f.sameLetter n c != complement
  | any => f.dotAll || c != lineFeed
  | set complement members => f.inSet members c != complement
  | anchor _ | backReference _ => false

/-- Whether the characters that an atom accepts are counted one at a time, each count moving on
to the next character. Sets are counted so if they fold, and characters with mates. -/
def countsSingly (f : Flags) : Atom → Bool
  | code _ n => f.foldsCode n && (f.mates (f.fold n)).length != 1
  | set _ members => f.foldsSet members
  | _ => false

end Atom

end Conform
