import Conform.Pattern.Attempt
import Conform.Pattern.Opening
import Conform.Pattern.Step

/-!
# Repeating a single character

An atom that tests one character is repeated without an attempt for each round: the characters
that it accepts are counted, and what follows is tried after as many of them as the greed of the
repetition says. Where too little of the text is left for the least number of rounds, nothing is
counted.
-/

namespace Conform

/-- Whether one more round is allowed. -/
def allowsRound (count : Nat) : Option Nat → Bool
  | none => true
  | some most => decide (count < most)

/-- The number of characters from a position on that an atom accepts, at most `limit`. -/
def countAccepted (text : Array Nat) (f : Flags) (a : Atom) : (limit position : Nat) → Nat
  | 0, _ => 0
  | limit + 1, position =>
    if a.acceptsAt text f position then countAccepted text f a limit (position + 1) + 1 else 0

/-- Goes on after `least` characters and `extra` more, and gives the latter back one by one. What
begins with a single character is tried only where that stands. -/
def giveBack (text : Array Nat) (next : Option Nat) (inRounds : Bool) (earlier : Marks)
    (least : Nat) (k : Continuation) (position : Nat) : (extra : Nat) → MatchState → Attempt
  | extra, s =>
    let p := position + least + extra
    let tried :=
      if next.isSome && text[p]? != next then .failure s
      else (k p (s.moveTo p)).orElse fun t => .failure (t.restore inRounds earlier)
    match extra with
    | 0 => tried
    | extra + 1 =>
      tried.orElse (giveBack text next inRounds earlier least k position extra)

/-- Goes on after `count` characters, and takes one more each time that this fails. -/
def takeMore (text : Array Nat) (f : Flags) (a : Atom) (most : Option Nat) (inRounds : Bool)
    (earlier : Marks) (k : Continuation) : (fuel count position : Nat) → MatchState → Attempt
  | 0, _, _, s => .failure s
  | fuel + 1, count, p, s =>
    (k p (s.moveTo p)).orElse fun t =>
      let t := (t.restore inRounds earlier).moveTo p
      if a.acceptsAt text f p then
        let t := if a.countsSingly f then t.moveTo (p + 1) else t
        if allowsRound count most then
          takeMore text f a most inRounds earlier k fuel (count + 1) (p + 1) t
        else .failure t
      else .failure t

/-- **Repeats an atom that tests one character.** -/
def repeatSingle (text : Array Nat) (f : Flags) (a : Atom) (greed : Greed) (least : Nat)
    (most : Option Nat) (inRounds : Bool) (next : Option Nat) (k : Continuation) : Continuation :=
  fun p s =>
    let left := text.size - p
    let counted := fun count => if a.countsSingly f then s.moveTo (p + count) else s.moveTo p
    if left < least then .failure s
    else
      match greed with
      | .greedy =>
        let count := countAccepted text f a (most.elim left (min left)) p
        if count < least then .failure (counted count)
        else giveBack text next inRounds s.marks least k p (count - least) (counted count)
      | .lazy =>
        let count := countAccepted text f a least p
        if count < least then .failure (counted count)
        else takeMore text f a most inRounds s.marks k (left + 1) count (p + count) (counted count)
      | .possessive =>
        let count := countAccepted text f a (most.elim left (min left)) p
        if count < least then .failure (counted count) else k (p + count) (counted count)

end Conform
