import Conform.Pattern.Capture

/-!
# Attempts to match

An attempt takes a position, and a state that it hands on whether it succeeds or fails. The state
keeps the marks of the groups and a *cursor*: the position at which matching was last taken up or
completed. A failure leaves the cursor where it came to. The cursor is what a possessive
repetition goes by: it goes on from the cursor after each of its rounds, the one that failed
included, so a last round that looked ahead or behind moves it.

What a failed attempt has done to the marks is undone before the next one. Inside the rounds of a
repetition that can give rounds back all marks are set back; elsewhere only those that are new
are dropped, which is the same unless a possessive repetition has come to a group again.
-/

namespace Conform

/-- **The state of matching.** -/
structure MatchState where
  /-- The position at which matching was last taken up or completed. -/
  cursor : Nat
  marks : Marks := {}

namespace MatchState

/-- The state with the cursor at a position. -/
def moveTo (s : MatchState) (position : Nat) : MatchState := { s with cursor := position }

/-- The state with the marks of an earlier one: all of them inside rounds, else without those
that are new. -/
def restore (s : MatchState) (inRounds : Bool) (earlier : Marks) : MatchState :=
  { s with marks := if inRounds then earlier else s.marks.cutTo earlier }

end MatchState

/-- **An attempt to match**: whether it succeeds, and the state that it hands on. -/
structure Attempt where
  succeeds : Bool
  state : MatchState

namespace Attempt

/-- A failure. -/
def failure (s : MatchState) : Attempt := ⟨false, s⟩

/-- The attempt, or another one if it fails. -/
def orElse (a : Attempt) (other : MatchState → Attempt) : Attempt :=
  if a.succeeds then a else other a.state

/-- What follows the attempt, if it succeeds. -/
def andThen (a : Attempt) (next : MatchState → Attempt) : Attempt :=
  if a.succeeds then next a.state else a

/-- The attempt; if it fails, then with the cursor at a position. -/
def failingAt (a : Attempt) (position : Nat) : Attempt :=
  a.orElse fun s => failure (s.moveTo position)

end Attempt

/-- What follows from a position on. -/
abbrev Continuation := (position : Nat) → MatchState → Attempt

/-- Nothing follows. -/
def Continuation.stop : Continuation := fun p s => ⟨true, s.moveTo p⟩

end Conform
