import Conform.Number.Spelled
import Conform.Pattern.Flag

/-!
# What is known while a pattern is read

A `PatternReader` reads a pattern from left to right. It keeps the tokens that are left, the
flags of the whole pattern, and the groups met so far, with their names and the widths of those
that are closed.

Groups are numbered from one in the order of their opening parentheses. A reference is to a group
that is closed already; inside a look behind it is to one that was closed before it.
-/

namespace Conform

/-- **What is known while a pattern is read.** -/
structure PatternContext where
  /-- The tokens that are left. -/
  rest : List PatternToken
  /-- The flags of the whole pattern. -/
  flags : Flags := {}
  /-- The letters of the flags that are set for the whole pattern. -/
  letters : List FlagLetter := []
  /-- The widths of the groups in the order of their numbers, from one on; a group that is open
  has none yet. -/
  groups : List (Option Width) := []
  /-- The numbers of the groups with a name. -/
  names : List (String × Nat) := []
  /-- Inside a look behind, the number that the next group had when it began. -/
  behindFrom : Option Nat := none
  /-- The groups that conditions ask for by number. -/
  conditions : List Nat := []
  /-- Whether a look behind has been met whose body has no fixed width. -/
  unboundedLookBehind : Bool := false
  /-- The greatest distance of a look behind. -/
  farthestBehind : Nat := 0

/-- Reading a pattern. -/
abbrev PatternReader := StateT PatternContext (Except PatternError)

namespace PatternReader

/-- The text is no pattern. -/
def malformed {α : Type} : PatternReader α := throw .malformed

/-- The next token, which stays. -/
def peek : PatternReader (Option PatternToken) := return (← get).rest.head?

/-- Drops the next token. -/
def advance : PatternReader Unit := modify fun c => { c with rest := c.rest.drop 1 }

/-- Sets what is left. -/
def setRest (ts : List PatternToken) : PatternReader Unit := modify fun c => { c with rest := ts }

/-- Passes over a plain character if it is next. -/
def accept (c : Char) : PatternReader Bool := do
  if (← peek) = some (.plain c) then
    advance
    return true
  else return false

/-- Passes over a plain character that has to be next. -/
def expect (c : Char) : PatternReader Unit := do
  if !(← accept c) then malformed

/-- Reads what a function reads off the tokens that are left. -/
def reading {α : Type} (f : List PatternToken → Except PatternError (α × List PatternToken)) :
    PatternReader α := do
  let (a, rest) ← f (← get).rest
  setRest rest
  return a

/-- Reads up to a plain character, of which at least one other has to stand in front. -/
def nameUntil (stop : Char) : PatternReader String := do
  match takeUntil stop (← get).rest with
  | some (c :: cs, rest) =>
    setRest rest
    return String.ofList (c :: cs)
  | _ => malformed

/-- A name of a group. -/
def groupName (stop : Char) : PatternReader String := do
  let name ← nameUntil stop
  if Text.isIdentifier name then return name else malformed

/-- The number of the group with a name. -/
def groupNamed (name : String) : PatternReader Nat := do
  match (← get).names.lookup name with
  | some n => return n
  | none => malformed

/-- The width of a group that is closed. -/
def closedWidth? (c : PatternContext) (n : Nat) : Option Width :=
  if n = 0 then none else (c.groups[n - 1]?).join

/-- Checks that a group may be referred to inside the look behind that is being read. -/
def checkBehind (n : Nat) : PatternReader Unit := do
  let c ← get
  match c.behindFrom with
  | some first => if (closedWidth? c n).isNone || first ≤ n then malformed
  | none => pure ()

/-- Checks that a group may be referred to. -/
def checkReference (n : Nat) : PatternReader Unit := do
  if (closedWidth? (← get) n).isNone then malformed
  checkBehind n

/-- Opens a group that captures, and gives its number. -/
def openGroup (name : Option String) : PatternReader Nat := do
  let c ← get
  let n := c.groups.length + 1
  let names ← match name with
    | none => pure c.names
    | some s => if (c.names.lookup s).isSome then malformed else pure ((s, n) :: c.names)
  set { c with groups := c.groups ++ [none], names }
  return n

/-- The width of a regular expression whose references are to groups that are closed. -/
def widthOf (r : Regex) : PatternReader Width := do
  let c ← get
  return r.width fun n => (closedWidth? c n).getD .zero

/-- Closes a group. -/
def closeGroup (n : Nat) (body : Regex) : PatternReader Unit := do
  let w ← widthOf body
  modify fun c => { c with groups := c.groups.set (n - 1) (some w) }

/-- The greatest width that counts as fixed. -/
def greatestFixed : Nat := 4294967294

/-- A look behind, whose body has to have a fixed width. -/
def lookBehind (negative : Bool) (body : Regex) : PatternReader Regex := do
  let w ← widthOf body
  if w.most = some w.least ∧ w.least ≤ greatestFixed then
    modify fun c => { c with farthestBehind := max c.farthestBehind w.least }
    return .lookBehind negative w.least body
  else
    modify fun c => { c with unboundedLookBehind := true }
    return .lookBehind negative 0 body

/-- The group that a condition asks for, by name or by number. -/
def condition : PatternReader Nat := do
  let name ← nameUntil ')'
  let n ←
    if Text.isIdentifier name then groupNamed name
    else
      match spelledInteger? 10 name.toList with
      | some (.ofNat (n + 1)) =>
        modify fun c => { c with conditions := (n + 1) :: c.conditions }
        pure (n + 1)
      | _ => malformed
  checkBehind n
  return n

/-- Passes over a comment, up to the closing parenthesis. -/
def skipComment : PatternReader Unit := do
  match takeUntil ')' (← get).rest with
  | some (_, rest) => setRest rest
  | none => malformed

/-- The tokens after the end of the line. -/
def afterLine : List PatternToken → List PatternToken
  | [] => []
  | [.danglingEscape] => [.danglingEscape]
  | t :: ts => if t = .plain '\n' then ts else afterLine ts

/-- Sets flags for the whole pattern. -/
def setPatternFlags (on : List FlagLetter) : PatternReader Unit :=
  modify fun c => { c with flags := on.foldl Flags.turnOn c.flags, letters := on ++ c.letters }

end PatternReader

end Conform
