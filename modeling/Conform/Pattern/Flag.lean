import Conform.Pattern.Error
import Conform.Pattern.Token
import Conform.Pattern.Regex

/-!
# Flags

Flags are set by letters after an opening parenthesis and a question mark: for the whole pattern
if the parenthesis closes at once, and for a group if a colon follows. Only a group can clear
flags, with the letters after a hyphen.
-/

namespace Conform

/-- **A flag that a pattern can set**, by its letter. -/
inductive FlagLetter where
  | ignoreCase | multiline | dotAll | verbose | ascii | unicode | template
deriving DecidableEq, Repr

namespace FlagLetter

/-- The flag with a given letter. -/
def ofChar? : Char → Option FlagLetter
  | 'i' => some ignoreCase
  | 'm' => some multiline
  | 's' => some dotAll
  | 'x' => some verbose
  | 'a' => some ascii
  | 'u' => some unicode
  | 't' => some template
  | _ => none

/-- Whether the flag chooses the kind of the classes of characters. -/
def choosesClasses (l : FlagLetter) : Bool := l == ascii || l == unicode

/-- Whether the letters choose two kinds of classes. -/
def conflicting (ls : List FlagLetter) : Bool := ls.contains ascii && ls.contains unicode

end FlagLetter

/-- Flags with one more set. -/
def Flags.turnOn (f : Flags) : FlagLetter → Flags
  | .ignoreCase => { f with ignoreCase := true }
  | .multiline => { f with multiline := true }
  | .dotAll => { f with dotAll := true }
  | .verbose => { f with verbose := true }
  | .ascii => { f with ascii := true }
  | .unicode => { f with ascii := false }
  | .template => f

/-- Flags with one of them cleared. -/
def Flags.turnOff (f : Flags) : FlagLetter → Flags
  | .ignoreCase => { f with ignoreCase := false }
  | .multiline => { f with multiline := false }
  | .dotAll => { f with dotAll := false }
  | .verbose => { f with verbose := false }
  | _ => f

/-- **Flags set by a group**: for the whole pattern, or for the group. -/
inductive FlagGroup where
  | forPattern (on : List FlagLetter)
  | forGroup (on off : List FlagLetter)

/-- Letters of flags up to a character that is no such letter, and what follows. -/
def takeFlagLetters : List PatternToken → List FlagLetter × List PatternToken
  | .plain c :: ts =>
    match FlagLetter.ofChar? c with
    | some l =>
      let (ls, rest) := takeFlagLetters ts
      (l :: ls, rest)
    | none => ([], .plain c :: ts)
  | ts => ([], ts)

/-- Flags, from the letter or the hyphen after the question mark on. -/
def readFlags (ts : List PatternToken) :
    Except PatternError (FlagGroup × List PatternToken) := do
  let (on, ts) := takeFlagLetters ts
  if FlagLetter.conflicting on then throw .malformed
  match ts with
  | .plain ')' :: rest => if on.isEmpty then throw .malformed else return (.forPattern on, rest)
  | .plain ':' :: rest =>
    if on.isEmpty || on.contains .template then throw .malformed
    else return (.forGroup on [], rest)
  | .plain '-' :: ts =>
    let (off, ts) := takeFlagLetters ts
    match ts with
    | .plain ':' :: rest =>
      if on.contains .template || off.isEmpty || off.contains .template ||
          off.any (·.choosesClasses) || on.any off.contains then throw .malformed
      else return (.forGroup on off, rest)
    | _ => throw .malformed
  | _ => throw .malformed

end Conform
