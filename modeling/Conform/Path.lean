import Conform.Value.Display

/-!
# Paths

A path leads from a value into its members, one traversal key per step: a key of a map, or an
index of a list. A key *looks like an index* (`Value.isIndex`) if it is an integer that is not
negative or a text of decimal digits; such a key stands in brackets in the text of a path, and
any other key is set off by a dot.
-/

namespace Conform

/-- Whether a traversal key looks like an index. -/
def Value.isIndex : Value → Bool
  | .number (.int n) => decide (0 ≤ n)
  | .text s => s != "" && s.toList.all isDigit
  | _ => false

/-- **A path**: traversal keys, the outermost first. -/
abbrev Path := List Value

namespace Path

/-- The text of a path that goes on with one more key. -/
def extendText (text : String) (key : Value) : String :=
  if key.isIndex then text ++ "[" ++ key.plainText ++ "]"
  else if text = "" then key.plainText
  else text ++ "." ++ key.plainText

/-- **The text of a path.** The first key has no dot before it. -/
def text (path : Path) : String := path.foldl extendText ""

end Path

end Conform
