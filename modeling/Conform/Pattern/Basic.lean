import Conform.Pattern.Parser
import Conform.Pattern.Search

/-!
# Patterns

A `Pattern` is a text together with the regular expression that it spells, so a text that is no
pattern never becomes one. A text *matches* a pattern if the regular expression occurs anywhere
in it.

A `PatternCache` holds the patterns that have been compiled already. Compiling is a function of
the text, so the cache may be consulted or not: the pattern is the same.
-/

namespace Conform

/-- **A pattern**: a text that spells a regular expression. -/
structure Pattern where
  source : String
  regex : Regex
  spells : Regex.ofPattern source = .ok regex

namespace Pattern

/-- The pattern that a text spells. -/
def compile (source : String) : Except PatternError Pattern :=
  match h : Regex.ofPattern source with
  | .ok r => .ok ⟨source, r, h⟩
  | .error e => .error e

/-- **Whether a pattern occurs anywhere** in a text. -/
def occursIn (p : Pattern) (s : String) : Except SearchError Bool := p.regex.search s

end Pattern

/-- **The patterns compiled so far**, the latest first, no two of one source. -/
structure PatternCache where
  patterns : List Pattern := []

namespace PatternCache

/-- The pattern of a source, if it is in the cache. -/
def find? (c : PatternCache) (source : String) : Option Pattern :=
  c.patterns.find? (·.source == source)

/-- Whether the pattern of a source is in the cache. -/
def contains (c : PatternCache) (source : String) : Bool := (c.find? source).isSome

/-- The number of patterns in the cache. -/
def size (c : PatternCache) : Nat := c.patterns.length

/-- **The pattern of a source**, and the cache that holds it. A source that is no pattern leaves
no trace. -/
def get (c : PatternCache) (source : String) : Except PatternError (Pattern × PatternCache) :=
  match c.find? source with
  | some p => return (p, c)
  | none => do
    let p ← Pattern.compile source
    return (p, { patterns := p :: c.patterns })

end PatternCache

end Conform
