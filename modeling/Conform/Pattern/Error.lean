/-!
# Errors of patterns

A text that follows no rule of the grammar is malformed, whatever the rule. Three faults have a
name of their own: a repetition that cannot be counted, a look behind that reaches too far back,
and flags that contradict each other.
-/

namespace Conform

/-- **Why a text is not a pattern.** -/
inductive PatternError where
  | malformed
  /-- The number of a repetition is beyond what can be counted. -/
  | repetitionTooLarge
  /-- A look behind tests characters that are too far away. -/
  | distanceTooLarge
  /-- Both the ASCII classes and those of Unicode are asked for. -/
  | conflictingFlags
deriving DecidableEq, Repr

namespace PatternError

/-- The wording of the errors other than `malformed`. -/
def message : PatternError → String
  | malformed => "invalid pattern"
  | repetitionTooLarge => "the repetition number is too large"
  | distanceTooLarge => "invalid SRE code"
  | conflictingFlags => "ASCII and UNICODE flags are incompatible"

end PatternError

end Conform
