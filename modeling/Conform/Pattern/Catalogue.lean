import Conform.Pattern.Basic

/-!
# Ready-made patterns

Sources of patterns for the texts that schemas ask for most often. Each is anchored at both ends.
-/

namespace Conform

/-- **A text with a ready-made pattern.** -/
inductive ReadyPattern where
  | email
  | uri
  | username
  | slug
  | uuid
  | duration
  | hexColor
deriving DecidableEq, Repr

namespace ReadyPattern

/-- Every ready-made pattern. -/
def all : List ReadyPattern := [email, uri, username, slug, uuid, duration, hexColor]

/-- The name of a ready-made pattern. -/
def name : ReadyPattern → String
  | email => "EMAIL"
  | uri => "URI"
  | username => "USERNAME"
  | slug => "SLUG"
  | uuid => "UUID"
  | duration => "DURATION"
  | hexColor => "HEX_COLOR"

/-- The ready-made pattern with a given name. -/
def ofName? (s : String) : Option ReadyPattern := all.find? (·.name == s)

/-- So many hexadecimal digits. -/
def hexDigits (n : String) : String := "[0-9a-fA-F]\x7b" ++ n ++ "\x7d"

/-- The source of a ready-made pattern. -/
def source : ReadyPattern → String
  | email => "^[^@\\s]+@[^@\\s]+\\.[^@\\s]+$"
  | uri => "^[a-zA-Z][a-zA-Z0-9+.-]*:.*$"
  | username => "^[a-zA-Z0-9_.]\x7b3,16\x7d$"
  | slug => "^[a-z0-9]+(?:-[a-z0-9]+)*$"
  | uuid =>
    "^" ++ hexDigits "8" ++ "-" ++ hexDigits "4" ++ "-" ++ hexDigits "4" ++ "-" ++
      hexDigits "4" ++ "-" ++ hexDigits "12" ++ "$"
  | duration => "^P(?:\\d+Y)?(?:\\d+M)?(?:\\d+D)?(?:T(?:\\d+H)?(?:\\d+M)?(?:\\d+S)?)?$"
  | hexColor => "^#(?:" ++ hexDigits "3" ++ ")\x7b1,2\x7d$"

end ReadyPattern

end Conform
