import Stencil.Text.Quoted

/-!
# Titles

A title is the name under which messages speak of a template. It may be empty, and a caller may
give none at all; messages that have room for a missing title write `None` in its place.
-/

namespace Stencil

/-- The name of a template in messages, or nothing. -/
abbrev Title := Option String

namespace Title

/-- The title as it is written in front of a location. -/
def written (t : Title) : String := t.getD "None"

/-- The title in quotes; a missing one has none. -/
def quoted : Title → String
  | none => "None"
  | some name => Text.quoted name

/-- Whether there is anything to call a template by. -/
def isNamed : Title → Bool
  | none => false
  | some name => name != ""

end Title

end Stencil
