import Stencil.Location
import Stencil.Text.Blank
import Stencil.Text.Quoted
import Stencil.Zone

/-!
# Segments

A template is read as a row of segments: static texts, slots, and at most one error for a slot that
is never closed.
-/

namespace Stencil

/-- What a segment is. -/
inductive Segment.Kind where
  | static
  | slot
  | error
deriving DecidableEq, Repr

namespace Segment.Kind

def name : Segment.Kind → String
  | static => "static"
  | slot => "slot"
  | error => "error"

end Segment.Kind

/-- A stretch of a template, with the location of its first character. The content of an error is
a message. -/
@[ext] structure Segment where
  kind : Segment.Kind
  content : String
  start : Location
deriving DecidableEq, Repr

namespace Segment

/-- A static text. -/
def static (content : String) (start : Location) : Segment := ⟨.static, content, start⟩

/-- A slot, whose content has no blanks at its ends. -/
def slot (content : String) (start : Location) : Segment := ⟨.slot, Text.trim content, start⟩

/-- An error with its message. -/
def error (message : String) (start : Location) : Segment := ⟨.error, message, start⟩

/-- The message about a slot of which only a part could be read. -/
def unclosedMessage (content : String) : String :=
  s!"Invalid/incomplete slot '{content}'"

theorem unclosedMessage_eq (content : String) :
    unclosedMessage content = "Invalid/incomplete slot '" ++ content ++ "'" := rfl

/-- A message tells which part of the slot could be read. -/
theorem unclosedMessage_injective {content other : String}
    (same : unclosedMessage content = unclosedMessage other) : content = other := by
  rw [unclosedMessage_eq, unclosedMessage_eq, String.append_left_inj, String.append_right_inj]
    at same
  exact same

/-- The error for a slot of which only a part could be read. -/
def unclosed (content : String) (start : Location) : Segment :=
  error (unclosedMessage content) start

def isStatic (s : Segment) : Bool := s.kind == .static

def isSlot (s : Segment) : Bool := s.kind == .slot

def isError (s : Segment) : Bool := s.kind == .error

/-- The form that shows kind, content and start. -/
def describe (s : Segment) : String :=
  s!"Segment({s.kind.name}, {Text.quoted s.content}, {s.start.label})"

end Segment

/-- The segment that a zone becomes once its delimiter is found. -/
def Zone.segment : Zone → String → Location → Segment
  | static => Segment.static
  | slot => Segment.slot

namespace Zone

variable (z : Zone) (content : String) (start : Location)

@[simp] theorem segment_start : (z.segment content start).start = start := by
  cases z <;> rfl

@[simp] theorem segment_isError : (z.segment content start).isError = false := by
  cases z <;> rfl

end Zone

end Stencil
