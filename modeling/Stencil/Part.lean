import Stencil.Context
import Stencil.Traced

/-!
# Parts, slot readers and recoveries

A compiled template is a row of parts, each of which writes its text from a context. Parts for
slots come from the caller's slot reader, and the text in place of an error from the caller's
recovery.
-/

namespace Stencil

/-- Writes a stretch of the output from a context. -/
abbrev Part := Context → Traced String

/-- Turns a slot into a part, or refuses it. -/
abbrev SlotReader := Segment → Traced Part

/-- Gives the text in place of an error, or refuses to. -/
abbrev Recovery := String → Traced String

/-- The part that always writes the same text. -/
def Part.constant (text : String) : Part := fun _ => pure text

/-- The reader that notes each slot before it is read. -/
def SlotReader.noted (read : SlotReader) : SlotReader := fun slot => do
  Traced.note (.slotRead slot)
  read slot

namespace Recovery

/-- Refuses every error with its message. -/
def refuse : Recovery := fun message => Traced.fail (.unclosedSlot message)

/-- Writes the message of an error in its place. -/
def literal : Recovery := fun message => pure message

/-- The recovery that notes each message before it answers. -/
def noted (recover : Recovery) : Recovery := fun message => do
  Traced.note (.diagnosed message)
  recover message

end Recovery

end Stencil
