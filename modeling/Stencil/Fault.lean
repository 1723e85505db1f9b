import Stencil.Location
import Stencil.Value.Written

/-!
# Faults

Everything that can go wrong between a template's text and its output, by cause, and the message
of each cause.
-/

namespace Stencil

/-- The causes of failure. -/
inductive Fault where
  /-- The text of a template is a value of another kind. -/
  | notText (got : Value.Kind)
  /-- The escape is not a single character. -/
  | escapeLength (got : Value)
  /-- The escape character is part of a delimiter or blank. -/
  | escapeReserved (got : Char)
  /-- The tab width is not a positive whole number. -/
  | tabWidth (got : Value)
  /-- A slot was not closed, as the message says. -/
  | unclosedSlot (message : String)
  /-- A slot holds what its reader cannot read. -/
  | slotSyntax (start : Location) (detail : String) (hint : Option String)
  /-- A name is bound nowhere, or a part of a dotted name selects nothing. -/
  | unbound (name : String) (template : Title)
  /-- A handler for texts was called without a text in front. -/
  | receiver (handler : Handler) (got : Option Value.Kind)
  /-- The characters to strip are not given as a text. -/
  | stripSet
  /-- A slot reader, a part or a recovery failed in a way of its own. -/
  | raised (label message : String)
  /-- A session has nothing under this name. -/
  | noEntry (name : String)

namespace Fault

/-- The message of a slot that its reader refuses: where, what, and the hint if there is one. -/
def slotMessage (start : Location) (detail : String) (hint : Option String) : String :=
  let base := s!"{start.label}: {detail}"
  match hint with
  | none => base
  | some h => if h = "" then base else s!"{base}\nhint: {h}"

/-- The message of an unbound name, with the template if it has a name. -/
def unboundMessage (name : String) (template : Title) : String :=
  let base := s!"no value bound to {Text.quoted name}"
  if template.isNamed then s!"{base} in template {template.quoted}" else base

/-- The message of a handler that wants a text. -/
def receiverMessage (host : Host) (handler : Handler) : Option Value.Kind → String
  | none => s!"unbound method str.{handler.name}() needs an argument"
  | some k =>
    s!"descriptor '{handler.name}' for 'str' objects doesn't apply to a '{host.kindName k}' object"

/-- What a fault says. -/
def message (host : Host) : Fault → String
  | notText got => s!"template text must be a str, got {host.kindLabel got}"
  | escapeLength got => s!"escape_char must be a single character, got {host.literal got}"
  | escapeReserved got =>
    s!"escape_char cannot be a delimiter or whitespace: {Text.quoted got.toString}"
  | tabWidth got => s!"tab_width must be a positive integer, got {host.literal got}"
  | unclosedSlot m => m
  | slotSyntax start detail hint => slotMessage start detail hint
  | unbound name template => unboundMessage name template
  | receiver handler got => receiverMessage host handler got
  | stripSet => "strip arg must be None or str"
  | raised _ m => m
  | noEntry name => s!"no entry named {Text.quoted name}"

/-- Whether a fault lies in a template or in what it is filled with. -/
def concernsTemplate : Fault → Bool
  | unclosedSlot _ | slotSyntax .. | unbound .. => true
  | _ => false

/-- Whether a fault is a failed look-up of a name. -/
def isLookup : Fault → Bool
  | unbound .. => true
  | _ => false

end Fault

end Stencil
