import Stencil.Parsed
import Stencil.Part

/-!
# Compiled templates

Compiling turns every segment into a part, in the order of the segments, and stops at the first
fault. Rendering writes the parts one after the other, and stops at the first fault as well.
-/

namespace Stencil

/-- The part of one segment. The recovery is asked while compiling, not while rendering. -/
def Segment.compile (read : SlotReader) (recover : Recovery) (template : Title) (s : Segment) :
    Traced Part :=
  match s.kind with
  | .static => pure (.constant s.content)
  | .slot => read s
  | .error => Part.constant <$> recover (s.start.diagnostic template s.content)

/-- The parts of all segments; `template` heads the messages. -/
def compileSegments (read : SlotReader) (recover : Recovery) (template : Title)
    (segments : List Segment) : Traced (List Part) := do
  let parts ← segments.mapM (Segment.compile read recover template)
  Traced.note (.compiled parts.length template)
  return parts

/-- Writes parts one after the other. -/
def renderParts (parts : List Part) (ctx : Context) : Traced String := do
  Traced.note (.rendering parts.length ctx.template)
  return String.join (← parts.mapM (· ctx))

/-- A named row of parts. -/
structure Compiled where
  name : String
  parts : List Part

namespace Compiled

/-- Writes a template in a context that need not know its name. -/
def renderIn (c : Compiled) (ctx : Context) : Traced String :=
  renderParts c.parts ctx

/-- Writes a template over its filling. -/
def render (c : Compiled) (filling : Filling) : Traced String :=
  c.renderIn (filling.context (some c.name))

end Compiled

/-- Compiles a parsed template. Messages are headed by `label` if it is given and not empty, else by
the template's name; without a recovery every error is refused. -/
def Parsed.compile (p : Parsed) (read : SlotReader) (recover : Option Recovery)
    (label : Option String) : Traced Compiled := do
  let heading := match label with
    | some l => if l = "" then p.name else l
    | none => p.name
  let parts ← compileSegments read (recover.getD .refuse) (some heading) p.segments
  return ⟨p.name, parts⟩

namespace Source

/-- Parses and compiles a source. -/
def compile (supply : NameSupply) (source : Source) (read : SlotReader)
    (recover : Option Recovery) : Traced Compiled × NameSupply :=
  let (parsed, supply') := source.parse supply
  (parsed >>= fun p => p.compile read recover none, supply')

/-- Parses, compiles and renders a source. -/
def render (supply : NameSupply) (source : Source) (read : SlotReader)
    (recover : Option Recovery) (filling : Filling) : Traced String × NameSupply :=
  let (compiled, supply') := source.compile supply read recover
  (compiled >>= fun c => c.render filling, supply')

end Source

end Stencil
