import Stencil.NameSupply
import Stencil.Segmentation
import Stencil.Traced

/-!
# Parsed templates

A source is what a caller hands over: a text, perhaps a name, and the options. Parsing checks the
kind of the text, then the options, and only then draws a name if it needs one; after that it
always succeeds.
-/

namespace Stencil

/-- A template as a caller supplies it. -/
structure Source where
  text : Value
  name : Option String
  escape : Value
  tab : Value

/-- A named row of segments. -/
@[ext] structure Parsed where
  name : String
  segments : List Segment
deriving DecidableEq, Repr

namespace Parsed

/-- The first error among the segments. -/
def error? (p : Parsed) : Option Segment :=
  p.segments.find? (·.isError)

/-- The form that shows a title and a row of segments. -/
def describeRow (template : Title) (segments : List Segment) : String :=
  let shown := match segments.map Segment.describe with
    | [s] => s ++ ","
    | ss => ", ".intercalate ss
  s!"ParsedTemplate(name={template.quoted}, segments=({shown}))"

/-- The form that shows the name and all segments. -/
def describe (p : Parsed) : String := describeRow (some p.name) p.segments

end Parsed

namespace Source

/-- The segments of a text under supplied options. -/
def segments (escape tab : Value) (text : String) : Traced (List Segment) :=
  match Dialect.check escape tab with
  | .error fault => Traced.fail fault
  | .ok d => Traced.ofSegments (d.segments text)

/-- The text and the dialect of a source, or the first fault. -/
def check (source : Source) : Except Fault (String × Dialect) :=
  match source.text with
  | .text s => (Dialect.check source.escape source.tab).map (s, ·)
  | v => .error (.notText v.kind)

/-- Parses a source. The supply that remains has lost a name exactly if one was drawn. -/
def parse (supply : NameSupply) (source : Source) : Traced Parsed × NameSupply :=
  match source.check with
  | .error fault => (Traced.fail fault, supply)
  | .ok (text, d) =>
    let (name, supply') := supply.nameFor source.name
    (Parsed.mk name <$> Traced.ofSegments (d.segments text), supply')

end Source

end Stencil
