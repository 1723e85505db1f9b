import Stencil.Fault
import Stencil.Text.Blank
import Stencil.Text.Case

/-!
# Calling the default handlers

Each handler takes a list of values. Three of them want a text in front and change it; the others
take values of any kind.
-/

namespace Stencil.Handler

/-- The text that a handler is called on. -/
def receiverText (h : Handler) (args : List Value) : Except Fault String :=
  match args with
  | [] => .error (.receiver h none)
  | .text s :: _ => .ok s
  | v :: _ => .error (.receiver h (some v.kind))

/-- The text without the characters of `set` at its ends, or without blanks if no set is given. -/
def stripped (s : String) : Option Value → Except Fault String
  | none | some .none => .ok (Text.trim s)
  | some (.text set) => .ok (.ofList (Text.trimBoth set.toList.contains s.toList))
  | some _ => .error .stripSet

/-- What a handler makes of its arguments. Only joining uses the separator. -/
def apply (host : Host) (h : Handler) (separator : String) (args : List Value) :
    Except Fault Value :=
  match h with
  | text => .ok (.text ((args.head?.map host.shown).getD ""))
  | upper => (receiverText h args).map fun s => .text (Text.upper s)
  | lower => (receiverText h args).map fun s => .text (Text.lower s)
  | strip => do
    let s ← receiverText h args
    return .text (← stripped s args[1]?)
  | join => .ok (.text (separator.intercalate (args.map host.shown)))

end Stencil.Handler
