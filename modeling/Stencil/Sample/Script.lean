import Stencil.Sample.Draw

/-!
# Scripted draws

A source that takes its numbers from a list. Behind the end of the list every number is zero, and
the draws are still counted.
-/

namespace Stencil.Sample

/-- The numbers that are left and how many draws were made. -/
structure Script where
  draws : List Int
  used : Nat
deriving DecidableEq, Repr

namespace Script

/-- The script before its first draw. -/
def ofList (draws : List Int) : Script := ⟨draws, 0⟩

/-- Takes the next number. -/
def next : StateM Script Int := fun s =>
  (s.draws.headD 0, ⟨s.draws.tail, s.used + 1⟩)

/-- Each number is reduced to the range that is asked for; a part of one has three places. -/
instance : DrawSource Script where
  upTo n := do
    let d ← next
    return Fin.ofNat (n + 1) (d % (n + 1 : Nat)).toNat
  part := do
    let d ← next
    return ⟨(d % 1000).toNat, 1000⟩

end Script

end Stencil.Sample
