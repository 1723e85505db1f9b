/-!
# Drawing at random

What a generator of samples asks of its source of randomness, and the two ways of drawing that are
built from it.
-/

namespace Stencil.Sample

/-- A part of one, in whole numbers. -/
structure Ratio where
  numerator : Nat
  denominator : Nat
deriving DecidableEq, Repr

/-- Whether a ratio is less than `n / d`. -/
def Ratio.isBelow (r : Ratio) (n d : Nat) : Bool :=
  r.numerator * d < n * r.denominator

/-- A state from which numbers can be drawn. -/
class DrawSource (σ : Type) where
  /-- Draws a number from zero up to `n`. -/
  upTo (n : Nat) : StateM σ (Fin (n + 1))
  /-- Draws a part of one. -/
  part : StateM σ Ratio

variable {σ α : Type} [DrawSource σ]

/-- Draws one of some elements, of which there is at least one. -/
def pick (first : α) (others : List α) : StateM σ α := do
  let i ← DrawSource.upTo others.length
  return (first :: others)[i]

/-- Draws `n` times in a row. -/
def times (n : Nat) (draw : StateM σ α) : StateM σ (List α) :=
  match n with
  | 0 => return []
  | n + 1 => do
    let a ← draw
    let as ← times n draw
    return a :: as

end Stencil.Sample
