import Stencil.Decimal.Double

/-!
# The shortest decimal of a binary fraction

A finite double stands for all reals that round to it. Among the decimals of that interval the
shortest one is chosen, and of two equally short ones the nearer. All comparisons are between
natural numbers, so no digit depends on rounding.

## Implementation notes

The search goes through the grids of one digit, two digits and so on. If a grid has a point in the
interval, then one of the two neighbours of the value on that grid lies in it, so two candidates
are enough.
-/

namespace Stencil.Decimal

/-- Significant digits behind a decimal point, and the power of ten that moves the point. -/
structure Digits where
  digits : List Char
  point : Int
deriving DecidableEq, Repr

/-- A positive value `mid / unit` with the ends of the interval that rounds to it, over the same
unit. The ends belong to the interval if it is `closed`. -/
structure Span where
  low : Nat
  mid : Nat
  high : Nat
  unit : Nat
  closed : Bool

namespace Span

/-- The span of a positive finite double in quarters of a grain. The ends lie halfway to the
neighbours; the lower neighbour of a power of two is only half as far away as the upper one. -/
def ofBits (bits : UInt64) : Span :=
  let quarters := 4 * significand bits
  let below := if fractionField bits = 0 && 1 < exponentField bits then 1 else 2
  { low := (quarters - below) <<< scale bits
    mid := quarters <<< scale bits
    high := (quarters + 2) <<< scale bits
    unit := 4 <<< grainsLog2
    closed := significand bits % 2 == 0 }

/-- The same span counted in units of the `e`-th power of ten. -/
def inTens (s : Span) (e : Int) : Span :=
  let factor := Nat.pow 10 (-e).toNat
  { s with
    low := s.low * factor
    mid := s.mid * factor
    high := s.high * factor
    unit := s.unit * Nat.pow 10 e.toNat }

/-- Whether a whole number of units lies in the interval. -/
def holds (s : Span) (d : Nat) : Bool :=
  if s.closed then s.low ≤ d * s.unit && d * s.unit ≤ s.high
  else s.low < d * s.unit && d * s.unit < s.high

/-- The whole number in the interval that is nearest to the value; a tie goes to the even one. -/
def nearest? (s : Span) : Option Nat :=
  let d := s.mid / s.unit
  if s.holds d && s.holds (d + 1) then
    if 2 * s.mid < (2 * d + 1) * s.unit || (2 * s.mid = (2 * d + 1) * s.unit && d % 2 = 0) then
      some d
    else some (d + 1)
  else if s.holds d then some d
  else if s.holds (d + 1) then some (d + 1)
  else none

/-- The least power of ten above the value. -/
def magnitude (s : Span) : Int :=
  if s.unit ≤ s.mid then (Nat.toDigits 10 (s.mid / s.unit)).length
  else 1 - (Nat.toDigits 10 ((s.unit - 1) / s.mid)).length

/-- The digits of `n` times the `e`-th power of ten without zeros at the end. -/
def digitsOf (n : Nat) (e : Int) : Digits :=
  let ds := Nat.toDigits 10 n
  ⟨(ds.reverse.dropWhile (· == '0')).reverse, ds.length + e⟩

/-- The value itself, to its last digit. A unit is a power of two, so as many decimal places as
its number of halvings are enough. -/
def exactDigits (s : Span) : Digits :=
  let places := s.unit.log2
  digitsOf (s.mid * Nat.pow 10 places / s.unit) (-places)

/-- The fewest digits that lie in the interval. Seventeen are enough for every double. -/
def shortest (s : Span) : Digits :=
  let top := s.magnitude
  let onGrid (n : Nat) : Option Digits :=
    let e := top - (n + 1)
    (s.inTens e).nearest?.map (digitsOf · e)
  ((List.range 17).findSome? onGrid).getD s.exactDigits

end Span

end Stencil.Decimal
