import Stencil.Decimal.Shortest

/-!
# Laying out decimals

How chosen digits are written: positionally or with an exponent, and how the special values of
floating point are called.
-/

namespace Stencil.Decimal

/-- The decisions of a number format. -/
structure Layout where
  /-- Exponents from here on are written positionally. -/
  leastFixed : Int
  /-- Exponents up to here are written positionally. -/
  greatestFixed : Int
  /-- The digits behind the point of a number that has none there. -/
  wholeDigits : List Char
  /-- The least number of digits in an exponent. -/
  exponentWidth : Nat
  notANumber : String
  infinity : String

namespace Layout

/-- The digits with the point in its place. -/
def fixed (layout : Layout) (d : Digits) : List Char :=
  if d.point ≤ 0 then '0' :: '.' :: List.replicate (-d.point).toNat '0' ++ d.digits
  else
    let whole := d.point.toNat
    if d.digits.length ≤ whole then
      d.digits ++ List.replicate (whole - d.digits.length) '0' ++ '.' :: layout.wholeDigits
    else d.digits.take whole ++ '.' :: d.digits.drop whole

/-- The digits with the point behind the first one, and an exponent with its sign. -/
def scientific (layout : Layout) (d : Digits) : List Char :=
  let e := d.point - 1
  let es := Nat.toDigits 10 e.natAbs
  d.digits.take 1 ++ (if d.digits.length ≤ 1 then [] else '.' :: d.digits.drop 1) ++
    'e' :: (if e < 0 then '-' else '+') ::
    List.replicate (layout.exponentWidth - es.length) '0' ++ es

/-- Digits in the form that their exponent calls for. -/
def ofDigits (layout : Layout) (d : Digits) : List Char :=
  if layout.leastFixed ≤ d.point - 1 && d.point - 1 ≤ layout.greatestFixed then layout.fixed d
  else layout.scientific d

/-- A double, from its bits. A zero keeps its sign. -/
def ofBits (layout : Layout) (bits : UInt64) : String :=
  let sign := if isNegative bits then ['-'] else []
  if exponentField bits = specialExponent then
    if fractionField bits = 0 then String.ofList sign ++ layout.infinity else layout.notANumber
  else if unsignedBits bits = 0 then String.ofList (sign ++ '0' :: '.' :: layout.wholeDigits)
  else String.ofList (sign ++ layout.ofDigits (Span.ofBits bits).shortest)

end Layout

end Stencil.Decimal
