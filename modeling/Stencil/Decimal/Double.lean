/-!
# The fields of a double

A double is kept as 64 bits: a sign, an exponent and a fraction. Every finite double is a whole
number of grains, where a grain is the least positive double.
-/

namespace Stencil.Decimal

/-- The place of the sign, and the number of bit patterns below it. -/
def signPlace : Nat := 0x8000000000000000

/-- The place of the exponent, and the number of fractions. -/
def exponentPlace : Nat := 0x10000000000000

/-- The exponent that infinities and patterns without a number share. -/
def specialExponent : Nat := 0x7FF

/-- Whether the sign is set. -/
def isNegative (bits : UInt64) : Bool := signPlace ≤ bits.toNat

/-- The bits without the sign. -/
def unsignedBits (bits : UInt64) : Nat := bits.toNat % signPlace

def exponentField (bits : UInt64) : Nat := unsignedBits bits / exponentPlace

def fractionField (bits : UInt64) : Nat := bits.toNat % exponentPlace

/-- The significant bits as a number. The leading one is implied unless the exponent is least. -/
def significand (bits : UInt64) : Nat :=
  if exponentField bits = 0 then fractionField bits else exponentPlace + fractionField bits

/-- How far the significant bits are shifted. The two least exponents mean the same shift. -/
def scale (bits : UInt64) : Nat := exponentField bits - 1

/-- The number of grains of a finite double, without its sign. -/
def grains (bits : UInt64) : Nat := significand bits <<< scale bits

/-- There are two to this power grains in one. -/
def grainsLog2 : Nat := 1074

end Stencil.Decimal
