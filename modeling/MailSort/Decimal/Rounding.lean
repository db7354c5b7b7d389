import MailSort.Decimal

/-! # Decimals and doubles

A double is a significand of at most 53 bits times a power of two.  `Decimal.toFloat?` is
the double next to a decimal; of two doubles that are equally near it is the one with an
even significand.  What is too large for a double has none.

All the arithmetic is exact, on quotients of natural numbers.
-/

namespace MailSort

/-- The exponent of the smallest positive double, whose significand is 1. -/
def leastBinaryExponent : Int := -1074

/-- The significands of 53 bits begin here. -/
def fullSignificand : Nat := 0x10000000000000

/-- The bits of infinity; those of smaller positive doubles are less. -/
def infinityBits : Nat := 0x7ff0000000000000

def signBit : Nat := 0x8000000000000000

/-- A quotient times a power of the given base, as a quotient. -/
def scaled (base numerator denominator : Nat) (exponent : Int) : Nat × Nat :=
  (numerator * Nat.pow base exponent.toNat, denominator * Nat.pow base (-exponent).toNat)

/-- The whole number next to a quotient, and the even one of two. -/
def roundedQuotient (numerator denominator : Nat) : Nat :=
  let whole := numerator / denominator
  let rest := 2 * (numerator % denominator)
  if rest < denominator ∨ (rest = denominator ∧ whole % 2 = 0) then whole else whole + 1

/-- The exponent of the largest power of two that is no larger than a positive quotient. -/
def binaryOrder (numerator denominator : Nat) : Int :=
  -- The difference of the logarithms is the order or one more.
  let order : Int := numerator.log2 - denominator.log2
  let (above, below) := scaled 2 numerator denominator (-order)
  if above < below then order - 1 else order

/-- The bits of the double next to a positive quotient, if it is finite.  A significand that
    is rounded up to 54 bits carries into the exponent. -/
def doubleBits? (numerator denominator : Nat) : Option Nat :=
  let exponent := max leastBinaryExponent (binaryOrder numerator denominator - 52)
  let (above, below) := scaled 2 numerator denominator (-exponent)
  -- The leading bit of a full significand counts as one in the exponent.
  let bits :=
    roundedQuotient above below + (exponent - leastBinaryExponent).toNat * fullSignificand
  if bits < infinityBits then some bits else none

namespace Decimal

/-- The bits of the double next to a decimal, if it is finite.  Decimals far beyond the
    range of doubles are told by their number of digits. -/
def doubleBits? (decimal : Decimal) : Option Nat :=
  if decimal.units = 0 ∨ decimal.point < -400 then some 0
  else if 400 < decimal.point then none
  else
    let (above, below) := scaled 10 decimal.units 1 decimal.exponent
    MailSort.doubleBits? above below

def toFloat? (negative : Bool) (decimal : Decimal) : Option Float :=
  decimal.doubleBits?.map fun bits =>
    Float.ofBits (UInt64.ofNat (if negative then signBit + bits else bits))

end Decimal

end MailSort
