import MailSort.Decimal.Rounding

/-! # Shortest decimals

The numbers that are rounded to a given double form an interval.  A double is written with
the fewest digits that still give a number of this interval: the coarsest decimal grid with
a point in the interval is taken, and on it the point next to the double.
-/

namespace MailSort

/-- A positive double and the interval of the numbers that are rounded to it, all in units
    of `2 ^ exponent`. -/
structure RoundingInterval where
  lower : Nat
  value : Nat
  upper : Nat
  /-- Whether the ends belong to the interval. -/
  closed : Bool
  exponent : Int
  deriving DecidableEq, Repr

namespace RoundingInterval

/-- The interval of a positive finite double.  Below a power of two doubles are twice as
    dense, except where they are densest. -/
def ofBits (bits : Nat) : RoundingInterval :=
  let fraction := bits % fullSignificand
  let order := bits / fullSignificand
  let significand := if order = 0 then fraction else fraction + fullSignificand
  -- A unit is a quarter of the last place, so that the ends are whole.
  { lower := 4 * significand - (if fraction = 0 ∧ 1 < order then 1 else 2)
    value := 4 * significand
    upper := 4 * significand + 2
    closed := significand % 2 = 0
    exponent := ((max order 1 - 1 : Nat) : Int) + leastBinaryExponent - 2 }

/-- The point of the grid of multiples of `10 ^ grid` that is in the interval and next to
    the double, if there is one. -/
def onGrid? (interval : RoundingInterval) (grid : Int) : Option Decimal :=
  let (unit, step) := scaled 2 1 1 interval.exponent
  let (unit, step) := scaled 10 unit step (-grid)
  let value := interval.value * unit
  let holds (point : Nat) : Bool :=
    if interval.closed then
      interval.lower * unit ≤ point * step ∧ point * step ≤ interval.upper * unit
    else interval.lower * unit < point * step ∧ point * step < interval.upper * unit
  -- The double lies between two neighbours on the grid.
  let next := roundedQuotient value step
  let other := if next = value / step then next + 1 else value / step
  if holds next then some ⟨next, grid⟩ else if holds other then some ⟨other, grid⟩ else none

/-- The exponents of the decimal grids that doubles need, from the coarsest one down. -/
def grids : List Int :=
  (List.range 700).map fun (index : Nat) => 310 - (index : Int)

def shortest (interval : RoundingInterval) : Decimal :=
  (grids.findSome? interval.onGrid?).getD ⟨0, 0⟩

end RoundingInterval

/-- The text of a finite double with the fewest digits, and nothing for other doubles. -/
def Decimal.textOfFloat? (number : Float) : Option Text :=
  let bits := number.toBits.toNat
  let sign : Text := if signBit ≤ bits then ['-'] else []
  let bits := bits % signBit
  if bits = 0 then some (sign ++ ['0', '.', '0'])
  else if bits < infinityBits then some (sign ++ (RoundingInterval.ofBits bits).shortest.text)
  else none

end MailSort
