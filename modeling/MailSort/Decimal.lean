import MailSort.Text

/-! # Decimals

A decimal is a whole number of units of some power of ten.  `Decimal.parse?` reads the
usual notation, with an optional point and an optional exponent, and `Decimal.text` writes
a decimal with a point in it as long as that takes few zeros.
-/

namespace MailSort

/-- A number of units of `10 ^ exponent`. -/
structure Decimal where
  units : Nat
  exponent : Int
  deriving DecidableEq, Repr

namespace Decimal

/-- Takes an optional sign off a text, and says whether it is a minus sign. -/
def splitSign : Text → Bool × Text
  | '-' :: rest => (true, rest)
  | '+' :: rest => (false, rest)
  | rest => (false, rest)

/-- The number written by a text of digits, of which there may be none. -/
def ofDigits (digits : Text) : Nat :=
  Nat.ofDigitChars 10 digits 0

/-- The exponent written at the end of a decimal; nothing there counts as 0. -/
def exponent? : Text → Option Int
  | [] => some 0
  | mark :: rest =>
    let (negative, digits) := splitSign rest
    if (mark = 'e' ∨ mark = 'E') ∧ digits ≠ [] ∧ digits.all Char.isDigit then
      some (if negative then -(ofDigits digits : Int) else ofDigits digits)
    else none

def parseUnsigned? (text : Text) : Option Decimal :=
  let (whole, rest) := text.span Char.isDigit
  let (fraction, rest) :=
    match rest with
    | '.' :: rest => rest.span Char.isDigit
    | rest => ([], rest)
  if whole = [] ∧ fraction = [] then none
  else
    (exponent? rest).map fun exponent =>
      ⟨ofDigits (whole ++ fraction), exponent - fraction.length⟩

/-- Reads a decimal with an optional sign, and says whether it is negative. -/
def parse? (text : Text) : Option (Bool × Decimal) :=
  let (negative, rest) := splitSign text
  (parseUnsigned? rest).map fun decimal => (negative, decimal)

def digits (decimal : Decimal) : Text :=
  Nat.toDigits 10 decimal.units

/-- The place of the point from the beginning of the digits. -/
def point (decimal : Decimal) : Int :=
  decimal.digits.length + decimal.exponent

/-- Writes a decimal: with the point among the digits if that takes few zeros, and with an
    exponent otherwise.  There is always a digit behind a point. -/
def text (decimal : Decimal) : Text :=
  let digits := decimal.digits
  let point := decimal.point
  let zeros (count : Int) : Text := List.replicate count.toNat '0'
  if 0 ≤ decimal.exponent ∧ point ≤ 16 then digits ++ zeros decimal.exponent ++ ['.', '0']
  else if 0 < point ∧ point ≤ 16 then
    digits.take point.toNat ++ '.' :: digits.drop point.toNat
  else if -5 < point ∧ point ≤ 0 then '0' :: '.' :: zeros (-point) ++ digits
  else
    let significand :=
      match digits with
      | first :: second :: rest => first :: '.' :: second :: rest
      | digits => digits
    significand ++ 'e' :: (toString (point - 1)).toList

end Decimal

end MailSort
