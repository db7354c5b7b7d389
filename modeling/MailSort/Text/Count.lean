import MailSort.Text

/-! # Counts in texts

A count is written with decimal digits.  A count that is read is at most
`Text.largestCount`; what is larger is not a count.
-/

namespace MailSort

namespace Text

/-- The largest count that is read. -/
def largestCount : Nat :=
  0xffffffffffffffff

def ofCount (count : Nat) : Text :=
  Nat.toDigits 10 count

def toCount? (text : Text) : Option Nat :=
  if text ≠ [] ∧ text.all Char.isDigit then
    let count := Nat.ofDigitChars 10 text 0
    if count ≤ largestCount then some count else none
  else none

/-- The count written by digits with an optional plus sign in front. -/
def toSignedCount? : Text → Option Nat
  | '+' :: digits => toCount? digits
  | digits => toCount? digits

end Text

end MailSort
