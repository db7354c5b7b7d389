import MailSort.SortedMap

/-! # Tallies

A tally counts how often keys occur.  It has an entry exactly for the keys whose count is
positive, so it changes back to what it was when what was added is taken away again.
-/

namespace MailSort

/-- A count for every key; keys without an entry count 0. -/
abbrev Tally (κ : Type) [Ord κ] := SortedMap κ Nat

namespace Tally

variable {κ : Type} [Ord κ]

def count (tally : Tally κ) (key : κ) : Nat :=
  (tally.get? key).getD 0

variable [Std.TransOrd κ] [Std.LawfulEqOrd κ]

def add (tally : Tally κ) (key : κ) (amount : Nat) : Tally κ :=
  -- Keys that count 0 have no entry.
  if amount = 0 then tally else tally.insert key (tally.count key + amount)

/-- Lowers the count of a key, at most to 0. -/
def take (tally : Tally κ) (key : κ) (amount : Nat) : Tally κ :=
  if tally.count key ≤ amount then tally.erase key
  else tally.insert key (tally.count key - amount)

end Tally

end MailSort
