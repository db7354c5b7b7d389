import MailSort.Score
import MailSort.Text

/-! # Overlaps

Two texts are slid along each other.  At each offset some positions overlap, and of these
some agree.  The best overlap is the one with the most agreements, and of several the one
with the least shift.  What the shorter text misses of full agreement is the score of the
overlap, as a share of its length: 0 means that one text contains the other.
-/

namespace MailSort

/-- A position of two texts relative to each other. -/
structure Overlap where
  /-- The position of the second text's beginning in the first text. -/
  offset : Int
  /-- How many characters of the shorter text have no equal counterpart. -/
  missed : Nat
  deriving DecidableEq, Repr

namespace Overlap

/-- At how many positions two texts have the same character. -/
def agreements : Text → Text → Nat
  | c :: first, d :: second => (if c = d then 1 else 0) + agreements first second
  | _, _ => 0

def shorterLength (first second : Text) : Nat :=
  min first.length second.length

def ofOffset (first second : Text) (offset : Int) : Overlap where
  offset := offset
  missed :=
    shorterLength first second -
      agreements (first.drop offset.toNat) (second.drop (-offset).toNat)

/-- The offsets at which two texts overlap, in ascending order. -/
def offsets (first second : Text) : List Int :=
  (List.range (first.length + second.length - 1)).map fun (index : Nat) =>
    (index : Int) + 1 - (second.length : Int)

/-- Whether an overlap is better than another: it misses less, or as much with less of a
    shift. -/
def isBetter (overlap other : Overlap) : Bool :=
  overlap.missed < other.missed ||
    (overlap.missed = other.missed && overlap.offset.natAbs < other.offset.natAbs)

/-- The better of two overlaps.  The first one is kept if the other is not better. -/
def better (best : Option Overlap) (next : Overlap) : Option Overlap :=
  match best with
  | some held => if next.isBetter held then some next else some held
  | none => some next

/-- The best overlap of two texts.  Texts without characters have none. -/
def best? (first second : Text) : Option Overlap :=
  if first = [] ∨ second = [] then none
  else ((offsets first second).map (ofOffset first second)).foldl better none

def score {α : Type} [Score α] (first second : Text) (overlap : Overlap) : α :=
  Score.ratio overlap.missed (shorterLength first second)

end Overlap

end MailSort
