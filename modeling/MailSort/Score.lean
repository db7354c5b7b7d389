/-! # Scores

Confidences and scores are quotients of counts and what arithmetic makes of them.
Everything that computes a score does so over any type with the operations of `Score`,
in a fixed order, so that one definition serves twice: over `Float`, bit for bit, and
over the rational numbers, where the laws of arithmetic hold.
-/

namespace MailSort

/-- The operations that scores are computed with.  No law is assumed. -/
class Score (α : Type) extends Add α, Sub α, Mul α, Div α, LT α, LE α where
  ofNat : Nat → α
  /-- Whether a score is a number, so that it can be compared with others. -/
  isNumber : α → Bool
  /-- The whole part of a score; negative scores have the whole part 0. -/
  whole : α → Nat
  decidableLT : DecidableLT α
  decidableLE : DecidableLE α

attribute [reducible, instance] Score.decidableLT Score.decidableLE

instance : Score Float where
  ofNat := Float.ofNat
  isNumber score := !score.isNaN
  whole score := score.toUInt64.toNat
  decidableLT := inferInstance
  decidableLE := inferInstance

instance : Score Rat where
  ofNat count := count
  isNumber _ := true
  whole score := score.floor.toNat
  decidableLT := inferInstance
  decidableLE := inferInstance

namespace Score

variable {α : Type} [Score α]

def zero : α := ofNat 0

def one : α := ofNat 1

def ratio (part total : Nat) : α :=
  ofNat part / ofNat total

/-- The sum of scores, added up from left to right. -/
def sum (scores : List α) : α :=
  scores.foldl (· + ·) zero

def mean (scores : List α) : α :=
  sum scores / ofNat scores.length

/-- The higher of two scores; the first one if neither is. -/
def higher (first second : α) : α :=
  if first < second then second else first

/-- The highest of some scores, and at least 0. -/
def highest (scores : List α) : α :=
  scores.foldl higher zero

/-- A score held between 0 and 1.  What is not a number stays as it is. -/
def clamp (score : α) : α :=
  if score < zero then zero else if one < score then one else score

end Score

end MailSort
