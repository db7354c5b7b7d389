import MailSort.Proofs.Score.Rational
import MailSort.TemplateModel.Confidence

/-! # Aligning a text with itself

A text shares all of itself with itself in one run, so a text of two characters or more covers
itself in full.
-/

namespace MailSort

namespace Text

theorem splitPrefix_self (text : Text) : splitPrefix text text = (text, [], []) := by
  induction text with
  | nil => rfl
  | cons c text ih => rw [splitPrefix, if_pos rfl, ih]

end Text

namespace EditScript

theorem shortest_self (text : Text) : shortest text text = keeping text := by
  have ends : Text.splitSuffix [] [] = ([], [], []) := rfl
  have nothing : keeping [] = [] := rfl
  simp [shortest, Text.splitPrefix_self, ends, nothing]

/-- A script without changes has nothing to settle. -/
theorem compact_keeping (text : Text) : (keeping text).compact = keeping text := by
  rw [keeping]
  split <;> rfl

theorem joined_keeping (text : Text) : (keeping text).joined = keeping text := by
  rw [keeping]
  split
  · rfl
  · next some => simp [joined, keepBefore, some]

theorem between_self (text : Text) : between text text = keeping text := by
  rw [between, shortest_self, compact_keeping, joined_keeping]

/-- A text that is long enough is the only literal that it has in common with itself. -/
theorem map_toElement_between_self {text : Text} {least : Nat} (some : text ≠ [])
    (enough : least ≤ text.length) :
    (between text text).map (toElement least) = [.literal text] := by
  rw [between_self, keeping, if_neg some, List.map_singleton, toElement, if_pos enough]

theorem sharedLength_between_self {text : Text} {least : Nat} (enough : least ≤ text.length) :
    (between text text).sharedLength least = text.length := by
  rw [between_self, keeping]
  split
  · next nothing =>
    rw [nothing]
    rfl
  · simp [sharedLength, kept, enough]

theorem coverage_between_self {text : Text} (two : 2 ≤ text.length) :
    (between text text).coverage text = (1 : Rat) := by
  have some : text ≠ [] := List.ne_nil_of_length_pos (by omega)
  have positive : (text.length : Rat) ≠ 0 := by
    rw [Nat.cast_ne_zero]
    omega
  have shared : (between text text).sharedLength SegmentLength.shortest.chars = text.length :=
    sharedLength_between_self two
  rw [coverage, if_neg some, shared, Score.ratio_eq, div_self positive]

end EditScript

end MailSort
