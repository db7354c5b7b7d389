/-! # Texts

A text is a sequence of characters (Unicode scalar values).  Lengths, positions and
counts are counts of characters, and texts are compared character by character, by
code point.

* `Text.breakAt?` finds the leftmost occurrence of one text inside another.
* `Text.splitPrefix` and `Text.splitSuffix` take off what two texts share at the
  beginning and at the end.
-/

namespace MailSort

/-- A sequence of characters. -/
abbrev Text := List Char

namespace Text

/-- Splits a text at the leftmost occurrence of `part`: the text before it and the text
    after it, or nothing if `part` does not occur. -/
def breakAt? (part : Text) : Text → Option (Text × Text)
  | [] => if part = [] then some ([], []) else none
  | c :: text =>
    match part.isPrefixOf? (c :: text) with
    | some rest => some ([], rest)
    | none => (breakAt? part text).map fun (before, rest) => (c :: before, rest)

/-- The longest common prefix of two texts, and what follows it in each. -/
def splitPrefix : Text → Text → Text × Text × Text
  | c :: first, d :: second =>
    if c = d then
      let (shared, first', second') := splitPrefix first second
      (c :: shared, first', second')
    else ([], c :: first, d :: second)
  | first, second => ([], first, second)

/-- The longest common suffix of two texts, and what precedes it in each. -/
def splitSuffix (first second : Text) : Text × Text × Text :=
  let (shared, first', second') := splitPrefix first.reverse second.reverse
  (shared.reverse, first'.reverse, second'.reverse)

/-- The parts of two texts after the longest common prefix are no longer than the texts. -/
theorem length_splitPrefix_le (first second : Text) :
    (splitPrefix first second).2.1.length ≤ first.length ∧
      (splitPrefix first second).2.2.length ≤ second.length := by
  fun_induction splitPrefix first second <;> simp_all
  omega

/-- The parts of two texts before the longest common suffix are no longer than the texts. -/
theorem length_splitSuffix_le (first second : Text) :
    (splitSuffix first second).2.1.length ≤ first.length ∧
      (splitSuffix first second).2.2.length ≤ second.length := by
  have h := length_splitPrefix_le first.reverse second.reverse
  simpa [splitSuffix] using h

end Text

end MailSort
