import MailSort.Text
import Mathlib.Data.List.Basic

/-! # Splitting texts

What the operations that take texts apart leave behind.  `Text.breakAt?` stops at the
leftmost occurrence of a part, so every other occurrence has no more text behind it; this
is what makes a search without backtracking complete.  `Text.splitPrefix` and
`Text.splitSuffix` only cut: both texts can be put together again.
-/

namespace MailSort

namespace Text

/-! ## Leftmost occurrences -/

/-- The part and what is around it make up the text. -/
theorem eq_of_breakAt? {part text before after : Text}
    (found : breakAt? part text = some (before, after)) : text = before ++ part ++ after := by
  fun_induction breakAt? part text generalizing before after with
  | case1 =>
    obtain ⟨rfl, rfl⟩ := found
    simp_all
  | case2 => contradiction
  | case3 c text rest here =>
    obtain ⟨rfl, rfl⟩ := found
    rw [List.isPrefixOf?_eq_some_iff_append_eq] at here
    simp [here]
  | case4 c text elsewhere ih =>
    obtain ⟨⟨before, after⟩, found, same⟩ := Option.map_eq_some_iff.1 found
    obtain ⟨rfl, rfl⟩ := same
    simp [ih found]

/-- Wherever the part occurs, the search succeeds, and at least as much text is left as
    there is behind that occurrence. -/
theorem exists_breakAt? (part gap rest : Text) :
    ∃ before after, breakAt? part (gap ++ part ++ rest) = some (before, after) ∧
      rest <:+ after := by
  induction gap with
  | nil =>
    cases part with
    | nil => cases rest <;> exact ⟨[], _, rfl, List.suffix_rfl⟩
    | cons c part =>
      have here : (c :: part).isPrefixOf? (c :: part ++ rest) = some rest :=
        List.isPrefixOf?_eq_some_iff_append_eq.2 rfl
      exact ⟨[], rest, by rw [List.nil_append, List.cons_append, breakAt?, ← List.cons_append, here],
        List.suffix_rfl⟩
  | cons c gap ih =>
    simp only [List.cons_append, breakAt?]
    cases here : part.isPrefixOf? (c :: (gap ++ part ++ rest)) with
    | none =>
      obtain ⟨before, after, found, shorter⟩ := ih
      exact ⟨c :: before, after, by rw [found]; rfl, shorter⟩
    | some after =>
      -- The part already begins at `c`; both ends are suffixes of one text.
      rw [List.isPrefixOf?_eq_some_iff_append_eq] at here
      have behind : rest <:+ part ++ after := ⟨c :: gap ++ part, by simp [here]⟩
      have shorter : rest.length ≤ after.length := by
        have lengths := congrArg List.length here
        simp only [List.length_append, List.length_cons] at lengths
        omega
      exact ⟨[], after, rfl,
        List.suffix_of_suffix_length_le behind (List.suffix_append part after) shorter⟩

/-- Before the leftmost occurrence of a part there is less text than before any other. -/
theorem shorter_or_eq_of_breakAt? {part gap after other rest : Text}
    (found : breakAt? part (other ++ (part ++ rest)) = some (gap, after)) :
    gap.length < other.length ∨ gap = other ∧ after = rest := by
  obtain ⟨_, _, leftmost, behind⟩ := exists_breakAt? part other rest
  rw [List.append_assoc, found] at leftmost
  cases leftmost
  have whole := eq_of_breakAt? found
  have lengths := congrArg List.length whole
  simp only [List.length_append] at lengths
  obtain longer | same := Nat.lt_or_eq_of_le behind.length_le
  · exact .inl (by omega)
  · obtain rfl := behind.eq_of_length same
    rw [← List.append_assoc] at whole
    have before := List.append_cancel_right (List.append_cancel_right whole)
    exact .inr ⟨before.symm, rfl⟩

/-- A text that begins with the part is split there. -/
theorem breakAt?_append (part rest : Text) : breakAt? part (part ++ rest) = some ([], rest) := by
  obtain ⟨before, after, found, -⟩ := exists_breakAt? part [] rest
  obtain shorter | ⟨rfl, rfl⟩ := @shorter_or_eq_of_breakAt? part before after [] rest found
  · exact absurd shorter (Nat.not_lt_zero _)
  · exact found

/-! ## Common prefixes and suffixes -/

@[simp] theorem splitPrefix_append_first (first second : Text) :
    (splitPrefix first second).1 ++ (splitPrefix first second).2.1 = first := by
  fun_induction splitPrefix first second <;> simp_all

@[simp] theorem splitPrefix_append_second (first second : Text) :
    (splitPrefix first second).1 ++ (splitPrefix first second).2.2 = second := by
  fun_induction splitPrefix first second <;> simp_all

@[simp] theorem splitSuffix_append_first (first second : Text) :
    (splitSuffix first second).2.1 ++ (splitSuffix first second).1 = first := by
  have split := congrArg List.reverse (splitPrefix_append_first first.reverse second.reverse)
  rwa [List.reverse_append, List.reverse_reverse] at split

@[simp] theorem splitSuffix_append_second (first second : Text) :
    (splitSuffix first second).2.2 ++ (splitSuffix first second).1 = second := by
  have split := congrArg List.reverse (splitPrefix_append_second first.reverse second.reverse)
  rwa [List.reverse_append, List.reverse_reverse] at split

theorem drop_length_splitPrefix_first (first second : Text) :
    first.drop (splitPrefix first second).1.length = (splitPrefix first second).2.1 := by
  have whole := congrArg (List.drop (splitPrefix first second).1.length)
    (splitPrefix_append_first first second)
  rw [List.drop_left] at whole
  exact whole.symm

theorem drop_length_splitPrefix_second (first second : Text) :
    second.drop (splitPrefix first second).1.length = (splitPrefix first second).2.2 := by
  have whole := congrArg (List.drop (splitPrefix first second).1.length)
    (splitPrefix_append_second first second)
  rw [List.drop_left] at whole
  exact whole.symm

/-- Behind the longest common prefix the texts go on with different characters. -/
theorem head?_splitPrefix_ne {first second : Text} {c : Char}
    (head : (splitPrefix first second).2.1.head? = some c) :
    (splitPrefix first second).2.2.head? ≠ some c := by
  fun_induction splitPrefix first second with
  | case1 d first second shared first' second' split ih =>
    rw [split] at ih
    exact ih head
  | case2 d first e second differ =>
    cases head
    intro same
    cases same
    exact differ rfl
  | case3 first second ends =>
    cases first with
    | nil => contradiction
    | cons d first =>
      cases second with
      | nil => exact (Option.some_ne_none c).symm
      | cons e second => exact absurd rfl (ends d first e second rfl)

/-- Before the longest common suffix the texts end with different characters. -/
theorem getLast?_splitSuffix_ne {first second : Text} {c : Char}
    (last : (splitSuffix first second).2.1.getLast? = some c) :
    (splitSuffix first second).2.2.getLast? ≠ some c := by
  simp only [splitSuffix, List.getLast?_reverse] at last ⊢
  exact head?_splitPrefix_ne last

end Text

end MailSort
