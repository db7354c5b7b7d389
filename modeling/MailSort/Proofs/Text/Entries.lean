import MailSort.Text.Blank
import Mathlib.Data.List.TakeWhile

/-! # Entries of lists

Splitting a text at each separator is the splitting of lists (`Text.splitAtEach_eq_splitOn`), so it
undoes putting a separator between entries.  Trimming takes off white space at both ends and nothing
else, and all of it if what is left has none (`Text.trim_around`).
-/

namespace MailSort

namespace Text

theorem splitAtEach_eq_splitOn (separator : Char) (text : Text) :
    splitAtEach separator text = text.splitOn separator := by
  induction text with
  | nil => rw [splitAtEach, List.splitOn_nil]
  | cons c text ih =>
    rw [splitAtEach, List.splitOn_cons_eq_if_modifyHead, ih]
    by_cases same : c = separator
    · simp [same]
    · rw [if_neg same, if_neg (by simpa using same)]
      cases split : text.splitOn separator with
      | nil => exact absurd split (List.splitOn_ne_nil _ _)
      | cons entry entries => rfl

/-- White space is taken off at both ends, and nothing else. -/
theorem exists_around_trim (text : Text) :
    ∃ before after, text = before ++ text.trim ++ after ∧ ∀ c ∈ before ++ after, isBlank c := by
  let visible := text.dropWhile isBlank
  have first : text.takeWhile isBlank ++ visible = text := List.takeWhile_append_dropWhile
  have last : visible.reverse.takeWhile isBlank ++ visible.reverse.dropWhile isBlank =
      visible.reverse :=
    List.takeWhile_append_dropWhile
  refine ⟨text.takeWhile isBlank, (visible.reverse.takeWhile isBlank).reverse, ?_, ?_⟩
  · have trimmed : visible = text.trim ++ (visible.reverse.takeWhile isBlank).reverse := by
      rw [trim, trimStart, trimStart, ← List.reverse_append, last, List.reverse_reverse]
    rw [List.append_assoc, ← trimmed, first]
  · intro c member
    obtain before | after := List.mem_append.1 member
    · exact List.mem_takeWhile_imp before
    · exact List.mem_takeWhile_imp (List.mem_reverse.1 after)

theorem trimStart_of_visible {text : Text} (visible : ∀ c ∈ text, isBlank c = false) :
    trimStart text = text := by
  cases text with
  | nil => rfl
  | cons c text =>
    rw [trimStart, List.dropWhile_cons_of_neg (by simp [visible c List.mem_cons_self])]

theorem trim_around {before text after : Text} (blank : ∀ c ∈ before ++ after, isBlank c)
    (visible : ∀ c ∈ text, isBlank c = false) : trim (before ++ text ++ after) = text := by
  rw [List.forall_mem_append] at blank
  have stripped : trimStart (before ++ text ++ after) = trimStart (text ++ after) := by
    rw [trimStart, List.append_assoc, List.dropWhile_append_of_pos blank.1, trimStart]
  rw [trim, stripped]
  cases text with
  | nil =>
    have nothing : trimStart after = [] := List.dropWhile_eq_nil_iff.2 blank.2
    rw [List.nil_append, nothing]
    rfl
  | cons c text =>
    -- The text begins and ends with visible characters, so nothing of it is taken off.
    have begins : trimStart (c :: text ++ after) = c :: text ++ after :=
      List.dropWhile_cons_of_neg (by simp [visible c List.mem_cons_self])
    have ends : trimStart (after.reverse ++ (c :: text).reverse) = (c :: text).reverse := by
      have behind : ∀ c ∈ after.reverse, isBlank c :=
        fun c member => blank.2 c (List.mem_reverse.1 member)
      rw [trimStart, List.dropWhile_append_of_pos behind]
      exact trimStart_of_visible fun c member => visible c (List.mem_reverse.1 member)
    rw [begins, List.reverse_append, ends, List.reverse_reverse]

end Text

end MailSort
