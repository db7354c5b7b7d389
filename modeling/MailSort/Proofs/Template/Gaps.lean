import MailSort.Proofs.Alignment.SharedLength
import MailSort.Template.Matching
import Mathlib

/-! # Gaps

What a template reads off a text: one gap for each wildcard (`Template.length_of_gaps?`), and the
gaps and the literals are as long together as the text (`Template.sum_length_of_gaps?`).  Both
hold of any list of elements, alternating or not.
-/

namespace MailSort

namespace Element

variable {elements : List Element} {text : Text} {gaps : List Text}

@[simp] theorem countP_isWildcard_cons_literal (part : Text) (elements : List Element) :
    (literal part :: elements).countP isWildcard = elements.countP isWildcard :=
  List.countP_cons_of_neg (by simp [isWildcard])

@[simp] theorem countP_isWildcard_cons_wildcard (elements : List Element) :
    (wildcard :: elements).countP isWildcard = elements.countP isWildcard + 1 :=
  List.countP_cons_of_pos rfl

theorem length_of_fillGaps? (filled : fillGaps? elements text = some gaps) :
    gaps.length = elements.countP isWildcard := by
  fun_induction fillGaps? elements text generalizing gaps with
  | case1 =>
    cases filled
    rfl
  | case2 => contradiction
  | case3 text =>
    cases filled
    rfl
  | case4 part text =>
    obtain ⟨gap, _, rfl⟩ := Option.map_eq_some_iff.1 filled
    rfl
  | case5 part rest text more gap after found ih =>
    obtain ⟨others, read, rfl⟩ := Option.map_eq_some_iff.1 filled
    simp [ih read]
  | case6 => contradiction
  | case7 rest text _ _ _ ih =>
    obtain ⟨others, read, rfl⟩ := Option.map_eq_some_iff.1 filled
    simp [ih read]
  | case8 part rest text after here ih => simp [ih filled]
  | case9 => contradiction

theorem sum_length_of_fillGaps? (filled : fillGaps? elements text = some gaps) :
    (gaps.map List.length).sum + literalLength elements = text.length := by
  fun_induction fillGaps? elements text generalizing gaps with
  | case1 =>
    cases filled
    rfl
  | case2 => contradiction
  | case3 text =>
    cases filled
    simp
  | case4 part text =>
    obtain ⟨gap, left, rfl⟩ := Option.map_eq_some_iff.1 filled
    rw [List.isSuffixOf?_eq_some_iff_append_eq] at left
    simp [← left]
  | case5 part rest text more gap after found ih =>
    obtain ⟨others, read, rfl⟩ := Option.map_eq_some_iff.1 filled
    have whole := congrArg List.length (Text.eq_of_breakAt? found)
    have behind := ih read
    simp only [List.length_append] at whole
    simp only [List.map_cons, List.sum_cons, literalLength_cons_wildcard,
      literalLength_cons_literal]
    omega
  | case6 => contradiction
  | case7 rest text _ _ _ ih =>
    obtain ⟨others, read, rfl⟩ := Option.map_eq_some_iff.1 filled
    simpa using ih read
  | case8 part rest text after here ih =>
    rw [List.isPrefixOf?_eq_some_iff_append_eq] at here
    have behind := ih filled
    rw [literalLength_cons_literal, ← here, List.length_append]
    omega
  | case9 => contradiction

end Element

namespace Template

variable {template : Template} {text : Text} {gaps : List Text}

/-- A template without elements reads nothing off any text. -/
theorem gaps?_of_isEmpty (nothing : template.isEmpty) (text : Text) : template.gaps? text = none :=
  if_pos nothing

theorem fillGaps?_of_gaps? (read : template.gaps? text = some gaps) :
    Element.fillGaps? template.elements text = some gaps := by
  rw [gaps?] at read
  split at read
  · contradiction
  · exact read

theorem exists_gaps?_of_fits (fitted : template.fits text) :
    ∃ gaps, template.gaps? text = some gaps :=
  Option.isSome_iff_exists.1 fitted

/-- There is one gap for each wildcard. -/
theorem length_of_gaps? (read : template.gaps? text = some gaps) :
    gaps.length = template.gapCount :=
  Element.length_of_fillGaps? (fillGaps?_of_gaps? read)

/-- Every character of the text is in a gap or in a literal. -/
theorem sum_length_of_gaps? (read : template.gaps? text = some gaps) :
    (gaps.map List.length).sum + template.literalLength = text.length :=
  Element.sum_length_of_fillGaps? (fillGaps?_of_gaps? read)

/-! ## Gaps at the ends -/

theorem gapCount_eq_zero (nothing : template.isEmpty) : template.gapCount = 0 := by
  rw [gapCount, List.isEmpty_iff.1 nothing]
  rfl

theorem gapCount_pos_of_mem (member : .wildcard ∈ template.elements) : 0 < template.gapCount :=
  List.countP_pos_iff.2 ⟨.wildcard, member, rfl⟩

theorem startsOpen_iff : template.startsOpen ↔ ∃ rest, template.elements = .wildcard :: rest := by
  rw [startsOpen]
  cases template.elements with
  | nil => simp
  | cons first rest => cases first <;> simp [Element.isWildcard]

theorem endsOpen_iff : template.endsOpen ↔ ∃ rest, template.elements = rest ++ [.wildcard] := by
  rw [endsOpen]
  induction template.elements using List.reverseRecOn with
  | nil => simp
  | append_singleton rest last _ => cases last <;> simp [Element.isWildcard]

/-- A gap at the beginning is not the gap at the end, since a wildcard never stands alone. -/
theorem two_le_gapCount (opens : template.startsOpen) (closes : template.endsOpen) :
    2 ≤ template.gapCount := by
  obtain ⟨behind, first⟩ := startsOpen_iff.1 opens
  obtain ⟨before, last⟩ := endsOpen_iff.1 closes
  cases before with
  | nil => exact absurd last template.normal.not_lone_wildcard
  | cons element before =>
    rw [first, List.cons_append] at last
    obtain ⟨rfl, rfl⟩ := List.cons.inj last
    simp [gapCount, first, Element.isWildcard]

end Template

end MailSort
