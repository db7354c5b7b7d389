import MailSort.Proofs.Template.Gaps
import MailSort.Proofs.Template.Language

/-! # The least gaps

A text can be in the language of a template in several ways, which differ in what fills the
wildcards (`Element.Fills`).  What is read off the text is one of these ways, and every other one
has lengths that come later in lexicographic order (`Element.least_of_fillGaps?`): where the two
first differ, leftmost reading has the shorter gap.
-/

namespace MailSort

namespace Element

def fill : List Element → List Text → Text
  | .literal part :: elements, gaps => part ++ fill elements gaps
  | .wildcard :: elements, gap :: gaps => gap ++ fill elements gaps
  | .wildcard :: elements, [] => fill elements []
  | [], _ => []

/-- Some texts, one for each wildcard, make up a text together with the literals. -/
structure Fills (elements : List Element) (gaps : List Text) (text : Text) : Prop where
  length_eq : gaps.length = elements.countP isWildcard
  fill_eq : fill elements gaps = text

variable {elements : List Element} {text : Text} {gaps others : List Text}

/-! ## Inversion -/

theorem fills_nil : Fills [] gaps text ↔ gaps = [] ∧ text = [] := by
  constructor
  · rintro ⟨none, rfl⟩
    exact ⟨List.eq_nil_of_length_eq_zero none, rfl⟩
  · rintro ⟨rfl, rfl⟩
    exact ⟨rfl, rfl⟩

theorem fills_literal {part : Text} :
    Fills (.literal part :: elements) gaps text ↔
      ∃ rest, text = part ++ rest ∧ Fills elements gaps rest := by
  constructor
  · rintro ⟨count, rfl⟩
    rw [countP_isWildcard_cons_literal] at count
    exact ⟨_, rfl, count, rfl⟩
  · rintro ⟨rest, rfl, count, rfl⟩
    refine ⟨?_, rfl⟩
    rwa [countP_isWildcard_cons_literal]

theorem fills_wildcard :
    Fills (.wildcard :: elements) gaps text ↔
      ∃ gap later rest, gaps = gap :: later ∧ text = gap ++ rest ∧ Fills elements later rest := by
  constructor
  · rintro ⟨count, rfl⟩
    rw [countP_isWildcard_cons_wildcard] at count
    cases gaps with
    | nil => contradiction
    | cons gap later => exact ⟨gap, later, _, rfl, rfl, Nat.succ.inj count, rfl⟩
  · rintro ⟨gap, later, rest, rfl, rfl, count, rfl⟩
    refine ⟨?_, rfl⟩
    rw [countP_isWildcard_cons_wildcard, List.length_cons, count]

/-- Elements stand for the texts that come from filling their wildcards. -/
theorem denotes_iff_fills : Denotes elements text ↔ ∃ gaps, Fills elements gaps text := by
  constructor
  · intro denoted
    induction denoted with
    | nil => exact ⟨[], rfl, rfl⟩
    | literal part _ ih =>
      obtain ⟨gaps, filled⟩ := ih
      exact ⟨gaps, fills_literal.2 ⟨_, rfl, filled⟩⟩
    | wildcard gap _ ih =>
      obtain ⟨gaps, filled⟩ := ih
      exact ⟨gap :: gaps, fills_wildcard.2 ⟨gap, gaps, _, rfl, rfl, filled⟩⟩
  · rintro ⟨gaps, filled⟩
    induction elements generalizing gaps text with
    | nil =>
      obtain ⟨-, rfl⟩ := fills_nil.1 filled
      exact .nil
    | cons element elements ih =>
      cases element with
      | literal part =>
        obtain ⟨rest, rfl, behind⟩ := fills_literal.1 filled
        exact .literal part (ih gaps behind)
      | wildcard =>
        obtain ⟨gap, later, rest, rfl, rfl, behind⟩ := fills_wildcard.1 filled
        exact .wildcard gap (ih later behind)

/-! ## Reading -/

theorem fills_of_fillGaps? (filled : fillGaps? elements text = some gaps) :
    Fills elements gaps text := by
  refine ⟨length_of_fillGaps? filled, ?_⟩
  fun_induction fillGaps? elements text generalizing gaps with
  | case1 =>
    cases filled
    rfl
  | case2 => contradiction
  | case3 text =>
    cases filled
    exact List.append_nil text
  | case4 part text =>
    obtain ⟨gap, left, rfl⟩ := Option.map_eq_some_iff.1 filled
    rw [List.isSuffixOf?_eq_some_iff_append_eq] at left
    rw [fill, fill, fill, List.append_nil, left]
  | case5 part rest text more gap after found ih =>
    obtain ⟨later, read, rfl⟩ := Option.map_eq_some_iff.1 filled
    rw [fill, fill, ih read, ← List.append_assoc, ← Text.eq_of_breakAt? found]
  | case6 => contradiction
  | case7 rest text _ _ _ ih =>
    obtain ⟨later, read, rfl⟩ := Option.map_eq_some_iff.1 filled
    rw [fill, ih read, List.nil_append]
  | case8 part rest text after here ih =>
    rw [List.isPrefixOf?_eq_some_iff_append_eq] at here
    rw [fill, ih filled, here]
  | case9 => contradiction

/-- Two ways to fill are the same, or the first one comes first by the lengths of its gaps. -/
def Precedes (gaps others : List Text) : Prop :=
  others = gaps ∨ gaps.map List.length < others.map List.length

theorem Precedes.cons (gap : Text) (later : Precedes gaps others) :
    Precedes (gap :: gaps) (gap :: others) := by
  obtain rfl | before := later
  · exact .inl rfl
  · refine .inr ?_
    rw [List.map_cons, List.map_cons, List.cons_lt_cons_iff]
    exact .inr ⟨rfl, before⟩

theorem precedes_of_shorter {gap other : Text} (shorter : gap.length < other.length) :
    Precedes (gap :: gaps) (other :: others) := by
  refine .inr ?_
  rw [List.map_cons, List.map_cons, List.cons_lt_cons_iff]
  exact .inl shorter

/-- What is read comes before every other way to fill.  A literal behind a wildcard is taken where
    it occurs first, so the gap before it is the shortest, and if another way has the same gap the
    two go on with the same text. -/
theorem least_of_fillGaps? (filled : fillGaps? elements text = some gaps)
    (fills : Fills elements others text) : Precedes gaps others := by
  fun_induction fillGaps? elements text generalizing gaps others with
  | case1 =>
    cases filled
    exact .inl (fills_nil.1 fills).1
  | case2 => contradiction
  | case3 text =>
    cases filled
    obtain ⟨gap, later, rest, rfl, rfl, behind⟩ := fills_wildcard.1 fills
    obtain ⟨rfl, rfl⟩ := fills_nil.1 behind
    exact .inl (by rw [List.append_nil])
  | case4 part text =>
    obtain ⟨gap, left, rfl⟩ := Option.map_eq_some_iff.1 filled
    rw [List.isSuffixOf?_eq_some_iff_append_eq] at left
    obtain ⟨other, later, _, rfl, rfl, behindGap⟩ := fills_wildcard.1 fills
    obtain ⟨rest, rfl, behind⟩ := fills_literal.1 behindGap
    obtain ⟨rfl, rfl⟩ := fills_nil.1 behind
    rw [List.append_nil] at left
    exact .inl (by rw [List.append_cancel_right left])
  | case5 part rest text more gap after found ih =>
    obtain ⟨gaps, read, rfl⟩ := Option.map_eq_some_iff.1 filled
    obtain ⟨other, later, _, rfl, rfl, behindGap⟩ := fills_wildcard.1 fills
    obtain ⟨left, rfl, behind⟩ := fills_literal.1 behindGap
    obtain shorter | ⟨rfl, rfl⟩ := Text.shorter_or_eq_of_breakAt? found
    · exact precedes_of_shorter shorter
    · exact (ih read behind).cons gap
  | case6 => contradiction
  | case7 rest text _ _ _ ih =>
    obtain ⟨gaps, read, rfl⟩ := Option.map_eq_some_iff.1 filled
    obtain ⟨other, later, left, rfl, rfl, behind⟩ := fills_wildcard.1 fills
    cases other with
    | nil => exact (ih read behind).cons []
    | cons c other => exact precedes_of_shorter (Nat.zero_lt_succ _)
  | case8 part rest text after here ih =>
    rw [List.isPrefixOf?_eq_some_iff_append_eq] at here
    obtain ⟨left, rfl, behind⟩ := fills_literal.1 fills
    rw [List.append_cancel_left here] at filled ih
    exact ih filled behind
  | case9 => contradiction

end Element

namespace Template

/-- A template without elements fits nothing.  Any other template fits a text if the text comes
    from filling its wildcards, and then it reads off the text what fills them: one gap for each
    wildcard, and no other way to fill them has lengths that come as early in lexicographic
    order. -/
theorem gaps?_least (template : Template) (text : Text) :
    (template.isEmpty → template.fits text = false ∧ template.gaps? text = none) ∧
      (template.isEmpty = false →
        (template.fits text ↔ ∃ filling, Element.Fills template.elements filling text) ∧
        ((∃ gaps, template.gaps? text = some gaps) ↔
          ∃ filling, Element.Fills template.elements filling text) ∧
        ∀ gaps, template.gaps? text = some gaps →
          gaps.length = template.gapCount ∧ Element.fill template.elements gaps = text ∧
          ∀ others, Element.Fills template.elements others text → others ≠ gaps →
            gaps.map List.length < others.map List.length) := by
  constructor
  · intro nothing
    have unread := gaps?_of_isEmpty nothing text
    exact ⟨by rw [fits, unread]; rfl, unread⟩
  · intro nonempty
    have fitted : template.fits text ↔ ∃ filling, Element.Fills template.elements filling text := by
      rw [fits_iff, Element.denotes_iff_fills]
      exact and_iff_right nonempty
    refine ⟨fitted, Option.isSome_iff_exists.symm.trans fitted, fun gaps read => ?_⟩
    have filled := fillGaps?_of_gaps? read
    obtain ⟨one_each, whole⟩ := Element.fills_of_fillGaps? filled
    refine ⟨one_each, whole, fun others fills differ => ?_⟩
    exact (Element.least_of_fillGaps? filled fills).resolve_left differ

/-- The first literal occurs three times, and only the last occurrence is at the end. -/
theorem gaps?_least_of_repeated_literal :
    let template := ofElements
      [.wildcard, .literal "ab".toList, .wildcard, .literal "ab".toList]
    let text := "abxabab".toList
    template.isEmpty = false ∧ template.gaps? text = some [[], "xab".toList] ∧
      Element.Fills template.elements ["abx".toList, []] text ∧
      [[], "xab".toList].map List.length < ["abx".toList, []].map List.length ∧
      empty.isEmpty ∧ empty.fits text = false := by
  intro template text
  have nonempty : template.isEmpty = false := by decide
  have read : template.gaps? text = some [[], "xab".toList] := by decide
  have other : Element.Fills template.elements ["abx".toList, []] text := ⟨by decide, by decide⟩
  obtain ⟨-, -, reads⟩ := (gaps?_least template text).2 nonempty
  obtain ⟨-, -, least⟩ := reads _ read
  have nothing : empty.isEmpty := rfl
  exact ⟨nonempty, read, other, least _ other (by decide), nothing,
    ((gaps?_least empty text).1 nothing).1⟩

end Template

end MailSort
