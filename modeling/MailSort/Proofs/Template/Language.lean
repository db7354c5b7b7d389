import MailSort.Proofs.Text.Split
import MailSort.Template.Matching

/-! # The language of a template

`Element.Denotes` says which texts elements stand for, whatever way there is to find out.
Bringing elements into normal form leaves the language as it is (`Element.denotes_tidy`),
and reading alternating elements off a text succeeds exactly for the texts of the language
(`Element.isSome_fillGaps?_iff`).  So a template fits the texts of its language and no
others (`Template.fits_iff`).
-/

namespace MailSort

namespace Element

/-- The texts that elements stand for: the literals in order, with any text in the place of
    each wildcard. -/
inductive Denotes : List Element → Text → Prop where
  | nil : Denotes [] []
  | literal (part : Text) {elements : List Element} {text : Text} :
      Denotes elements text → Denotes (.literal part :: elements) (part ++ text)
  | wildcard (gap : Text) {elements : List Element} {text : Text} :
      Denotes elements text → Denotes (.wildcard :: elements) (gap ++ text)

variable {elements others : List Element} {text : Text}

/-! ## Inversion -/

theorem denotes_nil : Denotes [] text ↔ text = [] :=
  ⟨fun denoted => by cases denoted; rfl, fun same => same ▸ .nil⟩

theorem denotes_literal {part : Text} :
    Denotes (.literal part :: elements) text ↔
      ∃ rest, text = part ++ rest ∧ Denotes elements rest := by
  constructor
  · intro denoted
    cases denoted with
    | literal _ denoted => exact ⟨_, rfl, denoted⟩
  · rintro ⟨rest, rfl, denoted⟩
    exact .literal part denoted

theorem denotes_single_literal {part : Text} : Denotes [.literal part] text ↔ text = part := by
  simp [denotes_literal, denotes_nil]

theorem denotes_wildcard :
    Denotes (.wildcard :: elements) text ↔
      ∃ gap rest, text = gap ++ rest ∧ Denotes elements rest := by
  constructor
  · intro denoted
    cases denoted with
    | wildcard gap denoted => exact ⟨gap, _, rfl, denoted⟩
  · rintro ⟨gap, rest, rfl, denoted⟩
    exact .wildcard gap denoted

/-! ## Composition -/

theorem Denotes.append {first second : Text} (before : Denotes elements first)
    (after : Denotes others second) : Denotes (elements ++ others) (first ++ second) := by
  induction before with
  | nil => exact after
  | literal part _ ih =>
    rw [List.append_assoc]
    exact .literal part ih
  | wildcard gap _ ih =>
    rw [List.append_assoc]
    exact .wildcard gap ih

theorem Denotes.split (denoted : Denotes (elements ++ others) text) :
    ∃ first second, text = first ++ second ∧ Denotes elements first ∧ Denotes others second := by
  induction elements generalizing text with
  | nil => exact ⟨[], text, rfl, .nil, denoted⟩
  | cons element elements ih =>
    cases denoted with
    | literal part denoted =>
      obtain ⟨first, second, rfl, before, after⟩ := ih denoted
      exact ⟨part ++ first, second, by rw [List.append_assoc], .literal part before, after⟩
    | wildcard gap denoted =>
      obtain ⟨first, second, rfl, before, after⟩ := ih denoted
      exact ⟨gap ++ first, second, by rw [List.append_assoc], .wildcard gap before, after⟩

theorem Denotes.skip (denoted : Denotes elements text) : Denotes (.wildcard :: elements) text :=
  .wildcard [] denoted

/-- A wildcard in front takes in more text in front. -/
theorem Denotes.prepend (denoted : Denotes (.wildcard :: elements) text) (more : Text) :
    Denotes (.wildcard :: elements) (more ++ text) := by
  obtain ⟨gap, rest, rfl, behind⟩ := denotes_wildcard.1 denoted
  rw [← List.append_assoc]
  exact .wildcard (more ++ gap) behind

/-! ## Normal form -/

theorem denotes_attach (element : Element) :
    Denotes (attach element elements) text ↔ Denotes (element :: elements) text := by
  unfold attach
  split
  · simp [denotes_literal]
  · next part next rest _ =>
    simp only [denotes_literal, List.append_assoc]
    constructor
    · rintro ⟨after, rfl, denoted⟩
      exact ⟨next ++ after, rfl, after, rfl, denoted⟩
    · rintro ⟨_, rfl, after, rfl, denoted⟩
      exact ⟨after, rfl, denoted⟩
  · next rest =>
    constructor
    · exact Denotes.skip
    · intro denoted
      obtain ⟨gap, after, rfl, behind⟩ := denotes_wildcard.1 denoted
      exact behind.prepend gap
  · rfl

theorem denotes_cons_congr (element : Element)
    (same : ∀ text, Denotes elements text ↔ Denotes others text) :
    Denotes (element :: elements) text ↔ Denotes (element :: others) text := by
  cases element with
  | literal part => simp only [denotes_literal, same]
  | wildcard => simp only [denotes_wildcard, same]

/-- Tidying elements changes none of the texts they stand for. -/
theorem denotes_tidy (elements : List Element) (text : Text) :
    Denotes (tidy elements) text ↔ Denotes elements text := by
  induction elements generalizing text with
  | nil => rfl
  | cons element elements ih =>
    exact (denotes_attach element).trans (denotes_cons_congr element ih)

/-! ## Reading -/

theorem Alternating.tail {element : Element} (alternating : Alternating (element :: elements)) :
    Alternating elements := by
  cases elements with
  | nil => trivial
  | cons next rest => exact alternating.2

/-- What follows a literal begins with a wildcard. -/
theorem Alternating.wildcard_after {part : Text}
    (alternating : Alternating (.literal part :: elements)) (more : elements ≠ []) :
    ∃ rest, elements = .wildcard :: rest := by
  cases elements with
  | nil => contradiction
  | cons next rest =>
    cases next with
    | literal other => exact absurd rfl alternating.1
    | wildcard => exact ⟨rest, rfl⟩

/-- Leftmost reading finds a reading if there is one, and only then.  A literal between two
    wildcards may be taken where it occurs first, because the wildcard behind it takes in
    what that leaves over. -/
theorem isSome_fillGaps?_iff (alternating : Alternating elements) (text : Text) :
    (fillGaps? elements text).isSome ↔ Denotes elements text := by
  fun_induction fillGaps? elements text with
  | case1 => simp [denotes_nil]
  | case2 text nonempty => simp [denotes_nil, nonempty]
  | case3 text =>
    refine ⟨fun _ => ?_, fun _ => rfl⟩
    exact denotes_wildcard.2 ⟨text, [], by simp, .nil⟩
  | case4 part text =>
    simp only [Option.isSome_map, Option.isSome_iff_exists, List.isSuffixOf?_eq_some_iff_append_eq,
      denotes_wildcard, denotes_literal, denotes_nil]
    constructor
    · rintro ⟨gap, rfl⟩
      exact ⟨gap, part, rfl, [], by simp, rfl⟩
    · rintro ⟨gap, _, rfl, _, rfl, rfl⟩
      exact ⟨gap, by simp⟩
  | case5 part rest text more gap after found ih =>
    rw [Option.isSome_map, ih alternating.tail.tail]
    constructor
    · intro denoted
      rw [Text.eq_of_breakAt? found, List.append_assoc]
      exact .wildcard gap (.literal part denoted)
    · intro denoted
      -- The leftmost occurrence leaves `extra` over, which the next wildcard takes in.
      obtain ⟨other, _, rfl, behindGap⟩ := denotes_wildcard.1 denoted
      obtain ⟨left, rfl, behind⟩ := denotes_literal.1 behindGap
      obtain ⟨_, _, leftmost, extra, rfl⟩ := Text.exists_breakAt? part other left
      rw [← List.append_assoc, leftmost] at found
      cases found
      obtain ⟨rest, rfl⟩ := alternating.tail.wildcard_after more
      exact behind.prepend extra
  | case6 part rest text more missing =>
    refine ⟨fun found => absurd found (by simp), fun denoted => ?_⟩
    obtain ⟨gap, _, rfl, behindGap⟩ := denotes_wildcard.1 denoted
    obtain ⟨left, rfl, _⟩ := denotes_literal.1 behindGap
    obtain ⟨_, _, found, _⟩ := Text.exists_breakAt? part gap left
    rw [← List.append_assoc, found] at missing
    contradiction
  | case7 rest text last closing between _ =>
    -- Alternating elements have nothing but a literal behind a wildcard.
    cases rest with
    | nil => exact absurd rfl last
    | cons next rest =>
      cases next with
      | literal part => exact absurd rfl (between part rest)
      | wildcard => exact absurd rfl alternating.1
  | case8 part rest text after here ih =>
    rw [ih alternating.tail]
    rw [List.isPrefixOf?_eq_some_iff_append_eq] at here
    subst here
    constructor
    · exact Denotes.literal part
    · intro denoted
      obtain ⟨left, same, behind⟩ := denotes_literal.1 denoted
      rwa [List.append_cancel_left same]
  | case9 part rest text elsewhere =>
    refine ⟨fun found => absurd found (by simp), fun denoted => ?_⟩
    obtain ⟨left, rfl, _⟩ := denotes_literal.1 denoted
    rw [List.isPrefixOf?_eq_some_iff_append_eq.2 rfl] at elsewhere
    contradiction

/-- A text contains every literal of elements that stand for it. -/
theorem Denotes.infix_of_mem {part : Text} (denoted : Denotes elements text)
    (member : .literal part ∈ elements) : part <:+: text := by
  induction denoted with
  | nil => contradiction
  | @literal first elements text _ ih =>
    rcases List.mem_cons.1 member with same | member
    · cases same
      exact List.infix_append_left
    · exact (ih member).trans (List.suffix_append first text).isInfix
  | @wildcard gap elements text _ ih =>
    rcases List.mem_cons.1 member with same | member
    · contradiction
    · exact (ih member).trans (List.suffix_append gap text).isInfix

end Element

namespace Template

variable {template : Template} {elements : List Element} {text : Text}

theorem isEmpty_eq_false_iff : template.isEmpty = false ↔ template.elements ≠ [] :=
  List.isEmpty_eq_false_iff

theorem isEmpty_of_mem {element : Element} (member : element ∈ template.elements) :
    template.isEmpty = false :=
  isEmpty_eq_false_iff.2 (List.ne_nil_of_mem member)

/-- A template with elements fits the texts of its language, and no others. -/
theorem fits_iff :
    template.fits text ↔ template.isEmpty = false ∧ Element.Denotes template.elements text := by
  rw [fits, gaps?]
  cases empty : template.isEmpty with
  | true => simp
  | false => simpa using Element.isSome_fillGaps?_iff template.normal.alternating text

/-- A template made of elements has a language of its own only if it is not empty. -/
theorem elements_ofElements (nonempty : (ofElements elements).isEmpty = false) :
    (ofElements elements).elements = Element.tidy elements := by
  unfold ofElements at nonempty ⊢
  split
  · next lone => simp [lone, empty, isEmpty] at nonempty
  · rfl

theorem fits_ofElements_iff (nonempty : (ofElements elements).isEmpty = false) :
    (ofElements elements).fits text ↔ Element.Denotes elements text := by
  rw [fits_iff, elements_ofElements nonempty, Element.denotes_tidy]
  exact and_iff_right nonempty

/-- A template with elements has a literal: it is more than one wildcard. -/
theorem exists_literal (nonempty : template.isEmpty = false) :
    ∃ part, .literal part ∈ template.elements := by
  obtain ⟨elements, normal⟩ := template
  cases elements with
  | nil => contradiction
  | cons first rest =>
    cases first with
    | literal part => exact ⟨part, List.mem_cons_self⟩
    | wildcard =>
      cases rest with
      | nil => exact absurd rfl normal.not_lone_wildcard
      | cons second rest =>
        cases second with
        | literal part => exact ⟨part, by simp⟩
        | wildcard => exact absurd rfl normal.alternating.1

theorem literal_ne_nil (template : Template) {part : Text}
    (member : .literal part ∈ template.elements) : part ≠ [] := by
  rintro rfl
  exact template.normal.no_empty_literal member

theorem not_fits_nil (template : Template) : template.fits [] = false := by
  rw [Bool.eq_false_iff, ne_eq, fits_iff]
  rintro ⟨nonempty, denoted⟩
  obtain ⟨part, member⟩ := exists_literal nonempty
  exact template.literal_ne_nil member (List.infix_nil.1 (denoted.infix_of_mem member))

end Template

end MailSort
