import MailSort.Proofs.Template.NormalForm
import MailSort.Proofs.Template.Realignment

/-! # One template for one language

Elements in normal form stay as they are when they are brought into normal form
(`Template.ofElements_elements`), and no other template fits the same texts, if there is a character
that no literal has (`Template.eq_of_fits_iff`).  The argument counts.  Each of two such templates
fits the text that the other one has with a mark in each gap.  No literal has the mark, so neither
template has more characters in its literals than the other; then there is nothing but marks for
the wildcards to take in, and since no two marks stand side by side, each wildcard takes in one.
-/

namespace MailSort

def Text.MarksApart (mark : Char) (text : Text) : Prop :=
  text.IsChain fun c d => c = mark → d ≠ mark

namespace Element

variable {elements others : List Element} {part text : Text} {mark : Char}

def Fresh (mark : Char) (elements : List Element) : Prop :=
  ∀ part, .literal part ∈ elements → mark ∉ part

theorem Fresh.tail {element : Element} (fresh : Fresh mark (element :: elements)) :
    Fresh mark elements :=
  fun part member => fresh part (List.mem_cons_of_mem _ member)

theorem Fresh.not_mem (fresh : Fresh mark (.literal part :: elements)) : mark ∉ part :=
  fresh part List.mem_cons_self

/-! ## Texts with marks -/

@[simp] theorem markGaps_nil (mark : Char) : markGaps mark [] = [] := rfl

@[simp] theorem markGaps_cons_literal (mark : Char) (part : Text) (elements : List Element) :
    markGaps mark (.literal part :: elements) = part ++ markGaps mark elements := rfl

@[simp] theorem markGaps_cons_wildcard (mark : Char) (elements : List Element) :
    markGaps mark (.wildcard :: elements) = mark :: markGaps mark elements := rfl

theorem count_markGaps (fresh : Fresh mark elements) :
    (markGaps mark elements).count mark = elements.countP isWildcard := by
  induction elements with
  | nil => rfl
  | cons element elements ih =>
    cases element with
    | literal part => simp [List.count_eq_zero.2 fresh.not_mem, ih fresh.tail]
    | wildcard => simp [ih fresh.tail]

/-- The characters of a literal without marks. -/
theorem countP_ne_mark (fresh : mark ∉ part) : part.countP (· ≠ mark) = part.length := by
  apply List.countP_eq_length.2
  intro c member
  rw [decide_eq_true_iff]
  rintro rfl
  exact fresh member

theorem countP_markGaps (fresh : Fresh mark elements) :
    (markGaps mark elements).countP (· ≠ mark) = literalLength elements := by
  induction elements with
  | nil => rfl
  | cons element elements ih =>
    cases element with
    | literal part =>
      rw [markGaps_cons_literal, List.countP_append, countP_ne_mark fresh.not_mem, ih fresh.tail,
        literalLength_cons_literal]
    | wildcard => simpa using ih fresh.tail

/-- The literals are somewhere in the text, beside each other and not on marks. -/
theorem Denotes.literalLength_le (denoted : Denotes elements text) (fresh : Fresh mark elements) :
    literalLength elements ≤ text.countP (· ≠ mark) := by
  induction denoted with
  | nil => exact Nat.zero_le _
  | literal part _ ih =>
    have later := ih fresh.tail
    rw [literalLength_cons_literal, List.countP_append, countP_ne_mark fresh.not_mem]
    omega
  | wildcard gap _ ih =>
    have later := ih fresh.tail
    rw [literalLength_cons_wildcard, List.countP_append]
    omega

/-- Elements that can be told from a text with marks: they alternate, and their literals are not
    empty and do not have the mark. -/
structure Markable (mark : Char) (elements : List Element) : Prop where
  alternating : Alternating elements
  full : .literal [] ∉ elements
  fresh : Fresh mark elements

theorem Markable.tail {element : Element} (markable : Markable mark (element :: elements)) :
    Markable mark elements :=
  ⟨markable.alternating.tail, fun member => markable.full (List.mem_cons_of_mem _ member),
    markable.fresh.tail⟩

theorem Markable.ne_nil (markable : Markable mark (.literal part :: elements)) : part ≠ [] := by
  rintro rfl
  exact markable.full List.mem_cons_self

/-- Between two wildcards there is a literal, and so there is one between two marks. -/
theorem Markable.marksApart (markable : Markable mark elements) :
    Text.MarksApart mark (markGaps mark elements) := by
  induction elements with
  | nil => exact .nil
  | cons element elements ih =>
    have later := ih markable.tail
    cases element with
    | literal part =>
      have unmarked (c : Char) (member : c ∈ part) : c ≠ mark :=
        fun same => markable.fresh.not_mem (same ▸ member)
      have here : Text.MarksApart mark part := by
        apply List.Pairwise.isChain
        apply List.pairwise_of_forall_mem_list
        exact fun c inside d _ same => absurd same (unmarked c inside)
      rw [markGaps_cons_literal]
      apply List.isChain_append.2
      exact ⟨here, later, fun c last d _ same =>
        absurd same (unmarked c (List.mem_of_mem_getLast? last))⟩
    | wildcard =>
      rw [markGaps_cons_wildcard]
      apply List.isChain_cons.2
      apply And.intro _ later
      intro d first _
      obtain rfl | ⟨part, more, rfl⟩ := markable.alternating.behind_wildcard
      · cases first
      · obtain ⟨c, part, rfl⟩ := List.exists_cons_of_ne_nil markable.tail.ne_nil
        cases first
        exact fun same => markable.fresh.tail.not_mem (same ▸ List.mem_cons_self)

/-- A literal goes as far as the first mark. -/
theorem Markable.takeWhile_markGaps (markable : Markable mark (.literal part :: elements)) :
    (markGaps mark (.literal part :: elements)).takeWhile (· ≠ mark) = part := by
  have unmarked : ∀ c ∈ part, decide (c ≠ mark) := by
    intro c member
    rw [decide_eq_true_iff]
    rintro rfl
    exact markable.fresh.not_mem member
  rw [markGaps_cons_literal, List.takeWhile_append_of_pos unmarked]
  obtain rfl | ⟨more, rfl⟩ := markable.alternating.behind_literal <;> simp

/-- The elements can be read off the text with the marks. -/
theorem Markable.eq_of_markGaps (markable : Markable mark elements)
    (markable' : Markable mark others) (same : markGaps mark elements = markGaps mark others) :
    elements = others := by
  induction elements generalizing others with
  | nil =>
    cases others with
    | nil => rfl
    | cons element others =>
      cases element with
      | literal part => simp [markable'.ne_nil] at same
      | wildcard => simp at same
  | cons element elements ih =>
    have first := congrArg (List.takeWhile (· ≠ mark)) same
    cases element with
    | literal part =>
      rw [markable.takeWhile_markGaps] at first
      cases others with
      | nil => exact absurd first markable.ne_nil
      | cons element others =>
        cases element with
        | literal part' =>
          rw [markable'.takeWhile_markGaps] at first
          subst first
          rw [ih markable.tail markable'.tail (List.append_cancel_left same)]
        | wildcard =>
          rw [markGaps_cons_wildcard, List.takeWhile_cons_of_neg (by simp)] at first
          exact absurd first markable.ne_nil
    | wildcard =>
      rw [markGaps_cons_wildcard, List.takeWhile_cons_of_neg (by simp)] at first
      cases others with
      | nil => simp at same
      | cons element others =>
        cases element with
        | literal part' =>
          rw [markable'.takeWhile_markGaps] at first
          exact absurd first.symm markable'.ne_nil
        | wildcard => rw [ih markable.tail markable'.tail (List.cons.inj same).2]

/-! ## Counting -/

/-- Elements with as many characters in their literals as a text has beside the marks have nothing
    but marks for their wildcards.  Marks that stand apart go to one wildcard each. -/
theorem Denotes.count_le (denoted : Denotes elements text) (fresh : Fresh mark elements)
    (apart : Text.MarksApart mark text) (tight : text.countP (· ≠ mark) ≤ literalLength elements) :
    text.count mark ≤ elements.countP isWildcard ∧
      (text.count mark = elements.countP isWildcard → text = markGaps mark elements) := by
  induction denoted with
  | nil => simp
  | @literal part elements text denoted ih =>
    rw [List.countP_append, countP_ne_mark fresh.not_mem, literalLength_cons_literal] at tight
    obtain ⟨fewer, same⟩ := ih fresh.tail (List.isChain_append.1 apart).2.1 (by omega)
    rw [List.count_append, List.count_eq_zero.2 fresh.not_mem, Nat.zero_add,
      countP_isWildcard_cons_literal, markGaps_cons_literal]
    exact ⟨fewer, fun all => by rw [same all]⟩
  | @wildcard gap elements text denoted ih =>
    have room := denoted.literalLength_le fresh.tail
    rw [List.countP_append, literalLength_cons_wildcard] at tight
    obtain ⟨fewer, same⟩ := ih fresh.tail (List.isChain_append.1 apart).2.1 (by omega)
    have marks : ∀ c ∈ gap, c = mark := by
      have none : gap.countP (· ≠ mark) = 0 := by omega
      simpa [List.countP_eq_zero] using none
    rw [List.count_append, countP_isWildcard_cons_wildcard, markGaps_cons_wildcard]
    match gap, marks, (List.isChain_append.1 apart).1 with
    | [], _, _ =>
      rw [List.count_nil, Nat.zero_add]
      exact ⟨Nat.le_succ_of_le fewer, fun all => by omega⟩
    | [c], marks, _ =>
      obtain rfl := marks c List.mem_cons_self
      rw [List.count_singleton_self]
      exact ⟨by omega, fun all => by rw [same (by omega), List.singleton_append]⟩
    | c :: d :: gap, marks, chain =>
      -- Two marks would stand side by side.
      have beside := (List.isChain_cons_cons.1 chain).1
      exact absurd (marks d (by simp)) (beside (marks c (by simp)))

theorem Denotes.eq_markGaps (denoted : Denotes elements (markGaps mark others))
    (denoted' : Denotes others (markGaps mark elements)) (markable : Markable mark elements)
    (markable' : Markable mark others) : markGaps mark others = markGaps mark elements := by
  have literals : literalLength elements = literalLength others := by
    apply Nat.le_antisymm
    · rw [← countP_markGaps markable'.fresh]
      exact denoted.literalLength_le markable.fresh
    · rw [← countP_markGaps markable.fresh]
      exact denoted'.literalLength_le markable'.fresh
  obtain ⟨fewer, same⟩ := denoted.count_le markable.fresh markable'.marksApart
    (by rw [countP_markGaps markable'.fresh, literals])
  obtain ⟨fewer', -⟩ := denoted'.count_le markable'.fresh markable.marksApart
    (by rw [countP_markGaps markable.fresh, literals])
  rw [count_markGaps markable'.fresh] at fewer same
  rw [count_markGaps markable.fresh] at fewer'
  exact same (Nat.le_antisymm fewer fewer')

/-! ## Normal form -/

theorem tidy_of_alternating (alternating : Alternating elements) (full : .literal [] ∉ elements) :
    tidy elements = elements := by
  induction elements with
  | nil => rfl
  | cons element elements ih =>
    have unfolded : tidy (element :: elements) = attach element (tidy elements) := rfl
    rw [unfolded, ih alternating.tail fun member => full (List.mem_cons_of_mem _ member)]
    cases element with
    | literal part =>
      cases part with
      | nil => exact absurd List.mem_cons_self full
      | cons c part => obtain rfl | ⟨more, rfl⟩ := alternating.behind_literal <;> rfl
    | wildcard => obtain rfl | ⟨part, more, rfl⟩ := alternating.behind_wildcard <;> rfl

/-- Neighbouring elements are of different kinds, wherever they stand. -/
theorem Alternating.not_beside (alternating : Alternating elements) {first second : Element}
    (alike : first.isWildcard = second.isWildcard) : ¬ [first, second] <:+: elements := by
  rintro ⟨before, after, rfl⟩
  rw [List.append_assoc] at alternating
  exact alternating.of_append.1 alike

end Element

namespace Template

variable {template other : Template} {mark : Char}

theorem markable_elements (fresh : Element.Fresh mark template.elements) :
    Element.Markable mark template.elements :=
  ⟨template.normal.alternating, template.normal.no_empty_literal, fresh⟩

/-- A template made of the elements of a template is that template. -/
theorem ofElements_elements (template : Template) : ofElements template.elements = template := by
  obtain ⟨elements, normal⟩ := template
  have tidied := Element.tidy_of_alternating normal.alternating normal.no_empty_literal
  unfold ofElements
  simp [tidied, normal.not_lone_wildcard]

theorem fits_markGaps (some : template.isEmpty = false) (mark : Char) :
    template.fits (Element.markGaps mark template.elements) :=
  fits_iff.2 ⟨some, Element.denotes_markGaps mark template.elements⟩

/-- Templates that fit the same texts are equal if some character is in none of their literals. -/
theorem eq_of_fits_iff (fresh : Element.Fresh mark template.elements)
    (fresh' : Element.Fresh mark other.elements)
    (same : ∀ text, template.fits text ↔ other.fits text) : template = other := by
  have elements : template.elements = other.elements := by
    cases some : template.isEmpty with
    | true =>
      cases some' : other.isEmpty with
      | true => rw [List.isEmpty_iff.1 some, List.isEmpty_iff.1 some']
      | false =>
        have fitted := (same _).2 (fits_markGaps some' mark)
        simp [fits_iff, some] at fitted
    | false =>
      obtain ⟨some', denoted'⟩ := fits_iff.1 ((same _).1 (fits_markGaps some mark))
      obtain ⟨-, denoted⟩ := fits_iff.1 ((same _).2 (fits_markGaps some' mark))
      have markable := markable_elements fresh
      have markable' := markable_elements fresh'
      apply markable.eq_of_markGaps markable'
      exact (denoted.eq_markGaps denoted' markable markable').symm
  cases template
  cases other
  congr

/-- Whatever elements a template is made of, they are brought into normal form, which is done once
    for all and leaves the texts that they stand for as they are, if there is a literal among them
    that is not empty.  No two templates fit the same texts, unless each character is in one of
    their literals. -/
theorem ofElements_canonical :
    (∀ elements : List Element,
      (.literal [] ∉ (ofElements elements).elements ∧
        (∀ part next, ¬ [.literal part, .literal next] <:+: (ofElements elements).elements) ∧
        ¬ [.wildcard, .wildcard] <:+: (ofElements elements).elements ∧
        (ofElements elements).elements ≠ [.wildcard]) ∧
      ofElements (ofElements elements).elements = ofElements elements ∧
      ((∃ part ≠ [], .literal part ∈ elements) →
        ∀ text, (ofElements elements).fits text ↔ Element.Denotes elements text)) ∧
    ∀ template other : Template,
      (∃ mark, ∀ part ∈ template.literals ++ other.literals, mark ∉ part) →
        (∀ text, template.fits text ↔ other.fits text) → template = other := by
  constructor
  · intro elements
    have normal := (ofElements elements).normal
    have shape : .literal [] ∉ (ofElements elements).elements ∧
        (∀ part next, ¬ [.literal part, .literal next] <:+: (ofElements elements).elements) ∧
        ¬ [.wildcard, .wildcard] <:+: (ofElements elements).elements ∧
        (ofElements elements).elements ≠ [.wildcard] :=
      ⟨normal.no_empty_literal, fun _ _ => normal.alternating.not_beside rfl,
        normal.alternating.not_beside rfl, normal.not_lone_wildcard⟩
    apply And.intro shape
    apply And.intro (ofElements_elements _)
    rintro ⟨part, some, member⟩ text
    exact fits_ofElements_iff (isEmpty_ofElements member some)
  · rintro template other ⟨mark, fresh⟩ same
    have unmarked (elements : List Element)
        (inside : ∀ part ∈ elements.filterMap Element.literal?, mark ∉ part) :
        Element.Fresh mark elements :=
      fun part member => inside part (List.mem_filterMap.2 ⟨_, member, rfl⟩)
    have first := unmarked _ fun part member => fresh part (List.mem_append_left _ member)
    have second := unmarked _ fun part member => fresh part (List.mem_append_right _ member)
    exact eq_of_fits_iff first second same

/-- Two lists of elements that stand for the same texts make the same template. -/
theorem ofElements_canonical_of_pieces :
    let pieces : List Element :=
      [.wildcard, .literal "a".toList, .literal [], .literal "b".toList, .wildcard, .wildcard]
    let whole : List Element := [.wildcard, .literal [], .wildcard, .literal "ab".toList, .wildcard]
    (ofElements pieces).elements = [.wildcard, .literal "ab".toList, .wildcard] ∧
      (∀ text, (ofElements pieces).fits text ↔ Element.Denotes pieces text) ∧
      ofElements pieces = ofElements whole := by
  intro pieces whole
  obtain ⟨normal, unique⟩ := ofElements_canonical
  have fits := (normal pieces).2.2 ⟨"a".toList, by decide, by decide⟩
  have fits' := (normal whole).2.2 ⟨"ab".toList, by decide, by decide⟩
  have tidied : Element.tidy pieces = Element.tidy whole := by decide
  have same (text : Text) : (ofElements pieces).fits text ↔ (ofElements whole).fits text := by
    rw [fits, fits', ← Element.denotes_tidy pieces, tidied, Element.denotes_tidy]
  exact ⟨by decide, fits, unique _ _ ⟨'0', by decide⟩ same⟩

end Template

end MailSort
