import MailSort.Proofs.Template.Generalization
import MailSort.Proofs.Template.NormalForm
import MailSort.Proofs.Template.Realignment

/-! # Literals that are kept

Taking each literal where it occurs first leaves the most text for the literals behind it
(`Text.OccurInOrder.exists_breakAt?`).  So if the literals of a template occur in a sample one
behind the other, wherever that is, then the walk finds all of them, and the only gaps it adds are
before the first one and behind the last one (`Element.Spaced.tidy_walk`).
-/

namespace MailSort

namespace Text

/-- Some texts occur in a text one behind the other, with anything before, between and behind
    them. -/
inductive OccurInOrder : List Text → Text → Prop where
  | nil (rest : Text) : OccurInOrder [] rest
  | cons (skipped part : Text) {parts : List Text} {rest : Text} :
      OccurInOrder parts rest → OccurInOrder (part :: parts) (skipped ++ part ++ rest)

variable {parts : List Text} {part text : Text}

theorem OccurInOrder.prepend (occur : OccurInOrder parts text) (more : Text) :
    OccurInOrder parts (more ++ text) := by
  cases occur with
  | nil => exact .nil _
  | cons skipped part occur =>
    rw [← List.append_assoc, ← List.append_assoc]
    exact .cons (more ++ skipped) part occur

/-- Behind the leftmost occurrence of the first part there is room for the others. -/
theorem OccurInOrder.exists_breakAt? (occur : OccurInOrder (part :: parts) text) :
    ∃ before after, breakAt? part text = some (before, after) ∧ OccurInOrder parts after := by
  cases occur with
  | @cons skipped _ _ rest occur =>
    obtain ⟨before, _, found, more, rfl⟩ := Text.exists_breakAt? part skipped rest
    exact ⟨before, more ++ rest, found, occur.prepend more⟩

end Text

namespace Element

variable {elements opened rest : List Element} {part : Text} {sample : Text}

theorem OptionalGap.ne_literal (optional : OptionalGap elements) (other : Text)
    (after : List Element) : elements ≠ .literal other :: after := by
  obtain rfl | rfl := optional <;> simp

theorem OptionalGap.tidy_eq (optional : OptionalGap elements) : tidy elements = elements := by
  obtain rfl | rfl := optional <;> rfl

/-- A gap behind a wildcard is one with it. -/
theorem OptionalGap.tidy_behind (optional : OptionalGap elements) :
    tidy (.wildcard :: elements) = [.wildcard] := by
  obtain rfl | rfl := optional <;> rfl

/-- A gap in front of a literal stays when the elements are tidied. -/
theorem OptionalGap.tidy_literal (optional : OptionalGap opened) (some : part ≠ [])
    (alone : ∀ other after, rest ≠ .literal other :: after) :
    tidy (opened ++ .literal part :: rest) = opened ++ .literal part :: tidy rest := by
  have tidied := Element.tidy_literal some alone
  obtain rfl | rfl := optional
  · exact tidied
  · have unfolded : tidy ([.wildcard] ++ .literal part :: rest) =
      attach .wildcard (tidy (.literal part :: rest)) := rfl
    rw [unfolded, tidied]
    rfl

/-- Elements that are tidied to a literal behind at most a gap have a gap in front of it with a
    wildcard. -/
theorem OptionalGap.tidy_wildcard (optional : OptionalGap opened) {after : List Element}
    (tidied : tidy elements = opened ++ .literal part :: after) :
    tidy (.wildcard :: elements) = .wildcard :: .literal part :: after := by
  have unfolded : tidy (.wildcard :: elements) = attach .wildcard (tidy elements) := rfl
  rw [unfolded, tidied]
  obtain rfl | rfl := optional <;> rfl

def skipping (skipped : Text) : List Element :=
  if skipped = [] then [] else [.wildcard]

theorem optionalGap_skipping (skipped : Text) : OptionalGap (skipping skipped) := by
  unfold skipping
  split
  · exact .inl rfl
  · exact .inr rfl

theorem walk_nil (least : SegmentLength) (sample : Text) : walk least [] sample = skipping sample :=
  rfl

/-- A literal that occurs is kept, behind a gap for the text that is skipped. -/
theorem walk_literal (least : SegmentLength) {skipped after : Text}
    (found : Text.breakAt? part sample = some (skipped, after)) :
    walk least (.literal part :: rest) sample =
      skipping skipped ++ .literal part :: walk least rest after := by
  rw [walk, find?, found, skipping]
  by_cases here : skipped = []
  · simp [here]
  · simp [here]

theorem Spaced.exists_literal (spaced : Spaced elements) :
    ∃ part rest, elements = .literal part :: rest := by
  cases spaced <;> exact ⟨_, _, rfl⟩

/-- The walk keeps literals that occur in order, and adds gaps at the ends only. -/
theorem Spaced.tidy_walk (spaced : Spaced elements)
    (occur : Text.OccurInOrder (elements.filterMap literal?) sample) (least : SegmentLength) :
    ∃ opened closed, OptionalGap opened ∧ OptionalGap closed ∧
      tidy (walk least elements sample) = opened ++ elements ++ closed := by
  induction spaced generalizing sample with
  | @closed part some =>
    obtain ⟨skipped, after, found, -⟩ := occur.exists_breakAt?
    refine ⟨skipping skipped, skipping after, optionalGap_skipping skipped,
      optionalGap_skipping after, ?_⟩
    have gap := optionalGap_skipping after
    rw [walk_literal least found, walk_nil,
      (optionalGap_skipping skipped).tidy_literal some gap.ne_literal, gap.tidy_eq]
    simp
  | @opened part some =>
    obtain ⟨skipped, after, found, -⟩ := occur.exists_breakAt?
    refine ⟨skipping skipped, [], optionalGap_skipping skipped, .inl rfl, ?_⟩
    rw [walk_literal least found, walk, walk_nil,
      (optionalGap_skipping skipped).tidy_literal some (by simp),
      (optionalGap_skipping after).tidy_behind, List.append_nil]
  | @cons part rest some spaced ih =>
    obtain ⟨skipped, after, found, behind⟩ := occur.exists_breakAt?
    obtain ⟨inner, closed, inner_gap, closed_gap, tidied⟩ := ih behind
    obtain ⟨next, last, rfl⟩ := spaced.exists_literal
    rw [List.append_assoc] at tidied
    refine ⟨skipping skipped, closed, optionalGap_skipping skipped, closed_gap, ?_⟩
    -- A gap that the walk adds behind this literal is one with the wildcard that stands there.
    rw [walk_literal least found, walk, (optionalGap_skipping skipped).tidy_literal some (by simp),
      inner_gap.tidy_wildcard tidied]
    simp

end Element

namespace Template

open Element (OptionalGap)

variable {template : Template} {sample : Text}

/-- The walk keeps the elements of a template whose literals occur in order. -/
theorem elements_walk (nonempty : template.isEmpty = false)
    (occur : Text.OccurInOrder template.literals sample) (least : SegmentLength) :
    ∃ opened closed, OptionalGap opened ∧ OptionalGap closed ∧
      (template.walk sample least).elements = opened ++ template.elements ++ closed := by
  obtain ⟨first, rest, first_gap, spaced, elements⟩ := exists_spaced nonempty
  obtain ⟨part, last, same⟩ := spaced.exists_literal
  have occur : Text.OccurInOrder (rest.filterMap Element.literal?) sample := by
    rw [literals, elements, List.filterMap_append, first_gap.literals] at occur
    exact occur
  obtain ⟨opened, closed, opened_gap, closed_gap, tidied⟩ := spaced.tidy_walk occur least
  have whole : ∃ opened, OptionalGap opened ∧
      Element.tidy (Element.walk least template.elements sample) =
        opened ++ template.elements ++ closed := by
    obtain rfl | rfl := first_gap
    · exact ⟨opened, opened_gap, by rw [elements, List.nil_append, tidied]⟩
    · refine ⟨[], .inl rfl, ?_⟩
      rw [same, List.append_assoc] at tidied
      rw [elements, same, List.singleton_append, Element.walk, opened_gap.tidy_wildcard tidied]
      rfl
  obtain ⟨opened, opened_gap, tidied⟩ := whole
  refine ⟨opened, closed, opened_gap, closed_gap, ?_⟩
  have member : .literal part ∈ Element.tidy (Element.walk least template.elements sample) := by
    rw [tidied, elements, same]
    simp
  exact (elements_ofElements_of_mem member).trans tidied

section Generalizing

variable [Compiler] {least : SegmentLength} {result : Template}

theorem Generalizes.elements_eq (made : Generalizes template sample least result)
    (checked : (template.walk sample least).Compiles) (nonempty : template.isEmpty = false)
    (occur : Text.OccurInOrder template.literals sample) :
    ∃ opened closed, OptionalGap opened ∧ OptionalGap closed ∧
      result.elements = opened ++ template.elements ++ closed := by
  cases made with
  | kept => exact ⟨[], [], .inl rfl, .inl rfl, by simp⟩
  | walked => exact elements_walk nonempty occur least
  | realigned _ failed => exact absurd checked failed
  | dropped _ failed => exact absurd checked failed

/-- If the literals of a template occur in a sample one behind the other, then generalizing the
    template for the sample keeps them all, and all that the template may gain is a wildcard at
    either end, provided that the template of the walk compiles. -/
theorem generalize_keeps_literals (template : Template) (sample : Text) (least : SegmentLength)
    (checked : (template.walk sample least).Compiles) (nonempty : template.isEmpty = false)
    (occur : Text.OccurInOrder template.literals sample) :
    (template.generalize sample least).literals = template.literals ∧
      ∃ opened closed, OptionalGap opened ∧ OptionalGap closed ∧
        (template.generalize sample least).elements = opened ++ template.elements ++ closed := by
  have made := generalizes template sample least
  obtain ⟨opened, closed, opened_gap, closed_gap, same⟩ := made.elements_eq checked nonempty occur
  refine ⟨?_, opened, closed, opened_gap, closed_gap, same⟩
  rw [literals, same, List.filterMap_append, List.filterMap_append, opened_gap.literals,
    closed_gap.literals, List.append_nil, List.nil_append]
  rfl

end Generalizing

/-- The literals are there behind more text than the walk skips, and are found earlier. -/
theorem generalize_keeps_literals_of_repeated :
    let template := ofElements [.literal "aa".toList, .wildcard, .literal "aa".toList]
    let result := template.generalize "xaaaaay".toList .shortest
    Text.OccurInOrder template.literals "xaaaaay".toList ∧
      result.literals = ["aa".toList, "aa".toList] ∧ result.gapCount = 3 := by
  intro template result
  have nonempty : template.isEmpty = false := by decide +kernel
  have literals : template.literals = ["aa".toList, "aa".toList] := by decide +kernel
  have occur : Text.OccurInOrder template.literals "xaaaaay".toList := by
    rw [literals]
    exact .cons "xa".toList "aa".toList (.cons [] "aa".toList (.nil "y".toList))
  obtain ⟨kept, -⟩ :=
    generalize_keeps_literals template "xaaaaay".toList .shortest (compiles _) nonempty occur
  exact ⟨occur, kept.trans literals, by decide +kernel⟩

end Template

end MailSort
