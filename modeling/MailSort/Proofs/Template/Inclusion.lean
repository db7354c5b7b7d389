import MailSort.Proofs.Template.Language

/-! # Inclusion of templates

Whether a template fits everything that another one fits can be told from a single text: the one
that has in each gap of the other template a mark that no literal of the first one has
(`Template.includes_iff`).  The literals have to be found between the marks, so they are still
there when the marks are replaced by what else may be in the gaps.
-/

namespace MailSort

inductive Text.Replaces (mark : Char) : Text → Text → Prop where
  | nil : Replaces mark [] []
  | keep (c : Char) {text other : Text} :
      Replaces mark text other → Replaces mark (c :: text) (c :: other)
  | fill (gap : Text) {text other : Text} :
      Replaces mark text other → Replaces mark (mark :: text) (gap ++ other)

namespace Text.Replaces

variable {mark : Char} {first second text other : Text}

theorem prepend (part : Text) (replaces : Replaces mark text other) :
    Replaces mark (part ++ text) (part ++ other) := by
  induction part with
  | nil => exact replaces
  | cons c part ih => exact .keep c ih

theorem split (replaces : Replaces mark (first ++ second) other) :
    ∃ before after, other = before ++ after ∧ Replaces mark first before ∧
      Replaces mark second after := by
  induction first generalizing other with
  | nil => exact ⟨[], other, rfl, .nil, replaces⟩
  | cons c first ih =>
    cases replaces with
    | keep _ replaces =>
      obtain ⟨before, after, rfl, replaced, rest⟩ := ih replaces
      exact ⟨c :: before, after, rfl, .keep c replaced, rest⟩
    | fill gap replaces =>
      obtain ⟨before, after, rfl, replaced, rest⟩ := ih replaces
      exact ⟨gap ++ before, after, (List.append_assoc ..).symm, .fill gap replaced, rest⟩

/-- A text without marks stays as it is. -/
theorem eq_self (replaces : Replaces mark text other) (fresh : mark ∉ text) : other = text := by
  induction replaces with
  | nil => rfl
  | keep c _ ih => rw [ih fun member => fresh (List.mem_cons_of_mem c member)]
  | fill => exact absurd List.mem_cons_self fresh

end Text.Replaces

namespace Element

variable {elements others : List Element} {mark : Char} {text other : Text}

/-- The text that has a mark in the place of each wildcard. -/
def markGaps (mark : Char) (elements : List Element) : Text :=
  elements.flatMap fun element => element.literal?.getD [mark]

theorem denotes_markGaps (mark : Char) (elements : List Element) :
    Denotes elements (markGaps mark elements) := by
  induction elements with
  | nil => exact .nil
  | cons element elements ih =>
    cases element with
    | literal part => exact .literal part ih
    | wildcard => exact .wildcard [mark] ih

/-- Two marks make two texts wherever there is a gap. -/
theorem not_mem_of_markGaps_eq {first second : Char} (differ : first ≠ second)
    (same : markGaps first elements = markGaps second elements) : .wildcard ∉ elements := by
  induction elements with
  | nil => exact List.not_mem_nil
  | cons element elements ih =>
    cases element with
    | literal part => simpa using ih (List.append_cancel_left same)
    | wildcard => exact absurd (List.cons.inj same).1 differ

/-- The other texts that elements stand for come from the text with the marks. -/
theorem Denotes.replaces_markGaps (denoted : Denotes elements text) (mark : Char) :
    Text.Replaces mark (markGaps mark elements) text := by
  induction denoted with
  | nil => exact .nil
  | literal part _ ih => exact ih.prepend part
  | wildcard gap _ ih => exact .fill gap ih

/-- Marks that are in no literal have been read by wildcards, which take what they are replaced
    by. -/
theorem Denotes.of_replaces (denoted : Denotes elements text)
    (fresh : ∀ part, .literal part ∈ elements → mark ∉ part)
    (replaces : Text.Replaces mark text other) : Denotes elements other := by
  induction denoted generalizing other with
  | nil =>
    cases replaces
    exact .nil
  | literal part _ ih =>
    obtain ⟨before, after, rfl, here, behind⟩ := replaces.split
    -- A literal has no marks, so nothing was replaced where it was read.
    obtain rfl := here.eq_self (fresh part List.mem_cons_self)
    exact .literal before
      (ih (fun part member => fresh part (List.mem_cons_of_mem _ member)) behind)
  | wildcard gap _ ih =>
    obtain ⟨before, after, rfl, -, behind⟩ := replaces.split
    exact .wildcard before
      (ih (fun part member => fresh part (List.mem_cons_of_mem _ member)) behind)

end Element

namespace Template

variable {template other : Template} {mark : Char}

/-- A template fits all that another one fits if it fits the text with the marks. -/
theorem includes_iff (some : other.isEmpty = false)
    (fresh : ∀ part, .literal part ∈ template.elements → mark ∉ part) :
    (∀ text, other.fits text → template.fits text) ↔
      template.fits (Element.markGaps mark other.elements) := by
  constructor
  · intro includes
    exact includes _ (fits_iff.2 ⟨some, Element.denotes_markGaps mark other.elements⟩)
  · intro fitted text fits
    obtain ⟨nonempty, marked⟩ := fits_iff.1 fitted
    have replaces := (fits_iff.1 fits).2.replaces_markGaps mark
    exact fits_iff.2 ⟨nonempty, marked.of_replaces fresh replaces⟩

end Template

end MailSort
