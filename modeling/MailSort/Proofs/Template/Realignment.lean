import MailSort.Proofs.Alignment.Cutting
import MailSort.Proofs.Alignment.Identity
import MailSort.Proofs.Alignment.SharedLength
import MailSort.Proofs.Template.Inclusion
import MailSort.Template.Generalize

/-! # Realignment

Aligning the joined literals of a template with a sample gives a template that fits the sample
(`Template.fits_realign_aligned`), but not always what the template did fit: a run of the alignment
can lie across the place where a gap was.  If none does, nothing is lost
(`Template.fits_realign_of_sparesGaps`), and whether something is lost can be told from one text
(`Template.realign_keeps_iff`).
-/

namespace MailSort

namespace Element

variable {elements others before after : List Element} {text : Text}

/-! ## Joined literals -/

def literalText (elements : List Element) : Text :=
  (elements.filterMap literal?).flatten

@[simp] theorem literalText_nil : literalText [] = [] := rfl

@[simp] theorem literalText_cons_literal (part : Text) (elements : List Element) :
    literalText (.literal part :: elements) = part ++ literalText elements := rfl

@[simp] theorem literalText_cons_wildcard (elements : List Element) :
    literalText (.wildcard :: elements) = literalText elements := rfl

/-- Literals with a wildcard behind each of them, or behind each but the last one. -/
inductive Spaced : List Element → Prop where
  | closed {part : Text} (some : part ≠ []) : Spaced [.literal part]
  | opened {part : Text} (some : part ≠ []) : Spaced [.literal part, .wildcard]
  | cons {part : Text} {rest : List Element} (some : part ≠ []) (spaced : Spaced rest) :
      Spaced (.literal part :: .wildcard :: rest)

theorem spaced_of_alternating : ∀ {part : Text} {rest : List Element},
    Alternating (.literal part :: rest) → .literal [] ∉ .literal part :: rest →
      Spaced (.literal part :: rest)
  | part, rest, alternating, full => by
    have some : part ≠ [] := by
      rintro rfl
      exact full List.mem_cons_self
    match rest, alternating, full with
    | [], _, _ => exact .closed some
    | [.wildcard], _, _ => exact .opened some
    | .wildcard :: .literal next :: rest, alternating, full =>
      exact .cons some (spaced_of_alternating alternating.2.2 fun member =>
        full (by simp [member]))
    | .literal _ :: _, alternating, _ => exact absurd rfl alternating.1
    | .wildcard :: .wildcard :: _, alternating, _ => exact absurd rfl alternating.2.1

theorem Spaced.ne_nil (spaced : Spaced elements) : elements ≠ [] := by
  cases spaced <;> exact List.cons_ne_nil _ _

theorem Spaced.literalText_ne_nil (spaced : Spaced elements) : literalText elements ≠ [] := by
  cases spaced with
  | closed some => simpa using some
  | opened some => simpa using some
  | cons some => simp [some]

/-! ## Outer wildcards -/

def OptionalGap (elements : List Element) : Prop :=
  elements = [] ∨ elements = [.wildcard]

theorem OptionalGap.literals (optional : OptionalGap elements) :
    elements.filterMap literal? = [] := by
  obtain rfl | rfl := optional <;> rfl

def opening (elements : List Element) : List Element :=
  if elements.head?.any isWildcard then [.wildcard] else []

def closing (elements : List Element) : List Element :=
  if elements.getLast?.any isWildcard then [.wildcard] else []

theorem closing_cons (element : Element) (more : elements ≠ []) :
    closing (element :: elements) = closing elements := by
  unfold closing
  rw [List.getLast?_cons_of_ne_nil more]

theorem Spaced.opening_eq (spaced : Spaced elements) : opening elements = [] := by
  cases spaced <;> rfl

theorem denotes_opening_nil (elements : List Element) : Denotes (opening elements) [] := by
  unfold opening
  split
  · exact .wildcard [] .nil
  · exact .nil

theorem denotes_closing_nil (elements : List Element) : Denotes (closing elements) [] := by
  unfold closing
  split
  · exact .wildcard [] .nil
  · exact .nil

/-- Elements may be replaced by more general ones wherever they stand. -/
theorem Denotes.replace (general : ∀ text, Denotes elements text → Denotes others text)
    (denoted : Denotes (before ++ elements ++ after) text) :
    Denotes (before ++ others ++ after) text := by
  obtain ⟨opened, behind, rfl, outer, closed⟩ := denoted.split
  obtain ⟨ahead, inner, rfl, opening, amid⟩ := outer.split
  exact (opening.append (general inner amid)).append closed

end Element

namespace EditScript

/-- No run that is long enough lies across one of the places that the wildcards have among the
    joined literals of some elements. -/
def SparesGaps (least : Nat) (script : EditScript) (elements : List Element) : Prop :=
  ∀ before after, elements = before ++ .wildcard :: after →
    ¬Straddles least script (Element.literalText before).length

variable {script : EditScript} {least : Nat} {elements rest : List Element} {part text : Text}

theorem SparesGaps.behind_wildcard (spares : SparesGaps least script (.wildcard :: rest)) :
    SparesGaps least script rest := by
  intro before after split
  exact spares (.wildcard :: before) after (by rw [split]; rfl)

theorem SparesGaps.not_straddles
    (spares : SparesGaps least script (.literal part :: .wildcard :: rest)) :
    ¬Straddles least script part.length := by
  have clear := spares [.literal part] rest rfl
  rwa [Element.literalText_cons_literal, Element.literalText_nil, List.append_nil] at clear

/-- The part behind a cut spares the gaps behind it: each of its places is one of the whole. -/
theorem SparesGaps.behind_cut {first second : EditScript}
    (spares : SparesGaps least script (.literal part :: .wildcard :: rest))
    (cut : Cut least script first second) (same : first.source = part) :
    SparesGaps least second rest := by
  intro before after split straddles
  refine spares (.literal part :: .wildcard :: before) after (by rw [split]; rfl) ?_
  rw [Element.literalText_cons_literal, Element.literalText_cons_wildcard, List.length_append,
    ← same]
  exact cut.straddles straddles

/-- The elements of a script stand for the texts that come from its source by filling gaps, if its
    runs spare the gaps.  A gap at the end of the source stays a gap. -/
theorem SparesGaps.denotes (spares : SparesGaps least script elements)
    (spaced : Element.Spaced elements) (apart : RunsApart script)
    (whole : script.source = Element.literalText elements)
    (denoted : Element.Denotes elements text) :
    Element.Denotes (script.map (toElement least) ++ Element.closing elements) text := by
  have stands {script : EditScript} {part : Text} (same : script.source = part) :
      Element.Denotes (script.map (toElement least)) part :=
    same ▸ denotes_elements (fun _ => rfl) least script
  induction spaced generalizing script text with
  | @closed part some =>
    obtain ⟨rest, rfl, nothing⟩ := Element.denotes_literal.1 denoted
    exact (stands (whole.trans (List.append_nil part))).append nothing
  | @opened part some =>
    obtain ⟨rest, rfl, gap⟩ := Element.denotes_literal.1 denoted
    exact (stands (whole.trans (List.append_nil part))).append gap
  | @cons part rest some spaced ih =>
    obtain ⟨_, rfl, opened⟩ := Element.denotes_literal.1 denoted
    obtain ⟨gap, after, rfl, behind⟩ := Element.denotes_wildcard.1 opened
    -- The script is cut at the gap, and the gap's text goes between the two parts.
    have parted : script.source = part ++ Element.literalText rest := whole
    obtain ⟨first, second, before, later, cut⟩ :=
      exists_cut apart parted some spaced.literalText_ne_nil spares.not_straddles
    have behind := ih (spares.behind_cut cut before) cut.apart later behind
    rw [Element.closing_cons _ (List.cons_ne_nil _ _), Element.closing_cons _ spaced.ne_nil]
    exact cut.denotes gap (stands before) behind

end EditScript

namespace Template

variable {template : Template} {sample text : Text} {least : SegmentLength} {mark : Char}

/-- A realigned template fits what the alignment stands for between the outer wildcards of the
    template. -/
theorem fits_realign_iff (nonempty : (template.realign sample least).isEmpty = false) :
    (template.realign sample least).fits text ↔
      Element.Denotes (Element.opening template.elements ++
        (EditScript.between template.literalText sample).map
          (EditScript.toElement least.chars) ++ Element.closing template.elements) text := by
  unfold realign at nonempty ⊢
  dsimp only at nonempty ⊢
  split at nonempty
  · next none =>
    rw [none] at nonempty
    contradiction
  · next some =>
    have shared : (common template.literalText sample least).elements = Element.tidy _ :=
      elements_ofElements (Bool.eq_false_iff.2 some)
    rw [if_neg some, fits_ofElements_iff nonempty, shared]
    exact ⟨.replace fun text => (Element.denotes_tidy _ text).1,
      .replace fun text => (Element.denotes_tidy _ text).2⟩

/-- The outer wildcards need not read anything. -/
theorem fits_realign (nonempty : (template.realign sample least).isEmpty = false)
    (denoted : Element.Denotes ((EditScript.between template.literalText sample).map
      (EditScript.toElement least.chars)) text) :
    (template.realign sample least).fits text := by
  have outer := ((Element.denotes_opening_nil template.elements).append denoted).append
    (Element.denotes_closing_nil template.elements)
  rw [List.nil_append, List.append_nil] at outer
  exact (fits_realign_iff nonempty).2 outer

/-- A realigned template fits both of the texts that were aligned. -/
theorem fits_realign_aligned (nonempty : (template.realign sample least).isEmpty = false) :
    (template.realign sample least).fits template.literalText ∧
      (template.realign sample least).fits sample := by
  have denoted := (EditScript.between_leads template.literalText sample).denotes least.chars
  exact ⟨fits_realign nonempty denoted.1, fits_realign nonempty denoted.2⟩

theorem longLiterals_realign (template : Template) (sample : Text) (least : SegmentLength) :
    Element.LongLiterals least.chars (template.realign sample least).elements := by
  have shared := longLiterals_common template.literalText sample least
  -- The outer wildcards are no literals.
  have gap (outer : Bool) :
      Element.LongLiterals least.chars (if outer then [.wildcard] else []) := by
    cases outer <;> simp [Element.LongLiterals]
  unfold realign
  dsimp only
  split
  · exact shared
  · apply longLiterals_ofElements
    simp only [Element.longLiterals_append]
    exact ⟨⟨gap _, shared⟩, gap _⟩

/-- Realigning puts no characters into literals. -/
theorem fresh_realign (nonempty : (template.realign sample least).isEmpty = false)
    (fresh : mark ∉ template.literalText) {part : Text}
    (member : .literal part ∈ (template.realign sample least).elements) : mark ∉ part := by
  have denoted := (fits_iff.1 (fits_realign_aligned nonempty).1).2
  exact fun marked => fresh ((denoted.infix_of_mem member).subset marked)

/-- Only a template with literals can be realigned. -/
theorem isEmpty_of_realign (nonempty : (template.realign sample least).isEmpty = false) :
    template.isEmpty = false := by
  rw [isEmpty_eq_false_iff]
  intro none
  -- Without literals the empty text would be aligned, which no template fits.
  have fitted := (fits_realign_aligned nonempty).1
  have nothing : template.literalText = [] := by
    rw [literalText, literals, none]
    rfl
  rw [nothing, not_fits_nil] at fitted
  contradiction

/-- A template with elements has literals with gaps between them, behind a gap or not. -/
theorem exists_spaced (nonempty : template.isEmpty = false) :
    ∃ opened rest, Element.OptionalGap opened ∧ Element.Spaced rest ∧
      template.elements = opened ++ rest := by
  have full := template.normal.no_empty_literal
  have alternating := template.normal.alternating
  have more := template.normal.not_lone_wildcard
  rw [isEmpty_eq_false_iff] at nonempty
  generalize template.elements = elements at nonempty full alternating more ⊢
  match elements with
  | [] => contradiction
  | .literal part :: rest =>
    exact ⟨[], _, .inl rfl, Element.spaced_of_alternating alternating full, rfl⟩
  | [.wildcard] => contradiction
  | .wildcard :: .literal part :: rest =>
    have spaced := Element.spaced_of_alternating alternating.2
      fun empty => full (List.mem_cons_of_mem _ empty)
    exact ⟨[.wildcard], _, .inr rfl, spaced, rfl⟩
  | .wildcard :: .wildcard :: rest => exact absurd rfl alternating.1

/-- Realigning loses nothing if the runs of the alignment spare the gaps. -/
theorem fits_realign_of_sparesGaps (nonempty : (template.realign sample least).isEmpty = false)
    (spares : (EditScript.between template.literalText sample).SparesGaps least.chars
      template.elements)
    (fitted : template.fits text) : (template.realign sample least).fits text := by
  rw [fits_realign_iff nonempty]
  have apart := EditScript.runsApart_joined
    (EditScript.shortest template.literalText sample).compact
  obtain ⟨some, denoted⟩ := fits_iff.1 fitted
  obtain ⟨opened, rest, gap, spaced, elements⟩ := exists_spaced some
  have joined : template.literalText = Element.literalText rest := by
    rw [literalText, literals, elements, List.filterMap_append, gap.literals]
    rfl
  have whole := (EditScript.between_leads template.literalText sample).source_eq.trans joined
  rw [elements] at spares denoted ⊢
  obtain rfl | rfl := gap
  · rw [List.nil_append, spaced.opening_eq]
    exact spares.denotes spaced apart whole denoted
  · obtain ⟨gap, behind, rfl, inner⟩ := Element.denotes_wildcard.1 denoted
    rw [List.singleton_append, Element.closing_cons _ spaced.ne_nil]
    exact .wildcard gap (spares.behind_wildcard.denotes spaced apart whole inner)

/-- A literal that says something is never dropped. -/
theorem isEmpty_ofElements {elements : List Element} {part : Text}
    (member : .literal part ∈ elements) (some : part ≠ []) :
    (ofElements elements).isEmpty = false := by
  rw [Bool.eq_false_iff]
  intro nothing
  have length := literalLength_eq_zero nothing
  rw [literalLength_ofElements, Element.literalLength, List.length_eq_zero_iff,
    List.flatten_eq_nil_iff] at length
  exact some (length part (List.mem_filterMap.2 ⟨.literal part, member, rfl⟩))

/-- A template that is made by realigning fits the sample.  It fits all that the template did fit
    just when it fits the text that has a mark in each gap, and it does if the runs of the alignment
    spare the gaps. -/
theorem realign_keeps_iff (template : Template) (sample : Text) (least : SegmentLength)
    (nonempty : (template.realign sample least).isEmpty = false) :
    (template.realign sample least).fits sample ∧
    (∀ mark ∉ template.literalText,
      (∀ text, template.fits text → (template.realign sample least).fits text) ↔
        (template.realign sample least).fits (Element.markGaps mark template.elements)) ∧
    ((EditScript.between template.literalText sample).SparesGaps least.chars template.elements →
      ∀ text, template.fits text → (template.realign sample least).fits text) := by
  refine ⟨(fits_realign_aligned nonempty).2, fun mark fresh => ?_, fun spares text fitted => ?_⟩
  · exact includes_iff (isEmpty_of_realign nonempty) fun part => fresh_realign nonempty fresh
  · exact fits_realign_of_sparesGaps nonempty spares fitted

/-- The sample has other text in the gap, so the two runs lie on either side of it. -/
theorem realign_keeps_gap :
    let template := ofElements [.literal "ab".toList, .wildcard, .literal "cd".toList]
    let realigned := template.realign "ab0cd".toList .shortest
    realigned.isEmpty = false ∧ realigned.fits "ab0cd".toList ∧
      (∀ text, template.fits text → realigned.fits text) ∧ realigned.fits "ab-cd".toList := by
  intro template realigned
  have nonempty : realigned.isEmpty = false := by decide +kernel
  have script : EditScript.between template.literalText "ab0cd".toList =
      [.keep "ab".toList, .change .insert "0".toList, .keep "cd".toList] := by decide +kernel
  have spares : (EditScript.between template.literalText "ab0cd".toList).SparesGaps 2
      template.elements := by
    intro before after split
    have elements : template.elements =
        [.literal "ab".toList, .wildcard, .literal "cd".toList] := by decide +kernel
    have place : before = [.literal "ab".toList] := by
      rw [elements] at split
      rcases before with _ | ⟨_, _ | ⟨_, _ | ⟨_, _⟩⟩⟩ <;> simp_all
    rw [script, place]
    simp [Edit.source]
  obtain ⟨fitted, marked, kept⟩ := realign_keeps_iff template "ab0cd".toList .shortest nonempty
  exact ⟨nonempty, fitted, kept spares, (marked '-' (by decide +kernel)).1 (kept spares)⟩

/-- The run that the sample shares with the joined literals lies across the gap. -/
theorem realign_loses_gap :
    ¬∀ (template : Template) (sample : Text) (least : SegmentLength),
      (template.realign sample least).isEmpty = false →
        (template.realign sample least).fits sample ∧
          ∀ text, template.fits text → (template.realign sample least).fits text := by
  intro keeps
  have nonempty : ((ofElements [.literal "ab".toList, .wildcard, .literal "cd".toList]).realign
      "abcd".toList .shortest).isEmpty = false := by decide +kernel
  have fitted : (ofElements [.literal "ab".toList, .wildcard, .literal "cd".toList]).fits
      "ab0cd".toList := by decide +kernel
  have unfitted : ((ofElements [.literal "ab".toList, .wildcard, .literal "cd".toList]).realign
      "abcd".toList .shortest).fits "ab0cd".toList = false := by decide +kernel
  have kept := (keeps _ _ _ nonempty).2 _ fitted
  rw [unfitted] at kept
  contradiction

end Template

end MailSort
