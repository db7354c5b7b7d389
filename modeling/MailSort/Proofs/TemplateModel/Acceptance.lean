import Mathlib.Data.List.Induction
import MailSort.Proofs.Template.Generalization
import MailSort.Proofs.TemplateModel.Rebuild

/-! # Templates and their samples

The template of a model stands for all of its samples, not only for the one that came last:
each step that makes it more general keeps the texts that were fitted before, so the samples
that it stands for only become more.  The empty sample is the one exception.  It changes no
template, and no template with elements fits it.

A step keeps what was fitted before because it takes the template through the sample.  It does so
as long as the templates that come out compile (`Template.ChecksCompile`); a template that is
aligned anew for the lack of that stands for the last sample, but may have lost others.
-/

namespace MailSort

namespace Template

variable {least : SegmentLength} {budget : Nat} {template extended : Template} {sample : Text}
  {samples more : List Text}

/-! ## What a template stands for -/

/-- The template is empty, or it fits all of the samples that are not empty. -/
def StandsFor (template : Template) (samples : List Text) : Prop :=
  template.isEmpty = false → ∀ sample ∈ samples, sample ≠ [] → template.fits sample

theorem standsFor_empty (samples : List Text) : (empty : Template).StandsFor samples := by
  intro nonempty
  contradiction

theorem standsFor_common (first second : Text) (least : SegmentLength) :
    (common first second least).StandsFor [first, second] := by
  intro nonempty sample member _
  obtain ⟨fitsFirst, fitsSecond⟩ := fits_common nonempty
  simp only [List.mem_cons, List.not_mem_nil, or_false] at member
  obtain rfl | rfl := member
  · exact fitsFirst
  · exact fitsSecond

theorem StandsFor.concat (stands : template.StandsFor samples)
    (allowed : sample ≠ [] → template.allows sample) :
    template.StandsFor (samples ++ [sample]) := by
  intro nonempty other member some
  obtain earlier | rfl : other ∈ samples ∨ other = sample := by simpa using member
  · exact stands nonempty other earlier some
  · exact allows_iff.1 (allowed some) nonempty

/-! ## Extending over samples -/

section Extending

variable [Compiler]

/-- A template is only ever extended by generalizing it. -/
theorem extend_eq_ok (made : extend least budget template sample = .ok extended) :
    extended = if template.allows sample then template else template.generalize sample least := by
  unfold extend at made
  split at made
  · next allowed =>
    rw [if_pos allowed]
    exact (Except.ok.inj made).symm
  · next refused =>
    obtain ⟨_, _, same⟩ := Outcome.map_eq_ok_iff.1 made
    rw [if_neg refused, same]

/-- What holds of the template of the first two samples, and is kept whenever a template is
    extended, holds of the template of all samples. -/
theorem ofSamples_induction (property : List Text → Template → Prop)
    (short : ∀ samples, samples.length < 2 → property samples .empty)
    (aligned : ∀ first second, property [first, second] (common first second least))
    (step : ∀ {samples sample template extended},
      ofSamples least budget samples = .ok template →
      extend least budget template sample = .ok extended →
      property samples template → property (samples ++ [sample]) extended)
    (made : ofSamples least budget samples = .ok template) : property samples template := by
  induction samples using List.reverseRecOn generalizing template with
  | nil =>
    cases made
    exact short [] Nat.two_pos
  | append_singleton samples sample ih =>
    -- The first two samples are aligned; each of the others extends what they share.
    match samples with
    | [] =>
      cases made
      exact short [sample] Nat.one_lt_two
    | [first] =>
      obtain ⟨_, _, done⟩ := Outcome.bind_eq_ok_iff.1 made
      cases done
      exact aligned first sample
    | first :: second :: rest =>
      obtain ⟨earlier, made, extended⟩ := exists_of_ofSamples_concat (by simp) made
      exact step made extended (ih made)

/-- No literal of the template is shorter than the segment length. -/
theorem longLiterals_ofSamples (made : ofSamples least budget samples = .ok template) :
    Element.LongLiterals least.chars template.elements := by
  refine ofSamples_induction (fun _ template => Element.LongLiterals least.chars template.elements)
    ?short ?aligned ?step made
  case short => exact fun _ _ _ member => absurd member List.not_mem_nil
  case aligned => exact fun first second => longLiterals_common first second least
  case step =>
    intro _ sample template _ _ extended long
    obtain rfl := extend_eq_ok extended
    split
    · exact long
    · exact (generalizes template sample least).longLiterals long

/-- The templates of the walks on the way to the template of some samples compile, so that what is
    checked of them is whether they fit. -/
def ChecksCompile (least : SegmentLength) (budget : Nat) (samples : List Text) : Prop :=
  ∀ before sample after template, samples = before ++ sample :: after →
    ofSamples least budget before = .ok template → ¬template.allows sample →
      (template.walk sample least).Compiles

theorem ChecksCompile.of_append (checked : ChecksCompile least budget (samples ++ more)) :
    ChecksCompile least budget samples := by
  rintro before sample after template rfl
  exact checked before sample (after ++ more) template (by simp)

theorem ChecksCompile.last (checked : ChecksCompile least budget (samples ++ [sample]))
    (made : ofSamples least budget samples = .ok template) (refused : ¬template.allows sample) :
    (template.walk sample least).Compiles :=
  checked samples sample [] template rfl made refused

theorem StandsFor.generalize (stands : template.StandsFor samples)
    (checked : (template.walk sample least).Compiles) (refused : ¬template.allows sample) :
    (template.generalize sample least).StandsFor (samples ++ [sample]) := by
  have made := generalizes template sample least
  have before : template.isEmpty = false := by
    rw [allows_iff, Classical.not_imp] at refused
    exact refused.1
  have kept : (template.generalize sample least).StandsFor samples := by
    intro nonempty other member some
    exact made.fits checked nonempty (stands before other member some)
  exact kept.concat fun some => allows_iff.2 (made.fits_sample some)

theorem standsFor_ofSamples (made : ofSamples least budget samples = .ok template)
    (checked : ChecksCompile least budget samples) : template.StandsFor samples := by
  revert checked
  refine ofSamples_induction
    (fun samples template => ChecksCompile least budget samples → template.StandsFor samples)
    ?short ?aligned ?step made
  case short => exact fun samples _ _ => standsFor_empty samples
  case aligned => exact fun first second _ => standsFor_common first second least
  case step =>
    intro samples sample template _ made extended stands checked
    have stands := stands checked.of_append
    obtain rfl := extend_eq_ok extended
    split
    · next allowed => exact stands.concat fun _ => allowed
    · next refused => exact stands.generalize (checked.last made refused) refused

end Extending

end Template

namespace TemplateModel

/-- The templates of the walks on the way to the template of a model compile. -/
def ChecksCompile [Compiler] (model : TemplateModel) : Prop :=
  Template.ChecksCompile model.segmentLength model.budget model.samples

/-- With the compiler that is used when no other is chosen they always do. -/
theorem checksCompile (model : TemplateModel) : model.ChecksCompile :=
  fun _ _ _ _ _ _ _ => Template.compiles _

section Updates

variable [Compiler] {model : TemplateModel}

theorem UpToDate.longLiterals {least : SegmentLength} {budget : Nat}
    (current : model.UpToDate least budget) :
    Element.LongLiterals least.chars model.template.elements :=
  Template.longLiterals_ofSamples current.template_eq

theorem UpToDate.fits_iff {least : SegmentLength} {budget : Nat}
    (current : model.UpToDate least budget) (checked : model.ChecksCompile)
    (nonempty : model.template.isEmpty = false) {sample : Text} (member : sample ∈ model.samples) :
    model.template.fits sample ↔ sample ≠ [] := by
  constructor
  · rintro fitted rfl
    simp [Template.not_fits_nil] at fitted
  · rw [ChecksCompile, current.segmentLength_eq, current.budget_eq] at checked
    exact Template.standsFor_ofSamples current.template_eq checked nonempty sample member

/-- After any updates of a model, its template is empty, or its literals are long enough and, if
    the checks compile, it fits exactly the samples that are not empty. -/
theorem run_fits_iff {samples : List Text} {least budget : Nat}
    (built : ofSamples samples least budget = .ok model) (updates : List Update)
    (nonempty : (model.run updates).template.isEmpty = false) :
    ((model.run updates).ChecksCompile → ∀ sample ∈ (model.run updates).samples,
      (model.run updates).template.fits sample ↔ sample ≠ []) ∧
    ∀ part ∈ (model.run updates).template.literals, least ≤ part.length := by
  obtain ⟨two_le, current, -⟩ := ofSamples_eq_ok_iff.mp built
  have kept := current.run updates
  constructor
  · exact fun checked sample member => kept.fits_iff checked nonempty member
  · exact fun part member => kept.longLiterals part (Template.mem_literals.mp member)

end Updates

/-- The empty sample is among the samples, and the last update shortens the template. -/
theorem run_fits_iff_with_empty_sample :
    ∃ model updates,
      ofSamples ["id=1;ok".toList, "id=22;ok".toList, []] 2 Template.standardBudget = .ok model ∧
      updates = [.add ["id=3;ok".toList], .remove ["id=3;ok".toList], .add ["id=4".toList]] ∧
      (model.run updates).template.isEmpty = false ∧
      (∀ sample ∈ (model.run updates).samples,
        (model.run updates).template.fits sample ↔ sample ≠ []) ∧
      ∀ part ∈ (model.run updates).template.literals, 2 ≤ part.length := by
  have built : ofSamples ["id=1;ok".toList, "id=22;ok".toList, []] 2 Template.standardBudget =
      .ok {
        segmentLength := .shortest
        budget := Template.standardBudget
        template := .ofElements [.literal "id=".toList, .wildcard, .literal ";ok".toList]
        gapTables := [.ofSamples ["1".toList, "22".toList]]
        arrivals := .ofSamples ["id=1;ok".toList, "id=22;ok".toList, []]
        longest := 8 } := by
    decide +kernel
  refine ⟨_, _, built, rfl, ?nonempty, (run_fits_iff built _ ?nonempty).1 (checksCompile _),
    (run_fits_iff built _ ?nonempty).2⟩
  decide +kernel

end TemplateModel

end MailSort
