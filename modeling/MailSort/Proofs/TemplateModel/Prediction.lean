import MailSort.Proofs.ClusterModel.Founding
import MailSort.Proofs.Score.Shares
import MailSort.Proofs.TemplateModel.Acceptance

/-! # What a model foretells

A sample that would be appended can be looked at before it is added.  `TemplateModel.templateWith`
takes a single step from the present template, whereas adding the sample may build the model again
from all of its samples.  Both give the same template, as the present one is what the samples have
made it, step by step.

`TemplateModel.assess` does not even take this step.  It reads the alignment with the only sample of
a model at two lengths.  In all other models a text that is typical at all leaves the template as it
is.
-/

namespace MailSort

namespace TemplateModel

variable {α : Type} [Score α] {model next : TemplateModel} {sample candidate : Text}

theorem higher_coverage (shares : candidate ≠ [] → Score.Shares α candidate.length)
    (script : EditScript) :
    Score.higher Score.zero (script.coverage candidate) = (script.coverage candidate : α) := by
  rw [EditScript.coverage]
  split
  · exact ite_self _
  · next some => exact shares some _

theorem allows_of_typical [Score.Separated α]
    (typical : Score.zero < (model.confidence candidate : α)) :
    model.template.allows candidate := by
  by_contra refused
  rw [Template.allows, Bool.or_eq_true, not_or, Bool.not_eq_true, Bool.not_eq_true] at refused
  rw [confidence_of_not_fits refused.1 refused.2] at typical
  exact Score.Separated.lt_irrefl _ typical

section Foretelling

variable [Compiler] {least : SegmentLength} {budget : Nat}

/-! ## The template with another sample -/

theorem templateWith_of_single {only : Text} (single : model.samples = [only]) (sample : Text) :
    model.templateWith sample = .common only sample model.segmentLength := by
  rw [templateWith, single]

theorem templateWith_of_several (two : 2 ≤ model.samples.length) (sample : Text) :
    model.templateWith sample =
      if model.template.allows sample then model.template
      else model.template.generalize sample model.segmentLength := by
  match samples_eq : model.samples, two with
  | _ :: _ :: _, _ =>
    rw [templateWith, samples_eq, Template.allows]
    dsimp only
    cases nothing : model.template.isEmpty with
    | false => rw [Bool.false_or]
    | true =>
      -- An empty template fits nothing, and stays as it is all the same.
      rw [Template.generalize_of_isEmpty _ _ nothing, ite_self, ite_self]

/-- The template with another sample is the one that this sample at the end makes of the others. -/
theorem UpToDate.template_eq_templateWith (current : model.UpToDate least budget)
    (further : next.UpToDate least budget) (appended : next.samples = model.samples ++ [sample]) :
    next.template = model.templateWith sample := by
  have made := further.template_eq
  rw [appended] at made
  match samples_eq : model.samples with
  | [] =>
    rw [templateWith, samples_eq]
    exact further.template_of_short (by simp [appended, samples_eq])
  | [only] =>
    -- The alignment with the only sample is all there is to do.
    rw [samples_eq] at made
    obtain ⟨_, _, aligned⟩ := Outcome.bind_eq_ok_iff.1 made
    rw [templateWith_of_single samples_eq, current.segmentLength_eq]
    exact (Except.ok.inj aligned).symm
  | first :: second :: rest =>
    have two : 2 ≤ model.samples.length := by simp [samples_eq]
    obtain ⟨earlier, before, extended⟩ := Template.exists_of_ofSamples_concat two made
    obtain rfl : model.template = earlier := Except.ok.inj (current.template_eq.symm.trans before)
    rw [Template.extend_eq_ok extended, templateWith_of_several two, current.segmentLength_eq]

/-- After any updates of a model: if a sample would be appended, and adding it succeeds, then the
    template that comes out is the one that was foretold. -/
theorem run_add_foretold {samples : List Text} {least budget : Nat}
    (built : ofSamples samples least budget = .ok model) (updates : List Update)
    (tail : (model.run updates).arrivals.acceptsAtTail [sample])
    (added : (model.run updates).add [sample] = .ok next) :
    next.template = (model.run updates).templateWith sample := by
  obtain ⟨two_le, current, -⟩ := ofSamples_eq_ok_iff.1 built
  have kept := current.run updates
  refine kept.template_eq_templateWith (kept.add added) ?_
  rw [TemplateModel.samples, arrivals_of_add added]
  exact ArrivalLog.samples_acceptAll_of_tail tail

end Foretelling

/-- A sample that was withdrawn from the end returns there, and makes the template more general. -/
theorem run_add_foretold_returning :
    ∃ model updates,
      ofSamples ["id=1;ok".toList, "id=22;ok".toList, "id=5;failed".toList] 2
        Template.standardBudget = .ok model ∧
      updates = [.remove ["id=5;failed".toList]] ∧
      (model.run updates).template =
        .ofElements [.literal "id=".toList, .wildcard, .literal ";ok".toList] ∧
      (model.run updates).arrivals.acceptsAtTail ["id=5;failed".toList] ∧
      (model.run updates).add ["id=5;failed".toList] = .ok model ∧
      model.template = (model.run updates).templateWith "id=5;failed".toList := by
  have built : ofSamples ["id=1;ok".toList, "id=22;ok".toList, "id=5;failed".toList] 2
      Template.standardBudget = .ok {
        segmentLength := .shortest
        budget := Template.standardBudget
        template := .ofElements [.literal "id=".toList, .wildcard]
        gapTables := [.ofSamples ["1;ok".toList, "22;ok".toList, "5;failed".toList]]
        arrivals := .ofSamples ["id=1;ok".toList, "id=22;ok".toList, "id=5;failed".toList]
        longest := 11 } := by
    decide +kernel
  refine ⟨_, _, built, rfl, ?_, ?tail, ?added, run_add_foretold built _ ?tail ?added⟩
  all_goals decide +kernel

/-! ## Assessments -/

section Assessing

variable [Compiler] {least : SegmentLength} {budget : Nat}

/-- What a model says about a text, with confidence and template worked out each by itself. -/
def assessSeparately (model : TemplateModel) (candidate : Text) : Assessment α where
  confidence := model.confidence candidate
  mergedLength :=
    if Score.zero < (model.confidence candidate : α) then
      some (model.templateWith candidate).literalLength
    else none

/-- The highest of a single coverage is this coverage. -/
theorem UpToDate.confidence_of_single (current : model.UpToDate least budget) {only : Text}
    (single : model.samples = [only])
    (shares : candidate ≠ [] → Score.Shares α candidate.length) :
    model.confidence candidate = ((EditScript.between only candidate).coverage candidate : α) := by
  have nothing : model.template.isEmpty := by
    rw [current.template_of_short (by simp [single])]
    rfl
  rw [confidence, if_pos nothing, coverage, single]
  exact higher_coverage shares _

/-- A text that the template of several samples allows leaves it as it is. -/
theorem UpToDate.templateWith_of_allows (current : model.UpToDate least budget)
    (others : ∀ only, model.samples ≠ [only]) (allowed : model.template.allows candidate) :
    model.templateWith candidate = model.template := by
  match samples_eq : model.samples with
  | [] =>
    rw [templateWith, samples_eq]
    exact (current.template_of_short (by simp [samples_eq])).symm
  | [only] => exact absurd samples_eq (others only)
  | _ :: _ :: _ =>
    have two : 2 ≤ model.samples.length := by simp [samples_eq]
    rw [templateWith_of_several two, if_pos allowed]

theorem UpToDate.assess_eq [Score.Separated α] (current : model.UpToDate least budget)
    (shares : candidate ≠ [] → Score.Shares α candidate.length) :
    (model.assess candidate : Assessment α) = model.assessSeparately candidate := by
  by_cases single : ∃ only, model.samples = [only]
  · obtain ⟨only, single⟩ := single
    rw [assess_of_single single, assessSeparately, current.confidence_of_single single shares,
      templateWith_of_single single, Template.literalLength_common]
  · have others := not_exists.1 single
    rw [assess_of_others others, assessSeparately]
    congr 1
    split
    · next typical => rw [current.templateWith_of_allows others (allows_of_typical typical)]
    · rfl

/-- After any updates of a model, its assessment of a text is what confidence and template say
    that are worked out separately: over the rational numbers, and also over floating-point numbers
    if they can hold the length of the text. -/
theorem run_assess_eq {samples : List Text} {least budget : Nat}
    (built : ofSamples samples least budget = .ok model) (updates : List Update)
    (candidate : Text) :
    ((model.run updates).assess candidate : Assessment Rat) =
        (model.run updates).assessSeparately candidate ∧
      (candidate.length < 2 ^ 1023 →
        ((model.run updates).assess candidate : Assessment Float) =
          (model.run updates).assessSeparately candidate) := by
  obtain ⟨two_le, current, -⟩ := ofSamples_eq_ok_iff.1 built
  have kept := current.run updates
  constructor
  · exact kept.assess_eq fun _ => Score.shares_rat _
  · intro held
    exact kept.assess_eq fun some => Score.shares_float (List.length_pos_iff.2 some) held

end Assessing

/-- The only sample shares three characters of twelve with the text, which count at length 2, but
    not at the segment length of the model. -/
theorem run_assess_eq_of_single :
    ∃ model updates candidate,
      ofSamples ["id=1;ok".toList] 4 Template.standardBudget = .ok model ∧
      updates = [.add ["id=22;ok".toList], .remove ["id=22;ok".toList]] ∧
      candidate = "id=55;failed".toList ∧ candidate.length < 2 ^ 1023 ∧
      (model.run updates).assess candidate = (⟨1 / 4, some 0⟩ : Assessment Rat) ∧
      ((model.run updates).assess candidate : Assessment Rat) =
        (model.run updates).assessSeparately candidate ∧
      ((model.run updates).assess candidate : Assessment Float) =
        (model.run updates).assessSeparately candidate := by
  have built : ofSamples ["id=1;ok".toList] 4 Template.standardBudget = .ok {
      segmentLength := ⟨4, by decide⟩
      budget := Template.standardBudget
      template := .empty
      gapTables := []
      arrivals := .ofSamples ["id=1;ok".toList]
      longest := 7 } := by
    decide +kernel
  have held : "id=55;failed".toList.length < 2 ^ 1023 := by decide +kernel
  obtain ⟨exact, rounded⟩ := run_assess_eq built
    [.add ["id=22;ok".toList], .remove ["id=22;ok".toList]] "id=55;failed".toList
  exact ⟨_, _, _, built, rfl, rfl, held, by decide +kernel, exact, rounded held⟩

end TemplateModel

end MailSort
