import MailSort.Proofs.TemplateModel.Confidence
import MailSort.Proofs.TemplateModel.Prediction
import MailSort.Proofs.TransitionTable.Repetition

/-! # Samples that dilute a model

A sample that joins a model of two samples or more, and fits, leaves the template as it is and only
adds to the tables of the gaps.  Its confidence changes by what it gains in the gaps on the mean
(`TemplateModel.UpToDate.confidence_add`).  If it goes on uniformly in each gap, it is then at least
as typical of the model as it was before.
-/

namespace MailSort

def Template.FillsUniformly (template : Template) (text : Text) : Prop :=
  ∀ gaps, template.gaps? text = some gaps → ∀ gap ∈ gaps, gap.Uniform

theorem TransitionTable.sum_confidence_add {tables : List TransitionTable} {gaps : List Text}
    (consistent : ∀ table ∈ tables, table.Consistent) :
    (List.zipWith confidence (List.zipWith add tables gaps) gaps : List Rat).sum =
      (List.zipWith confidence tables gaps).sum + (List.zipWith gain tables gaps).sum := by
  induction tables generalizing gaps with
  | nil => exact (add_zero 0).symm
  | cons table tables ih =>
    cases gaps with
    | nil => exact (add_zero 0).symm
    | cons gap gaps =>
      rw [List.forall_mem_cons] at consistent
      simp only [List.zipWith_cons_cons, List.sum_cons, consistent.1.confidence_add,
        ih consistent.2]
      exact add_add_add_comm ..

theorem TransitionTable.mean_confidence_add {tables : List TransitionTable} {gaps : List Text}
    (consistent : ∀ table ∈ tables, table.Consistent) :
    (Score.mean (List.zipWith confidence (List.zipWith add tables gaps) gaps) : Rat) =
      Score.mean (List.zipWith confidence tables gaps) +
        Score.mean (List.zipWith gain tables gaps) := by
  simp only [Score.mean_eq, sum_confidence_add consistent, List.length_zipWith, min_assoc, min_self,
    add_div]

theorem TransitionTable.mean_gain_nonneg {tables : List TransitionTable} {gaps : List Text}
    (expected : ∀ pair ∈ tables.zip gaps, ¬ pair.1.Outdoes pair.2) :
    0 ≤ Score.mean (List.zipWith gain tables gaps) := by
  rw [← List.map_uncurry_zip_eq_zipWith]
  refine Score.mean_nonneg fun score member => ?_
  obtain ⟨pair, paired, rfl⟩ := List.mem_map.1 member
  exact gain_nonneg (expected pair paired)

namespace TemplateModel

variable {model next : TemplateModel} {sample : Text}

theorem coverage_le_of_subset (subset : model.samples ⊆ next.samples) (candidate : Text) :
    (model.coverage candidate : Rat) ≤ next.coverage candidate := by
  refine Score.highest_le_iff.2 ⟨Score.highest_nonneg _, fun score member => ?_⟩
  obtain ⟨sample, held, rfl⟩ := List.mem_map.1 member
  exact Score.le_highest (List.mem_map_of_mem (subset held))

variable [Compiler] {least : SegmentLength} {budget : Nat}

/-- A sample that is allowed only adds to the tables. -/
theorem UpToDate.eq_of_allows (current : model.UpToDate least budget)
    (after : next.UpToDate least budget) (two : 2 ≤ model.samples.length)
    (grown : next.samples = model.samples ++ [sample]) (allowed : model.template.allows sample) :
    next.template = model.template ∧
      next.gapTables = model.template.feed model.gapTables sample := by
  have template_eq : next.template = model.template := by
    have others : ∀ only, model.samples ≠ [only] := fun only single => by simp [single] at two
    rw [current.template_eq_templateWith after grown]
    exact current.templateWith_of_allows others allowed
  refine ⟨template_eq, ?_⟩
  rw [after.gapTables_eq, grown, template_eq, List.foldl_append, ← current.gapTables_eq]
  rfl

/-- The confidence of a sample that fits changes by what its gaps gain on the mean. -/
theorem UpToDate.confidence_add (current : model.UpToDate least budget)
    (after : next.UpToDate least budget) (two : 2 ≤ model.samples.length)
    (grown : next.samples = model.samples ++ [sample]) {gaps : List Text}
    (read : model.template.gaps? sample = some gaps) :
    (next.confidence sample : Rat) =
      model.confidence sample +
        Score.mean (List.zipWith TransitionTable.gain model.gapTables gaps) := by
  have fitted : model.template.fits sample := by rw [Template.fits, read, Option.isSome_some]
  have allowed : model.template.allows sample := by rw [Template.allows, fitted, Bool.or_true]
  obtain ⟨template_eq, tables_eq⟩ := current.eq_of_allows after two grown allowed
  rw [Template.feed_of_gaps? _ read] at tables_eq
  have one_each := current.length_gapTables read
  rw [confidence_of_gaps? read, confidence_of_gaps? (template_eq ▸ read), tables_eq]
  -- Without gaps there are no tables, before and after.
  cases gaps with
  | nil =>
    rw [List.length_eq_zero_iff.1 one_each]
    simp [Score.mean_eq]
  | cons gap gaps =>
    obtain ⟨table, tables, same⟩ := List.exists_cons_of_length_pos
      (Nat.lt_of_lt_of_eq (Nat.succ_pos _) one_each.symm)
    have consistent := current.consistent
    rw [same] at consistent ⊢
    exact TransitionTable.mean_confidence_add consistent

/-- A sample that is typical of a model and goes on uniformly in its gaps does not become less
    typical when it joins. -/
theorem UpToDate.confidence_le (current : model.UpToDate least budget)
    (after : next.UpToDate least budget) (two : 2 ≤ model.samples.length)
    (grown : next.samples = model.samples ++ [sample])
    (typical : (0 : Rat) < model.confidence sample)
    (uniform : model.template.FillsUniformly sample) :
    next.template = model.template ∧
      (model.confidence sample : Rat) ≤ next.confidence sample := by
  have allowed := allows_of_typical (α := Rat) typical
  have template_eq := (current.eq_of_allows after two grown allowed).1
  refine ⟨template_eq, ?_⟩
  by_cases nothing : model.template.isEmpty
  · rw [confidence, confidence, template_eq, if_pos nothing, if_pos nothing]
    exact coverage_le_of_subset (by simp [grown]) sample
  · have fitted : model.template.fits sample := by simpa [Template.allows, nothing] using allowed
    obtain ⟨gaps, read⟩ := Template.exists_gaps?_of_fits fitted
    rw [current.confidence_add after two grown read]
    refine le_add_of_nonneg_right (TransitionTable.mean_gain_nonneg fun pair paired => ?_)
    obtain ⟨tabled, filled⟩ := List.of_mem_zip paired
    exact (current.consistent pair.1 tabled).not_outdoes (uniform gaps read pair.2 filled)

end TemplateModel

end MailSort
