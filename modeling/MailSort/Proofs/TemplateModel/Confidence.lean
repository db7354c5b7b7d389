import MailSort.Proofs.Alignment.Identity
import MailSort.Proofs.ClusterModel.Founding
import MailSort.Proofs.TemplateModel.GapTables
import MailSort.Proofs.TransitionTable.Probability

/-! # What is typical of a model

Over the rational numbers a sample of two characters or more has a confidence above 0 in every
model that holds it and whose checks compile.  Without a template it covers itself.  With one it
fits, and what fills its gaps has been counted in the tables of these gaps
(`TemplateModel.UpToDate.gap_confidence_pos`).

Shorter texts have a confidence of 0 everywhere: they share no run that is long enough, and no
template with elements fits them.
-/

namespace MailSort

namespace Template

/-- A text that is shorter than the literals of a template does not fit it. -/
theorem not_fits_of_short {template : Template} {least : Nat} {text : Text}
    (long : Element.LongLiterals least template.elements) (short : text.length < least) :
    template.fits text = false := by
  rw [Bool.eq_false_iff, ne_eq, fits_iff]
  rintro ⟨nonempty, denoted⟩
  obtain ⟨part, member⟩ := exists_literal nonempty
  have enough := long part member
  have inside := (denoted.infix_of_mem member).length_le
  omega

end Template

theorem EditScript.sharedLength_of_short {first second : Text} {least : SegmentLength}
    (short : second.length < least.chars) :
    (between first second).sharedLength least.chars = 0 := by
  rw [← Template.literalLength_common]
  apply Template.literalLength_eq_zero
  by_contra nonempty
  have fitted := (Template.fits_common (Bool.eq_false_iff.2 nonempty)).2
  rw [Template.not_fits_of_short (Template.longLiterals_common first second least) short] at fitted
  contradiction

theorem EditScript.coverage_of_short {first second : Text} (short : second.length < 2) :
    (between first second).coverage second = (0 : Rat) := by
  have nothing : (between first second).sharedLength SegmentLength.shortest.chars = 0 :=
    sharedLength_of_short short
  rw [coverage]
  split
  · rfl
  · rw [nothing, Score.ratio_eq, Nat.cast_zero, zero_div]

theorem EditScript.coverage_mem_Icc (first second : Text) :
    ((between first second).coverage second : Rat) ∈ Set.Icc 0 1 := by
  rw [coverage]
  split
  · exact ⟨le_rfl, zero_le_one⟩
  · exact Score.ratio_mem_Icc (sharedLength_between_le first second _)

namespace TemplateModel

variable {model : TemplateModel} {sample candidate : Text}

/-! ## Models and assessments -/

theorem one_le_coverage (member : sample ∈ model.samples) (two : 2 ≤ sample.length) :
    (1 : Rat) ≤ model.coverage sample := by
  rw [← EditScript.coverage_between_self two]
  exact Score.le_highest (List.mem_map_of_mem member)

theorem confidence_of_gaps? {gaps : List Text} (read : model.template.gaps? sample = some gaps) :
    (model.confidence sample : Rat) =
      if model.gapTables.isEmpty then 1
      else Score.mean (List.zipWith TransitionTable.confidence model.gapTables gaps) := by
  have nonempty : ¬ model.template.isEmpty := by
    intro nothing
    rw [Template.gaps?_of_isEmpty nothing] at read
    contradiction
  rw [confidence, if_neg nonempty, read]
  rfl

variable [Compiler] {least : SegmentLength} {budget : Nat} {gaps : List Text}

theorem UpToDate.length_gapTables (current : model.UpToDate least budget)
    (read : model.template.gaps? sample = some gaps) : model.gapTables.length = gaps.length := by
  rw [current.gapTables_eq_map, List.length_map, List.length_range, Template.length_of_gaps? read]

theorem UpToDate.consistent (current : model.UpToDate least budget) :
    ∀ table ∈ model.gapTables, table.Consistent := by
  intro table member
  rw [current.gapTables_eq_map] at member
  obtain ⟨gap, -, rfl⟩ := List.mem_map.1 member
  exact TransitionTable.consistent_ofSamples _

theorem UpToDate.confidence_mem_Icc (current : model.UpToDate least budget) (candidate : Text) :
    (model.confidence candidate : Rat) ∈ Set.Icc 0 1 := by
  rw [confidence]
  split
  · refine Score.highest_mem_Icc fun score member => ?_
    obtain ⟨sample, -, rfl⟩ := List.mem_map.1 member
    exact (EditScript.coverage_mem_Icc sample candidate).2
  · split
    · exact ⟨le_rfl, zero_le_one⟩
    · split
      · exact ⟨zero_le_one, le_rfl⟩
      · refine Score.mean_mem_Icc fun score member => ?_
        obtain ⟨gap, scored⟩ := List.mem_iff_getElem?.1 member
        obtain ⟨table, filling, tabled, -, rfl⟩ := List.getElem?_zipWith_eq_some.1 scored
        exact (current.consistent table (List.mem_of_getElem? tabled)).confidence_mem_Icc filling

/-- What is in a gap of a sample has been counted in the table of the gap. -/
theorem UpToDate.gap_confidence_pos (current : model.UpToDate least budget)
    (member : sample ∈ model.samples) (read : model.template.gaps? sample = some gaps) {gap : Nat}
    {table : TransitionTable} {filling : Text} (tabled : model.gapTables[gap]? = some table)
    (filled : gaps[gap]? = some filling) : (0 : Rat) < table.confidence filling := by
  rw [current.gapTables_eq_map, List.getElem?_map, Option.map_eq_some_iff] at tabled
  obtain ⟨place, found, rfl⟩ := tabled
  obtain ⟨inside, rfl⟩ := List.getElem?_eq_some_iff.1 found
  rw [List.getElem_range]
  exact (TransitionTable.consistent_ofSamples _).confidence_pos fun transition has =>
    TransitionTable.count_ofSamples_pos (Template.mem_fillings read member filled) has

theorem UpToDate.confidence_pos (current : model.UpToDate least budget)
    (checked : model.ChecksCompile) (member : sample ∈ model.samples) (two : 2 ≤ sample.length) :
    (0 : Rat) < model.confidence sample := by
  by_cases nothing : model.template.isEmpty
  · rw [confidence, if_pos nothing]
    exact one_pos.trans_le (one_le_coverage member two)
  · have some : sample ≠ [] := List.ne_nil_of_length_pos (by omega)
    have fitted := (current.fits_iff checked (Bool.eq_false_iff.2 nothing) member).2 some
    obtain ⟨gaps, read⟩ := Template.exists_gaps?_of_fits fitted
    rw [confidence_of_gaps? read]
    split
    · exact one_pos
    · next tables =>
      have one_each := current.length_gapTables read
      refine Score.mean_pos (List.ne_nil_of_length_pos ?_) fun score inside => ?_
      · rw [List.length_zipWith, one_each, Nat.min_self, ← one_each, List.length_pos_iff]
        exact fun none => tables (List.isEmpty_iff.2 none)
      · obtain ⟨gap, scored⟩ := List.mem_iff_getElem?.1 inside
        obtain ⟨table, filling, tabled, filled, rfl⟩ := List.getElem?_zipWith_eq_some.1 scored
        exact current.gap_confidence_pos member read tabled filled

theorem UpToDate.assess_confidence_pos (current : model.UpToDate least budget)
    (checked : model.ChecksCompile) (member : sample ∈ model.samples) (two : 2 ≤ sample.length) :
    (0 : Rat) < (model.assess sample).confidence := by
  by_cases single : ∃ only, model.samples = [only]
  · obtain ⟨only, single⟩ := single
    obtain rfl : sample = only := by simpa [single] using member
    rw [assess_of_single single, EditScript.coverage_between_self two]
    exact one_pos
  · rw [assess_of_others (not_exists.1 single)]
    exact current.confidence_pos checked member two

/-! ## Short texts -/

theorem UpToDate.confidence_of_short (current : model.UpToDate least budget)
    (short : candidate.length < 2) : (model.confidence candidate : Rat) = 0 := by
  by_cases nothing : model.template.isEmpty
  · rw [confidence, if_pos nothing, coverage]
    refine le_antisymm (Score.highest_le_iff.2 ⟨le_rfl, fun score member => ?_⟩)
      (Score.highest_nonneg _)
    obtain ⟨held, -, rfl⟩ := List.mem_map.1 member
    exact (EditScript.coverage_of_short short).le
  · have unfit := Template.not_fits_of_short current.longLiterals (short.trans_le least.two_le)
    rw [confidence_of_not_fits (Bool.eq_false_iff.2 nothing) unfit]
    rfl

theorem UpToDate.assess_confidence_of_short (current : model.UpToDate least budget)
    (short : candidate.length < 2) : (model.assess candidate : Assessment Rat).confidence = 0 := by
  by_cases single : ∃ only, model.samples = [only]
  · obtain ⟨only, single⟩ := single
    rw [assess_of_single single]
    exact EditScript.coverage_of_short short
  · rw [assess_of_others (not_exists.1 single)]
    exact current.confidence_of_short short

end TemplateModel

end MailSort
