import MailSort.Proofs.TemplateModel.Dilution

/-! # Samples that arrive again

A sample that is already in a model with a template, and arrives at the end once more, fits if the
checks on the way to the template compile.  Then it is taken in as it comes
(`TemplateModel.TakesIn`), and its confidence changes by what it gains in its gaps on the mean.
This is a loss only if one of the tables outdoes what fills its gap: there the other samples keep to
the ways that the sample takes most, and the sample itself adds to those that it takes least.
-/

namespace MailSort

namespace TemplateModel

section Updates

variable [Compiler] {model : TemplateModel} {sample : Text}

/-- A sample that fits goes to the end, and the template stays. -/
structure TakesIn (model : TemplateModel) (sample : Text) (next : TemplateModel)
    (gaps : List Text) : Prop where
  fresh : model.freshness [sample] = .fresh
  added : model.add [sample] = .ok next
  samples_eq : next.samples = model.samples ++ [sample]
  template_eq : next.template = model.template
  read : model.template.gaps? sample = some gaps

theorem exists_add_of_fresh {samples : List Text} (fresh : model.freshness samples = .fresh) :
    ∃ next, model.add samples = .ok next := by
  rw [add, fresh]
  split <;> exact ⟨_, rfl⟩

/-- It takes two samples to make a template. -/
theorem UpToDate.two_le_of_nonempty {least : SegmentLength} {budget : Nat}
    (current : model.UpToDate least budget) (nonempty : model.template.isEmpty = false) :
    2 ≤ model.samples.length := by
  by_contra short
  rw [current.template_of_short (Nat.not_le.1 short)] at nonempty
  contradiction

/-- A sample of the model that goes to the end once more fits again, as the template stands for all
    samples that are not empty. -/
theorem UpToDate.fresh_of_member {least : SegmentLength} {budget : Nat}
    (current : model.UpToDate least budget) (checked : model.ChecksCompile)
    (nonempty : model.template.isEmpty = false) (member : sample ∈ model.samples)
    (filled : sample ≠ []) (tail : model.arrivals.acceptsAtTail [sample]) :
    model.freshness [sample] = .fresh := by
  have fitted := (current.fits_iff checked nonempty member).2 filled
  have allowed : model.template.allows sample := by rw [Template.allows, fitted, Bool.or_true]
  exact fresh_iff.2 ⟨current.two_le_of_nonempty nonempty, tail, by simp [allowed]⟩

theorem UpToDate.exists_takesIn {least : SegmentLength} {budget : Nat}
    (current : model.UpToDate least budget) (nonempty : model.template.isEmpty = false)
    (fresh : model.freshness [sample] = .fresh) :
    ∃ next gaps, model.TakesIn sample next gaps := by
  obtain ⟨two, tail, all⟩ := fresh_iff.1 fresh
  have allowed : model.template.allows sample := by simpa using all
  obtain ⟨next, added⟩ := exists_add_of_fresh fresh
  obtain ⟨gaps, read⟩ := Template.exists_gaps?_of_fits (Template.allows_iff.1 allowed nonempty)
  have grown : next.samples = model.samples ++ [sample] := by
    rw [samples, arrivals_of_add added]
    exact ArrivalLog.samples_acceptAll_of_tail tail
  have kept := current.eq_of_allows (current.add added) two grown allowed
  exact ⟨next, gaps, fresh, added, grown, kept.1, read⟩

/-- After any updates of a model with a template: a sample of the model that is not empty and goes
    to the end once more is taken in as it comes, if the checks compile.  When it is, its confidence
    changes by what it gains in its gaps on the mean, and it does not fall, unless a table outdoes
    what fills its gap. -/
theorem run_add_repeated {samples : List Text} {least budget : Nat}
    (built : ofSamples samples least budget = .ok model) (updates : List Update)
    (nonempty : (model.run updates).template.isEmpty = false)
    (member : sample ∈ (model.run updates).samples) (filled : sample ≠ [])
    (tail : (model.run updates).arrivals.acceptsAtTail [sample]) :
    ((model.run updates).ChecksCompile → (model.run updates).freshness [sample] = .fresh) ∧
    ((model.run updates).freshness [sample] = .fresh →
      ∃ next gaps, (model.run updates).TakesIn sample next gaps ∧
        (next.confidence sample : Rat) =
          (model.run updates).confidence sample +
            Score.mean (List.zipWith TransitionTable.gain (model.run updates).gapTables gaps) ∧
        ((model.run updates).confidence sample ≤ (next.confidence sample : Rat) ∨
          ∃ pair ∈ (model.run updates).gapTables.zip gaps, pair.1.Outdoes pair.2)) := by
  obtain ⟨two_le, current, -⟩ := ofSamples_eq_ok_iff.1 built
  have kept := current.run updates
  refine ⟨fun checked => kept.fresh_of_member checked nonempty member filled tail, fun fresh => ?_⟩
  obtain ⟨next, gaps, taken⟩ := kept.exists_takesIn nonempty fresh
  have two := kept.two_le_of_nonempty nonempty
  have change := kept.confidence_add (kept.add taken.added) two taken.samples_eq taken.read
  refine ⟨next, gaps, taken, change, ?_⟩
  by_cases outdone : ∃ pair ∈ (model.run updates).gapTables.zip gaps, pair.1.Outdoes pair.2
  · exact .inr outdone
  · refine .inl ?_
    rw [change]
    refine le_add_of_nonneg_right (TransitionTable.mean_gain_nonneg fun pair paired => ?_)
    exact fun outdoes => outdone ⟨pair, paired, outdoes⟩

end Updates

/-- The sample goes on from `a` with `a` and with `b`, and another sample only with `b`. -/
theorem run_add_repeated_of_uneven :
    ∃ model updates sample,
      ofSamples ["id=aaab;ok".toList, "id=xy;ok".toList] 2 Template.standardBudget = .ok model ∧
      updates = [.add ["id=ab;ok".toList]] ∧ sample = "id=aaab;ok".toList ∧
      (model.run updates).template.isEmpty = false ∧ sample ∈ (model.run updates).samples ∧
      sample ≠ [] ∧ (model.run updates).arrivals.acceptsAtTail [sample] ∧
      ∃ next gaps, (model.run updates).TakesIn sample next gaps ∧
        (next.confidence sample : Rat) =
          (model.run updates).confidence sample +
            Score.mean (List.zipWith TransitionTable.gain (model.run updates).gapTables gaps) ∧
        ((model.run updates).confidence sample ≤ (next.confidence sample : Rat) ∨
          ∃ pair ∈ (model.run updates).gapTables.zip gaps, pair.1.Outdoes pair.2) := by
  have built : ofSamples ["id=aaab;ok".toList, "id=xy;ok".toList] 2 Template.standardBudget =
      .ok {
        segmentLength := .shortest
        budget := Template.standardBudget
        template := .ofElements [.literal "id=".toList, .wildcard, .literal ";ok".toList]
        gapTables := [.ofSamples ["aaab".toList, "xy".toList]]
        arrivals := .ofSamples ["id=aaab;ok".toList, "id=xy;ok".toList]
        longest := 10 } := by
    decide +kernel
  refine ⟨_, _, _, built, rfl, rfl, ?nonempty, ?member, ?filled, ?tail,
    (run_add_repeated built _ ?nonempty ?member ?filled ?tail).2
      ((run_add_repeated built _ ?nonempty ?member ?filled ?tail).1 (checksCompile _))⟩
  all_goals decide +kernel

/-- The sample goes on from `a` with `b` twice and with `a` once, and the others only with `b`. -/
theorem confidence_lt_of_repeated :
    ∃ model sample next gaps,
      ofSamples ["id=abaab".toList, "id=".toList, "id=ab".toList, "id=abab".toList] 2
        Template.standardBudget = .ok model ∧
      model.template.isEmpty = false ∧ sample ∈ model.samples ∧ sample = "id=abaab".toList ∧
      model.TakesIn sample next gaps ∧
      (next.confidence sample : Rat) < model.confidence sample := by
  have built : ofSamples ["id=abaab".toList, "id=".toList, "id=ab".toList, "id=abab".toList] 2
      Template.standardBudget = .ok {
        segmentLength := .shortest
        budget := Template.standardBudget
        template := .ofElements [.literal "id=".toList, .wildcard]
        gapTables := [.ofSamples ["abaab".toList, [], "ab".toList, "abab".toList]]
        arrivals := .ofSamples ["id=abaab".toList, "id=".toList, "id=ab".toList, "id=abab".toList]
        longest := 8 } := by
    decide +kernel
  let next : TemplateModel := {
    segmentLength := .shortest
    budget := Template.standardBudget
    template := .ofElements [.literal "id=".toList, .wildcard]
    gapTables := [.ofSamples ["abaab".toList, [], "ab".toList, "abab".toList, "abaab".toList]]
    arrivals := .ofSamples ["id=abaab".toList, "id=".toList, "id=ab".toList, "id=abab".toList,
      "id=abaab".toList]
    longest := 8 }
  refine ⟨_, _, next, ["abaab".toList], built, ?_, ?_, rfl, ⟨?_, ?_, ?_, ?_, ?_⟩, ?_⟩
  all_goals decide +kernel

end TemplateModel

end MailSort
