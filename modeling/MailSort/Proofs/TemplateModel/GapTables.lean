import MailSort.Proofs.Template.Gaps
import MailSort.Proofs.TemplateModel.Acceptance
import MailSort.Proofs.TransitionTable.Counting

/-! # Gap tables

Each gap of a template has a table of its own, made of what fills the gap in the samples that fit
(`Template.foldl_feed_eq`).  The tables at the beginning, between the literals and at the end are
all of them, in order (`TemplateModel.Tabled`).  Nothing of a sample that fits is lost on the way:
its characters are in the tables or in the literals, and no table has it twice
(`TemplateModel.Balanced`).
-/

namespace MailSort

namespace Template

variable {template : Template} {tables : List TransitionTable} {samples : List Text}
  {sample : Text} {gaps : List Text}

/-- What fills a gap in the samples that fit, in order. -/
def fillings (template : Template) (samples : List Text) (gap : Nat) : List Text :=
  samples.filterMap fun sample => (template.gaps? sample).bind (·[gap]?)

theorem feed_of_gaps? (tables : List TransitionTable) (read : template.gaps? sample = some gaps) :
    template.feed tables sample = List.zipWith TransitionTable.add tables gaps := by
  rw [feed, read]

theorem feed_of_not_fits (tables : List TransitionTable) (unfit : ¬ template.fits sample) :
    template.feed tables sample = tables := by
  have gapless : template.gaps? sample = none := by simpa [fits] using unfit
  rw [feed, gapless]

theorem length_feed (enough : tables.length = template.gapCount) (sample : Text) :
    (template.feed tables sample).length = template.gapCount := by
  by_cases fitted : template.fits sample
  · obtain ⟨gaps, read⟩ := exists_gaps?_of_fits fitted
    rw [feed_of_gaps? tables read, List.length_zipWith, enough, length_of_gaps? read, Nat.min_self]
  · rw [feed_of_not_fits tables fitted, enough]

theorem mem_fillings (read : template.gaps? sample = some gaps) (member : sample ∈ samples)
    {gap : Nat} {filling : Text} (inside : gaps[gap]? = some filling) :
    filling ∈ template.fillings samples gap :=
  List.mem_filterMap.2 ⟨sample, member, by rw [read, Option.bind_some, inside]⟩

/-- A sample fills every gap if it fits, and none otherwise. -/
theorem length_fillings (samples : List Text) {gap : Nat} (inside : gap < template.gapCount) :
    (template.fillings samples gap).length = samples.countP template.fits := by
  rw [fillings, List.length_filterMap_eq_countP]
  congr 1
  funext sample
  rw [fits]
  cases read : template.gaps? sample with
  | none => rfl
  | some gaps => simp [length_of_gaps? read, inside]

/-- Every table is made of what fills its own gap. -/
theorem foldl_feed_eq (template : Template) (samples : List Text) :
    samples.foldl template.feed (List.replicate template.gapCount .empty) =
      (List.range template.gapCount).map fun gap => .ofSamples (template.fillings samples gap) := by
  induction samples using List.reverseRecOn with
  | nil =>
    show _ = (List.range template.gapCount).map fun _ => TransitionTable.empty
    rw [List.map_const', List.length_range]
    rfl
  | append_singleton samples sample ih =>
    rw [List.foldl_append, ih, List.foldl_cons, List.foldl_nil]
    cases read : template.gaps? sample with
    | none =>
      rw [feed, read]
      refine List.map_congr_left fun gap _ => ?_
      simp [fillings, read]
    | some gaps =>
      rw [feed_of_gaps? _ read]
      apply List.ext_getElem
      · simp [length_of_gaps? read]
      · intro gap _ inside
        have bound : gap < gaps.length := by simpa [length_of_gaps? read] using inside
        simp [fillings, read, bound, TransitionTable.ofSamples_concat]

/-! ## Characters -/

theorem sum_totalLength_zipWith (tables : List TransitionTable) (gaps : List Text)
    (same : tables.length = gaps.length) :
    ((List.zipWith TransitionTable.add tables gaps).map (·.totalLength)).sum =
      (tables.map (·.totalLength)).sum + (gaps.map List.length).sum := by
  induction tables generalizing gaps with
  | nil =>
    obtain rfl := List.length_eq_zero_iff.1 same.symm
    rfl
  | cons table tables ih =>
    cases gaps with
    | nil => contradiction
    | cons gap gaps =>
      have rest := ih gaps (Nat.succ.inj same)
      simp only [List.zipWith_cons_cons, List.map_cons, List.sum_cons, rest,
        TransitionTable.totalLength_add]
      omega

/-- The tables take in what the literals leave of the samples that fit. -/
theorem sum_totalLength_foldl_feed (enough : tables.length = template.gapCount)
    (samples : List Text) :
    ((samples.foldl template.feed tables).map (·.totalLength)).sum +
        (samples.filter template.fits).length * template.literalLength =
      (tables.map (·.totalLength)).sum + ((samples.filter template.fits).map List.length).sum := by
  induction samples generalizing tables with
  | nil => simp
  | cons sample samples ih =>
    have later := ih (length_feed enough sample)
    rw [List.foldl_cons]
    by_cases fitted : template.fits sample
    · obtain ⟨gaps, read⟩ := exists_gaps?_of_fits fitted
      have same : tables.length = gaps.length := enough.trans (length_of_gaps? read).symm
      have whole := sum_length_of_gaps? read
      have fed : ((template.feed tables sample).map (·.totalLength)).sum =
          (tables.map (·.totalLength)).sum + (gaps.map List.length).sum := by
        rw [feed_of_gaps? tables read, sum_totalLength_zipWith tables gaps same]
      rw [List.filter_cons_of_pos fitted, List.length_cons, Nat.succ_mul, List.map_cons,
        List.sum_cons]
      omega
    · rw [List.filter_cons_of_neg fitted, later, feed_of_not_fits tables fitted]

end Template

namespace TemplateModel

variable {model : TemplateModel}

/-- The tables by their places in the template are all tables, in order. -/
theorem tables_by_place (enough : model.gapTables.length = model.template.gapCount) :
    model.startTable?.toList ++ model.interiorTables ++ model.finishTable?.toList =
      model.gapTables := by
  rw [startTable?, interiorTables, finishTable?]
  have some (gap : .wildcard ∈ model.template.elements) : model.gapTables ≠ [] := by
    apply List.ne_nil_of_length_pos
    rw [enough]
    exact Template.gapCount_pos_of_mem gap
  have first (opens : model.template.startsOpen) :
      ∃ start rest, model.gapTables = start :: rest := by
    obtain ⟨rest, same⟩ := Template.startsOpen_iff.1 opens
    exact List.exists_cons_of_ne_nil (some (by simp [same]))
  have last (closes : model.template.endsOpen) :
      ∃ before finish, model.gapTables = before ++ [finish] := by
    obtain ⟨rest, same⟩ := Template.endsOpen_iff.1 closes
    exact (List.eq_nil_or_concat' _).resolve_left (some (by simp [same]))
  by_cases opens : model.template.startsOpen <;> by_cases closes : model.template.endsOpen
  · -- The first table and the last one are two tables.
    have two := Template.two_le_gapCount opens closes
    rw [← enough] at two
    obtain ⟨before, finish, same⟩ := last closes
    rw [same] at two ⊢
    cases before with
    | nil => simp at two
    | cons start middle =>
      simp only [opens, closes, if_true, List.dropLast_concat, List.getLast?_concat]
      rfl
  · obtain ⟨start, rest, same⟩ := first opens
    simp [opens, closes, same]
  · obtain ⟨before, finish, same⟩ := last closes
    simp [opens, closes, same]
  · simp [opens, closes]

/-- There is one table for each wildcard, made of what fills it, and none has two places. -/
structure Tabled (model : TemplateModel) : Prop where
  /-- The table at the beginning, those between literals and the table at the end. -/
  by_place : model.startTable?.toList ++ model.interiorTables ++ model.finishTable?.toList =
    model.gapTables
  one_each : model.gapTables.length = model.template.gapCount
  made_of : model.gapTables =
    (List.range model.template.gapCount).map fun gap =>
      .ofSamples (model.template.fillings model.samples gap)

/-- The samples that are not empty are in the tables, each once in every table, and those of their
    characters that are not in a table are in the literals. -/
structure Balanced (model : TemplateModel) : Prop extends model.Tabled where
  samples_eq : ∀ table ∈ model.gapTables,
    table.totalSamples = (model.samples.filter (· ≠ [])).length
  length_eq : (model.gapTables.map (·.totalLength)).sum +
      (model.samples.filter (· ≠ [])).length * model.template.literalLength =
    ((model.samples.filter (· ≠ [])).map List.length).sum

section Updates

variable [Compiler] {least : SegmentLength} {budget : Nat}

theorem UpToDate.gapTables_eq_map (current : model.UpToDate least budget) :
    model.gapTables = (List.range model.template.gapCount).map fun gap =>
      .ofSamples (model.template.fillings model.samples gap) :=
  current.gapTables_eq.trans (Template.foldl_feed_eq _ _)

theorem UpToDate.tabled (current : model.UpToDate least budget) : model.Tabled := by
  have made_of := current.gapTables_eq_map
  have one_each : model.gapTables.length = model.template.gapCount := by
    rw [made_of, List.length_map, List.length_range]
  exact ⟨tables_by_place one_each, one_each, made_of⟩

theorem UpToDate.balanced (current : model.UpToDate least budget) (checked : model.ChecksCompile)
    (nonempty : model.template.isEmpty = false) : model.Balanced := by
  -- The template fits just the samples that are not empty.
  have filled : model.samples.filter model.template.fits = model.samples.filter (· ≠ []) := by
    refine List.filter_congr fun sample member => ?_
    rw [Bool.eq_iff_iff, current.fits_iff checked nonempty member, decide_eq_true_iff]
  refine ⟨current.tabled, ?_, ?_⟩
  · intro table member
    rw [current.gapTables_eq_map] at member
    obtain ⟨gap, inside, rfl⟩ := List.mem_map.1 member
    rw [TransitionTable.totalSamples_ofSamples,
      Template.length_fillings _ (List.mem_range.1 inside), List.countP_eq_length_filter, filled]
  · have enough : (List.replicate model.template.gapCount TransitionTable.empty).length =
        model.template.gapCount :=
      List.length_replicate
    have whole := Template.sum_totalLength_foldl_feed enough model.samples
    have nothing : ((List.replicate model.template.gapCount TransitionTable.empty).map
        (·.totalLength)).sum = 0 := by
      simp [TransitionTable.empty]
    rwa [← current.gapTables_eq, filled, nothing, Nat.zero_add] at whole

/-- After any updates of a model there is one table for each wildcard.  If the checks compile, each
    of them has every sample that is not empty, and together with the literals they have all the
    characters of these samples.  Without a template there are no tables. -/
theorem run_balanced {samples : List Text} {least : Nat}
    (built : ofSamples samples least budget = .ok model) (updates : List Update) :
    (model.run updates).Tabled ∧
    ((model.run updates).ChecksCompile → (model.run updates).template.isEmpty = false →
      (model.run updates).Balanced) ∧
    ((model.run updates).template.isEmpty → (model.run updates).gapTables = [] ∧
      (model.run updates).startTable? = none ∧ (model.run updates).interiorTables = [] ∧
      (model.run updates).finishTable? = none) := by
  obtain ⟨two_le, current, -⟩ := ofSamples_eq_ok_iff.mp built
  have kept := current.run updates
  refine ⟨kept.tabled, kept.balanced, fun nothing => ?_⟩
  have none : (model.run updates).gapTables = [] := by
    rw [kept.gapTables_eq_map, Template.gapCount_eq_zero nothing]
    rfl
  simp [startTable?, interiorTables, finishTable?, none]

end Updates

/-- There is a gap at each end, one of the samples is empty and another arrives twice. -/
theorem run_balanced_with_empty_sample :
    ∃ model updates,
      ofSamples ["1 id=a".toList, "22 id=bb".toList, []] 2 Template.standardBudget = .ok model ∧
      updates = [.add ["3 id=c".toList], .remove ["absent".toList], .add ["22 id=bb".toList]] ∧
      (model.run updates).template.isEmpty = false ∧
      (model.run updates).Balanced ∧
      (model.run updates).startTable? = some (.ofSamples ["1".toList, "22".toList, "3".toList,
        "22".toList]) ∧
      (model.run updates).finishTable? = some (.ofSamples ["a".toList, "bb".toList, "c".toList,
        "bb".toList]) ∧
      (model.run updates).samples.length = 5 := by
  have built : ofSamples ["1 id=a".toList, "22 id=bb".toList, []] 2 Template.standardBudget =
      .ok {
        segmentLength := .shortest
        budget := Template.standardBudget
        template := .ofElements [.wildcard, .literal " id=".toList, .wildcard]
        gapTables := [.ofSamples ["1".toList, "22".toList], .ofSamples ["a".toList, "bb".toList]]
        arrivals := .ofSamples ["1 id=a".toList, "22 id=bb".toList, []]
        longest := 8 } := by
    decide +kernel
  refine ⟨_, _, built, rfl, ?nonempty,
    (run_balanced built _).2.1 (checksCompile _) ?nonempty, ?_⟩
  · decide +kernel
  · decide +kernel

end TemplateModel

end MailSort
