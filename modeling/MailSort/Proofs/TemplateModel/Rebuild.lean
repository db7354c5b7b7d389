import MailSort.Proofs.ArrivalLog.Tail
import MailSort.Proofs.ArrivalLog.Withdrawal
import MailSort.Proofs.Outcome
import MailSort.TemplateModel

/-! # Updates and building again

A template model that takes samples in as they come only feeds its tables; all other updates
build it again.  `TemplateModel.UpToDate` is the invariant behind this: template, tables and
longest sample are what the samples in the order of their arrival make them.  Every update
keeps it, so after any run of updates the model is the one that is built from scratch out of
its samples.
-/

namespace MailSort

theorem Text.longest_append (atLeast : Nat) (texts more : List Text) :
    Text.longest atLeast (texts ++ more) = Text.longest (Text.longest atLeast texts) more :=
  List.foldl_append

namespace Template

variable [Compiler] {least : SegmentLength} {budget : Nat} {template : Template}
  {samples more : List Text}

theorem extend_of_allows {sample : Text} (allowed : template.allows sample) :
    extend least budget template sample = .ok template :=
  if_pos allowed

theorem foldlM_extend_of_allows (allowed : more.all template.allows) :
    more.foldlM (extend least budget) template = .ok template := by
  induction more with
  | nil => rfl
  | cons sample more ih =>
    simp only [List.all_cons, Bool.and_eq_true] at allowed
    rw [List.foldlM_cons, extend_of_allows allowed.1]
    exact ih allowed.2

/-- As soon as there are two samples, further ones only extend the template. -/
theorem ofSamples_append (two : 2 ≤ samples.length) (more : List Text) :
    ofSamples least budget (samples ++ more) =
      (ofSamples least budget samples >>= fun template =>
        more.foldlM (extend least budget) template) := by
  match samples, two with
  | first :: second :: rest, _ =>
    simp only [ofSamples, List.cons_append, List.foldlM_append, bind_assoc]

theorem exists_of_ofSamples_concat {sample : Text} (two : 2 ≤ samples.length)
    (made : ofSamples least budget (samples ++ [sample]) = .ok template) :
    ∃ earlier, ofSamples least budget samples = .ok earlier ∧
      extend least budget earlier sample = .ok template := by
  rw [ofSamples_append two, Outcome.bind_eq_ok_iff] at made
  obtain ⟨earlier, made, extended⟩ := made
  rw [List.foldlM_cons, Outcome.bind_eq_ok_iff] at extended
  obtain ⟨next, step, done⟩ := extended
  cases done
  exact ⟨earlier, made, step⟩

end Template

namespace TemplateModel

variable {least : SegmentLength} {budget : Nat} {log : ArrivalLog} {model next : TemplateModel}
  {samples : List Text}

theorem fresh_iff :
    model.freshness samples = .fresh ↔
      2 ≤ model.samples.length ∧ model.arrivals.acceptsAtTail samples ∧
        samples.all model.template.allows := by
  simp [freshness]

section Updates

variable [Compiler]

/-- The model is what its samples make it, in the order of their arrival. -/
structure UpToDate (least : SegmentLength) (budget : Nat) (model : TemplateModel) : Prop where
  segmentLength_eq : model.segmentLength = least
  budget_eq : model.budget = budget
  template_eq : Template.ofSamples least budget model.samples = .ok model.template
  gapTables_eq : model.gapTables =
    model.samples.foldl model.template.feed (List.replicate model.template.gapCount .empty)
  longest_eq : model.longest = Text.longest 0 model.samples

/-- It takes two samples to make a template. -/
theorem UpToDate.template_of_short (current : model.UpToDate least budget)
    (short : model.samples.length < 2) : model.template = .empty := by
  have made := current.template_eq
  match samples_eq : model.samples with
  | [] | [_] =>
    rw [samples_eq] at made
    exact (Except.ok.inj made).symm
  | _ :: _ :: _ =>
    rw [samples_eq, List.length_cons, List.length_cons] at short
    omega

theorem build_eq_ok_iff :
    build log least budget = .ok model ↔ model.UpToDate least budget ∧ model.arrivals = log := by
  simp only [build, Outcome.bind_eq_ok_iff, Outcome.mapError_eq_ok_iff, Outcome.pure_eq_ok_iff]
  constructor
  · rintro ⟨template, made, rfl⟩
    exact ⟨⟨rfl, rfl, made, rfl, rfl⟩, rfl⟩
  · rintro ⟨current, rfl⟩
    refine ⟨model.template, current.template_eq, ?_⟩
    obtain ⟨rfl, rfl, -, tables, longest⟩ := current
    rw [samples] at tables longest
    rw [← tables, ← longest]

theorem ofSamples_eq_ok_iff {least : Nat} :
    ofSamples samples least budget = .ok model ↔
      ∃ two_le : 2 ≤ least,
        model.UpToDate ⟨least, two_le⟩ budget ∧ model.arrivals = .ofSamples samples := by
  by_cases two_le : 2 ≤ least
  · simp only [ofSamples, SegmentLength.ofNat?, two_le, ↓reduceDIte, exists_true_left]
    exact build_eq_ok_iff
  · simp [ofSamples, SegmentLength.ofNat?, two_le, Outcome.bind_eq_ok_iff]

/-! ## Updates -/

inductive Update where
  | add (samples : List Text)
  | remove (samples : List Text)

def update (model : TemplateModel) : Update → Except Fault TemplateModel
  | .add samples => model.add samples
  | .remove samples => model.remove samples

/-- The model after an update.  If the update fails, it is the same as before. -/
def after (model : TemplateModel) (update : Update) : TemplateModel :=
  (model.update update).toOption.getD model

def run (model : TemplateModel) (updates : List Update) : TemplateModel :=
  updates.foldl after model

/-- Samples at the end that fit leave the template as it is, so their gaps only have to be
    added to the tables. -/
theorem UpToDate.absorb (current : model.UpToDate least budget)
    (fresh : model.freshness samples = .fresh) :
    UpToDate least budget { model with
      gapTables := samples.foldl model.template.feed model.gapTables
      arrivals := model.arrivals.acceptAll samples
      longest := Text.longest model.longest samples } := by
  obtain ⟨two, tail, allowed⟩ := fresh_iff.mp fresh
  have appended : (model.arrivals.acceptAll samples).samples = model.samples ++ samples :=
    ArrivalLog.samples_acceptAll_of_tail tail
  -- All that the model holds is a fold over its samples, and each fold goes on where it stopped.
  refine ⟨current.segmentLength_eq, current.budget_eq, ?_, ?_, ?_⟩
  · calc Template.ofSamples least budget (model.arrivals.acceptAll samples).samples
      _ = (Template.ofSamples least budget model.samples >>= fun template =>
            samples.foldlM (Template.extend least budget) template) := by
          rw [appended, Template.ofSamples_append two]
      _ = .ok model.template := by
          rw [current.template_eq]
          exact Template.foldlM_extend_of_allows allowed
  · calc samples.foldl model.template.feed model.gapTables
      _ = (model.samples ++ samples).foldl model.template.feed
            (List.replicate model.template.gapCount .empty) := by
          rw [List.foldl_append, ← current.gapTables_eq]
      _ = (model.arrivals.acceptAll samples).samples.foldl model.template.feed
            (List.replicate model.template.gapCount .empty) := by
          rw [appended]
  · calc Text.longest model.longest samples
      _ = Text.longest 0 (model.samples ++ samples) := by
          rw [Text.longest_append, ← current.longest_eq]
      _ = Text.longest 0 (model.arrivals.acceptAll samples).samples := by
          rw [appended]

theorem UpToDate.add (current : model.UpToDate least budget)
    (added : model.add samples = .ok next) : next.UpToDate least budget := by
  rw [TemplateModel.add] at added
  split at added
  · cases added
    exact current
  · split at added
    · next fresh =>
      cases added
      exact current.absorb fresh
    -- A stale model is built again, whatever it held before.
    · rw [current.segmentLength_eq, current.budget_eq] at added
      exact (build_eq_ok_iff.mp added).1

theorem UpToDate.remove (current : model.UpToDate least budget)
    (removed : model.remove samples = .ok next) : next.UpToDate least budget := by
  rw [TemplateModel.remove] at removed
  split at removed
  · rw [current.segmentLength_eq, current.budget_eq] at removed
    exact (build_eq_ok_iff.mp removed).1
  · cases removed
    exact current

theorem UpToDate.after (current : model.UpToDate least budget) (update : Update) :
    (model.after update).UpToDate least budget := by
  unfold TemplateModel.after
  cases outcome : model.update update with
  | error fault => exact current
  | ok next =>
    cases update with
    | add samples => exact current.add outcome
    | remove samples => exact current.remove outcome

/-- Updates keep a model up to date, in any order and whether they succeed or not. -/
theorem UpToDate.run (current : model.UpToDate least budget) (updates : List Update) :
    (model.run updates).UpToDate least budget := by
  induction updates generalizing model with
  | nil => exact current
  | cons update updates ih => exact ih (current.after update)

/-! ## Arrivals -/

/-- Samples that are added leave nothing behind but their arrival. -/
theorem add_eq_build (built : build log least budget = .ok model) (samples : List Text) :
    model.add samples = build (log.acceptAll samples) least budget := by
  obtain ⟨current, rfl⟩ := build_eq_ok_iff.mp built
  rw [TemplateModel.add]
  split
  · next nothing =>
    rw [nothing]
    exact built.symm
  · split
    · next fresh => exact (build_eq_ok_iff.mpr ⟨current.absorb fresh, rfl⟩).symm
    · rw [current.segmentLength_eq, current.budget_eq]

/-- Samples that are removed leave nothing behind but their withdrawal. -/
theorem remove_eq_build (built : build log least budget = .ok model) (samples : List Text) :
    model.remove samples = build (log.withdrawAll samples) least budget := by
  obtain ⟨current, rfl⟩ := build_eq_ok_iff.mp built
  rw [TemplateModel.remove]
  split
  · rw [current.segmentLength_eq, current.budget_eq]
  · next nowhere =>
    rw [List.any_eq_true, not_exists] at nowhere
    have absent : ∀ sample ∈ samples, sample ∉ model.arrivals.samples := by
      intro sample member present
      exact nowhere sample ⟨member, ArrivalLog.contains_iff.mpr present⟩
    rw [ArrivalLog.withdrawAll_eq_self absent]
    exact built.symm

/-- Nothing but its arrivals tells a model from one with other withdrawals. -/
theorem build_of_samples_eq (built : build log least budget = .ok model) {other : ArrivalLog}
    (same : other.samples = log.samples) :
    build other least budget = .ok { model with arrivals := other } := by
  obtain ⟨current, rfl⟩ := build_eq_ok_iff.mp built
  have samples_eq : other.samples = model.samples := same
  refine build_eq_ok_iff.mpr ⟨⟨current.segmentLength_eq, current.budget_eq, ?_, ?_, ?_⟩, rfl⟩
  · show Template.ofSamples least budget other.samples = _
    rw [samples_eq, current.template_eq]
  · show model.gapTables = other.samples.foldl _ _
    rw [samples_eq]
    exact current.gapTables_eq
  · show model.longest = Text.longest 0 other.samples
    rw [samples_eq, current.longest_eq]

/-- Samples have a model only if those that arrived first have one. -/
theorem exists_build_of_concat {sample : Text}
    (built : build (.ofSamples (samples ++ [sample])) least budget = .ok model) :
    ∃ earlier, build (.ofSamples samples) least budget = .ok earlier := by
  simp only [build, Outcome.bind_eq_ok_iff, Outcome.mapError_eq_ok_iff,
    Outcome.pure_eq_ok_iff] at built ⊢
  obtain ⟨template, made, -⟩ := built
  suffices ∃ earlier, Template.ofSamples least budget samples = .ok earlier by
    obtain ⟨earlier, made⟩ := this
    exact ⟨_, earlier, made, rfl⟩
  match samples with
  | [] | [_] => exact ⟨.empty, rfl⟩
  | first :: second :: rest =>
    have two : 2 ≤ (first :: second :: rest).length := by simp
    obtain ⟨earlier, made, -⟩ := Template.exists_of_ofSamples_concat two made
    exact ⟨earlier, made⟩

/-- After any updates of a model, building a model from its samples succeeds, and the result
    differs at most in the withdrawals that it can undo. -/
theorem ofSamples_run {least : Nat} (built : ofSamples samples least budget = .ok model)
    (updates : List Update) :
    ofSamples (model.run updates).samples least budget =
      .ok { model.run updates with arrivals := .ofSamples (model.run updates).samples } := by
  obtain ⟨two_le, current, -⟩ := ofSamples_eq_ok_iff.mp built
  have kept := current.run updates
  -- The withdrawals are the one thing that the invariant does not look at.
  refine ofSamples_eq_ok_iff.mpr ⟨two_le, ⟨?_, ?_, ?_, ?_, ?_⟩, rfl⟩
  · exact kept.segmentLength_eq
  · exact kept.budget_eq
  · exact kept.template_eq
  · exact kept.gapTables_eq
  · exact kept.longest_eq

end Updates

/-- A sample that is removed and returns to its place in the middle, one that only feeds the
    table, and one that makes the template more general. -/
theorem ofSamples_run_returning :
    ∃ model updates,
      ofSamples ["id=1;ok".toList, "id=22;ok".toList, "id=3;ok".toList] 2
        Template.standardBudget = .ok model ∧
      updates = [.remove ["id=22;ok".toList], .add ["id=22;ok".toList], .add ["id=4;ok".toList],
        .add ["id=5".toList]] ∧
      (model.run updates).samples = ["id=1;ok".toList, "id=22;ok".toList, "id=3;ok".toList,
        "id=4;ok".toList, "id=5".toList] ∧
      ofSamples (model.run updates).samples 2 Template.standardBudget =
        .ok { model.run updates with
          arrivals := .ofSamples (model.run updates).samples } := by
  have built : ofSamples ["id=1;ok".toList, "id=22;ok".toList, "id=3;ok".toList] 2
      Template.standardBudget = .ok {
        segmentLength := .shortest
        budget := Template.standardBudget
        template := .ofElements [.literal "id=".toList, .wildcard, .literal ";ok".toList]
        gapTables := [.ofSamples ["1".toList, "22".toList, "3".toList]]
        arrivals := .ofSamples ["id=1;ok".toList, "id=22;ok".toList, "id=3;ok".toList]
        longest := 8 } := by
    decide +kernel
  exact ⟨_, _, built, rfl, by decide +kernel, ofSamples_run built _⟩

end TemplateModel

end MailSort
