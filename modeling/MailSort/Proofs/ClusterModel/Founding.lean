import MailSort.Proofs.Alignment.SharedLength
import MailSort.Proofs.ClusterModel.Placement
import MailSort.Proofs.Score.Comparison

/-! # The template of a cluster

The second sample of a cluster settles its template.  It has joined only because the two share
enough, and whatever joins later already fits what they share, so that nothing has to be made
more general (`Founded`).  This takes limits that a sample without anything in common with a
cluster cannot meet: a confidence above 0 and a share that is not negative.
-/

namespace MailSort

namespace Template

variable [Compiler] {least : SegmentLength} {budget : Nat} {template : Template}
  {first second : Text} {rest : List Text}

theorem eq_common_of_ofSamples
    (made : ofSamples least budget (first :: second :: rest) = .ok template)
    (fitted : ∀ sample ∈ rest, (common first second least).fits sample) :
    template = common first second least := by
  have allowed : rest.all (common first second least).allows := by
    rw [List.all_eq_true]
    intro sample member
    simp [allows, fitted sample member]
  simp only [ofSamples, Outcome.bind_eq_ok_iff] at made
  obtain ⟨_, _, extended⟩ := made
  rw [foldlM_extend_of_allows allowed] at extended
  cases extended
  rfl

end Template

variable {α : Type} [Score α] {limits : ClusterLimits α} {least : SegmentLength}
  {first second sample : Text} {rest : List Text}

/-- What the first two samples of a group share fits the whole group, and it is a large enough
    part of each sample but the first. -/
structure Founded (limits : ClusterLimits α) (least : SegmentLength) (first second : Text)
    (rest : List Text) : Prop where
  nonempty : (Template.common first second least).isEmpty = false
  fits : ∀ sample ∈ first :: second :: rest, (Template.common first second least).fits sample
  share : ∀ sample ∈ second :: rest, limits.minEquality <
    Score.ratio (Template.common first second least).literalLength sample.length

theorem Founded.concat (founded : Founded limits least first second rest)
    (fitted : (Template.common first second least).fits sample)
    (enough : limits.minEquality <
      Score.ratio (Template.common first second least).literalLength sample.length) :
    Founded limits least first second (rest ++ [sample]) where
  nonempty := founded.nonempty
  fits := by
    intro other member
    rw [← List.cons_append, ← List.cons_append] at member
    obtain old | new := List.mem_append.1 member
    · exact founded.fits other old
    · rwa [List.mem_singleton.1 new]
  share := by
    intro other member
    rw [← List.cons_append] at member
    obtain old | new := List.mem_append.1 member
    · exact founded.share other old
    · rwa [List.mem_singleton.1 new]

theorem Founded.template_eq [Compiler] {cluster : TemplateModel}
    (founded : Founded limits least first second rest)
    (built : Bucket.cluster limits least (first :: second :: rest) = .ok cluster) :
    cluster.template = Template.common first second least := by
  obtain ⟨current, plain⟩ := TemplateModel.build_eq_ok_iff.1 built
  have made := current.template_eq
  rw [TemplateModel.samples, plain] at made
  refine Template.eq_common_of_ofSamples made fun sample member => ?_
  exact founded.fits sample (by simp [member])

/-! ## Assessments -/

namespace TemplateModel

variable {home : TemplateModel} {candidate : Text}

theorem assess_of_single {only : Text} (single : home.samples = [only]) (candidate : Text) :
    (home.assess candidate : Assessment α) =
      { confidence := (EditScript.between only candidate).coverage candidate
        mergedLength :=
          if Score.zero < ((EditScript.between only candidate).coverage candidate : α) then
            some ((EditScript.between only candidate).sharedLength home.segmentLength.chars)
          else none } := by
  rw [assess, single]

theorem assess_of_others (others : ∀ only, home.samples ≠ [only]) (candidate : Text) :
    (home.assess candidate : Assessment α) =
      { confidence := home.confidence candidate
        mergedLength :=
          if Score.zero < (home.confidence candidate : α) then some home.template.literalLength
          else none } := by
  unfold assess
  split
  · next only single => exact absurd single (others only)
  · rfl

theorem confidence_of_no_samples (nothing : home.template.isEmpty) (none : home.samples = []) :
    home.confidence candidate = (Score.zero : α) := by
  rw [confidence, if_pos nothing, coverage, none]
  rfl

theorem confidence_of_not_fits (nonempty : home.template.isEmpty = false)
    (unfit : home.template.fits candidate = false) :
    home.confidence candidate = (Score.zero : α) := by
  have gapless : home.template.gaps? candidate = none := by
    simpa [Template.fits] using unfit
  rw [confidence, nonempty, gapless]
  rfl

end TemplateModel

/-! ## Acceptance -/

namespace Match

variable [Compiler] {found : Match α}

theorem accepts_iff :
    found.accepts limits sample ↔
      limits.minConfidence ≤ found.assessment.confidence ∧
        limits.minEquality < found.mergedShare sample :=
  decide_eq_true_iff

/-- For a sample that is accepted, the share of literals is that of the assessment. -/
theorem share_of_accepts {merged : Nat} (accepted : found.accepts limits sample)
    (some : sample ≠ []) (known : found.assessment.mergedLength = Option.some merged) :
    limits.minEquality < Score.ratio merged sample.length := by
  have share := (accepts_iff.1 accepted).2
  rwa [mergedShare, if_neg some, known] at share

variable [Score.Ordered α]

theorem confidence_pos (confident : Score.zero < limits.minConfidence)
    (accepted : found.accepts limits sample) : Score.zero < found.assessment.confidence :=
  Score.Ordered.lt_of_lt_of_le confident (accepts_iff.1 accepted).1

theorem confidence_ne_zero (confident : Score.zero < limits.minConfidence)
    (accepted : found.accepts limits sample) : found.assessment.confidence ≠ Score.zero := by
  intro nothing
  have reached := (accepts_iff.1 accepted).1
  rw [nothing] at reached
  exact Score.Ordered.not_lt_of_le reached confident

end Match

section Joining

variable [Compiler] [Score.Ordered α] {home : TemplateModel} {index : Nat}

theorem samples_ne_nil_of_accepts (confident : Score.zero < limits.minConfidence)
    (built : Bucket.cluster limits least home.samples = .ok home)
    (accepted : Match.accepts limits sample ⟨index, home, home.assess sample⟩) :
    home.samples ≠ [] := by
  intro none
  have others : ∀ only, home.samples ≠ [only] := by simp [none]
  have nothing : home.template.isEmpty := by
    rw [(TemplateModel.build_eq_ok_iff.1 built).1.template_of_short (by simp [none])]
    rfl
  have worth := Match.confidence_ne_zero confident accepted
  rw [TemplateModel.assess_of_others others] at worth
  exact worth (TemplateModel.confidence_of_no_samples nothing none)

/-- The second sample of a cluster founds it. -/
theorem founded_of_accepts_second (confident : Score.zero < limits.minConfidence)
    (nonneg : Score.zero ≤ limits.minEquality)
    (built : Bucket.cluster limits least home.samples = .ok home) {only : Text}
    (single : home.samples = [only])
    (accepted : Match.accepts limits sample ⟨index, home, home.assess sample⟩) :
    Founded limits least only sample [] := by
  have length : home.segmentLength = least :=
    (TemplateModel.build_eq_ok_iff.1 built).1.segmentLength_eq
  rw [TemplateModel.assess_of_single single, length] at accepted
  have positive := Match.confidence_pos confident accepted
  -- The empty sample is covered by nothing.
  have some : sample ≠ [] := by
    rintro rfl
    have uncovered : (EditScript.between only []).coverage [] = (Score.zero : α) := if_pos rfl
    exact Match.confidence_ne_zero confident accepted uncovered
  have share := Match.share_of_accepts accepted some (if_pos positive)
  rw [← Template.literalLength_common] at share
  have nonempty : (Template.common only sample least).isEmpty = false := by
    rw [Bool.eq_false_iff]
    intro nothing
    rw [Template.literalLength_eq_zero nothing] at share
    exact Score.Ordered.not_lt_ratio_zero sample.length nonneg share
  obtain ⟨fitsFirst, fitsSecond⟩ := Template.fits_common nonempty
  constructor
  · exact nonempty
  · simp [fitsFirst, fitsSecond]
  · simpa using share

/-- Every further sample fits what the first two share. -/
theorem Founded.join (founded : Founded limits least first second rest)
    (confident : Score.zero < limits.minConfidence)
    (built : Bucket.cluster limits least home.samples = .ok home)
    (samples_eq : home.samples = first :: second :: rest)
    (accepted : Match.accepts limits sample ⟨index, home, home.assess sample⟩) :
    Founded limits least first second (rest ++ [sample]) := by
  have others : ∀ only, home.samples ≠ [only] := by simp [samples_eq]
  have template_eq : home.template = Template.common first second least := by
    rw [samples_eq] at built
    exact founded.template_eq built
  rw [TemplateModel.assess_of_others others] at accepted
  have positive := Match.confidence_pos confident accepted
  have fitted : home.template.fits sample := by
    by_contra unfit
    rw [Bool.not_eq_true] at unfit
    refine Match.confidence_ne_zero confident accepted ?_
    exact TemplateModel.confidence_of_not_fits (template_eq ▸ founded.nonempty) unfit
  have some : sample ≠ [] := by
    rintro rfl
    rw [Template.not_fits_nil] at fitted
    contradiction
  have share := Match.share_of_accepts accepted some (if_pos positive)
  rw [template_eq] at fitted share
  exact founded.concat fitted share

end Joining

/-! ## Buckets -/

namespace Bucket

variable [Compiler] {bucket next : Bucket} {samples : List Text}

structure HasFounders (limits : ClusterLimits α) (bucket : Bucket) : Prop where
  built : bucket.Built limits
  founded : ∀ own ∈ bucket.clusters, ∀ first second rest,
    own.samples = first :: second :: rest → Founded limits bucket.segmentLength first second rest

theorem hasFounders_of_empty (made : empty limits least = .ok bucket) :
    bucket.HasFounders limits := by
  refine ⟨built_of_empty made, ?_⟩
  simp only [empty, Outcome.bind_eq_ok_iff, Outcome.pure_eq_ok_iff] at made
  obtain ⟨only, made, rfl⟩ := made
  intro own member first second rest samples_eq
  rw [List.mem_singleton.1 member, TemplateModel.samples_of_build made] at samples_eq
  contradiction

variable [Score.Ordered α]

theorem HasFounders.takes (confident : Score.zero < limits.minConfidence)
    (nonneg : Score.zero ≤ limits.minEquality) (kept : bucket.HasFounders limits)
    (taken : Takes limits bucket sample next) : next.HasFounders limits := by
  refine ⟨kept.built.takes taken, ?_⟩
  intro own member first second rest samples_eq
  cases taken with
  | founds vacant made =>
    rw [List.mem_singleton.1 member, TemplateModel.samples_of_build made] at samples_eq
    simp at samples_eq
  | @joins before after home joined occupied place accepted added =>
    have inside : home ∈ bucket.clusters := by simp [place]
    rw [List.mem_append, List.mem_cons] at member
    obtain earlier | rfl | later := member
    · exact kept.founded own (by simp [place, earlier]) first second rest samples_eq
    · have built := kept.built home inside
      rw [kept.built.samples_join inside added] at samples_eq
      -- The joined cluster has one sample more than the cluster it was.
      match held : home.samples with
      | [] => exact absurd held (samples_ne_nil_of_accepts confident built accepted)
      | [only] =>
        rw [held] at samples_eq
        obtain ⟨rfl, rfl, rfl⟩ : only = first ∧ sample = second ∧ [] = rest := by
          simpa using samples_eq
        exact founded_of_accepts_second confident nonneg built held accepted
      | first' :: second' :: others =>
        rw [held] at samples_eq
        obtain ⟨rfl, rfl, rfl⟩ : first' = first ∧ second' = second ∧ others ++ [sample] = rest := by
          simpa using samples_eq
        have founded := kept.founded home inside first' second' others held
        exact founded.join confident built held accepted
    · exact kept.founded own (by simp [place, later]) first second rest samples_eq
  | starts occupied made =>
    obtain old | new := List.mem_append.1 member
    · exact kept.founded own old first second rest samples_eq
    · rw [List.mem_singleton.1 new, TemplateModel.samples_of_build made] at samples_eq
      simp at samples_eq

end Bucket

namespace ClusterModel

section Updates

variable [Compiler] [Score.Ordered α] {model : ClusterModel α} {samples : List Text}

theorem Clustered.hasFounders (current : model.Clustered limits)
    (confident : Score.zero < limits.minConfidence) (nonneg : Score.zero ≤ limits.minEquality)
    {bucket : Bucket} (member : bucket ∈ model.buckets) : bucket.HasFounders limits :=
  current.of_takes (P := fun _ bucket => bucket.HasFounders limits)
    Bucket.hasFounders_of_empty (Bucket.HasFounders.takes confident nonneg) member

/-- After any updates of a model whose limits no stranger can meet, a cluster with two samples or
    more has the template of its first two samples.  The template is not empty, it fits all samples
    of the cluster, and its literals are more than the demanded share of each sample but the
    first. -/
theorem run_template_eq_common (built : ofSamples limits samples = .ok model)
    (updates : List Update) (confident : Score.zero < limits.minConfidence)
    (nonneg : Score.zero ≤ limits.minEquality) :
    ∀ bucket ∈ (model.run updates).buckets, ∀ cluster ∈ bucket.clusters, ∀ first second rest,
      cluster.samples = first :: second :: rest →
        cluster.template = Template.common first second bucket.segmentLength ∧
        cluster.template.isEmpty = false ∧
        (∀ sample ∈ cluster.samples, cluster.template.fits sample) ∧
        ∀ sample ∈ second :: rest,
          limits.minEquality < Score.ratio cluster.template.literalLength sample.length := by
  intro bucket member cluster inside first second rest samples_eq
  have current := (build_eq_ok_iff.1 built).1.run updates
  have kept := current.hasFounders confident nonneg member
  have founded := kept.founded cluster inside first second rest samples_eq
  have whole := kept.built cluster inside
  rw [samples_eq] at whole
  rw [founded.template_eq whole, samples_eq]
  exact ⟨rfl, founded.nonempty, founded.fits, founded.share⟩

end Updates

/-- With floating-point scores, the third sample joins a cluster that two others have founded. -/
theorem run_template_eq_common_float :
    ∃ (model : ClusterModel Float) (updates : List Update),
      ofSamples ⟨[2, 4], 0.5, 0.02, Template.standardBudget⟩ [] = .ok model ∧
      updates = [.addAll ["id=1;ok".toList, "hello".toList, "id=22;ok".toList, "id=1;ok".toList],
        .remove "hello".toList] ∧
      (Score.zero : Float) < 0.5 ∧ (Score.zero : Float) ≤ 0.02 ∧
      ((model.run updates).buckets.map fun bucket => bucket.clusters.map TemplateModel.samples) =
        [[["id=1;ok".toList, "id=22;ok".toList, "id=1;ok".toList]],
          [["id=1;ok".toList, "id=1;ok".toList], ["id=22;ok".toList]]] ∧
      ∀ bucket ∈ (model.run updates).buckets, ∀ cluster ∈ bucket.clusters, ∀ first second rest,
        cluster.samples = first :: second :: rest →
          cluster.template = Template.common first second bucket.segmentLength ∧
          cluster.template.isEmpty = false ∧
          (∀ sample ∈ cluster.samples, cluster.template.fits sample) ∧
          ∀ sample ∈ second :: rest,
            0.02 < (Score.ratio cluster.template.literalLength sample.length : Float) := by
  have built : ofSamples (⟨[2, 4], 0.5, 0.02, Template.standardBudget⟩ : ClusterLimits Float) [] =
      .ok ⟨⟨[2, 4], 0.5, 0.02, Template.standardBudget⟩,
        [⟨⟨2, by decide⟩,
            [⟨⟨2, by decide⟩, Template.standardBudget, .empty, [], .ofSamples [], 0⟩]⟩,
          ⟨⟨4, by decide⟩,
            [⟨⟨4, by decide⟩, Template.standardBudget, .empty, [], .ofSamples [], 0⟩]⟩],
        .ofSamples []⟩ := by
    decide +kernel
  have confident : (Score.zero : Float) < 0.5 := by decide +kernel
  have nonneg : (Score.zero : Float) ≤ 0.02 := by decide +kernel
  exact ⟨_, _, built, rfl, confident, nonneg, by decide +kernel,
    run_template_eq_common built _ confident nonneg⟩

end ClusterModel

end MailSort
