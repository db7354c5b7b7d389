import MailSort.Proofs.ClusterModel.Confidence
import MailSort.Proofs.TemplateModel.Dilution

/-! # Samples that dilute a cluster model

A sample that is added to a cluster model may become less typical of it.  That takes a cluster it
resembled most, and it is the addition that has changed the cluster (`ClusterModel.Dilutes`).  A
second sample turns the shares that it has in common with the first into probabilities, and a
further sample that does not go on uniformly changes these; what else there is in the model stays
as it was, unless the sample goes back to an earlier place and everything is clustered anew.
-/

namespace MailSort

namespace Bucket

variable [Compiler] {limits : ClusterLimits Rat} {bucket next : Bucket}
  {home joined : TemplateModel} {sample : Text} {least : SegmentLength} {budget : Nat}

/-! ## One cluster -/

/-- A cluster of two samples or more does not get less confident of a sample that joins it and goes
    on uniformly in its gaps. -/
theorem clusterConfidence_le_of_join (current : home.UpToDate least budget)
    (after : joined.UpToDate least budget) (two : 2 ≤ home.samples.length)
    (grown : joined.samples = home.samples ++ [sample])
    (uniform : home.template.FillsUniformly sample) :
    (clusterConfidence sample home : Rat) ≤ clusterConfidence sample joined := by
  have several : ∀ only, home.samples ≠ [only] := by
    intro only single
    simp [single] at two
  have several' : ∀ only, joined.samples ≠ [only] := by
    intro only single
    have length_eq := congrArg List.length (grown.symm.trans single)
    rw [List.length_append, List.length_singleton, List.length_singleton] at length_eq
    omega
  by_cases none : sample = []
  · rw [clusterConfidence, if_pos none]
    exact (clusterConfidence_bounds sample joined).1
  by_cases typical : (0 : Rat) < home.confidence sample
  · obtain ⟨template_eq, grows⟩ := current.confidence_le after two grown typical uniform
    rw [clusterConfidence_of_others several none typical,
      clusterConfidence_of_others several' none (typical.trans_le grows), template_eq]
    exact blend_mono _ _ grows
  · rw [clusterConfidence_of_untypical]
    · exact (clusterConfidence_bounds sample joined).1
    · rwa [TemplateModel.assess_of_others several]

/-! ## One bucket -/

/-- A cluster is still there after a sample was taken in, unless the sample has joined it. -/
theorem Takes.mem_or_joins (current : ∀ home ∈ bucket.clusters, home.UpToDate least budget)
    (taken : Takes limits bucket sample next) (member : home ∈ bucket.clusters)
    (typical : (0 : Rat) < clusterConfidence sample home) :
    home ∈ next.clusters ∨ ∃ joined ∈ next.clusters, home.add [sample] = .ok joined := by
  cases taken with
  | founds vacant made =>
    -- The cluster of a bucket without samples resembles nothing.
    have alone := isEmpty_iff.1 vacant
    have held : home.samples = [] := by
      have listed : home.samples ∈ bucket.groups := List.mem_map_of_mem member
      rwa [alone, List.mem_singleton] at listed
    rw [clusterConfidence_of_no_samples (current home member) held] at typical
    exact absurd typical (lt_irrefl 0)
  | @joins before after other joined occupied place accepted added =>
    rw [place, List.mem_append, List.mem_cons] at member
    obtain earlier | rfl | later := member
    · exact .inl (by simp [earlier])
    · exact .inr ⟨joined, by simp, added⟩
    · exact .inl (by simp [later])
  | starts occupied made => exact .inl (List.mem_append_left _ member)

end Bucket

namespace ClusterModel

open Bucket (clusterConfidence)

/-- How a sample that was added may have become less typical of a cluster model than it was. -/
structure Dilutes (sample : Text) (before after : ClusterModel Rat) : Prop where
  two_le : 2 ≤ sample.length
  /-- The sample has no cluster to itself. -/
  not_alone : ∀ bucket ∈ after.buckets, ∀ home ∈ bucket.clusters, home.samples ≠ [sample]
  /-- There is a cluster that the sample resembled most. -/
  resembled : ∃ bucket ∈ before.buckets, ∃ home ∈ bucket.clusters,
    clusterConfidence sample home = before.confidence sample
  /-- Every such cluster is gone. -/
  gone : ∀ bucket ∈ before.buckets, ∀ home ∈ bucket.clusters,
    clusterConfidence sample home = before.confidence sample →
      ∀ other ∈ after.buckets, home ∉ other.clusters
  /-- If the sample is at the end, it has joined every such cluster, as the second sample or with a
      gap in which it does not go on uniformly. -/
  joined : before.arrivals.acceptsAtTail [sample] →
    ∀ bucket ∈ before.buckets, ∀ home ∈ bucket.clusters,
      clusterConfidence sample home = before.confidence sample →
        (∃ other ∈ after.buckets, ∃ joined ∈ other.clusters,
          joined.samples = home.samples ++ [sample]) ∧
        (home.samples.length = 1 ∨ ¬ home.template.FillsUniformly sample)

variable {before after : ClusterModel Rat} {sample : Text}

theorem exists_most_confident {model : ClusterModel Rat} (positive : 0 < model.confidence sample) :
    ∃ bucket ∈ model.buckets, ∃ home ∈ bucket.clusters,
      clusterConfidence sample home = model.confidence sample := by
  obtain ⟨bucket, member, best⟩ := List.mem_map.1 (Score.highest_mem positive)
  have positive' : 0 < bucket.confidence (α := Rat) sample := by
    rw [best]
    exact positive
  obtain ⟨home, inside, same⟩ := List.mem_map.1 (Score.highest_mem positive')
  exact ⟨bucket, member, home, inside, same.trans best⟩

variable [Compiler] {limits : ClusterLimits Rat}

/-- At the end, every bucket takes the sample in. -/
theorem exists_takes_of_add (tail : before.arrivals.acceptsAtTail [sample])
    (added : before.add sample = .ok after) {bucket : Bucket} (member : bucket ∈ before.buckets) :
    ∃ next ∈ after.buckets, Bucket.Takes before.limits bucket sample next := by
  rw [add, if_pos tail] at added
  simp only [Outcome.bind_eq_ok_iff, Outcome.pure_eq_ok_iff] at added
  obtain ⟨buckets, placed, rfl⟩ := added
  obtain ⟨next, inside, step⟩ := Outcome.exists_mem_of_mapM placed member
  exact ⟨next, inside, Bucket.takes_of_add step⟩

/-- A sample that is added is at least as typical as it was before, or it dilutes the model. -/
theorem Clustered.confidence_le_or_dilutes (current : before.Clustered limits)
    (added : before.add sample = .ok after) :
    before.confidence sample ≤ after.confidence sample ∨ Dilutes sample before after := by
  rw [or_iff_not_imp_left, not_le]
  intro less
  have positive : 0 < before.confidence sample := (after.confidence_nonneg sample).trans_lt less
  -- A shorter sample would not have resembled anything before.
  have two : 2 ≤ sample.length := by
    by_contra short
    rw [current.confidence_of_short (by omega)] at positive
    exact lt_irrefl 0 positive
  -- A cluster that is still there is as confident as it was.
  have gone : ∀ bucket ∈ before.buckets, ∀ home ∈ bucket.clusters,
      clusterConfidence sample home = before.confidence sample →
        ∀ other ∈ after.buckets, home ∉ other.clusters := by
    intro bucket _ home _ best other there inside
    have kept := clusterConfidence_le_confidence there inside sample
    rw [best] at kept
    exact kept.not_gt less
  refine ⟨two, ?_, exists_most_confident positive, gone, ?_⟩
  · intro bucket member home inside alone
    rw [confidence_of_alone member inside alone two] at less
    exact less.not_ge (before.confidence_le_one sample)
  · intro tail bucket member home inside best
    obtain ⟨next, there, taken⟩ := exists_takes_of_add tail added member
    rw [current.limits_eq] at taken
    have typical : (0 : Rat) < clusterConfidence sample home := by rwa [best]
    obtain ⟨joined, held, joins⟩ := (taken.mem_or_joins (fun _ => current.upToDate member) inside
      typical).resolve_left (gone bucket member home inside best next there)
    have grown := (current.partitions member).1.samples_join inside joins
    refine ⟨⟨next, there, joined, held, grown⟩, ?_⟩
    by_contra further
    rw [not_or, not_not] at further
    obtain ⟨several, uniform⟩ := further
    have some : home.samples ≠ [] := by
      intro none
      rw [Bucket.clusterConfidence_of_no_samples (current.upToDate member inside) none] at typical
      exact lt_irrefl 0 typical
    -- With two samples and nothing but uniform gaps it would have become no less confident.
    have two_samples : 2 ≤ home.samples.length := by
      have positive := List.length_pos_iff.2 some
      omega
    have own := current.upToDate member inside
    have grows := Bucket.clusterConfidence_le_of_join own (own.add joins) two_samples grown uniform
    have reached := clusterConfidence_le_confidence there held sample
    rw [best] at grows
    exact (grows.trans reached).not_gt less

end ClusterModel

end MailSort
