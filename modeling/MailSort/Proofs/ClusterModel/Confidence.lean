import MailSort.Proofs.ClusterModel.Partition
import MailSort.Proofs.TemplateModel.Confidence

/-! # Samples are typical of their clusters

Over the rational numbers the confidence in a text is between 0 and 1, and a cluster that is
confident of it at all counts.  So if the checks of the clusters compile, a sample of two characters
or more has a confidence above 0 in every bucket, as it is in one of the clusters.  A cluster that
it has to itself is fully confident.
-/

namespace MailSort

/-! ## One cluster -/

namespace TemplateModel

variable {home : TemplateModel} {candidate : Text}

/-- What a text would leave of the template is known just if it is typical at all. -/
theorem isSome_mergedLength :
    (home.assess candidate : Assessment Rat).mergedLength.isSome ↔
      (0 : Rat) < (home.assess candidate).confidence := by
  unfold assess
  split <;> exact Option.isSome_ite

theorem exists_mergedLength (typical : (0 : Rat) < (home.assess candidate).confidence) :
    ∃ merged, (home.assess candidate : Assessment Rat).mergedLength = some merged :=
  Option.isSome_iff_exists.1 (isSome_mergedLength.2 typical)

end TemplateModel

namespace Bucket

variable {home : TemplateModel} {candidate : Text}

theorem clusterConfidence_of_untypical
    (untypical : ¬ (0 : Rat) < (home.assess candidate).confidence) :
    (clusterConfidence candidate home : Rat) = 0 := by
  rw [← TemplateModel.isSome_mergedLength, Option.not_isSome_iff_eq_none] at untypical
  rw [clusterConfidence]
  split
  · rfl
  · simp only [untypical]
    rfl

/-- The confidence in a text of which some characters would be in literals: those count in full,
    and the others with a confidence of their own. -/
def blend (length merged : Nat) (confidence : Rat) : Rat :=
  Score.clamp
    (((min merged length : Nat) + confidence * (length - min merged length : Nat)) / length)

theorem blend_pos {length : Nat} {confidence : Rat} (some : 0 < length) (merged : Nat)
    (positive : 0 < confidence) : 0 < blend length merged confidence := by
  have length_pos : (0 : Rat) < length := Nat.cast_pos.2 some
  refine Score.clamp_pos (div_pos ?_ length_pos)
  obtain none | covered := Nat.eq_zero_or_pos (min merged length)
  · rw [none, Nat.sub_zero, Nat.cast_zero, zero_add]
    exact mul_pos positive length_pos
  · have covered : (0 : Rat) < (min merged length : Nat) := Nat.cast_pos.2 covered
    positivity

theorem blend_mono (length merged : Nat) {low high : Rat} (below : low ≤ high) :
    blend length merged low ≤ blend length merged high := by
  refine Score.clamp_mono (div_le_div_of_nonneg_right ?_ (Nat.cast_nonneg length))
  gcongr

theorem blend_of_one_le {length : Nat} {confidence : Rat} (some : 0 < length) (merged : Nat)
    (full : 1 ≤ confidence) : blend length merged confidence = 1 := by
  have length_pos : (0 : Rat) < length := Nat.cast_pos.2 some
  have inside : min merged length ≤ length := min_le_right ..
  refine Score.clamp_of_one_le ((one_le_div length_pos).2 ?_)
  calc (length : Rat)
    _ = (min merged length : Nat) + 1 * (length - min merged length : Nat) := by
        rw [one_mul, ← Nat.cast_add, Nat.add_sub_cancel' inside]
    _ ≤ (min merged length : Nat) + confidence * (length - min merged length : Nat) := by
        gcongr

theorem clusterConfidence_of_typical (some : candidate ≠ []) {merged : Nat}
    (known : (home.assess candidate : Assessment Rat).mergedLength = Option.some merged) :
    clusterConfidence candidate home =
      blend candidate.length merged (home.assess candidate).confidence := by
  rw [clusterConfidence, if_neg some]
  simp only [known]
  rfl

theorem clusterConfidence_bounds (candidate : Text) (home : TemplateModel) :
    (0 : Rat) ≤ clusterConfidence candidate home ∧
      (clusterConfidence candidate home : Rat) ≤ 1 := by
  rw [clusterConfidence]
  split
  · exact ⟨le_rfl, zero_le_one⟩
  · dsimp only
    split
    · exact ⟨le_rfl, zero_le_one⟩
    · exact ⟨Score.clamp_nonneg _, Score.clamp_le_one _⟩

theorem clusterConfidence_pos (some : candidate ≠ [])
    (typical : (0 : Rat) < (home.assess candidate).confidence) :
    (0 : Rat) < clusterConfidence candidate home := by
  obtain ⟨merged, known⟩ := TemplateModel.exists_mergedLength typical
  rw [clusterConfidence_of_typical some known]
  exact blend_pos (List.length_pos_iff.2 some) merged typical

theorem clusterConfidence_eq_one (some : candidate ≠ [])
    (full : (1 : Rat) ≤ (home.assess candidate).confidence) :
    (clusterConfidence candidate home : Rat) = 1 := by
  obtain ⟨merged, known⟩ := TemplateModel.exists_mergedLength (one_pos.trans_le full)
  rw [clusterConfidence_of_typical some known]
  exact blend_of_one_le (List.length_pos_iff.2 some) merged full

theorem clusterConfidence_of_alone (alone : home.samples = [candidate])
    (two : 2 ≤ candidate.length) : (clusterConfidence candidate home : Rat) = 1 := by
  have some : candidate ≠ [] := List.ne_nil_of_length_pos (by omega)
  refine clusterConfidence_eq_one some (le_of_eq ?_)
  rw [TemplateModel.assess_of_single alone, EditScript.coverage_between_self two]

theorem clusterConfidence_of_others (others : ∀ only, home.samples ≠ [only])
    (some : candidate ≠ []) (typical : (0 : Rat) < home.confidence candidate) :
    (clusterConfidence candidate home : Rat) =
      blend candidate.length home.template.literalLength (home.confidence candidate) := by
  have assessed := TemplateModel.assess_of_others (α := Rat) others candidate
  have known : (home.assess candidate : Assessment Rat).mergedLength =
      Option.some home.template.literalLength := by
    rw [assessed]
    exact if_pos typical
  rw [clusterConfidence_of_typical some known, assessed]

section Samples

variable [Compiler] {least : SegmentLength} {budget : Nat}

theorem clusterConfidence_of_no_samples (current : home.UpToDate least budget)
    (none : home.samples = []) (candidate : Text) :
    (clusterConfidence candidate home : Rat) = 0 := by
  have nothing : home.template.isEmpty := by
    rw [current.template_of_short (by simp [none])]
    rfl
  have untypical : ¬ (0 : Rat) < (home.assess candidate).confidence := by
    rw [TemplateModel.assess_of_others (by simp [none]),
      TemplateModel.confidence_of_no_samples nothing none]
    exact lt_irrefl 0
  exact clusterConfidence_of_untypical untypical

theorem clusterConfidence_of_short (current : home.UpToDate least budget)
    (short : candidate.length < 2) : (clusterConfidence candidate home : Rat) = 0 := by
  apply clusterConfidence_of_untypical
  rw [current.assess_confidence_of_short short]
  exact lt_irrefl 0

end Samples

end Bucket

/-! ## All clusters -/

namespace ClusterModel

open Bucket (clusterConfidence)

variable {model : ClusterModel Rat} {bucket : Bucket} {home : TemplateModel} {candidate : Text}

theorem confidence_le_iff {bound : Rat} :
    model.confidence candidate ≤ bound ↔
      0 ≤ bound ∧ ∀ bucket ∈ model.buckets, ∀ home ∈ bucket.clusters,
        clusterConfidence candidate home ≤ bound := by
  simp only [confidence, Bucket.confidence, Score.highest_le_iff, List.forall_mem_map]
  constructor
  · rintro ⟨nonneg, all⟩
    exact ⟨nonneg, fun bucket member => (all bucket member).2⟩
  · rintro ⟨nonneg, all⟩
    exact ⟨nonneg, fun bucket member => ⟨nonneg, all bucket member⟩⟩

theorem clusterConfidence_le_confidence (member : bucket ∈ model.buckets)
    (inside : home ∈ bucket.clusters) (candidate : Text) :
    clusterConfidence candidate home ≤ model.confidence candidate :=
  (confidence_le_iff.1 le_rfl).2 bucket member home inside

theorem confidence_nonneg (model : ClusterModel Rat) (candidate : Text) :
    0 ≤ model.confidence candidate :=
  (confidence_le_iff.1 le_rfl).1

theorem confidence_le_one (model : ClusterModel Rat) (candidate : Text) :
    model.confidence candidate ≤ 1 :=
  confidence_le_iff.2
    ⟨zero_le_one, fun _ _ home _ => (Bucket.clusterConfidence_bounds candidate home).2⟩

theorem confidence_of_alone (member : bucket ∈ model.buckets) (inside : home ∈ bucket.clusters)
    (alone : home.samples = [candidate]) (two : 2 ≤ candidate.length) :
    model.confidence candidate = 1 := by
  refine (model.confidence_le_one candidate).antisymm ?_
  rw [← Bucket.clusterConfidence_of_alone alone two]
  exact clusterConfidence_le_confidence member inside candidate

def ChecksCompile [Compiler] (model : ClusterModel Rat) : Prop :=
  ∀ bucket ∈ model.buckets, ∀ home ∈ bucket.clusters, home.ChecksCompile

variable [Compiler] {limits : ClusterLimits Rat} {sample : Text}

/-- Samples that all fit what the first two of them share need no checks. -/
theorem checksCompile_of_founded {least : SegmentLength} {samples : List Text} (budget : Nat)
    (founded : ∀ first second rest, samples = first :: second :: rest →
      Founded limits least first second rest) :
    Template.ChecksCompile least budget samples := by
  rintro before sample after template rfl made refused
  -- The first two samples meet no template, and all others meet that of these two.
  match before with
  | [] | [_] =>
    cases made
    contradiction
  | first :: second :: more =>
    have fits := (founded first second (more ++ sample :: after) rfl).fits
    have same := Template.eq_common_of_ofSamples made fun other member =>
      fits other (by simp [member])
    rw [same, Template.allows, fits sample (by simp), Bool.or_true] at refused
    contradiction

theorem Clustered.partitions (current : model.Clustered limits) (member : bucket ∈ model.buckets) :
    bucket.Partitions limits model.arrivals.samples :=
  current.of_takes Bucket.partitions_of_empty Bucket.Partitions.takes member

theorem Clustered.upToDate (current : model.Clustered limits) (member : bucket ∈ model.buckets)
    (inside : home ∈ bucket.clusters) : home.UpToDate bucket.segmentLength limits.budget :=
  (TemplateModel.build_eq_ok_iff.1 ((current.partitions member).1 home inside)).1

/-- No template is made more general within limits that no stranger can meet. -/
theorem Clustered.checksCompile (current : model.Clustered limits)
    (confident : Score.zero < limits.minConfidence) (nonneg : Score.zero ≤ limits.minEquality) :
    model.ChecksCompile := by
  intro bucket member home inside
  have kept := current.hasFounders confident nonneg member
  rw [TemplateModel.ChecksCompile, (current.upToDate member inside).segmentLength_eq]
  exact checksCompile_of_founded home.budget (kept.founded home inside)

/-- In every bucket there is a cluster with a given sample. -/
theorem Clustered.exists_cluster (current : model.Clustered limits)
    (member : bucket ∈ model.buckets) (present : sample ∈ model.arrivals.samples) :
    ∃ home ∈ bucket.clusters, sample ∈ home.samples := by
  obtain ⟨-, places, dealt⟩ := current.partitions member
  obtain ⟨group, listed, inside⟩ := List.mem_flatten.1 (dealt.flatten_perm.mem_iff.2 present)
  obtain ⟨home, clustered, rfl⟩ := List.mem_map.1 listed
  exact ⟨home, clustered, inside⟩

theorem Clustered.confidence_pos (current : model.Clustered limits)
    (checked : model.ChecksCompile) (lengths : limits.segmentLengths ≠ [])
    (present : sample ∈ model.arrivals.samples) (two : 2 ≤ sample.length) :
    0 < model.confidence sample := by
  rw [← current.segmentLengths_eq, ne_eq, List.map_eq_nil_iff] at lengths
  obtain ⟨bucket, member⟩ := List.exists_mem_of_ne_nil _ lengths
  obtain ⟨home, inside, held⟩ := current.exists_cluster member present
  have typical := (current.upToDate member inside).assess_confidence_pos
    (checked bucket member home inside) held two
  have some : sample ≠ [] := List.ne_nil_of_length_pos (by omega)
  exact (Bucket.clusterConfidence_pos some typical).trans_le
    (clusterConfidence_le_confidence member inside sample)

/-- Without samples nothing is typical. -/
theorem Clustered.confidence_of_no_samples (current : model.Clustered limits)
    (none : model.arrivals.samples = []) (candidate : Text) : model.confidence candidate = 0 := by
  refine le_antisymm (confidence_le_iff.2 ⟨le_rfl, fun bucket member home inside => ?_⟩)
    (model.confidence_nonneg candidate)
  have held : home.samples = [] := by
    obtain ⟨-, places, dealt⟩ := current.partitions member
    have whole := dealt.flatten_perm
    rw [none, List.perm_nil, List.flatten_eq_nil_iff] at whole
    exact whole home.samples (List.mem_map_of_mem inside)
  exact (Bucket.clusterConfidence_of_no_samples (current.upToDate member inside) held candidate).le

theorem Clustered.confidence_of_short (current : model.Clustered limits)
    (short : candidate.length < 2) : model.confidence candidate = 0 := by
  refine le_antisymm (confidence_le_iff.2 ⟨le_rfl, fun bucket member home inside => ?_⟩)
    (model.confidence_nonneg candidate)
  exact (Bucket.clusterConfidence_of_short (current.upToDate member inside) short).le

end ClusterModel

end MailSort
