import MailSort.Proofs.ClusterModel.Reclustering
import MailSort.Proofs.TemplateModel.Rebuild
import Mathlib.Data.List.Induction

/-! # Placing samples

A bucket has three ways to take in a sample, and `Bucket.Takes` says once what each of them does
to its clusters.  Since no sample is ever withdrawn from a cluster, every cluster is the model of
its own samples (`Bucket.Built`).  What holds of a bucket without samples and is kept by every
sample that is taken in holds of every bucket of a clustered model
(`ClusterModel.Clustered.of_takes`).
-/

namespace MailSort

namespace TemplateModel

variable [Compiler] {least : SegmentLength} {budget : Nat} {model next : TemplateModel}
  {samples : List Text} {sample : Text}

theorem samples_of_build (built : build (.ofSamples samples) least budget = .ok model) :
    model.samples = samples := by
  rw [TemplateModel.samples, (build_eq_ok_iff.1 built).2]
  rfl

theorem arrivals_of_add (added : model.add [sample] = .ok next) :
    next.arrivals = model.arrivals.accept sample := by
  rw [TemplateModel.add, if_neg (List.cons_ne_nil _ _)] at added
  split at added
  · cases added
    rfl
  · exact (build_eq_ok_iff.1 added).2

/-- A model from which no sample was withdrawn takes in a sample as if it had been there from
    the beginning. -/
theorem build_add (built : build (.ofSamples model.samples) least budget = .ok model)
    (added : model.add [sample] = .ok next) :
    build (.ofSamples (model.samples ++ [sample])) least budget = .ok next := by
  obtain ⟨current, plain⟩ := build_eq_ok_iff.1 built
  refine build_eq_ok_iff.2 ⟨current.add added, ?_⟩
  rw [arrivals_of_add added, plain]
  rfl

end TemplateModel

namespace Match

variable {α : Type} [Score α]

theorem mem_of_foldl_better {candidates : List (Match α)} {best : Option (Match α)}
    {found : Match α} (chosen : candidates.foldl better best = some found) :
    best = some found ∨ found ∈ candidates := by
  induction candidates generalizing best with
  | nil => exact .inl chosen
  | cons next rest ih =>
    rw [List.foldl_cons] at chosen
    obtain kept | later := ih chosen
    · cases best with
      | none =>
        obtain rfl : next = found := by simpa [better] using kept
        exact .inr List.mem_cons_self
      | some held =>
        simp only [better] at kept
        split at kept
        · exact .inl kept
        · obtain rfl : next = found := by simpa using kept
          exact .inr List.mem_cons_self
    · exact .inr (List.mem_cons_of_mem next later)

theorem exists_of_mem_ofClusters {clusters : List TemplateModel} {sample : Text} {found : Match α}
    (member : found ∈ ofClusters clusters sample) :
    ∃ before home after, clusters = before ++ home :: after ∧
      found = ⟨before.length, home, home.assess sample⟩ := by
  obtain ⟨index, inside, rfl⟩ := List.mem_mapIdx.1 member
  refine ⟨clusters.take index, clusters[index], clusters.drop (index + 1), ?_, ?_⟩
  · rw [List.getElem_cons_drop, List.take_append_drop]
  · rw [List.length_take_of_le (Nat.le_of_lt inside)]

end Match

namespace Bucket

variable [Compiler] {α : Type} {limits : ClusterLimits α} {bucket next : Bucket}
  {samples : List Text} {sample : Text}

def Built (limits : ClusterLimits α) (bucket : Bucket) : Prop :=
  ∀ own ∈ bucket.clusters, cluster limits bucket.segmentLength own.samples = .ok own

theorem built_of_empty {least : SegmentLength} (made : empty limits least = .ok bucket) :
    bucket.Built limits := by
  simp only [empty, Outcome.bind_eq_ok_iff, Outcome.pure_eq_ok_iff] at made
  obtain ⟨only, made, rfl⟩ := made
  intro own member
  obtain rfl := List.mem_singleton.1 member
  rwa [TemplateModel.samples_of_build made]

theorem Built.samples_join {home joined : TemplateModel} (built : bucket.Built limits)
    (member : home ∈ bucket.clusters) (added : home.add [sample] = .ok joined) :
    joined.samples = home.samples ++ [sample] :=
  TemplateModel.samples_of_build (TemplateModel.build_add (built home member) added)

variable [Score α]

/-! ## One step -/

inductive Takes (limits : ClusterLimits α) (bucket : Bucket) (sample : Text) : Bucket → Prop
  /-- The sample is the first one. -/
  | founds {founded : TemplateModel} (vacant : bucket.isEmpty = true)
      (made : cluster limits bucket.segmentLength [sample] = .ok founded) :
      Takes limits bucket sample ⟨bucket.segmentLength, [founded]⟩
  /-- The sample joins a cluster that accepts it. -/
  | joins {before after : List TemplateModel} {home joined : TemplateModel}
      (occupied : bucket.isEmpty = false) (place : bucket.clusters = before ++ home :: after)
      (accepted : Match.accepts limits sample ⟨before.length, home, home.assess sample⟩)
      (added : home.add [sample] = .ok joined) :
      Takes limits bucket sample ⟨bucket.segmentLength, before ++ joined :: after⟩
  /-- No cluster accepts the sample. -/
  | starts {started : TemplateModel} (occupied : bucket.isEmpty = false)
      (made : cluster limits bucket.segmentLength [sample] = .ok started) :
      Takes limits bucket sample ⟨bucket.segmentLength, bucket.clusters ++ [started]⟩

theorem takes_of_add (added : bucket.add limits sample = .ok next) :
    Takes limits bucket sample next := by
  unfold add at added
  split at added
  · next vacant =>
    simp only [Outcome.bind_eq_ok_iff, Outcome.pure_eq_ok_iff] at added
    obtain ⟨founded, made, rfl⟩ := added
    exact .founds vacant made
  · next occupied =>
    rw [Bool.not_eq_true] at occupied
    split at added
    · next found chosen =>
      simp only [Outcome.bind_eq_ok_iff, Outcome.pure_eq_ok_iff] at added
      obtain ⟨joined, added, rfl⟩ := added
      obtain ⟨best, accepted⟩ := Option.filter_eq_some_iff.1 chosen
      have member := (Match.mem_of_foldl_better best).resolve_left nofun
      obtain ⟨before, home, after, place, rfl⟩ := Match.exists_of_mem_ofClusters member
      have replaced : bucket.clusters.set before.length joined = before ++ joined :: after := by
        simp [place]
      rw [replaced]
      exact .joins occupied place accepted added
    · simp only [Outcome.bind_eq_ok_iff, Outcome.pure_eq_ok_iff] at added
      obtain ⟨started, made, rfl⟩ := added
      exact .starts occupied made

theorem Built.takes (built : bucket.Built limits) (taken : Takes limits bucket sample next) :
    next.Built limits := by
  intro own member
  cases taken with
  | founds vacant made =>
    obtain rfl := List.mem_singleton.1 member
    rwa [TemplateModel.samples_of_build made]
  | @joins before after home joined occupied place accepted added =>
    rw [List.mem_append, List.mem_cons] at member
    obtain earlier | rfl | later := member
    · exact built own (by simp [place, earlier])
    · have whole := TemplateModel.build_add (built home (by simp [place])) added
      rwa [← TemplateModel.samples_of_build whole] at whole
    · exact built own (by simp [place, later])
  | starts occupied made =>
    rw [List.mem_append] at member
    obtain old | new := member
    · exact built own old
    · obtain rfl := List.mem_singleton.1 new
      rwa [TemplateModel.samples_of_build made]

/-! ## A whole pass -/

/-- What holds without samples and is kept by every sample that is taken in holds after a pass
    over any samples. -/
theorem of_takes {least : Nat} {P : List Text → Bucket → Prop}
    (start : ∀ {length : SegmentLength} {bucket : Bucket}, length.chars = least →
      empty limits length = .ok bucket → P [] bucket)
    (step : ∀ {samples : List Text} {bucket : Bucket} {sample : Text} {next : Bucket},
      P samples bucket → Takes limits bucket sample next → P (samples ++ [sample]) next)
    (made : ofSamples limits samples least = .ok bucket) : P samples bucket := by
  induction samples using List.reverseRecOn generalizing bucket with
  | nil =>
    simp only [ofSamples, List.foldlM_nil, Outcome.bind_eq_ok_iff, Outcome.pure_eq_ok_iff] at made
    obtain ⟨length, checked, first, made, rfl⟩ := made
    refine start ?_ made
    rw [SegmentLength.ofNat?] at checked
    split at checked
    · cases checked
      rfl
    · contradiction
  | append_singleton samples sample ih =>
    rw [congrFun (ofSamples_concat limits samples sample) least, Outcome.bind_eq_ok_iff] at made
    obtain ⟨earlier, made, added⟩ := made
    exact step (ih made) (takes_of_add added)

theorem segmentLength_of_ofSamples {least : Nat}
    (made : ofSamples limits samples least = .ok bucket) : bucket.segmentLength.chars = least := by
  refine of_takes (P := fun _ bucket => bucket.segmentLength.chars = least) ?_ ?_ made
  · intro length bucket checked made
    simp only [empty, Outcome.bind_eq_ok_iff, Outcome.pure_eq_ok_iff] at made
    obtain ⟨only, _, rfl⟩ := made
    exact checked
  · intro samples bucket sample next kept taken
    cases taken <;> exact kept

end Bucket

namespace ClusterModel

variable [Compiler] {α : Type} [Score α] {limits : ClusterLimits α} {model : ClusterModel α}

theorem Clustered.segmentLengths_eq (current : model.Clustered limits) :
    model.buckets.map (·.segmentLength.chars) = limits.segmentLengths :=
  Outcome.map_eq_of_mapM (fun _ _ => Bucket.segmentLength_of_ofSamples) current.buckets_eq

theorem Clustered.of_takes (current : model.Clustered limits) {P : List Text → Bucket → Prop}
    (start : ∀ {length : SegmentLength} {bucket : Bucket},
      Bucket.empty limits length = .ok bucket → P [] bucket)
    (step : ∀ {samples : List Text} {bucket : Bucket} {sample : Text} {next : Bucket},
      P samples bucket → Bucket.Takes limits bucket sample next → P (samples ++ [sample]) next)
    {bucket : Bucket} (member : bucket ∈ model.buckets) : P model.arrivals.samples bucket := by
  obtain ⟨least, _, made⟩ := Outcome.exists_of_mem_mapM current.buckets_eq member
  exact Bucket.of_takes (fun _ => start) step made

end ClusterModel

end MailSort
