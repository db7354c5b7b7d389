import MailSort.ClusterModel
import MailSort.Proofs.ArrivalLog.Tail
import MailSort.Proofs.ArrivalLog.Withdrawal
import MailSort.Proofs.Outcome

/-! # Updates and clustering again

Clustering is one pass over the samples in the order of their arrival, once for each segment
length.  A sample at the end continues every pass by one step, and everything else starts
them anew.  `ClusterModel.Clustered` is kept either way, so after any run of updates the
buckets are those that one pass over the present samples gives.
-/

namespace MailSort

/-- A sample at the end is one more step for every segment length. -/
theorem Bucket.ofSamples_concat [Compiler] {α : Type} [Score α] (limits : ClusterLimits α)
    (samples : List Text) (sample : Text) :
    Bucket.ofSamples limits (samples ++ [sample]) = fun least =>
      Bucket.ofSamples limits samples least >>= fun bucket => bucket.add limits sample := by
  funext least
  simp [Bucket.ofSamples, List.foldlM_append]

namespace ClusterModel

section Updates

variable [Compiler] {α : Type} [Score α] {limits : ClusterLimits α} {log : ArrivalLog}
  {model next : ClusterModel α} {sample : Text} {samples : List Text}

/-- The buckets are what one pass over the samples for each segment length gives. -/
structure Clustered (limits : ClusterLimits α) (model : ClusterModel α) : Prop where
  limits_eq : model.limits = limits
  buckets_eq : limits.segmentLengths.mapM (Bucket.ofSamples limits model.arrivals.samples) =
    .ok model.buckets

theorem build_eq_ok_iff :
    build limits log = .ok model ↔ model.Clustered limits ∧ model.arrivals = log := by
  simp only [build, Outcome.bind_eq_ok_iff, Outcome.pure_eq_ok_iff]
  constructor
  · rintro ⟨buckets, clustered, rfl⟩
    exact ⟨⟨rfl, clustered⟩, rfl⟩
  · rintro ⟨⟨rfl, clustered⟩, rfl⟩
    exact ⟨model.buckets, clustered, rfl⟩

/-! ## Updates -/

inductive Update where
  | add (sample : Text)
  | addAll (samples : List Text)
  | remove (sample : Text)
  | removeAll (samples : List Text)

/-- The model after an update.  What fails leaves it as it is; of a list of samples, those
    before the failure count. -/
def after (model : ClusterModel α) : Update → ClusterModel α
  | .add sample => (model.add sample).toOption.getD model
  | .addAll samples => (model.addAll samples).1
  | .remove sample => (model.remove sample).toOption.getD model
  | .removeAll samples => (model.removeAll samples).1

def run (model : ClusterModel α) (updates : List Update) : ClusterModel α :=
  updates.foldl after model

theorem Clustered.add (current : model.Clustered limits) (added : model.add sample = .ok next) :
    next.Clustered limits := by
  rw [ClusterModel.add] at added
  split at added
  · next tail =>
    simp only [Outcome.bind_eq_ok_iff, Outcome.pure_eq_ok_iff] at added
    obtain ⟨buckets, placed, rfl⟩ := added
    -- Every bucket takes one more step of its own pass.
    refine ⟨current.limits_eq, ?_⟩
    show limits.segmentLengths.mapM
      (Bucket.ofSamples limits (model.arrivals.accept sample).samples) = .ok buckets
    rw [(ArrivalLog.accept_of_tail tail).1, Bucket.ofSamples_concat]
    rw [current.limits_eq] at placed
    exact Outcome.mapM_bind_eq_ok current.buckets_eq placed
  · rw [current.limits_eq] at added
    exact (build_eq_ok_iff.mp added).1

theorem Clustered.remove (current : model.Clustered limits)
    (removed : model.remove sample = .ok next) : next.Clustered limits := by
  rw [ClusterModel.remove] at removed
  split at removed
  · rw [current.limits_eq] at removed
    exact (build_eq_ok_iff.mp removed).1
  · cases removed
    exact current

/-- What every single step keeps, a list of steps keeps up to the first failure. -/
theorem Clustered.runAll {update : ClusterModel α → Text → Except Fault (ClusterModel α)}
    (keeps : ∀ {model next sample}, model.Clustered limits → update model sample = .ok next →
      next.Clustered limits)
    (current : model.Clustered limits) (samples : List Text) :
    (ClusterModel.runAll update model samples).1.Clustered limits := by
  induction samples generalizing model with
  | nil => exact current
  | cons sample samples ih =>
    rw [ClusterModel.runAll]
    cases outcome : update model sample with
    -- Neither the failed step nor any step after it is taken.
    | error fault => exact current
    | ok next => exact ih (keeps current outcome)

theorem Clustered.after (current : model.Clustered limits) (update : Update) :
    (model.after update).Clustered limits := by
  cases update with
  | add sample =>
    rw [ClusterModel.after]
    cases outcome : model.add sample with
    | error fault => exact current
    | ok next => exact current.add outcome
  | addAll samples => exact current.runAll Clustered.add samples
  | remove sample =>
    rw [ClusterModel.after]
    cases outcome : model.remove sample with
    | error fault => exact current
    | ok next => exact current.remove outcome
  | removeAll samples => exact current.runAll Clustered.remove samples

/-- Updates keep the buckets of one pass, in any order and whether they succeed or not. -/
theorem Clustered.run (current : model.Clustered limits) (updates : List Update) :
    (model.run updates).Clustered limits := by
  induction updates generalizing model with
  | nil => exact current
  | cons update updates ih => exact ih (current.after update)

/-! ## Arrivals -/

/-- A sample that is added leaves nothing behind but its arrival. -/
theorem add_eq_build (built : build limits log = .ok model) (sample : Text) :
    model.add sample = build limits (log.accept sample) := by
  obtain ⟨current, rfl⟩ := build_eq_ok_iff.mp built
  rw [ClusterModel.add]
  split
  · next tail =>
    -- The passes that have been made go on with the sample.
    have goes_on : model.buckets.mapM (Bucket.add limits · sample) =
        limits.segmentLengths.mapM
          (Bucket.ofSamples limits (model.arrivals.accept sample).samples) := by
      rw [(ArrivalLog.accept_of_tail tail).1, Bucket.ofSamples_concat]
      refine Outcome.mapM_eq_of_mapM (fun least bucket made => ?_) current.buckets_eq
      rw [made]
      rfl
    rw [build, ← goes_on, ← current.limits_eq]
  · rw [current.limits_eq]

/-- A sample that is removed leaves nothing behind but its withdrawal. -/
theorem remove_eq_build (built : build limits log = .ok model) (sample : Text) :
    model.remove sample = build limits (log.withdrawAll [sample]) := by
  obtain ⟨current, rfl⟩ := build_eq_ok_iff.mp built
  have once : model.arrivals.withdrawAll [sample] =
      (model.arrivals.withdraw? sample).getD model.arrivals := rfl
  rw [ClusterModel.remove, once]
  cases model.arrivals.withdraw? sample with
  | some arrivals => rw [current.limits_eq]; rfl
  | none => exact built.symm

/-- Nothing but its arrivals tells a model from one with other withdrawals. -/
theorem build_of_samples_eq (built : build limits log = .ok model) {other : ArrivalLog}
    (same : other.samples = log.samples) :
    build limits other = .ok { model with arrivals := other } := by
  obtain ⟨current, rfl⟩ := build_eq_ok_iff.mp built
  refine build_eq_ok_iff.mpr ⟨⟨current.limits_eq, ?_⟩, rfl⟩
  show limits.segmentLengths.mapM (Bucket.ofSamples limits other.samples) = .ok model.buckets
  rw [same]
  exact current.buckets_eq

/-- Samples have clusters only if those that arrived first have some. -/
theorem exists_build_of_concat
    (built : build limits (.ofSamples (samples ++ [sample])) = .ok model) :
    ∃ earlier, build limits (.ofSamples samples) = .ok earlier := by
  simp only [build, Outcome.bind_eq_ok_iff, Outcome.pure_eq_ok_iff] at built ⊢
  obtain ⟨buckets, clustered, -⟩ := built
  have passes : limits.segmentLengths.mapM (fun least =>
      Bucket.ofSamples limits samples least >>= fun bucket => bucket.add limits sample) =
      .ok buckets := by
    rw [← Bucket.ofSamples_concat]
    exact clustered
  have shorter (least : Nat) (bucket : Bucket)
      (step : (Bucket.ofSamples limits samples least >>= fun bucket => bucket.add limits sample) =
        .ok bucket) : ∃ earlier, Bucket.ofSamples limits samples least = .ok earlier := by
    obtain ⟨earlier, made, -⟩ := Outcome.bind_eq_ok_iff.1 step
    exact ⟨earlier, made⟩
  obtain ⟨earlier, made⟩ := Outcome.exists_mapM_of_mapM shorter passes
  exact ⟨_, earlier, made, rfl⟩

/-- After any updates of a model, clustering its samples from scratch succeeds, and the result
    differs at most in the withdrawals that it can undo. -/
theorem ofSamples_arrivals_run (built : ofSamples limits samples = .ok model)
    (updates : List Update) :
    ofSamples limits (model.run updates).arrivals.samples =
      .ok { model.run updates with
        arrivals := .ofSamples (model.run updates).arrivals.samples } := by
  have kept := (build_eq_ok_iff.mp built).1.run updates
  exact build_eq_ok_iff.mpr ⟨⟨kept.limits_eq, kept.buckets_eq⟩, rfl⟩

end Updates

/-- Samples join clusters, leave them, and return between the others. -/
theorem ofSamples_arrivals_run_returning :
    ∃ (model : ClusterModel Rat) (updates : List Update),
      ofSamples ⟨[2, 4], 1 / 10, 1 / 50, Template.standardBudget⟩ [] = .ok model ∧
      updates = [.addAll ["id=1;ok".toList, "hello".toList, "id=22;ok".toList],
        .remove "hello".toList, .removeAll ["absent".toList], .add "hello".toList,
        .add "id=3".toList] ∧
      (model.run updates).arrivals.samples =
        ["id=1;ok".toList, "hello".toList, "id=22;ok".toList, "id=3".toList] ∧
      ofSamples ⟨[2, 4], 1 / 10, 1 / 50, Template.standardBudget⟩
        (model.run updates).arrivals.samples =
        .ok { model.run updates with
          arrivals := .ofSamples (model.run updates).arrivals.samples } := by
  have built : ofSamples (⟨[2, 4], 1 / 10, 1 / 50, Template.standardBudget⟩ : ClusterLimits Rat)
      [] = .ok ⟨⟨[2, 4], 1 / 10, 1 / 50, Template.standardBudget⟩,
        [⟨⟨2, by decide⟩,
            [⟨⟨2, by decide⟩, Template.standardBudget, .empty, [], .ofSamples [], 0⟩]⟩,
          ⟨⟨4, by decide⟩,
            [⟨⟨4, by decide⟩, Template.standardBudget, .empty, [], .ofSamples [], 0⟩]⟩],
        .ofSamples []⟩ := by
    decide +kernel
  exact ⟨_, _, built, rfl, by decide +kernel, ofSamples_arrivals_run built _⟩

end ClusterModel

end MailSort
