import MailSort.ClusterModel
import MailSort.Proofs.TemplateModel.InPlace

/-! # Cluster models in place

A sample is placed in all buckets before it is put into the first of them, so that a bucket that
cannot take it fails while all are as they were.  Clusters that are made anew are made aside.
Samples in a list are added or removed one by one, and this alone can stop half way
(`ClusterModel.addAllInPlace`, `ClusterModel.removeAllInPlace`).
-/

namespace MailSort

variable [Compiler] {α : Type} [Score α]

namespace Bucket

inductive Placement where
  | replace (index : Nat) (cluster : TemplateModel)
  | append (cluster : TemplateModel)

def place (limits : ClusterLimits α) (bucket : Bucket) (sample : Text) :
    Except Fault Placement :=
  if bucket.isEmpty then (cluster limits bucket.segmentLength [sample]).map (.replace 0)
  else
    match bucket.home? limits sample with
    | some found =>
      ((TemplateModel.addInPlace [sample]).onCopy found.cluster).map (.replace found.index)
    | none => (cluster limits bucket.segmentLength [sample]).map .append

def apply (bucket : Bucket) : Placement → Bucket
  | .replace index cluster => { bucket with clusters := bucket.clusters.set index cluster }
  | .append cluster => { bucket with clusters := bucket.clusters ++ [cluster] }

theorem add_eq_map_place (limits : ClusterLimits α) (bucket : Bucket) (sample : Text) :
    bucket.add limits sample = (bucket.place limits sample).map bucket.apply := by
  rw [add, place]
  split
  · next empty =>
    obtain ⟨only, alone⟩ : ∃ only, bucket.clusters = [only] := by
      rw [isEmpty] at empty
      split at empty
      · next only alone => exact ⟨only, alone⟩
      · contradiction
    cases cluster limits bucket.segmentLength [sample] with
    | error fault => rfl
    | ok started =>
      show Except.ok _ = Except.ok { bucket with clusters := bucket.clusters.set 0 started }
      rw [alone]
      rfl
  · cases bucket.home? limits sample with
    | some found =>
      simp only [(TemplateModel.addInPlace_performs [sample]).onCopy_eq]
      cases found.cluster.add [sample] <;> rfl
    | none =>
      cases cluster limits bucket.segmentLength [sample] <;> rfl

end Bucket

namespace ClusterModel

def applyInPlace : (index : Nat) → List Bucket.Placement → Procedure (ClusterModel α) Unit
  | _, [] => pure ()
  | index, placement :: rest => do
    modify fun model =>
      { model with buckets := model.buckets.modify index (·.apply placement) }
    applyInPlace (index + 1) rest

def reclusterInPlace (arrivals : ArrivalLog) : Procedure (ClusterModel α) Unit := do
  let model ← get
  let buckets ← Procedure.attempt
    (model.limits.segmentLengths.mapM (Bucket.ofSamples model.limits arrivals.samples))
  modify fun model => { model with buckets := buckets }
  modify fun model => { model with arrivals := arrivals }

def addInPlace (sample : Text) : Procedure (ClusterModel α) Unit := do
  let model ← get
  if model.arrivals.acceptsAtTail [sample] then
    let placements ← Procedure.attempt
      (model.buckets.mapM (Bucket.place model.limits · sample))
    applyInPlace 0 placements
    modify fun model => { model with arrivals := model.arrivals.accept sample }
  else reclusterInPlace (model.arrivals.accept sample)

def removeInPlace (sample : Text) : Procedure (ClusterModel α) Unit := do
  let model ← get
  match model.arrivals.withdraw? sample with
  | some arrivals => reclusterInPlace arrivals
  | none => pure ()

def addAllInPlace (samples : List Text) : Procedure (ClusterModel α) Unit :=
  samples.forM addInPlace

def removeAllInPlace (samples : List Text) : Procedure (ClusterModel α) Unit :=
  samples.forM removeInPlace

/-! ## One sample -/

omit [Compiler] [Score α] in
theorem on_applyInPlace {before buckets : List Bucket} {placements : List Bucket.Placement}
    {model : ClusterModel α} (split : model.buckets = before ++ buckets)
    (same : placements.length = buckets.length) :
    (applyInPlace before.length placements).on model =
      (.ok (), { model with
        buckets := before ++ List.zipWith Bucket.apply buckets placements }) := by
  induction buckets generalizing before placements model with
  | nil =>
    rw [List.length_eq_zero_iff.1 same, List.zipWith_nil_left, ← split]
    rfl
  | cons bucket buckets ih =>
    cases placements with
    | nil => contradiction
    | cons placement placements =>
      have written : ({ model with
          buckets := model.buckets.modify before.length (·.apply placement) } :
          ClusterModel α).buckets = (before ++ [bucket.apply placement]) ++ buckets := by
        rw [split, List.modify_eq_take_cons_drop (by simp)]
        simp
      have later := ih written (Nat.succ.inj same)
      rw [List.length_append] at later
      rw [applyInPlace, Procedure.on_bind, Procedure.on_modify]
      refine later.trans ?_
      simp

theorem on_reclusterInPlace (arrivals : ArrivalLog) (model : ClusterModel α) :
    (reclusterInPlace arrivals).on model =
      Procedure.settle (build model.limits arrivals) model := by
  simp only [reclusterInPlace, Procedure.on_bind, Procedure.on_get, Procedure.on_attempt, build]
  cases model.limits.segmentLengths.mapM (Bucket.ofSamples model.limits arrivals.samples) <;> rfl

theorem addInPlace_performs (sample : Text) :
    (addInPlace sample : Procedure (ClusterModel α) Unit).Performs (·.add sample) := by
  intro model
  simp only [addInPlace, Procedure.on_bind, Procedure.on_get, add]
  split
  · have added : model.buckets.mapM (Bucket.add model.limits · sample) =
        (model.buckets.mapM (Bucket.place model.limits · sample)).map
          (List.zipWith Bucket.apply model.buckets) := by
      rw [← Outcome.mapM_map_eq_zipWith]
      simp only [Bucket.add_eq_map_place]
    rw [added]
    cases placed : model.buckets.mapM (Bucket.place model.limits · sample) with
    | error fault => rfl
    | ok placements =>
      have applied := on_applyInPlace (List.nil_append model.buckets).symm
        (Outcome.length_of_mapM placed)
      simp only [Procedure.on_bind, Procedure.on_attempt, Procedure.on_modify]
      rw [List.length_nil] at applied
      rw [applied]
      rfl
  · exact on_reclusterInPlace _ model

theorem removeInPlace_performs (sample : Text) :
    (removeInPlace sample : Procedure (ClusterModel α) Unit).Performs (·.remove sample) := by
  intro model
  simp only [removeInPlace, Procedure.on_bind, Procedure.on_get, remove]
  cases model.arrivals.withdraw? sample with
  | some arrivals => exact on_reclusterInPlace arrivals model
  | none => rfl

/-! ## Samples one by one -/

omit [Compiler] [Score α] in
/-- What has come of samples that were taken one by one. -/
theorem on_forM_eq_runAll {step : Text → Procedure (ClusterModel α) Unit}
    {update : ClusterModel α → Text → Except Fault (ClusterModel α)}
    (performs : ∀ sample, (step sample).Performs (update · sample)) (samples : List Text)
    (model : ClusterModel α) :
    (samples.forM step).on model =
      ((runAll update model samples).2.elim (.ok ()) .error, (runAll update model samples).1) := by
  induction samples generalizing model with
  | nil => rfl
  | cons sample samples ih =>
    have performed : (step sample).on model = Procedure.settle (update model sample) model :=
      performs sample model
    rw [List.forM, Procedure.on_bind, performed, runAll]
    cases update model sample with
    | error fault => rfl
    | ok next => exact ih next

theorem on_addAllInPlace (samples : List Text) (model : ClusterModel α) :
    (addAllInPlace samples).on model =
      ((model.addAll samples).2.elim (.ok ()) .error, (model.addAll samples).1) :=
  on_forM_eq_runAll addInPlace_performs samples model

theorem on_removeAllInPlace (samples : List Text) (model : ClusterModel α) :
    (removeAllInPlace samples).on model =
      ((model.removeAll samples).2.elim (.ok ()) .error, (model.removeAll samples).1) :=
  on_forM_eq_runAll removeInPlace_performs samples model

end ClusterModel

end MailSort
