import MailSort.ClusterModel.Bucket

/-! # Cluster models

A cluster model keeps a bucket of clusters for each of some segment lengths.  Clustering
is greedy, so the buckets are determined by the samples in the order of their arrival.  A
sample that arrives at the end is added to every bucket; if it goes back to an earlier
place, and whenever a sample is removed, all samples are clustered again.

Adding or removing one sample succeeds for all buckets or not at all.  A list of samples
is handled one by one, up to the first failure.
-/

namespace MailSort

/-- Clusters of samples for several segment lengths. -/
structure ClusterModel (α : Type) where
  limits : ClusterLimits α
  /-- One bucket for each segment length, in order. -/
  buckets : List Bucket
  arrivals : ArrivalLog
  deriving DecidableEq

namespace ClusterModel

variable [Compiler] {α : Type} [Score α]

def build (limits : ClusterLimits α) (arrivals : ArrivalLog) :
    Except Fault (ClusterModel α) := do
  let buckets ← limits.segmentLengths.mapM (Bucket.ofSamples limits arrivals.samples)
  return ⟨limits, buckets, arrivals⟩

def ofSamples (limits : ClusterLimits α) (samples : List Text) : Except Fault (ClusterModel α) :=
  build limits (.ofSamples samples)

variable (model : ClusterModel α)

def contains (sample : Text) : Bool :=
  model.arrivals.contains sample

def add (sample : Text) : Except Fault (ClusterModel α) :=
  let arrivals := model.arrivals.accept sample
  if model.arrivals.acceptsAtTail [sample] then do
    return { model with
      buckets := ← model.buckets.mapM (Bucket.add model.limits · sample)
      arrivals := arrivals }
  else build model.limits arrivals

/-- Removes the last occurrence of a sample.  A sample that does not occur changes
    nothing. -/
def remove (sample : Text) : Except Fault (ClusterModel α) :=
  match model.arrivals.withdraw? sample with
  | some arrivals => build model.limits arrivals
  | none => .ok model

/-- Updates a model for samples, one after the other, up to the first failure.  The result
    is the model before the failure, and the failure. -/
def runAll (update : ClusterModel α → Text → Except Fault (ClusterModel α))
    (model : ClusterModel α) : List Text → ClusterModel α × Option Fault
  | [] => (model, none)
  | sample :: rest =>
    match update model sample with
    | .ok model => runAll update model rest
    | .error fault => (model, some fault)

/-- Adds samples one after the other, up to the first failure. -/
def addAll (samples : List Text) : ClusterModel α × Option Fault :=
  runAll add model samples

/-- Removes samples one after the other, up to the first failure. -/
def removeAll (samples : List Text) : ClusterModel α × Option Fault :=
  runAll remove model samples

/-- How typical a text is of the bucket that suits it best. -/
def confidence (candidate : Text) : α :=
  Score.highest (model.buckets.map (Bucket.confidence · candidate))

end ClusterModel

end MailSort
