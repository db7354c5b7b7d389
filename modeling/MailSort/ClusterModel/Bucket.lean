import MailSort.TemplateModel.Confidence

/-! # Buckets

Samples of different kinds have no template in common.  A bucket sorts samples into
clusters, each with a template model of its own.  A sample joins the cluster it is most
typical of, provided that enough of the cluster's template would be left; otherwise it
starts a cluster.

A bucket always has a cluster: without samples it has a single empty one, and the first
sample takes its place.
-/

namespace MailSort

/-- What a sample has to meet to join a cluster. -/
structure ClusterLimits (α : Type) where
  /-- The segment lengths; there is one bucket for each. -/
  segmentLengths : List Nat
  /-- The least confidence of a cluster that a sample may join. -/
  minConfidence : α
  /-- The share of the sample that has to be exceeded by what the template would keep. -/
  minEquality : α
  budget : Nat
  deriving DecidableEq, Repr

/-- The clusters for one segment length. -/
structure Bucket where
  segmentLength : SegmentLength
  clusters : List TemplateModel
  deriving DecidableEq

/-- A cluster among others, with the assessment of a sample. -/
structure Match (α : Type) where
  index : Nat
  cluster : TemplateModel
  assessment : Assessment α

namespace Match

variable {α : Type} [Score α]

def ofClusters (clusters : List TemplateModel) (sample : Text) : List (Match α) :=
  clusters.mapIdx fun index cluster => ⟨index, cluster, cluster.assess sample⟩

/-- The better of two matches.  The first one is kept if the other is not better. -/
def better (best : Option (Match α)) (next : Match α) : Option (Match α) :=
  match best with
  | some held =>
    if next.assessment.confidence ≤ held.assessment.confidence then some held else some next
  | none => some next

/-- The share of a sample that would be in literals if it were added.  It counts as whole
    for the empty sample. -/
def mergedShare [Compiler] (found : Match α) (sample : Text) : α :=
  let merged :=
    found.assessment.mergedLength.getD (found.cluster.templateWith sample).literalLength
  if sample = [] then Score.one else Score.ratio merged sample.length

def accepts [Compiler] (limits : ClusterLimits α) (sample : Text) (found : Match α) : Bool :=
  limits.minConfidence ≤ found.assessment.confidence ∧
    limits.minEquality < found.mergedShare sample

end Match

namespace Bucket

variable [Compiler] {α : Type} [Score α]

def cluster (limits : ClusterLimits α) (least : SegmentLength) (samples : List Text) :
    Except Fault TemplateModel :=
  TemplateModel.build (.ofSamples samples) least limits.budget

def empty (limits : ClusterLimits α) (least : SegmentLength) : Except Fault Bucket := do
  return ⟨least, [← cluster limits least []]⟩

def isEmpty (bucket : Bucket) : Bool :=
  match bucket.clusters with
  | [only] => only.arrivals.isEmpty
  | _ => false

/-- The cluster that a sample joins, if it joins one. -/
def home? (limits : ClusterLimits α) (bucket : Bucket) (sample : Text) : Option (Match α) :=
  ((Match.ofClusters bucket.clusters sample).foldl Match.better none).filter
    (Match.accepts limits sample)

/-- Adds a sample: to a new first cluster, to the cluster it joins, or to a new last
    cluster. -/
def add (limits : ClusterLimits α) (bucket : Bucket) (sample : Text) : Except Fault Bucket :=
  -- The cluster of a bucket without samples is only there to be replaced.
  if bucket.isEmpty then do
    return { bucket with clusters := [← cluster limits bucket.segmentLength [sample]] }
  else
    match bucket.home? limits sample with
    | some found => do
      let joined ← found.cluster.add [sample]
      return { bucket with clusters := bucket.clusters.set found.index joined }
    | none => do
      let started ← cluster limits bucket.segmentLength [sample]
      return { bucket with clusters := bucket.clusters ++ [started] }

/-- The bucket of some samples, in the order of their arrival. -/
def ofSamples (limits : ClusterLimits α) (samples : List Text) (least : Nat) :
    Except Fault Bucket := do
  let bucket ← empty limits (← SegmentLength.ofNat? least)
  samples.foldlM (add limits) bucket

/-- How typical a text is of a cluster: characters that would be in literals count in full,
    and the others with the confidence of the cluster. -/
def clusterConfidence (candidate : Text) (cluster : TemplateModel) : α :=
  if candidate = [] then Score.zero
  else
    let assessment : Assessment α := cluster.assess candidate
    match assessment.mergedLength with
    | none => Score.zero
    | some merged =>
      let covered := min merged candidate.length
      let uncovered := candidate.length - covered
      Score.clamp <|
        (Score.ofNat covered + assessment.confidence * Score.ofNat uncovered) /
          Score.ofNat candidate.length

/-- How typical a text is of the cluster that suits it best. -/
def confidence (bucket : Bucket) (candidate : Text) : α :=
  Score.highest (bucket.clusters.map (clusterConfidence candidate))

end Bucket

end MailSort
