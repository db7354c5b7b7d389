import MailSort.ClusterModel.Bucket
import MailSort.Predictor.Kind
import MailSort.Predictor.Template
import MailSort.Template.Budget

/-! # Settings

The settings choose a predictor and set up all three of them.
-/

namespace MailSort

/-- What the predictors are set up with. -/
structure Settings (α : Type) where
  predictor : PredictorKind
  template : TemplateSettings
  cluster : ClusterLimits α
  bins : Nat
  deriving DecidableEq, Repr

namespace Settings

/-- The segment lengths of the template predictor when none are set. -/
def standardTemplateLengths : List Nat :=
  [5, 6, 7, 8, 9, 10, 11, 13, 17, 19, 23, 29, 31]

/-- The segment lengths of the cluster predictor when none are set. -/
def standardClusterLengths : List Nat :=
  [2, 4, 8]

def standardBins : Nat := 100

variable {α : Type} [Score α]

/-- The least confidence for joining a cluster when none is set: one half. -/
def standardMinConfidence : α :=
  Score.ratio 1 2

/-- The share of a sample to be exceeded when none is set: one fiftieth. -/
def standardMinEquality : α :=
  Score.ratio 1 50

def standard : Settings α where
  predictor := .standard
  template := ⟨standardTemplateLengths, Template.standardBudget⟩
  cluster := {
    segmentLengths := standardClusterLengths
    minConfidence := standardMinConfidence
    minEquality := standardMinEquality
    budget := Template.standardBudget }
  bins := standardBins

end Settings

end MailSort
