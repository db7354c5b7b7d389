import MailSort.Decimal.Rounding
import MailSort.Settings
import MailSort.Settings.SegmentLengths

/-! # Settings from the environment

Settings are taken from variables of the environment.  A variable that cannot be read
counts as not set; for predictors and segment lengths there is a warning.  Shares are held
between 0 and 1.
-/

namespace MailSort

/-- Variables with their values. -/
abbrev Environment := List (String × Text)

namespace Environment

/-- The variables that are looked at. -/
inductive Variable where
  | predictor
  | templateLengths
  | clusterLengths
  | minConfidence
  | minEquality
  | budget
  | bins
  deriving DecidableEq, Repr

def Variable.name : Variable → String
  | .predictor => "MAILFAMILIAR_PREDICTOR"
  | .templateLengths => "MAILFAMILIAR_REGEX_SEGMENT_LENGTHS"
  | .clusterLengths => "MAILFAMILIAR_TRAAT_SEGMENT_LENGTHS"
  | .minConfidence => "MAILFAMILIAR_TRAAT_MIN_CONFIDENCE"
  | .minEquality => "MAILFAMILIAR_TRAAT_MIN_EQUALITY"
  | .budget => "MAILFAMILIAR_MATCHER_SIZE_LIMIT"
  | .bins => "MAILFAMILIAR_XCORR_BINS"

def allVariables : List Variable :=
  [.predictor, .templateLengths, .clusterLengths, .minConfidence, .minEquality, .budget, .bins]

variable (environment : Environment)

def value? (which : Variable) : Option Text :=
  environment.lookup which.name

def count (which : Variable) (standard : Nat) : Nat :=
  ((environment.value? which).bind Text.toSignedCount?).getD standard

def share (which : Variable) (standard : Float) : Float :=
  match (environment.value? which).bind Decimal.parse? with
  | some (negative, decimal) =>
    ((decimal.toFloat? negative).map Score.clamp).getD standard
  | none => standard

def lengths (which : Variable) (standard : List Nat) : List Nat :=
  match environment.value? which with
  | some list => SegmentLength.parseList list standard
  | none => standard

def lengthWarnings (which : Variable) : List Warning :=
  match environment.value? which with
  | some list => SegmentLength.listWarnings list
  | none => []

/-- The predictor that is chosen, if one is, or the warning about the choice. -/
def predictor : Except Warning PredictorKind :=
  match environment.value? .predictor with
  | some name => (PredictorKind.parse name).mapError .ignoredPredictor
  | none => .ok .standard

def settings : Settings Float where
  predictor :=
    match environment.predictor with
    | .ok kind => kind
    | .error _ => .standard
  template := {
    segmentLengths := environment.lengths .templateLengths Settings.standardTemplateLengths
    budget := environment.count .budget Template.standardBudget }
  cluster := {
    segmentLengths := environment.lengths .clusterLengths Settings.standardClusterLengths
    minConfidence := environment.share .minConfidence Settings.standardMinConfidence
    minEquality := environment.share .minEquality Settings.standardMinEquality
    budget := environment.count .budget Template.standardBudget }
  bins := max (environment.count .bins Settings.standardBins) 1

def warnings : List Warning :=
  (match environment.predictor with
    | .ok _ => []
    | .error warning => [warning]) ++
    environment.lengthWarnings .templateLengths ++ environment.lengthWarnings .clusterLengths

end Environment

end MailSort
