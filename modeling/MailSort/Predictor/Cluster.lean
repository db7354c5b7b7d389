import MailSort.ClusterModel
import MailSort.Predictor.Registry

/-! # Prediction by clusters

The predictor keeps a cluster model of each mailbox, and a second one of the headers that
were put there by mistake.  What the mistakes resemble counts against a mailbox.

Headers that are added to a mailbox on purpose are no mistake any longer: one occurrence
of them is removed from the mistakes.  Both models change or neither does.
-/

namespace MailSort

/-- The clusters of each mailbox, and those of the mistakes made with it. -/
structure ClusterPredictor (α : Type) where
  limits : ClusterLimits α
  boxes : Registry (ClusterModel α)
  mistakes : Registry (ClusterModel α)
  deriving DecidableEq

namespace ClusterPredictor

variable {α : Type}

def empty (limits : ClusterLimits α) : ClusterPredictor α :=
  ⟨limits, .empty, .empty⟩

variable [Compiler] [Score α] (predictor : ClusterPredictor α)

/-- Registers a mailbox with clusters of its headers, in place of those it had. -/
def consider (mailbox : Text) (headers : List Text) : Except Fault (ClusterPredictor α) := do
  let model ← ClusterModel.ofSamples predictor.limits headers
  return { predictor with boxes := predictor.boxes.insert mailbox model }

/-- The mistakes after headers were filed in a mailbox on purpose. -/
def clearMistake (headers mailbox : Text) : Except Fault (Registry (ClusterModel α)) :=
  match predictor.mistakes.get? mailbox with
  | some model =>
    if model.contains headers then do
      return predictor.mistakes.insert mailbox (← model.remove headers)
    else .ok predictor.mistakes
  | none => .ok predictor.mistakes

def add (headers mailbox : Text) : Except Fault (ClusterPredictor α) := do
  -- An unknown mailbox fails before its mistakes are looked at.
  let _ ← predictor.boxes.find mailbox
  let mistakes ← predictor.clearMistake headers mailbox
  let boxes ← predictor.boxes.update mailbox fun model => model.add headers
  return { predictor with boxes := boxes, mistakes := mistakes }

def remove (headers mailbox : Text) : Except Fault (ClusterPredictor α) := do
  let boxes ← predictor.boxes.update mailbox fun model => model.remove headers
  return { predictor with boxes := boxes }

/-- Records that headers were put into a mailbox by mistake.  The mailbox need not be
    registered. -/
def addMistake (headers mailbox : Text) : Except Fault (ClusterPredictor α) := do
  let model ←
    match predictor.mistakes.get? mailbox with
    | some model => model.add headers
    | none => ClusterModel.ofSamples predictor.limits [headers]
  return { predictor with mistakes := predictor.mistakes.insert mailbox model }

/-- How much headers resemble the mistakes made with a mailbox. -/
def mistakeScore (mailbox headers : Text) : α :=
  match predictor.mistakes.get? mailbox with
  | some model => model.confidence headers
  | none => Score.zero

def scores (headers : Text) : SortedMap Text α :=
  predictor.boxes.mapValues fun mailbox model =>
    Score.clamp (model.confidence headers - predictor.mistakeScore mailbox headers)

end ClusterPredictor

end MailSort
