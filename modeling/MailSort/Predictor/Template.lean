import MailSort.Predictor.Registry
import MailSort.TemplateModel.Confidence

/-! # Prediction by templates

The predictor keeps a template model of each mailbox for each of some segment lengths, and
takes the mean of their confidences.  The models of a mailbox are updated together: if one
of them fails, all stay as they are.
-/

namespace MailSort

/-- What the template predictor is set up with. -/
structure TemplateSettings where
  /-- The segment lengths; there is one model for each. -/
  segmentLengths : List Nat
  budget : Nat
  deriving DecidableEq, Repr

/-- The template models of each mailbox. -/
structure TemplatePredictor where
  settings : TemplateSettings
  boxes : Registry (List TemplateModel)
  deriving DecidableEq

namespace TemplatePredictor

def empty (settings : TemplateSettings) : TemplatePredictor :=
  ⟨settings, .empty⟩

variable [Compiler] (predictor : TemplatePredictor)

/-- Registers a mailbox with models of its headers, in place of what it had. -/
def consider (mailbox : Text) (headers : List Text) : Except Fault TemplatePredictor := do
  let models ← predictor.settings.segmentLengths.mapM fun least =>
    TemplateModel.ofSamples headers least predictor.settings.budget
  return { predictor with boxes := predictor.boxes.insert mailbox models }

def add (headers mailbox : Text) : Except Fault TemplatePredictor := do
  let boxes ← predictor.boxes.update mailbox (List.mapM fun model => model.add [headers])
  return { predictor with boxes := boxes }

def remove (headers mailbox : Text) : Except Fault TemplatePredictor := do
  let boxes ← predictor.boxes.update mailbox (List.mapM fun model => model.remove [headers])
  return { predictor with boxes := boxes }

def scores {α : Type} [Score α] (headers : Text) : SortedMap Text α :=
  predictor.boxes.mapValues fun _ models =>
    if models.isEmpty then Score.zero
    else Score.mean (models.map fun model => model.confidence headers)

end TemplatePredictor

end MailSort
