import MailSort.Predictor.Registry
import MailSort.Sliding.Histogram
import MailSort.Sliding.Overlap

/-! # Prediction by sliding

The predictor without a model keeps the headers of each mailbox as they are.  New headers
are slid along each of them, and the scores of the best overlaps are put into a histogram.
-/

namespace MailSort

/-- The headers in each mailbox. -/
structure SlidingPredictor where
  bins : Nat
  boxes : Registry (List Text)
  deriving DecidableEq

namespace SlidingPredictor

def empty (bins : Nat) : SlidingPredictor :=
  ⟨bins, .empty⟩

variable (predictor : SlidingPredictor)

/-- Registers a mailbox with its headers, in place of what it had. -/
def consider (mailbox : Text) (headers : List Text) : SlidingPredictor :=
  { predictor with boxes := predictor.boxes.insert mailbox headers }

def add (headers mailbox : Text) : Except Fault SlidingPredictor := do
  let boxes ← predictor.boxes.update mailbox fun held => .ok (held ++ [headers])
  return { predictor with boxes := boxes }

/-- Removes the first occurrence of headers from a mailbox. -/
def remove (headers mailbox : Text) : Except Fault SlidingPredictor := do
  let boxes ← predictor.boxes.update mailbox fun held => .ok (held.erase headers)
  return { predictor with boxes := boxes }

section

variable {α : Type} [Score α]

/-- The score of the best overlap of held headers with new ones. -/
def overlapScore? (candidate held : Text) : Option α :=
  (Overlap.best? held candidate).map fun overlap => overlap.score held candidate

def scores (headers : Text) : SortedMap Text α :=
  predictor.boxes.mapValues fun _ held =>
    Histogram.confidence (held.filterMap (overlapScore? headers)) predictor.bins

end

end SlidingPredictor

end MailSort
