import MailSort.Predictor.Cluster
import MailSort.Predictor.Sliding
import MailSort.Predictor.Template
import MailSort.Settings

/-! # Predictors

A predictor learns which headers are in which mailbox, and scores new headers against all
mailboxes at once.  There are three kinds, which are used in the same way; only the
cluster predictor takes note of mistakes.
-/

namespace MailSort

/-- A predictor of any kind. -/
inductive Predictor (α : Type) where
  | sliding (predictor : SlidingPredictor)
  | template (predictor : TemplatePredictor)
  | cluster (predictor : ClusterPredictor α)
  deriving DecidableEq

namespace Predictor

variable {α : Type}

def ofKind (settings : Settings α) : PredictorKind → Predictor α
  | .sliding => .sliding (.empty settings.bins)
  | .template => .template (.empty settings.template)
  | .cluster => .cluster (.empty settings.cluster)

def ofSettings (settings : Settings α) : Predictor α :=
  ofKind settings settings.predictor

def kind : Predictor α → PredictorKind
  | .sliding _ => .sliding
  | .template _ => .template
  | .cluster _ => .cluster

def name : Predictor α → String
  | .sliding _ => "cross correlate"
  | .template _ => "regex"
  | .cluster _ => "thresholded regex"

variable [Compiler] [Score α]

/-- Registers a mailbox with its headers, in place of what it had. -/
def consider (mailbox : Text) (headers : List Text) : Predictor α → Except Fault (Predictor α)
  | .sliding predictor => .ok (.sliding (predictor.consider mailbox headers))
  | .template predictor => (predictor.consider mailbox headers).map .template
  | .cluster predictor => (predictor.consider mailbox headers).map .cluster

def add (headers mailbox : Text) : Predictor α → Except Fault (Predictor α)
  | .sliding predictor => (predictor.add headers mailbox).map .sliding
  | .template predictor => (predictor.add headers mailbox).map .template
  | .cluster predictor => (predictor.add headers mailbox).map .cluster

def remove (headers mailbox : Text) : Predictor α → Except Fault (Predictor α)
  | .sliding predictor => (predictor.remove headers mailbox).map .sliding
  | .template predictor => (predictor.remove headers mailbox).map .template
  | .cluster predictor => (predictor.remove headers mailbox).map .cluster

/-- Records that headers were put into a mailbox by mistake, if the predictor takes note of
    mistakes. -/
def addMistake? (headers mailbox : Text) : Predictor α → Option (Except Fault (Predictor α))
  | .cluster predictor => some ((predictor.addMistake headers mailbox).map .cluster)
  | _ => none

def scores (headers : Text) : Predictor α → SortedMap Text α
  | .sliding predictor => predictor.scores headers
  | .template predictor => predictor.scores headers
  | .cluster predictor => predictor.scores headers

/-- The better of two scored mailboxes.  The first one is kept if the other is not
    better. -/
def better (best : Option (Text × α)) (next : Text × α) : Option (Text × α) :=
  match best with
  | some held => if next.2 ≤ held.2 then some held else some next
  | none => some next

/-- The mailbox that scores highest, and of several the one whose name comes first.
    Mailboxes that score nothing do not count. -/
def bestOf? (scores : SortedMap Text α) : Option Text :=
  ((scores.toList.filter fun scored => Score.zero < scored.2).foldl better none).map Prod.fst

def folder? (headers : Text) (predictor : Predictor α) : Option Text :=
  bestOf? (predictor.scores headers)

end Predictor

end MailSort
