import MailSort.Fault
import MailSort.Json.Decode
import MailSort.Json.Parser

/-! # Kinds of predictors

A kind of predictor is named in any of several ways; case, hyphens, underscores and spaces
do not matter.  In a document it is a variant without a value.
-/

namespace MailSort

/-- The kinds of predictors. -/
inductive PredictorKind where
  | sliding
  | template
  | cluster
  deriving DecidableEq, Repr

namespace PredictorKind

def standard : PredictorKind := .cluster

instance : Inhabited PredictorKind := ⟨standard⟩

def all : List PredictorKind :=
  [.sliding, .template, .cluster]

def name : PredictorKind → String
  | .sliding => "CrossCorrelate"
  | .template => "RegexAndAtable"
  | .cluster => "Traat"

/-- A name without what does not matter in it. -/
def folded (text : Text) : Text :=
  (text.filter fun c => c ≠ '-' ∧ c ≠ '_' ∧ c ≠ ' ').map Char.toLower

/-- The names by which a kind is known, in folded form.  No name at all stands for the
    standard kind. -/
def aliases : PredictorKind → List String
  | .sliding => ["crosscorrelate", "xcorr"]
  | .template => ["regexandatable", "regex"]
  | .cluster => ["traat", "thresholdedregexandatable", "thresholdedregex", ""]

def parse (text : Text) : Except Fault PredictorKind :=
  match all.find? fun kind => (kind.aliases.map String.toList).contains (folded text) with
  | some kind => .ok kind
  | none => .error (.unknownPredictor text)

def toJson (kind : PredictorKind) : Json :=
  .text kind.name.toList

def render (kind : PredictorKind) : Text :=
  kind.toJson.render

def ofJson? (value : Json) : Option PredictorKind := do
  let (name, carried) ← value.variant?
  if Json.carriesNothing carried then all.find? fun kind => kind.name.toList = name else none

def parseDocument? (text : Text) : Option PredictorKind :=
  (Json.parse? text).bind ofJson?

end PredictorKind

end MailSort
